import Concordance.Compare.Numbers
import Concordance.Text.Utf8
import Mathlib.Data.List.TakeWhile

/-!
# Which Texts Are Lists of Numbers

The texts that numbers are read from, and the numbers each of them holds.

`IsNumberList` says what such a text looks like without cutting it up: numbers one after
the other, separators between any two of them and wherever else one likes, and one pair of
brackets around all of it or none. The reader works the other way round. It trims, looks
for the brackets, cuts at every separator, throws the empty pieces away and reads the
others. That it accepts these texts and no others rests on what a number is made of: its
text is not empty and holds neither separators nor brackets, so no piece can be taken for
part of another, and a bracket that is not one of the outer pair ends up in a piece that
is no number.

The brackets are cut off by their places in bytes. Each takes one byte, so the cut is
between characters and what remains of the shortest bracketed text is empty.

## Main definitions

* `Decimal.isNumeralChar`: A character that a number may be made of.
* `Spells`: A text holds some numbers between separators.
* `IsNumberList`: A text holds some numbers, perhaps in brackets.

## Theorems

* `Decimal.isNumeralChar_of_read?`: What a number is made of.
* `words_token_append`: The first piece of a text.
* `spells_iff`: The numbers between separators are those that the pieces denote.
* `unbracketed?_eq_some_iff`: The text between brackets.
* `numbers?_eq_some_iff`: Numbers are read from the texts that hold them.
* `numbers?_spec`: All that is read, all that is refused, and where the brackets are cut.
-/

namespace Concordance

namespace Decimal

/-- Whether a number may be made of a character: digits, letters, signs and the point. -/
def isNumeralChar (c : Char) : Bool :=
  c.isAlphanum || c = '+' || c = '-' || c = '.'

theorem isNumeralChar_of_isDigit {c : Char} (h : c.isDigit = true) : isNumeralChar c = true := by
  simp [isNumeralChar, Char.isAlphanum, h]

theorem isNumeralChar_of_toLower {c : Char} (h : c.toLower.isAlpha = true) :
    isNumeralChar c = true := by
  have halpha : c.isAlpha = true := by
    unfold Char.toLower at h
    split at h
    · rename_i hupper
      exact Bool.or_eq_true_iff.mpr (Or.inl (decide_eq_true hupper))
    · exact h
  simp [isNumeralChar, Char.isAlphanum, halpha]

theorem isDigit_of_allDigits? {cs : List Char} {n : Nat} (h : allDigits? cs = some n) :
    ∀ c ∈ cs, c.isDigit = true := by
  unfold allDigits? at h
  split at h
  · exact nomatch h
  · rename_i hdigits
    rw [Bool.or_eq_true, not_or, Bool.not_eq_true', Bool.not_eq_false] at hdigits
    exact List.all_eq_true.mp hdigits.2

theorem isNumeralChar_of_exponent? {cs : List Char} {e : Int} (h : exponent? cs = some e) :
    ∀ c ∈ cs, isNumeralChar c = true := by
  have hdigits {ds : List Char} {n : Nat} (hds : allDigits? ds = some n) :
      ∀ c ∈ ds, isNumeralChar c = true :=
    fun c hc => isNumeralChar_of_isDigit (isDigit_of_allDigits? hds c hc)
  unfold exponent? at h
  split at h
  · exact nofun
  · rename_i mark rest
    obtain ⟨hmark, h⟩ := Option.ite_none_right_eq_some.mp h
    have hmark : isNumeralChar mark = true := by
      rcases Bool.or_eq_true_iff.mp hmark with hmark | hmark <;>
        exact of_decide_eq_true hmark ▸ rfl
    rw [List.forall_mem_cons]
    refine ⟨hmark, ?_⟩
    -- Behind the mark stands a minus sign, a plus sign or a digit.
    split at h <;> obtain ⟨n, hn, -⟩ := Option.map_eq_some_iff.mp h <;>
      obtain ⟨m, hm, -⟩ := Option.bind_eq_some_iff.mp hn
    · exact List.forall_mem_cons.mpr ⟨rfl, hdigits hm⟩
    · exact List.forall_mem_cons.mpr ⟨rfl, hdigits hm⟩
    · exact hdigits hm

theorem isNumeralChar_of_numeral? {cs : List Char} {n : Numeral} (h : numeral? cs = some n) :
    cs ≠ [] ∧ ∀ c ∈ cs, isNumeralChar c = true := by
  have hdigits (ds : List Char) : ∀ c ∈ ds.takeWhile Char.isDigit, isNumeralChar c = true :=
    fun c hc => isNumeralChar_of_isDigit (List.mem_takeWhile_imp hc)
  refine ⟨?_, ?_⟩
  · rintro rfl
    exact nomatch h
  · -- The text is its digits, a point with more digits if there is one, and the exponent.
    rw [← List.takeWhile_append_dropWhile (p := Char.isDigit) (l := cs), List.forall_mem_append]
    refine ⟨hdigits cs, ?_⟩
    unfold numeral? at h
    dsimp only at h
    generalize cs.dropWhile Char.isDigit = rest at h
    split at h
    · rename_i after
      obtain ⟨e, he, -⟩ := Option.map_eq_some_iff.mp (Option.ite_none_left_eq_some.mp h).2
      rw [List.forall_mem_cons, ← List.takeWhile_append_dropWhile (p := Char.isDigit) (l := after),
        List.forall_mem_append]
      exact ⟨rfl, hdigits after, isNumeralChar_of_exponent? he⟩
    · obtain ⟨e, he, -⟩ := Option.map_eq_some_iff.mp (Option.ite_none_left_eq_some.mp h).2
      exact isNumeralChar_of_exponent? he

theorem isNumeralChar_of_magnitude? {cs : List Char} {x : Float} (h : magnitude? cs = some x) :
    cs ≠ [] ∧ ∀ c ∈ cs, isNumeralChar c = true := by
  have hword {word : List Char} (hcs : cs.map Char.toLower = word) (hne : word ≠ [])
      (halpha : ∀ c ∈ word, c.isAlpha = true) : cs ≠ [] ∧ ∀ c ∈ cs, isNumeralChar c = true := by
    subst hcs
    rw [List.forall_mem_map] at halpha
    exact ⟨mt List.map_eq_nil_iff.mpr hne, fun c hc => isNumeralChar_of_toLower (halpha c hc)⟩
  unfold magnitude? at h
  dsimp only at h
  split at h
  · rename_i hinfinity
    rcases Bool.or_eq_true_iff.mp hinfinity with heq | heq
    · exact hword (of_decide_eq_true heq) (by decide) (List.all_eq_true.mp (by decide))
    · exact hword (of_decide_eq_true heq) (by decide) (List.all_eq_true.mp (by decide))
  · split at h
    · rename_i hnan
      exact hword hnan (by decide) (List.all_eq_true.mp (by decide))
    · obtain ⟨n, hn, -⟩ := Option.map_eq_some_iff.mp h
      exact isNumeralChar_of_numeral? hn

/-- A number is made of at least one character, and of digits, letters, signs and points
    only. -/
theorem isNumeralChar_of_read? {cs : List Char} {x : Float} (h : read? cs = some x) :
    cs ≠ [] ∧ ∀ c ∈ cs, isNumeralChar c = true := by
  unfold read? at h
  split at h
  · obtain ⟨y, hy, -⟩ := Option.map_eq_some_iff.mp h
    exact ⟨List.cons_ne_nil _ _,
      List.forall_mem_cons.mpr ⟨rfl, (isNumeralChar_of_magnitude? hy).2⟩⟩
  · exact ⟨List.cons_ne_nil _ _,
      List.forall_mem_cons.mpr ⟨rfl, (isNumeralChar_of_magnitude? h).2⟩⟩
  · exact isNumeralChar_of_magnitude? h

end Decimal

/-- Separators and brackets are not what numbers are made of. -/
theorem isNumeralChar_eq_false {c : Char} (h : isSeparator c = true ∨ c = '[' ∨ c = ']') :
    Decimal.isNumeralChar c = false := by
  rcases h with h | rfl | rfl
  · rw [← Bool.not_eq_true]
    intro hnumeral
    simp only [isSeparator, Text.isBlank, Bool.or_eq_true, Bool.and_eq_true, decide_eq_true_eq,
      beq_iff_eq] at h
    delta Decimal.isNumeralChar Char.isAlphanum Char.isAlpha Char.isUpper Char.isLower
      Char.isDigit at hnumeral
    simp only [Bool.or_eq_true, Bool.and_eq_true, decide_eq_true_eq, ge_iff_le,
      UInt32.le_iff_toNat_le] at hnumeral
    change (((((65 ≤ c.toNat ∧ c.toNat ≤ 90) ∨ (97 ≤ c.toNat ∧ c.toNat ≤ 122)) ∨
      (48 ≤ c.toNat ∧ c.toNat ≤ 57)) ∨ c = '+') ∨ c = '-') ∨ c = '.' at hnumeral
    -- Between the blanks below the digits and those above the letters there is only the comma.
    have hcode : c.toNat < 48 ∨ 122 < c.toNat := by
      rcases h with rfl | h
      · exact Or.inl (by decide)
      · omega
    rcases hnumeral with ((hrange | rfl) | rfl) | rfl
    · omega
    all_goals exact absurd h (by decide)
  · rfl
  · rfl

/-! ### Pieces -/

theorem words_of_separators {s : List Char} (h : ∀ c ∈ s, isSeparator c = true) :
    words s = [] := by
  induction s with
  | nil => rfl
  | cons c s ih =>
      rw [List.forall_mem_cons] at h
      rw [words_cons_separator h.1, ih h.2]

theorem words_separators_append {s : List Char} (h : ∀ c ∈ s, isSeparator c = true)
    (cs : List Char) : words (s ++ cs) = words cs := by
  induction s with
  | nil => rfl
  | cons c s ih =>
      rw [List.forall_mem_cons] at h
      rw [List.cons_append, words_cons_separator h.1, ih h.2]

/-- Characters that stand together are one piece. -/
theorem words_token {token : List Char} (hne : token ≠ [])
    (h : ∀ c ∈ token, isSeparator c = false) : words token = [token] := by
  induction token with
  | nil => exact absurd rfl hne
  | cons c token ih =>
      rw [List.forall_mem_cons] at h
      cases token with
      | nil => exact if_neg (ne_true_of_eq_false h.1)
      | cons d token =>
          rw [words, if_neg (ne_true_of_eq_false h.1),
            if_neg (ne_true_of_eq_false (h.2 d List.mem_cons_self)), ih (List.cons_ne_nil d token) h.2]
          rfl

/-- The first piece of a text ends at a separator, or with the text. -/
theorem words_token_append {token rest : List Char} (hne : token ≠ [])
    (h : ∀ c ∈ token, isSeparator c = false) (hrest : ∀ c ∈ rest.head?, isSeparator c = true) :
    words (token ++ rest) = token :: words rest := by
  cases rest with
  | nil => rw [List.append_nil, words_token hne h]; rfl
  | cons c rest =>
      have hc := hrest c rfl
      rw [words_append hc, words_token hne h, words_cons_separator hc]
      rfl

/-! ### Numbers between separators -/

/-- Whether a text holds some numbers in this order: each behind any separators, and ending
    at a separator or with the text, and any separators behind the last. -/
inductive Spells : List Char → List Float → Prop
  | blank {s : List Char} (hs : ∀ c ∈ s, isSeparator c = true) : Spells s []
  | number {s token rest : List Char} {x : Float} {xs : List Float}
      (hs : ∀ c ∈ s, isSeparator c = true) (hx : Decimal.read? token = some x)
      (hrest : ∀ c ∈ rest.head?, isSeparator c = true) (h : Spells rest xs) :
      Spells (s ++ token ++ rest) (x :: xs)

/-- Whether a text holds some numbers, between brackets that enclose all of it or, if there
    are any, without brackets. -/
def IsNumberList (text : List Char) (xs : List Float) : Prop :=
  (Spells text xs ∧ xs ≠ []) ∨ ∃ body, text = '[' :: (body ++ [']']) ∧ Spells body xs

theorem not_isSeparator_of_read? {token : List Char} {x : Float}
    (h : Decimal.read? token = some x) : ∀ c ∈ token, isSeparator c = false := by
  intro c hc
  have hnumeral := (Decimal.isNumeralChar_of_read? h).2 c hc
  rw [← Bool.not_eq_true]
  intro hseparator
  rw [isNumeralChar_eq_false (Or.inl hseparator)] at hnumeral
  exact nomatch hnumeral

theorem mapM_words_of_spells {cs : List Char} {xs : List Float} (h : Spells cs xs) :
    (words cs).mapM Decimal.read? = some xs := by
  induction h with
  | blank hs => rw [words_of_separators hs]; rfl
  | number hs hx hrest _ ih =>
      rw [List.append_assoc, words_separators_append hs,
        words_token_append (Decimal.isNumeralChar_of_read? hx).1 (not_isSeparator_of_read? hx) hrest,
        List.mapM_cons, hx, ih]
      rfl

/-- A text is separators, or its first piece has none but separators in front of it. -/
theorem words_cases (cs : List Char) :
    ((∀ c ∈ cs, isSeparator c = true) ∧ words cs = []) ∨
      ∃ s token rest, cs = s ++ token ++ rest ∧ rest.length < cs.length ∧
        (∀ c ∈ s, isSeparator c = true) ∧ (∀ c ∈ rest.head?, isSeparator c = true) ∧
        words cs = token :: words rest := by
  have hcs := List.takeWhile_append_dropWhile (p := isSeparator) (l := cs)
  have hs : ∀ c ∈ cs.takeWhile isSeparator, isSeparator c = true :=
    fun c hc => List.mem_takeWhile_imp hc
  have hfirst := List.head?_dropWhile_not isSeparator cs
  cases hbody : cs.dropWhile isSeparator with
  | nil =>
      rw [hbody, List.append_nil] at hcs
      rw [hcs] at hs
      exact Or.inl ⟨hs, words_of_separators hs⟩
  | cons d ds =>
      rw [hbody] at hcs hfirst
      dsimp only [List.head?_cons] at hfirst
      -- The piece goes on to the next separator.
      have hds := List.takeWhile_append_dropWhile (p := fun c => !isSeparator c) (l := ds)
      have htoken : ∀ c ∈ d :: ds.takeWhile fun c => !isSeparator c, isSeparator c = false := by
        refine List.forall_mem_cons.mpr ⟨hfirst, fun c hc => ?_⟩
        have hnot := List.mem_takeWhile_imp hc
        rwa [Bool.not_eq_true'] at hnot
      have hrest : ∀ c ∈ (ds.dropWhile fun c => !isSeparator c).head?, isSeparator c = true := by
        intro c hc
        have hnot := List.head?_dropWhile_not (fun c => !isSeparator c) ds
        rw [Option.mem_def.mp hc] at hnot
        simpa only [Bool.not_eq_false'] using hnot
      have heq : cs = cs.takeWhile isSeparator ++ (d :: ds.takeWhile fun c => !isSeparator c) ++
          ds.dropWhile fun c => !isSeparator c := by
        rw [List.append_assoc, List.cons_append, hds, hcs]
      refine Or.inr ⟨_, _, _, heq, ?_, hs, hrest, ?_⟩
      · have hlength := congrArg List.length heq
        simp only [List.length_append, List.length_cons] at hlength
        omega
      · refine (congrArg words heq).trans ?_
        rw [List.append_assoc, words_separators_append hs,
          words_token_append (List.cons_ne_nil d _) htoken hrest]

theorem spells_of_mapM_words {cs : List Char} {xs : List Float}
    (h : (words cs).mapM Decimal.read? = some xs) : Spells cs xs := by
  rcases words_cases cs with ⟨hs, hwords⟩ | ⟨s, token, rest, heq, hlt, hs, hrest, hwords⟩
  · rw [hwords] at h
    cases h
    exact .blank hs
  · rw [hwords, List.mapM_cons] at h
    obtain ⟨x, hx, h⟩ := Option.bind_eq_some_iff.mp h
    obtain ⟨xs', hxs, h⟩ := Option.bind_eq_some_iff.mp h
    cases h
    rw [heq]
    exact .number hs hx hrest (spells_of_mapM_words hxs)
  termination_by cs.length

/-- The numbers between separators are those that the pieces of the text denote. -/
theorem spells_iff {cs : List Char} {xs : List Float} :
    Spells cs xs ↔ (words cs).mapM Decimal.read? = some xs :=
  ⟨mapM_words_of_spells, spells_of_mapM_words⟩

/-- Between separators there are no brackets. -/
theorem Spells.ne_bracket {cs : List Char} {xs : List Float} (h : Spells cs xs) :
    ∀ c ∈ cs, c ≠ '[' ∧ c ≠ ']' := by
  have hseparators {s : List Char} (hs : ∀ c ∈ s, isSeparator c = true) :
      ∀ c ∈ s, c ≠ '[' ∧ c ≠ ']' :=
    fun c hc => ⟨fun heq => (by decide : isSeparator '[' ≠ true) (heq ▸ hs c hc),
      fun heq => (by decide : isSeparator ']' ≠ true) (heq ▸ hs c hc)⟩
  induction h with
  | blank hs => exact hseparators hs
  | number hs hx _ _ ih =>
      rw [List.forall_mem_append, List.forall_mem_append]
      refine ⟨⟨hseparators hs, fun c hc => ?_⟩, ih⟩
      have hnumeral := (Decimal.isNumeralChar_of_read? hx).2 c hc
      exact ⟨fun heq => (by decide : Decimal.isNumeralChar '[' ≠ true) (heq ▸ hnumeral),
        fun heq => (by decide : Decimal.isNumeralChar ']' ≠ true) (heq ▸ hnumeral)⟩

/-! ### Brackets -/

theorem unbracketed?_eq_some_iff {cs body : List Char} :
    unbracketed? cs = some body ↔ cs = '[' :: (body ++ [']']) := by
  unfold unbracketed?
  split
  · rename_i cs
    rw [Option.ite_none_right_eq_some, Option.some.injEq, List.cons.injEq, and_iff_right rfl]
    constructor
    · rintro ⟨hlast, rfl⟩
      obtain ⟨body, rfl⟩ := List.getLast?_eq_some_iff.mp hlast
      rw [List.dropLast_concat]
    · rintro rfl
      exact ⟨List.getLast?_concat, List.dropLast_concat⟩
  · rename_i hhead
    refine iff_of_false nofun fun h => ?_
    exact hhead _ h

/-- Where a text begins and ends with a bracket, cutting both off by their bytes leaves the
    text between them, and both cuts are between characters. -/
theorem unbracketed?_of_brackets {text : List Char} (hfirst : text.head? = some '[')
    (hlast : text.getLast? = some ']') :
    1 ≤ Text.byteLength text - 1 ∧ Text.isBoundary text 1 = true ∧
      Text.isBoundary text (Text.byteLength text - 1) = true ∧
      unbracketed? text = some (Text.takeBytes (text.drop 1) (Text.byteLength text - 2)) := by
  -- A single bracket cannot be both, so there are two of them.
  obtain ⟨body, rfl⟩ : ∃ body, text = ['['] ++ (body ++ [']']) := by
    obtain ⟨front, rfl⟩ := List.getLast?_eq_some_iff.mp hlast
    cases front with
    | nil => exact absurd hfirst (by decide)
    | cons c body =>
        cases hfirst
        exact ⟨body, rfl⟩
  have hlength : Text.byteLength (['['] ++ (body ++ [']'])) = Text.byteLength body + 2 := by
    rw [Text.byteLength_append, Text.byteLength_append]
    change 1 + (Text.byteLength body + 1) = _
    omega
  have hfront : Text.byteLength (['['] ++ body) = Text.byteLength body + 1 := by
    rw [Text.byteLength_append]
    exact Nat.add_comm 1 _
  have hbefore := Text.isBoundary_append (['['] ++ body) [']']
  rw [hfront, List.append_assoc] at hbefore
  rw [hlength]
  refine ⟨Nat.le_add_left 1 _, Text.isBoundary_append ['['] _, hbefore, ?_⟩
  exact (unbracketed?_eq_some_iff.mpr rfl).trans
    (congrArg some (Text.takeBytes_append body [']']).symm)

/-! ### The reader -/

theorem Spells.ne_nil_iff {cs : List Char} {xs : List Float} (h : Spells cs xs) :
    xs ≠ [] ↔ words cs ≠ [] := by
  cases h with
  | blank hs => exact iff_of_false (fun hne => hne rfl) fun hne => hne (words_of_separators hs)
  | number hs hx hrest _ =>
      rw [List.append_assoc, words_separators_append hs,
        words_token_append (Decimal.isNumeralChar_of_read? hx).1 (not_isSeparator_of_read? hx) hrest]
      exact iff_of_true (List.cons_ne_nil _ _) (List.cons_ne_nil _ _)

/-- The reader accepts the texts that hold numbers, once they are trimmed. -/
theorem numbersOfList?_eq_some_iff {output : List Char} {xs : List Float} :
    numbersOfList? output = some xs ↔ IsNumberList (Text.trimList output) xs := by
  unfold numbersOfList?
  dsimp only
  generalize Text.trimList output = text
  cases hbody : unbracketed? text with
  | some body =>
      dsimp only
      rw [← spells_iff]
      have htext := unbracketed?_eq_some_iff.mp hbody
      constructor
      · exact fun h => Or.inr ⟨body, htext, h⟩
      · rintro (⟨h, -⟩ | ⟨body', htext', h⟩)
        · have hfirst : '[' ∈ text := htext ▸ List.mem_cons_self
          exact absurd rfl (h.ne_bracket '[' hfirst).1
        · have heq := hbody.symm.trans (unbracketed?_eq_some_iff.mpr htext')
          exact Option.some.inj heq ▸ h
  | none =>
      dsimp only
      rw [Option.ite_none_left_eq_some, ← spells_iff, List.isEmpty_iff]
      constructor
      · exact fun ⟨hne, h⟩ => Or.inl ⟨h, h.ne_nil_iff.mpr hne⟩
      · rintro (⟨h, hne⟩ | ⟨body, htext, -⟩)
        · exact ⟨h.ne_nil_iff.mp hne, h⟩
        · exact nomatch hbody.symm.trans (unbracketed?_eq_some_iff.mpr htext)

theorem numbers?_eq_some_iff {output : String} {xs : List Float} :
    numbers? output = some xs ↔ IsNumberList (Text.trimList output.toList) xs :=
  numbersOfList?_eq_some_iff

/-- Some numbers are read exactly from the texts that hold them, with or without brackets,
    and no numbers exactly from brackets with nothing but separators between them. All other
    texts are refused, among them those with any other brackets. The brackets are cut off
    between characters. -/
theorem numbers?_spec (output : String) :
    let text := Text.trimList output.toList
    (∀ xs, xs ≠ [] → (numbers? output = some xs ↔
      Spells text xs ∨ ∃ body, text = '[' :: (body ++ [']']) ∧ Spells body xs)) ∧
    (numbers? output = some [] ↔
      ∃ body, text = '[' :: (body ++ [']']) ∧ ∀ c ∈ body, isSeparator c = true) ∧
    (numbers? output = none ↔ ∀ xs, ¬ IsNumberList text xs) ∧
    (numbers? output ≠ none → (∀ c ∈ text, c ≠ '[' ∧ c ≠ ']') ∨
      ∃ body, text = '[' :: (body ++ [']']) ∧ ∀ c ∈ body, c ≠ '[' ∧ c ≠ ']') ∧
    (text.head? = some '[' → text.getLast? = some ']' →
      1 ≤ Text.byteLength text - 1 ∧ Text.isBoundary text 1 = true ∧
        Text.isBoundary text (Text.byteLength text - 1) = true ∧
        unbracketed? text = some (Text.takeBytes (text.drop 1) (Text.byteLength text - 2))) := by
  intro text
  refine ⟨fun xs hne => ?_, ?_, ?_, fun hsome => ?_, unbracketed?_of_brackets⟩
  · rw [numbers?_eq_some_iff]
    exact or_congr_left (and_iff_left hne)
  · rw [numbers?_eq_some_iff]
    constructor
    · rintro (⟨-, hne⟩ | ⟨body, htext, h⟩)
      · exact absurd rfl hne
      · cases h with
        | blank hs => exact ⟨body, htext, hs⟩
    · exact fun ⟨body, htext, hs⟩ => Or.inr ⟨body, htext, .blank hs⟩
  · rw [Option.eq_none_iff_forall_ne_some]
    exact forall_congr' fun xs => not_congr numbers?_eq_some_iff
  · obtain ⟨xs, hxs⟩ := Option.ne_none_iff_exists'.mp hsome
    rcases numbers?_eq_some_iff.mp hxs with ⟨h, -⟩ | ⟨body, htext, h⟩
    · exact Or.inl h.ne_bracket
    · exact Or.inr ⟨body, htext, h.ne_bracket⟩

example : numbers? " [1, 2.5] " = some [1, 2.5] := by decide +kernel

end Concordance
