import Concordance.Json.Printer
import Concordance.Json.Token
import Concordance.Proofs.Binary64.Arithmetic
import Concordance.Proofs.Binary64.TotalOrder
import Concordance.Proofs.ShortestDecimal

/-!
# Doubles as Numbers of JSON

What JSON writes for a double is a number of JSON if the double is finite, and `null`
otherwise.

A double is spelled out in one of four ways, depending on where its digits stand: with
zeros behind them, with a point among them, with zeros before them, or with an exponent.
In each of them the digits before the point are either a single zero or do not begin with
one, there are digits behind the point if there is a point, and nothing but an exponent
follows. That is all that the reader of numbers asks for.

## Main definitions

* `IsNumber`: A text is a number of JSON.
* `AreDigits`, `AreWhole`, `IsExponent`: Its parts.

## Theorems

* `valueOf?_cases`: Doubles that have an exact value.
* `isNumber_of_parts`: A number is read from its parts.
* `isNumber_padded`, `isNumber_pointed`, `isNumber_fraction`, `isNumber_scientific`,
  `isNumber_spell`: The digits of a decimal are a number, wherever the point stands.
* `isNumber_write_iff`, `write_of_not_isFinite`: What is written for a double.
-/

namespace Concordance

namespace Binary64

theorem isFinite_iff (x : Float) : x.isFinite = true ↔ exponentField x ≠ 2047 := by
  have hfield : (@Float.Model.UnpackedFloat.unpackExponent .binary64 x.toBits.toBitVec).toNat
      = exponentField x := toNat_unpackExponent x.toBits.toBitVec
  rw [← hfield]
  change (Float.Model.UnpackedFloat.unpack .binary64 x.toBits.toBitVec).isFinite = true ↔ _
  constructor
  · intro h hones
    have hexponent :
        @Float.Model.UnpackedFloat.unpackExponent .binary64 x.toBits.toBitVec = -1#11 :=
      BitVec.eq_of_toNat_eq hones
    unfold Float.Model.UnpackedFloat.unpack at h
    dsimp only at h
    rw [if_pos hexponent] at h
    split at h <;> exact nomatch h
  · intro h
    refine isFinite_unpack fun hones => h ?_
    rw [hones]
    rfl

/-- A double has an exact value if it is finite, and then its digits and its exponent are
    bounded. -/
theorem valueOf?_cases (x : Float) : (x.isFinite = false ∧ valueOf? x = none) ∨
    (x.isFinite = true ∧ ∃ v, valueOf? x = some v ∧ v.mantissa < 2 ^ 53 ∧
      -1074 ≤ v.exponent ∧ v.exponent ≤ 971) := by
  have hexponent : exponentField x < 2 ^ 11 := Nat.mod_lt _ (by decide)
  have hfraction : fractionField x < 2 ^ 52 := Nat.mod_lt _ (by decide)
  have hfinite := isFinite_iff x
  unfold valueOf?
  -- The highest exponent is that of the infinities and of NaN, and the lowest one that of
  -- the numbers without a leading one.
  split
  · rename_i h
    exact Or.inl ⟨Bool.eq_false_iff.mpr fun hx => hfinite.mp hx h, rfl⟩
  · rename_i h
    refine Or.inr ⟨hfinite.mpr (by omega), _, rfl, ?_⟩
    dsimp only
    omega
  · rename_i hones hzero
    have hhigh : exponentField x ≠ 2047 := hones
    have hlow : exponentField x ≠ 0 := hzero
    refine Or.inr ⟨hfinite.mpr hhigh, _, rfl, ?_⟩
    dsimp only
    omega

end Binary64

namespace Json

/-- Whether a text is a number of JSON from its first character to its last. -/
def IsNumber (text : List Char) : Prop :=
  ∃ d, number? text = some (d, [])

/-! ### The parts of a number -/

/-- Whether some characters are digits, and no fewer than one. -/
def AreDigits (cs : List Char) : Prop :=
  cs ≠ [] ∧ ∀ c ∈ cs, c.isDigit = true

/-- Whether some digits may stand before the point: a single zero, or no zero in front. -/
def AreWhole (cs : List Char) : Prop :=
  AreDigits cs ∧ (cs = ['0'] ∨ cs.head? ≠ some '0')

/-- Whether a text is an exponent behind its mark, or nothing at all. -/
def IsExponent (cs : List Char) : Prop :=
  cs = [] ∨ ∃ sign digits, cs = 'e' :: (sign ++ digits) ∧ AreDigits digits ∧
    (sign = [] ∨ sign = ['+'] ∨ sign = ['-'])

/-- Digits end where something else begins. -/
theorem takeWhile_append_of_head? {cs rest : List Char} (hcs : ∀ c ∈ cs, c.isDigit = true)
    (hrest : ∀ c ∈ rest.head?, c.isDigit = false) :
    (cs ++ rest).takeWhile Char.isDigit = cs ∧ (cs ++ rest).dropWhile Char.isDigit = rest := by
  have hnone : rest.takeWhile Char.isDigit = [] ∧ rest.dropWhile Char.isDigit = rest := by
    cases rest with
    | nil => exact ⟨rfl, rfl⟩
    | cons c rest =>
        have hc := hrest c rfl
        exact ⟨List.takeWhile_cons_of_neg (ne_true_of_eq_false hc),
          List.dropWhile_cons_of_neg (ne_true_of_eq_false hc)⟩
  rw [List.takeWhile_append_of_pos hcs, List.dropWhile_append_of_pos hcs, hnone.1, hnone.2,
    List.append_nil]
  exact ⟨rfl, rfl⟩

theorem wholeDigits?_append {cs rest : List Char} (hcs : AreWhole cs)
    (hrest : ∀ c ∈ rest.head?, c.isDigit = false) :
    wholeDigits? (cs ++ rest) = some (cs, rest) := by
  obtain ⟨⟨hne, hdigits⟩, rfl | hhead⟩ := hcs
  · cases rest with
    | nil => rfl
    | cons c rest => exact if_neg (ne_true_of_eq_false (hrest c rfl))
  · obtain ⟨htake, hdrop⟩ := takeWhile_append_of_head? hdigits hrest
    unfold wholeDigits?
    split
    · rename_i heq
      cases cs with
      | nil => exact absurd rfl hne
      | cons c cs =>
          rw [List.cons_append, List.cons.injEq] at heq
          exact absurd (congrArg some heq.1) hhead
    · dsimp only
      rw [htake, hdrop, if_neg (by rwa [List.isEmpty_iff])]

theorem exponentDigits?_append {sign digits : List Char} (hdigits : AreDigits digits)
    (hsign : sign = [] ∨ sign = ['+'] ∨ sign = ['-']) :
    ∃ n, exponentDigits? (sign ++ digits) = some (n, []) := by
  obtain ⟨hne, hall⟩ := hdigits
  have hend : ∀ c ∈ ([] : List Char).head?, c.isDigit = false := nofun
  obtain ⟨htake, hdrop⟩ := takeWhile_append_of_head? hall hend
  rw [List.append_nil] at htake hdrop
  unfold exponentDigits?
  rcases hsign with rfl | rfl | rfl
  · -- No digit is taken for a sign.
    rw [List.nil_append]
    split
    rename_i heq
    split at heq
    · exact absurd (hall '-' List.mem_cons_self) (by decide)
    · exact absurd (hall '+' List.mem_cons_self) (by decide)
    · cases heq
      dsimp only
      rw [htake, hdrop, if_neg (by rwa [List.isEmpty_iff])]
      exact ⟨_, rfl⟩
  · simp [htake, hdrop, hne]
  · simp [htake, hdrop, hne]

theorem isDigit_head_tail {tail : List Char} (h : IsExponent tail) :
    ∀ c ∈ tail.head?, c.isDigit = false := by
  rcases h with rfl | ⟨sign, digits, rfl, -, -⟩
  · exact nofun
  · rintro c ⟨⟩
    decide

/-- A number is read from its parts: digits, then more digits behind a point if there is
    one, then an exponent if there is one. -/
theorem isNumber_of_parts {sign whole fraction tail : List Char}
    (hsign : sign = [] ∨ sign = ['-']) (hwhole : AreWhole whole)
    (hfraction : fraction = [] ∨ ∃ digits, fraction = '.' :: digits ∧ AreDigits digits)
    (htail : IsExponent tail) : IsNumber (sign ++ (whole ++ (fraction ++ tail))) := by
  have hhead := isDigit_head_tail htail
  have hrest : ∀ c ∈ (fraction ++ tail).head?, c.isDigit = false := by
    rcases hfraction with rfl | ⟨digits, rfl, -⟩
    · exact hhead
    · rintro c ⟨⟩
      decide
  have hread := wholeDigits?_append hwhole hrest
  -- No digit is taken for a sign.
  have hminus : ∀ cs, whole ++ (fraction ++ tail) = '-' :: cs → False := by
    intro cs h
    cases whole with
    | nil => exact hwhole.1.1 rfl
    | cons c whole =>
        obtain rfl : c = '-' := (List.cons.inj h).1
        exact absurd (hwhole.1.2 '-' List.mem_cons_self) (by decide)
  unfold IsNumber number?
  split
  rename_i negative cs heq
  have hcs : cs = whole ++ (fraction ++ tail) := by
    rcases hsign with rfl | rfl
    · rw [List.nil_append] at heq
      split at heq
      · rename_i hsigned
        exact (hminus _ hsigned).elim
      · exact (Prod.mk.inj heq).2.symm
    · exact (Prod.mk.inj heq).2.symm
  rw [hcs, hread]
  rcases hfraction with rfl | ⟨digits, rfl, hne, hdigits⟩
  · rcases htail with rfl | ⟨sign', digits', rfl, hdigits', hsign'⟩
    · simp
    · obtain ⟨e, he⟩ := exponentDigits?_append hdigits' hsign'
      simp [he]
  · have hnonempty : digits.isEmpty = false := by
      rwa [← Bool.not_eq_true, List.isEmpty_iff]
    obtain ⟨htake, hdrop⟩ := takeWhile_append_of_head? hdigits hhead
    rcases htail with rfl | ⟨sign', digits', rfl, hdigits', hsign'⟩
    · rw [List.append_nil] at htake hdrop
      simp only [List.append_nil, htake, hdrop, hnonempty, Bool.false_eq_true, ↓reduceIte,
        Option.pure_def, Option.bind_eq_bind, Option.bind_some, Option.some.injEq, Prod.mk.injEq,
        and_true, exists_eq']
    · obtain ⟨e, he⟩ := exponentDigits?_append hdigits' hsign'
      simp only [List.cons_append, htake, hdrop, hnonempty, he, Bool.false_eq_true, ↓reduceIte,
        Option.pure_def, Option.bind_eq_bind, Option.bind_some, Option.some.injEq, Prod.mk.injEq,
        and_true, exists_eq', decide_true, Bool.true_or]

/-- A number is read from digits before and behind a point. -/
theorem isNumber_of_digits {sign whole digits : List Char} (hsign : sign = [] ∨ sign = ['-'])
    (hwhole : AreWhole whole) (hdigits : AreDigits digits) :
    IsNumber (sign ++ (whole ++ '.' :: digits)) := by
  have hnumber := isNumber_of_parts hsign hwhole (Or.inr ⟨digits, rfl, hdigits⟩)
    (Or.inl rfl : IsExponent [])
  rwa [List.append_nil] at hnumber

/-! ### Doubles -/

theorem areDigits_zero : AreDigits ['0'] :=
  ⟨List.cons_ne_nil _ _, List.forall_mem_singleton.mpr rfl⟩

theorem areDigits_toDigits (n : Nat) : AreDigits (Nat.toDigits 10 n) :=
  ⟨Nat.toDigits_ne_nil, fun _ hc => Nat.isDigit_of_mem_toDigits (by decide) (by decide) hc⟩

theorem isDigit_of_mem_zeros {n : Nat} {c : Char} (h : c ∈ (Decimal.zeros n).toList) :
    c.isDigit = true := by
  rw [Decimal.zeros, String.toList_ofList] at h
  rw [List.eq_of_mem_replicate h]
  decide

theorem AreDigits.append {cs ds : List Char} (hcs : AreDigits cs)
    (hds : ∀ c ∈ ds, c.isDigit = true) : AreDigits (cs ++ ds) :=
  ⟨List.append_ne_nil_of_left_ne_nil hcs.1 ds, List.forall_mem_append.mpr ⟨hcs.2, hds⟩⟩

/-- The exponent of a number that is not written by positions alone. -/
theorem isExponent_toString (n : Int) :
    IsExponent ('e' :: ((if 0 < n then "+" else "").toList ++ (toString n).toList)) := by
  refine Or.inr ?_
  rw [Int.toString_eq_repr, Int.repr_eq_if]
  by_cases hpos : 0 < n
  · rw [if_pos hpos, if_pos hpos.le]
    exact ⟨['+'], _, by rw [Nat.toList_repr]; rfl, areDigits_toDigits _, Or.inr (Or.inl rfl)⟩
  · rw [if_neg hpos]
    by_cases hzero : 0 ≤ n
    · rw [if_pos hzero]
      exact ⟨[], _, by rw [Nat.toList_repr]; rfl, areDigits_toDigits _, Or.inl rfl⟩
    · rw [if_neg hzero]
      exact ⟨['-'], _, by rw [String.toList_append, Nat.toList_repr]; rfl, areDigits_toDigits _,
        Or.inr (Or.inr rfl)⟩

section

variable {sign digits : List Char} (hsign : sign = [] ∨ sign = ['-']) (hdigits : AreDigits digits)

include hsign hdigits

/-- Digits with zeros behind them. -/
theorem isNumber_padded {n : Nat} (h : digits = ['0'] ∧ n = 0 ∨ digits.head? ≠ some '0') :
    IsNumber (sign ++ ((digits ++ (Decimal.zeros n).toList) ++ ['.', '0'])) := by
  refine isNumber_of_digits hsign ⟨hdigits.append fun _ => isDigit_of_mem_zeros, ?_⟩ areDigits_zero
  rcases h with ⟨rfl, rfl⟩ | h
  · exact Or.inl rfl
  · rw [List.head?_append, Option.or_of_isSome (List.isSome_head?.mpr hdigits.1)]
    exact Or.inr h

/-- Digits with a point among them. -/
theorem isNumber_pointed (h : digits.head? ≠ some '0') {n : Nat} (hpos : n ≠ 0)
    (hlt : n < digits.length) : IsNumber (sign ++ (digits.take n ++ '.' :: digits.drop n)) := by
  refine isNumber_of_digits hsign
    ⟨⟨?_, fun c hc => hdigits.2 c (List.mem_of_mem_take hc)⟩, Or.inr ?_⟩
    ⟨?_, fun c hc => hdigits.2 c (List.mem_of_mem_drop hc)⟩
  · rw [Ne, List.take_eq_nil_iff, not_or]
    exact ⟨hpos, hdigits.1⟩
  · rwa [List.head?_take, if_neg hpos]
  · rw [Ne, List.drop_eq_nil_iff]
    exact Nat.not_le_of_lt hlt

/-- Digits with zeros before them. -/
theorem isNumber_fraction (n : Nat) :
    IsNumber (sign ++ (['0'] ++ '.' :: ((Decimal.zeros n).toList ++ digits))) :=
  isNumber_of_digits hsign ⟨areDigits_zero, Or.inl rfl⟩
    ⟨List.append_ne_nil_of_right_ne_nil _ hdigits.1,
      List.forall_mem_append.mpr ⟨fun _ => isDigit_of_mem_zeros, hdigits.2⟩⟩

/-- Digits with an exponent. A point stands behind the first of them if there are more. -/
theorem isNumber_scientific (h : digits.head? ≠ some '0') (n : Int) :
    IsNumber (sign ++ (digits.take 1 ++ ((if (digits.drop 1).isEmpty then "" else ".").toList ++
      digits.drop 1 ++
      'e' :: ((if 0 < n then "+" else "").toList ++ (toString n).toList)))) := by
  obtain ⟨hne, hall⟩ := hdigits
  cases digits with
  | nil => exact absurd rfl hne
  | cons d ds =>
      have hwhole : AreWhole [d] :=
        ⟨⟨List.cons_ne_nil d [], List.forall_mem_singleton.mpr (hall d List.mem_cons_self)⟩,
          Or.inr h⟩
      refine isNumber_of_parts hsign hwhole ?_ (isExponent_toString n)
      cases ds with
      | nil => exact Or.inl rfl
      | cons d' ds =>
          have hmore : ¬ (List.drop 1 (d :: d' :: ds)).isEmpty = true := Bool.false_ne_true
          rw [if_neg hmore]
          exact Or.inr ⟨d' :: ds, rfl, List.cons_ne_nil d' ds,
            fun c hc => hall c (List.mem_cons_of_mem d hc)⟩

end

/-- Digits of a decimal, as JSON writes them. -/
theorem isNumber_spell {sign : List Char} (hsign : sign = [] ∨ sign = ['-']) {c : Nat} {e : Int}
    (h : c ≠ 0 ∨ e = 0) : IsNumber (sign ++ (Decimal.jsonNumber.spell c e).toList) := by
  have hdigits := areDigits_toDigits c
  -- A zero in front is the whole number.
  have hhead : Nat.toDigits 10 c = ['0'] ∧ e = 0 ∨ (Nat.toDigits 10 c).head? ≠ some '0' := by
    by_cases hc : c = 0
    · rw [hc]
      exact Or.inl ⟨rfl, h.resolve_left (not_not.mpr hc)⟩
    · exact Or.inr (Decimal.head?_toDigits hc)
  unfold Decimal.Layout.spell
  dsimp only
  generalize Nat.toDigits 10 c = digits at hdigits hhead ⊢
  by_cases hpositional :
      Decimal.jsonNumber.positional ((digits.length : Int) - 1 + e) = true
  · rw [if_pos hpositional]
    by_cases hwhole : 0 ≤ e
    · rw [if_pos hwhole, String.toList_append, String.toList_append, String.toList_ofList]
      refine isNumber_padded hsign hdigits (hhead.imp_left fun h => ⟨h.1, ?_⟩)
      rw [h.2]
      rfl
    · rw [if_neg hwhole]
      have hhead := hhead.resolve_left fun h => hwhole h.2.ge
      by_cases hpoint : 0 ≤ (digits.length : Int) - 1 + e
      · rw [if_pos hpoint, String.toList_append, String.toList_append, String.toList_ofList,
          String.toList_ofList, String.toList_ofList, List.append_assoc, List.singleton_append]
        exact isNumber_pointed hsign hdigits hhead (by omega) (by omega)
      · rw [if_neg hpoint, String.toList_append, String.toList_append, String.toList_ofList,
          String.toList_ofList, List.append_assoc]
        exact isNumber_fraction hsign hdigits _
  · rw [if_neg hpositional]
    have hhead := hhead.resolve_left ?_
    · have hnumber := isNumber_scientific hsign hdigits hhead ((digits.length : Int) - 1 + e)
      simp only [String.toList_append, String.toList_ofList, List.append_assoc] at hnumber ⊢
      exact hnumber
    · -- A single zero is positional.
      rintro ⟨rfl, rfl⟩
      exact hpositional (by decide)

theorem isNumber_write {x : Float} (hx : x.isFinite = true) :
    IsNumber (Decimal.jsonNumber.write x).toList := by
  rcases Binary64.valueOf?_cases x with ⟨hinfinite, _⟩ | ⟨_, ⟨s, m, q⟩, hv, hm, hlow, hhigh⟩
  · exact nomatch hinfinite.symm.trans hx
  · have hsign : (if Binary64.isNegative x then "-" else "").toList = [] ∨
        (if Binary64.isNegative x then "-" else "").toList = ['-'] := by
      split
      · exact Or.inr rfl
      · exact Or.inl rfl
    dsimp only at hm hlow hhigh
    unfold Decimal.Layout.write
    -- Zero is written without a search for its digits.
    dsimp only
    rw [hv]
    cases m with
    | zero =>
        change IsNumber (_ ++ Decimal.jsonNumber.spell 0 0).toList
        rw [String.toList_append]
        exact isNumber_spell hsign (Or.inr rfl)
    | succ m =>
        have hne : m + 1 ≠ 0 := m.succ_ne_zero
        have hlog : (m + 1).log2 < 53 := (Nat.log2_lt hne).mpr hm
        change IsNumber (_ ++ Decimal.jsonNumber.spell _ _).toList
        rw [String.toList_append]
        exact isNumber_spell hsign (Or.inl
          (Decimal.coefficient_shortest_ne_zero hne hlow (by omega) _))

theorem write_of_not_isFinite {x : Float} (hx : x.isFinite = false) :
    Decimal.jsonNumber.write x = "null" := by
  rcases Binary64.valueOf?_cases x with ⟨_, hv⟩ | ⟨hfinite, _⟩
  · unfold Decimal.Layout.write
    rw [hv]
    exact ite_self _
  · exact nomatch hx.symm.trans hfinite

theorem not_isNumber_null : ¬ IsNumber "null".toList :=
  fun ⟨_, h⟩ => nomatch h

/-- What is written for a double is a number if the double is finite. -/
theorem isNumber_write_iff (x : Float) :
    IsNumber (Decimal.jsonNumber.write x).toList ↔ x.isFinite = true := by
  refine ⟨fun h => ?_, isNumber_write⟩
  cases hx : x.isFinite with
  | true => rfl
  | false =>
      rw [write_of_not_isFinite hx] at h
      exact absurd h not_isNumber_null

end Json

end Concordance
