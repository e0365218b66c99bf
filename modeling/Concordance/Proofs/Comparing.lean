import Concordance.Compare.Comparator

/-!
# What a Record Says

What the record of one case tells of the two outcomes that it was made from.

`compare` looks at the statuses, then at the extracted texts, then at the
numbers in them, and leaves at the first fault. `compare_cases`,
`compareTexts_cases` and `compareNumbers_cases` list the ways out of each part,
and whatever is said of records goes through them. The order of the looks
matters: the output of a reference is looked at only after the status of the
candidate, and the numbers in it only after the candidate's text was extracted.
A reference whose output is of no use is therefore not always exposed.

## Main definitions

* `Outcome.Agrees`: Outcomes that differ only in the time that the calls took.
* `Comparator.CanRead`: What is compared can be read off an output.
* `Comparator.Exposes`: A record shows that the reference is of no use.

## Theorems

* `compare_cases`, `compareTexts_cases`, `compareNumbers_cases`: The ways out.
* `compare_forms`: The forms that a record may take.
* `compare_index`, `compare_congr`: What a record is about, and what it
  depends on.
* `compare_blames_iff`: When a record is held against the reference.
* `compare_cancelled_iff`: When a record says that a call was cut short.
* `Exposes.of_unusable`: Only a reference of no use is exposed.
-/

namespace Concordance

/-- Whether two outcomes differ in nothing but the time that the calls took. -/
structure Outcome.Agrees (o o' : Outcome) : Prop where
  index_eq : o.index = o'.index
  status_eq : o.status = o'.status
  stdout_eq : o.stdout = o'.stdout
  stderr_eq : o.stderr = o'.stderr

theorem Outcome.Agrees.refl (o : Outcome) : o.Agrees o :=
  ⟨rfl, rfl, rfl, rfl⟩

namespace Comparator

/-- Whether what is compared can be read off an output: the extractor accepts
    it, and there are numbers where there should be. -/
def CanRead (c : Comparator) (output : String) : Prop :=
  ∃ text, c.extractor.extract? output = some text ∧
    (c.kind.isNumeric = true → ∃ xs, numbers? text = some xs)

/-- Whether the record of a case shows that the reference is of no use. An output
    that cannot be read is not noticed if the candidate has failed, and numbers
    that cannot be read are not noticed if the extractor rejects the output of
    the candidate. -/
def Exposes (c : Comparator) (r k : Outcome) : Prop :=
  r.status ≠ .ok ∨
    (k.status = .ok ∧ (c.extractor.extract? r.stdout = none ∨
      (c.extractor.extract? k.stdout ≠ none ∧ ¬ c.CanRead r.stdout)))

section

variable (c : Comparator) (r k : Outcome)

/-- The ways out of a comparison, in the order of the looks. -/
theorem compare_cases :
    (r.status ≠ .ok ∧
        c.compare r k = failure r.index (.referenceFailed r.status) r.stderr k.stdout) ∨
      (r.status = .ok ∧ ∃ d, Discrepancy.ofCandidate? k.status = some d ∧
        c.compare r k = failure r.index d r.stdout k.stderr) ∨
      (r.status = .ok ∧ k.status = .ok ∧ c.extractor.extract? r.stdout = none ∧
        c.compare r k = failure r.index .referenceUnreadable r.stdout k.stdout) ∨
      (r.status = .ok ∧ k.status = .ok ∧ ∃ rt, c.extractor.extract? r.stdout = some rt ∧
        c.extractor.extract? k.stdout = none ∧
        c.compare r k = failure r.index .candidateUnreadable r.stdout k.stdout) ∨
      (r.status = .ok ∧ k.status = .ok ∧ ∃ rt kt, c.extractor.extract? r.stdout = some rt ∧
        c.extractor.extract? k.stdout = some kt ∧ c.compare r k = c.compareTexts r k rt kt) := by
  unfold compare
  by_cases hr : r.status = .ok
  · rw [if_neg (Decidable.not_not.mpr hr)]
    refine Or.inr ?_
    cases hk : Discrepancy.ofCandidate? k.status with
    | some d => exact Or.inl ⟨hr, d, rfl, rfl⟩
    | none =>
        -- Every other status is a discrepancy of its own.
        have hok : k.status = .ok := by
          cases hs : k.status with
          | ok => rfl
          | _ => rw [hs] at hk; exact nomatch hk
        refine Or.inr ?_
        cases hrt : c.extractor.extract? r.stdout with
        | none => exact Or.inl ⟨hr, hok, rfl, rfl⟩
        | some rt =>
            cases hkt : c.extractor.extract? k.stdout with
            | none => exact Or.inr (Or.inl ⟨hr, hok, rt, rfl, rfl, rfl⟩)
            | some kt => exact Or.inr (Or.inr ⟨hr, hok, rt, kt, rfl, rfl, rfl⟩)
  · rw [if_pos hr]
    exact Or.inl ⟨hr, rfl⟩

/-- Texts are compared as numbers, or they are equal or not. -/
theorem compareTexts_cases (rt kt : String) :
    (c.kind.isNumeric = true ∧ c.compareTexts r k rt kt = c.compareNumbers r k rt kt) ∨
      (c.kind.isNumeric = false ∧ rt = kt ∧ c.compareTexts r k rt kt = .agreement r.index) ∨
      (c.kind.isNumeric = false ∧ rt ≠ kt ∧ ∃ e, c.compareTexts r k rt kt
        = { Comparison.failure r.index .different with excerpts := e }) := by
  unfold compareTexts
  by_cases h : rt = kt
  · cases c.kind with
    | relative | absolute => exact Or.inl ⟨rfl, rfl⟩
    | _ => exact Or.inr (Or.inl ⟨rfl, h, by dsimp only; rw [if_pos h]⟩)
  · cases c.kind with
    | relative | absolute => exact Or.inl ⟨rfl, rfl⟩
    | _ => exact Or.inr (Or.inr ⟨rfl, h, _, by dsimp only [failure]; rw [if_neg h]⟩)

/-- The ways out of a comparison of numbers, in the order of the looks. -/
theorem compareNumbers_cases (rt kt : String) :
    (numbers? rt = none ∧ c.compareNumbers r k rt kt
        = failure r.index .referenceUnreadable r.stdout k.stdout) ∨
      (∃ rs, numbers? rt = some rs ∧ numbers? kt = none ∧ c.compareNumbers r k rt kt
        = failure r.index .candidateUnreadable r.stdout k.stdout) ∨
      (∃ rs ks, numbers? rt = some rs ∧ numbers? kt = some ks ∧ rs.length ≠ ks.length ∧
        c.compareNumbers r k rt kt = failure r.index (.lengths rs.length ks.length) rt kt) ∨
      (∃ rs ks, numbers? rt = some rs ∧ numbers? kt = some ks ∧ rs.length = ks.length ∧
        c.compareNumbers r k rt kt = c.compareValues r.index rt kt rs ks) := by
  unfold compareNumbers
  cases hrs : numbers? rt with
  | none => exact Or.inl ⟨rfl, rfl⟩
  | some rs =>
      refine Or.inr ?_
      cases hks : numbers? kt with
      | none => exact Or.inl ⟨rs, rfl, rfl, rfl⟩
      | some ks =>
          refine Or.inr ?_
          by_cases h : rs.length = ks.length
          · exact Or.inr ⟨rs, ks, rfl, rfl, h, by dsimp only; rw [if_neg (Decidable.not_not.mpr h)]⟩
          · exact Or.inl ⟨rs, ks, rfl, rfl, h, by dsimp only; rw [if_pos h]⟩

theorem compareValues_index (index : Nat) (rt kt : String) (rs ks : List Float) :
    (c.compareValues index rt kt rs ks).index = index := by
  unfold compareValues
  cases Deviation.ofLists? rs ks with
  | none => rfl
  | some d => rfl

/-- Numbers that do not match are out of tolerance. -/
theorem compareValues_discrepancy (index : Nat) (rt kt : String) (rs ks : List Float) :
    (c.compareValues index rt kt rs ks).discrepancy = none ∨
      (c.compareValues index rt kt rs ks).discrepancy = some .outOfTolerance := by
  unfold compareValues
  cases Deviation.ofLists? rs ks with
  | none => exact Or.inr rfl
  | some d =>
      dsimp only [measured]
      split
      · exact Or.inl rfl
      · exact Or.inr rfl

/-- The forms that a record may take, whichever way the comparison went. -/
theorem compare_forms :
    (∃ d rt kt, c.compare r k = failure r.index d rt kt) ∨ c.compare r k = .agreement r.index ∨
      (∃ e, c.compare r k = { Comparison.failure r.index .different with excerpts := e }) ∨
      ∃ rt kt rs ks, c.compare r k = c.compareValues r.index rt kt rs ks := by
  rcases c.compare_cases r k with ⟨_, h⟩ | ⟨_, d, _, h⟩ | ⟨_, _, _, h⟩ | ⟨_, _, _, _, _, h⟩ |
    ⟨_, _, rt, kt, _, _, h⟩
  · exact Or.inl ⟨_, _, _, h⟩
  · exact Or.inl ⟨_, _, _, h⟩
  · exact Or.inl ⟨_, _, _, h⟩
  · exact Or.inl ⟨_, _, _, h⟩
  · rw [h]
    rcases c.compareTexts_cases r k rt kt with ⟨_, h⟩ | ⟨_, _, h⟩ | ⟨_, _, e, h⟩
    · rw [h]
      rcases c.compareNumbers_cases r k rt kt with ⟨_, h⟩ | ⟨_, _, _, h⟩ | ⟨_, _, _, _, _, h⟩ |
        ⟨rs, ks, _, _, _, h⟩
      · exact Or.inl ⟨_, _, _, h⟩
      · exact Or.inl ⟨_, _, _, h⟩
      · exact Or.inl ⟨_, _, _, h⟩
      · exact Or.inr (Or.inr (Or.inr ⟨rt, kt, rs, ks, h⟩))
    · exact Or.inr (Or.inl h)
    · exact Or.inr (Or.inr (Or.inl ⟨e, h⟩))

/-- A record is about the case of the reference. -/
theorem compare_index : (c.compare r k).index = r.index := by
  rcases c.compare_forms r k with ⟨_, _, _, h⟩ | h | ⟨_, h⟩ | ⟨_, _, _, _, h⟩
  · rw [h]
    rfl
  · rw [h]
    rfl
  · rw [h]
    rfl
  · rw [h, compareValues_index]

end

/-- A record does not depend on how long the calls took. -/
theorem compare_congr (c : Comparator) {r r' k k' : Outcome} (hr : r.Agrees r')
    (hk : k.Agrees k') : c.compare r k = c.compare r' k' := by
  unfold compare compareTexts compareNumbers
  rw [hr.index_eq, hr.status_eq, hr.stdout_eq, hr.stderr_eq, hk.status_eq, hk.stdout_eq,
    hk.stderr_eq]

/-- What compared texts come to is a matter between the two outputs: the
    reference is to blame only for numbers that cannot be read, and no call was
    cut short. -/
theorem compareTexts_discrepancy (c : Comparator) (r k : Outcome) (rt kt : String) :
    (c.kind.isNumeric = true ∧ numbers? rt = none ∧
        (c.compareTexts r k rt kt).discrepancy = some .referenceUnreadable) ∨
      (¬ (c.kind.isNumeric = true ∧ numbers? rt = none) ∧
        (c.compareTexts r k rt kt).discrepancy.any Discrepancy.blamesReference = false ∧
        (c.compareTexts r k rt kt).discrepancy ≠ some .cancelled) := by
  rcases c.compareTexts_cases r k rt kt with ⟨hkind, h⟩ | ⟨hkind, _, h⟩ | ⟨hkind, _, e, h⟩
  · rw [h]
    rcases c.compareNumbers_cases r k rt kt with ⟨hn, h⟩ | ⟨rs, hn, _, h⟩ |
      ⟨rs, ks, hn, _, _, h⟩ | ⟨rs, ks, hn, _, _, h⟩
    · exact Or.inl ⟨hkind, hn, by rw [h]; rfl⟩
    · rw [h, hn]
      exact Or.inr ⟨nofun, rfl, nofun⟩
    · rw [h, hn]
      exact Or.inr ⟨nofun, rfl, nofun⟩
    · rw [h, hn]
      rcases c.compareValues_discrepancy r.index rt kt rs ks with h | h
      · rw [h]
        exact Or.inr ⟨nofun, rfl, nofun⟩
      · rw [h]
        exact Or.inr ⟨nofun, rfl, nofun⟩
  · rw [h, hkind]
    exact Or.inr ⟨nofun, rfl, nofun⟩
  · rw [h, hkind]
    exact Or.inr ⟨nofun, rfl, nofun⟩

theorem canRead_iff {c : Comparator} {output text : String}
    (h : c.extractor.extract? output = some text) :
    c.CanRead output ↔ ¬ (c.kind.isNumeric = true ∧ numbers? text = none) := by
  unfold CanRead
  rw [h]
  constructor
  · rintro ⟨t, ht, hnum⟩ ⟨hkind, hnone⟩
    rcases hnum hkind with ⟨xs, hxs⟩
    rw [← Option.some.inj ht, hnone] at hxs
    exact nomatch hxs
  · intro hno
    refine ⟨text, rfl, fun hkind => ?_⟩
    exact Option.ne_none_iff_exists'.mp fun hnone => hno ⟨hkind, hnone⟩

/-- A record is held against the reference if it exposes it, and not
    otherwise. -/
theorem compare_blames_iff (c : Comparator) (r k : Outcome) :
    (c.compare r k).discrepancy.any Discrepancy.blamesReference = true ↔ c.Exposes r k := by
  unfold Exposes
  rcases c.compare_cases r k with ⟨hr, h⟩ | ⟨hr, d, hd, h⟩ | ⟨hr, hk, hrt, h⟩ |
    ⟨hr, hk, rt, hrt, hkt, h⟩ | ⟨hr, hk, rt, kt, hrt, hkt, h⟩
  · rw [h]
    exact iff_of_true rfl (Or.inl hr)
  · -- What is held against a candidate by its status is its own failure.
    have hno : d.blamesReference = false := by
      cases hs : k.status <;> rw [hs] at hd <;> cases hd <;> rfl
    have hk : k.status ≠ .ok := by
      intro hk
      rw [hk] at hd
      exact nomatch hd
    rw [h]
    refine iff_of_false (fun htrue => ?_) ?_
    · rw [failure, Comparison.failure, Option.any_some, hno] at htrue
      exact nomatch htrue
    · rintro (hne | ⟨hok, _⟩)
      · exact hne hr
      · exact hk hok
  · rw [h]
    exact iff_of_true rfl (Or.inr ⟨hk, Or.inl hrt⟩)
  · -- The candidate's text is missing, so nobody looks for numbers.
    rw [h, hrt, hkt]
    refine iff_of_false Bool.false_ne_true ?_
    rintro (hne | ⟨_, hnone | ⟨hne, _⟩⟩)
    · exact hne hr
    · exact nomatch hnone
    · exact hne rfl
  · -- Both texts are there, so all is left to the numbers of the reference.
    rw [h, hrt, hkt, canRead_iff hrt]
    rcases c.compareTexts_discrepancy r k rt kt with ⟨hkind, hn, hd⟩ | ⟨hread, hd, _⟩
    · rw [hd]
      exact iff_of_true rfl
        (Or.inr ⟨hk, Or.inr ⟨Option.some_ne_none kt, fun hno => hno ⟨hkind, hn⟩⟩⟩)
    · rw [hd]
      refine iff_of_false Bool.false_ne_true ?_
      rintro (hne | ⟨_, hnone | ⟨_, hno⟩⟩)
      · exact hne hr
      · exact nomatch hnone
      · exact hno hread

/-- A record says that a call was cut short only if the candidate's was. -/
theorem compare_cancelled_iff (c : Comparator) (r k : Outcome) :
    (c.compare r k).discrepancy = some .cancelled ↔ r.status = .ok ∧ k.status = .cancelled := by
  rcases c.compare_cases r k with ⟨hr, h⟩ | ⟨hr, d, hd, h⟩ | ⟨hr, hk, _, h⟩ |
    ⟨hr, hk, _, _, _, h⟩ | ⟨hr, hk, rt, kt, _, _, h⟩
  · rw [h]
    exact iff_of_false nofun fun hok => hr hok.1
  · rw [h]
    cases hs : k.status with
    | cancelled =>
        rw [hs] at hd
        cases hd
        exact iff_of_true rfl ⟨hr, rfl⟩
    | _ =>
        rw [hs] at hd
        cases hd
        all_goals exact iff_of_false nofun nofun
  · rw [h, hk]
    exact iff_of_false nofun nofun
  · rw [h, hk]
    exact iff_of_false nofun nofun
  · rw [h, hk]
    rcases c.compareTexts_discrepancy r k rt kt with ⟨_, _, hd⟩ | ⟨_, _, hd⟩
    · rw [hd]
      exact iff_of_false nofun nofun
    · exact iff_of_false hd nofun

/-- Only a reference that failed, or whose output cannot be read, is exposed. -/
theorem Exposes.of_unusable {c : Comparator} {r k : Outcome} (h : c.Exposes r k) :
    r.status ≠ .ok ∨ ¬ c.CanRead r.stdout := by
  rcases h with h | ⟨_, h | ⟨_, h⟩⟩
  · exact Or.inl h
  · refine Or.inr ?_
    rintro ⟨text, htext, _⟩
    rw [h] at htext
    exact nomatch htext
  · exact Or.inr h

end Comparator

end Concordance
