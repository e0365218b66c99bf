import Concordance.Proofs.PairByPair

/-!
# The Shape of Records

What holds of every record, whichever way out of the comparison it was made on.

A record has nine fields, and a comparison has a dozen ways out, each of which fills them
in differently. Whoever reads a record relies on how they hang together: that a case which
does not match says why and quotes the outputs, that a failure without a measure counts as
one and nothing is ever below zero or no number, that the lists of numbers are of one
length, and that digests are there if hashes were compared and not otherwise.

What is quoted follows from the reason alone. Of a call that failed the error output is
quoted, whole outputs where one of them could not be read, and otherwise the texts that
were compared.

## Main definitions

* `IsExcerpt`: A text is the beginning of another one.
* `Comparator.quoted?`: The texts that a failure quotes.
* `Comparator.WellFormed`: The fields of a record hang together.

## Theorems

* `isExcerpt_excerpt`: Excerpts are the beginnings of outputs.
* `isMagnitude_of_ofLists?`: The deviations of lists of numbers have no sign.
* `wellFormed_failure`, `wellFormed_withDigests`, `wellFormed_agreement`,
  `wellFormed_compareValues`: The shape on each of the ways out.
* `compare_wellFormed`: The shape of every record.
-/

namespace Concordance

open Binary64

/-- Whether a text is an excerpt of an output: all of it without outer blanks if that has no
    more than a hundred and twenty characters, and otherwise so many of them and a mark. -/
def IsExcerpt (x output : String) : Prop :=
  ((Text.trimList output.toList).length ≤ 120 ∧ x.toList = Text.trimList output.toList) ∨
    (120 < (Text.trimList output.toList).length ∧
      x.toList = (Text.trimList output.toList).take 120 ++ ['…'])

theorem isExcerpt_excerpt (output : String) : IsExcerpt (excerpt output) output := by
  unfold IsExcerpt excerpt excerptList
  rw [String.toList_ofList]
  dsimp only
  by_cases h : (Text.trimList output.toList).length ≤ excerptLength
  · rw [if_pos h]
    exact Or.inl ⟨h, rfl⟩
  · rw [if_neg h]
    exact Or.inr ⟨Nat.lt_of_not_le h, rfl⟩

/-- The deviations of two lists of numbers have no sign. -/
theorem Deviation.isMagnitude_of_ofLists? {rs ks : List Float} {d : Deviation}
    (h : ofLists? rs ks = some d) : IsMagnitude d.absolute ∧ IsMagnitude d.relative := by
  rcases ofLists?_cases rs ks with ⟨ds, hds, _, hback⟩ | ⟨hnone, _⟩
  · have hall : ∀ e ∈ ds, IsMagnitude e.absolute ∧ IsMagnitude e.relative := by
      intro e he
      obtain ⟨p, _, hp⟩ := hback e he
      have hcomparable : IsComparable p.1 p.2 := by
        by_contra hnot
        exact nomatch (ofPair?_eq_none_iff.mpr hnot).symm.trans hp
      rw [← Option.some.inj ((ofPair?_of_isComparable hcomparable).symm.trans hp)]
      exact isMagnitude_ofComparable hcomparable
    rw [← Option.some.inj (hds.symm.trans h), foldl_join]
    exact ⟨isMagnitude_foldl isMagnitude_zero (List.forall_mem_map.mpr fun e he => (hall e he).1),
      isMagnitude_foldl isMagnitude_zero (List.forall_mem_map.mpr fun e he => (hall e he).2)⟩
  · exact nomatch hnone.symm.trans h

namespace Comparator

/-- The texts that a failure quotes, of the reference and of the candidate. -/
def quoted? (c : Comparator) (r k : Outcome) : Discrepancy → Option (String × String)
  | .referenceFailed _ => some (r.stderr, k.stdout)
  | .candidateTimeout | .candidateCrashed | .candidateExited _ | .cancelled =>
    some (r.stdout, k.stderr)
  | .referenceUnreadable | .candidateUnreadable => some (r.stdout, k.stdout)
  | .lengths _ _ | .outOfTolerance | .different => do
    return (← c.extractor.extract? r.stdout, ← c.extractor.extract? k.stdout)

/-- Whether the fields of a record of two outcomes hang together. -/
structure WellFormed (c : Comparator) (r k : Outcome) (x : Comparison) : Prop where
  index_eq : x.index = r.index
  isMatch_iff_discrepancy : x.isMatch = true ↔ x.discrepancy = none
  isMatch_iff_excerpts : x.isMatch = true ↔ x.excerpts = none
  forced : ∀ d, x.discrepancy = some d → d ≠ .outOfTolerance →
    x.absolute = 1 ∧ x.relative = 1 ∧ x.deviation = 1
  isMagnitude : IsMagnitude x.absolute ∧ IsMagnitude x.relative ∧ IsMagnitude x.deviation
  values_length : x.referenceValues.length = x.candidateValues.length
  values_numeric : x.referenceValues ≠ [] ∨ x.candidateValues ≠ [] →
    c.kind.isNumeric = true ∧ r.status = .ok ∧ k.status = .ok
  digests : ∀ e, x.excerpts = some e →
    if c.kind = .hash ∧ x.discrepancy = some .different then
      e.referenceDigest.isSome = true ∧ e.candidateDigest.isSome = true
    else e.referenceDigest = none ∧ e.candidateDigest = none
  excerpts : ∀ d e, x.discrepancy = some d → x.excerpts = some e →
    ∃ rt kt, c.quoted? r k d = some (rt, kt) ∧ IsExcerpt e.reference rt ∧ IsExcerpt e.candidate kt

theorem isMagnitude_one : IsMagnitude 1 :=
  ⟨by decide +kernel, by decide +kernel⟩

section

variable {c : Comparator} {r k : Outcome} {rt kt : String}

theorem isMagnitude_governing {d : Deviation} (habsolute : IsMagnitude d.absolute)
    (hrelative : IsMagnitude d.relative) : IsMagnitude (c.governing d) := by
  unfold governing
  split
  · exact habsolute
  · exact hrelative

/-- The texts that were compared are quoted where nothing else is. -/
theorem quoted?_of_extract? (hrt : c.extractor.extract? r.stdout = some rt)
    (hkt : c.extractor.extract? k.stdout = some kt) {d : Discrepancy}
    (hd : d = .outOfTolerance ∨ d = .different ∨ ∃ m n, d = .lengths m n) :
    c.quoted? r k d = some (rt, kt) := by
  rcases hd with rfl | rfl | ⟨m, n, rfl⟩ <;> rw [quoted?, hrt, hkt] <;> rfl

/-- A failure that quotes what its reason says, but no digests. -/
theorem wellFormed_failure {d : Discrepancy} (hquoted : c.quoted? r k d = some (rt, kt))
    (hdigest : ¬ (c.kind = .hash ∧ d = .different)) :
    c.WellFormed r k (failure r.index d rt kt) where
  index_eq := rfl
  isMatch_iff_discrepancy := iff_of_false nofun nofun
  isMatch_iff_excerpts := iff_of_false nofun nofun
  forced := fun _ _ _ => ⟨rfl, rfl, rfl⟩
  isMagnitude := ⟨isMagnitude_one, isMagnitude_one, isMagnitude_one⟩
  values_length := rfl
  values_numeric := fun h => absurd rfl (h.elim id id)
  digests := by
    intro e he
    obtain rfl : Excerpts.ofOutputs rt kt = e := Option.some.inj he
    rw [if_neg fun h => hdigest ⟨h.1, Option.some.inj h.2⟩]
    exact ⟨rfl, rfl⟩
  excerpts := by
    intro d' e hd he
    cases hd
    obtain rfl : Excerpts.ofOutputs rt kt = e := Option.some.inj he
    exact ⟨rt, kt, hquoted, isExcerpt_excerpt rt, isExcerpt_excerpt kt⟩

/-- Hashes that differ, with the digests of the texts that were compared. -/
theorem wellFormed_withDigests (hkind : c.kind = .hash)
    (hquoted : c.quoted? r k .different = some (rt, kt)) :
    c.WellFormed r k { Comparison.failure r.index .different with
      excerpts := some (.withDigests rt kt) } where
  index_eq := rfl
  isMatch_iff_discrepancy := iff_of_false nofun nofun
  isMatch_iff_excerpts := iff_of_false nofun nofun
  forced := fun _ _ _ => ⟨rfl, rfl, rfl⟩
  isMagnitude := ⟨isMagnitude_one, isMagnitude_one, isMagnitude_one⟩
  values_length := rfl
  values_numeric := fun h => absurd rfl (h.elim id id)
  digests := by
    intro e he
    obtain rfl : Excerpts.withDigests rt kt = e := Option.some.inj he
    rw [if_pos ⟨hkind, rfl⟩]
    exact ⟨rfl, rfl⟩
  excerpts := by
    intro d e hd he
    cases hd
    obtain rfl : Excerpts.withDigests rt kt = e := Option.some.inj he
    exact ⟨rt, kt, hquoted, isExcerpt_excerpt rt, isExcerpt_excerpt kt⟩

theorem wellFormed_agreement : c.WellFormed r k (.agreement r.index) where
  index_eq := rfl
  isMatch_iff_discrepancy := iff_of_true rfl rfl
  isMatch_iff_excerpts := iff_of_true rfl rfl
  forced := nofun
  isMagnitude := ⟨isMagnitude_zero, isMagnitude_zero, isMagnitude_zero⟩
  values_length := rfl
  values_numeric := fun h => absurd rfl (h.elim id id)
  digests := nofun
  excerpts := nofun

/-- Numbers that were compared. Nothing but the tolerance is held against them, and whether
    it is decides what is quoted. -/
theorem compareValues_fields (c : Comparator) (index : Nat) (rt kt : String) (rs ks : List Float) :
    let x := c.compareValues index rt kt rs ks
    x.discrepancy = (if x.isMatch then none else some .outOfTolerance) ∧
      x.excerpts = (if x.isMatch then none else some (.ofOutputs rt kt)) ∧
      x.referenceValues = rs ∧ x.candidateValues = ks ∧
      IsMagnitude x.absolute ∧ IsMagnitude x.relative ∧ IsMagnitude x.deviation := by
  unfold compareValues
  cases hd : Deviation.ofLists? rs ks with
  | none => exact ⟨rfl, rfl, rfl, rfl, isMagnitude_one, isMagnitude_one, isMagnitude_one⟩
  | some d =>
      obtain ⟨habsolute, hrelative⟩ := Deviation.isMagnitude_of_ofLists? hd
      exact ⟨rfl, rfl, rfl, rfl, habsolute, hrelative, isMagnitude_governing habsolute hrelative⟩

theorem wellFormed_compareValues {rs ks : List Float} (hkind : c.kind.isNumeric = true)
    (hr : r.status = .ok) (hk : k.status = .ok)
    (hquoted : c.quoted? r k .outOfTolerance = some (rt, kt)) (hlength : rs.length = ks.length) :
    c.WellFormed r k (c.compareValues r.index rt kt rs ks) := by
  have hhash : c.kind ≠ .hash := by
    intro h
    rw [h] at hkind
    exact nomatch hkind
  have hindex := c.compareValues_index r.index rt kt rs ks
  obtain ⟨hdiscrepancy, hexcerpts, hrs, hks, hmagnitude⟩ :=
    c.compareValues_fields r.index rt kt rs ks
  generalize c.compareValues r.index rt kt rs ks = x at *
  have hvalues : x.referenceValues.length = x.candidateValues.length := by
    rw [hrs, hks, hlength]
  cases hmatch : x.isMatch with
  | true =>
      rw [hmatch, if_pos rfl] at hdiscrepancy hexcerpts
      refine ⟨hindex, iff_of_true hmatch hdiscrepancy, iff_of_true hmatch hexcerpts, ?_, hmagnitude,
        hvalues, fun _ => ⟨hkind, hr, hk⟩, ?_, ?_⟩
      · exact fun d hd => nomatch hdiscrepancy.symm.trans hd
      · exact fun e he => nomatch hexcerpts.symm.trans he
      · exact fun d e hd => nomatch hdiscrepancy.symm.trans hd
  | false =>
      have hno : ¬ x.isMatch = true := ne_true_of_eq_false hmatch
      rw [hmatch, if_neg Bool.false_ne_true] at hdiscrepancy hexcerpts
      have hreason : x.discrepancy ≠ none := hdiscrepancy ▸ Option.some_ne_none _
      have hdetail : x.excerpts ≠ none := hexcerpts ▸ Option.some_ne_none _
      refine ⟨hindex, iff_of_false hno hreason, iff_of_false hno hdetail, ?_, hmagnitude,
        hvalues, fun _ => ⟨hkind, hr, hk⟩, ?_, ?_⟩
      · exact fun d hd hne => absurd (Option.some.inj (hd.symm.trans hdiscrepancy)) hne
      · intro e he
        rw [if_neg fun h => hhash h.1, Option.some.inj (he.symm.trans hexcerpts)]
        exact ⟨rfl, rfl⟩
      · intro d e hd he
        rw [Option.some.inj (hd.symm.trans hdiscrepancy), Option.some.inj (he.symm.trans hexcerpts)]
        exact ⟨rt, kt, hquoted, isExcerpt_excerpt rt, isExcerpt_excerpt kt⟩

/-- Texts that were compared. Only hashes that differ come with digests. -/
theorem wellFormed_compareTexts (hr : r.status = .ok) (hk : k.status = .ok)
    (hrt : c.extractor.extract? r.stdout = some rt)
    (hkt : c.extractor.extract? k.stdout = some kt) :
    c.WellFormed r k (c.compareTexts r k rt kt) := by
  have hdifferent := quoted?_of_extract? hrt hkt (Or.inr (Or.inl rfl))
  by_cases hkind : c.kind.isNumeric = true
  · rcases c.compareTexts_cases r k rt kt with ⟨_, h⟩ | ⟨hno, _⟩ | ⟨hno, _⟩
    · rw [h]
      rcases c.compareNumbers_cases r k rt kt with ⟨_, h⟩ | ⟨_, _, _, h⟩ | ⟨rs, ks, _, _, _, h⟩ |
        ⟨rs, ks, _, _, hlength, h⟩
      · rw [h]
        exact wellFormed_failure rfl nofun
      · rw [h]
        exact wellFormed_failure rfl nofun
      · rw [h]
        exact wellFormed_failure
          (quoted?_of_extract? hrt hkt (Or.inr (Or.inr ⟨_, _, rfl⟩))) nofun
      · rw [h]
        exact wellFormed_compareValues hkind hr hk (quoted?_of_extract? hrt hkt (Or.inl rfl))
          hlength
    · exact absurd (hkind.symm.trans hno) Bool.noConfusion
    · exact absurd (hkind.symm.trans hno) Bool.noConfusion
  · unfold compareTexts
    by_cases heq : rt = kt
    · cases h : c.kind with
      | relative | absolute => exact absurd (congrArg OutputKind.isNumeric h) hkind
      | hash | label | text =>
          dsimp only
          rw [if_pos heq]
          exact wellFormed_agreement
    · cases h : c.kind with
      | relative | absolute => exact absurd (congrArg OutputKind.isNumeric h) hkind
      | hash =>
          dsimp only
          rw [if_neg heq]
          exact wellFormed_withDigests h hdifferent
      | label | text =>
          dsimp only
          rw [if_neg heq]
          exact wellFormed_failure hdifferent fun hh => nomatch h.symm.trans hh.1

end

/-- Every record is well formed, whatever the two calls came to. It is about the case of the
    reference. It matches exactly if it gives no reason, and exactly if it quotes nothing. A
    reason other than the tolerance comes with deviations of one, and no deviation is ever
    negative or no number. Numbers are only there if both calls succeeded and put out
    numbers, as many on one side as on the other. Digests are there exactly if hashes were
    found to differ. What is quoted follows from the reason, and is quoted by excerpts. -/
theorem compare_wellFormed (c : Comparator) (r k : Outcome) :
    c.WellFormed r k (c.compare r k) := by
  rcases c.compare_cases r k with ⟨_, h⟩ | ⟨_, d, hd, h⟩ | ⟨_, _, _, h⟩ | ⟨_, _, _, _, _, h⟩ |
    ⟨hr, hk, rt, kt, hrt, hkt, h⟩
  · rw [h]
    exact wellFormed_failure rfl nofun
  · rw [h]
    -- The status of the candidate is the reason.
    cases hs : k.status with
    | ok =>
        rw [hs] at hd
        exact nomatch hd
    | timeout | crashed | exited | cancelled =>
        rw [hs] at hd
        cases hd
        exact wellFormed_failure rfl nofun
  · rw [h]
    exact wellFormed_failure rfl nofun
  · rw [h]
    exact wellFormed_failure rfl nofun
  · rw [h]
    exact wellFormed_compareTexts hr hk hrt hkt

end Comparator

end Concordance
