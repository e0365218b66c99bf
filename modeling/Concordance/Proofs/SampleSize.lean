import Concordance.Proofs.LargestGap
import Concordance.Proofs.Likeness

/-!
# The Size of a Sample

How many numbers a distribution test rests on.

A test of two samples says little if they are small, so a policy asks for a least number of
values on either side, and says that the test does not apply to fewer. Values are counted as
the artifacts put them out. The test itself leaves out what is not a number, and only then
are the samples as large as its p-value takes them to be. So NaNs can make up for numbers
that are missing, and a test of one number on either side may be the outcome. Where no value
is a NaN the count is right.

## Main definitions

* `referenceNumbers`, `candidateNumbers`: The numbers that the test compares.
* `Policy.IsApplicable`: The test applies to some records.
* `Policy.IsSized`: There are as many numbers on either side as the policy asks for.
* `Policy.IsPadded`: There are too few numbers, and NaNs make up for them.

## Theorems

* `compareSamples?_isSome_iff`, `pValue_of_compareSamples?`: When there is a result, and the
  sizes it rests on.
* `testDistributions?_isSome_iff`, `certify_similarity_iff`: When records are tested.
* `isSized_of_numbers`: Nothing is made up for without a NaN.
* `certify_sampleSize`: What a report of a test says about the numbers behind it.
-/

namespace Concordance

namespace KolmogorovSmirnov

variable {xs ys : List Float}

theorem ordered_length (xs : List Float) : (ordered xs).length = (numbersOf xs).length :=
  (ordered_perm xs).length_eq

/-- Two samples can be compared if there is a number in each. -/
theorem compareSamples?_isSome_iff :
    (compareSamples? xs ys).isSome = true ↔
      0 < (numbersOf xs).length ∧ 0 < (numbersOf ys).length := by
  rw [← ordered_length, ← ordered_length]
  unfold compareSamples?
  dsimp only
  cases ordered xs with
  | nil => exact iff_of_false Bool.false_ne_true fun h => absurd h.1 (Nat.lt_irrefl 0)
  | cons x xs =>
      cases ordered ys with
      | nil => exact iff_of_false Bool.false_ne_true fun h => absurd h.2 (Nat.lt_irrefl 0)
      | cons y ys => exact iff_of_true rfl ⟨Nat.succ_pos _, Nat.succ_pos _⟩

/-- A p-value is that of the numbers in two samples. -/
theorem pValue_of_compareSamples? (xs ys : List Float) :
    (compareSamples? xs ys).map (·.pValue) = ((compareSamples? xs ys).map (·.statistic)).map
      (pValue (numbersOf xs).length (numbersOf ys).length) := by
  rw [← ordered_length, ← ordered_length]
  unfold compareSamples?
  dsimp only
  split <;> rfl

end KolmogorovSmirnov

open KolmogorovSmirnov (numbersOf pValue)

/-- The numbers among the values of the reference. -/
def referenceNumbers (records : List Comparison) : List Float :=
  numbersOf (records.flatMap (·.referenceValues))

/-- The numbers among the values of the candidate. -/
def candidateNumbers (records : List Comparison) : List Float :=
  numbersOf (records.flatMap (·.candidateValues))

namespace Policy

/-- Whether the distribution test applies to records: the kind of output is numeric, there are
    as many records, and as many values on either side, as the policy asks for, and on
    either side one of them is a number. -/
structure IsApplicable (policy : Policy) (kind : OutputKind) (records : List Comparison) :
    Prop where
  isNumeric : kind.isNumeric = true
  records_ge : policy.minSamples ≤ records.length
  reference_ge : policy.minSamples ≤ (records.flatMap (·.referenceValues)).length
  candidate_ge : policy.minSamples ≤ (records.flatMap (·.candidateValues)).length
  reference_pos : 0 < (referenceNumbers records).length
  candidate_pos : 0 < (candidateNumbers records).length

/-- Whether there are as many numbers on either side as the policy asks for. -/
def IsSized (policy : Policy) (records : List Comparison) : Prop :=
  policy.minSamples ≤ (referenceNumbers records).length ∧
    policy.minSamples ≤ (candidateNumbers records).length

/-- Whether the test applies to records although there are too few numbers on one side. -/
structure IsPadded (policy : Policy) (kind : OutputKind) (records : List Comparison) : Prop where
  isApplicable : policy.IsApplicable kind records
  few : (referenceNumbers records).length < policy.minSamples ∨
    (candidateNumbers records).length < policy.minSamples

section

variable (policy : Policy) (kind : OutputKind) {records records' : List Comparison}
  {test : Option KolmogorovSmirnov.TestResult}

theorem similarity_ne_notApplicable_iff :
    policy.similarity test ≠ .notApplicable ↔ test.isSome = true := by
  cases test with
  | none => exact iff_of_false (fun h => h rfl) Bool.false_ne_true
  | some r =>
      refine iff_of_true ?_ rfl
      unfold similarity
      dsimp only
      split <;> exact nofun

theorem testDistributions?_isSome_iff :
    (policy.testDistributions? kind records).isSome = true ↔ policy.IsApplicable kind records := by
  unfold testDistributions?
  dsimp only
  -- The values are counted before NaNs are left out, and what is left is looked at once more.
  split
  case isTrue hguard =>
    refine iff_of_false Bool.false_ne_true fun h => ?_
    simp only [Bool.or_eq_true, Bool.not_eq_true', decide_eq_true_eq] at hguard
    rcases hguard with ((hkind | hfew) | hfew) | hfew
    · exact Bool.false_ne_true (hkind.symm.trans h.isNumeric)
    · exact absurd h.records_ge (Nat.not_le.mpr hfew)
    · exact absurd h.reference_ge (Nat.not_le.mpr hfew)
    · exact absurd h.candidate_ge (Nat.not_le.mpr hfew)
  case isFalse hguard =>
    simp only [Bool.or_eq_true, Bool.not_eq_true', decide_eq_true_eq, not_or, Bool.not_eq_false,
      Nat.not_lt] at hguard
    obtain ⟨⟨⟨hkind, hrecords⟩, hreference⟩, hcandidate⟩ := hguard
    rw [KolmogorovSmirnov.compareSamples?_isSome_iff]
    exact ⟨fun h => ⟨hkind, hrecords, hreference, hcandidate, h.1, h.2⟩,
      fun h => ⟨h.reference_pos, h.candidate_pos⟩⟩

/-- The p-value of tested records is that of as many numbers as there are on either side. -/
theorem pValue_of_testDistributions? :
    (policy.testDistributions? kind records).map (·.pValue)
      = ((policy.testDistributions? kind records).map (·.statistic)).map
        (pValue (referenceNumbers records).length (candidateNumbers records).length) := by
  unfold testDistributions?
  dsimp only
  split
  · rfl
  · exact KolmogorovSmirnov.pValue_of_compareSamples? _ _

theorem referenceNumbers_perm (h : records.Perm records') :
    (referenceNumbers records).Perm (referenceNumbers records') :=
  (h.flatMap_right _).filter _

theorem candidateNumbers_perm (h : records.Perm records') :
    (candidateNumbers records).Perm (candidateNumbers records') :=
  (h.flatMap_right _).filter _

theorem isApplicable_of_perm (h : records.Perm records')
    (happlicable : policy.IsApplicable kind records) : policy.IsApplicable kind records' where
  isNumeric := happlicable.isNumeric
  records_ge := happlicable.records_ge.trans h.length_eq.le
  reference_ge := happlicable.reference_ge.trans (h.flatMap_right _).length_eq.le
  candidate_ge := happlicable.candidate_ge.trans (h.flatMap_right _).length_eq.le
  reference_pos := happlicable.reference_pos.trans_eq (referenceNumbers_perm h).length_eq
  candidate_pos := happlicable.candidate_pos.trans_eq (candidateNumbers_perm h).length_eq

/-- There are no numbers without records. -/
theorem IsApplicable.ne_nil {policy : Policy} {kind : OutputKind}
    (h : policy.IsApplicable kind records) : records ≠ [] := by
  rintro rfl
  exact Nat.lt_irrefl 0 h.reference_pos

theorem isPadded_iff :
    policy.IsPadded kind records ↔ policy.IsApplicable kind records ∧ ¬ policy.IsSized records := by
  rw [IsSized, not_and_or, Nat.not_le, Nat.not_le]
  exact ⟨fun h => ⟨h.isApplicable, h.few⟩, fun h => ⟨h.1, h.2⟩⟩

/-- Where every value is a number, records to which the test applies are enough. -/
theorem isSized_of_numbers
    (hreference : ∀ r ∈ records, ∀ x ∈ r.referenceValues, x.isNaN = false)
    (hcandidate : ∀ r ∈ records, ∀ x ∈ r.candidateValues, x.isNaN = false)
    {policy : Policy} {kind : OutputKind} (h : policy.IsApplicable kind records) :
    policy.IsSized records := by
  have hall : ∀ values : Comparison → List Float,
      (∀ r ∈ records, ∀ x ∈ values r, x.isNaN = false) →
        numbersOf (records.flatMap values) = records.flatMap values := by
    intro values hvalues
    refine List.filter_eq_self.mpr fun x hx => ?_
    obtain ⟨r, hr, hmem⟩ := List.mem_flatMap.mp hx
    rw [hvalues r hr x hmem]
    rfl
  unfold IsSized referenceNumbers candidateNumbers
  rw [hall _ hreference, hall _ hcandidate]
  exact ⟨h.reference_ge, h.candidate_ge⟩

theorem certify_similarity_iff :
    (policy.certify kind records).similarity ≠ .notApplicable ↔
      policy.IsApplicable kind records := by
  by_cases hne : records = []
  · subst hne
    exact iff_of_false (fun h => h rfl) fun h => h.ne_nil rfl
  · have hperm := inCaseOrder_perm records
    rw [policy.certify_of_ne_nil kind hne]
    refine policy.similarity_ne_notApplicable_iff.trans ?_
    rw [policy.testDistributions?_isSome_iff]
    exact ⟨policy.isApplicable_of_perm kind hperm, policy.isApplicable_of_perm kind hperm.symm⟩

theorem certify_ksPValue :
    (policy.certify kind records).ksPValue = (policy.certify kind records).ksStatistic.map
      (pValue (referenceNumbers records).length (candidateNumbers records).length) := by
  by_cases hne : records = []
  · subst hne
    rfl
  · have hperm := inCaseOrder_perm records
    rw [policy.certify_of_ne_nil kind hne, ← (referenceNumbers_perm hperm).length_eq,
      ← (candidateNumbers_perm hperm).length_eq]
    exact policy.pValue_of_testDistributions? kind

end

/-- The distribution test applies as `IsApplicable` says, and its p-value is that of as many
    numbers as there are. Those are as many as the policy asks for, unless the records are
    padded, and for that there has to be a NaN. -/
theorem certify_sampleSize (policy : Policy) (kind : OutputKind) (records : List Comparison) :
    ((policy.certify kind records).similarity ≠ .notApplicable ↔
        policy.IsApplicable kind records) ∧
      (policy.certify kind records).ksPValue = (policy.certify kind records).ksStatistic.map
        (pValue (referenceNumbers records).length (candidateNumbers records).length) ∧
      (((policy.certify kind records).similarity ≠ .notApplicable → policy.IsSized records) ↔
        ¬ policy.IsPadded kind records) ∧
      (policy.IsPadded kind records →
        ∃ r ∈ records, ∃ x ∈ r.referenceValues ++ r.candidateValues, x.isNaN = true) := by
  refine ⟨policy.certify_similarity_iff kind, policy.certify_ksPValue kind, ?_, ?_⟩
  · rw [certify_similarity_iff, isPadded_iff, not_and, not_not]
  · intro hpadded
    by_contra hnone
    have hnumbers : ∀ r ∈ records, ∀ x ∈ r.referenceValues ++ r.candidateValues,
        x.isNaN = false :=
      fun r hr x hx => Bool.eq_false_iff.mpr fun hnan => hnone ⟨r, hr, x, hx, hnan⟩
    obtain ⟨happlicable, hnot⟩ := (policy.isPadded_iff kind).mp hpadded
    exact hnot (isSized_of_numbers
      (fun r hr x hx => hnumbers r hr x (List.mem_append_left _ hx))
      (fun r hr x hx => hnumbers r hr x (List.mem_append_right _ hx)) happlicable)

/-- Records of cases on which both artifacts put out one number. -/
private def equalOutputs (values : List Float) : List Comparison :=
  values.mapIdx fun i x =>
    { Comparison.agreement i with referenceValues := [x], candidateValues := [x] }

/-- A number, and as many NaNs as it takes. -/
private def padded : List Comparison :=
  equalOutputs (List.replicate 29 (Float.ofBits 0x7ff8000000000000) ++ [1])

private theorem isPadded_padded : IsPadded (.ofProfile .standard) .relative padded :=
  ⟨⟨by decide, by decide, by decide, by decide, by decide +kernel, by decide +kernel⟩,
    Or.inl (by decide +kernel)⟩

/-- There is a NaN among the records with a single number. -/
theorem certify_sampleSize_padded :
    IsPadded (.ofProfile .standard) .relative padded ∧
      ∃ r ∈ padded, ∃ x ∈ r.referenceValues ++ r.candidateValues, x.isNaN = true :=
  ⟨isPadded_padded, (certify_sampleSize (.ofProfile .standard) .relative padded).2.2.2
    isPadded_padded⟩

/-- A single number on either side passes a test that asks for thirty. -/
theorem certify_similarity_singleNumber :
    let policy : Policy := .ofProfile .standard
    OutputKind.relative.isNumeric = true ∧ policy.minSamples = 30 ∧
      (policy.certify .relative padded).similarity = .pass ∧
      (referenceNumbers padded).length = 1 ∧ (candidateNumbers padded).length = 1 ∧
      ¬ policy.IsSized padded := by
  intro policy
  have happlies := (policy.certify_similarity_iff .relative).mpr isPadded_padded.isApplicable
  have hflawless : ∀ r ∈ padded, r.IsFlawless := by
    intro r hr
    obtain ⟨i, hi, rfl⟩ := List.mem_mapIdx.mp hr
    exact ⟨rfl, rfl, rfl⟩
  -- Equal samples pass, if they are tested at all.
  have hpass : (policy.certify .relative padded).similarity = .pass :=
    (policy.isClean_certify .relative (by decide +kernel)
      isPadded_padded.isApplicable.ne_nil hflawless).similarity.elim And.left
      fun h => absurd h.1 happlies
  exact ⟨rfl, rfl, hpass, by decide +kernel, by decide +kernel,
    ((policy.isPadded_iff .relative).mp isPadded_padded).2⟩

end Policy

end Concordance
