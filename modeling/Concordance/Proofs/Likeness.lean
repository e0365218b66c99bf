import Concordance.Proofs.Binary64.Identity
import Concordance.Proofs.Certification

/-!
# Like Against Like

What is found when outputs are compared with themselves: nothing.

An output that can be read matches itself without any deviation, whatever numbers
are in it. NaN is not equal to itself, but two NaNs do not deviate; infinities and
zeros of either sign are equal to themselves. A sample is never away from itself
either. Walking through two equal samples side by side gives the same counts for
both at every value, however many values are tied, so the statistic is zero. The
series for its p-value does not settle there, and counts as one.

A report of such records has nothing to tell, so the only thing that may keep a
candidate from being certified is that there are too few of them.

## Main definitions

* `KolmogorovSmirnov.Swings`: A series that does not settle.
* `Comparison.IsFlawless`: A record of no difference.
* `Report.IsClean`: A report of no difference.

## Theorems

* `swings_step`, `sumSeries_of_swings`: The series of the p-value at zero.
* `mergeCounts_self`, `statistic_self`, `pValue_zero`, `compareSamples?_self`: The
  distribution test of a sample and itself.
* `ofPair?_self`, `ofLists?_self`: Numbers do not deviate from themselves.
* `compare_isFlawless`: Equal outputs that can be read differ in nothing.
* `isClean_certify`, `certify_certified_iff`: What is reported of records of no
  difference.
-/

namespace Concordance

namespace KolmogorovSmirnov

/-- At every value as many of a sample lie at or below it as of itself. -/
theorem mergeCounts_self (steps : Nat) : ∀ (i : Nat) (xs : List Float),
    ∀ c ∈ mergeCounts steps i i xs xs, c.1 = c.2 := by
  induction steps with
  | zero => exact fun i xs c hc => nomatch hc
  | succ steps ih =>
      intro i xs c hc
      cases xs with
      | nil => exact nomatch hc
      | cons x xs =>
          -- Both sides pass the same values, so the walk goes on with equal counts.
          unfold mergeCounts at hc
          rcases List.mem_cons.mp hc with rfl | hrest
          · rfl
          · exact ih _ _ c hrest

theorem statistic_self (xs : List Float) : statistic .binary64 xs xs = 0 := by
  unfold statistic
  refine Binary64.foldl_maxNum_eq_zero fun g hg => ?_
  rcases List.mem_map.mp hg with ⟨c, hc, rfl⟩
  unfold gap
  rw [mergeCounts_self _ _ _ c hc]
  exact Binary64.abs_sub_self _

/-- Whether the series swings between two and zero, unless it is lost in NaN. The
    last term was two, if there was one yet. -/
def Swings (sign previous sum : Float) : Prop :=
  ((sign = 2 ∧ (sum = 0 ∨ sum = 0 / 0)) ∨ (sign = -2 ∧ (sum = 2 ∨ sum = 0 / 0))) ∧
    (previous = 0 ∨ previous = 2 ∨ previous = 0 / 0)

/-- A term of full size keeps the series swinging, and so does NaN. Neither counts
    as small. -/
theorem swings_step {sign previous sum weight : Float} (h : Swings sign previous sum)
    (hweight : weight = 1 ∨ weight = 0 / 0) :
    ((sign * weight).abs ≤ 0.001 * previous ||
        (sign * weight).abs ≤ 1e-8 * (sum + sign * weight)) = false ∧
      Swings (-sign) (sign * weight).abs (sum + sign * weight) := by
  unfold Swings at *
  rcases h with ⟨⟨rfl, rfl | rfl⟩ | ⟨rfl, rfl | rfl⟩, rfl | rfl | rfl⟩ <;>
    rcases hweight with rfl | rfl <;> decide +kernel

/-- A series that swings does not settle. -/
theorem sumSeries_of_swings {square : Float} (hsquare : Binary64.IsNull square) (terms : Nat) :
    ∀ (k : Nat) (sign previous sum : Float), Swings sign previous sum →
      sumSeries square terms k sign previous sum = 1 := by
  induction terms with
  | zero => exact fun _ _ _ _ _ => rfl
  | succ terms ih =>
      intro k sign previous sum h
      have hweight := Binary64.exp_of_isNull ((hsquare.mul (Float.ofNat k)).mul (Float.ofNat k))
      rcases swings_step h hweight with ⟨hlarge, h'⟩
      unfold sumSeries
      dsimp only
      rw [hlarge, if_neg Bool.false_ne_true]
      exact ih _ _ _ _ h'

/-- Zero is exceeded for sure, as the series does not settle there. -/
theorem exceedance_of_isNull {x : Float} (hx : Binary64.IsNull x) : exceedance x = 1 := by
  unfold exceedance
  refine sumSeries_of_swings ?_ _ _ _ _ _ ⟨Or.inl ⟨rfl, Or.inl rfl⟩, Or.inl rfl⟩
  rw [Binary64.mul_comm (-2) x]
  exact (hx.mul _).mul _

/-- A statistic of zero is as likely as can be, whatever the samples' sizes are. -/
theorem pValue_zero (n m : Nat) : pValue n m 0 = 1 := by
  refine exceedance_of_isNull ?_
  rw [Binary64.mul_comm _ 0]
  exact Binary64.isNull_zero.mul _

/-- The test of a sample and itself, where there is one. -/
theorem compareSamples?_self (xs : List Float) :
    compareSamples? xs xs = none ∨ compareSamples? xs xs = some ⟨0, 1⟩ := by
  unfold compareSamples?
  dsimp only
  split
  · exact Or.inl rfl
  · rw [statistic_self, pValue_zero]
    exact Or.inr rfl

end KolmogorovSmirnov

namespace Deviation

/-- No double deviates from itself, whether it is a number or not. -/
theorem ofPair?_self (x : Float) : ofPair? x x = some zero := by
  rcases ofPair?_cases x x with ⟨_, h⟩ | ⟨hno, _⟩ | ⟨hno, _⟩
  · exact h
  all_goals
    cases hx : x.isNaN with
    | true => exact absurd (Or.inl ⟨hx, hx⟩) hno
    | false => exact absurd (Or.inr (Binary64.beq_self hx)) hno

/-- A list is paired with itself element by element. -/
theorem ofPair?_of_mem_zip {xs : List Float} {p : Float × Float} (hp : p ∈ xs.zip xs) :
    ofPair? p.1 p.2 = some zero := by
  rcases List.mem_iff_getElem.mp hp with ⟨i, hi, rfl⟩
  rw [List.getElem_zip]
  exact ofPair?_self _

theorem foldl_join_zero {ds : List Deviation} (hds : ∀ d ∈ ds, d = zero) :
    ds.foldl join zero = zero := by
  induction ds with
  | nil => rfl
  | cons d ds ih =>
      have hjoin : zero.join zero = zero := by
        unfold join zero
        rw [Binary64.maxNum_zero (Or.inl rfl)]
      rw [List.foldl_cons, hds d List.mem_cons_self, hjoin]
      exact ih fun e he => hds e (List.mem_cons_of_mem d he)

/-- No list of doubles deviates from itself. -/
theorem ofLists?_self (xs : List Float) : ofLists? xs xs = some zero := by
  rcases ofLists?_cases xs xs with ⟨ds, hds, _, hback⟩ | ⟨_, p, hp, hnone⟩
  · rw [hds, foldl_join_zero]
    intro d hd
    rcases hback d hd with ⟨p, hp, hpd⟩
    exact Option.some.inj (hpd.symm.trans (ofPair?_of_mem_zip hp))
  · exact nomatch hnone.symm.trans (ofPair?_of_mem_zip hp)

end Deviation

/-- Whether a record tells of no difference: the outputs match without a deviation,
    and the numbers in them are the same. -/
structure Comparison.IsFlawless (c : Comparison) : Prop where
  isMatch : c.isMatch = true
  deviation : c.deviation = 0
  values : c.referenceValues = c.candidateValues

namespace Comparator

variable (c : Comparator)

/-- A list of doubles matches itself, provided that some deviation is tolerated. -/
theorem compareValues_isFlawless (hepsilon : 0 ≤ c.epsilon) (index : Nat) (rt kt : String)
    (xs : List Float) : (c.compareValues index rt kt xs xs).IsFlawless := by
  unfold compareValues
  rw [Deviation.ofLists?_self]
  refine ⟨?_, c.governing_zero, rfl⟩
  change decide (c.governing .zero ≤ c.epsilon) = true
  rw [c.governing_zero]
  exact decide_eq_true hepsilon

/-- Equal outputs that can be read differ in nothing. -/
theorem compare_isFlawless (hepsilon : 0 ≤ c.epsilon) {r k : Outcome} (hr : r.status = .ok)
    (hk : k.status = .ok) (hstdout : r.stdout = k.stdout) (hread : c.CanRead r.stdout) :
    (c.compare r k).IsFlawless := by
  rcases hread with ⟨text, htext, hnumbers⟩
  have htext' : c.extractor.extract? k.stdout = some text := hstdout ▸ htext
  rcases c.compare_cases r k with ⟨hne, _⟩ | ⟨_, d, hd, _⟩ | ⟨_, _, hnone, _⟩ |
    ⟨_, _, _, _, hnone, _⟩ | ⟨_, _, rt, kt, hrt, hkt, h⟩
  · exact absurd hr hne
  · rw [hk] at hd
    exact nomatch hd
  · exact nomatch htext.symm.trans hnone
  · exact nomatch htext'.symm.trans hnone
  · cases htext.symm.trans hrt
    cases htext'.symm.trans hkt
    rw [h]
    rcases c.compareTexts_cases r k text text with ⟨hkind, h⟩ | ⟨_, _, h⟩ | ⟨_, hne, _⟩
    · rcases hnumbers hkind with ⟨xs, hxs⟩
      rw [h]
      -- The same numbers are read off both texts.
      rcases c.compareNumbers_cases r k text text with ⟨hnone, _⟩ | ⟨_, _, hnone, _⟩ |
        ⟨rs, ks, hrs, hks, hlength, _⟩ | ⟨rs, ks, hrs, hks, _, h⟩
      · exact nomatch hxs.symm.trans hnone
      · exact nomatch hxs.symm.trans hnone
      · cases hrs.symm.trans hks
        exact absurd rfl hlength
      · cases hrs.symm.trans hks
        rw [h]
        exact c.compareValues_isFlawless hepsilon _ _ _ _
    · rw [h]
      exact ⟨rfl, rfl, rfl⟩
    · exact absurd rfl hne

end Comparator

/-- Whether a report tells of no difference: no case failed, nothing deviates, and
    the distribution test found the samples alike, if there was one. -/
structure Report.IsClean (r : Report) : Prop where
  failures : r.failures = 0
  maxDeviation : r.maxDeviation = 0
  meanDeviation : r.meanDeviation = 0
  similarity : (r.similarity = .pass ∧ r.ksStatistic = some 0 ∧ r.ksPValue = some 1) ∨
    (r.similarity = .notApplicable ∧ r.ksStatistic = none ∧ r.ksPValue = none)

namespace Policy

section

variable {records : List Comparison} (policy : Policy) (kind : OutputKind)

/-- The numbers of records of no difference are the same on both sides, and so is
    what the distribution test is made of. -/
theorem testDistributions?_of_flawless (hrecords : ∀ r ∈ records, r.IsFlawless) :
    policy.testDistributions? kind records = none ∨
      policy.testDistributions? kind records = some ⟨0, 1⟩ := by
  have hvalues : records.flatMap (·.referenceValues) = records.flatMap (·.candidateValues) :=
    List.flatMap_congr fun r hr => (hrecords r hr).values
  unfold testDistributions?
  dsimp only
  rw [hvalues]
  split
  · exact Or.inl rfl
  · exact KolmogorovSmirnov.compareSamples?_self _

theorem deviations_of_flawless (hrecords : ∀ r ∈ records, r.IsFlawless) :
    ∀ x ∈ records.map (·.deviation), x = 0 := by
  intro x hx
  rcases List.mem_map.mp hx with ⟨r, hr, rfl⟩
  exact (hrecords r hr).deviation

/-- A report of records of no difference tells of none. -/
theorem isClean_certify (hsignificance : policy.significance ≤ 1) (hne : records ≠ [])
    (hrecords : ∀ r ∈ records, r.IsFlawless) : (policy.certify kind records).IsClean := by
  have hperm := inCaseOrder_perm records
  have hordered : ∀ r ∈ inCaseOrder records, r.IsFlawless :=
    fun r hr => hrecords r (mem_inCaseOrder.mp hr)
  have hne' : inCaseOrder records ≠ [] := by
    intro hnil
    rw [hnil] at hperm
    exact hne hperm.nil_eq.symm
  rw [policy.certify_of_ne_nil kind hne]
  generalize inCaseOrder records = ordered at hordered hne'
  have hdeviations := deviations_of_flawless hordered
  refine ⟨?_, ?_, ?_, ?_⟩
  · exact List.length_eq_zero_iff.mpr
      (filter_failed_eq_nil.mpr fun r hr => (hordered r hr).isMatch)
  · exact Binary64.foldl_maxNum_eq_zero fun x hx => Or.inl (hdeviations x hx)
  · change meanDeviation ordered = 0
    unfold meanDeviation
    rw [Binary64.foldl_add_zero hdeviations (fun h => hne' (List.map_eq_nil_iff.mp h))]
    exact Binary64.zero_div (Binary64.ofNat_pos (fun h => hne' (List.length_eq_zero_iff.mp h)))
  · unfold certifyOrdered
    dsimp only
    rcases policy.testDistributions?_of_flawless kind hordered with h | h
    · rw [h]
      exact Or.inr ⟨rfl, rfl, rfl⟩
    · rw [h]
      refine Or.inl ⟨?_, rfl, rfl⟩
      exact if_pos (decide_eq_true hsignificance)

/-- Records of no difference are certified if there are enough of them. -/
theorem certify_certified_iff (hmax : 0 ≤ policy.maxDeviation)
    (hsignificance : policy.significance ≤ 1) (hne : records ≠ [])
    (hrecords : ∀ r ∈ records, r.IsFlawless) :
    (policy.certify kind records).verdict = .certified ↔
      policy.minConfidence ≤ wilsonBound .binary64 records.length records.length policy.z := by
  have hnan : ∀ r ∈ records, r.isMatch = true → r.deviation.isNaN = false := by
    intro r hr _
    rw [(hrecords r hr).deviation]
    exact Deviation.isNaN_zero
  have hall : ∀ r ∈ records, r.isMatch = true ∧ r.deviation ≤ policy.maxDeviation := by
    intro r hr
    rw [(hrecords r hr).deviation]
    exact ⟨(hrecords r hr).isMatch, hmax⟩
  have hsimilarity : (policy.certify kind records).similarity ≠ .fail := by
    rcases (policy.isClean_certify kind hsignificance hne hrecords).similarity with
      ⟨h, _⟩ | ⟨h, _⟩
    · rw [h]
      exact Similarity.noConfusion
    · rw [h]
      exact Similarity.noConfusion
  rw [policy.certify_iff kind hne hmax hnan]
  exact ⟨fun h => h.2.1, fun h => ⟨hall, h, hsimilarity⟩⟩

end

end Policy

end Concordance
