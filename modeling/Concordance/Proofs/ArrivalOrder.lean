import Concordance.Proofs.Certification
import Concordance.Report.Format

/-!
# The Order of Arrival

A report does not tell in which order the records came in.

Sums of doubles depend on the order of their terms, and so does the pooled sample of
a distribution test and the list of failures. Certification puts the records in the
order of their cases before it computes anything. That order is the only one of its
kind if no two records are about one case, so whatever is computed afterwards, down to
the last bit and the last character, is the same.

Two records of one case would stay in the order of their arrival. No run gives such
records, since every case has one.

## Theorems

* `failureDetails_pairwise`: Failures are listed by their cases.
* `certify_eq_of_perm`: Reports and their texts do not depend on the order of arrival.
-/

namespace Concordance

namespace Policy

theorem inCaseOrder_pairwise (records : List Comparison) :
    (inCaseOrder records).Pairwise fun a b => a.index ≤ b.index :=
  pairwise_mergeSort_key Comparison.index records

section

variable (policy : Policy) (kind : OutputKind) {records records' : List Comparison}

/-- The failures of a report stand in the order of their cases, each case once. -/
theorem failureDetails_pairwise (hnodup : (records.map Comparison.index).Nodup) :
    ((policy.certify kind records).failureDetails.map Failure.index).Pairwise (· < ·) := by
  unfold certify
  by_cases hempty : records.isEmpty = true
  · rw [if_pos hempty]
    exact List.Pairwise.nil
  · rw [if_neg hempty]
    have hdistinct : ((inCaseOrder records).map Comparison.index).Nodup :=
      ((inCaseOrder_perm records).map _).nodup_iff.mpr hnodup
    have hsorted := (inCaseOrder_pairwise records).and (List.pairwise_map.mp hdistinct)
    unfold certifyOrdered
    dsimp only
    -- The failures are some of the sorted records.
    rw [List.map_map, List.pairwise_map]
    exact (hsorted.sublist List.filter_sublist).imp fun h => Nat.lt_of_le_of_ne h.1 h.2

/-- The report of records of different cases is the same in whatever order they come in,
    and so is its text in every format with every number of failures shown. -/
theorem certify_eq_of_perm (hperm : records.Perm records')
    (hnodup : (records.map Comparison.index).Nodup) :
    policy.certify kind records = policy.certify kind records' ∧
      ∀ (cap : Nat) (format : ReportFormat),
        (policy.certify kind records).render cap format
          = (policy.certify kind records').render cap format := by
  have hreport : policy.certify kind records = policy.certify kind records' := by
    unfold certify
    -- Everything is computed from the sorted records, which are the same.
    rw [inCaseOrder, inCaseOrder, mergeSort_key_eq_of_perm Comparison.index hperm hnodup,
      hperm.isEmpty_eq]
  exact ⟨hreport, fun cap format => by rw [hreport]⟩

end

/-- Records with deviations so far apart that their sum depends on the order. -/
private def arrivals : List Comparison :=
  [{ Comparison.agreement 2 with deviation := Float.ofNat (2 ^ 53) },
    { Comparison.agreement 0 with deviation := Float.ofNat 1 },
    Comparison.failure 1 .candidateTimeout]

/-- The mean would be another one if the records were taken as they come in. -/
theorem certify_eq_of_perm_arrivals :
    let policy : Policy := .ofProfile .standard
    arrivals.Perm arrivals.reverse ∧ (arrivals.map Comparison.index).Nodup ∧
      meanDeviation arrivals ≠ meanDeviation arrivals.reverse ∧
      policy.certify .absolute arrivals = policy.certify .absolute arrivals.reverse := by
  intro policy
  have hperm : arrivals.Perm arrivals.reverse := (List.reverse_perm arrivals).symm
  have hnodup : (arrivals.map Comparison.index).Nodup := by decide
  exact ⟨hperm, hnodup, by decide +kernel, (policy.certify_eq_of_perm .absolute hperm hnodup).1⟩

end Policy

end Concordance
