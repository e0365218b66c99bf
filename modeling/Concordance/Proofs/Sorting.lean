import Mathlib.Data.List.Nodup
import Mathlib.Data.List.Sort

/-!
# Sorting by a Key

What sorting a list by a key gives, and when it does not matter how the list was
ordered before.

Sorting keeps values with equal keys in the order they came in. Only where no two keys
are equal is the outcome a matter of the values alone.

## Theorems

* `pairwise_mergeSort_key`: The keys ascend.
* `filter_mergeSort_key`: Values with one key keep their order.
* `mergeSort_key_eq_of_perm`: Values with different keys have one order.
-/

namespace Concordance

variable {α β : Type} [LinearOrder β] (key : α → β)

theorem key_le_trans (a b c : α) (hab : decide (key a ≤ key b) = true)
    (hbc : decide (key b ≤ key c) = true) : decide (key a ≤ key c) = true :=
  decide_eq_true ((of_decide_eq_true hab).trans (of_decide_eq_true hbc))

theorem key_le_total (a b : α) : (decide (key a ≤ key b) || decide (key b ≤ key a)) = true := by
  rw [Bool.or_eq_true, decide_eq_true_eq, decide_eq_true_eq]
  exact le_total _ _

/-- After sorting by a key the keys ascend. -/
theorem pairwise_mergeSort_key (xs : List α) :
    (xs.mergeSort fun a b => decide (key a ≤ key b)).Pairwise fun a b => key a ≤ key b :=
  (List.pairwise_mergeSort (key_le_trans key) (key_le_total key) xs).imp of_decide_eq_true

/-- Values with one key keep the order in which they came. -/
theorem filter_mergeSort_key (xs : List α) (k : β) :
    (xs.mergeSort fun a b => decide (key a ≤ key b)).filter (fun a => decide (key a = k))
      = xs.filter fun a => decide (key a = k) := by
  have hkey : ∀ a ∈ xs.filter (fun a => decide (key a = k)), key a = k :=
    fun a ha => of_decide_eq_true (List.mem_filter.mp ha).2
  -- They are sorted as they stand, so sorting the others around them leaves them be.
  have hsorted : (xs.filter fun a => decide (key a = k)).Pairwise
      fun a b => decide (key a ≤ key b) = true :=
    List.pairwise_of_forall_mem_list fun a ha b hb =>
      decide_eq_true ((hkey a ha).trans (hkey b hb).symm).le
  have hsublist :=
    List.sublist_mergeSort (key_le_trans key) (key_le_total key) hsorted List.filter_sublist
  have hkept := hsublist.filter fun a => decide (key a = k)
  rw [List.filter_filter, funext fun a => Bool.and_self _] at hkept
  exact (hkept.eq_of_length ((List.mergeSort_perm xs _).filter _).length_eq.symm).symm

/-- Values with different keys are sorted into the same list, whatever their order was. -/
theorem mergeSort_key_eq_of_perm {xs ys : List α} (hperm : xs.Perm ys)
    (hnodup : (xs.map key).Nodup) :
    (xs.mergeSort fun a b => decide (key a ≤ key b))
      = ys.mergeSort fun a b => decide (key a ≤ key b) := by
  have hxs := List.mergeSort_perm xs fun a b => decide (key a ≤ key b)
  have hys := List.mergeSort_perm ys fun a b => decide (key a ≤ key b)
  refine (hxs.trans (hperm.trans hys.symm)).eq_of_pairwise ?_
    (pairwise_mergeSort_key key xs) (pairwise_mergeSort_key key ys)
  intro a b ha hb hab hba
  -- Values that neither come first have one key, and there is one such value.
  have ha' : a ∈ xs := hxs.mem_iff.mp ha
  have hb' : b ∈ xs := hperm.mem_iff.mpr (hys.mem_iff.mp hb)
  exact List.inj_on_of_nodup_map hnodup ha' hb' (le_antisymm hab hba)

end Concordance
