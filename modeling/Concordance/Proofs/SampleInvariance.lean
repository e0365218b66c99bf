import Concordance.Proofs.Binary64.Distance
import Concordance.Proofs.LargestGap
import Mathlib.Data.List.Forall2

/-!
# What the Test Does Not See

The distribution test sees how the values of two samples stand to one another, and
nothing else.

Neither the order in which the values come nor the NaNs among them make a difference, nor
which of the samples is named first. The values themselves may be replaced too, as long as
the lower one of any two stays the lower one. The walk along the sorted samples goes the
same steps then.

What makes this delicate is that samples are sorted by one order and walked along by
another. Two zeros are told apart by sorting and tie in the walk, so a replacement that
keeps the order of numbers may well turn two neighbours around. The sorted samples need not
match value by value after that, only place by place, and the walk asks for no more.

## Main definitions

* `KeepsOrder`: A relation under which the walk cannot tell values apart.
* `IsIncreasing`: A replacement of numbers that keeps the lower one lower.
* `onNumbers`: A replacement, applied to the numbers among doubles.
* `Follows`: Where a replaced value stands.

## Theorems

* `mergeCounts_of_forall₂`: Related samples are walked along in the same steps.
* `mergeCounts_swap`, `statistic_swap`: The samples the other way round.
* `map_placeOf_ordered`, `forall₂_ordered`: Replaced samples are related after sorting.
* `compareSamples?_of_perm_map`, `compareSamples?_swap`: The result of the test.
* `compareSamples_invariant`: Everything that makes no difference.
-/

namespace Concordance

namespace KolmogorovSmirnov

open Binary64

/-! ### Related samples -/

/-- Whether numbers that are related stand to one another as those they are related to. -/
structure KeepsOrder (R : Float → Float → Prop) : Prop where
  isNaN_eq_false : ∀ {x x' : Float}, R x x' → x.isNaN = false ∧ x'.isNaN = false
  le_iff : ∀ {x x' y y' : Float}, R x x' → R y y' → (x ≤ y ↔ x' ≤ y')

section Related

variable {R : Float → Float → Prop} {xs xs' ys ys' : List Float} {p p' : Float → Bool}

theorem isEmpty_of_forall₂ (h : List.Forall₂ R xs xs') : xs.isEmpty = xs'.isEmpty := by
  cases h <;> rfl

theorem length_takeWhile_of_forall₂ (hp : ∀ z z', R z z' → p z = p' z')
    (h : List.Forall₂ R xs xs') : (xs.takeWhile p).length = (xs'.takeWhile p').length := by
  induction h with
  | nil => rfl
  | @cons z z' zs zs' hz hzs ih =>
      rw [List.takeWhile_cons, List.takeWhile_cons, hp z z' hz]
      cases p' z' with
      | true => exact congrArg (· + 1) ih
      | false => rfl

theorem forall₂_dropWhile (hp : ∀ z z', R z z' → p z = p' z') (h : List.Forall₂ R xs xs') :
    List.Forall₂ R (xs.dropWhile p) (xs'.dropWhile p') := by
  induction h with
  | nil => exact .nil
  | @cons z z' zs zs' hz hzs ih =>
      rw [List.dropWhile_cons, List.dropWhile_cons, hp z z' hz]
      cases p' z' with
      | true => exact ih
      | false => exact .cons hz hzs

/-- A step of the walk goes as far among related values. -/
theorem KeepsOrder.stepPoint_eq (hR : KeepsOrder R) {x x' y y' z z' : Float} (hx : R x x')
    (hy : R y y') (hz : R z z') : (stepPoint x y).holds z = (stepPoint x' y').holds z' := by
  obtain ⟨hnx, hnx'⟩ := hR.isNaN_eq_false hx
  obtain ⟨hny, hny'⟩ := hR.isNaN_eq_false hy
  refine decide_eq_decide.mpr ?_
  rw [le_minNum_iff hnx hny, le_minNum_iff hnx' hny', hR.le_iff hz hx, hR.le_iff hz hy]

/-- Related samples are walked along in the same steps. -/
theorem mergeCounts_of_forall₂ (hR : KeepsOrder R) {steps i j : Nat}
    (hx : List.Forall₂ R xs xs') (hy : List.Forall₂ R ys ys') :
    mergeCounts steps i j xs ys = mergeCounts steps i j xs' ys' := by
  induction steps generalizing i j xs xs' ys ys' with
  | zero => rfl
  | succ steps ih =>
      cases hx with
      | nil => rw [mergeCounts_nil, mergeCounts_nil]
      | cons hx hxs =>
          cases hy with
          | nil => rw [mergeCounts_cons_nil, mergeCounts_cons_nil]
          | cons hy hys =>
              -- Both walks take the same number of values, and related ones are left.
              have hstep := fun z z' (hz : R z z') => hR.stepPoint_eq hx hy hz
              rw [mergeCounts_cons, mergeCounts_cons]
              dsimp only
              rw [length_takeWhile_of_forall₂ hstep (.cons hx hxs),
                length_takeWhile_of_forall₂ hstep (.cons hy hys),
                ih (forall₂_dropWhile hstep (.cons hx hxs))
                  (forall₂_dropWhile hstep (.cons hy hys))]

end Related

/-! ### The other way round -/

section Swap

variable {xs ys : List Float}

theorem stepPoint_comm {x y : Float} (hx : x.isNaN = false) (hy : y.isNaN = false) :
    (stepPoint x y).holds = (stepPoint y x).holds := by
  funext z
  refine decide_eq_decide.mpr ?_
  rw [le_minNum_iff hx hy, le_minNum_iff hy hx, and_comm]

/-- Where the samples change places, so do the counts of every step. -/
theorem mergeCounts_swap {steps i j : Nat} (hx : IsSorted xs) (hy : IsSorted ys) :
    mergeCounts steps j i ys xs = (mergeCounts steps i j xs ys).map Prod.swap := by
  induction steps generalizing i j xs ys with
  | zero => rfl
  | succ steps ih =>
      cases xs with
      | nil =>
          rw [mergeCounts_nil]
          cases ys with
          | nil => exact mergeCounts_nil
          | cons y ys => exact mergeCounts_cons_nil
      | cons x xs =>
          cases ys with
          | nil => rw [mergeCounts_nil, mergeCounts_cons_nil, List.map_nil]
          | cons y ys =>
              have hnx := hx.isNaN_eq_false x List.mem_cons_self
              have hny := hy.isNaN_eq_false y List.mem_cons_self
              rw [mergeCounts_cons, mergeCounts_cons, stepPoint_comm hny hnx]
              dsimp only
              rw [ih (hx.dropWhile _) (hy.dropWhile _), List.map_cons, Prod.swap_prod_mk]

theorem statistic_swap {α : Type} [Sub α] [Div α] {ar : GapArithmetic α}
    (hcomm : ∀ a b : α, ar.abs (a - b) = ar.abs (b - a)) (hx : IsSorted xs) (hy : IsSorted ys) :
    statistic ar ys xs = statistic ar xs ys := by
  unfold statistic counts
  rw [mergeCounts_swap hx hy, Nat.add_comm ys.length, List.map_map]
  exact congrArg (List.foldl ar.larger (ar.ofNat 0))
    (List.map_congr_left fun c _ => gap_swap hcomm _ _ c)

theorem pValue_swap (n m : Nat) (d : Float) : pValue m n d = pValue n m d := by
  unfold pValue
  rw [Nat.mul_comm, Nat.add_comm]

/-- It makes no difference which sample is named first. -/
theorem compareSamples?_swap (xs ys : List Float) :
    compareSamples? ys xs = compareSamples? xs ys := by
  unfold compareSamples?
  dsimp only
  rw [statistic_swap Binary64.abs_sub_comm (isSorted_ordered xs) (isSorted_ordered ys),
    pValue_swap, Bool.or_comm]

end Swap

/-! ### Replaced values -/

/-- Whether a replacement turns numbers into numbers and keeps the lower one of two lower.
    It may turn the two zeros around, which are not lower than one another. -/
structure IsIncreasing (f : Float → Float) : Prop where
  isNaN_eq_false : ∀ {x : Float}, x.isNaN = false → (f x).isNaN = false
  lt_iff : ∀ {x y : Float}, x.isNaN = false → y.isNaN = false → (x < y ↔ f x < f y)

/-- A replacement of the numbers among doubles. -/
def onNumbers (f : Float → Float) (x : Float) : Float :=
  if x.isNaN then x else f x

/-- Whether a number stands where another one does after it is replaced. -/
def Follows (f : Float → Float) (x x' : Float) : Prop :=
  x.isNaN = false ∧ x'.isNaN = false ∧ placeOf (f x) = placeOf x'

section Replaced

variable {f : Float → Float} {xs xs' ys ys' : List Float}

theorem isIncreasing_id : IsIncreasing id :=
  ⟨id, fun _ _ => Iff.rfl⟩

theorem IsIncreasing.placeOf_le_iff (hf : IsIncreasing f) {x y : Float} (hx : x.isNaN = false)
    (hy : y.isNaN = false) : placeOf (f x) ≤ placeOf (f y) ↔ x ≤ y := by
  have hfx := hf.isNaN_eq_false hx
  have hfy := hf.isNaN_eq_false hy
  have hle : f x ≤ f y ↔ placeOf (f x) ≤ placeOf (f y) := by
    rw [Binary64.le_iff, and_iff_right hfx, and_iff_right hfy]
  rw [← hle, ← not_lt_iff_le hfx hfy, ← not_lt_iff_le hx hy, hf.lt_iff hy hx]

theorem IsIncreasing.keepsOrder (hf : IsIncreasing f) : KeepsOrder (Follows f) where
  isNaN_eq_false h := ⟨h.1, h.2.1⟩
  le_iff := by
    rintro x x' y y' ⟨hx, hx', hxplace⟩ ⟨hy, hy', hyplace⟩
    rw [← hf.placeOf_le_iff hx hy, Binary64.le_iff, and_iff_right hx', and_iff_right hy', hxplace,
      hyplace]

theorem IsSorted.pairwise_placeOf (h : IsSorted xs) :
    (xs.map placeOf).Pairwise fun p q => p ≤ q :=
  List.pairwise_map.mpr (h.pairwise.imp fun hle => ((Binary64.le_iff _ _).mp hle).2.2)

/-- After sorting, the values of a sample stand in the places that those they were replaced by
    have among themselves. -/
theorem map_placeOf_ordered (hf : IsIncreasing f)
    (hperm : (numbersOf xs').Perm ((numbersOf xs).map f)) :
    (ordered xs).map (fun x => placeOf (f x)) = (ordered xs').map placeOf := by
  have hx := isSorted_ordered xs
  have hmap : (ordered xs).map (fun x => placeOf (f x)) = ((ordered xs).map f).map placeOf := by
    rw [List.map_map]
    rfl
  have hsorted : ((ordered xs).map fun x => placeOf (f x)).Pairwise fun p q => p ≤ q := by
    refine List.pairwise_map.mpr (hx.pairwise.imp_of_mem fun hmem hmem' hle => ?_)
    exact (hf.placeOf_le_iff (hx.isNaN_eq_false _ hmem) (hx.isNaN_eq_false _ hmem')).mpr hle
  have hpermuted : ((ordered xs).map f).Perm (ordered xs') :=
    ((ordered_perm xs).map f).trans (hperm.symm.trans (ordered_perm xs').symm)
  -- Of the same places there is only one ascending list.
  refine List.Perm.eq_of_pairwise (fun _ _ _ _ => le_antisymm) hsorted
    (isSorted_ordered xs').pairwise_placeOf ?_
  rw [hmap]
  exact hpermuted.map placeOf

/-- Each value is followed by the one it was replaced by, whatever sorting did to zeros. -/
theorem forall₂_ordered (hf : IsIncreasing f)
    (hperm : (numbersOf xs').Perm ((numbersOf xs).map f)) :
    List.Forall₂ (Follows f) (ordered xs) (ordered xs') := by
  have hx := isSorted_ordered xs
  have hx' := isSorted_ordered xs'
  have hplaces := map_placeOf_ordered hf hperm
  have hsame :
      List.Forall₂ (fun x x' => placeOf (f x) = placeOf x') (ordered xs) (ordered xs') := by
    rw [← List.forall₂_map_left_iff (R := fun p x' => p = placeOf x'),
      ← List.forall₂_map_right_iff (R := fun p q => p = q), List.forall₂_eq_eq_eq]
    exact hplaces
  refine List.forall₂_iff_zip.mpr ⟨hsame.length_eq, fun {x x'} hmem => ?_⟩
  obtain ⟨hmemx, hmemx'⟩ := List.of_mem_zip hmem
  exact ⟨hx.isNaN_eq_false x hmemx, hx'.isNaN_eq_false x' hmemx',
    (List.forall₂_iff_zip.mp hsame).2 hmem⟩

/-- The result of the test is that of the numbers among the values, in whatever order they
    come and whatever they are replaced by, provided that the lower one of two stays lower. -/
theorem compareSamples?_of_perm_map (hf : IsIncreasing f)
    (hx : (numbersOf xs').Perm ((numbersOf xs).map f))
    (hy : (numbersOf ys').Perm ((numbersOf ys).map f)) :
    compareSamples? xs' ys' = compareSamples? xs ys := by
  have hxs := forall₂_ordered hf hx
  have hys := forall₂_ordered hf hy
  have hstatistic : statistic .binary64 (ordered xs) (ordered ys)
      = statistic .binary64 (ordered xs') (ordered ys') := by
    unfold statistic counts
    rw [mergeCounts_of_forall₂ hf.keepsOrder hxs hys, hxs.length_eq, hys.length_eq]
  unfold compareSamples?
  dsimp only
  rw [hstatistic, isEmpty_of_forall₂ hxs, isEmpty_of_forall₂ hys, hxs.length_eq, hys.length_eq]

theorem numbersOf_map (hf : IsIncreasing f) (xs : List Float) :
    numbersOf (xs.map (onNumbers f)) = (numbersOf xs).map f := by
  induction xs with
  | nil => rfl
  | cons x xs ih =>
      unfold numbersOf at ih ⊢
      unfold onNumbers at ih ⊢
      cases hx : x.isNaN with
      | true =>
          rw [List.map_cons, if_pos hx, List.filter_cons_of_neg (by rw [hx]; decide),
            List.filter_cons_of_neg (by rw [hx]; decide), ih]
      | false =>
          rw [List.map_cons, hx, if_neg Bool.false_ne_true,
            List.filter_cons_of_pos (by rw [hf.isNaN_eq_false hx]; rfl),
            List.filter_cons_of_pos (by rw [hx]; rfl), ih, List.map_cons]

theorem numbersOf_perm {nans : List Float} (hnans : ∀ x ∈ nans, x.isNaN = true)
    (h : xs'.Perm (nans ++ xs)) : (numbersOf xs').Perm ((numbersOf xs).map id) := by
  have hnone : numbersOf nans = [] :=
    List.filter_eq_nil_iff.mpr fun x hx => by rw [hnans x hx]; decide
  have happend : numbersOf (nans ++ xs) = numbersOf nans ++ numbersOf xs := List.filter_append ..
  have hfilter : (numbersOf xs').Perm (numbersOf (nans ++ xs)) := h.filter _
  rw [happend, hnone, List.nil_append] at hfilter
  rwa [List.map_id]

end Replaced

/-- The test of two samples has the same result, or none, in whatever order the values of
    either come, whatever NaNs stand among them, with the samples the other way round, and
    with all numbers replaced by others that stand to one another in the same way. -/
theorem compareSamples_invariant (xs ys : List Float) :
    (∀ xs' ys' nans nans' : List Float, (∀ x ∈ nans, x.isNaN = true) →
        (∀ y ∈ nans', y.isNaN = true) → xs'.Perm (nans ++ xs) → ys'.Perm (nans' ++ ys) →
        compareSamples? xs' ys' = compareSamples? xs ys) ∧
      compareSamples? ys xs = compareSamples? xs ys ∧
      ∀ f, IsIncreasing f →
        compareSamples? (xs.map (onNumbers f)) (ys.map (onNumbers f)) = compareSamples? xs ys := by
  refine ⟨?_, compareSamples?_swap xs ys, ?_⟩
  · intro xs' ys' nans nans' hnans hnans' hx hy
    exact compareSamples?_of_perm_map isIncreasing_id (numbersOf_perm hnans hx)
      (numbersOf_perm hnans' hy)
  · intro f hf
    refine compareSamples?_of_perm_map hf ?_ ?_
    · rw [numbersOf_map hf]
    · rw [numbersOf_map hf]

/-- Zeros are given the other sign. -/
private def turnZeros (x : Float) : Float :=
  if x == 0 then -x else x

private theorem placeOf_turnZeros {x : Float} (hx : x.isNaN = false) :
    (turnZeros x).isNaN = false ∧ placeOf (turnZeros x) = placeOf x := by
  unfold turnZeros
  by_cases hzero : (x == 0) = true
  · rw [if_pos hzero]
    change x.toModel.unpack.isNaN = false at hx
    change (x.toModel.unpack.compare (.zero .positive) == some .eq) = true at hzero
    change (Float.Model.UnpackedFloat.unpack .binary64 (Float.Model.UnpackedFloat.pack .binary64
      x.toModel.unpack.neg)).isNaN = false ∧ place (Float.Model.UnpackedFloat.unpack .binary64
      (Float.Model.UnpackedFloat.pack .binary64 x.toModel.unpack.neg)) = place x.toModel.unpack
    cases hu : x.toModel.unpack with
    | zero s => cases s <;> exact ⟨rfl, rfl⟩
    | notANumber => exact nomatch hu ▸ hx
    | infinity s | finite s m e hm =>
        rw [hu] at hzero
        cases s <;> exact nomatch hzero
  · rw [if_neg hzero]
    exact ⟨hx, rfl⟩

private theorem isIncreasing_turnZeros : IsIncreasing turnZeros where
  isNaN_eq_false hx := (placeOf_turnZeros hx).1
  lt_iff hx hy := by
    obtain ⟨hx', hxplace⟩ := placeOf_turnZeros hx
    obtain ⟨hy', hyplace⟩ := placeOf_turnZeros hy
    rw [Binary64.lt_iff, Binary64.lt_iff, and_iff_right hx, and_iff_right hy, and_iff_right hx',
      and_iff_right hy', hxplace, hyplace]

/-- A sample with a zero that is sorted to another side when its sign is changed. -/
theorem compareSamples_invariant_zeros :
    let nan := Float.ofBits 0x7ff8000000000000
    let xs := [-0.0, 0.0, 1]
    (∀ x ∈ [nan], x.isNaN = true) ∧ [1, nan, 0.0, -0.0].Perm ([nan] ++ xs) ∧
      IsIncreasing turnZeros ∧ compareSamples? [1, nan, 0.0, -0.0] xs = compareSamples? xs xs ∧
      compareSamples? (xs.map (onNumbers turnZeros)) (xs.map (onNumbers turnZeros))
        = compareSamples? xs xs := by
  intro nan xs
  have hnan : ∀ x ∈ [nan], x.isNaN = true := by decide +kernel
  have hperm : [1, nan, 0.0, -0.0].Perm ([nan] ++ xs) := by decide +kernel
  obtain ⟨hvalues, -, hreplaced⟩ := compareSamples_invariant xs xs
  exact ⟨hnan, hperm, isIncreasing_turnZeros, hvalues _ _ [nan] [] hnan nofun hperm (.refl xs),
    hreplaced turnZeros isIncreasing_turnZeros⟩

end KolmogorovSmirnov

end Concordance
