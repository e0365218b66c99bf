import Concordance.Binary64
import Mathlib.Data.Prod.Lex
import Mathlib.Order.Compare

/-!
# The Order of Doubles

What comparisons of doubles and the larger of two of them amount to.

Doubles are compared by cases on what they are made of. `place` puts all of that
into one linear order, which leaves NaN as the only exception: a comparison is
true if neither side is NaN and the places compare that way. From there on the
usual reasoning about orders applies, and a largest value that ignores NaN can be
taken apart into the values that it was taken of.

## Main definitions

* `rank`, `offset`: The kind of a decoded double, and where it stands within it.
* `place`: Where a decoded double stands.

## Theorems

* `compare_place`: Decoded doubles compare as their places do.
* `le_iff`, `lt_iff`, `beq_iff`: Comparisons of doubles in terms of places.
* `maxNum_le_iff`, `foldl_maxNum_le_iff`: When a largest value is within a bound.
-/

namespace Concordance

namespace Binary64

open Float.Model (UnpackedFloat)

/-- The kind of a decoded double, in the order in which the kinds stand. -/
def rank : UnpackedFloat → ℤ
  | .infinity .negative => -2
  | .finite .negative _ _ _ => -1
  | .notANumber | .zero _ => 0
  | .finite .positive _ _ _ => 1
  | .infinity .positive => 2

/-- Where a decoded double stands within its kind: by exponent, then by mantissa,
    both the other way for negative numbers. -/
def offset : UnpackedFloat → ℤ ×ₗ ℤ
  | .finite .negative m e _ => toLex (-e, -m)
  | .finite .positive m e _ => toLex (e, m)
  | _ => toLex (0, 0)

/-- Where a decoded double stands. The place of a NaN has no meaning. -/
def place (x : UnpackedFloat) : ℤ ×ₗ ℤ ×ₗ ℤ :=
  toLex (rank x, offset x)

theorem compare_toLex (a b : ℤ) {α : Type} [LinearOrder α] (p q : α) :
    compare (toLex (a, p)) (toLex (b, q)) = (compare a b).then (compare p q) := by
  rcases lt_trichotomy a b with h | h | h
  · rw [compare_lt_iff_lt.mpr h]
    exact compare_lt_iff_lt.mpr (Prod.Lex.toLex_lt_toLex.mpr (Or.inl h))
  · subst h
    rw [compare_eq_iff_eq.mpr rfl]
    rcases lt_trichotomy p q with h | h | h
    · rw [compare_lt_iff_lt.mpr h]
      exact compare_lt_iff_lt.mpr (Prod.Lex.toLex_lt_toLex.mpr (Or.inr ⟨rfl, h⟩))
    · rw [compare_eq_iff_eq.mpr h, h]
      exact compare_eq_iff_eq.mpr rfl
    · rw [compare_gt_iff_gt.mpr h]
      exact compare_gt_iff_gt.mpr (Prod.Lex.toLex_lt_toLex.mpr (Or.inr ⟨rfl, h⟩))
  · rw [compare_gt_iff_gt.mpr h]
    exact compare_gt_iff_gt.mpr (Prod.Lex.toLex_lt_toLex.mpr (Or.inl h))

theorem compare_neg (a b : ℤ) : compare (-a) (-b) = (compare a b).swap := by
  rcases lt_trichotomy a b with h | h | h
  · rw [compare_lt_iff_lt.mpr h, compare_gt_iff_gt.mpr (Int.neg_lt_neg h)]
    rfl
  · rw [h, compare_eq_iff_eq.mpr rfl, compare_eq_iff_eq.mpr rfl]
    rfl
  · rw [compare_gt_iff_gt.mpr h, compare_lt_iff_lt.mpr (Int.neg_lt_neg h)]
    rfl

theorem compare_natCast (m n : ℕ) : compare (m : ℤ) (n : ℤ) = compare m n := by
  rcases lt_trichotomy m n with h | h | h
  · rw [compare_lt_iff_lt.mpr h, compare_lt_iff_lt.mpr (Int.ofNat_lt.mpr h)]
  · rw [h, compare_eq_iff_eq.mpr rfl, compare_eq_iff_eq.mpr rfl]
  · rw [compare_gt_iff_gt.mpr h, compare_gt_iff_gt.mpr (Int.ofNat_lt.mpr h)]

/-- Decoded doubles compare as their places do, unless one of them is NaN. -/
theorem compare_place {x y : UnpackedFloat} (hx : x.isNaN = false) (hy : y.isNaN = false) :
    x.compare y = some (compare (place x) (place y)) := by
  rw [place, place, compare_toLex]
  cases x with
  | notANumber => exact nomatch hx
  | infinity s =>
      cases y with
      | notANumber => exact nomatch hy
      | infinity t | zero t => cases s <;> cases t <;> decide
      | finite t m e h => cases s <;> cases t <;> rfl
  | zero s =>
      cases y with
      | notANumber => exact nomatch hy
      | infinity t | zero t => cases s <;> cases t <;> decide
      | finite t m e h => cases t <;> rfl
  | finite s m e h =>
      cases y with
      | notANumber => exact nomatch hy
      | infinity t | zero t => cases s <;> cases t <;> rfl
      | finite t n f h' =>
          cases s with
          | positive =>
              cases t with
              | positive =>
                  change _ = some (compare (toLex (e, (m : ℤ))) (toLex (f, (n : ℤ))))
                  rw [compare_toLex, compare_natCast]
                  rfl
              | negative => rfl
          | negative =>
              cases t with
              | positive => rfl
              | negative =>
                  -- What is larger in magnitude is lower.
                  change _ = some (compare (toLex (-e, -(m : ℤ))) (toLex (-f, -(n : ℤ))))
                  rw [compare_toLex, compare_neg, compare_neg, compare_natCast,
                    ← Ordering.swap_then]
                  rfl

theorem compare_eq_none {x y : UnpackedFloat} (h : x.isNaN = true ∨ y.isNaN = true) :
    x.compare y = none := by
  rcases h with h | h
  · cases x with
    | notANumber => rfl
    | _ => exact nomatch h
  · cases y with
    | notANumber => cases x <;> rfl
    | _ => exact nomatch h

/-- Where a double stands. -/
def placeOf (x : Float) : ℤ ×ₗ ℤ ×ₗ ℤ :=
  place x.toModel.unpack

theorem le_eq_unpack (x y : Float) : x ≤ y ↔ x.toModel.unpack.le y.toModel.unpack = true := by
  change decide (x.toModel ≤ y.toModel) = true ↔ _
  rw [decide_eq_true_eq]
  rfl

theorem lt_eq_unpack (x y : Float) : x < y ↔ x.toModel.unpack.lt y.toModel.unpack = true := by
  change decide (x.toModel < y.toModel) = true ↔ _
  rw [decide_eq_true_eq]
  rfl

/-- One double is at most another if neither is NaN and its place is no higher. -/
theorem le_iff (x y : Float) :
    x ≤ y ↔ x.isNaN = false ∧ y.isNaN = false ∧ placeOf x ≤ placeOf y := by
  rw [le_eq_unpack, UnpackedFloat.le]
  by_cases hx : x.isNaN = true
  · rw [compare_eq_none (Or.inl hx), hx]
    exact iff_of_false nofun nofun
  · by_cases hy : y.isNaN = true
    · rw [compare_eq_none (Or.inr hy), hy]
      exact iff_of_false nofun nofun
    · rw [Bool.not_eq_true] at hx hy
      rw [compare_place hx hy, hx, hy, Option.any_some]
      simp only [true_and]
      exact Ordering.isLE_iff_ne_gt.trans compare_le_iff_le

theorem lt_iff (x y : Float) :
    x < y ↔ x.isNaN = false ∧ y.isNaN = false ∧ placeOf x < placeOf y := by
  rw [lt_eq_unpack, UnpackedFloat.lt]
  by_cases hx : x.isNaN = true
  · rw [compare_eq_none (Or.inl hx), hx]
    exact iff_of_false nofun nofun
  · by_cases hy : y.isNaN = true
    · rw [compare_eq_none (Or.inr hy), hy]
      exact iff_of_false nofun nofun
    · rw [Bool.not_eq_true] at hx hy
      rw [compare_place hx hy, hx, hy]
      simp only [true_and, beq_iff_eq, Option.some.injEq]
      exact compare_lt_iff_lt

/-- Two doubles are equal if neither is NaN and they stand in one place. -/
theorem beq_iff (x y : Float) :
    (x == y) = true ↔ x.isNaN = false ∧ y.isNaN = false ∧ placeOf x = placeOf y := by
  change (x.toModel.unpack.compare y.toModel.unpack == some .eq) = true ↔ _
  by_cases hx : x.isNaN = true
  · rw [compare_eq_none (Or.inl hx), hx]
    exact iff_of_false nofun nofun
  · by_cases hy : y.isNaN = true
    · rw [compare_eq_none (Or.inr hy), hy]
      exact iff_of_false nofun nofun
    · rw [Bool.not_eq_true] at hx hy
      rw [compare_place hx hy, hx, hy]
      simp only [true_and, beq_iff_eq, Option.some.injEq]
      exact compare_eq_iff_eq

theorem isNaN_maxNum {x y : Float} (hx : x.isNaN = false) (hy : y.isNaN = false) :
    (maxNum x y).isNaN = false := by
  unfold maxNum
  rw [hx, if_neg Bool.false_ne_true]
  split
  · exact hy
  · exact hx

/-- The larger of two doubles is within a bound if both are. -/
theorem maxNum_le_iff {x y : Float} (hx : x.isNaN = false) (hy : y.isNaN = false) (b : Float) :
    maxNum x y ≤ b ↔ x ≤ b ∧ y ≤ b := by
  unfold maxNum
  rw [hx, if_neg Bool.false_ne_true]
  by_cases hlt : x < y
  · rw [if_pos hlt]
    refine ⟨fun h => ⟨?_, h⟩, And.right⟩
    rcases (le_iff y b).mp h with ⟨_, hb, hle⟩
    exact (le_iff x b).mpr ⟨hx, hb, le_trans (le_of_lt ((lt_iff x y).mp hlt).2.2) hle⟩
  · rw [if_neg hlt]
    refine ⟨fun h => ⟨h, ?_⟩, And.left⟩
    -- What is not lower is no lower than the other one, for neither is NaN.
    rcases (le_iff x b).mp h with ⟨_, hb, hle⟩
    have hyx : placeOf y ≤ placeOf x := not_lt.mp fun h => hlt ((lt_iff x y).mpr ⟨hx, hy, h⟩)
    exact (le_iff y b).mpr ⟨hy, hb, le_trans hyx hle⟩

/-- The largest of several doubles is within a bound if all of them are, the one
    included that the search begins with. -/
theorem foldl_maxNum_le_iff (b : Float) (xs : List Float) : ∀ {x : Float}, x.isNaN = false →
    (∀ y ∈ xs, y.isNaN = false) → (xs.foldl maxNum x ≤ b ↔ x ≤ b ∧ ∀ y ∈ xs, y ≤ b) := by
  induction xs with
  | nil =>
      intro x _ _
      exact ⟨fun h => ⟨h, nofun⟩, And.left⟩
  | cons y ys ih =>
      intro x hx hys
      have hy := hys y List.mem_cons_self
      rw [List.foldl_cons, ih (isNaN_maxNum hx hy) fun z hz => hys z (List.mem_cons_of_mem y hz),
        maxNum_le_iff hx hy, List.forall_mem_cons, and_assoc]

end Binary64

end Concordance
