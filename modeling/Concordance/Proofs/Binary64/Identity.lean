import Concordance.Proofs.Binary64.Rounding

/-!
# Equal Doubles

What becomes of doubles that are compared with themselves.

A double is equal to itself unless it is NaN, and its distance from itself is zero
unless it is NaN or infinite. So whatever measures a difference of equal doubles
either finds none or finds a NaN, which the largest of several values ignores. Nor
does a product with zero lead far: it is a zero of either sign, or NaN, and so is
whatever is multiplied with it.

## Main definitions

* `IsNull`: A zero of either sign, or NaN.

## Theorems

* `beq_self`, `beq_comm`: A double that is not NaN is equal to itself, and equality is mutual.
* `abs_sub_self`, `foldl_maxNum_eq_zero`: The largest distance of equal doubles.
* `IsNull.mul`, `mul_comm`: Products with zero.
* `exp_of_isNull`: The exponential of what they are.
* `foldl_add_zero`: Sums of zeros.
-/

namespace Concordance

namespace Binary64

open Float.Model (UnpackedFloat Format)
open Float.Model.UnpackedFloat

theorem beq_self {x : Float} (hx : x.isNaN = false) : (x == x) = true :=
  (beq_iff x x).mpr ⟨hx, hx, rfl⟩

theorem beq_comm (x y : Float) : (x == y) = (y == x) := by
  rw [Bool.eq_iff_iff, beq_iff, beq_iff, and_left_comm, eq_comm (a := placeOf x)]

/-- The difference of a decoded double and itself is zero, or NaN. -/
theorem sub_self_cases (u : UnpackedFloat) :
    UnpackedFloat.sub .binary64 u u = .zero .positive ∨
      UnpackedFloat.sub .binary64 u u = .notANumber := by
  cases u with
  | notANumber => exact Or.inr rfl
  | infinity s => cases s <;> exact Or.inr rfl
  | zero s => cases s <;> exact Or.inl rfl
  | finite s m e hm =>
      refine Or.inl ?_
      unfold UnpackedFloat.sub UnpackedFloat.normalize
      dsimp only
      rw [Int.sub_self]
      rfl

/-- A double is not away from itself, as far as that can be told. -/
theorem abs_sub_self (x : Float) : (x - x).abs = 0 ∨ (x - x).abs.isNaN = true := by
  have hsub : x - x = .ofModel (.pack
      (UnpackedFloat.sub .binary64 x.toModel.unpack x.toModel.unpack)) := rfl
  rcases sub_self_cases x.toModel.unpack with h | h
  · rw [hsub, h]
    exact Or.inl rfl
  · rw [hsub, h]
    exact Or.inr rfl

theorem maxNum_zero {x : Float} (hx : x = 0 ∨ x.isNaN = true) : maxNum 0 x = 0 := by
  have hzero : (0 : Float).isNaN = false := by decide +kernel
  unfold maxNum
  rw [hzero, if_neg Bool.false_ne_true]
  rcases hx with rfl | hx
  · exact ite_self 0
  · refine if_neg fun hlt => ?_
    exact Bool.false_ne_true (((lt_iff 0 x).mp hlt).2.1.symm.trans hx)

/-- Nothing is larger than zero where there is nothing but zeros and NaNs. -/
theorem foldl_maxNum_eq_zero {xs : List Float} (hxs : ∀ x ∈ xs, x = 0 ∨ x.isNaN = true) :
    xs.foldl maxNum 0 = 0 := by
  induction xs with
  | nil => rfl
  | cons x xs ih =>
      rw [List.foldl_cons, maxNum_zero (hxs x List.mem_cons_self)]
      exact ih fun y hy => hxs y (List.mem_cons_of_mem x hy)

/-- Whether a double is what products with zero are: a zero, of either sign, or NaN. -/
def IsNull (x : Float) : Prop :=
  x = 0 ∨ x = -0 ∨ x = 0 / 0

theorem isNull_zero : IsNull 0 :=
  Or.inl rfl

theorem IsNull.unpack {x : Float} (hx : IsNull x) :
    x.toModel.unpack = .notANumber ∨ ∃ s, x.toModel.unpack = .zero s := by
  rcases hx with rfl | rfl | rfl
  · exact Or.inr ⟨.positive, rfl⟩
  · exact Or.inr ⟨.negative, rfl⟩
  · exact Or.inl rfl

theorem isNull_pack_zero (s : Sign) : IsNull (.ofModel (.pack (.zero s))) := by
  cases s with
  | positive => exact Or.inl rfl
  | negative => exact Or.inr (Or.inl rfl)

/-- Products with zero do not leave the zeros, but for NaN. -/
theorem IsNull.mul {x : Float} (hx : IsNull x) (y : Float) : IsNull (x * y) := by
  have hnan : IsNull (.ofModel (.pack .notANumber)) := Or.inr (Or.inr rfl)
  have hmul : x * y = .ofModel (.pack
      (UnpackedFloat.mul .binary64 x.toModel.unpack y.toModel.unpack)) := rfl
  rw [hmul]
  rcases hx.unpack with h | ⟨s, h⟩
  · rw [h]
    exact hnan
  · rw [h]
    cases y.toModel.unpack with
    | notANumber => exact hnan
    | infinity t => exact hnan
    | zero t => exact isNull_pack_zero (s * t)
    | finite t m e hm => exact isNull_pack_zero (s * t)

/-- A product is rounded once both factors are in it, so their order does not count. -/
theorem mul_comm (x y : Float) : x * y = y * x := by
  have hsign : ∀ s t : Sign, s * t = t * s := by
    intro s t
    cases s <;> cases t <;> rfl
  have hcomm : ∀ u v : UnpackedFloat,
      UnpackedFloat.mul .binary64 u v = UnpackedFloat.mul .binary64 v u := by
    intro u v
    cases u <;> cases v <;> unfold UnpackedFloat.mul <;> dsimp only
    case finite.finite s m e hm s' m' e' hm' =>
      rw [hsign s s', Nat.mul_comm m m', Int.add_comm e e']
    all_goals rw [hsign]
  change Float.ofModel (.pack (UnpackedFloat.mul .binary64 x.toModel.unpack y.toModel.unpack))
    = .ofModel (.pack (UnpackedFloat.mul .binary64 y.toModel.unpack x.toModel.unpack))
  rw [hcomm]

theorem exp_of_isNull {x : Float} (hx : IsNull x) : exp x = 1 ∨ exp x = 0 / 0 := by
  rcases hx with rfl | rfl | rfl
  · exact Or.inl (by decide +kernel)
  · exact Or.inl (by decide +kernel)
  · exact Or.inr (by decide +kernel)

/-- Zeros add up to zero, and the sum of none is the zero that it begins with. -/
theorem foldl_add_zero {xs : List Float} (hxs : ∀ x ∈ xs, x = 0) (hne : xs ≠ []) :
    xs.foldl (· + ·) (-0.0) = 0 := by
  have hzeros : ∀ ys : List Float, (∀ y ∈ ys, y = 0) → ys.foldl (· + ·) (0 : Float) = 0 := by
    intro ys
    induction ys with
    | nil => exact fun _ => rfl
    | cons y ys ih =>
        intro hys
        have hsum : (0 : Float) + 0 = 0 := by decide +kernel
        rw [List.foldl_cons, hys y List.mem_cons_self, hsum]
        exact ih fun z hz => hys z (List.mem_cons_of_mem y hz)
  cases xs with
  | nil => exact absurd rfl hne
  | cons x xs =>
      -- The negative zero is gone with the first of them.
      have hsum : (-0.0 : Float) + 0 = 0 := by decide +kernel
      rw [List.foldl_cons, hxs x List.mem_cons_self, hsum]
      exact hzeros xs fun y hy => hxs y (List.mem_cons_of_mem x hy)

end Binary64

end Concordance
