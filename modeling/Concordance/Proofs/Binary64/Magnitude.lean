import Concordance.Proofs.Binary64.Rounding
import Concordance.Proofs.Binary64.TotalOrder

/-!
# Magnitudes

Doubles without a sign, and the largest of several of them.

A search for the largest value has to begin somewhere, and where nothing can be
negative it begins with zero. The zero must not get in the way: what is found should
be one of the values that were searched, down to the last bit. There are two zeros,
and the search keeps the one that it has. Distances are never the negative one, for
dropping the sign clears the sign bit, and a quotient of two doubles without a sign
has none either.

## Main definitions

* `IsMagnitude`: A number whose sign bit is clear.
* `IsLargestOf`: The largest of several doubles, or zero if there are none.

## Theorems

* `isNegative_pack`: The sign bit of what is packed.
* `isMagnitude_abs`, `isMagnitude_div`: Distances and their quotients.
* `isMagnitude_maxNum`, `isMagnitude_foldl`: The larger of two magnitudes, and the largest of
  several.
* `maxNum_zero_left`: Zero is no larger than a magnitude.
* `foldl_maxNum_filter`, `le_foldl_maxNum`: The largest of several doubles, NaN ignored.
* `isLargestOf_foldl`: The largest of several magnitudes is found from zero on.
-/

namespace Concordance

namespace Binary64

open Float.Model (UnpackedFloat Format)
open Float.Model.UnpackedFloat

/-- Whether a double is a number whose sign bit is clear. -/
structure IsMagnitude (x : Float) : Prop where
  isNaN_eq_false : x.isNaN = false
  isNegative_eq_false : isNegative x = false

/-- Whether a double is the largest of several, or zero if there are none. -/
def IsLargestOf (x : Float) (xs : List Float) : Prop :=
  (xs = [] ∧ x = 0) ∨ (x ∈ xs ∧ ∀ y ∈ xs, y ≤ x)

/-! ### Sign bits -/

theorem isNegative_packComponents (e : BitVec 11) (m : BitVec 52) :
    ¬ 2 ^ 63 ≤ (packComponents .binary64 .positive e m).toNat := by
  intro hneg
  have hsign := ofBitVec_unpackSign (packComponents .binary64 .positive e m)
  rw [unpackSign_packComponents, if_pos hneg] at hsign
  exact Sign.noConfusion hsign

/-- The sign bit of what is packed is clear if its sign is positive. -/
theorem isNegative_pack {u : UnpackedFloat} (h : signOf u = .positive) :
    isNegative (.ofModel (.pack u)) = false := by
  have hpack : ∃ e m, pack .binary64 u = packComponents .binary64 .positive e m := by
    cases u with
    | notANumber => exact ⟨_, _, rfl⟩
    | infinity s | zero s =>
        cases h
        exact ⟨_, _, rfl⟩
    | finite s m e hm =>
        cases h
        unfold pack
        dsimp only
        split
        · exact ⟨_, _, rfl⟩
        · split
          · exact ⟨_, _, rfl⟩
          · exact ⟨_, _, rfl⟩
  obtain ⟨e, m, hpack⟩ := hpack
  refine decide_eq_false ?_
  change ¬ 2 ^ 63 ≤ (pack .binary64 u).toNat
  rw [hpack]
  exact isNegative_packComponents e m

namespace IsMagnitude

variable {x y : Float}

theorem signOf_eq (h : IsMagnitude x) : signOf x.toModel.unpack = .positive := by
  have hbits : ¬ 2 ^ 63 ≤ x.toBits.toNat := of_decide_eq_false h.isNegative_eq_false
  have hsign : signOf x.toModel.unpack = if 2 ^ 63 ≤ x.toBits.toNat then .negative else .positive :=
    signOf_unpack h.isNaN_eq_false
  rw [hsign, if_neg hbits]

/-- A magnitude is infinity, zero, or a finite number with a positive sign. -/
theorem unpack_cases (h : IsMagnitude x) : x.toModel.unpack = .infinity .positive ∨
    x.toModel.unpack = .zero .positive ∨ ∃ m e hm, x.toModel.unpack = .finite .positive m e hm := by
  have hsign := h.signOf_eq
  have hnan : x.toModel.unpack.isNaN = false := h.isNaN_eq_false
  cases hu : x.toModel.unpack with
  | notANumber =>
      rw [hu] at hnan
      exact nomatch hnan
  | infinity s =>
      rw [hu] at hsign
      cases hsign
      exact Or.inl rfl
  | zero s =>
      rw [hu] at hsign
      cases hsign
      exact Or.inr (Or.inl rfl)
  | finite s m e hm =>
      rw [hu] at hsign
      cases hsign
      exact Or.inr (Or.inr ⟨m, e, hm, rfl⟩)

end IsMagnitude

theorem isMagnitude_zero : IsMagnitude 0 :=
  ⟨by decide +kernel, by decide +kernel⟩

theorem isMagnitude_abs {x : Float} (hx : x.isNaN = false) : IsMagnitude x.abs := by
  refine ⟨isNaN_abs hx, isNegative_pack ?_⟩
  cases x.toModel.unpack <;> rfl

theorem signOf_dite {c : Prop} [Decidable c] {s : Sign} {u : c → UnpackedFloat}
    {v : ¬ c → UnpackedFloat} (hu : ∀ h, signOf (u h) = s) (hv : ∀ h, signOf (v h) = s) :
    signOf (dite c u v) = s := by
  by_cases h : c
  · rw [dif_pos h]
    exact hu h
  · rw [dif_neg h]
    exact hv h

section

variable {x y : Float} (hx : IsMagnitude x) (hy : IsMagnitude y)

include hx hy

theorem isMagnitude_maxNum : IsMagnitude (maxNum x y) := by
  refine ⟨isNaN_maxNum hx.isNaN_eq_false hy.isNaN_eq_false, ?_⟩
  unfold maxNum
  split
  · exact hy.isNegative_eq_false
  · split
    · exact hy.isNegative_eq_false
    · exact hx.isNegative_eq_false

/-- A quotient of magnitudes is one, if its divisor is finite and not zero. -/
theorem isMagnitude_div (hfinite : y.isFinite = true) (hpos : 0 < y) : IsMagnitude (x / y) := by
  refine ⟨isNaN_div hx.isNaN_eq_false hfinite hpos, isNegative_pack ?_⟩
  rcases hy.unpack_cases with h | h | ⟨n, f, hn, h⟩
  · rw [h]
    rcases hx.unpack_cases with h | h | ⟨m, e, hm, h⟩ <;> rw [h] <;> rfl
  · rw [h]
    rcases hx.unpack_cases with h | h | ⟨m, e, hm, h⟩ <;> rw [h] <;> rfl
  · rw [h]
    rcases hx.unpack_cases with h | h | ⟨m, e, hm, h⟩
    · rw [h]
      rfl
    · rw [h]
      rfl
    · -- What is rounded keeps its sign, also where it is rounded to zero.
      rw [h]
      exact signOf_dite (fun _ => rfl) fun _ => rfl

end

/-! ### The largest one -/

theorem IsMagnitude.eq_zero {x : Float} (hx : IsMagnitude x)
    (h : x.toModel.unpack = .zero .positive) : x = 0 := by
  have hmagnitude : magnitude x.toModel.unpack = ((x.toBits.toNat % 2 ^ 63 : ℕ) : ℤ) :=
    (unpack_magnitude hx.isNaN_eq_false).2
  have hbits : ¬ 2 ^ 63 ≤ x.toBits.toNat := of_decide_eq_false hx.isNegative_eq_false
  rw [h] at hmagnitude
  change 0 = ((x.toBits.toNat % 2 ^ 63 : ℕ) : ℤ) at hmagnitude
  have hzero : x.toBits = 0 := UInt64.toNat_inj.mp (by rw [UInt64.toNat_zero]; omega)
  rcases x with ⟨⟨bits, hvalid⟩⟩
  change bits = 0 at hzero
  subst hzero
  rfl

/-- Zero is no larger than a magnitude, and gives way to it. -/
theorem maxNum_zero_left {x : Float} (hx : IsMagnitude x) : maxNum 0 x = x := by
  unfold maxNum
  rw [isMagnitude_zero.isNaN_eq_false, if_neg Bool.false_ne_true]
  rcases hx.unpack_cases with h | h | ⟨m, e, hm, h⟩
  · refine if_pos ((lt_iff 0 x).mpr ⟨isMagnitude_zero.isNaN_eq_false, hx.isNaN_eq_false, ?_⟩)
    rw [placeOf, placeOf, h]
    decide +kernel
  · rw [hx.eq_zero h]
    exact ite_self 0
  · refine if_pos ((lt_iff 0 x).mpr ⟨isMagnitude_zero.isNaN_eq_false, hx.isNaN_eq_false, ?_⟩)
    rw [placeOf, placeOf, h]
    exact Prod.Lex.toLex_lt_toLex.mpr (Or.inl Int.zero_lt_one)

theorem foldl_maxNum_mem (xs : List Float) : ∀ x : Float, xs.foldl maxNum x ∈ x :: xs := by
  induction xs with
  | nil => exact fun x => List.mem_singleton_self x
  | cons y ys ih =>
      intro x
      have hone : maxNum x y = x ∨ maxNum x y = y := by
        unfold maxNum
        split
        · exact Or.inr rfl
        · split
          · exact Or.inr rfl
          · exact Or.inl rfl
      rw [List.foldl_cons]
      rcases List.mem_cons.mp (ih (maxNum x y)) with h | h
      · rw [h]
        rcases hone with h | h
        · rw [h]
          exact List.mem_cons_self
        · rw [h]
          exact List.mem_cons_of_mem x List.mem_cons_self
      · exact List.mem_cons_of_mem x (List.mem_cons_of_mem y h)

theorem maxNum_of_isNaN {x y : Float} (hx : x.isNaN = false) (hy : y.isNaN = true) :
    maxNum x y = x := by
  unfold maxNum
  rw [hx, if_neg Bool.false_ne_true]
  refine if_neg fun hlt => ?_
  exact Bool.false_ne_true (((lt_iff x y).mp hlt).2.1.symm.trans hy)

/-- A search for the largest value passes over whatever is no number. -/
theorem foldl_maxNum_filter (xs : List Float) : ∀ {x : Float}, x.isNaN = false →
    (xs.filter fun y => !y.isNaN).foldl maxNum x = xs.foldl maxNum x := by
  induction xs with
  | nil => exact fun _ => rfl
  | cons y ys ih =>
      intro x hx
      cases hy : y.isNaN with
      | true =>
          rw [List.filter_cons_of_neg (by rw [hy]; decide), List.foldl_cons, maxNum_of_isNaN hx hy]
          exact ih hx
      | false =>
          rw [List.filter_cons_of_pos (by rw [hy]; rfl), List.foldl_cons, List.foldl_cons]
          exact ih (isNaN_maxNum hx hy)

/-- What is found is at least every number that was searched, and at least what the search
    began with. -/
theorem le_foldl_maxNum {xs : List Float} {x : Float} (hx : x.isNaN = false) :
    x ≤ xs.foldl maxNum x ∧ ∀ y ∈ xs, y.isNaN = false → y ≤ xs.foldl maxNum x := by
  have hnan : ∀ y ∈ xs.filter (fun y => !y.isNaN), y.isNaN = false :=
    fun y hy => (Bool.not_eq_true' _).mp (List.mem_filter.mp hy).2
  have hfound : (xs.foldl maxNum x).isNaN = false := by
    rw [← foldl_maxNum_filter xs hx]
    rcases List.mem_cons.mp (foldl_maxNum_mem (xs.filter fun y => !y.isNaN) x) with h | h
    · rw [h]
      exact hx
    · exact hnan _ h
  have hself : (xs.filter fun y => !y.isNaN).foldl maxNum x ≤ xs.foldl maxNum x := by
    rw [foldl_maxNum_filter xs hx]
    exact le_self hfound
  obtain ⟨hstart, hall⟩ := (foldl_maxNum_le_iff _ _ hx hnan).mp hself
  refine ⟨hstart, fun y hy hnumber => hall y (List.mem_filter.mpr ⟨hy, ?_⟩)⟩
  rw [hnumber]
  rfl

theorem isMagnitude_foldl {xs : List Float} {x : Float} (hx : IsMagnitude x)
    (hxs : ∀ y ∈ xs, IsMagnitude y) : IsMagnitude (xs.foldl maxNum x) :=
  List.forall_mem_cons.mpr ⟨hx, hxs⟩ _ (foldl_maxNum_mem xs x)

/-- The largest of several magnitudes is found by a search that begins with zero. -/
theorem isLargestOf_foldl {xs : List Float} (hxs : ∀ x ∈ xs, IsMagnitude x) :
    IsLargestOf (xs.foldl maxNum 0) xs := by
  cases xs with
  | nil => exact Or.inl ⟨rfl, rfl⟩
  | cons x xs =>
      rw [List.foldl_cons, maxNum_zero_left (hxs x List.mem_cons_self)]
      have hmem := foldl_maxNum_mem xs x
      have hnan : ∀ y ∈ xs, y.isNaN = false := fun y hy =>
        (hxs y (List.mem_cons_of_mem x hy)).isNaN_eq_false
      -- What is found is at most itself, so everything that was searched is.
      have hself := le_self (hxs _ hmem).isNaN_eq_false
      rw [foldl_maxNum_le_iff _ xs (hxs x List.mem_cons_self).isNaN_eq_false hnan] at hself
      exact Or.inr ⟨hmem, List.forall_mem_cons.mpr hself⟩

end Binary64

end Concordance
