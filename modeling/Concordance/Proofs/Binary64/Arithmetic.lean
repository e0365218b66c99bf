import Concordance.Proofs.Binary64.Order

/-!
# Arithmetic Without NaN

Which operations on doubles cannot come out as NaN.

The result of an operation is computed exactly, rounded, and packed into bits.
Packing may turn a number that is too large into an infinity, but it never makes
up a NaN, so it is enough to look at what is packed. The difference of two finite
doubles is no NaN, however large it is, and neither is a quotient whose divisor
is finite and not zero.

## Theorems

* `isNaN_unpack_pack`: Packing makes no NaN.
* `unpack_exponent_bound`: The exponents of doubles leave room to pack them
  again.
* `isFinite_abs`, `isNaN_abs`: Dropping the sign changes neither.
* `isNaN_sub`, `isNaN_div`: Differences and quotients that are no NaN.
-/

namespace Concordance

namespace Binary64

open Float.Model (UnpackedFloat Format)
open Float.Model.UnpackedFloat

/-- What a number with its exponent in range is packed into has an exponent
    that marks neither an infinity nor a NaN. -/
theorem unpackExponent_pack {s : Sign} {m : Nat} {e : Int} {hm : 0 < m}
    (h : ¬ 2 ^ 11 ≤ (e + 1023 + 52).toNat + 1) :
    unpackExponent (pack .binary64 (.finite s m e hm)) ≠ -1#11 := by
  have hsmall : ¬ 2 ^ 11 ≤ (e + (Format.binary64.exponentBias : Nat) + (52 : Nat)).toNat + 1 := h
  unfold pack
  dsimp only
  rw [if_neg hsmall]
  split
  · rw [unpackExponent_packComponents]
    intro heq
    have hnat := congrArg BitVec.toNat heq
    rw [BitVec.toNat_ofNat] at hnat
    change (e + 1023 + 52).toNat % 2048 = 2047 at hnat
    omega
  · rw [unpackExponent_packComponents]
    decide

theorem isFinite_unpack {b : BitVec 64} (h : @unpackExponent .binary64 b ≠ -1#11) :
    (unpack .binary64 b).isFinite = true := by
  unfold unpack
  dsimp only
  rw [if_neg h]
  by_cases hzero : @unpackExponent .binary64 b = 0#11
  · rw [if_pos hzero]
    by_cases hmantissa : @unpackMantissa .binary64 b = 0#52
    · rw [dif_pos hmantissa]
      rfl
    · rw [dif_neg hmantissa]
      rfl
  · rw [if_neg hzero]
    rfl

theorem isNaN_of_isFinite {u : UnpackedFloat} (h : u.isFinite = true) : u.isNaN = false := by
  cases u with
  | notANumber => exact nomatch h
  | _ => rfl

/-- Packing makes no NaN: a number that is too large becomes an infinity. -/
theorem isNaN_unpack_pack {u : UnpackedFloat} (h : u.isNaN = false) :
    (unpack .binary64 (pack .binary64 u)).isNaN = false := by
  cases u with
  | notANumber => exact nomatch h
  | infinity s => cases s <;> decide
  | zero s => cases s <;> decide
  | finite s m e hm =>
      by_cases hlarge : 2 ^ 11 ≤ (e + 1023 + 52).toNat + 1
      · have hpack : pack .binary64 (.finite s m e hm) = packedInfinity .binary64 s := by
          unfold pack
          exact if_pos hlarge
        rw [hpack]
        cases s <;> decide
      · exact isNaN_of_isFinite (isFinite_unpack (unpackExponent_pack hlarge))

/-- What a double is decoded into can be packed again without overflow. -/
theorem unpack_exponent_bound {b : BitVec 64} {s : Sign} {m : Nat} {e : Int} {hm : 0 < m}
    (h : unpack .binary64 b = .finite s m e hm) : ¬ 2 ^ 11 ≤ (e + 1023 + 52).toNat + 1 := by
  have hlt : (@unpackExponent .binary64 b).toNat < 2048 := BitVec.isLt _
  unfold unpack at h
  dsimp only at h
  by_cases hones : @unpackExponent .binary64 b = -1#11
  · rw [if_pos hones] at h
    by_cases hmantissa : @unpackMantissa .binary64 b = 0#52
    · rw [if_pos hmantissa] at h
      exact UnpackedFloat.noConfusion h
    · rw [if_neg hmantissa] at h
      exact UnpackedFloat.noConfusion h
  · rw [if_neg hones] at h
    -- The largest exponent is the one that is left to infinities and NaN.
    have hne : (@unpackExponent .binary64 b).toNat ≠ 2047 :=
      fun heq => hones (BitVec.eq_of_toNat_eq heq)
    by_cases hzero : @unpackExponent .binary64 b = 0#11
    · rw [if_pos hzero] at h
      by_cases hmantissa : @unpackMantissa .binary64 b = 0#52
      · rw [dif_pos hmantissa] at h
        exact UnpackedFloat.noConfusion h
      · rw [dif_neg hmantissa] at h
        rcases UnpackedFloat.finite.inj h with ⟨_, _, he⟩
        rw [hzero] at he
        change (0 : Int) - (1023 + 52) + 1 = e at he
        omega
    · rw [if_neg hzero] at h
      rcases UnpackedFloat.finite.inj h with ⟨_, _, he⟩
      change ((@unpackExponent .binary64 b).toNat : Int) - (1023 + 52) = e at he
      omega

theorem isFinite_abs (x : Float) : x.abs.isFinite = x.isFinite := by
  change (unpack .binary64 (pack .binary64 x.toModel.unpack.abs)).isFinite
    = x.toModel.unpack.isFinite
  cases hx : x.toModel.unpack with
  | notANumber => decide
  | infinity s => cases s <;> decide
  | zero s => cases s <;> decide
  | finite s m e hm => exact isFinite_unpack (unpackExponent_pack (unpack_exponent_bound hx))

theorem isNaN_abs {x : Float} (hx : x.isNaN = false) : x.abs.isNaN = false := by
  change x.toModel.unpack.isNaN = false at hx
  refine isNaN_unpack_pack ?_
  cases hu : x.toModel.unpack with
  | notANumber =>
      rw [hu] at hx
      exact nomatch hx
  | _ => rfl

theorem isNaN_dite {p : Prop} [Decidable p] {t : p → UnpackedFloat} {f : ¬ p → UnpackedFloat}
    (ht : ∀ h, (t h).isNaN = false) (hf : ∀ h, (f h).isNaN = false) :
    (if h : p then t h else f h).isNaN = false := by
  by_cases hp : p
  · rw [dif_pos hp]
    exact ht hp
  · rw [dif_neg hp]
    exact hf hp

theorem isNaN_roundWithAccuracy (spec : Format) (s : Sign) (m : Nat) (e : Int) (a : Accuracy) :
    (roundWithAccuracy spec s m e a).isNaN = false :=
  isNaN_dite (fun _ => rfl) fun _ => rfl

theorem isNaN_normalize (spec : Format) (m : Int) (e : Int) (s : Sign) :
    (UnpackedFloat.normalize spec m e s).isNaN = false := by
  unfold UnpackedFloat.normalize
  split
  · exact isNaN_roundWithAccuracy ..
  · rfl
  · exact isNaN_roundWithAccuracy ..

/-- The difference of two finite doubles is no NaN. -/
theorem isNaN_sub {x y : Float} (hx : x.isFinite = true) (hy : y.isFinite = true) :
    (x - y).isNaN = false := by
  change x.toModel.unpack.isFinite = true at hx
  change y.toModel.unpack.isFinite = true at hy
  change (unpack .binary64 (pack .binary64
    (UnpackedFloat.sub .binary64 x.toModel.unpack y.toModel.unpack))).isNaN = false
  refine isNaN_unpack_pack ?_
  cases hu : x.toModel.unpack with
  | notANumber | infinity => rw [hu] at hx; exact nomatch hx
  | zero s =>
      cases hv : y.toModel.unpack with
      | notANumber | infinity => rw [hv] at hy; exact nomatch hy
      | zero t => cases s <;> cases t <;> rfl
      | finite t n f hn => rfl
  | finite s m e hm =>
      cases hv : y.toModel.unpack with
      | notANumber | infinity => rw [hv] at hy; exact nomatch hy
      | zero t => rfl
      | finite t n f hn => exact isNaN_normalize ..

/-- A quotient is no NaN if its divisor is finite and positive. -/
theorem isNaN_div {x y : Float} (hx : x.isNaN = false) (hy : y.isFinite = true) (hpos : 0 < y) :
    (x / y).isNaN = false := by
  change x.toModel.unpack.isNaN = false at hx
  change y.toModel.unpack.isFinite = true at hy
  change (unpack .binary64 (pack .binary64
    (UnpackedFloat.div .binary64 x.toModel.unpack y.toModel.unpack))).isNaN = false
  refine isNaN_unpack_pack ?_
  cases hv : y.toModel.unpack with
  | notANumber | infinity => rw [hv] at hy; exact nomatch hy
  | zero t =>
      -- Zero stands where zero stands, whatever its sign is.
      have hplace := ((lt_iff 0 y).mp hpos).2.2
      rw [placeOf, placeOf, hv] at hplace
      exact absurd hplace (lt_irrefl _)
  | finite t n f hn =>
      cases hu : x.toModel.unpack with
      | notANumber => rw [hu] at hx; exact nomatch hx
      | infinity s | zero s => rfl
      | finite s m e hm => exact isNaN_roundWithAccuracy ..

theorem isFinite_maxNum {x y : Float} (hx : x.isFinite = true) (hy : y.isFinite = true) :
    (maxNum x y).isFinite = true := by
  unfold maxNum
  split
  · exact hy
  · split
    · exact hy
    · exact hx

/-- The larger of two doubles is positive if the second one is. -/
theorem maxNum_pos {x y : Float} (hx : x.isNaN = false) (hy : 0 < y) : 0 < maxNum x y := by
  unfold maxNum
  rw [hx, if_neg Bool.false_ne_true]
  by_cases hlt : x < y
  · rw [if_pos hlt]
    exact hy
  · rw [if_neg hlt]
    rcases (lt_iff 0 y).mp hy with ⟨hzero, hy', hplace⟩
    have hyx : placeOf y ≤ placeOf x := not_lt.mp fun h => hlt ((lt_iff x y).mpr ⟨hx, hy', h⟩)
    exact (lt_iff 0 x).mpr ⟨hzero, hx, lt_of_lt_of_le hplace hyx⟩

end Binary64

end Concordance
