import Concordance.Proofs.Binary64.Arithmetic
import Concordance.Proofs.Binary64.TotalOrder

/-!
# Doubles From Counts

A count that is not zero is positive as a double, however large it is.

Counts become doubles by rounding, which drops digits until fifty-three are left,
and rounding is where a number could get lost. It does not if there were as many
digits to begin with: then just as many are left, the exponent can only grow, and
what is packed is a normal number or, beyond all of them, infinity. Both are
positive, so zero divided by either is zero.

## Main definitions

* `IsFull`: A positive number with all of its fifty-three digits, or infinity.

## Theorems

* `mantissa_shiftRight`: Dropping digits is division.
* `shiftToTargetExponent_bounds`, `isFull_roundWithAccuracy`: Rounding keeps
  fifty-three digits.
* `unpack_pack_full`, `isFull_unpack_pack`: So does packing.
* `ofNat_pos`: Counts that are not zero are positive.
* `zero_div`: Zero divided by something positive is zero.
-/

namespace Concordance

namespace Binary64

open Float.Model (UnpackedFloat Format totalExponent)
open Float.Model.UnpackedFloat

/-- Whether a decoded double is positive and has all of its fifty-three digits, the
    last of which stands no lower than some place; or whether it is infinity. -/
def IsFull (b : Int) (u : UnpackedFloat) : Prop :=
  u = .infinity .positive ∨
    ∃ m e hm, u = .finite .positive m e hm ∧ 2 ^ 52 ≤ m ∧ m < 2 ^ 53 ∧ b ≤ e

theorem mantissa_shiftRight (n : Nat) : ∀ em : ExtendedMantissa,
    (em >>> n).mantissa = em.mantissa / 2 ^ n := by
  induction n with
  | zero =>
      intro em
      rw [Nat.pow_zero, Nat.div_one]
      rfl
  | succ n ih =>
      intro em
      change (em >>> n).mantissa / 2 = _
      rw [ih, Nat.div_div_eq_div_mul, Nat.pow_succ]

theorem mantissa_ofMantissaAndAccuracy (m : Nat) (a : Accuracy) :
    (ExtendedMantissa.ofMantissaAndAccuracy m a).mantissa = m := by
  cases a with
  | exact => rfl
  | inexact o => cases o <;> rfl

theorem le_roundedMantissa (em : ExtendedMantissa) : em.mantissa ≤ em.roundedMantissa := by
  unfold ExtendedMantissa.roundedMantissa Accuracy.roundToNearestEven
  split
  · exact Nat.le_refl _
  · exact Nat.le_refl _
  · exact Nat.le_add_right _ _
  · exact Nat.le_add_right _ _

/-- A number with fifty-three digits or more is left with fifty-three, and its last digit
    moves up by as many places as were dropped. -/
theorem shiftToTargetExponent_bounds {m : Nat} {e : Int} (a : Accuracy) (hm : 2 ^ 52 ≤ m)
    (he : -1074 ≤ e) :
    2 ^ 52 ≤ (shiftToTargetExponent .binary64 m e a).1.mantissa ∧
      (shiftToTargetExponent .binary64 m e a).1.mantissa < 2 ^ 53 ∧
      (shiftToTargetExponent .binary64 m e a).2 = e + (m.log2 - 52 : Nat) := by
  have hm₀ : m ≠ 0 := by omega
  have hlog : 52 ≤ m.log2 := (Nat.le_log2 hm₀).mpr hm
  -- As many digits are dropped as there are beyond the fifty-third.
  have hshift : (Format.binary64.targetExponent (totalExponent m e) - e).toNat = m.log2 - 52 := by
    change (max ((m.log2 : Int) + 1 + e - 53) (-1074) - e).toNat = _
    omega
  have hmantissa : (shiftToTargetExponent .binary64 m e a).1.mantissa = m / 2 ^ (m.log2 - 52) := by
    unfold shiftToTargetExponent shiftToExponent
    dsimp only
    rw [mantissa_shiftRight, mantissa_ofMantissaAndAccuracy, hshift]
  have hpos : 0 < 2 ^ (m.log2 - 52) := Nat.two_pow_pos _
  rw [hmantissa]
  refine ⟨?_, ?_, ?_⟩
  · rw [Nat.le_div_iff_mul_le hpos, ← Nat.pow_add, Nat.add_sub_cancel' hlog]
    exact Nat.log2_self_le hm₀
  · rw [Nat.div_lt_iff_lt_mul hpos, ← Nat.pow_add]
    have hexponent : 53 + (m.log2 - 52) = m.log2 + 1 := by omega
    rw [hexponent]
    exact Nat.lt_log2_self
  · unfold shiftToTargetExponent shiftToExponent
    dsimp only
    rw [hshift]

/-- Rounding keeps fifty-three digits where there are as many. -/
theorem isFull_roundWithAccuracy {b : Int} {m : Nat} {e : Int} (a : Accuracy) (hm : 2 ^ 52 ≤ m)
    (hexponent : -1074 ≤ e) (he : b ≤ e + (m.log2 - 52 : Nat)) :
    IsFull b (roundWithAccuracy .binary64 .positive m e a) := by
  rcases shiftToTargetExponent_bounds a hm hexponent with ⟨hle₁, _, he₁⟩
  -- Rounding up may give one digit too many, which is then dropped.
  have hrounded := Nat.le_trans hle₁ (le_roundedMantissa _)
  have hexponent₁ : -1074 ≤ (shiftToTargetExponent .binary64 m e a).2 := by
    rw [he₁]
    omega
  rcases shiftToTargetExponent_bounds .exact hrounded hexponent₁ with ⟨hle₂, hlt₂, he₂⟩
  have hne : (shiftToTargetExponent .binary64
      (shiftToTargetExponent .binary64 m e a).1.roundedMantissa
      (shiftToTargetExponent .binary64 m e a).2 .exact).1.mantissa ≠ 0 := by
    omega
  refine Or.inr ⟨_, _, Nat.pos_of_ne_zero hne, dif_neg hne, hle₂, hlt₂, le_trans he ?_⟩
  rw [← he₁]
  exact (Int.le_add_of_nonneg_right (Int.natCast_nonneg _)).trans he₂.ge

theorem unpackSign_packComponents (s : Sign) (e : BitVec 11) (m : BitVec 52) :
    Sign.ofBitVec (@unpackSign .binary64 (packComponents .binary64 s e m)) = s := by
  have hsign : @unpackSign .binary64 (packComponents .binary64 s e m) = s.toBitVec := by
    refine BitVec.eq_of_getLsbD_eq fun i hi => ?_
    rw [Nat.lt_one_iff.mp hi]
    unfold unpackSign
    simp only [packComponents, BitVec.getLsbD_cast, BitVec.getLsbD_extractLsb,
      BitVec.getLsbD_append]
    simp
  rw [hsign]
  cases s <;> rfl

theorem finite_congr {s t : Sign} {m n : ℕ} {e f : ℤ} {hm : 0 < m} {hn : 0 < n} (hst : s = t)
    (hmn : m = n) (hef : e = f) : UnpackedFloat.finite s m e hm = .finite t n f hn := by
  subst hst hmn hef
  rfl

/-- A number with all of its digits is packed without the first one, which comes back. -/
theorem unpack_pack_full {s : Sign} {m : ℕ} {e : ℤ} {hm : 0 < m} (hle : 2 ^ 52 ≤ m)
    (hlt : m < 2 ^ 53) (hlow : -1074 ≤ e) (hhigh : e ≤ 971) :
    unpack .binary64 (pack .binary64 (.finite s m e hm)) = .finite s m e hm := by
  have hlog : m.log2 + 1 = 53 := by
    have hlower : 52 ≤ m.log2 := (Nat.le_log2 hm.ne').mpr hle
    have hupper : m.log2 < 53 := (Nat.log2_lt hm.ne').mpr hlt
    omega
  have hpack : pack .binary64 (.finite s m e hm) = packComponents .binary64 s
      (BitVec.ofNat 11 (e + 1023 + 52).toNat) (BitVec.ofNat 52 m) := by
    unfold pack
    exact (if_neg (show ¬ 2 ^ 11 ≤ (e + 1023 + 52).toNat + 1 by omega)).trans (if_pos hlog)
  have hexponent : (BitVec.ofNat 11 (e + 1023 + 52).toNat).toNat = (e + 1023 + 52).toNat := by
    rw [BitVec.toNat_ofNat]
    exact Nat.mod_eq_of_lt (by omega)
  have hones : BitVec.ofNat 11 (e + 1023 + 52).toNat ≠ -1#11 := by
    intro heq
    have hnat := congrArg BitVec.toNat heq
    rw [hexponent] at hnat
    change (e + 1023 + 52).toNat = 2047 at hnat
    omega
  have hzero : BitVec.ofNat 11 (e + 1023 + 52).toNat ≠ 0#11 := by
    intro heq
    have hnat := congrArg BitVec.toNat heq
    rw [hexponent] at hnat
    change (e + 1023 + 52).toNat = 0 at hnat
    omega
  rw [hpack]
  unfold unpack
  dsimp only
  rw [unpackExponent_packComponents, if_neg hones, if_neg hzero, unpackSign_packComponents]
  refine finite_congr rfl ?_ ?_
  · rw [unpackMantissa_packComponents, toNat_leading_append, BitVec.toNat_ofNat]
    omega
  · rw [hexponent]
    change ((e + 1023 + 52).toNat : ℤ) - (1023 + 52) = e
    omega

/-- Packing keeps fifty-three digits, unless the number is too large. -/
theorem isFull_unpack_pack {b : Int} {u : UnpackedFloat} (hb : -1074 ≤ b) (h : IsFull b u) :
    IsFull b (unpack .binary64 (pack .binary64 u)) := by
  rcases h with rfl | ⟨m, e, hm, rfl, hle, hlt, he⟩
  · exact Or.inl rfl
  · by_cases hlarge : 2 ^ 11 ≤ (e + 1023 + 52).toNat + 1
    · have hpack : pack .binary64 (.finite .positive m e hm)
          = packedInfinity .binary64 .positive := by
        unfold pack
        exact if_pos hlarge
      rw [hpack]
      exact Or.inl rfl
    · rw [unpack_pack_full hle hlt (hb.trans he) (by omega)]
      exact Or.inr ⟨m, e, hm, rfl, hle, hlt, he⟩

/-- The natural numbers are full when they are brought to the exponent of their
    first digit. -/
theorem isFull_round {n : Nat} (hn : n ≠ 0) :
    IsFull (-52) (UnpackedFloat.round .binary64 .positive n 0) := by
  have htarget : Format.binary64.targetExponent (totalExponent n 0) = (n.log2 : Int) - 52 := by
    change max ((n.log2 : Int) + 1 + 0 - 53) (-1074) = _
    omega
  unfold UnpackedFloat.round decreaseExponent
  dsimp only
  rw [htarget]
  -- Digits are added if there are fewer than fifty-three.
  have hshift : (0 - ((n.log2 : Int) - 52)).toNat = 52 - n.log2 := by omega
  rw [hshift]
  refine isFull_roundWithAccuracy .exact ?_ (by omega) (by omega)
  rw [Nat.shiftLeft_eq]
  calc 2 ^ 52 ≤ 2 ^ (n.log2 + (52 - n.log2)) := Nat.pow_le_pow_right (by decide) (by omega)
    _ = 2 ^ n.log2 * 2 ^ (52 - n.log2) := Nat.pow_add ..
    _ ≤ n * 2 ^ (52 - n.log2) := Nat.mul_le_mul_right _ (Nat.log2_self_le hn)

/-- The product of numbers with fifty-three digits or more. Each factor of two beyond them
    is a place by which the last digit moves up. -/
theorem isFull_mul {b e e' : Int} {m m' k : Nat} {h : 0 < m} {h' : 0 < m'}
    (hm : 2 ^ (52 + k) ≤ m * m') (hexponent : -1074 ≤ e + e') (he : b ≤ e + e' + k) :
    IsFull b (UnpackedFloat.mul .binary64 (.finite .positive m e h)
      (.finite .positive m' e' h')) := by
  have hdigits : 2 ^ 52 ≤ m * m' :=
    (Nat.pow_le_pow_right (by decide) (Nat.le_add_right 52 k)).trans hm
  have hlog : 52 + k ≤ (m * m').log2 := (Nat.le_log2 (Nat.mul_pos h h').ne').mpr hm
  exact isFull_roundWithAccuracy .exact hdigits hexponent (by omega)

/-- The double of a count that is not zero has all of its digits, and the first of them
    stands no lower than that of one. A small count is rounded, and multiplied by one; a
    large one is first given more digits. -/
theorem isFull_ofNat {n : Nat} (hn : n ≠ 0) : IsFull (-52) (Float.ofNat n).toModel.unpack := by
  by_cases hsmall : n < 2 ^ 53
  · have hword : n.toUInt64.toNat = n := Nat.mod_eq_of_lt (by omega)
    have hofNat : Float.ofNat n = n.toUInt64.toFloat * Float.ofBits 0x3FF0000000000000 := by
      change Float.ofScientific n false 0 = _
      unfold Float.ofScientific
      rw [dif_pos ⟨hsmall, by decide⟩]
      rfl
    have hword' : n.toUInt64.toFloat.toModel.unpack
        = unpack .binary64 (pack .binary64 (UnpackedFloat.round .binary64 .positive n 0)) := by
      change unpack .binary64 (pack .binary64
        (UnpackedFloat.normalize .binary64 (n.toUInt64.toNat : Int) 0 .positive)) = _
      have hpos : compare (n : Int) 0 = .gt := compare_gt_iff_gt.mpr (by omega)
      rw [hword, UnpackedFloat.normalize, hpos]
      rfl
    have hone : (Float.ofBits 0x3FF0000000000000).toModel.unpack
        = .finite .positive (2 ^ 52) (-52) (by decide) := by
      rfl
    rw [hofNat]
    change IsFull (-52) (unpack .binary64 (pack .binary64 (UnpackedFloat.mul .binary64
      n.toUInt64.toFloat.toModel.unpack (Float.ofBits 0x3FF0000000000000).toModel.unpack)))
    rw [hone, hword']
    refine isFull_unpack_pack (by decide) ?_
    rcases isFull_unpack_pack (by decide) (isFull_round hn) with hinf | ⟨m, e, hm, hu, hle, _, he⟩
    · rw [hinf]
      exact Or.inl rfl
    · rw [hu]
      refine isFull_mul (k := 52) ?_ (by omega) (by omega)
      rw [Nat.pow_add]
      exact Nat.mul_le_mul_right _ hle
  · have hofNat : (Float.ofNat n).toModel
        = .pack (UnpackedFloat.ofScientific .binary64 n (Int.ofNat 0)) := by
      change (Float.ofScientific n false 0).toModel = _
      unfold Float.ofScientific
      rw [dif_neg fun h => hsmall h.1]
      rfl
    have hpos : 0 < n <<< 53 := by
      rw [Nat.shiftLeft_eq]
      omega
    have hlow : ¬ Int.ofNat 0 < -((2 ^ 11 : Int) + n.log2) := by
      change ¬ (0 : Int) < _
      omega
    have hmul : UnpackedFloat.ofScientific .binary64 n (Int.ofNat 0)
        = UnpackedFloat.mul .binary64 (.finite .positive (n <<< 53) (-53) hpos)
          (.finite .positive 1 0 Nat.one_pos) := by
      unfold UnpackedFloat.ofScientific
      rw [dif_neg hn, if_neg (by decide), if_neg hlow, if_pos (by decide)]
      rfl
    rw [hofNat, hmul]
    have hdigits : 2 ^ (52 + 1) ≤ (n <<< 53) * 1 := by
      rw [Nat.shiftLeft_eq]
      omega
    have hfull := @isFull_mul (-52) (-53) 0 (n <<< 53) 1 1 hpos Nat.one_pos hdigits (by decide)
      (by decide)
    generalize UnpackedFloat.mul _ _ _ = u at hfull
    exact isFull_unpack_pack (by decide) hfull

/-- A count that is not zero is positive as a double. -/
theorem ofNat_pos {n : Nat} (hn : n ≠ 0) : 0 < Float.ofNat n := by
  have hfull := isFull_ofNat hn
  rw [lt_iff]
  unfold placeOf
  change _ ∧ (Float.ofNat n).toModel.unpack.isNaN = false ∧ _
  rcases hfull with h | ⟨m, e, hm, h, _⟩
  · rw [h]
    exact ⟨by decide +kernel, rfl, by decide +kernel⟩
  · rw [h]
    exact ⟨by decide +kernel, rfl, Prod.Lex.toLex_lt_toLex.mpr (Or.inl Int.zero_lt_one)⟩

/-- What is positive is infinity, or a finite number with that sign. -/
theorem unpack_of_pos {x : Float} (hx : 0 < x) : x.toModel.unpack = .infinity .positive ∨
    ∃ m e hm, x.toModel.unpack = .finite .positive m e hm := by
  rcases (lt_iff 0 x).mp hx with ⟨_, hnan, hplace⟩
  have hplace' : place (.zero .positive) < place x.toModel.unpack := hplace
  rw [place, place] at hplace'
  change x.toModel.unpack.isNaN = false at hnan
  cases hu : x.toModel.unpack with
  | notANumber =>
      rw [hu] at hnan
      cases hnan
  | zero s =>
      -- Either zero stands where the other one does.
      rw [hu] at hplace'
      exact absurd hplace' (lt_irrefl _)
  | infinity s =>
      cases s with
      | positive => exact Or.inl rfl
      | negative =>
          rw [hu] at hplace'
          exact absurd hplace' (by decide)
  | finite s m e hm =>
      cases s with
      | positive => exact Or.inr ⟨m, e, hm, rfl⟩
      | negative =>
          rw [hu] at hplace'
          rcases Prod.Lex.toLex_lt_toLex.mp hplace' with hlt | ⟨heq, _⟩
          · exact absurd hlt (by decide : ¬ (0 : ℤ) < -1)
          · exact absurd heq (by decide : ¬ (0 : ℤ) = -1)

/-- Zero divided by something positive is zero. -/
theorem zero_div {x : Float} (hx : 0 < x) : 0 / x = 0 := by
  change Float.ofModel (.pack (UnpackedFloat.div .binary64 (0 : Float).toModel.unpack
    x.toModel.unpack)) = 0
  rcases unpack_of_pos hx with hinf | ⟨m, e, hm, hfinite⟩
  · rw [hinf]
    rfl
  · rw [hfinite]
    rfl

end Binary64

end Concordance
