import Concordance.Proofs.Binary64.Overflow
import Concordance.Proofs.Binary64.Units

/-!
# Rounding Between Neighbours

Rounding never goes past a double.

A number that has too many digits is cut off after the fifty-third and may then be moved up by
one in the last place that is left. Either way it stays between the two numbers of fifty-three
digits next to it, so it passes no double, and one that is a double already stays where it is.
A sum of doubles that lies between two others therefore still does after it is rounded, which
also keeps it finite.

Halves are exact with one exception. The least positive double has no half, and neither has
an odd number of them: those are rounded by half a unit.

## Main definitions

* `rounded`: The digits that rounding leaves of a natural number.
* `IsShort`: A natural number with fifty-three digits at most, but for zeros at the end.
* `ofDigits`: What has these digits, or a zero.
* `RoundsTo`: What is rounded has the digits of a double, and no short number lies between.

## Theorems

* `le_rounded`, `rounded_le`: Rounding does not go past a short number.
* `roundWithAccuracy_eq`: What rounding does, one step after the other.
* `roundWithAccuracy_spec`, `round_spec`, `normalize_spec`, `add_spec`: What is rounded.
* `unitsOf_add_bounds`, `unitsOf_add_exact`: Sums between two doubles, and sums of few units.
* `unitsOf_half`: Halves.
-/

namespace Concordance

namespace Binary64

open Float.Model (UnpackedFloat Format totalExponent)
open Float.Model.UnpackedFloat

/-- The digits that are left of a natural number when it is rounded to fifty-three of them. -/
def rounded (m : ℕ) (a : Accuracy) : ℕ :=
  (ExtendedMantissa.ofMantissaAndAccuracy m a >>> (m.log2 - 52)).roundedMantissa

/-- Whether fifty-three digits are enough for a natural number, but for zeros at the end. -/
def IsShort (w : ℕ) : Prop :=
  ∃ n k : ℕ, n < 2 ^ 53 ∧ w = n * 2 ^ k

theorem isShort_size {u : UnpackedFloat} (h : IsCanonical u) : IsShort (size u) := by
  cases u with
  | finite s m e hm => exact ⟨m, _, h.2.1, rfl⟩
  | notANumber | infinity s | zero s => exact ⟨0, 0, by decide, rfl⟩

/-! ### Digits -/

section

variable (m : ℕ) (a : Accuracy)

theorem rounded_bounds : m / 2 ^ (m.log2 - 52) ≤ rounded m a ∧
    rounded m a ≤ m / 2 ^ (m.log2 - 52) + 1 := by
  have hmantissa : (ExtendedMantissa.ofMantissaAndAccuracy m a >>> (m.log2 - 52)).mantissa
      = m / 2 ^ (m.log2 - 52) := by
    rw [mantissa_shiftRight, mantissa_ofMantissaAndAccuracy]
  rw [← hmantissa]
  exact ⟨le_roundedMantissa _, roundedMantissa_le _⟩

theorem kept_lt : m / 2 ^ (m.log2 - 52) < 2 ^ 53 := by
  rw [Nat.div_lt_iff_lt_mul (Nat.two_pow_pos _), ← Nat.pow_add]
  exact Nat.lt_log2_self.trans_le (Nat.pow_le_pow_right (by decide) (by omega))

/-- Rounding up may give one digit more. -/
theorem rounded_le_two_pow : rounded m a ≤ 2 ^ 53 := by
  have hlt := kept_lt m
  have hup := (rounded_bounds m a).2
  omega

variable {m}

theorem log2_sub_of_lt (hm : m < 2 ^ 53) : m.log2 - 52 = 0 := by
  rcases Nat.eq_zero_or_pos m with rfl | hpos
  · rfl
  · have hlog := (Nat.log2_lt hpos.ne').mpr hm
    omega

theorem le_kept (hm : 2 ^ 52 ≤ m) : 2 ^ 52 ≤ m / 2 ^ (m.log2 - 52) := by
  have hne : m ≠ 0 := by omega
  have hlog : 52 ≤ m.log2 := (Nat.le_log2 hne).mpr hm
  rw [Nat.le_div_iff_mul_le (Nat.two_pow_pos _), ← Nat.pow_add, Nat.add_sub_cancel' hlog]
  exact Nat.log2_self_le hne

/-- Zeros are dropped without a trace. -/
theorem rounded_of_dvd (h : 2 ^ (m.log2 - 52) ∣ m) :
    rounded m .exact * 2 ^ (m.log2 - 52) = m := by
  unfold rounded
  rw [roundedMantissa_of_roundBit, mantissa_shiftRight, mantissa_ofMantissaAndAccuracy,
    Nat.div_mul_cancel h]
  cases hk : m.log2 - 52 with
  | zero => rfl
  | succ k =>
      -- Rounding up takes a one among what is dropped, in the first place of it.
      rw [hk, Nat.pow_succ] at h
      rw [roundBit_shiftRight_succ, mantissa_ofMantissaAndAccuracy, bne_eq_false_iff_eq]
      exact Nat.mod_eq_zero_of_dvd (Nat.dvd_div_of_mul_dvd h)

/-! ### Neighbours -/

variable {w g : ℕ}

/-- A short number is a multiple of the last place that is kept, or lies below all numbers with
    as many digits. -/
theorem isShort_cases (hw : IsShort w) (k : ℕ) :
    (∃ n, w = n * 2 ^ k * 2 ^ g) ∨ w < 2 ^ 52 * 2 ^ k * 2 ^ g := by
  obtain ⟨n, j, hn, rfl⟩ := hw
  rcases Nat.lt_or_ge j (k + g) with hlt | hge
  · refine Or.inr ?_
    calc n * 2 ^ j < 2 ^ 53 * 2 ^ j := Nat.mul_lt_mul_of_pos_right hn (Nat.two_pow_pos j)
      _ = 2 ^ 52 * 2 ^ (j + 1) := by rw [Nat.pow_succ]; omega
      _ ≤ 2 ^ 52 * 2 ^ (k + g) :=
          Nat.mul_le_mul_left _ (Nat.pow_le_pow_right (by decide) hlt)
      _ = 2 ^ 52 * 2 ^ k * 2 ^ g := by rw [Nat.pow_add, Nat.mul_assoc]
  · refine Or.inl ⟨n * 2 ^ (j - (k + g)), ?_⟩
    rw [Nat.mul_assoc, Nat.mul_assoc, ← Nat.pow_add, ← Nat.pow_add]
    congr 2
    omega

/-- What is at least a short number is not rounded below it. -/
theorem le_rounded (hw : IsShort w) (h : w ≤ m * 2 ^ g) :
    w ≤ rounded m a * 2 ^ (m.log2 - 52) * 2 ^ g := by
  have hfloor := (rounded_bounds m a).1
  have hg := Nat.two_pow_pos g
  by_cases hk : m.log2 - 52 = 0
  · -- Nothing is cut off.
    rw [hk, Nat.pow_zero, Nat.div_one] at hfloor
    rw [hk, Nat.pow_zero, Nat.mul_one]
    exact h.trans (Nat.mul_le_mul_right _ hfloor)
  · have hm : 2 ^ 52 ≤ m := (Nat.le_log2 (by rintro rfl; exact hk rfl)).mp (by omega)
    rcases isShort_cases (g := g) hw (m.log2 - 52) with ⟨n, rfl⟩ | hlt
    · have hn : n * 2 ^ (m.log2 - 52) ≤ m := Nat.le_of_mul_le_mul_right h hg
      have hn' : n ≤ m / 2 ^ (m.log2 - 52) := (Nat.le_div_iff_mul_le (Nat.two_pow_pos _)).mpr hn
      exact Nat.mul_le_mul_right _ (Nat.mul_le_mul_right _ (hn'.trans hfloor))
    · -- What is kept has all of its digits, so the short number lies below it.
      refine hlt.le.trans (Nat.mul_le_mul_right _ (Nat.mul_le_mul_right _ ?_))
      exact (le_kept hm).trans hfloor

/-- What is at most a short number is not rounded above it. -/
theorem rounded_le (hw : IsShort w) (h : m * 2 ^ g ≤ w) :
    rounded m .exact * 2 ^ (m.log2 - 52) * 2 ^ g ≤ w := by
  by_cases hdvd : 2 ^ (m.log2 - 52) ∣ m
  · rwa [rounded_of_dvd hdvd]
  · have hk : m.log2 - 52 ≠ 0 := fun hk => hdvd (by rw [hk]; exact ⟨m, (Nat.one_mul m).symm⟩)
    have hm : 2 ^ 52 ≤ m := (Nat.le_log2 (by rintro rfl; exact hk rfl)).mp (by omega)
    have hfloor : m / 2 ^ (m.log2 - 52) * 2 ^ (m.log2 - 52) < m :=
      Nat.lt_of_le_of_ne (Nat.div_mul_le_self _ _) fun heq => hdvd ⟨_, by rw [Nat.mul_comm, heq]⟩
    rcases isShort_cases (g := g) hw (m.log2 - 52) with ⟨n, rfl⟩ | hlt
    · have hn : m ≤ n * 2 ^ (m.log2 - 52) := Nat.le_of_mul_le_mul_right h (Nat.two_pow_pos g)
      have hn' : m / 2 ^ (m.log2 - 52) < n := Nat.lt_of_mul_lt_mul_right (hfloor.trans_le hn)
      refine Nat.mul_le_mul_right _ (Nat.mul_le_mul_right _ ?_)
      exact (rounded_bounds m .exact).2.trans hn'
    · -- The short number would lie below what is rounded.
      have hle : 2 ^ 52 * 2 ^ (m.log2 - 52) ≤ m :=
        (Nat.mul_le_mul_right _ (le_kept hm)).trans hfloor.le
      exact absurd (hlt.trans_le ((Nat.mul_le_mul_right _ hle).trans h)) (lt_irrefl w)

end

/-! ### What is rounded -/

theorem shiftToTargetExponent_eq (m : ℕ) {e : ℤ} (a : Accuracy) (he : -1074 ≤ e) :
    shiftToTargetExponent .binary64 m e a
      = (ExtendedMantissa.ofMantissaAndAccuracy m a >>> (m.log2 - 52),
        e + ((m.log2 - 52 : ℕ) : ℤ)) := by
  have hshift : (max ((m.log2 : ℤ) + 1 + e - 53) (-1074) - e).toNat = m.log2 - 52 := by omega
  change (ExtendedMantissa.ofMantissaAndAccuracy m a
      >>> (max ((m.log2 : ℤ) + 1 + e - 53) (-1074) - e).toNat,
    e + ((max ((m.log2 : ℤ) + 1 + e - 53) (-1074) - e).toNat : ℤ)) = _
  rw [hshift]

/-- What rounding leaves is cut off once more, by a zero at most. -/
theorem two_pow_dvd_of_le {r : ℕ} (h : r ≤ 2 ^ 53) : 2 ^ (r.log2 - 52) ∣ r := by
  rcases h.lt_or_eq with hlt | rfl
  · rw [log2_sub_of_lt hlt]
    exact ⟨r, (Nat.one_mul r).symm⟩
  · decide

theorem two_pow_toNat_add {e : ℤ} (he : -1074 ≤ e) (k : ℕ) :
    2 ^ (e + k + 1074).toNat = 2 ^ k * 2 ^ (e + 1074).toNat := by
  rw [← Nat.pow_add]
  congr 1
  omega

/-- What has these digits and this exponent: a zero if there are no digits. -/
def ofDigits (s : Sign) (m : ℕ) (e : ℤ) : UnpackedFloat :=
  if h : m = 0 then .zero s else .finite s m e (Nat.pos_of_ne_zero h)

/-- Digits are cut off twice: the second time it is what rounding up may have added. -/
theorem roundWithAccuracy_eq (s : Sign) (m : ℕ) {e : ℤ} (a : Accuracy) (he : -1074 ≤ e) :
    roundWithAccuracy .binary64 s m e a
      = ofDigits s (rounded m a / 2 ^ ((rounded m a).log2 - 52))
        (e + ((m.log2 - 52 : ℕ) : ℤ) + (((rounded m a).log2 - 52 : ℕ) : ℤ)) := by
  let shift (m : ℕ) (e : ℤ) (a : Accuracy) := shiftToTargetExponent .binary64 m e a
  calc roundWithAccuracy .binary64 s m e a
    _ = ofDigits s (shift (shift m e a).1.roundedMantissa (shift m e a).2 .exact).1.mantissa
        (shift (shift m e a).1.roundedMantissa (shift m e a).2 .exact).2 := rfl
    _ = ofDigits s (shift (rounded m a) (e + ((m.log2 - 52 : ℕ) : ℤ)) .exact).1.mantissa
        (shift (rounded m a) (e + ((m.log2 - 52 : ℕ) : ℤ)) .exact).2 := by
      rw [show shift m e a = _ from shiftToTargetExponent_eq m a he]
      rfl
    _ = _ := by
      rw [show shift (rounded m a) _ _ = _ from
          shiftToTargetExponent_eq (rounded m a) .exact (by omega),
        mantissa_shiftRight, mantissa_ofMantissaAndAccuracy]

/-- What a natural number with some exponent is rounded to. -/
theorem roundWithAccuracy_spec {s : Sign} {m : ℕ} {e : ℤ} (a : Accuracy) (he : -1074 ≤ e)
    (hm : 2 ^ 52 ≤ m ∨ e = -1074) :
    HasDigits (roundWithAccuracy .binary64 s m e a) ∧
      signOf (roundWithAccuracy .binary64 s m e a) = s ∧
      size (roundWithAccuracy .binary64 s m e a)
        = rounded m a * 2 ^ (m.log2 - 52) * 2 ^ (e + 1074).toNat := by
  have hr := rounded_le_two_pow m a
  have hdvd := two_pow_dvd_of_le hr
  rw [roundWithAccuracy_eq s m a he]
  unfold ofDigits
  by_cases hzero : rounded m a / 2 ^ ((rounded m a).log2 - 52) = 0
  · have hnone : rounded m a = 0 := (Nat.eq_zero_of_dvd_of_div_eq_zero hdvd hzero)
    rw [dif_pos hzero, hnone, Nat.zero_mul, Nat.zero_mul]
    exact ⟨trivial, rfl, rfl⟩
  · rw [dif_neg hzero]
    refine ⟨⟨?_, kept_lt _, by omega⟩, rfl, ?_⟩
    · by_cases hfull : 2 ^ 52 ≤ rounded m a
      · exact Or.inl (le_kept hfull)
      · -- There were fewer digits to begin with, and none was dropped.
        have hfew : m < 2 ^ 52 := Nat.not_le.mp fun hle =>
          hfull ((le_kept hle).trans (rounded_bounds m a).1)
        refine Or.inr ?_
        rw [log2_sub_of_lt (by omega), log2_sub_of_lt (by omega),
          hm.resolve_left (Nat.not_le.mpr hfew)]
        rfl
    · change rounded m a / _ * _ = _
      rw [two_pow_toNat_add (by omega), two_pow_toNat_add he, ← Nat.mul_assoc,
        Nat.div_mul_cancel hdvd, Nat.mul_assoc]

/-- Whether rounding takes an integer to what has so many units: it has the digits of a double,
    and no short number lies between. -/
structure RoundsTo (k : ℤ) (u : UnpackedFloat) : Prop where
  hasDigits : HasDigits u
  le_units : ∀ {w : ℤ}, IsShort w.natAbs → w ≤ k → w ≤ units u
  units_le : ∀ {w : ℤ}, IsShort w.natAbs → k ≤ w → units u ≤ w

theorem round_spec {s : Sign} {m : ℕ} {e : ℤ} (hm : m ≠ 0) (he : -1074 ≤ e) :
    HasDigits (UnpackedFloat.round .binary64 s m e) ∧
      signOf (UnpackedFloat.round .binary64 s m e) = s ∧
      ∀ w, IsShort w →
        (w ≤ m * 2 ^ (e + 1074).toNat → w ≤ size (UnpackedFloat.round .binary64 s m e)) ∧
        (m * 2 ^ (e + 1074).toNat ≤ w → size (UnpackedFloat.round .binary64 s m e) ≤ w) := by
  -- Where there are too few digits, zeros are added, as far as the exponent allows.
  have hround : ∃ d : ℕ, UnpackedFloat.round .binary64 s m e
      = roundWithAccuracy .binary64 s (m * 2 ^ d) (e - d) .exact ∧ -1074 ≤ e - d ∧
        (2 ^ 52 ≤ m * 2 ^ d ∨ e - d = -1074) := by
    refine ⟨(e - max ((m.log2 : ℤ) + 1 + e - 53) (-1074)).toNat, ?_, by omega, ?_⟩
    · rw [← Nat.shiftLeft_eq]
      rfl
    · generalize hd : (e - max ((m.log2 : ℤ) + 1 + e - 53) (-1074)).toNat = d
      by_cases hfull : 52 ≤ m.log2 + d
      · refine Or.inl ?_
        calc 2 ^ 52 ≤ 2 ^ (m.log2 + d) := Nat.pow_le_pow_right (by decide) hfull
          _ = 2 ^ m.log2 * 2 ^ d := Nat.pow_add ..
          _ ≤ m * 2 ^ d := Nat.mul_le_mul_right _ (Nat.log2_self_le hm)
      · exact Or.inr (by omega)
  obtain ⟨d, hround, hlow, hdigits⟩ := hround
  have hvalue : m * 2 ^ d * 2 ^ (e - d + 1074).toNat = m * 2 ^ (e + 1074).toNat := by
    rw [Nat.mul_assoc, ← two_pow_toNat_add hlow]
    congr 3
    omega
  obtain ⟨hhas, hsign, hsize⟩ := roundWithAccuracy_spec (s := s) .exact hlow hdigits
  rw [hround, hsize, ← hvalue]
  exact ⟨hhas, hsign, fun w hw => ⟨le_rounded .exact hw, rounded_le hw⟩⟩

/-- An integer is rounded as its magnitude is. -/
theorem RoundsTo.of_size {s : Sign} {k : ℤ} {u : UnpackedFloat} (hhas : HasDigits u)
    (hsign : signOf u = s) (hk : s.apply k.natAbs = k)
    (hbounds : ∀ w, IsShort w → (w ≤ k.natAbs → w ≤ size u) ∧ (k.natAbs ≤ w → size u ≤ w)) :
    RoundsTo k u := by
  have hunits : units u = s.apply (size u) := by
    rw [units, hsign]
  refine ⟨hhas, fun {w} hw hle => ?_, fun {w} hw hle => ?_⟩
  · have hw' := hbounds w.natAbs hw
    rw [hunits]
    cases s <;> simp only [Sign.apply] at hk ⊢ <;> omega
  · have hw' := hbounds w.natAbs hw
    rw [hunits]
    cases s <;> simp only [Sign.apply] at hk ⊢ <;> omega

theorem hasDigits_of_isCanonical {u : UnpackedFloat} (hu : IsCanonical u)
    (hfinite : u.isFinite = true) : HasDigits u := by
  cases u with
  | notANumber | infinity s => cases hfinite
  | zero s => trivial
  | finite s m e hm => exact ⟨hu.1, hu.2.1, hu.2.2.1⟩

/-- What is a double already is rounded to itself. -/
theorem roundsTo_units {u : UnpackedFloat} (hu : IsCanonical u) (hfinite : u.isFinite = true) :
    RoundsTo (units u) u :=
  ⟨hasDigits_of_isCanonical hu hfinite, fun _ hle => hle, fun _ hle => hle⟩

theorem roundsTo_zero (s : Sign) : RoundsTo 0 (.zero s) := by
  rw [← units_zero s]
  exact roundsTo_units trivial rfl

/-- An integer with some exponent is rounded, whatever its sign is. -/
theorem normalize_spec (m : ℤ) {e : ℤ} (he : -1074 ≤ e) (z : Sign) :
    RoundsTo (m * 2 ^ (e + 1074).toNat) (UnpackedFloat.normalize .binary64 m e z) := by
  have hnatAbs : (m * 2 ^ (e + 1074).toNat).natAbs = m.natAbs * 2 ^ (e + 1074).toNat := by
    rw [Int.natAbs_mul, Int.natAbs_pow]
    rfl
  have hpow : (0 : ℤ) < 2 ^ (e + 1074).toNat := Int.pow_pos (by decide)
  unfold UnpackedFloat.normalize
  rcases Int.lt_trichotomy m 0 with h | rfl | h
  · rw [compare_lt_iff_lt.mpr h]
    have hk := Int.mul_neg_of_neg_of_pos h hpow
    obtain ⟨hhas, hsign, hbounds⟩ := round_spec (s := .negative) (m := (-m).toNat) (by omega) he
    refine .of_size hhas hsign ?_ ?_
    · simp only [Sign.apply]
      omega
    · rwa [hnatAbs, show m.natAbs = (-m).toNat by omega]
  · rw [Int.zero_mul]
    exact roundsTo_zero z
  · rw [compare_gt_iff_gt.mpr h]
    have hk := Int.mul_pos h hpow
    obtain ⟨hhas, hsign, hbounds⟩ := round_spec (s := .positive) (m := m.toNat) (by omega) he
    refine .of_size hhas hsign ?_ ?_
    · simp only [Sign.apply]
      omega
    · rwa [hnatAbs, show m.natAbs = m.toNat by omega]

theorem units_eq_decreased {s : Sign} {m : ℕ} {e l : ℤ} {hm : 0 < m} (hl : -1074 ≤ l)
    (hle : l ≤ e) : units (.finite s m e hm)
      = s.apply (decreaseExponent m e l).1 * 2 ^ (l + 1074).toNat := by
  have hexponent : e = l + (e - l).toNat := by omega
  have hsize : m * 2 ^ (e + 1074).toNat = m <<< (e - l).toNat * 2 ^ (l + 1074).toNat := by
    rw [Nat.shiftLeft_eq, Nat.mul_assoc, ← two_pow_toNat_add hl, ← hexponent]
  have happly : ∀ n k : ℕ, s.apply ((n * k : ℕ) : ℤ) = s.apply n * k := by
    intro n k
    cases s with
    | positive => exact Int.natCast_mul n k
    | negative => exact (congrArg Neg.neg (Int.natCast_mul n k)).trans (Int.neg_mul ..).symm
  change s.apply ((m * 2 ^ (e + 1074).toNat : ℕ) : ℤ) = _
  rw [hsize, happly, Int.natCast_pow]
  rfl

/-- A sum is rounded from the sum of the units. -/
theorem add_spec {u v : UnpackedFloat} (hu : IsCanonical u) (hv : IsCanonical v)
    (hfu : u.isFinite = true) (hfv : v.isFinite = true) :
    RoundsTo (units u + units v) (UnpackedFloat.add .binary64 u v) := by
  cases u with
  | notANumber | infinity s => cases hfu
  | zero s =>
      rw [units_zero, Int.zero_add]
      cases v with
      | notANumber | infinity t => cases hfv
      | zero t => cases s <;> cases t <;> exact roundsTo_zero _
      | finite t n f hn => exact roundsTo_units hv rfl
  | finite s m e hm =>
      cases v with
      | notANumber | infinity t => cases hfv
      | zero t =>
          rw [units_zero, Int.add_zero]
          exact roundsTo_units hu rfl
      | finite t n f hn =>
          have he : -1074 ≤ e := hu.2.2.1
          have hf : -1074 ≤ f := hv.2.2.1
          have hlow : -1074 ≤ min e f := le_min he hf
          -- Both are brought to the lower one of the exponents.
          rw [units_eq_decreased hlow (min_le_left e f), units_eq_decreased hlow (min_le_right e f),
            ← Int.add_mul]
          exact normalize_spec _ hlow .positive

/-- What lies between two doubles is rounded to a double between them. -/
theorem RoundsTo.between {k : ℤ} {u v w : UnpackedFloat} (h : RoundsTo k u)
    (hv : IsCanonical v) (hw : IsCanonical w) (hle : units v ≤ k) (hle' : k ≤ units w) :
    IsCanonical u ∧ units v ≤ units u ∧ units u ≤ units w := by
  have hshort : ∀ {v : UnpackedFloat}, IsCanonical v → IsShort (units v).natAbs := by
    intro v hv
    rw [natAbs_units]
    exact isShort_size hv
  have hlower := h.le_units (hshort hv) hle
  have hupper := h.units_le (hshort hw) hle'
  refine ⟨?_, hlower, hupper⟩
  -- It is no larger than the one or the other.
  have hsize : size u ≤ size v ∨ size u ≤ size w := by
    rw [← natAbs_units, ← natAbs_units v, ← natAbs_units w]
    omega
  exact hsize.elim (isCanonical_of_size_le h.hasDigits hv) (isCanonical_of_size_le h.hasDigits hw)

/-- Every integer that is not too large is the number of units of a double. -/
theorem exists_units {k : ℤ} (hk : k.natAbs ≤ 2 ^ 53) : ∃ u, IsCanonical u ∧ units u = k := by
  by_cases hzero : k = 0
  · subst hzero
    exact ⟨.zero .positive, trivial, rfl⟩
  · have hsign : ∃ s : Sign, s.apply k.natAbs = k := by
      rcases Int.natAbs_eq k with h | h
      · exact ⟨.positive, h.symm⟩
      · exact ⟨.negative, h.symm⟩
    obtain ⟨s, hs⟩ := hsign
    by_cases hlt : k.natAbs < 2 ^ 53
    · refine ⟨.finite s k.natAbs (-1074) (by omega), ⟨Or.inr rfl, hlt, by omega, by omega⟩, ?_⟩
      have hsize : size (.finite s k.natAbs (-1074) (by omega)) = k.natAbs := Nat.mul_one _
      rw [units, hsize]
      exact hs
    · -- With one digit more the last one is a zero.
      refine ⟨.finite s (2 ^ 52) (-1073) (by decide), ⟨Or.inl (Nat.le_refl _), by decide, by decide,
        by decide⟩, ?_⟩
      have hsize : size (.finite s (2 ^ 52) (-1073) (by decide)) = k.natAbs := by
        change 2 ^ 52 * 2 = k.natAbs
        omega
      rw [units, hsize]
      exact hs

theorem HasDigits.isFinite {u : UnpackedFloat} (h : HasDigits u) : u.isFinite = true := by
  cases u with
  | notANumber | infinity s => exact h.elim
  | zero s | finite s m e hm => rfl

section

variable {x y : Float} (hx : x.isFinite = true) (hy : y.isFinite = true)

include hx hy

/-- A sum of two doubles that lies between two decoded ones before it is rounded lies between
    them afterwards. -/
theorem unitsOf_add {v w : UnpackedFloat} (hv : IsCanonical v) (hw : IsCanonical w)
    (hle : units v ≤ unitsOf x + unitsOf y) (hle' : unitsOf x + unitsOf y ≤ units w) :
    (x + y).isFinite = true ∧ units v ≤ unitsOf (x + y) ∧ unitsOf (x + y) ≤ units w := by
  have hadd := add_spec (isCanonical_unpack hx) (isCanonical_unpack hy) hx hy
  obtain ⟨hcanonical, hbounds⟩ := hadd.between hv hw hle hle'
  have hunpack : (x + y).toModel.unpack
      = UnpackedFloat.add .binary64 x.toModel.unpack y.toModel.unpack :=
    unpack_pack hcanonical
  have hfinite : (x + y).toModel.unpack.isFinite = true := by
    rw [hunpack]
    exact hadd.hasDigits.isFinite
  refine ⟨hfinite, ?_⟩
  unfold unitsOf
  rwa [hunpack]

/-- A sum that lies between two doubles before it is rounded lies between them afterwards. -/
theorem unitsOf_add_bounds {a b : Float} (ha : a.isFinite = true) (hb : b.isFinite = true)
    (hle : unitsOf a ≤ unitsOf x + unitsOf y) (hle' : unitsOf x + unitsOf y ≤ unitsOf b) :
    (x + y).isFinite = true ∧ unitsOf a ≤ unitsOf (x + y) ∧ unitsOf (x + y) ≤ unitsOf b :=
  unitsOf_add hx hy (isCanonical_unpack ha) (isCanonical_unpack hb) hle hle'

/-- A sum of few units is exact. -/
theorem unitsOf_add_exact (hfew : (unitsOf x + unitsOf y).natAbs ≤ 2 ^ 53) :
    (x + y).isFinite = true ∧ unitsOf (x + y) = unitsOf x + unitsOf y := by
  obtain ⟨u, hu, hunits⟩ := exists_units hfew
  obtain ⟨hfinite, hlower, hupper⟩ := unitsOf_add hx hy hu hu hunits.le hunits.ge
  exact ⟨hfinite, by omega⟩

end

/-! ### Halves -/

/-- Half of a decoded double. -/
def half (u : UnpackedFloat) : UnpackedFloat :=
  UnpackedFloat.div .binary64 u (.finite .positive (2 ^ 52) (-51) (by decide))

theorem unpack_div_two (x : Float) :
    (x / 2).toModel.unpack = unpack .binary64 (pack .binary64 (half x.toModel.unpack)) :=
  rfl

/-- What is short already stays as it is. -/
theorem size_roundWithAccuracy_of_isShort {s : Sign} {m : ℕ} {e : ℤ} (he : -1074 ≤ e)
    (hm : 2 ^ 52 ≤ m ∨ e = -1074) (hw : IsShort (m * 2 ^ (e + 1074).toNat)) :
    size (roundWithAccuracy .binary64 s m e .exact) = m * 2 ^ (e + 1074).toNat := by
  rw [(roundWithAccuracy_spec .exact he hm).2.2]
  exact Nat.le_antisymm (rounded_le hw (Nat.le_refl _)) (le_rounded .exact hw (Nat.le_refl _))

/-- Half of a number is its quotient by two with some zeros behind, for rounding to drop. -/
theorem half_eq {s : Sign} {m : ℕ} {e : ℤ} {hm : 0 < m} {t : ℤ}
    (ht : min (e + 51) (max ((m.log2 : ℤ) + 1 + e - 2 - 53) (-1074)) = t) :
    half (.finite s m e hm) = roundWithAccuracy .binary64 s (m * 2 ^ (e + 51 - t).toNat / 2 ^ 52) t
      (accuracyOfFraction (m * 2 ^ (e + 51 - t).toNat % 2 ^ 52) (2 ^ 52)) := by
  rw [← Nat.shiftLeft_eq, ← ht]
  cases s <;> rfl

section

variable (s : Sign) {m : ℕ} (hm : 0 < m)

/-- Above the lowest exponent half of a number has the same digits. -/
theorem half_spec_high {e : ℤ} (hfull : 2 ^ 52 ≤ m) (hlt : m < 2 ^ 53) (he : -1074 < e) :
    HasDigits (half (.finite s m e hm)) ∧ signOf (half (.finite s m e hm)) = s ∧
      2 * size (half (.finite s m e hm)) = size (.finite s m e hm) := by
  have hlog : m.log2 = 52 := by
    have hlower : 52 ≤ m.log2 := (Nat.le_log2 hm.ne').mpr hfull
    have hupper : m.log2 < 53 := (Nat.log2_lt hm.ne').mpr hlt
    omega
  -- One zero is put behind the digits, as far as the exponent allows.
  obtain ⟨d, hd, hlow⟩ : ∃ d : ℕ,
      min (e + 51) (max ((m.log2 : ℤ) + 1 + e - 2 - 53) (-1074)) = e - 1 - d ∧
        -1074 ≤ e - 1 - d := by
    refine ⟨(e - 1 - max (e - 2) (-1074)).toNat, ?_, ?_⟩
    · omega
    · omega
  have hshift : (e + 51 - (e - 1 - d)).toNat = d + 52 := by omega
  have hvalue : m * 2 ^ d * 2 ^ (e - 1 - d + 1074).toNat = m * 2 ^ (e - 1 + 1074).toNat := by
    rw [Nat.mul_assoc, ← two_pow_toNat_add hlow, Int.sub_add_cancel]
  have hdigits : 2 ^ 52 ≤ m * 2 ^ d := hfull.trans (Nat.le_mul_of_pos_right m (Nat.two_pow_pos d))
  have hdouble : size (.finite s m e hm) = 2 * (m * 2 ^ (e - 1 + 1074).toNat) := by
    have hexponent : (e + 1074).toNat = (e - 1 + 1074).toNat + 1 := by omega
    change m * 2 ^ (e + 1074).toNat = _
    rw [hexponent, Nat.pow_succ']
    exact Nat.mul_left_comm m 2 _
  rw [half_eq hd, hshift, Nat.pow_add, ← Nat.mul_assoc, Nat.mul_div_cancel _ (by decide),
    Nat.mul_mod_left, hdouble, ← hvalue]
  obtain ⟨hhas, hsign, -⟩ := roundWithAccuracy_spec (s := s) .exact hlow (Or.inl hdigits)
  refine ⟨hhas, hsign, congrArg (2 * ·) ?_⟩
  exact size_roundWithAccuracy_of_isShort hlow (Or.inl hdigits) ⟨m, _, hlt, hvalue⟩

/-- With the lowest exponent, half of an odd number lies between two neighbours. -/
theorem half_spec_low (hlt : m < 2 ^ 53) :
    HasDigits (half (.finite s m (-1074) hm)) ∧ signOf (half (.finite s m (-1074) hm)) = s ∧
      2 * size (half (.finite s m (-1074) hm)) ≤ m + 1 ∧
      m ≤ 2 * size (half (.finite s m (-1074) hm)) + 1 := by
  have ht : min ((-1074 : ℤ) + 51) (max ((m.log2 : ℤ) + 1 + -1074 - 2 - 53) (-1074)) = -1074 := by
    have hlog : m.log2 < 53 := (Nat.log2_lt hm.ne').mpr hlt
    omega
  have hquotient : m * 2 ^ 51 / 2 ^ 52 = m / 2 := by omega
  have hexact : m % 2 = 0 → accuracyOfFraction (m * 2 ^ 51 % 2 ^ 52) (2 ^ 52) = .exact := by
    intro heven
    exact if_pos (by omega)
  have hhalf : half (.finite s m (-1074) hm) = roundWithAccuracy .binary64 s (m / 2) (-1074)
      (accuracyOfFraction (m * 2 ^ 51 % 2 ^ 52) (2 ^ 52)) := by
    rw [half_eq ht, ← hquotient]
    rfl
  rw [hhalf]
  generalize accuracyOfFraction (m * 2 ^ 51 % 2 ^ 52) (2 ^ 52) = a at hexact
  -- There are few enough digits, so none is dropped, and one unit at most is added.
  have hshort : 2 ^ ((m / 2).log2 - 52) = 1 := by rw [log2_sub_of_lt (by omega), Nat.pow_zero]
  obtain ⟨hhas, hsign, hsize⟩ :=
    roundWithAccuracy_spec (s := s) (m := m / 2) a (Int.le_refl _) (Or.inr rfl)
  have hsize' : size (roundWithAccuracy .binary64 s (m / 2) (-1074) a) = rounded (m / 2) a := by
    rw [hsize, hshort, Nat.mul_one]
    exact Nat.mul_one _
  have hbounds := rounded_bounds (m / 2) a
  have hsame : a = .exact → rounded (m / 2) a = m / 2 := by
    rintro rfl
    have hkept := rounded_of_dvd (m := m / 2) (by rw [hshort]; exact Nat.one_dvd _)
    rwa [hshort, Nat.mul_one] at hkept
  rw [hshort, Nat.div_one] at hbounds
  rw [hsize']
  refine ⟨hhas, hsign, ?_⟩
  rcases Nat.mod_two_eq_zero_or_one m with heven | hodd
  · have := hsame (hexact heven)
    omega
  · omega

end

/-- Half of a number is a double, and twice as much differs from the number by a unit at most. -/
theorem half_spec {u : UnpackedFloat} (hu : IsCanonical u) (hfinite : u.isFinite = true) :
    IsCanonical (half u) ∧ HasDigits (half u) ∧ 2 * units (half u) ≤ units u + 1 ∧
      units u ≤ 2 * units (half u) + 1 := by
  have hspec : HasDigits (half u) ∧ signOf (half u) = signOf u ∧
      2 * size (half u) ≤ size u + 1 ∧ size u ≤ 2 * size (half u) + 1 ∧
      size (half u) ≤ size u := by
    cases u with
    | notANumber | infinity s => cases hfinite
    | zero s => cases s <;> exact ⟨trivial, rfl, by decide, by decide, by decide⟩
    | finite s m e hm =>
        obtain ⟨hdigits, hlt, hlow, -⟩ := hu
        rcases hlow.lt_or_eq with hhigh | rfl
        · obtain ⟨hhas, hsign, hsize⟩ :=
            half_spec_high s hm (hdigits.resolve_right hhigh.ne') hlt hhigh
          exact ⟨hhas, hsign, by omega, by omega, by omega⟩
        · obtain ⟨hhas, hsign, hle, hge⟩ := half_spec_low s hm hlt
          have hsize : size (.finite s m (-1074) hm) = m := Nat.mul_one m
          rw [hsize]
          exact ⟨hhas, hsign, hle, hge, by omega⟩
  obtain ⟨hhas, hsign, hle, hge, hsmall⟩ := hspec
  refine ⟨isCanonical_of_size_le hhas hu hsmall, hhas, ?_⟩
  unfold units
  rw [hsign]
  cases signOf u with
  | positive =>
      simp only [Sign.apply]
      omega
  | negative =>
      simp only [Sign.apply]
      omega

/-- Twice the half of a double differs from it by one unit at most. -/
theorem unitsOf_half {x : Float} (hx : x.isFinite = true) :
    (x / 2).isFinite = true ∧ 2 * unitsOf (x / 2) ≤ unitsOf x + 1 ∧
      unitsOf x ≤ 2 * unitsOf (x / 2) + 1 := by
  obtain ⟨hcanonical, hhas, hbounds⟩ := half_spec (isCanonical_unpack hx) hx
  have hunpack : (x / 2).toModel.unpack = half x.toModel.unpack :=
    (unpack_div_two x).trans (unpack_pack hcanonical)
  have hfinite : (x / 2).toModel.unpack.isFinite = true := by
    rw [hunpack]
    exact hhas.isFinite
  refine ⟨hfinite, ?_⟩
  unfold unitsOf
  rwa [hunpack]

end Binary64

end Concordance
