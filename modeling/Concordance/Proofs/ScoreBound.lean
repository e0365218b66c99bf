import Concordance.Statistics.Wilson
import Mathlib.Analysis.Real.Sqrt
import Mathlib.Tactic.FieldSimp
import Mathlib.Tactic.Linarith
import Mathlib.Tactic.NormNum
import Mathlib.Tactic.Ring

/-!
# The Bound and the Evidence

How the Wilson bound moves with the evidence, read with real numbers.

The formula has the counts in its center, under its root and in its denominator, and
no part of it moves the way that the whole does. The bound is easier to understand as
a cut between rates. A rate is too low if it lies on the lower side of what was seen,
so many standard errors away from it, and the bound is the greatest rate that is too
low. Whether a given rate is too low is a matter of two inequalities without roots and
quotients. One more success, one failure less, or more of the same evidence leaves
them both true, so what was too low before stays too low, and the bound cannot fall.

Nothing has to be kept between zero and one by force. Zero is too low always, and
what is too low does not exceed the rate of success that was seen.

## Main definitions

* `Arithmetic.real`: Arithmetic with real numbers.
* `Wilson.IsTooLow`: A rate is too low for the evidence.

## Theorems

* `center_sub_sq`: The formula's center and spread against the distance and the variance
  of what was seen.
* `le_wilsonValue_iff`: The rates up to the formula's value are those too low.
* `IsTooLow.mul_le`: What is too low does not exceed the rate that was seen.
* `wilsonBound_eq_wilsonValue`: The value lies between zero and one by itself.
* `IsTooLow.success`, `IsTooLow.of_failure`, `IsTooLow.scale`: What is too low stays
  so as the evidence grows stronger.
* `wilsonBound_monotone`: More evidence of success never lowers the bound.
-/

namespace Concordance

/-- Arithmetic with real numbers. -/
noncomputable def Arithmetic.real : Arithmetic ℝ :=
  { ofNat := fun n => n, sqrt := Real.sqrt, clampUnit := fun x => max 0 (min 1 x) }

namespace Wilson

/-- Whether a rate is too low for so many successes in so many trials: it lies on the
    lower side of the center of the interval, and the number of successes that it
    leads to expect is at least `z` standard errors away from that which was seen. -/
structure IsTooLow (s n : ℕ) (z x : ℝ) : Prop where
  side : 0 ≤ 2 * (s - n * x) + z ^ 2 * (1 - 2 * x)
  distance : n * z ^ 2 * (x * (1 - x)) ≤ (s - n * x) ^ 2

/-! ### The bound as a cut -/

section

variable {s n : ℕ} {z x : ℝ}

theorem wilsonValue_real (hs : s ≤ n) : wilsonValue .real s n z =
    ((s : ℝ) / n + z ^ 2 / (2 * n)
        - z * √((s : ℝ) / n * (1 - s / n) / n + z ^ 2 / (4 * n * n))) / (1 + z ^ 2 / n) := by
  have hmin : Nat.min s n = s := Nat.min_eq_left hs
  unfold wilsonValue
  simp only [hmin, Arithmetic.real, Nat.cast_one, Nat.cast_ofNat, pow_two]

/-- How far a rate is from the center of the interval, and the spread, both squared: they
    differ as the distance and the variance of what was seen do. -/
theorem center_sub_sq (hn : 1 ≤ n) :
    ((s : ℝ) / n + z ^ 2 / (2 * n) - x * (1 + z ^ 2 / n)) ^ 2
        - z ^ 2 * ((s : ℝ) / n * (1 - s / n) / n + z ^ 2 / (4 * n * n))
      = (1 + z ^ 2 / n) / n ^ 2 * ((s - n * x) ^ 2 - n * z ^ 2 * (x * (1 - x))) := by
  have hpos : (0 : ℝ) < n := Nat.cast_pos.mpr hn
  field_simp
  ring

/-- The rates up to the value of the formula are those that are too low. -/
theorem le_wilsonValue_iff (hz : 0 ≤ z) (hn : 1 ≤ n) (hs : s ≤ n) :
    x ≤ wilsonValue .real s n z ↔ IsTooLow s n z x := by
  have hpos : (0 : ℝ) < n := Nat.cast_pos.mpr hn
  have hdenominator : 0 < 1 + z ^ 2 / n := by positivity
  have hfactor : 0 < (1 + z ^ 2 / n) / n ^ 2 := by positivity
  -- The spread has to fit between the scaled rate and the center. Both are squared.
  have hside : (s : ℝ) / n + z ^ 2 / (2 * n) - x * (1 + z ^ 2 / n)
      = (2 * (s - n * x) + z ^ 2 * (1 - 2 * x)) / (2 * n) := by
    field_simp
    ring
  have hspread : ∀ w y : ℝ, z * √w ≤ y ↔ 0 ≤ y ∧ 0 ≤ y ^ 2 - z ^ 2 * w := by
    intro w y
    rw [← Real.sqrt_sq hz, ← Real.sqrt_mul (sq_nonneg z), Real.sqrt_le_iff, Real.sqrt_sq hz,
      sub_nonneg]
  rw [wilsonValue_real hs, le_div_iff₀ hdenominator, le_sub_comm, hspread, center_sub_sq hn, hside,
    mul_nonneg_iff_of_pos_left hfactor, le_div_iff₀ (by positivity), zero_mul, sub_nonneg]
  exact ⟨fun h => ⟨h.1, h.2⟩, fun h => ⟨h.side, h.distance⟩⟩

/-- What is too low does not exceed the rate that was seen. -/
theorem IsTooLow.mul_le (h : IsTooLow s n z x) : n * x ≤ s := by
  by_contra! hlt
  have hs : (0 : ℝ) ≤ s := Nat.cast_nonneg s
  have hexpected : 0 < n * x := hs.trans_lt hlt
  -- A rate above the one that was seen is on the lower side only if it is far below
  -- one half, and then the distance is too small.
  have hside : 2 * (n * x - s) ≤ z ^ 2 * (1 - 2 * x) := by linarith [h.side]
  have hz : 0 < z ^ 2 := by
    refine (sq_nonneg z).lt_of_ne fun hzero => ?_
    rw [← hzero, zero_mul] at hside
    linarith
  have hle : 2 * (n * z ^ 2 * (x * (1 - x))) ≤ z ^ 2 * (1 - 2 * x) * (n * x) :=
    calc 2 * (n * z ^ 2 * (x * (1 - x)))
      _ ≤ 2 * (n * x - s) * (n * x - s) := by linarith [h.distance]
      _ ≤ 2 * (n * x - s) * (n * x) := mul_le_mul_of_nonneg_left (by linarith) (by linarith)
      _ ≤ z ^ 2 * (1 - 2 * x) * (n * x) := mul_le_mul_of_nonneg_right hside hexpected.le
  have hpositive : 0 < z ^ 2 * (n * x) := mul_pos hz hexpected
  linarith

section

variable (hz : 0 ≤ z) (hn : 1 ≤ n) (hs : s ≤ n)

include hz hn hs

theorem isTooLow_wilsonValue : IsTooLow s n z (wilsonValue .real s n z) :=
  (le_wilsonValue_iff hz hn hs).mp le_rfl

theorem wilsonValue_nonneg : 0 ≤ wilsonValue .real s n z := by
  refine (le_wilsonValue_iff hz hn hs).mpr ⟨?_, ?_⟩
  · rw [mul_zero, mul_zero, sub_zero, sub_zero, mul_one]
    positivity
  · rw [zero_mul, mul_zero]
    positivity

/-- The bound does not exceed the rate that was seen. -/
theorem mul_wilsonValue_le : n * wilsonValue .real s n z ≤ s :=
  (isTooLow_wilsonValue hz hn hs).mul_le

theorem wilsonValue_le_one : wilsonValue .real s n z ≤ 1 := by
  have hpos : (0 : ℝ) < n := Nat.cast_pos.mpr hn
  have hle : (s : ℝ) ≤ n := Nat.cast_le.mpr hs
  refine le_of_mul_le_mul_left ?_ hpos
  rw [mul_one]
  exact (mul_wilsonValue_le hz hn hs).trans hle

/-- The value of the formula lies between zero and one by itself. -/
theorem wilsonBound_eq_wilsonValue :
    wilsonBound .real s n z = wilsonValue .real s n z := by
  unfold wilsonBound
  rw [if_neg (Nat.ne_of_gt hn)]
  change max 0 (min 1 (wilsonValue .real s n z)) = _
  rw [min_eq_right (wilsonValue_le_one hz hn hs), max_eq_right (wilsonValue_nonneg hz hn hs)]

/-- A bound is no higher than another one if what is too low for it is too low for the
    other. -/
theorem wilsonBound_le {s' n' : ℕ} (hn' : 1 ≤ n') (hs' : s' ≤ n')
    (h : ∀ x, 0 ≤ x → x ≤ 1 → IsTooLow s n z x → IsTooLow s' n' z x) :
    wilsonBound .real s n z ≤ wilsonBound .real s' n' z := by
  rw [wilsonBound_eq_wilsonValue hz hn hs, wilsonBound_eq_wilsonValue hz hn' hs']
  exact (le_wilsonValue_iff hz hn' hs').mpr (h _ (wilsonValue_nonneg hz hn hs)
    (wilsonValue_le_one hz hn hs) (isTooLow_wilsonValue hz hn hs))

end

theorem wilsonBound_zero : wilsonBound .real s 0 z = 0 :=
  Nat.cast_zero

/-- The bound where every trial was a success. -/
theorem wilsonBound_self (hz : 0 ≤ z) (hn : 1 ≤ n) :
    wilsonBound .real n n z = n / (n + z ^ 2) := by
  have hpos : (0 : ℝ) < n := Nat.cast_pos.mpr hn
  have hroot : z ^ 2 / (4 * n * n) = (z / (2 * n)) ^ 2 := by
    field_simp
    ring
  rw [wilsonBound_eq_wilsonValue hz hn le_rfl, wilsonValue_real le_rfl, div_self hpos.ne', sub_self,
    mul_zero, zero_div, zero_add, hroot, Real.sqrt_sq (by positivity)]
  field_simp
  ring

end

/-! ### Stronger evidence -/

namespace IsTooLow

variable {s n k m : ℕ} {z x : ℝ}

/-- One more success leaves too low what was too low. -/
theorem success (h : IsTooLow s n z x) (hn : 1 ≤ n) (hs : s ≤ n) (hx1 : x ≤ 1) :
    IsTooLow (s + 1) (n + 1) z x := by
  have hpos : (0 : ℝ) < n := Nat.cast_pos.mpr hn
  have hle : (s : ℝ) ≤ n := Nat.cast_le.mpr hs
  have hrest : 0 ≤ 1 - x := by linarith
  have hseen : 0 ≤ s - n * x := by linarith [h.mul_le]
  -- The variance grows by what one trial contributes, and the distance by more.
  have hvariance : z ^ 2 * (x * (1 - x)) ≤ (s - n * x) * (1 - x) := by
    refine le_of_mul_le_mul_left ?_ hpos
    calc (n : ℝ) * (z ^ 2 * (x * (1 - x)))
      _ ≤ (s - n * x) * (s - n * x) := by linarith [h.distance]
      _ ≤ (s - n * x) * (n * (1 - x)) := mul_le_mul_of_nonneg_left (by linarith) hseen
      _ = n * ((s - n * x) * (1 - x)) := by ring
  constructor
  · rw [Nat.cast_add_one, Nat.cast_add_one]
    linarith [h.side]
  · rw [Nat.cast_add_one, Nat.cast_add_one]
    calc ((n : ℝ) + 1) * z ^ 2 * (x * (1 - x))
      _ ≤ (s - n * x) ^ 2 + (s - n * x) * (1 - x) := by linarith [h.distance]
      _ ≤ (s - n * x) ^ 2 + 2 * ((s - n * x) * (1 - x)) + (1 - x) ^ 2 := by
          linarith [mul_nonneg hseen hrest, sq_nonneg (1 - x)]
      _ = (s + 1 - (n + 1) * x) ^ 2 := by ring

/-- What is too low in spite of a failure is too low without it. -/
theorem of_failure (h : IsTooLow s (n + 1) z x) (hx : 0 ≤ x) (hx1 : x ≤ 1) :
    IsTooLow s n z x := by
  have hside := h.side
  have hdistance := h.distance
  have hseen := h.mul_le
  rw [Nat.cast_add_one] at hside hdistance hseen
  have hvariance : 0 ≤ z ^ 2 * (x * (1 - x)) :=
    mul_nonneg (sq_nonneg z) (mul_nonneg hx (by linarith))
  constructor
  · linarith
  · calc (n : ℝ) * z ^ 2 * (x * (1 - x))
      _ ≤ (s - (n + 1) * x) ^ 2 := by linarith
      _ ≤ (s - n * x) ^ 2 := pow_le_pow_left₀ (by linarith) (by linarith) 2

/-- More trials of the same rate leave too low what was too low. -/
theorem scale (h : IsTooLow (k * s) (k * n) z x) (hk : 1 ≤ k) (hkm : k ≤ m) :
    IsTooLow (m * s) (m * n) z x := by
  have hside := h.side
  have hdistance := h.distance
  have hseen := h.mul_le
  rw [Nat.cast_mul, Nat.cast_mul] at hside hdistance hseen
  have hpos : (0 : ℝ) < k := Nat.cast_pos.mpr hk
  have hle : (k : ℝ) ≤ m := Nat.cast_le.mpr hkm
  have hrate : 0 ≤ s - n * x := by
    refine le_of_mul_le_mul_left ?_ hpos
    linarith
  -- The distance grows with the square of the number of trials, the variance does not.
  have hunit : n * z ^ 2 * (x * (1 - x)) ≤ k * (s - n * x) ^ 2 := by
    refine le_of_mul_le_mul_left ?_ hpos
    linarith
  constructor
  · rw [Nat.cast_mul, Nat.cast_mul]
    linarith [mul_le_mul_of_nonneg_right hle hrate]
  · rw [Nat.cast_mul, Nat.cast_mul]
    calc (m : ℝ) * n * z ^ 2 * (x * (1 - x))
      _ = m * (n * z ^ 2 * (x * (1 - x))) := by ring
      _ ≤ m * (m * (s - n * x) ^ 2) :=
          mul_le_mul_of_nonneg_left (hunit.trans (mul_le_mul_of_nonneg_right hle (sq_nonneg _)))
            (hpos.le.trans hle)
      _ = (m * s - m * n * x) ^ 2 := by ring

end IsTooLow

/-- More evidence of success never lowers the bound. A success raises it or leaves it
    where it is, a failure lowers it or leaves it there, and at a fixed rate of success
    it does not fall as the number of trials grows. Without trials it is zero. -/
theorem wilsonBound_monotone {z : ℝ} (hz : 0 ≤ z) :
    (∀ s n : ℕ, s ≤ n → wilsonBound .real s n z ≤ wilsonBound .real (s + 1) (n + 1) z) ∧
      (∀ s n : ℕ, s ≤ n → wilsonBound .real s (n + 1) z ≤ wilsonBound .real s n z) ∧
      (∀ s n k m : ℕ, s ≤ n → 1 ≤ n → 1 ≤ k → k ≤ m →
        wilsonBound .real (k * s) (k * n) z ≤ wilsonBound .real (m * s) (m * n) z) ∧
      wilsonBound .real 0 0 z = 0 := by
  refine ⟨fun s n hs => ?_, fun s n hs => ?_, fun s n k m hs hn hk hkm => ?_, wilsonBound_zero⟩
  · rcases Nat.eq_zero_or_pos n with rfl | hn
    · rw [wilsonBound_zero, wilsonBound_eq_wilsonValue hz le_add_self (Nat.add_le_add_right hs 1)]
      exact wilsonValue_nonneg hz le_add_self (Nat.add_le_add_right hs 1)
    · exact wilsonBound_le hz hn hs le_add_self (Nat.add_le_add_right hs 1)
        fun x _ hx1 h => h.success hn hs hx1
  · have hs' : s ≤ n + 1 := Nat.le_succ_of_le hs
    rcases Nat.eq_zero_or_pos n with rfl | hn
    · -- The only trial was a failure, so no rate but zero is too low.
      have hle := mul_wilsonValue_le hz le_add_self hs'
      rw [Nat.le_zero.mp hs, zero_add, Nat.cast_one, one_mul, Nat.cast_zero] at hle
      rwa [wilsonBound_zero, Nat.le_zero.mp hs, zero_add,
        wilsonBound_eq_wilsonValue hz le_rfl (Nat.zero_le 1)]
    · exact wilsonBound_le hz le_add_self hs' hn hs fun x hx hx1 h => h.of_failure hx hx1
  · exact wilsonBound_le hz (Nat.mul_pos hk hn) (Nat.mul_le_mul_left k hs)
      (Nat.mul_pos (hk.trans hkm) hn) (Nat.mul_le_mul_left m hs) fun x _ _ h => h.scale hk hkm

/-- With two standard deviations, three successes and a failure are worth less than four
    and a failure, and those less than four successes alone. -/
theorem wilsonBound_monotone_two :
    (0 : ℝ) ≤ 2 ∧ wilsonBound .real 3 4 (2 : ℝ) ≤ wilsonBound .real 4 5 2 ∧
      wilsonBound .real 4 5 (2 : ℝ) ≤ 1 / 2 ∧
      wilsonBound .real (1 * 4) (1 * 4) (2 : ℝ) ≤ wilsonBound .real (3 * 4) (3 * 4) 2 := by
  have hz : (0 : ℝ) ≤ 2 := by norm_num
  obtain ⟨hsuccess, hfailure, hscale, -⟩ := wilsonBound_monotone hz
  have hfour : wilsonBound .real 4 4 (2 : ℝ) = 1 / 2 := by
    rw [wilsonBound_self hz (by decide)]
    norm_num
  refine ⟨hz, hsuccess 3 4 (by decide), ?_, hscale 4 4 1 3 le_rfl (by decide) le_rfl (by decide)⟩
  rw [← hfour]
  exact hfailure 4 4 le_rfl

end Wilson

end Concordance
