import Concordance.Proofs.ScoreBound

/-!
# The Score Equation

What the Wilson bound solves.

A true rate leads to expect some number of successes, with a standard error of its own.
The rates that put what was seen exactly `z` of these errors away solve a quadratic
equation, and the formula of the bound is the usual one for its roots: a center, and a
spread that is a square root. The root is taken of something that is not negative, the
spread is subtracted, so that it is the smaller of the two solutions, and that one lies
between zero and the rate that was seen. There is nothing left for the last step of the
formula to correct.

## Main definitions

* `SolvesScore`: A rate solves the score equation.

## Theorems

* `radicand_nonneg`: The spread is the root of a number that has one.
* `solvesScore_iff`: The solutions are one spread away from the center.
* `wilsonBound_isLeast`: The bound is the smaller solution, without being corrected.
-/

namespace Concordance

namespace Wilson

/-- Whether a rate solves the score equation for so many successes in so many trials. -/
def SolvesScore (s n : ℕ) (z x : ℝ) : Prop :=
  (n + z ^ 2) * x ^ 2 - (2 * s + z ^ 2) * x + s ^ 2 / n = 0

section

variable {s n : ℕ} {z x : ℝ}

/-- The spread is the root of a number that is not negative. -/
theorem radicand_nonneg (hn : 1 ≤ n) (hs : s ≤ n) :
    0 ≤ (s : ℝ) / n * (1 - s / n) / n + z ^ 2 / (4 * n * n) := by
  have hpos : (0 : ℝ) < n := Nat.cast_pos.mpr hn
  have hle : (s : ℝ) ≤ n := Nat.cast_le.mpr hs
  have hrate : (s : ℝ) / n ≤ 1 := (div_le_one hpos).mpr hle
  have hvariance : 0 ≤ (s : ℝ) / n * (1 - s / n) :=
    mul_nonneg (by positivity) (sub_nonneg.mpr hrate)
  positivity

/-- A rate solves the score equation if the distance of what was seen is as large as the
    variance that the rate leads to expect. -/
theorem solvesScore_iff_distance (hn : 1 ≤ n) :
    SolvesScore s n z x ↔ (s - n * x) ^ 2 - n * z ^ 2 * (x * (1 - x)) = 0 := by
  have hpos : (0 : ℝ) < n := Nat.cast_pos.mpr hn
  have hscale : (s - n * x) ^ 2 - n * z ^ 2 * (x * (1 - x))
      = n * ((n + z ^ 2) * x ^ 2 - (2 * s + z ^ 2) * x + s ^ 2 / n) := by
    field_simp
    ring
  rw [SolvesScore, hscale, mul_eq_zero, or_iff_right hpos.ne']

/-- The solutions of the score equation are one spread away from the center. -/
theorem solvesScore_iff (hn : 1 ≤ n) (hs : s ≤ n) : SolvesScore s n z x ↔
    ((s : ℝ) / n + z ^ 2 / (2 * n) - x * (1 + z ^ 2 / n)) ^ 2
      = (z * √((s : ℝ) / n * (1 - s / n) / n + z ^ 2 / (4 * n * n))) ^ 2 := by
  have hpos : (0 : ℝ) < n := Nat.cast_pos.mpr hn
  have hfactor : (1 + z ^ 2 / n) / n ^ 2 ≠ 0 := by positivity
  rw [mul_pow, Real.sq_sqrt (radicand_nonneg hn hs), ← sub_eq_zero, center_sub_sq hn, mul_eq_zero,
    or_iff_right hfactor, solvesScore_iff_distance hn]

section

variable (hz : 0 ≤ z) (hn : 1 ≤ n) (hs : s ≤ n)

include hn hs

/-- The formula solves the score equation. -/
theorem solvesScore_wilsonValue : SolvesScore s n z (wilsonValue .real s n z) := by
  have hpos : (0 : ℝ) < n := Nat.cast_pos.mpr hn
  have hdenominator : 1 + z ^ 2 / n ≠ 0 := by positivity
  rw [solvesScore_iff hn hs, wilsonValue_real hs, div_mul_cancel₀ _ hdenominator, sub_sub_cancel]

include hz

/-- No solution is smaller than the formula: none is farther below the center than the
    spread. -/
theorem wilsonValue_le_of_solvesScore (h : SolvesScore s n z x) :
    wilsonValue .real s n z ≤ x := by
  have hpos : (0 : ℝ) < n := Nat.cast_pos.mpr hn
  have hdenominator : 0 < 1 + z ^ 2 / n := by positivity
  have hspread : 0 ≤ z * √((s : ℝ) / n * (1 - s / n) / n + z ^ 2 / (4 * n * n)) :=
    mul_nonneg hz (Real.sqrt_nonneg _)
  rw [solvesScore_iff hn hs] at h
  rw [wilsonValue_real hs, div_le_iff₀ hdenominator, sub_le_comm]
  exact (le_abs_self _).trans (abs_le_of_sq_le_sq h.le hspread)

/-- The bound is the smaller solution of the score equation. It lies between zero and the
    rate that was seen, and so does the formula's value before it is kept between zero and
    one, which is therefore the bound already. What the formula takes a root of is not
    negative. -/
theorem wilsonBound_isLeast :
    IsLeast {x | SolvesScore s n z x} (wilsonBound .real s n z) ∧
      (0 ≤ wilsonBound .real s n z ∧ wilsonBound .real s n z ≤ s / n) ∧
      (wilsonValue .real s n z ∈ Set.Icc 0 1 ∧
        wilsonBound .real s n z = wilsonValue .real s n z) ∧
      0 ≤ (s : ℝ) / n * (1 - s / n) / n + z ^ 2 / (4 * n * n) := by
  have hpos : (0 : ℝ) < n := Nat.cast_pos.mpr hn
  have heq := wilsonBound_eq_wilsonValue hz hn hs
  have hseen : wilsonValue .real s n z ≤ s / n := by
    rw [le_div_iff₀' hpos]
    exact mul_wilsonValue_le hz hn hs
  have hnonneg := wilsonValue_nonneg hz hn hs
  refine ⟨?_, ?_, ⟨⟨hnonneg, wilsonValue_le_one hz hn hs⟩, heq⟩, radicand_nonneg hn hs⟩
  · rw [heq]
    exact ⟨solvesScore_wilsonValue hn hs, fun x hx => wilsonValue_le_of_solvesScore hz hn hs hx⟩
  · rw [heq]
    exact ⟨hnonneg, hseen⟩

end

end

/-- With one and a half standard deviations, two successes in four trials are worth a rate of
    one fifth. The other solution is four fifths. -/
theorem wilsonBound_isLeast_fifth :
    ((0 : ℝ) ≤ 3 / 2 ∧ 1 ≤ 4 ∧ 2 ≤ 4) ∧ SolvesScore 2 4 (3 / 2) (4 / 5) ∧
      wilsonBound .real 2 4 (3 / 2 : ℝ) = 1 / 5 := by
  have hz : (0 : ℝ) ≤ 3 / 2 := by norm_num
  obtain ⟨⟨hsolves, hleast⟩, -⟩ := wilsonBound_isLeast (s := 2) (n := 4) hz (by decide) (by decide)
  have hle : wilsonBound .real 2 4 (3 / 2 : ℝ) ≤ 1 / 5 := hleast (by
    change SolvesScore 2 4 (3 / 2) (1 / 5)
    unfold SolvesScore
    norm_num)
  refine ⟨⟨hz, by decide, by decide⟩, by unfold SolvesScore; norm_num, ?_⟩
  change SolvesScore 2 4 (3 / 2) _ at hsolves
  unfold SolvesScore at hsolves
  norm_num at hsolves
  have hfactors : (wilsonBound .real 2 4 (3 / 2 : ℝ) - 1 / 5)
      * (wilsonBound .real 2 4 (3 / 2 : ℝ) - 4 / 5) = 0 := by
    linarith
  rcases mul_eq_zero.mp hfactors with h | h
  · exact sub_eq_zero.mp h
  · linarith

end Wilson

end Concordance
