import Concordance.Decimal.Shortest
import Mathlib.Data.Nat.Log

/-!
# Digits of Doubles

The shortest decimal of a double that is not zero has a digit that is not zero.

The search for the shortest decimal goes over grids, from coarse to fine, and takes a
point of the first grid that comes close enough to the double. Zero never comes close
enough. If no grid had such a point the finest one would be used all the same, and there
the double is not below the first point, because the position of its leading digit was
found to within two places.

## Theorems

* `pointPosition_le`, `unit_le_value`: The position of the leading digit.
* `gridHit_ne_zero`: Zero is not close to a double.
* `coefficient_shortest_ne_zero`: The digits of a double that is not zero.
* `head?_toDigits`: They do not begin with a zero.
-/

namespace Concordance

namespace Decimal

theorem pointPosition_le (m : Nat) (q : Int) :
    pointPosition m q ≤ ((m.log2 : Int) + q) * 30103 / 100000 + 2 := by
  unfold pointPosition
  dsimp only
  rcases hfound : List.find? _ _ with _ | p
  · exact le_refl _
  · have hmem := List.mem_of_find?_eq_some hfound
    simp only [List.mem_cons, List.not_mem_nil, or_false] at hmem
    change p ≤ _
    omega

/-- Powers of two and of ten, close enough for all exponents of doubles. -/
theorem two_pow_le_ten_pow {n k : Nat} (h : 4 * (n / 13 + 1) ≤ k) : 2 ^ n ≤ 10 ^ k :=
  calc 2 ^ n ≤ 2 ^ (13 * (n / 13 + 1)) := Nat.pow_le_pow_right (by decide) (by omega)
    _ = (2 ^ 13) ^ (n / 13 + 1) := Nat.pow_mul ..
    _ ≤ (10 ^ 4) ^ (n / 13 + 1) := Nat.pow_le_pow_left (by decide) _
    _ = 10 ^ (4 * (n / 13 + 1)) := (Nat.pow_mul ..).symm
    _ ≤ 10 ^ k := Nat.pow_le_pow_right (by decide) h

theorem ten_pow_le_two_pow {n k : Nat} (h : 10 * (n / 3 + 1) ≤ k) : 10 ^ n ≤ 2 ^ k :=
  calc 10 ^ n ≤ 10 ^ (3 * (n / 3 + 1)) := Nat.pow_le_pow_right (by decide) (by omega)
    _ = (10 ^ 3) ^ (n / 3 + 1) := Nat.pow_mul ..
    _ ≤ (2 ^ 10) ^ (n / 3 + 1) := Nat.pow_le_pow_left (by decide) _
    _ = 2 ^ (10 * (n / 3 + 1)) := (Nat.pow_mul ..).symm
    _ ≤ 2 ^ k := Nat.pow_le_pow_right (by decide) h

theorem div_le_roundDiv (num den : Nat) (tie : Tie) : num / den ≤ roundDiv num den tie := by
  unfold roundDiv
  cases tie <;> grind

/-- Zero is not close to a double that is not zero. -/
theorem gridHit_ne_zero {low value high unit c : Nat} {closed : Bool} {tie : Tie} (hlow : 0 < low)
    (h : gridHit low value high unit closed tie = some c) : c ≠ 0 := by
  -- A point at the lower side of the interval is not zero, whether or not the end counts.
  have hbelow : low ≤ value / unit * unit → value / unit ≠ 0 := by
    intro hhit hzero
    rw [hzero, Nat.zero_mul] at hhit
    omega
  have hround := div_le_roundDiv value unit tie
  unfold gridHit at h
  grind

theorem coefficient_strip_ne_zero (fuel : Nat) : ∀ {c : Nat} {e : Int}, c ≠ 0 →
    (strip fuel c e).coefficient ≠ 0 := by
  induction fuel with
  | zero => exact fun h => h
  | succ fuel ih =>
      intro c e h
      unfold strip
      split
      · exact ih (by omega)
      · exact h

section

variable {m : Nat} {q : Int} (hm : m ≠ 0) (hlow : -1074 ≤ q) (hhigh : (m.log2 : Int) + q ≤ 1023)

include hm hlow hhigh

/-- A double is not below the first point of the finest grid. -/
theorem unit_le_value :
    2 ^ (2 - q).toNat * 10 ^ (pointPosition m q - 17).toNat
      ≤ 4 * m * (2 ^ (q - 2).toNat * 10 ^ (17 - pointPosition m q).toNat) := by
  have hp := pointPosition_le m q
  generalize pointPosition m q = p at hp ⊢
  have hleading : 2 ^ (m.log2 + 2) ≤ 4 * m := by
    rw [Nat.pow_add, Nat.mul_comm]
    exact Nat.mul_le_mul_left 4 (Nat.log2_self_le hm)
  -- Only powers are left when the double is replaced by its leading digit.
  refine le_trans ?_ (Nat.mul_le_mul_right _ hleading)
  rw [← Nat.mul_assoc, ← Nat.pow_add]
  by_cases hposition : p ≤ 17
  · have hnone : (p - 17).toNat = 0 := by omega
    rw [hnone, Nat.pow_zero, Nat.mul_one]
    by_cases hone : (2 - q).toNat ≤ m.log2 + 2 + (q - 2).toNat
    · exact (Nat.pow_le_pow_right (by decide) hone).trans
        (Nat.le_mul_of_pos_right _ (Nat.pow_pos (by decide)))
    · have hrest := two_pow_le_ten_pow (n := (2 - q).toNat - (m.log2 + 2 + (q - 2).toNat))
        (k := (17 - p).toNat) (by omega)
      calc 2 ^ (2 - q).toNat
          = 2 ^ (m.log2 + 2 + (q - 2).toNat) *
              2 ^ ((2 - q).toNat - (m.log2 + 2 + (q - 2).toNat)) := by
            rw [← Nat.pow_add]
            exact congrArg (2 ^ ·) (by omega)
        _ ≤ 2 ^ (m.log2 + 2 + (q - 2).toNat) * 10 ^ (17 - p).toNat := Nat.mul_le_mul_left _ hrest
  · have hnone : (17 - p).toNat = 0 := by omega
    rw [hnone, Nat.pow_zero, Nat.mul_one]
    have hrest := ten_pow_le_two_pow (n := (p - 17).toNat)
      (k := m.log2 + 2 + (q - 2).toNat - (2 - q).toNat) (by omega)
    calc 2 ^ (2 - q).toNat * 10 ^ (p - 17).toNat
        ≤ 2 ^ (2 - q).toNat * 2 ^ (m.log2 + 2 + (q - 2).toNat - (2 - q).toNat) :=
          Nat.mul_le_mul_left _ hrest
      _ = 2 ^ (m.log2 + 2 + (q - 2).toNat) := by
          rw [← Nat.pow_add]
          exact congrArg (2 ^ ·) (by omega)

/-- The shortest decimal of a double that is not zero has a digit that is not zero. -/
theorem coefficient_shortest_ne_zero (tie : Tie) : (shortest tie m q).coefficient ≠ 0 := by
  have hvalue := unit_le_value hm hlow hhigh
  unfold shortest
  dsimp only
  have hscale : 0 < 2 ^ (q - 2).toNat * 10 ^ (17 - pointPosition m q).toNat :=
    Nat.mul_pos (Nat.pow_pos (by decide)) (Nat.pow_pos (by decide))
  have hunit : 0 < 2 ^ (2 - q).toNat * 10 ^ (pointPosition m q - 17).toNat :=
    Nat.mul_pos (Nat.pow_pos (by decide)) (Nat.pow_pos (by decide))
  rcases hhit : List.findSome? _ _ with _ | d
  · exact (Nat.div_pos hvalue hunit).ne'
  · obtain ⟨coarser, -, hd⟩ := List.exists_of_findSome?_eq_some hhit
    obtain ⟨c, hc, rfl⟩ := Option.map_eq_some_iff.mp hd
    refine coefficient_strip_ne_zero 17 (gridHit_ne_zero ?_ hc)
    refine Nat.mul_pos ?_ hscale
    split_ifs <;> omega

end

/-- The digits of a number that is not zero do not begin with a zero. -/
theorem head?_toDigits {n : Nat} (hn : n ≠ 0) : (Nat.toDigits 10 n).head? ≠ some '0' := by
  induction n using Nat.strongRecOn with
  | _ n ih =>
      by_cases hsmall : n < 10
      · have hdigit : ∀ d < 10, d ≠ 0 → Nat.digitChar d ≠ '0' := by decide
        rw [Nat.toDigits_of_lt_base hsmall]
        exact fun h => hdigit n hsmall hn (Option.some.inj h)
      · rw [Nat.toDigits_of_base_le (by decide) (by omega), List.head?_append,
          Option.or_of_isSome (List.isSome_head?.mpr Nat.toDigits_ne_nil)]
        exact ih (n / 10) (by omega) (by omega)

end Decimal

end Concordance
