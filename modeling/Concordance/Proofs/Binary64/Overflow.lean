import Concordance.Proofs.Binary64.Magnitude

/-!
# Results That Stay Finite

Which operations on doubles can come out as an infinity, and what becomes of it.

An infinity never goes away. A sum is finite only if both of its terms are, and a
quotient only if its dividend is, so a long sum is finite only if each of its terms is
and no sum on the way left the range of doubles. Of several magnitudes the largest is
finite exactly if all of them are.

A quotient by a count stays in range. The largest double lies half a unit of its last
place below the values that are rounded to infinity, and dividing by one or more gives
nothing beyond it, so this comes down to one bound for the rounding: what is less than
the largest double and half a unit is rounded to a finite double.

## Theorems

* `isFinite_of_add`, `isFinite_of_div`, `isFinite_of_foldl_add`: Infinite operands.
* `isFinite_foldl_maxNum_iff`: The largest of several magnitudes.
* `isFinite_unpack_pack_round`: What is rounded to a finite double.
* `isFinite_div_ofNat`: Quotients by counts.
-/

namespace Concordance

namespace Binary64

open Float.Model (UnpackedFloat Format totalExponent)
open Float.Model.UnpackedFloat

/-! ### Infinities -/

theorem isFinite_of_unpack_pack {u : UnpackedFloat}
    (h : (unpack .binary64 (pack .binary64 u)).isFinite = true) : u.isFinite = true := by
  cases u with
  | notANumber => exact absurd h (by decide)
  | infinity s => exact absurd h (by cases s <;> decide)
  | zero s | finite s m e hm => rfl

theorem isFinite_zero : (0 : Float).isFinite = true := by
  decide +kernel

theorem isFinite_neg_zero : (-0.0 : Float).isFinite = true := by
  decide +kernel

theorem isFinite_one : (1 : Float).isFinite = true := by
  decide +kernel

/-- A sum is finite only if both terms are. -/
theorem isFinite_of_add {x y : Float} (h : (x + y).isFinite = true) :
    x.isFinite = true ∧ y.isFinite = true := by
  change (unpack .binary64 (pack .binary64
    (UnpackedFloat.add .binary64 x.toModel.unpack y.toModel.unpack))).isFinite = true at h
  change x.toModel.unpack.isFinite = true ∧ y.toModel.unpack.isFinite = true
  have hsum := isFinite_of_unpack_pack h
  cases hx : x.toModel.unpack with
  | notANumber =>
      rw [hx] at hsum
      exact nomatch hsum
  | infinity s =>
      rw [hx] at hsum
      cases hy : y.toModel.unpack with
      | notANumber | zero t | finite t n f hn => rw [hy] at hsum; exact nomatch hsum
      | infinity t =>
          rw [hy] at hsum
          cases s <;> cases t <;> exact nomatch hsum
  | zero s | finite s m e hm =>
      rw [hx] at hsum
      cases hy : y.toModel.unpack with
      | notANumber | infinity t => rw [hy] at hsum; exact nomatch hsum
      | zero t | finite t n f hn => exact ⟨rfl, rfl⟩

/-- A quotient is finite only if its dividend is. -/
theorem isFinite_of_div {x y : Float} (h : (x / y).isFinite = true) : x.isFinite = true := by
  change (unpack .binary64 (pack .binary64
    (UnpackedFloat.div .binary64 x.toModel.unpack y.toModel.unpack))).isFinite = true at h
  change x.toModel.unpack.isFinite = true
  have hquotient := isFinite_of_unpack_pack h
  cases hx : x.toModel.unpack with
  | notANumber =>
      rw [hx] at hquotient
      exact nomatch hquotient
  | infinity s =>
      rw [hx] at hquotient
      cases hy : y.toModel.unpack <;> rw [hy] at hquotient <;> exact nomatch hquotient
  | zero s | finite s m e hm => rfl

/-- A long sum is finite only if all of its terms are. -/
theorem isFinite_of_foldl_add {xs : List Float} : ∀ {x : Float},
    (xs.foldl (· + ·) x).isFinite = true → x.isFinite = true ∧ ∀ y ∈ xs, y.isFinite = true := by
  induction xs with
  | nil => exact fun h => ⟨h, nofun⟩
  | cons y ys ih =>
      intro x h
      obtain ⟨hsum, hall⟩ := ih h
      obtain ⟨hx, hy⟩ := isFinite_of_add hsum
      exact ⟨hx, List.forall_mem_cons.mpr ⟨hy, hall⟩⟩

/-- What is no larger than a finite double is finite, if it has no sign. -/
theorem IsMagnitude.isFinite_of_le {x y : Float} (hx : IsMagnitude x) (h : x ≤ y)
    (hy : y.isFinite = true) : x.isFinite = true := by
  change y.toModel.unpack.isFinite = true at hy
  change x.toModel.unpack.isFinite = true
  rcases hx.unpack_cases with hinf | hzero | ⟨m, e, hm, hfinite⟩
  · -- Nothing but infinity is as large as infinity.
    rw [le_eq_unpack, hinf] at h
    cases hu : y.toModel.unpack with
    | notANumber | infinity s => rw [hu] at hy; exact nomatch hy
    | zero s | finite s m e hm => rw [hu] at h; exact nomatch h
  · rw [hzero]
    rfl
  · rw [hfinite]
    rfl

/-- The largest of several magnitudes is finite if all of them are. -/
theorem isFinite_foldl_maxNum_iff {xs : List Float} (hxs : ∀ x ∈ xs, IsMagnitude x) :
    (xs.foldl maxNum 0).isFinite = true ↔ ∀ x ∈ xs, x.isFinite = true := by
  constructor
  · intro h x hx
    rcases isLargestOf_foldl hxs with ⟨rfl, _⟩ | ⟨_, hle⟩
    · exact nomatch hx
    · exact (hxs x hx).isFinite_of_le (hle x hx) h
  · intro h
    have hall : ∀ x ∈ 0 :: xs, x.isFinite = true :=
      List.forall_mem_cons.mpr ⟨isFinite_zero, h⟩
    exact hall _ (foldl_maxNum_mem xs 0)

/-! ### Rounding -/

/-- The first digit that is dropped. -/
theorem roundBit_shiftRight_succ (em : ExtendedMantissa) (n : Nat) :
    (em >>> (n + 1)).roundBit = (em.mantissa / 2 ^ n % 2 != 0) := by
  rw [← mantissa_shiftRight]
  rfl

theorem roundedMantissa_le (em : ExtendedMantissa) : em.roundedMantissa ≤ em.mantissa + 1 := by
  unfold ExtendedMantissa.roundedMantissa Accuracy.roundToNearestEven
  split <;> omega

/-- Less than half is dropped. -/
theorem roundedMantissa_of_roundBit {em : ExtendedMantissa} (h : em.roundBit = false) :
    em.roundedMantissa = em.mantissa := by
  obtain ⟨m, roundBit, stickyBit⟩ := em
  cases h
  cases stickyBit <;> rfl

/-- Where the last digit stands that is kept, if the number is not too large. -/
theorem shiftToTargetExponent_le {m k : Nat} {e : Int} (a : Accuracy) (hm : m < 2 ^ (53 + k))
    (he : e + k ≤ 971) : (shiftToTargetExponent .binary64 m e a).2 ≤ 971 := by
  have hlog : m.log2 < 53 + k := by
    rcases Nat.eq_zero_or_pos m with rfl | hpos
    · rw [Nat.log2_zero]
      omega
    · exact (Nat.log2_lt hpos.ne').mpr hm
  change e + ((max ((m.log2 : Int) + 1 + e - 53) (-1074) - e).toNat : Int) ≤ 971
  omega

/-- Rounding up gives a digit too many at most where there is room for it. -/
theorem roundedMantissa_lt {m j : Nat} {e : Int} (a : Accuracy) (he : e + j = 970)
    (hm : m < (2 ^ 54 - 1) * 2 ^ j) (hfirst : (shiftToTargetExponent .binary64 m e a).2 ≤ 971) :
    (shiftToTargetExponent .binary64 m e a).1.roundedMantissa < 2 ^ 53 ∨
      (shiftToTargetExponent .binary64 m e a).2 + (1 : Nat) ≤ 971 ∧
        (shiftToTargetExponent .binary64 m e a).1.roundedMantissa < 2 ^ (53 + 1) := by
  have hshift : ∃ k : Nat, shiftToTargetExponent .binary64 m e a
      = (ExtendedMantissa.ofMantissaAndAccuracy m a >>> k, e + k) ∧ m.log2 + 1 ≤ 53 + k := by
    refine ⟨(max ((m.log2 : Int) + 1 + e - 53) (-1074) - e).toNat, rfl, ?_⟩
    omega
  obtain ⟨k, hshift, hlog⟩ := hshift
  rw [hshift] at hfirst ⊢
  dsimp only at hfirst ⊢
  have hmantissa : (ExtendedMantissa.ofMantissaAndAccuracy m a >>> k).mantissa = m / 2 ^ k := by
    rw [mantissa_shiftRight, mantissa_ofMantissaAndAccuracy]
  have hup := roundedMantissa_le (ExtendedMantissa.ofMantissaAndAccuracy m a >>> k)
  have hdigits : m / 2 ^ k < 2 ^ 53 := by
    rw [Nat.div_lt_iff_lt_mul (Nat.two_pow_pos k), ← Nat.pow_add]
    exact Nat.lt_log2_self.trans_le (Nat.pow_le_pow_right (by decide) hlog)
  rw [hmantissa] at hup
  by_cases hk : k ≤ j
  · exact Or.inr ⟨by omega, by omega⟩
  · obtain rfl : k = j + 1 := by omega
    refine Or.inl ?_
    rw [Nat.pow_succ, ← Nat.div_div_eq_div_mul] at hmantissa hup hdigits
    have hhalf : m / 2 ^ j < 2 ^ 54 - 1 := (Nat.div_lt_iff_lt_mul (Nat.two_pow_pos j)).mpr hm
    by_cases hlast : m / 2 ^ j / 2 = 2 ^ 53 - 1
    · -- All digits are ones, and the next one is not.
      have hbit : (ExtendedMantissa.ofMantissaAndAccuracy m a >>> (j + 1)).roundBit = false := by
        rw [roundBit_shiftRight_succ, mantissa_ofMantissaAndAccuracy, bne_eq_false_iff_eq]
        omega
      rw [roundedMantissa_of_roundBit hbit, hmantissa]
      exact hdigits
    · omega

/-- A number below the largest double and half a unit of its last place is rounded to a
    finite double. -/
theorem isFinite_unpack_pack_round {s : Sign} {m j : Nat} {e : Int} (a : Accuracy)
    (he : e + j = 970) (hm : m < (2 ^ 54 - 1) * 2 ^ j) :
    (unpack .binary64 (pack .binary64 (roundWithAccuracy .binary64 s m e a))).isFinite = true := by
  have hbound : m < 2 ^ (53 + (j + 1)) := by
    refine hm.trans_le ?_
    rw [show 53 + (j + 1) = 54 + j by omega, Nat.pow_add]
    exact Nat.mul_le_mul_right _ (Nat.sub_le _ _)
  have hfirst : (shiftToTargetExponent .binary64 m e a).2 ≤ 971 :=
    shiftToTargetExponent_le a hbound (by push_cast; omega)
  have hsecond : (shiftToTargetExponent .binary64
      (shiftToTargetExponent .binary64 m e a).1.roundedMantissa
      (shiftToTargetExponent .binary64 m e a).2 .exact).2 ≤ 971 := by
    rcases roundedMantissa_lt a he hm hfirst with hlt | ⟨hle, hlt⟩
    · exact shiftToTargetExponent_le (k := 0) .exact hlt (by simpa using hfirst)
    · exact shiftToTargetExponent_le (k := 1) .exact hlt hle
  unfold roundWithAccuracy
  dsimp only
  by_cases hzero : (shiftToTargetExponent .binary64
      (shiftToTargetExponent .binary64 m e a).1.roundedMantissa
      (shiftToTargetExponent .binary64 m e a).2 .exact).1.mantissa = 0
  · rw [dif_pos hzero]
    cases s <;> decide
  · rw [dif_neg hzero]
    exact isFinite_unpack (unpackExponent_pack (by omega))

theorem isFinite_unpack_pack_zero (s : Sign) :
    (unpack .binary64 (pack .binary64 (.zero s))).isFinite = true := by
  cases s <;> decide

/-- A quotient by one or more, with all of its digits, is finite. -/
theorem isFinite_unpack_pack_div {s : Sign} {m m' : Nat} {e e' : Int} {hm : 0 < m} {hm' : 0 < m'}
    (hlt : m < 2 ^ 53) (he : e ≤ 971) (hfull : 2 ^ 52 ≤ m') (he' : -52 ≤ e') :
    (unpack .binary64 (pack .binary64 (UnpackedFloat.div .binary64 (.finite s m e hm)
      (.finite .positive m' e' hm')))).isFinite = true := by
  have hlog : m.log2 < 53 := (Nat.log2_lt hm.ne').mpr hlt
  have hlog' : 52 ≤ m'.log2 := (Nat.le_log2 hm'.ne').mpr hfull
  have ht : (divCore .binary64 m e m' e').2.1 ≤ 970 := by
    change min (e - e') (max ((m.log2 : Int) + 1 + e - (m'.log2 + 1 + e') - 53) (-1074)) ≤ 970
    omega
  have hquotient : (divCore .binary64 m e m' e').1
      = m <<< (e - e' - (divCore .binary64 m e m' e').2.1).toNat / m' := rfl
  change (unpack .binary64 (pack .binary64 (roundWithAccuracy .binary64 _
    (divCore .binary64 m e m' e').1 (divCore .binary64 m e m' e').2.1 _))).isFinite = true
  generalize (divCore .binary64 m e m' e').2.1 = t at ht hquotient
  rw [hquotient]
  refine isFinite_unpack_pack_round (j := (970 - t).toNat) _ (by omega) ?_
  rw [Nat.div_lt_iff_lt_mul hm', Nat.shiftLeft_eq]
  calc m * 2 ^ (e - e' - t).toNat
      ≤ (2 ^ 53 - 1) * 2 ^ ((970 - t).toNat + 53) :=
        Nat.mul_le_mul (Nat.le_sub_one_of_lt hlt) (Nat.pow_le_pow_right (by decide) (by omega))
    _ = (2 ^ 54 - 2) * 2 ^ (970 - t).toNat * 2 ^ 52 := by
        rw [Nat.pow_add]
        omega
    _ < (2 ^ 54 - 1) * 2 ^ (970 - t).toNat * 2 ^ 52 := by
        have := Nat.two_pow_pos (970 - t).toNat
        omega
    _ ≤ (2 ^ 54 - 1) * 2 ^ (970 - t).toNat * m' := Nat.mul_le_mul_left _ hfull

/-- A quotient of a finite double by a count is finite. -/
theorem isFinite_div_ofNat {x : Float} (hx : x.isFinite = true) {n : Nat} (hn : n ≠ 0) :
    (x / Float.ofNat n).isFinite = true := by
  change (unpack .binary64 (pack .binary64 (UnpackedFloat.div .binary64 x.toModel.unpack
    (Float.ofNat n).toModel.unpack))).isFinite = true
  change x.toModel.unpack.isFinite = true at hx
  rcases isFull_ofNat hn with hinf | ⟨m', e', hm', hy, hfull, -, he'⟩
  · rw [hinf]
    cases hu : x.toModel.unpack with
    | notANumber | infinity s => rw [hu] at hx; exact nomatch hx
    | zero s | finite s m e hm => exact isFinite_unpack_pack_zero _
  · rw [hy]
    cases hu : x.toModel.unpack with
    | notANumber | infinity s => rw [hu] at hx; exact nomatch hx
    | zero s => exact isFinite_unpack_pack_zero _
    | finite s m e hm =>
        have hcanonical := (unpack_magnitude (isNaN_of_isFinite hx)).1
        change IsCanonical x.toModel.unpack at hcanonical
        rw [hu] at hcanonical
        exact isFinite_unpack_pack_div hcanonical.2.1 hcanonical.2.2.2 hfull he'

end Binary64

end Concordance
