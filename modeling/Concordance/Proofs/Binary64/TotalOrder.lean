import Concordance.Proofs.Binary64.Order

/-!
# The Total Order of Doubles

Doubles that are sorted by their bits are sorted as numbers.

The total order of doubles looks at bits alone, so it can tell the two zeros apart
and finds a place for every NaN, which the comparison of numbers cannot. For
everything else the two agree: a double whose bits come first is at most the other
one. The reason is how a double is laid out. Without the sign the bits are the
exponent followed by the digits after the leading one, and only the numbers with
the lowest exponent may lack that one. A higher exponent therefore makes up for
whatever digits there are.

## Main definitions

* `magnitude`: The bits of a decoded double without the sign.
* `signOf`, `totalKey`: The sign, and the place in the total order.
* `IsCanonical`: The digits and the exponent are those of a double.

## Theorems

* `unpack_magnitude`: What the bits of a double say about what it is decoded into.
* `orderKey_eq`: The key of the total order, read off a decoded double.
* `totalKey_lt`: Numbers that are lower come first.
* `le_of_orderKey_le`: What comes first is no higher.
* `le_self`, `le_of_le_of_le`: Doubles that are not NaN are in an order.
* `minNum_cases`, `le_minNum_iff`: The smaller of two doubles.
-/

namespace Concordance

namespace Binary64

open Float.Model (UnpackedFloat Format)
open Float.Model.UnpackedFloat

theorem toNat_unpackExponent (b : BitVec 64) :
    (@unpackExponent .binary64 b).toNat = b.toNat / 2 ^ 52 % 2 ^ 11 := by
  simp only [unpackExponent, BitVec.toNat_cast, BitVec.extractLsb_toNat, Nat.shiftRight_eq_div_pow]

theorem toNat_unpackMantissa (b : BitVec 64) :
    (@unpackMantissa .binary64 b).toNat = b.toNat % 2 ^ 52 := by
  simp only [unpackMantissa, BitVec.toNat_cast, BitVec.extractLsb_toNat, Nat.shiftRight_eq_div_pow,
    Nat.pow_zero, Nat.div_one, Nat.sub_zero]

theorem toNat_unpackSign (b : BitVec 64) :
    (@unpackSign .binary64 b).toNat = b.toNat / 2 ^ 63 := by
  have hlt := b.isLt
  unfold unpackSign
  simp only [BitVec.toNat_cast, BitVec.extractLsb_toNat, Nat.shiftRight_eq_div_pow]
  omega

/-- The leading one stands before the digits that are stored. -/
theorem toNat_leading_append (m : BitVec 52) : (1#1 ++ m).toNat = 2 ^ 52 + m.toNat := by
  rw [BitVec.toNat_append, ← Nat.shiftLeft_add_eq_or_of_lt m.isLt]
  rfl

theorem ofBitVec_unpackSign (b : BitVec 64) :
    Sign.ofBitVec (@unpackSign .binary64 b)
      = if 2 ^ 63 ≤ b.toNat then .negative else .positive := by
  have hsign := toNat_unpackSign b
  have hlt := b.isLt
  unfold Sign.ofBitVec
  by_cases hneg : 2 ^ 63 ≤ b.toNat
  · rw [if_pos hneg, if_neg]
    intro hzero
    rw [hzero, BitVec.toNat_ofNat] at hsign
    omega
  · rw [if_neg hneg, if_pos]
    refine BitVec.eq_of_toNat_eq ?_
    rw [hsign, BitVec.toNat_ofNat]
    omega

/-- The bits of a decoded double without the sign: the exponent, and the digits after
    the leading one. -/
def magnitude : UnpackedFloat → ℤ
  | .infinity _ => 2047 * 2 ^ 52
  | .finite _ m e _ => (e + 1074) * 2 ^ 52 + m
  | .notANumber | .zero _ => 0

/-- The sign of a decoded double. -/
def signOf : UnpackedFloat → Sign
  | .infinity s | .zero s | .finite s _ _ _ => s
  | .notANumber => .positive

/-- Where a decoded double stands in the total order. -/
def totalKey (u : UnpackedFloat) : ℤ :=
  match signOf u with
  | .negative => -1 - magnitude u
  | .positive => magnitude u

/-- Whether the digits and the exponent are those of a double: there are as many
    digits as fit, and fewer only with the lowest exponent. -/
def IsCanonical : UnpackedFloat → Prop
  | .finite _ m e _ => (2 ^ 52 ≤ m ∨ e = -1074) ∧ m < 2 ^ 53 ∧ -1074 ≤ e ∧ e ≤ 971
  | _ => True

/-- A double is decoded into something canonical, whose magnitude its bits are but
    for the sign. -/
theorem unpack_magnitude {b : BitVec 64} (h : (unpack .binary64 b).isNaN = false) :
    IsCanonical (unpack .binary64 b) ∧
      magnitude (unpack .binary64 b) = (b.toNat % 2 ^ 63 : ℕ) := by
  have hexponent := toNat_unpackExponent b
  have hmantissa := toNat_unpackMantissa b
  have hbias : (Format.binary64.exponentBias : ℤ) = 1023 := rfl
  unfold unpack at h ⊢
  dsimp only at h ⊢
  by_cases hones : @unpackExponent .binary64 b = -1#11
  · -- The highest exponent is that of the infinities and of NaN.
    have hhigh : (@unpackExponent .binary64 b).toNat = 2047 := by rw [hones]; rfl
    rw [if_pos hones] at h ⊢
    by_cases hzero : @unpackMantissa .binary64 b = 0#52
    · have hnone : (@unpackMantissa .binary64 b).toNat = 0 := by rw [hzero]; rfl
      rw [if_pos hzero]
      refine ⟨trivial, ?_⟩
      unfold magnitude
      dsimp only
      omega
    · rw [if_neg hzero] at h
      cases h
  · rw [if_neg hones]
    have hne : (@unpackExponent .binary64 b).toNat ≠ 2047 :=
      fun heq => hones (BitVec.eq_of_toNat_eq heq)
    by_cases hlow : @unpackExponent .binary64 b = 0#11
    · -- The lowest exponent is stored as that of the numbers above, less one.
      have hlowest : (@unpackExponent .binary64 b).toNat = 0 := by rw [hlow]; rfl
      rw [if_pos hlow]
      by_cases hzero : @unpackMantissa .binary64 b = 0#52
      · have hnone : (@unpackMantissa .binary64 b).toNat = 0 := by rw [hzero]; rfl
        rw [dif_pos hzero]
        refine ⟨trivial, ?_⟩
        unfold magnitude
        dsimp only
        omega
      · rw [dif_neg hzero]
        unfold IsCanonical magnitude
        dsimp only
        omega
    · rw [if_neg hlow]
      have hpos : (@unpackExponent .binary64 b).toNat ≠ 0 :=
        fun heq => hlow (BitVec.eq_of_toNat_eq heq)
      unfold IsCanonical magnitude
      dsimp only
      rw [toNat_leading_append]
      omega

theorem signOf_unpack {b : BitVec 64} (h : (unpack .binary64 b).isNaN = false) :
    signOf (unpack .binary64 b) = if 2 ^ 63 ≤ b.toNat then .negative else .positive := by
  rw [← ofBitVec_unpackSign]
  unfold unpack at h ⊢
  dsimp only at h ⊢
  -- Whatever the exponent and the digits are, the sign is kept, unless it is NaN.
  by_cases hones : @unpackExponent .binary64 b = -1#11
  · rw [if_pos hones] at h ⊢
    by_cases hzero : @unpackMantissa .binary64 b = 0#52
    · rw [if_pos hzero]
      rfl
    · rw [if_neg hzero] at h
      cases h
  · rw [if_neg hones]
    by_cases hlow : @unpackExponent .binary64 b = 0#11
    · rw [if_pos hlow]
      by_cases hzero : @unpackMantissa .binary64 b = 0#52
      · rw [dif_pos hzero]
        rfl
      · rw [dif_neg hzero]
        rfl
    · rw [if_neg hlow]
      rfl

/-- The key of the total order, read off what a double is decoded into. -/
theorem orderKey_eq {x : Float} (hx : x.isNaN = false) :
    orderKey x = totalKey x.toModel.unpack := by
  have hmagnitude : magnitude x.toModel.unpack = ((x.toBits.toNat % 2 ^ 63 : ℕ) : ℤ) :=
    (unpack_magnitude hx).2
  have hsign : signOf x.toModel.unpack = if 2 ^ 63 ≤ x.toBits.toNat then .negative else .positive :=
    signOf_unpack hx
  have hlt : x.toBits.toNat < 2 ^ 64 := x.toBits.toNat_lt
  unfold orderKey isNegative totalKey
  dsimp only
  rw [hsign, hmagnitude]
  by_cases hneg : 2 ^ 63 ≤ x.toBits.toNat
  · rw [if_pos hneg, if_pos (decide_eq_true hneg)]
    dsimp only
    omega
  · rw [if_neg hneg, if_neg (by simpa only [decide_eq_true_eq] using hneg)]
    dsimp only
    omega

/-- Numbers that are lower have the lower key. What decides is the sign, then the
    exponent, then the digits, and each of them outweighs the next. -/
theorem totalKey_lt {u v : UnpackedFloat} (hu : IsCanonical u) (hv : IsCanonical v)
    (hun : u.isNaN = false) (hvn : v.isNaN = false) (h : place u < place v) :
    totalKey u < totalKey v := by
  rw [place, place, Prod.Lex.toLex_lt_toLex] at h
  unfold rank offset at h
  unfold totalKey signOf magnitude
  unfold IsCanonical at hu hv
  -- Without the sign a zero has the lowest key, an infinity has the highest one, and
  -- what is finite lies in between.
  cases u with
  | notANumber => cases hun
  | infinity s | zero s =>
      cases v with
      | notANumber => cases hvn
      | infinity t | zero t =>
          cases s <;> cases t <;>
            dsimp only at h ⊢ <;> simp at h ⊢
      | finite t n f hn =>
          dsimp only at hv
          cases s <;> cases t <;>
            dsimp only at h ⊢ <;> simp at h ⊢ <;> omega
  | finite s m e hm =>
      dsimp only at hu
      cases v with
      | notANumber => cases hvn
      | infinity t | zero t =>
          cases s <;> cases t <;>
            dsimp only at h ⊢ <;> simp at h ⊢ <;> omega
      | finite t n f hn =>
          -- A number that lacks the leading digit has the lowest exponent, so with a
          -- higher exponent the key is higher too.
          dsimp only at hv
          cases s <;> cases t <;>
            dsimp only at h ⊢ <;> simp [Prod.Lex.toLex_lt_toLex] at h ⊢ <;>
            omega

section

variable {x y z : Float}

/-- What comes first in the total order is no higher as a number. -/
theorem le_of_orderKey_le (hx : x.isNaN = false) (hy : y.isNaN = false)
    (h : orderKey x ≤ orderKey y) : x ≤ y := by
  rw [orderKey_eq hx, orderKey_eq hy] at h
  refine (le_iff x y).mpr ⟨hx, hy, not_lt.mp fun hlt => ?_⟩
  have hkey := totalKey_lt (unpack_magnitude hy).1 (unpack_magnitude hx).1 hy hx hlt
  exact absurd hkey (not_lt.mpr h)

theorem le_self (hx : x.isNaN = false) : x ≤ x :=
  (le_iff x x).mpr ⟨hx, hx, le_refl _⟩

theorem le_of_le_of_le (hxy : x ≤ y) (hyz : y ≤ z) : x ≤ z := by
  rcases (le_iff x y).mp hxy with ⟨hx, _, hxy⟩
  rcases (le_iff y z).mp hyz with ⟨_, hz, hyz⟩
  exact (le_iff x z).mpr ⟨hx, hz, hxy.trans hyz⟩

theorem not_lt_iff_le (hx : x.isNaN = false) (hy : y.isNaN = false) : ¬ y < x ↔ x ≤ y := by
  rw [le_iff, lt_iff, and_iff_right hx, and_iff_right hy, and_iff_right hx, and_iff_right hy]
  exact not_lt

/-- The smaller of two doubles is one of them and at most the other one. -/
theorem minNum_cases (hx : x.isNaN = false) (hy : y.isNaN = false) :
    (minNum x y = x ∧ x ≤ y) ∨ (minNum x y = y ∧ y ≤ x) := by
  unfold minNum
  rw [hx, if_neg Bool.false_ne_true]
  by_cases hlt : y < x
  · rw [if_pos hlt]
    exact Or.inr ⟨rfl, (le_iff y x).mpr ⟨hy, hx, le_of_lt ((lt_iff y x).mp hlt).2.2⟩⟩
  · rw [if_neg hlt]
    refine Or.inl ⟨rfl, (le_iff x y).mpr ⟨hx, hy, not_lt.mp fun h => ?_⟩⟩
    exact hlt ((lt_iff y x).mpr ⟨hy, hx, h⟩)

/-- What is at most the smaller of two doubles is at most both. -/
theorem le_minNum_iff (hx : x.isNaN = false) (hy : y.isNaN = false) :
    z ≤ minNum x y ↔ z ≤ x ∧ z ≤ y := by
  rcases minNum_cases hx hy with ⟨hmin, hle⟩ | ⟨hmin, hle⟩
  · rw [hmin]
    exact ⟨fun h => ⟨h, le_of_le_of_le h hle⟩, And.left⟩
  · rw [hmin]
    exact ⟨fun h => ⟨le_of_le_of_le h hle, h⟩, And.right⟩

end

end Binary64

end Concordance
