import Concordance.Proofs.Binary64.Rounding

/-!
# Doubles as Integers

Every finite double is a whole number of times the least positive one.

That number is an integer, and all that is known of the double but for the sign of zero: two
doubles compare as their integers do. So sums and halves of doubles can be reasoned about as
sums and halves of integers, and what is left to say is how far rounding goes. No double is
lost when it is packed, so rounding is all there is.

## Main definitions

* `size`: How many times a decoded double is as large as the least positive one.
* `units`, `unitsOf`: The same with the sign, of a decoded double and of a double.
* `HasDigits`: What is decoded has the digits of a double, however large it is.

## Theorems

* `size_lt`: Of two numbers with all of their digits the exponent decides.
* `le_iff_units`: Finite doubles compare as their integers do.
* `unpack_pack`: What has the digits and the exponent of a double is packed without loss.
-/

namespace Concordance

namespace Binary64

open Float.Model (UnpackedFloat Format)
open Float.Model.UnpackedFloat

/-- How many times a decoded double is as large as the least positive one, without the sign.
    What is not finite is left out. -/
def size : UnpackedFloat → ℕ
  | .finite _ m e _ => m * 2 ^ (e + 1074).toNat
  | _ => 0

/-- How many times a decoded double is the least positive one. -/
def units (u : UnpackedFloat) : ℤ :=
  (signOf u).apply (size u)

/-- How many times a double is the least positive one. -/
def unitsOf (x : Float) : ℤ :=
  units x.toModel.unpack

/-- Whether a decoded double has as many digits as fit, and fewer only with the lowest exponent.
    Unlike that of a double the exponent may be as high as it likes. -/
def HasDigits : UnpackedFloat → Prop
  | .finite _ m e _ => (2 ^ 52 ≤ m ∨ e = -1074) ∧ m < 2 ^ 53 ∧ -1074 ≤ e
  | .zero _ => True
  | _ => False

/-- The least positive double, and the least one with all of its digits. -/
example : unitsOf (Float.ofBits 1) = 1 ∧ unitsOf (Float.ofBits (2 ^ 52)) = 2 ^ 52 := by
  decide +kernel

/-! ### Order -/

/-- A higher exponent makes up for whatever digits there are. -/
theorem size_lt {m n : ℕ} {e f : ℤ} (hm : m < 2 ^ 53) (hn : 2 ^ 52 ≤ n) (he : -1074 ≤ e)
    (hef : e < f) : m * 2 ^ (e + 1074).toNat < n * 2 ^ (f + 1074).toNat := by
  have hpow : 2 ^ ((e + 1074).toNat + 1) ≤ 2 ^ (f + 1074).toNat :=
    Nat.pow_le_pow_right (by decide) (by omega)
  rw [Nat.pow_succ] at hpow
  calc m * 2 ^ (e + 1074).toNat < 2 ^ 53 * 2 ^ (e + 1074).toNat :=
        Nat.mul_lt_mul_of_pos_right hm (Nat.two_pow_pos _)
    _ = 2 ^ 52 * (2 ^ (e + 1074).toNat * 2) := by omega
    _ ≤ n * 2 ^ (f + 1074).toNat := Nat.mul_le_mul hn hpow

theorem size_lt_of_lex {m n : ℕ} {e f : ℤ} (hm : m < 2 ^ 53) (hn : 2 ^ 52 ≤ n ∨ f = -1074)
    (he : -1074 ≤ e) (h : e < f ∨ e = f ∧ m < n) :
    m * 2 ^ (e + 1074).toNat < n * 2 ^ (f + 1074).toNat := by
  rcases h with hlt | ⟨rfl, hlt⟩
  · exact size_lt hm (hn.resolve_right (by omega)) he hlt
  · exact Nat.mul_lt_mul_of_pos_right hlt (Nat.two_pow_pos _)

@[simp]
theorem size_zero (s : Sign) : size (.zero s) = 0 := rfl

@[simp]
theorem units_zero (s : Sign) : units (.zero s) = 0 := by
  cases s <;> rfl

theorem size_pos {s : Sign} {m : ℕ} {e : ℤ} (hm : 0 < m) : 0 < size (.finite s m e hm) :=
  Nat.mul_pos hm (Nat.two_pow_pos _)

/-- What stands lower is fewer times the least positive double. -/
theorem units_lt {u v : UnpackedFloat} (hu : IsCanonical u) (hv : IsCanonical v)
    (hfu : u.isFinite = true) (hfv : v.isFinite = true) (h : place u < place v) :
    units u < units v := by
  rw [place, place, Prod.Lex.toLex_lt_toLex] at h
  unfold units
  cases u with
  | notANumber | infinity s => cases hfu
  | zero s =>
      cases v with
      | notANumber | infinity t => cases hfv
      | zero t => exact (h.elim (lt_irrefl _) fun hlt => lt_irrefl _ hlt.2).elim
      | finite t n f hn =>
          have hpos := size_pos (s := t) (e := f) hn
          cases s <;> cases t <;>
            dsimp only [rank, signOf, Sign.apply, size_zero] at h ⊢ <;> omega
  | finite s m e hm =>
      have hpos := size_pos (s := s) (e := e) hm
      cases v with
      | notANumber | infinity t => cases hfv
      | zero t =>
          cases s <;> cases t <;>
            dsimp only [rank, signOf, Sign.apply, size_zero] at h ⊢ <;> omega
      | finite t n f hn =>
          have hpos' := size_pos (s := t) (e := f) hn
          obtain ⟨hu, hum, hue, -⟩ := hu
          obtain ⟨hv, hvn, hvf, -⟩ := hv
          -- Of two negative numbers the larger one is lower.
          cases s <;> cases t <;>
            dsimp only [rank, offset, signOf, Sign.apply] at h ⊢ <;>
            rw [Prod.Lex.toLex_lt_toLex] at h <;> dsimp only at h
          · exact Int.neg_lt_neg (Int.ofNat_lt.mpr (size_lt_of_lex hvn hu hvf (by omega)))
          · omega
          · omega
          · exact Int.ofNat_lt.mpr (size_lt_of_lex hum hv hue (by omega))

/-- Only the zeros share a place, and they are no times the least positive double. -/
theorem eq_of_place_eq {u v : UnpackedFloat} (hfu : u.isFinite = true) (hfv : v.isFinite = true)
    (h : place u = place v) : (u = v ∧ units u = units v) ∨ (units u = 0 ∧ units v = 0) := by
  rw [place, place, toLex_inj, Prod.mk.injEq] at h
  unfold rank offset at h
  cases u with
  | notANumber | infinity s => cases hfu
  | zero s =>
      cases v with
      | notANumber | infinity t => cases hfv
      | zero t => exact Or.inr ⟨units_zero s, units_zero t⟩
      | finite t n f hn => cases t <;> simp at h
  | finite s m e hm =>
      cases v with
      | notANumber | infinity t => cases hfv
      | zero t => cases s <;> simp at h
      | finite t n f hn =>
          cases s <;> cases t <;> simp at h
          · obtain ⟨rfl, hmn⟩ := h
            obtain rfl : m = n := by omega
            exact Or.inl ⟨rfl, rfl⟩
          · obtain ⟨rfl, hmn⟩ := h
            obtain rfl : m = n := by omega
            exact Or.inl ⟨rfl, rfl⟩

theorem units_eq {u v : UnpackedFloat} (hfu : u.isFinite = true) (hfv : v.isFinite = true)
    (h : place u = place v) : units u = units v := by
  rcases eq_of_place_eq hfu hfv h with ⟨-, heq⟩ | ⟨hu, hv⟩
  · exact heq
  · rw [hu, hv]

section

variable {x y : Float}

theorem isCanonical_unpack (hx : x.isFinite = true) : IsCanonical x.toModel.unpack :=
  (unpack_magnitude (isNaN_of_isFinite hx)).1

/-- Finite doubles compare as their numbers of times the least positive one do. -/
theorem le_iff_units (hx : x.isFinite = true) (hy : y.isFinite = true) :
    x ≤ y ↔ unitsOf x ≤ unitsOf y := by
  have hcx := isCanonical_unpack hx
  have hcy := isCanonical_unpack hy
  have hnx : x.isNaN = false := isNaN_of_isFinite hx
  have hny : y.isNaN = false := isNaN_of_isFinite hy
  rw [le_iff, and_iff_right hnx, and_iff_right hny]
  unfold placeOf unitsOf
  rcases lt_trichotomy (place x.toModel.unpack) (place y.toModel.unpack) with h | h | h
  · exact iff_of_true h.le (units_lt hcx hcy hx hy h).le
  · exact iff_of_true h.le (units_eq hx hy h).le
  · exact iff_of_false (not_le.mpr h) (not_le.mpr (units_lt hcy hcx hy hx h))

/-- A double that is not zero is known by how many times it is the least positive one. -/
theorem unpack_eq_of_units (hx : x.isFinite = true) (hy : y.isFinite = true)
    (h : unitsOf x = unitsOf y) (hne : unitsOf x ≠ 0) : x.toModel.unpack = y.toModel.unpack := by
  have hxy := (le_iff x y).mp ((le_iff_units hx hy).mpr h.le)
  have hyx := (le_iff y x).mp ((le_iff_units hy hx).mpr h.ge)
  have hplace : place x.toModel.unpack = place y.toModel.unpack := le_antisymm hxy.2.2 hyx.2.2
  rcases eq_of_place_eq hx hy hplace with ⟨heq, -⟩ | ⟨hzero, -⟩
  · exact heq
  · exact absurd hzero hne

end

theorem natAbs_units (u : UnpackedFloat) : (units u).natAbs = size u := by
  unfold units
  cases signOf u with
  | positive => rfl
  | negative => exact Int.natAbs_neg _

/-- Only numbers with the lowest exponent can be odd. -/
theorem natAbs_lt_of_odd {x : Float} (hx : x.isFinite = true) (hodd : unitsOf x % 2 = 1) :
    (unitsOf x).natAbs < 2 ^ 53 := by
  have hcanonical := isCanonical_unpack hx
  have hsize : (unitsOf x).natAbs % 2 = 1 := by omega
  unfold unitsOf at hsize ⊢
  rw [natAbs_units] at hsize ⊢
  cases hu : x.toModel.unpack with
  | notANumber | infinity s | zero s =>
      rw [hu] at hsize
      cases hsize
  | finite s m e hm =>
      rw [hu] at hcanonical hsize
      change m * 2 ^ (e + 1074).toNat % 2 = 1 at hsize
      change m * 2 ^ (e + 1074).toNat < 2 ^ 53
      cases hk : (e + 1074).toNat with
      | zero =>
          rw [Nat.pow_zero, Nat.mul_one]
          exact hcanonical.2.1
      | succ k =>
          -- Any higher exponent makes it even.
          rw [hk, Nat.pow_succ, ← Nat.mul_assoc] at hsize
          omega

/-! ### Packing -/

/-- What has the digits of a double and is no larger than one is a double. -/
theorem isCanonical_of_size_le {u v : UnpackedFloat} (hu : HasDigits u) (hv : IsCanonical v)
    (h : size u ≤ size v) : IsCanonical u := by
  cases u with
  | notANumber | infinity s | zero s => trivial
  | finite s m e hm =>
      obtain ⟨hdigits, hlt, hlow⟩ := hu
      refine ⟨hdigits, hlt, hlow, ?_⟩
      cases v with
      | notANumber | infinity t | zero t => exact absurd h (Nat.not_le.mpr (size_pos hm))
      | finite t n f hn =>
          -- With an exponent that no double has it would be larger than all of them.
          by_contra hhigh
          obtain ⟨-, hltv, hlowv, hhighv⟩ := hv
          refine absurd h (Nat.not_le.mpr (size_lt hltv (hdigits.resolve_right ?_) hlowv ?_))
          · omega
          · omega

/-- A number with fewer digits is packed with the lowest exponent, as it has no first one. -/
theorem unpack_pack_short {s : Sign} {m : ℕ} {hm : 0 < m} (hlt : m < 2 ^ 52) :
    unpack .binary64 (pack .binary64 (.finite s m (-1074) hm)) = .finite s m (-1074) hm := by
  have hlog : ¬ m.log2 + 1 = 53 := by
    have hupper : m.log2 < 52 := (Nat.log2_lt hm.ne').mpr hlt
    omega
  have hpack : pack .binary64 (.finite s m (-1074) hm)
      = packComponents .binary64 s 0#11 (BitVec.ofNat 52 m) := by
    unfold pack
    exact (if_neg (show ¬ 2 ^ 11 ≤ (-1074 + 1023 + 52 : ℤ).toNat + 1 by decide)).trans
      (if_neg hlog)
  have hmantissa : (BitVec.ofNat 52 m).toNat = m := by
    rw [BitVec.toNat_ofNat]
    exact Nat.mod_eq_of_lt hlt
  have hsome : BitVec.ofNat 52 m ≠ 0#52 := by
    intro heq
    have hnat := congrArg BitVec.toNat heq
    rw [hmantissa] at hnat
    exact hm.ne' hnat
  rw [hpack]
  unfold unpack
  dsimp only
  rw [unpackExponent_packComponents, if_neg (by decide), if_pos rfl, unpackSign_packComponents,
    dif_neg (by rwa [unpackMantissa_packComponents])]
  refine finite_congr rfl ?_ rfl
  rw [unpackMantissa_packComponents, hmantissa]

/-- What has the digits and the exponent of a double comes back when it is unpacked. -/
theorem unpack_pack {u : UnpackedFloat} (h : IsCanonical u) :
    unpack .binary64 (pack .binary64 u) = u := by
  cases u with
  | notANumber => rfl
  | infinity s | zero s => cases s <;> rfl
  | finite s m e hm =>
      obtain ⟨hdigits, hlt, hlow, hhigh⟩ := h
      by_cases hfull : 2 ^ 52 ≤ m
      · exact unpack_pack_full hfull hlt hlow hhigh
      · obtain rfl := hdigits.resolve_left hfull
        exact unpack_pack_short (Nat.not_le.mp hfull)

end Binary64

end Concordance
