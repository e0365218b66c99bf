import Concordance.Proofs.Binary64.Identity
import Concordance.Proofs.MiddleInRange

/-!
# Values without Infinities

Doubles that are generated are finite, and lie in their range if they are drawn.

A draw ends with one of the two ends of a piece, and a piece is found by exact arithmetic
whose results are written as doubles. Nothing is said here of where such a result lies. A
result that is too large becomes an infinity, but none becomes a NaN, and that is enough,
since what is drawn is put back between the ends of the range. A NaN is the only double
that this would not put right.

Finite doubles are equal to themselves, and so are the values made of them.

## Main definitions

* `Value.IsFinite`: The doubles of a value are finite.

## Theorems

* `Binary64.isFinite_of_le_of_le`: What lies between finite doubles is finite.
* `Binary64.isNaN_ofExact`: No exact value is written as a NaN.
* `Random.always_between`: A double is drawn from its range.
* `Value.beq_self`: A finite value is equal to itself.
* `Parameter.Kind.isFinite_boundaryValues`, `Parameter.Kind.always_isFinite_draw`: The
  values of a range that can be drawn from.
-/

namespace Concordance

namespace Binary64

open Float.Model (UnpackedFloat Format)
open Float.Model.UnpackedFloat

/-- What lies between two finite doubles is finite. -/
theorem isFinite_of_le_of_le {lo hi x : Float} (hlo : lo.isFinite = true)
    (hhi : hi.isFinite = true) (hlower : lo ≤ x) (hupper : x ≤ hi) : x.isFinite = true := by
  change lo.toModel.unpack.isFinite = true at hlo
  change hi.toModel.unpack.isFinite = true at hhi
  change x.toModel.unpack.isFinite = true
  rw [le_eq_unpack] at hlower hupper
  cases hx : x.toModel.unpack with
  | notANumber =>
      rw [hx] at hupper
      cases hu : hi.toModel.unpack <;> rw [hu] at hupper <;> exact nomatch hupper
  | infinity s =>
      cases s with
      | positive =>
          rw [hx] at hupper
          cases hu : hi.toModel.unpack with
          | notANumber | infinity t => rw [hu] at hhi; exact nomatch hhi
          | zero t | finite t m e hm => rw [hu] at hupper; exact nomatch hupper
      | negative =>
          rw [hx] at hlower
          cases hu : lo.toModel.unpack with
          | notANumber | infinity t => rw [hu] at hlo; exact nomatch hlo
          | zero t | finite t m e hm => rw [hu] at hlower; exact nomatch hlower
  | zero s | finite s m e hm => rfl

/-- Bits are those of a NaN only if, without the sign, they are beyond those of infinity. -/
theorem isNaN_ofBits {n : Nat} (hlt : n < 2 ^ 64) (hn : n % 2 ^ 63 ≤ 2047 * 2 ^ 52) :
    (Float.ofBits (UInt64.ofNat n)).isNaN = false := by
  have hbits : (UInt64.ofNat n).toBitVec.toNat = n := UInt64.toNat_ofNat_of_lt' hlt
  have hexponent := toNat_unpackExponent (UInt64.ofNat n).toBitVec
  have hmantissa := toNat_unpackMantissa (UInt64.ofNat n).toBitVec
  rw [hbits] at hexponent hmantissa
  refine isNaN_unpack_pack ?_
  by_cases hones : @unpackExponent .binary64 (UInt64.ofNat n).toBitVec = -1#11
  · -- With the highest exponent there are no digits.
    have hhigh : (@unpackExponent .binary64 (UInt64.ofNat n).toBitVec).toNat = 2047 := by
      rw [hones]
      rfl
    have hnone : (@unpackMantissa .binary64 (UInt64.ofNat n).toBitVec).toNat = 0 := by omega
    have hzero : @unpackMantissa .binary64 (UInt64.ofNat n).toBitVec = 0#52 :=
      BitVec.eq_of_toNat_eq hnone
    unfold unpack
    dsimp only
    rw [if_pos hones, if_pos hzero]
    rfl
  · exact isNaN_of_isFinite (isFinite_unpack hones)

theorem isNaN_ofExact (v : Exact) : (ofExact v).isNaN = false := by
  unfold ofExact
  dsimp only
  generalize hbound : min (α := Nat) _ (2047 * 2 ^ 52) = bounded
  have hle : bounded ≤ 2047 * 2 ^ 52 := hbound ▸ Nat.min_le_right _ _
  split
  · exact isNaN_ofBits (by omega) (by omega)
  · exact isNaN_ofBits (by omega) (by omega)

end Binary64

open Binary64 (isNaN_ofExact isNaN_of_isFinite isFinite_of_le_of_le)
open Parameter.Kind (IsInterval)

/-! ### Drawn doubles -/

namespace Random

/-- Whether neither end of a piece is a NaN. -/
def IsPiece (piece : Float × Float) : Prop :=
  piece.1.isNaN = false ∧ piece.2.isNaN = false

theorem isPiece_piece (cuts : Cuts) (i : Nat) : IsPiece (cuts.piece i) := by
  unfold Cuts.piece
  split <;> exact ⟨isNaN_ofExact _, isNaN_ofExact _⟩

theorem always_refine (depth : Nat) (cuts : Cuts) : Always IsPiece (refine depth cuts) := by
  induction depth generalizing cuts with
  | zero => exact .of_pure (isPiece_piece cuts 0)
  | succ depth ih =>
    unfold refine
    split
    · exact (always_true _).bind fun i _ => ih _
    · exact .of_pure (isPiece_piece cuts 0)

variable {min max x : Float} (h : IsInterval min max)

include h

/-- What is put back between the ends lies between them, if it can be compared to them. -/
theorem bounds_clamp (hx : x.isNaN = false) :
    let y := if x < min then min else if max < x then max else x
    min ≤ y ∧ y ≤ max := by
  obtain ⟨hmin, hmax, hle⟩ := h
  have hmin := isNaN_of_isFinite hmin
  have hmax := isNaN_of_isFinite hmax
  dsimp only
  by_cases hlow : x < min
  · rw [if_pos hlow]
    exact ⟨Binary64.le_self hmin, hle⟩
  · rw [if_neg hlow]
    by_cases hhigh : max < x
    · rw [if_pos hhigh]
      exact ⟨hle, Binary64.le_self hmax⟩
    · rw [if_neg hhigh]
      exact ⟨(Binary64.not_lt_iff_le hmin hx).mp hlow, (Binary64.not_lt_iff_le hx hmax).mp hhigh⟩

/-- A double is drawn from its range, however the pieces are cut. -/
theorem always_between : Always (fun x => min ≤ x ∧ x ≤ max) (between min max) := by
  unfold between
  split
  · exact .of_pure ⟨Binary64.le_self (isNaN_of_isFinite h.1), h.2.2⟩
  · refine (always_refine _ _).bind fun piece hpiece => ?_
    refine (always_true _).bind fun side _ => .of_pure (bounds_clamp h ?_)
    split
    · exact hpiece.1
    · exact hpiece.2

theorem always_isFinite_between : Always (·.isFinite = true) (between min max) :=
  (always_between h).mono fun _ hx => isFinite_of_le_of_le h.1 h.2.1 hx.1 hx.2

end Random

/-! ### Values -/

namespace Value

/-- Whether the doubles of a value are finite. -/
def IsFinite : Value → Prop
  | .float x => x.isFinite = true
  | .floats xs => ∀ x ∈ xs, x.isFinite = true
  | _ => True

theorem beq_self_floats {xs : List Float} (h : ∀ x ∈ xs, x.isFinite = true) :
    (xs == xs) = true := by
  induction xs with
  | nil => rfl
  | cons x xs ih =>
    rw [List.forall_mem_cons] at h
    rw [List.cons_beq_cons, ih h.2, Binary64.beq_self (isNaN_of_isFinite h.1)]
    rfl

/-- A value is equal to itself if it has no NaN. -/
theorem beq_self {v : Value} (h : v.IsFinite) : (v == v) = true := by
  cases v with
  | int n => exact beq_self_eq_true n
  | float x => exact Binary64.beq_self (isNaN_of_isFinite h)
  | bool b => exact beq_self_eq_true b
  | text s => exact beq_self_eq_true s
  | ints ns => exact beq_self_eq_true ns
  | floats xs => exact beq_self_floats h

end Value

namespace Parameter.Kind

/-- Most kinds admit no value that has doubles in it. -/
theorem isFinite_of_admits {kind : Kind} {v : Value} (h : kind.Admits v)
    (hfloat : ∀ min max, kind ≠ .float min max)
    (hfloats : ∀ min max maxLength, kind ≠ .floats min max maxLength) : v.IsFinite := by
  cases v with
  | float x =>
    cases kind with
    | float min max => exact absurd rfl (hfloat min max)
    | _ => exact h.elim
  | floats xs =>
    cases kind with
    | floats min max maxLength => exact absurd rfl (hfloats min max maxLength)
    | _ => exact h.elim
  | _ => exact trivial

variable {kind : Kind} (h : kind.HasValue)

include h

theorem isFinite_boundaryCandidates : ∀ v ∈ kind.boundaryCandidates, v.IsFinite := by
  cases kind with
  | float min max =>
    unfold boundaryCandidates
    rw [List.forall_mem_append]
    constructor
    · split
      case isTrue => exact List.forall_mem_singleton.mpr Binary64.isFinite_zero
      case isFalse => exact nofun
    · simp only [List.forall_mem_cons]
      exact ⟨h.1, h.2.1, isFinite_middleFloat h, nofun⟩
  | floats min max maxLength =>
    unfold boundaryCandidates
    dsimp only
    split
    case isTrue => exact List.forall_mem_singleton.mpr nofun
    case isFalse =>
      simp only [List.forall_mem_cons]
      refine ⟨nofun, ?_, ?_, ?_, nofun⟩
      · exact List.forall_mem_singleton.mpr h.1
      · exact List.forall_mem_singleton.mpr h.2.1
      · rintro x hx
        rw [List.eq_of_mem_replicate hx]
        exact isFinite_middleFloat h
  | _ => exact fun v hv => isFinite_of_admits (admits_boundaryCandidates h v hv) nofun nofun

theorem isFinite_boundaryValues : ∀ v ∈ kind.boundaryValues, v.IsFinite :=
  fun v hv => isFinite_boundaryCandidates h v ((eraseDups_sublist _).subset hv)

theorem always_isFinite_draw : Random.Always Value.IsFinite kind.draw := by
  cases kind with
  | float min max =>
    exact (Random.always_isFinite_between h).bind fun x hx => .of_pure hx
  | floats min max maxLength =>
    refine (always_drawList (Nat.zero_le _) (Random.always_isFinite_between h)).bind fun xs hxs => ?_
    exact .of_pure hxs.2.2
  | _ => exact (always_draw h).mono fun v hv => isFinite_of_admits hv nofun nofun

end Parameter.Kind

end Concordance
