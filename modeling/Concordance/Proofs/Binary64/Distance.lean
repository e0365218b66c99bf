import Concordance.Proofs.Binary64.Order

/-!
# Distances of Doubles

Two doubles are as far from each other as the other way round.

The distance is the rounded difference without its sign. Taken the other way round the exact
difference has the other sign and the same digits, and rounding looks at the digits alone.
Packing and unpacking keep the sign apart from the rest. That leaves zeros, whose sign follows
a rule of its own, and what is no number or infinite; none of it is left without the sign.

## Theorems

* `abs_unpack_pack`: What is packed keeps its digits, whatever its sign is.
* `abs_sub_swap`: Differences of decoded doubles, both ways round.
* `abs_sub_comm`: The distance of two doubles.
-/

namespace Concordance

namespace Binary64

open Float.Model (UnpackedFloat Format)
open Float.Model.UnpackedFloat

/-- The sign of what is packed is one bit of it, and has no part in the others. -/
theorem exists_pack_finite (m : Nat) (e : Int) (hm : 0 < m) :
    ∃ e' m', ∀ s, pack .binary64 (.finite s m e hm) = packComponents .binary64 s e' m' := by
  unfold pack
  dsimp only
  split
  · exact ⟨_, _, fun _ => rfl⟩
  · split
    · exact ⟨_, _, fun _ => rfl⟩
    · exact ⟨_, _, fun _ => rfl⟩

theorem abs_finite_congr {s t : Sign} {m n : Nat} {e f : Int} {hm : 0 < m} {hn : 0 < n}
    (hmn : m = n) (hef : e = f) :
    (UnpackedFloat.finite s m e hm).abs = (UnpackedFloat.finite t n f hn).abs := by
  subst hmn hef
  rfl

/-- But for the sign a double is decoded from its exponent and its digits. -/
theorem abs_unpack_congr {b c : BitVec 64}
    (he : @unpackExponent .binary64 b = @unpackExponent .binary64 c)
    (hm : @unpackMantissa .binary64 b = @unpackMantissa .binary64 c) :
    (unpack .binary64 b).abs = (unpack .binary64 c).abs := by
  unfold unpack
  dsimp only
  by_cases hones : @unpackExponent .binary64 c = -1#11
  · rw [if_pos hones, if_pos (he.trans hones)]
    by_cases hzero : @unpackMantissa .binary64 c = 0#52
    · rw [if_pos hzero, if_pos (hm.trans hzero)]
      rfl
    · rw [if_neg hzero, if_neg fun h => hzero (hm.symm.trans h)]
  · rw [if_neg hones, if_neg fun h => hones (he.symm.trans h)]
    by_cases hlow : @unpackExponent .binary64 c = 0#11
    · rw [if_pos hlow, if_pos (he.trans hlow)]
      by_cases hzero : @unpackMantissa .binary64 c = 0#52
      · rw [dif_pos hzero, dif_pos (hm.trans hzero)]
        rfl
      · rw [dif_neg hzero, dif_neg fun h => hzero (hm.symm.trans h)]
        exact abs_finite_congr (by rw [hm]) (by rw [he])
    · rw [if_neg hlow, if_neg fun h => hlow (he.symm.trans h)]
      exact abs_finite_congr (by rw [hm]) (by rw [he])

theorem abs_unpack_packComponents (s t : Sign) (e : BitVec 11) (m : BitVec 52) :
    (unpack .binary64 (packComponents .binary64 s e m)).abs
      = (unpack .binary64 (packComponents .binary64 t e m)).abs := by
  refine abs_unpack_congr ?_ ?_
  · rw [unpackExponent_packComponents, unpackExponent_packComponents]
  · rw [unpackMantissa_packComponents, unpackMantissa_packComponents]

theorem abs_unpack_pack {u v : UnpackedFloat} (h : u.abs = v.abs) :
    (unpack .binary64 (pack .binary64 u)).abs = (unpack .binary64 (pack .binary64 v)).abs := by
  cases u with
  | notANumber =>
      cases v with
      | notANumber => rfl
      | _ => exact nomatch h
  | infinity s =>
      cases v with
      | infinity t => exact abs_unpack_packComponents s t _ _
      | _ => exact nomatch h
  | zero s =>
      cases v with
      | zero t => exact abs_unpack_packComponents s t _ _
      | _ => exact nomatch h
  | finite s m e hm =>
      cases v with
      | finite t n f hn =>
          cases h
          obtain ⟨e', m', hpack⟩ := exists_pack_finite m e hm
          rw [hpack s, hpack t]
          exact abs_unpack_packComponents s t e' m'
      | _ => exact nomatch h

theorem abs_dite {p : Prop} [Decidable p] {t t' : p → UnpackedFloat} {f f' : ¬ p → UnpackedFloat}
    (ht : ∀ h, (t h).abs = (t' h).abs) (hf : ∀ h, (f h).abs = (f' h).abs) :
    (dite p t f).abs = (dite p t' f').abs := by
  by_cases h : p
  · rw [dif_pos h, dif_pos h]
    exact ht h
  · rw [dif_neg h, dif_neg h]
    exact hf h

/-- Whether any digits are left does not depend on the sign. -/
theorem abs_round (s t : Sign) (m : Nat) (e : Int) :
    (UnpackedFloat.round .binary64 s m e).abs = (UnpackedFloat.round .binary64 t m e).abs :=
  abs_dite (fun _ => rfl) fun _ => rfl

theorem abs_normalize_neg (m : Int) (e : Int) (s : Sign) :
    (UnpackedFloat.normalize .binary64 (-m) e s).abs
      = (UnpackedFloat.normalize .binary64 m e s).abs := by
  unfold UnpackedFloat.normalize
  rcases Int.lt_trichotomy m 0 with h | h | h
  · rw [compare_lt_iff_lt.mpr h, compare_gt_iff_gt.mpr (Int.neg_pos_of_neg h)]
    exact abs_round ..
  · rw [h]
    rfl
  · rw [compare_gt_iff_gt.mpr h, compare_lt_iff_lt.mpr (Int.neg_neg_of_pos h), Int.neg_neg]
    exact abs_round ..

theorem abs_sub_swap (u v : UnpackedFloat) :
    (UnpackedFloat.sub .binary64 u v).abs = (UnpackedFloat.sub .binary64 v u).abs := by
  cases u with
  | notANumber => cases v <;> rfl
  | infinity s =>
      cases v with
      | notANumber | zero | finite => rfl
      | infinity t => cases s <;> cases t <;> rfl
  | zero s =>
      cases v with
      | notANumber | infinity | finite => rfl
      | zero t => cases s <;> cases t <;> rfl
  | finite s m e hm =>
      cases v with
      | notANumber | infinity | zero => rfl
      | finite t n f hn =>
          unfold UnpackedFloat.sub
          dsimp only
          rw [min_comm f e, ← abs_normalize_neg, Int.neg_sub]

/-- Two doubles are as far from each other as the other way round. -/
theorem abs_sub_comm (x y : Float) : (x - y).abs = (y - x).abs := by
  have habs := abs_unpack_pack (abs_sub_swap x.toModel.unpack y.toModel.unpack)
  change Float.ofModel (.pack (UnpackedFloat.abs (unpack .binary64 (pack .binary64
    (UnpackedFloat.sub .binary64 x.toModel.unpack y.toModel.unpack))))) = _
  rw [habs]
  rfl

end Binary64

end Concordance
