import Concordance.Proofs.Binary64.Faithful
import Concordance.Proofs.InRange

/-!
# The Middle of Two Doubles

When the middle of a range of doubles lies in the range.

The middle is the sum of the two halves, which is why it never overflows. A half is exact
unless the double is an odd number of times the least positive one. Then it is off by half
a unit, and with two such halves the middle is off by one. In a range of two doubles or more
there is room for that, and rounding the sum does no harm, since it does not go past the
ends of the range. A range of a single double has no room. If that double is odd its middle
is the double below or above it.

This is the only exception, and it reaches every place where a middle is used: the boundary
values of a double and of a list of doubles, and the typical double.

## Main definitions

* `IsOddPoint`: A range of a single double that has no half.
* `Value.IsWithin`: The doubles of a value lie in a range.

## Theorems

* `forall_mem_eraseDups_iff`: Leaving out equal values leaves out no other kind of value.
* `middleFloat_bounds`, `middleFloat_of_isOddPoint`: Where the middle lies.
* `isWithin_middle_iff`: When it lies in the range.
* `boundaryValues_isWithin_iff`: Boundary values and typical values of a checked range.
-/

namespace Concordance

open Binary64
open Parameter (Kind)
open Parameter.Kind (IsInterval)

/-- Whether a range is a single double, an odd number of times the least positive one. -/
def IsOddPoint (min max : Float) : Prop :=
  max ≤ min ∧ unitsOf min % 2 = 1

instance (min max : Float) : Decidable (IsOddPoint min max) :=
  inferInstanceAs (Decidable (_ ∧ _))

/-- Whether a value is a double or a list of doubles, all of them in a range. -/
def Value.IsWithin (min max : Float) : Value → Prop
  | .float x => min ≤ x ∧ x ≤ max
  | .floats xs => ∀ x ∈ xs, min ≤ x ∧ x ≤ max
  | _ => False

/-- What holds of the first of equal elements holds of all elements, if it does not tell equal
    ones apart. -/
theorem forall_mem_eraseDups_iff {α : Type} [BEq α] {P : α → Prop}
    (hP : ∀ x y, (x == y) = true → P y → P x) (xs : List α) :
    (∀ x ∈ xs.eraseDups, P x) ↔ ∀ x ∈ xs, P x := by
  refine ⟨?_, fun h x hx => h x ((eraseDups_sublist xs).subset hx)⟩
  induction xs using filter_induction with
  | nil => exact fun _ => nofun
  | cons x xs ih =>
    rw [List.eraseDups_cons, List.forall_mem_cons]
    rintro ⟨hx, hrest⟩ y hy
    rcases List.mem_cons.mp hy with rfl | hmem
    · exact hx
    · by_cases heq : (y == x) = true
      · exact hP y x heq hx
      · refine ih hrest y (List.mem_filter.mpr ⟨hmem, ?_⟩)
        rw [Bool.eq_false_of_not_eq_true heq]
        rfl

/-! ### Where the middle lies -/

section Middle

variable {min max : Float} (h : IsInterval min max)

include h

/-- With room for one unit, the middle lies in the range. -/
theorem middleFloat_bounds (hroom : ¬ IsOddPoint min max) :
    (middleFloat min max).isFinite = true ∧ min ≤ middleFloat min max ∧
      middleFloat min max ≤ max := by
  obtain ⟨hmin, hmax, hle⟩ := h
  obtain ⟨hfmin, hmin₁, hmin₂⟩ := unitsOf_half hmin
  obtain ⟨hfmax, hmax₁, hmax₂⟩ := unitsOf_half hmax
  have hunits := (le_iff_units hmin hmax).mp hle
  have hroom' : ¬ (unitsOf max ≤ unitsOf min ∧ unitsOf min % 2 = 1) := by
    rwa [IsOddPoint, le_iff_units hmax hmin] at hroom
  -- Twice the sum of the halves is at most two units away from the sum of the ends.
  obtain ⟨hfinite, hlower, hupper⟩ :=
    unitsOf_add_bounds hfmin hfmax hmin hmax (by omega) (by omega)
  exact ⟨hfinite, (le_iff_units hmin hfinite).mpr hlower, (le_iff_units hfinite hmax).mpr hupper⟩

/-- Without room, the middle is the double next to the only one in the range. -/
theorem middleFloat_of_isOddPoint (hodd : IsOddPoint min max) :
    (middleFloat min max).isFinite = true ∧
      (unitsOf (middleFloat min max) = unitsOf min - 1 ∨
        unitsOf (middleFloat min max) = unitsOf min + 1) := by
  obtain ⟨hmin, hmax, hle⟩ := h
  obtain ⟨hge, hodd⟩ := hodd
  obtain ⟨hfmin, hmin₁, hmin₂⟩ := unitsOf_half hmin
  obtain ⟨hfmax, -, -⟩ := unitsOf_half hmax
  have hunits : unitsOf min = unitsOf max :=
    le_antisymm ((le_iff_units hmin hmax).mp hle) ((le_iff_units hmax hmin).mp hge)
  have hfew := natAbs_lt_of_odd hmin hodd
  -- Both halves are the same, since both ends are.
  have hhalf : unitsOf (min / 2) = unitsOf (max / 2) := by
    unfold unitsOf
    rw [unpack_div_two, unpack_div_two, unpack_eq_of_units hmin hmax hunits (by omega)]
  obtain ⟨hfinite, hsum⟩ := unitsOf_add_exact hfmin hfmax (by omega)
  refine ⟨hfinite, ?_⟩
  unfold middleFloat
  omega

theorem isFinite_middleFloat : (middleFloat min max).isFinite = true := by
  by_cases hodd : IsOddPoint min max
  · exact (middleFloat_of_isOddPoint h hodd).1
  · exact (middleFloat_bounds h hodd).1

/-- The middle lies in the range, unless the range is an odd point. -/
theorem isWithin_middle_iff :
    (min ≤ middleFloat min max ∧ middleFloat min max ≤ max) ↔ ¬ IsOddPoint min max := by
  refine ⟨fun hwithin hodd => ?_, fun hroom => (middleFloat_bounds h hroom).2⟩
  obtain ⟨hfinite, hnext⟩ := middleFloat_of_isOddPoint h hodd
  have hlower := (le_iff_units h.1 hfinite).mp hwithin.1
  have hupper := (le_iff_units hfinite h.1).mp (le_of_le_of_le hwithin.2 hodd.1)
  omega

end Middle

/-! ### Values made of it -/

section Values

variable {min max : Float}

theorem isWithin_congr {x y : Float} (heq : (x == y) = true) (h : min ≤ y ∧ y ≤ max) :
    min ≤ x ∧ x ≤ max := by
  obtain ⟨hx, -, hplace⟩ := (beq_iff x y).mp heq
  rw [le_iff, le_iff, hplace, hx]
  exact ⟨⟨((le_iff _ _).mp h.1).1, rfl, ((le_iff _ _).mp h.1).2.2⟩,
    ⟨rfl, ((le_iff _ _).mp h.2).2⟩⟩

theorem forall_isWithin_congr {xs ys : List Float} (heq : (xs == ys) = true)
    (h : ∀ y ∈ ys, min ≤ y ∧ y ≤ max) : ∀ x ∈ xs, min ≤ x ∧ x ≤ max := by
  induction xs generalizing ys with
  | nil => exact nofun
  | cons x xs ih =>
      cases ys with
      | nil => exact nomatch heq
      | cons y ys =>
          rw [List.cons_beq_cons, Bool.and_eq_true] at heq
          rw [List.forall_mem_cons] at h ⊢
          exact ⟨isWithin_congr heq.1 h.1, ih heq.2 h.2⟩

/-- Being in a range does not tell equal values apart. -/
theorem Value.isWithin_congr (v w : Value) (heq : (v == w) = true) (h : w.IsWithin min max) :
    v.IsWithin min max := by
  cases w with
  | float y =>
      cases v with
      | float x => exact Concordance.isWithin_congr (show (x == y) = true from heq) h
      | _ => exact nomatch heq
  | floats ys =>
      cases v with
      | floats xs => exact forall_isWithin_congr (show (xs == ys) = true from heq) h
      | _ => exact nomatch heq
  | _ => exact h.elim

variable (h : IsInterval min max)

include h

theorem isWithin_ends : (min ≤ min ∧ min ≤ max) ∧ (min ≤ max ∧ max ≤ max) :=
  ⟨⟨le_self (isNaN_of_isFinite h.1), h.2.2⟩, h.2.2, le_self (isNaN_of_isFinite h.2.1)⟩

/-- Of the boundary values of a double all but the middle lie in its range anyway. -/
theorem boundaryValues_float_iff :
    (∀ v ∈ (Kind.float min max).boundaryValues, v.IsWithin min max) ↔ ¬ IsOddPoint min max := by
  obtain ⟨hmin, hmax⟩ := isWithin_ends h
  unfold Kind.boundaryValues Kind.boundaryCandidates
  dsimp only
  rw [forall_mem_eraseDups_iff Value.isWithin_congr, List.forall_mem_append,
    List.forall_mem_cons, List.forall_mem_cons, List.forall_mem_singleton, ← isWithin_middle_iff h]
  refine ⟨fun hall => hall.2.2.2, fun hmiddle => ⟨?_, hmin, hmax, hmiddle⟩⟩
  split
  case isTrue hzero =>
    rw [Bool.and_eq_true, decide_eq_true_eq, decide_eq_true_eq] at hzero
    exact List.forall_mem_singleton.mpr hzero
  case isFalse => exact nofun

/-- A list holds the middle only if it may hold anything. -/
theorem boundaryValues_floats_iff (maxLength : Nat) :
    (∀ v ∈ (Kind.floats min max maxLength).boundaryValues, v.IsWithin min max) ↔
      maxLength = 0 ∨ ¬ IsOddPoint min max := by
  obtain ⟨hmin, hmax⟩ := isWithin_ends h
  have hnil : (Value.floats []).IsWithin min max := nofun
  unfold Kind.boundaryValues Kind.boundaryCandidates
  dsimp only
  rw [forall_mem_eraseDups_iff Value.isWithin_congr]
  by_cases hlength : maxLength = 0
  · rw [if_pos hlength]
    exact iff_of_true (List.forall_mem_singleton.mpr hnil) (Or.inl hlength)
  · rw [if_neg hlength, List.forall_mem_cons, List.forall_mem_cons, List.forall_mem_cons,
      List.forall_mem_singleton, or_iff_right hlength, ← isWithin_middle_iff h]
    refine ⟨fun hall => ?_, fun hmiddle => ⟨hnil, ?_, ?_, fun x hx => ?_⟩⟩
    · exact hall.2.2.2 _ (List.mem_replicate.mpr ⟨hlength, rfl⟩)
    · exact List.forall_mem_singleton.mpr hmin
    · exact List.forall_mem_singleton.mpr hmax
    · rw [List.eq_of_mem_replicate hx]
      exact hmiddle

end Values

/-- The middle of a range that passes the check is finite. It lies in the range unless the
    range is an odd point, and so do all boundary values and the typical value of a double,
    and the boundary values of a list, if it may hold anything. The typical list always
    does. -/
theorem boundaryValues_isWithin_iff {min max : Float} (hcheck : Kind.checkInterval min max = .ok ())
    (maxLength : Nat) :
    (middleFloat min max).isFinite = true ∧
      ((min ≤ middleFloat min max ∧ middleFloat min max ≤ max) ↔ ¬ IsOddPoint min max) ∧
      ((∀ v ∈ (Kind.float min max).boundaryValues, v.IsWithin min max) ↔
        ¬ IsOddPoint min max) ∧
      ((Kind.float min max).typical.IsWithin min max ↔ ¬ IsOddPoint min max) ∧
      ((∀ v ∈ (Kind.floats min max maxLength).boundaryValues, v.IsWithin min max) ↔
        maxLength = 0 ∨ ¬ IsOddPoint min max) ∧
      (Kind.floats min max maxLength).typical.IsWithin min max := by
  have h := Kind.checkInterval_eq_ok_iff.mp hcheck
  exact ⟨isFinite_middleFloat h, isWithin_middle_iff h, boundaryValues_float_iff h,
    isWithin_middle_iff h, boundaryValues_floats_iff h maxLength, nofun⟩

/-- All of the range of doubles, whose middle is zero. -/
theorem boundaryValues_isWithin_iff_whole :
    let largest := Float.ofBits 0x7FEFFFFFFFFFFFFF
    Kind.checkInterval (-largest) largest = .ok () ∧
      ∀ v ∈ (Kind.float (-largest) largest).boundaryValues, v.IsWithin (-largest) largest := by
  intro largest
  have hcheck : Kind.checkInterval (-largest) largest = .ok () :=
    Kind.checkInterval_eq_ok_iff.mpr ⟨by decide +kernel, by decide +kernel, by decide +kernel⟩
  obtain ⟨-, -, hvalues, -⟩ := boundaryValues_isWithin_iff hcheck 0
  exact ⟨hcheck, hvalues.mpr fun hodd => absurd hodd.1 (by decide +kernel)⟩

/-- The least positive double alone, whose middle is zero. -/
theorem typical_leastPositive :
    let least := Float.ofBits 1
    Kind.checkInterval least least = .ok () ∧ middleFloat least least = 0 ∧
      ¬ (least ≤ middleFloat least least) ∧
      ¬ (Kind.float least least).typical.IsWithin least least ∧
      ¬ ∀ v ∈ (Kind.float least least).boundaryValues, v.IsWithin least least := by
  intro least
  have hinterval : IsInterval least least :=
    ⟨by decide +kernel, by decide +kernel, by decide +kernel⟩
  have hodd : IsOddPoint least least := by decide +kernel
  exact ⟨Kind.checkInterval_eq_ok_iff.mpr hinterval, by decide +kernel, by decide +kernel,
    fun hwithin => (isWithin_middle_iff hinterval).mp hwithin hodd,
    fun hall => (boundaryValues_float_iff hinterval).mp hall hodd⟩

end Concordance
