import Concordance.Domain.Validity
import Concordance.Proofs.Binary64.Rounding
import Concordance.Proofs.Binary64.TotalOrder

/-!
# Domains that Pass the Check

What is known of a domain that passed the check.

The check goes from parameter to parameter and from condition to condition, and passes
where none of them refuses. The order only decides which fault is named. So a domain
passes exactly if each of its ranges has a value, no name is blank, and no name is
repeated, and whatever relies on a domain having been checked goes through this.

## Main definitions

* `Parameter.Kind.IsSampleable`: A range that has a value, within the limits.
* `Domain.IsSampleable`: Parameters that are told apart and have such ranges.

## Theorems

* `Parameter.Kind.check_eq_ok_iff`: The check of one range.
* `Domain.check_eq_ok_iff`: The check of a domain.
-/

namespace Concordance

section

variable {ε α : Type}

theorem refuseIf_eq_ok {condition : Bool} {fault : ε} :
    refuseIf condition fault = .ok () ↔ condition = false := by
  cases condition with
  | false => exact iff_of_true rfl rfl
  | true => exact iff_of_false nofun nofun

/-- One check after another passes if both do. -/
theorem seq_eq_ok {first : Except ε Unit} {next : Except ε α} {a : α} :
    (do first; next) = .ok a ↔ first = .ok () ∧ next = .ok a := by
  cases first with
  | error fault => exact iff_of_false nofun fun h => nomatch h.1
  | ok => exact (and_iff_right rfl).symm

theorem mapError_eq_ok {ε' : Type} {f : ε → ε'} {x : Except ε α} {a : α} :
    x.mapError f = .ok a ↔ x = .ok a := by
  cases x with
  | error fault => exact iff_of_false nofun nofun
  | ok b => simp only [Except.mapError, Except.ok.injEq]

end

namespace Parameter.Kind

/-- Whether two doubles bound a range that is not empty. -/
def IsInterval (min max : Float) : Prop :=
  min.isFinite = true ∧ max.isFinite = true ∧ min ≤ max

/-- Whether a range has a value in it. -/
def HasValue : Kind → Prop
  | .int min max => min ≤ max
  | .float min max => IsInterval min max
  | .bool => True
  | .text minLength maxLength => minLength ≤ maxLength
  | .choice options => options ≠ []
  | .ints min max _ => min ≤ max
  | .floats min max _ => IsInterval min max

/-- Whether a range has a value in it, and no text or list beyond the limit. -/
structure IsSampleable (kind : Kind) : Prop where
  lengths : ∀ n ∈ kind.maxLength?, n ≤ maxCollectionLength
  range : kind.HasValue

theorem checkInterval_eq_ok_iff {min max : Float} :
    checkInterval min max = .ok () ↔ IsInterval min max := by
  unfold checkInterval IsInterval
  rw [seq_eq_ok, refuseIf_eq_ok, refuseIf_eq_ok, Bool.or_eq_false_iff, Bool.not_eq_false',
    Bool.not_eq_false', decide_eq_false_iff_not, and_assoc]
  refine and_congr_right fun hmin => and_congr_right fun hmax => ?_
  exact Binary64.not_lt_iff_le (Binary64.isNaN_of_isFinite hmin) (Binary64.isNaN_of_isFinite hmax)

theorem checkLength_eq_ok_iff {kind : Kind} :
    kind.checkLength = .ok () ↔ ∀ n ∈ kind.maxLength?, n ≤ maxCollectionLength := by
  unfold checkLength
  cases kind.maxLength? with
  | none => exact iff_of_true rfl nofun
  | some n =>
    dsimp only
    simp only [refuseIf_eq_ok, decide_eq_false_iff_not, Nat.not_lt, Option.mem_some_iff, forall_eq']

theorem checkRange_eq_ok_iff {kind : Kind} : kind.checkRange = .ok () ↔ kind.HasValue := by
  unfold checkRange HasValue
  cases kind with
  | int min max | ints min max maxLength =>
    dsimp only
    rw [refuseIf_eq_ok, decide_eq_false_iff_not, Int64.not_lt]
  | float min max | floats min max maxLength => exact checkInterval_eq_ok_iff
  | bool => exact iff_of_true rfl trivial
  | text minLength maxLength =>
    dsimp only
    rw [refuseIf_eq_ok, decide_eq_false_iff_not, Nat.not_lt]
  | choice options =>
    dsimp only
    rw [refuseIf_eq_ok, List.isEmpty_eq_false_iff]

/-- The check passes a range that has a value in it, and no other. -/
theorem check_eq_ok_iff {kind : Kind} : kind.check = .ok () ↔ kind.IsSampleable := by
  unfold check
  rw [seq_eq_ok, checkLength_eq_ok_iff, checkRange_eq_ok_iff]
  exact ⟨fun h => ⟨h.1, h.2⟩, fun h => ⟨h.lengths, h.range⟩⟩

end Parameter.Kind

namespace Domain

/-- Whether the parameters of a domain are told apart and have values. -/
structure IsSampleable (domain : Domain) : Prop where
  visible : ∀ p ∈ domain.parameters, Text.trim p.name ≠ ""
  distinct : (domain.parameters.map Parameter.name).Nodup
  kinds : ∀ p ∈ domain.parameters, p.kind.IsSampleable

theorem checkParameter_eq_ok_iff {before : List String} {p : Parameter} :
    checkParameter before p = .ok () ↔
      Text.trim p.name ≠ "" ∧ p.name ∉ before ∧ p.kind.IsSampleable := by
  unfold checkParameter
  rw [seq_eq_ok, seq_eq_ok, refuseIf_eq_ok, refuseIf_eq_ok, mapError_eq_ok,
    Parameter.Kind.check_eq_ok_iff, ← Bool.not_eq_true, ← Bool.not_eq_true, String.isEmpty_iff,
    List.contains_iff_mem]

theorem checkFrom_eq_ok_iff {before : List String} {ps : List Parameter} :
    checkFrom before ps = .ok () ↔
      (∀ p ∈ ps, Text.trim p.name ≠ "") ∧
      ((ps.map Parameter.name).Nodup ∧ ∀ p ∈ ps, p.name ∉ before) ∧
      ∀ p ∈ ps, p.kind.IsSampleable := by
  induction ps generalizing before with
  | nil => exact iff_of_true rfl ⟨nofun, ⟨List.nodup_nil, nofun⟩, nofun⟩
  | cons p ps ih =>
    unfold checkFrom
    -- Before the rest stands one more name, that of the first parameter.
    have hrest : (∀ q ∈ ps, q.name ∉ p.name :: before) ↔
        p.name ∉ ps.map Parameter.name ∧ ∀ q ∈ ps, q.name ∉ before := by
      simp only [List.mem_cons, not_or, forall_and, List.mem_map, not_exists, not_and]
    rw [seq_eq_ok, checkParameter_eq_ok_iff, ih, hrest, List.map_cons, List.nodup_cons,
      List.forall_mem_cons, List.forall_mem_cons, List.forall_mem_cons]
    constructor
    · rintro ⟨⟨hvisible, hnew, hkind⟩, hvisibles, ⟨hdistinct, hother, hbefore⟩, hkinds⟩
      exact ⟨⟨hvisible, hvisibles⟩, ⟨⟨hother, hdistinct⟩, hnew, hbefore⟩, hkind, hkinds⟩
    · rintro ⟨⟨hvisible, hvisibles⟩, ⟨⟨hother, hdistinct⟩, hnew, hbefore⟩, hkind, hkinds⟩
      exact ⟨⟨hvisible, hnew, hkind⟩, hvisibles, ⟨hdistinct, hother, hbefore⟩, hkinds⟩

/-- The check passes a domain whose parameters are told apart and have values, and no
    other. -/
theorem check_eq_ok_iff {domain : Domain} : domain.check = .ok () ↔ domain.IsSampleable := by
  unfold check
  rw [checkFrom_eq_ok_iff]
  constructor
  · rintro ⟨hvisible, ⟨hdistinct, -⟩, hkinds⟩
    exact ⟨hvisible, hdistinct, hkinds⟩
  · rintro ⟨hvisible, hdistinct, hkinds⟩
    exact ⟨hvisible, ⟨hdistinct, fun _ _ => List.not_mem_nil⟩, hkinds⟩

end Domain

end Concordance
