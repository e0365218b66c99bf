import Concordance.Case.Generator
import Mathlib.Data.List.Forall2
import Mathlib.Data.List.GetD

/-!
# Whatever the Stream Holds

What is certain of a draw.

Nothing is known here of the words of a stream, and nothing has to be. A number below
a bound is the high half of a product, and that is below the bound for every word; the
row of rejections may be of any length, for the last attempt is cut down in the same
way. Larger draws are put together from smaller ones, and a property that each part has
for every stream is one that the whole has.

Inputs come from a stream or from the lists of boundary values, and either way they have
one value for each parameter of the domain, in its order. `Inputs.Answers` says so of both,
with a relation between a parameter and its value that the two ways may share.

## Main definitions

* `Random.Always`: A draw has a property for every stream.
* `Inputs.Answers`: Inputs that have a value for every parameter, in order.

## Theorems

* `Always.bind`, `always_several`, `always_mapM`: Draws made of draws.
* `always_below`: A number below a bound is below it.
* `always_drawList`: The length of a list, and its elements.
* `Domain.answers_draw`: The inputs that are drawn from a domain.
* `Domain.answers_boundaryInputs`: The inputs at one place of the boundary lists.
-/

namespace Concordance

namespace Random

/-- Whether what is drawn has a property, whatever the stream holds. -/
def Always {α : Type} (P : α → Prop) (draw : Draw α) : Prop :=
  ∀ s, P (draw s).1

section

variable {α β : Type} {P : α → Prop} {Q : β → Prop}

theorem Always.of_pure {x : α} (h : P x) : Always P (pure x) :=
  fun _ => h

theorem always_true (draw : Draw α) : Always (fun _ => True) draw :=
  fun _ => trivial

theorem Always.bind {draw : Draw α} {next : α → Draw β} (hdraw : Always P draw)
    (hnext : ∀ x, P x → Always Q (next x)) : Always Q (draw >>= next) :=
  fun s => hnext _ (hdraw s) _

theorem Always.mono {draw : Draw α} {P' : α → Prop} (h : Always P draw) (hle : ∀ x, P x → P' x) :
    Always P' draw :=
  fun s => hle _ (h s)

/-- Several draws are as many, and each of them has the property. -/
theorem always_several {draw : Draw α} (h : Always P draw) (n : Nat) :
    Always (fun xs => xs.length = n ∧ ∀ x ∈ xs, P x) (several draw n) := by
  induction n with
  | zero => exact .of_pure ⟨rfl, List.forall_mem_nil P⟩
  | succ n ih =>
    refine h.bind fun x hx => ih.bind fun xs ⟨hlength, hall⟩ => ?_
    exact .of_pure ⟨congrArg (· + 1) hlength, List.forall_mem_cons.mpr ⟨hx, hall⟩⟩

/-- Draws for the elements of a list stand in the order of the list. -/
theorem always_mapM {R : α → β → Prop} {draw : α → Draw β} {xs : List α}
    (h : ∀ x ∈ xs, Always (R x) (draw x)) : Always (List.Forall₂ R xs) (xs.mapM draw) := by
  induction xs with
  | nil => exact .of_pure .nil
  | cons x xs ih =>
    obtain ⟨hhead, htail⟩ := List.forall_mem_cons.mp h
    rw [List.mapM_cons]
    refine hhead.bind fun y hy => (ih htail).bind fun ys hys => ?_
    exact .of_pure (.cons hy hys)

end

/-! ### Numbers -/

theorem always_word : Always (fun w => w.toNat < 2 ^ 32) word :=
  fun _ => UInt32.toNat_lt _

theorem always_raw (width : Width) : Always (· < 2 ^ width.bits) (raw width) := by
  cases width with
  | single => exact always_word.bind fun w hw => .of_pure hw
  | double =>
    refine always_word.bind fun low hlow => always_word.bind fun high hhigh => .of_pure ?_
    change low.toNat + high.toNat * 2 ^ 32 < 2 ^ 64
    omega

/-- The high half of a product with a bound is below the bound. -/
theorem mul_div_two_pow_lt {n count bits : Nat} (hn : n < 2 ^ bits) (hcount : 0 < count) :
    n * count / 2 ^ bits < count := by
  rw [Nat.div_lt_iff_lt_mul (Nat.two_pow_pos bits), Nat.mul_comm count]
  exact Nat.mul_lt_mul_of_pos_right hn hcount

section

variable (width : Width) {count : Nat} (hcount : 0 < count)
include hcount

/-- However many draws are rejected, the number is below the bound. -/
theorem always_accept (threshold attempts : Nat) :
    Always (· < count) (accept width count threshold attempts) := by
  induction attempts with
  | zero =>
    exact (always_raw width).bind fun n hn => .of_pure (mul_div_two_pow_lt hn hcount)
  | succ attempts ih =>
    refine (always_raw width).bind fun n hn => ?_
    dsimp only
    split
    · exact .of_pure (mul_div_two_pow_lt hn hcount)
    · exact ih

theorem always_below : Always (· < count) (below width count) := by
  unfold below
  split
  case isTrue hwhole =>
    rw [hwhole]
    exact always_raw width
  case isFalse => exact always_accept width hcount _ _

end

end Random

open Concordance.Random (Always Draw)

/-! ### Elements and lists -/

section

variable {α : Type} {P : α → Prop}

/-- What is drawn from a list that is not empty is one of its elements. -/
theorem always_drawFrom {items : List α} (hne : items ≠ []) (default : α) :
    Always (· ∈ items) (drawFrom items default) := by
  refine (Random.always_below .double (List.length_pos_iff.mpr hne)).bind fun n hn => .of_pure ?_
  rw [List.getD_eq_getElem items default hn]
  exact List.getElem_mem hn

/-- A list has one of the lengths that are allowed, and draws as its elements. -/
theorem always_drawList {draw : Draw α} {minLength maxLength : Nat}
    (hle : minLength ≤ maxLength) (h : Always P draw) :
    Always (fun xs => minLength ≤ xs.length ∧ xs.length ≤ maxLength ∧ ∀ x ∈ xs, P x)
      (drawList minLength maxLength draw) := by
  have hextra := Random.always_below .single (Nat.succ_pos (maxLength - minLength))
  refine hextra.bind fun extra hextra => ?_
  refine (Random.always_several h (minLength + extra)).mono fun xs ⟨hlength, hall⟩ => ?_
  exact ⟨by omega, by omega, hall⟩

end

/-! ### Inputs -/

/-- Whether inputs name the parameters of a domain in their order, and no other, each
    with a value that stands in some relation to the parameter. -/
def Inputs.Answers (R : Parameter → Value → Prop) (domain : Domain) (inputs : Inputs) : Prop :=
  List.Forall₂ (fun p e => e.1 = p.name ∧ R p e.2) domain.parameters inputs.entries

theorem Inputs.Answers.names {R : Parameter → Value → Prop} {domain : Domain} {inputs : Inputs}
    (h : inputs.Answers R domain) :
    inputs.entries.map Prod.fst = domain.parameters.map Parameter.name := by
  have hnames : List.Forall₂ Eq (domain.parameters.map Parameter.name)
      (inputs.entries.map Prod.fst) := by
    rw [List.forall₂_map_left_iff, List.forall₂_map_right_iff]
    exact h.imp fun p e he => he.1.symm
  rw [List.forall₂_eq_eq_eq] at hnames
  exact hnames.symm

namespace Domain

variable {R : Parameter → Value → Prop} {domain : Domain}

/-- The inputs that are drawn from a domain have a value for every parameter. -/
theorem answers_draw (h : ∀ p ∈ domain.parameters, Always (R p) p.kind.draw) :
    Always (Inputs.Answers R domain) domain.draw := by
  have hentry : ∀ p ∈ domain.parameters,
      Always (fun e : String × Value => e.1 = p.name ∧ R p e.2)
        (do return (p.name, ← p.kind.draw)) :=
    fun p hp => (h p hp).bind fun v hv => .of_pure ⟨rfl, hv⟩
  exact (Random.always_mapM hentry).bind fun entries hentries => .of_pure hentries

/-- So do the inputs at one place of the boundary lists. -/
theorem answers_boundaryInputs {index : Nat} (h : ∀ p ∈ domain.parameters,
    R p (p.kind.boundaryValues.getD (index % Nat.max p.kind.boundaryValues.length 1)
      p.kind.typical)) :
    (domain.boundaryInputs index).Answers R domain := by
  unfold Inputs.Answers boundaryInputs
  rw [List.forall₂_map_right_iff, List.forall₂_same]
  exact fun p hp => ⟨rfl, h p hp⟩

end Domain

end Concordance
