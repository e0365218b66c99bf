import Concordance.Proofs.BoundaryWalk

/-!
# The First Fault

Which fault is found in a domain that cannot be drawn from.

The check goes through the parameters in order, so what it finds is a fault of the first
parameter that has one, told apart from those before it. Parameters behind that one do not
matter, and a name that is used twice is a fault where it is used for the second time. Of
the faults of one parameter the name comes first, then a length beyond the limit, then a
bound that is not finite, and an empty range at the last.

Nothing else stands between a domain and its cases. A generator refuses what the check
refuses, with the same fault, and behind a check that passed no list of boundary values is
empty. The place of a boundary case is therefore always taken modulo the length of a list,
and what it assigns always comes from the list.

## Main definitions

* `Parameter.Kind.RangeFault`, `Parameter.Kind.HasFault`: What is wrong with a range.
* `Parameter.FaultBehind`: What is wrong with a parameter behind others.

## Theorems

* `Parameter.Kind.check_eq_error_iff`: The fault that is found in a range.
* `Domain.check_eq_error_iff`: The fault that is found in a domain.
* `Domain.check_firstFault`: What the check means, and what a generator makes of it.
-/

namespace Concordance

section

variable {ε α : Type}

theorem refuseIf_eq_error {condition : Bool} {fault found : ε} :
    refuseIf condition fault = .error found ↔ condition = true ∧ found = fault := by
  cases condition with
  | false => exact iff_of_false nofun nofun
  | true =>
    rw [and_iff_right rfl, eq_comm (a := found)]
    exact Except.error.injEq fault found ▸ Iff.rfl

/-- One check after another finds what the first one finds, or else what the second one
    does. -/
theorem seq_eq_error {first : Except ε Unit} {next : Except ε α} {found : ε} :
    (do first; next) = .error found ↔
      first = .error found ∨ first = .ok () ∧ next = .error found := by
  cases first with
  | error fault =>
    constructor
    · rintro ⟨⟩
      exact Or.inl rfl
    · rintro (⟨⟨⟩⟩ | ⟨h, -⟩)
      · rfl
      · exact nomatch h
  | ok => exact ⟨fun h => Or.inr ⟨rfl, h⟩, fun h => h.elim nofun And.right⟩

theorem mapError_eq_error {ε' : Type} {f : ε → ε'} {x : Except ε α} {found : ε'} :
    x.mapError f = .error found ↔ ∃ fault, x = .error fault ∧ found = f fault := by
  cases x with
  | error fault => simp [Except.mapError, eq_comm]
  | ok b => simp [Except.mapError]

end

namespace Parameter

namespace Kind

/-- What is wrong with two doubles that bound no range, or an empty one. -/
inductive IntervalFault (min max : Float) : Fault → Prop
  | notFinite (h : ¬ (min.isFinite = true ∧ max.isFinite = true)) :
    IntervalFault min max (.notFinite min max)
  | empty (h : min.isFinite = true ∧ max.isFinite = true) (hempty : max < min) :
    IntervalFault min max (.emptyFloats min max)

/-- What is wrong with a range that has no value in it. -/
def RangeFault : Kind → Fault → Prop
  | .int min max, fault => max < min ∧ fault = .emptyInts min max
  | .float min max, fault => IntervalFault min max fault
  | .bool, _ => False
  | .text minLength maxLength, fault =>
    maxLength < minLength ∧ fault = .emptyLengths minLength maxLength
  | .choice options, fault => options = [] ∧ fault = .noOptions
  | .ints min max _, fault => max < min ∧ fault = .emptyInts min max
  | .floats min max _, fault => IntervalFault min max fault

/-- What is wrong with a range. An empty range is no matter where a length is beyond the
    limit. -/
inductive HasFault (kind : Kind) : Fault → Prop
  | tooLong {n : Nat} (h : kind.maxLength? = some n) (hn : maxCollectionLength < n) :
    HasFault kind (.tooLong n)
  | range {fault : Fault} (h : ∀ n ∈ kind.maxLength?, n ≤ maxCollectionLength)
    (hrange : kind.RangeFault fault) : HasFault kind fault

theorem checkInterval_eq_error_iff {min max : Float} {fault : Fault} :
    checkInterval min max = .error fault ↔ IntervalFault min max fault := by
  unfold checkInterval
  rw [seq_eq_error, refuseIf_eq_error, refuseIf_eq_ok, refuseIf_eq_error, ← Bool.not_eq_true,
    ← Bool.not_and, Bool.not_eq_true', ← Bool.not_eq_true, Bool.and_eq_true, not_not,
    decide_eq_true_eq]
  constructor
  · rintro (⟨hbounds, rfl⟩ | ⟨hbounds, hempty, rfl⟩)
    · exact .notFinite hbounds
    · exact .empty hbounds hempty
  · rintro (hbounds | ⟨hbounds, hempty⟩)
    · exact Or.inl ⟨hbounds, rfl⟩
    · exact Or.inr ⟨hbounds, hempty, rfl⟩

theorem checkLength_eq_error_iff {kind : Kind} {fault : Fault} :
    kind.checkLength = .error fault ↔
      ∃ n, kind.maxLength? = some n ∧ maxCollectionLength < n ∧ fault = .tooLong n := by
  unfold checkLength
  cases kind.maxLength? with
  | none => exact iff_of_false nofun nofun
  | some n =>
    dsimp only
    simp only [refuseIf_eq_error, decide_eq_true_eq, Option.some.injEq, exists_eq_left']

theorem checkRange_eq_error_iff {kind : Kind} {fault : Fault} :
    kind.checkRange = .error fault ↔ kind.RangeFault fault := by
  unfold checkRange RangeFault
  cases kind with
  | int min max | ints min max maxLength | text minLength maxLength =>
    dsimp only
    rw [refuseIf_eq_error, decide_eq_true_eq]
  | float min max | floats min max maxLength => exact checkInterval_eq_error_iff
  | bool => exact iff_of_false nofun not_false
  | choice options =>
    dsimp only
    rw [refuseIf_eq_error, List.isEmpty_iff]

/-- The fault that is found in a range. -/
theorem check_eq_error_iff {kind : Kind} {fault : Fault} :
    kind.check = .error fault ↔ kind.HasFault fault := by
  unfold check
  rw [seq_eq_error, checkLength_eq_error_iff, checkLength_eq_ok_iff, checkRange_eq_error_iff]
  constructor
  · rintro (⟨n, hlength, hn, rfl⟩ | ⟨hlengths, hrange⟩)
    · exact .tooLong hlength hn
    · exact .range hlengths hrange
  · rintro (⟨hlength, hn⟩ | ⟨hlengths, hrange⟩)
    · exact Or.inl ⟨_, hlength, hn, rfl⟩
    · exact Or.inr ⟨hlengths, hrange⟩

end Kind

/-- What is wrong with a parameter that stands behind others of the given names. -/
inductive FaultBehind (before : List String) (p : Parameter) : Domain.Fault → Prop
  | blankName (h : Text.trim p.name = "") : FaultBehind before p .blankName
  | repeatedName (h : Text.trim p.name ≠ "") (hname : p.name ∈ before) :
    FaultBehind before p (.repeatedName p.name)
  | unsampleable {fault : Fault} (h : Text.trim p.name ≠ "") (hname : p.name ∉ before)
    (hkind : p.kind.HasFault fault) : FaultBehind before p (.unsampleable p.name fault)

/-- It does not matter in which order the names stand. -/
theorem faultBehind_congr {before before' : List String} {p : Parameter} {fault : Domain.Fault}
    (h : ∀ name, name ∈ before ↔ name ∈ before') :
    p.FaultBehind before fault ↔ p.FaultBehind before' fault := by
  have hmono : ∀ {b b' : List String}, (∀ name, name ∈ b ↔ name ∈ b') →
      p.FaultBehind b fault → p.FaultBehind b' fault := by
    rintro b b' hb (hblank | ⟨hvisible, hname⟩ | ⟨hvisible, hname, hkind⟩)
    · exact .blankName hblank
    · exact .repeatedName hvisible ((hb _).mp hname)
    · exact .unsampleable hvisible (fun hmem => hname ((hb _).mpr hmem)) hkind
  exact ⟨hmono h, hmono fun name => (h name).symm⟩

end Parameter

namespace Domain

theorem checkParameter_eq_error_iff {before : List String} {p : Parameter} {fault : Fault} :
    checkParameter before p = .error fault ↔ p.FaultBehind before fault := by
  unfold checkParameter
  rw [seq_eq_error, seq_eq_error, refuseIf_eq_error, refuseIf_eq_error, refuseIf_eq_ok,
    refuseIf_eq_ok, mapError_eq_error, ← Bool.not_eq_true, ← Bool.not_eq_true, String.isEmpty_iff,
    List.contains_iff_mem]
  constructor
  · rintro (⟨hblank, rfl⟩ | ⟨hvisible, ⟨hname, rfl⟩ | ⟨hname, kindFault, hkind, rfl⟩⟩)
    · exact .blankName hblank
    · exact .repeatedName hvisible hname
    · exact .unsampleable hvisible hname (Parameter.Kind.check_eq_error_iff.mp hkind)
  · rintro (hblank | ⟨hvisible, hname⟩ | ⟨hvisible, hname, hkind⟩)
    · exact Or.inl ⟨hblank, rfl⟩
    · exact Or.inr ⟨hvisible, Or.inl ⟨hname, rfl⟩⟩
    · exact Or.inr ⟨hvisible, Or.inr ⟨hname, _, Parameter.Kind.check_eq_error_iff.mpr hkind, rfl⟩⟩

/-- The fault that is found in parameters behind others is that of the first one which has
    any. -/
theorem checkFrom_eq_error_iff {before : List String} {ps : List Parameter} {fault : Fault} :
    checkFrom before ps = .error fault ↔ ∃ passed p rest, ps = passed ++ p :: rest ∧
      checkFrom before passed = .ok () ∧
      p.FaultBehind ((passed.map Parameter.name).reverse ++ before) fault := by
  -- For any names before them, since each parameter that passes adds its own in front.
  induction ps generalizing before with
  | nil =>
    refine iff_of_false nofun ?_
    rintro ⟨passed, p, rest, hsplit, -⟩
    exact List.append_ne_nil_of_right_ne_nil _ (List.cons_ne_nil _ _) hsplit.symm
  | cons q ps ih =>
    unfold checkFrom
    rw [seq_eq_error, checkParameter_eq_error_iff, ih]
    constructor
    · rintro (hfault | ⟨hfirst, passed, p, rest, rfl, hpassed, hfault⟩)
      · exact ⟨[], q, ps, rfl, rfl, hfault⟩
      · refine ⟨q :: passed, p, rest, rfl, ?_, ?_⟩
        · exact seq_eq_ok.mpr ⟨hfirst, hpassed⟩
        · rwa [List.map_cons, List.reverse_cons, List.append_assoc]
    · rintro ⟨passed, p, rest, hsplit, hpassed, hfault⟩
      cases passed with
      | nil =>
        obtain ⟨rfl, rfl⟩ := List.cons.inj hsplit
        exact Or.inl hfault
      | cons r passed =>
        obtain ⟨rfl, rfl⟩ := List.cons.inj hsplit
        rw [List.map_cons, List.reverse_cons, List.append_assoc] at hfault
        obtain ⟨hfirst, hpassed⟩ := seq_eq_ok.mp hpassed
        exact Or.inr ⟨hfirst, passed, p, rest, rfl, hpassed, hfault⟩

/-- The fault that is found in a domain is that of its first parameter which has any. -/
theorem check_eq_error_iff {domain : Domain} {fault : Fault} :
    domain.check = .error fault ↔ ∃ passed p rest, domain.parameters = passed ++ p :: rest ∧
      IsSampleable ⟨passed⟩ ∧ p.FaultBehind (passed.map Parameter.name) fault := by
  unfold check
  rw [checkFrom_eq_error_iff]
  refine exists_congr fun passed => exists_congr fun p => exists_congr fun rest =>
    and_congr_right fun _ => and_congr check_eq_ok_iff (Parameter.faultBehind_congr fun name => ?_)
  rw [List.append_nil, List.mem_reverse]

/-- With the faulty parameter, the parameters before it cannot be drawn from any longer. -/
theorem not_isSampleable_of_faultBehind {passed : List Parameter} {p : Parameter} {fault : Fault}
    (hpassed : IsSampleable ⟨passed⟩) (h : p.FaultBehind (passed.map Parameter.name) fault) :
    ¬ IsSampleable ⟨passed ++ [p]⟩ := by
  intro hsampleable
  have hok : check ⟨passed ++ [p]⟩ = .ok () := check_eq_ok_iff.mpr hsampleable
  rw [check_eq_error_iff.mpr ⟨passed, p, [], rfl, hpassed, h⟩] at hok
  exact nomatch hok

end Domain

namespace Generator

variable {domain : Domain} {size : Nat} {seed : UInt64}

/-- A generator refuses what the check refuses. -/
theorem ofDomain_eq_error_iff {fault : Domain.Fault} :
    ofDomain domain size seed = .error fault ↔ domain.check = .error fault := by
  unfold ofDomain
  cases domain.check with
  | error found =>
    constructor <;>
      · rintro ⟨⟩
        rfl
  | ok => exact iff_of_false nofun nofun

/-- What a boundary case assigns comes from the lists of boundary values. -/
theorem answers_caseAt_of_boundary {g : Generator} {i : Nat}
    (h : ∀ p ∈ g.domain.parameters, p.kind.HasValue) (horigin : (g.caseAt i).origin = .boundary) :
    (g.caseAt i).inputs.Answers
      (fun p v => p.kind.boundaryValues[i % p.kind.boundaryValues.length]? = some v) g.domain := by
  rw [origin_caseAt] at horigin
  unfold caseAt
  rw [if_pos horigin]
  exact Domain.answers_boundaryInputs_cycle h i

end Generator

namespace Domain

/-- A domain passes the check exactly if it can be drawn from, and otherwise the first
    parameter that makes the difference is at fault. A generator is made of a domain exactly
    if it passes the check. Then no list of boundary values is empty, and a boundary case
    assigns to each parameter the value at the remainder of its place by their number. -/
theorem check_firstFault (domain : Domain) :
    (domain.check = .ok () ↔ domain.IsSampleable) ∧
    (∀ fault, domain.check = .error fault ↔
      ∃ passed p rest, domain.parameters = passed ++ p :: rest ∧ IsSampleable ⟨passed⟩ ∧
        ¬ IsSampleable ⟨passed ++ [p]⟩ ∧ p.FaultBehind (passed.map Parameter.name) fault) ∧
    ∀ size seed,
      (∀ fault, Generator.ofDomain domain size seed = .error fault ↔ domain.check = .error fault) ∧
      ((∃ g, Generator.ofDomain domain size seed = .ok g) ↔ domain.check = .ok ()) ∧
      ∀ g, Generator.ofDomain domain size seed = .ok g →
        (∀ p ∈ domain.parameters, p.kind.boundaryValues ≠ [] ∧
          Nat.max p.kind.boundaryValues.length 1 = p.kind.boundaryValues.length) ∧
        ∀ i case, g.case? i = some case → case.origin = .boundary →
          case.inputs.Answers
            (fun p v => p.kind.boundaryValues[i % p.kind.boundaryValues.length]? = some v)
            domain := by
  refine ⟨check_eq_ok_iff, fun fault => ?_, fun size seed =>
    ⟨fun fault => Generator.ofDomain_eq_error_iff, ?_, fun g hg => ?_⟩⟩
  · rw [check_eq_error_iff]
    refine exists_congr fun passed => exists_congr fun p => exists_congr fun rest =>
      and_congr_right fun _ => and_congr_right fun hpassed => ?_
    exact (and_iff_right_of_imp (not_isSampleable_of_faultBehind hpassed)).symm
  · constructor
    · rintro ⟨g, hg⟩
      exact (Generator.ofDomain_eq_ok_iff.mp hg).1
    · exact fun hcheck => ⟨_, Generator.ofDomain_eq_ok_iff.mpr ⟨hcheck, rfl⟩⟩
  · obtain ⟨hcheck, rfl⟩ := Generator.ofDomain_eq_ok_iff.mp hg
    have hrange : ∀ p ∈ domain.parameters, p.kind.HasValue :=
      fun p hp => ((check_eq_ok_iff.mp hcheck).kinds p hp).range
    refine ⟨fun p hp => ?_, fun i case hcase horigin => ?_⟩
    · have hne := Parameter.Kind.boundaryValues_ne_nil (hrange p hp)
      exact ⟨hne, Nat.max_eq_left (List.length_pos_iff.mpr hne)⟩
    · obtain rfl := Generator.eq_caseAt hcase
      exact Generator.answers_caseAt_of_boundary hrange horigin

/-- Of two faults the earlier one is found, here a range that is empty. A name that was used
    before is at fault where it comes up again. -/
example : check ⟨[⟨"a", .bool⟩, ⟨"b", .int 1 0⟩, ⟨"a", .bool⟩]⟩ =
      .error (.unsampleable "b" (.emptyInts 1 0)) ∧
    check ⟨[⟨"a", .bool⟩, ⟨"a", .int 1 0⟩]⟩ = .error (.repeatedName "a") :=
  ⟨rfl, rfl⟩

end Domain

end Concordance
