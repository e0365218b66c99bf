import Concordance.Proofs.BoundaryWalk
import Concordance.Proofs.DescriptionRoundTrip

/-!
# Values Read Back

A generated value is what its own data says, unless it is an empty list of doubles.

A value is written without its kind, and the reader takes the first kind that the data
fits. This finds the kind again because kinds do not share data: no double is written like
an integer, whatever its value is, and a list is told by its elements. An empty list has
none. It fits both kinds of lists, and the reader takes it for one of integers.

As with descriptions, the text is the business of the format. That it reads back to the
tree it was written from is taken for granted, but only of values whose doubles are finite,
and it is proved that a checked domain generates no others.

## Main definitions

* `Value.foremost`: The first value with the same data.

## Theorems

* `Value.ofDatum?_toDatum`: The value that its data is read as.
* `Generator.isFinite_of_mem_caseAt`: The doubles of generated values are finite.
* `Generator.values_readBack`: Generated values are read back from their texts.
* `Generator.floats_readAsInts`: The empty list of doubles is not.
-/

namespace Concordance

namespace Value

/-- The first value that has the data of a value. Of the empty lists it is the one of
    integers. -/
def foremost : Value → Value
  | .floats [] => .ints []
  | v => v

theorem foremost_of_ne {v : Value} (h : v ≠ .floats []) : v.foremost = v := by
  unfold foremost
  split
  · exact absurd rfl h
  · rfl

/-- The data of a value is read as the first value that has it. -/
theorem ofDatum?_toDatum (v : Value) : ofDatum? v.toDatum = some v.foremost := by
  cases v with
  | int n =>
    unfold ofDatum? toDatum
    dsimp only
    rw [Source.int64?_plain]
    rfl
  | float x | bool b | text s => rfl
  | ints ns =>
    change ((((ns.map fun n => Datum.int n.toInt).map Source.plain).mapM Source.int64?).map ints
      <|> _) = _
    rw [Source.mapM_plain Source.int64?_plain]
    rfl
  | floats xs =>
    cases xs with
    | nil => rfl
    | cons x xs =>
      -- The first element shows that the list is not one of integers.
      have hints : (((x :: xs).map Datum.float).map Source.plain).mapM Source.int64? = none := rfl
      change ((((((x :: xs).map Datum.float).map Source.plain).mapM Source.int64?).map ints)
        <|> ((((x :: xs).map Datum.float).map Source.plain).mapM Source.float?).map floats) = _
      rw [hints, Source.mapM_plain fun _ => rfl]
      rfl

/-- A text that has the data of a value is read as the first value that has it. -/
theorem readBack_of_carries {format : DocumentFormat} {v : Value} (h : format.Carries v.toDatum) :
    (format.source? (format.write v.toDatum)).bind ofSource? = some v.foremost := by
  unfold DocumentFormat.Carries at h
  obtain ⟨s, hs, hdatum⟩ := Option.bind_eq_some_iff.mp h
  rw [hs, Option.bind_some, ofSource?, hdatum, Option.bind_some, ofDatum?_toDatum]

end Value

theorem Inputs.Answers.forall_mem {P : Value → Prop} {domain : Domain} {inputs : Inputs}
    (h : inputs.Answers (fun _ v => P v) domain) : ∀ e ∈ inputs.entries, P e.2 := by
  have hflip : List.Forall₂ (fun e p => P e.2 ∧ e.1 = p.name) inputs.entries domain.parameters :=
    (h.imp fun _ _ he => And.symm he).flip
  exact ((List.forall₂_and_left _ _).mp hflip).1

namespace Generator

variable {g : Generator}

/-- The doubles in the cases of a domain that can be drawn from are finite. -/
theorem isFinite_of_mem_caseAt (h : ∀ p ∈ g.domain.parameters, p.kind.HasValue) (i : Nat) :
    ∀ e ∈ (g.caseAt i).inputs.entries, e.2.IsFinite := by
  have hanswers : (g.caseAt i).inputs.Answers (fun _ v => v.IsFinite) g.domain := by
    unfold caseAt
    split
    · refine Domain.answers_boundaryInputs fun p hp => ?_
      exact Parameter.Kind.isFinite_boundaryValues (h p hp) _
        (List.mem_of_getElem? (Parameter.Kind.getElem?_boundaryValues_mod (h p hp) i))
    · exact Domain.answers_draw (fun p hp => Parameter.Kind.always_isFinite_draw (h p hp)) _
  exact hanswers.forall_mem

/-- What a checked domain generates is read back from its text as the same value, if the text
    of finite values reads back as the tree. Only the empty list of doubles is read as the
    empty list of integers. -/
theorem values_readBack {domain : Domain} {size : Nat} {seed : UInt64} {i : Nat} {case : Case}
    (h : ofDomain domain size seed = .ok g) (hcase : g.case? i = some case)
    (format : DocumentFormat)
    (hcarries : ∀ e ∈ case.inputs.entries, e.2.IsFinite → format.Carries e.2.toDatum) :
    ∀ e ∈ case.inputs.entries,
      let read := (format.source? (format.write e.2.toDatum)).bind Value.ofSource?
      (e.2 ≠ .floats [] → read = some e.2) ∧ (e.2 = .floats [] → read = some (.ints [])) := by
  obtain ⟨hcheck, rfl⟩ := ofDomain_eq_ok_iff.mp h
  have hrange : ∀ p ∈ domain.parameters, p.kind.HasValue :=
    fun p hp => ((Domain.check_eq_ok_iff.mp hcheck).kinds p hp).range
  obtain rfl := eq_caseAt hcase
  intro e he
  have hread := Value.readBack_of_carries (hcarries e he (isFinite_of_mem_caseAt hrange i e he))
  refine ⟨fun hne => ?_, fun heq => ?_⟩
  · rw [hread, Value.foremost_of_ne hne]
  · rw [hread, heq]
    rfl

/-- Doubles that are whole numbers, and texts that look like other values. -/
private def lookalikes : Domain :=
  ⟨[⟨"n", .int (-3) 8⟩, ⟨"x", .float 1 1e20⟩, ⟨"b", .bool⟩, ⟨"s", .choice ["1e5", "", "true"]⟩,
    ⟨"ns", .ints (-5) 5 2⟩, ⟨"xs", .floats (-0.5) 2 2⟩]⟩

theorem values_readBack_lookalikes :
    ∃ g case, ofDomain lookalikes 4 7 = .ok g ∧ g.case? 2 = some case ∧
      case.inputs.get? "s" = some (.text "true") ∧ case.inputs.get? "xs" = some (.floats [2]) ∧
      ∀ format : DocumentFormat, ∀ e ∈ case.inputs.entries,
        (e.2.IsFinite → format.Carries e.2.toDatum) ∧
        let read := (format.source? (format.write e.2.toDatum)).bind Value.ofSource?
        (e.2 ≠ .floats [] → read = some e.2) ∧ (e.2 = .floats [] → read = some (.ints [])) := by
  have hcheck : lookalikes.check = .ok () := rfl
  have hlongest : lookalikes.longestBoundary = 4 := by decide +kernel
  have hg : ofDomain lookalikes 4 7 = .ok ⟨lookalikes, 4, 7, 4⟩ :=
    ofDomain_eq_ok_iff.mpr ⟨hcheck, by rw [hlongest]⟩
  have hcase : (⟨lookalikes, 4, 7, 4⟩ : Generator).case? 2 =
    some ⟨2, lookalikes.boundaryInputs 2, .boundary⟩ := rfl
  have hcarries : ∀ format : DocumentFormat, ∀ e ∈ (lookalikes.boundaryInputs 2).entries,
      format.Carries e.2.toDatum := by
    rintro (_ | _) <;> decide +kernel
  refine ⟨_, _, hg, hcase, rfl, rfl, fun format e he => ⟨fun _ => hcarries format e he, ?_⟩⟩
  exact values_readBack hg hcase format (fun e he _ => hcarries format e he) e he

/-- The first case of a list of doubles is the empty list, and what is read from its text is
    the empty list of integers, also of a text that reads back as the tree. -/
theorem floats_readAsInts :
    ∃ g case, ofDomain ⟨[⟨"xs", .floats 0 1 3⟩]⟩ 1 7 = .ok g ∧ g.case? 0 = some case ∧
      case.inputs.get? "xs" = some (.floats []) ∧
      ∀ format : DocumentFormat, format.Carries (Value.floats []).toDatum ∧
        let read := (format.source? (format.write (Value.floats []).toDatum)).bind Value.ofSource?
        read = some (.ints []) ∧ read ≠ some (.floats []) := by
  have hcarries : ∀ format : DocumentFormat, format.Carries (Value.floats []).toDatum := by
    rintro (_ | _) <;> decide +kernel
  refine ⟨_, _, rfl, rfl, rfl, fun format => ?_⟩
  have hread := Value.readBack_of_carries (hcarries format)
  refine ⟨hcarries format, hread, ?_⟩
  rw [hread]
  exact nofun

end Generator

end Concordance
