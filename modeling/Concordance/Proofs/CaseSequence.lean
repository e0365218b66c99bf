import Concordance.Case.Cursor
import Concordance.Proofs.Draws
import Mathlib.Order.Bounds.Basic

/-!
# The Sequence of Cases

Which cases there are, and that a cursor passes all of them.

The case at a place is settled by the domain, the seed and the place alone; the size
only says how many places there are. So a longer sequence begins with the shorter
ones, and what the seed cannot reach, the cases that hold boundary values, is the same for
all seeds. A cursor at a place has the cases from there on before it, one by one and in
order, and stands still behind the last.

## Main definitions

* `Generator.caseAt`: The case that stands at a place, however many there are.
* `Cursor.Yields`: The cases that a cursor passes until it stands still.
* `Domain.boundaryLengths`: The lengths of the lists of boundary values.

## Theorems

* `Generator.case?_of_lt`, `Generator.getElem?_cases`: The cases one by one, and as a list.
* `Cursor.yields_iff`: A cursor passes the cases from its place on.
* `Domain.isLUB_longestBoundary`: The longest list of boundary values.
* `Generator.cases_of_ofDomain`: The sequence of a domain that can be drawn from.
-/

namespace Concordance

namespace Domain

/-- The lengths of the lists of boundary values. -/
def boundaryLengths (domain : Domain) : Set Nat :=
  { n | ∃ p ∈ domain.parameters, p.kind.boundaryValues.length = n }

/-- A maximum over a list is the least number above its start and its elements. -/
theorem foldl_max_le_iff (ns : List Nat) (start bound : Nat) :
    ns.foldl Nat.max start ≤ bound ↔ start ≤ bound ∧ ∀ n ∈ ns, n ≤ bound := by
  induction ns generalizing start with
  | nil => exact (and_iff_left (List.forall_mem_nil _)).symm
  | cons n ns ih => rw [List.foldl_cons, ih, List.forall_mem_cons, ← and_assoc, Nat.max_le]

theorem isLUB_longestBoundary (domain : Domain) :
    IsLUB domain.boundaryLengths domain.longestBoundary := by
  refine isLUB_iff_le_iff.mpr fun bound => ?_
  unfold longestBoundary
  rw [foldl_max_le_iff, and_iff_right (Nat.zero_le bound), List.forall_mem_map]
  constructor
  · rintro hle n ⟨p, hp, rfl⟩
    exact hle p hp
  · exact fun hle p hp => hle ⟨p, hp, rfl⟩

variable {domain : Domain}

theorem names_sample (seed : UInt64) (index : Nat) :
    (domain.sample seed index).entries.map Prod.fst = domain.parameters.map Parameter.name :=
  (answers_draw (R := fun _ _ => True) (fun _ _ _ => trivial) _).names

theorem names_boundaryInputs (index : Nat) :
    (domain.boundaryInputs index).entries.map Prod.fst = domain.parameters.map Parameter.name :=
  (answers_boundaryInputs (R := fun _ _ => True) fun _ _ => trivial).names

end Domain

namespace Generator

/-- The case that stands at a place, however many cases there are. -/
def caseAt (g : Generator) (i : Nat) : Case :=
  if i < g.longest then ⟨i, g.domain.boundaryInputs i, .boundary⟩
  else ⟨i, g.domain.sample g.seed i, .random⟩

section

variable {g : Generator} {i : Nat}

theorem case?_of_lt (h : i < g.size) : g.case? i = some (g.caseAt i) := by
  unfold case? caseAt
  rw [if_neg (Nat.not_le.mpr h), apply_ite some]

theorem case?_of_le (h : g.size ≤ i) : g.case? i = none :=
  if_pos h

theorem isSome_case?_iff : (g.case? i).isSome ↔ i < g.size := by
  rcases lt_or_ge i g.size with hlt | hge
  · rw [case?_of_lt hlt]
    exact iff_of_true rfl hlt
  · rw [case?_of_le hge]
    exact iff_of_false nofun hge.not_gt

theorem eq_caseAt {case : Case} (h : g.case? i = some case) : case = g.caseAt i := by
  rw [case?_of_lt (isSome_case?_iff.mp (Option.isSome_of_eq_some h))] at h
  exact (Option.some_inj.mp h).symm

theorem cases_eq_map (g : Generator) : g.cases = (List.range g.size).map g.caseAt := by
  unfold cases
  rw [← List.filterMap_eq_map]
  exact List.filterMap_congr fun i hi => case?_of_lt (List.mem_range.mp hi)

theorem length_cases (g : Generator) : g.cases.length = g.size := by
  rw [cases_eq_map, List.length_map, List.length_range]

theorem getElem?_cases (g : Generator) (i : Nat) : g.cases[i]? = g.case? i := by
  rw [cases_eq_map, List.getElem?_map]
  rcases lt_or_ge i g.size with hlt | hge
  · rw [List.getElem?_range hlt, case?_of_lt hlt, Option.map_some]
  · rw [List.getElem?_eq_none (by rwa [List.length_range]), case?_of_le hge, Option.map_none]

/-! ### One case -/

@[simp] theorem index_caseAt (g : Generator) (i : Nat) : (g.caseAt i).index = i := by
  unfold caseAt
  split <;> rfl

theorem origin_caseAt (g : Generator) (i : Nat) :
    (g.caseAt i).origin = .boundary ↔ i < g.longest := by
  unfold caseAt
  split
  case isTrue hlt => exact iff_of_true rfl hlt
  case isFalse hge => exact iff_of_false nofun hge

theorem names_caseAt (g : Generator) (i : Nat) :
    (g.caseAt i).inputs.entries.map Prod.fst = g.domain.parameters.map Parameter.name := by
  unfold caseAt
  split
  · exact Domain.names_boundaryInputs i
  · exact Domain.names_sample g.seed i

theorem lt_boundaryCount_iff : i < g.boundaryCount ↔ i < g.longest ∧ i < g.size :=
  Nat.lt_min

/-- More cases leave those that there were as they are. -/
theorem case?_resize (g : Generator) {n : Nat} (hi : i < g.size) (hn : g.size ≤ n) :
    case? { g with size := n } i = g.case? i := by
  have hlt : i < size { g with size := n } := hi.trans_le hn
  rw [case?_of_lt hi, case?_of_lt hlt]
  rfl

/-- The seed does not show in a case with boundary values. -/
theorem case?_reseed (g : Generator) (seed : UInt64) (hi : i < g.boundaryCount) :
    case? { g with seed := seed } i = g.case? i := by
  obtain ⟨hlongest, hlt⟩ := lt_boundaryCount_iff.mp hi
  have hlt' : i < size { g with seed := seed } := hlt
  rw [case?_of_lt hlt, case?_of_lt hlt']
  unfold caseAt
  rw [if_pos hlongest, if_pos hlongest]

theorem ofDomain_eq_ok_iff {domain : Domain} {size : Nat} {seed : UInt64} :
    ofDomain domain size seed = .ok g ↔
      domain.check = .ok () ∧ g = ⟨domain, size, seed, domain.longestBoundary⟩ := by
  unfold ofDomain
  cases domain.check with
  | error fault => exact iff_of_false nofun nofun
  | ok =>
    constructor
    · rintro ⟨⟩
      exact ⟨rfl, rfl⟩
    · rintro ⟨-, rfl⟩
      rfl

end

end Generator

namespace Cursor

/-- The cases that a cursor passes, one by one, until it stands still. -/
inductive Yields : Cursor → List Case → Prop
  | done {c : Cursor} (h : c.next = (none, c)) : Yields c []
  | more {c c' : Cursor} {case : Case} {rest : List Case} (h : c.next = (some case, c'))
      (hrest : Yields c' rest) : Yields c (case :: rest)

variable {c : Cursor} {cs : List Case}

theorem next_of_lt (h : c.position < c.generator.size) :
    c.next = (some (c.generator.caseAt c.position), ⟨c.generator, c.position + 1⟩) := by
  unfold next
  rw [Generator.case?_of_lt h]

theorem next_of_le (h : c.generator.size ≤ c.position) : c.next = (none, c) := by
  unfold next
  rw [Generator.case?_of_le h]

/-- The cases from the cursor on. -/
def ahead (c : Cursor) : List Case :=
  c.generator.cases.drop c.position

theorem ahead_of_lt (h : c.position < c.generator.size) :
    c.ahead = c.generator.caseAt c.position :: ahead ⟨c.generator, c.position + 1⟩ := by
  have hlength : c.position < c.generator.cases.length := by rwa [Generator.length_cases]
  unfold ahead
  rw [List.drop_eq_getElem_cons hlength]
  congr 1
  refine Option.some_injective _ ?_
  rw [← List.getElem?_eq_getElem, Generator.getElem?_cases, Generator.case?_of_lt h]

theorem ahead_of_le (h : c.generator.size ≤ c.position) : c.ahead = [] :=
  List.drop_eq_nil_of_le (by rwa [Generator.length_cases])

theorem yields_ahead (c : Cursor) : c.Yields c.ahead := by
  -- Every step brings the end nearer by one.
  induction hn : c.remaining generalizing c with
  | zero =>
    have hle : c.generator.size ≤ c.position := Nat.sub_eq_zero_iff_le.mp hn
    rw [ahead_of_le hle]
    exact .done (next_of_le hle)
  | succ n ih =>
    have hlt : c.position < c.generator.size := Nat.lt_of_sub_eq_succ hn
    rw [ahead_of_lt hlt]
    have hnext : remaining ⟨c.generator, c.position + 1⟩ = n :=
      (Nat.sub_succ _ _).trans (congrArg Nat.pred hn)
    exact .more (next_of_lt hlt) (ih _ hnext)

theorem Yields.eq_ahead (h : c.Yields cs) : cs = c.ahead := by
  induction h with
  | @done c h =>
    rcases lt_or_ge c.position c.generator.size with hlt | hge
    · rw [next_of_lt hlt] at h
      cases h
    · exact (ahead_of_le hge).symm
  | @more c c' case rest h _ ih =>
    rcases lt_or_ge c.position c.generator.size with hlt | hge
    · rw [next_of_lt hlt] at h
      cases h
      rw [ahead_of_lt hlt, ih]
    · rw [next_of_le hge] at h
      cases h

/-- A cursor passes the cases from its place on, and nothing else. -/
theorem yields_iff : c.Yields cs ↔ cs = c.ahead := by
  constructor
  · exact Yields.eq_ahead
  · rintro rfl
    exact yields_ahead c

end Cursor

namespace Generator

variable {domain : Domain} {size : Nat} {seed : UInt64} {g : Generator}

/-- The cases of a domain that can be drawn from are numbered, name the parameters in their
    order, and hold boundary values up to the longest list of them. A cursor passes
    them one by one, a longer sequence begins with a shorter one, and the seed does not
    show before the last boundary value. -/
theorem cases_of_ofDomain (h : ofDomain domain size seed = .ok g) :
    (∀ i, (g.case? i).isSome ↔ i < size) ∧
    (∀ i case, g.case? i = some case →
      case.index = i ∧
      case.inputs.entries.map Prod.fst = domain.parameters.map Parameter.name ∧
      (case.origin = .boundary ↔ i < g.boundaryCount)) ∧
    (∃ longest, IsLUB domain.boundaryLengths longest ∧ g.boundaryCount = min size longest) ∧
    (∀ cs, (Cursor.ofGenerator g).Yields cs ↔ cs = g.cases) ∧
    (g.cases.length = size ∧ ∀ i, g.cases[i]? = g.case? i) ∧
    (∀ n, size ≤ n → ∃ longer, ofDomain domain n seed = .ok longer ∧
      ∀ i < size, longer.case? i = g.case? i) ∧
    (∀ seed', ∃ other, ofDomain domain size seed' = .ok other ∧
      ∀ i < g.boundaryCount, other.case? i = g.case? i) := by
  obtain ⟨hcheck, rfl⟩ := ofDomain_eq_ok_iff.mp h
  refine ⟨fun i => ?_, fun i case hcase => ?_, ?_, fun cs => Cursor.yields_iff,
    ⟨length_cases _, getElem?_cases _⟩, fun n hn => ?_, fun seed' => ?_⟩
  · exact isSome_case?_iff
  · have hlt : i < size := isSome_case?_iff.mp (Option.isSome_of_eq_some hcase)
    rw [case?_of_lt hlt, Option.some_inj] at hcase
    subst hcase
    rw [origin_caseAt, lt_boundaryCount_iff, and_iff_left hlt]
    exact ⟨index_caseAt _ i, names_caseAt _ i, Iff.rfl⟩
  · exact ⟨domain.longestBoundary, domain.isLUB_longestBoundary, Nat.min_comm _ _⟩
  · refine ⟨_, ofDomain_eq_ok_iff.mpr ⟨hcheck, rfl⟩, fun i hi => ?_⟩
    exact case?_resize ⟨domain, size, seed, domain.longestBoundary⟩ hi hn
  · refine ⟨_, ofDomain_eq_ok_iff.mpr ⟨hcheck, rfl⟩, fun i hi => ?_⟩
    exact case?_reseed ⟨domain, size, seed, domain.longestBoundary⟩ seed' hi

/-- A whole number with three boundary values, and a switch with two. -/
private def switched : Domain :=
  ⟨[⟨"n", .int (-5) 5⟩, ⟨"flag", .bool⟩]⟩

/-- Five cases, of which three hold boundary values, are the first five of nine. Of two
    cases, both hold boundary values, and so they do for any other seed. -/
theorem cases_of_ofDomain_switched :
    (∃ five nine, ofDomain switched 5 7 = .ok five ∧ ofDomain switched 9 7 = .ok nine ∧
      (∀ i case, five.case? i = some case → (case.origin = .boundary ↔ i < 3)) ∧
      (Cursor.ofGenerator five).Yields five.cases ∧
      ∀ i < 5, nine.case? i = five.case? i) ∧
    ∃ two other, ofDomain switched 2 7 = .ok two ∧ ofDomain switched 2 8 = .ok other ∧
      two.boundaryCount = 2 ∧ ∀ i < 2, other.case? i = two.case? i := by
  have hcheck : switched.check = .ok () := rfl
  have hlongest : switched.longestBoundary = 3 := by decide +kernel
  have hfive : ofDomain switched 5 7 = .ok ⟨switched, 5, 7, 3⟩ :=
    ofDomain_eq_ok_iff.mpr ⟨hcheck, by rw [hlongest]⟩
  have htwo : ofDomain switched 2 7 = .ok ⟨switched, 2, 7, 3⟩ :=
    ofDomain_eq_ok_iff.mpr ⟨hcheck, by rw [hlongest]⟩
  obtain ⟨-, hcase, -, hyields, -, hlonger, -⟩ := cases_of_ofDomain hfive
  obtain ⟨-, -, -, -, -, -, hother⟩ := cases_of_ofDomain htwo
  obtain ⟨nine, hnine, hprefix⟩ := hlonger 9 (by decide)
  obtain ⟨other, hother, hsame⟩ := hother 8
  exact ⟨⟨_, nine, hfive, hnine, fun i case h => (hcase i case h).2.2, (hyields _).mpr rfl, hprefix⟩,
    ⟨_, other, htwo, hother, rfl, hsame⟩⟩

end Generator

end Concordance
