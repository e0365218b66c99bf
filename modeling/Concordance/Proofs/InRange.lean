import Concordance.Proofs.CaseSequence
import Concordance.Proofs.Sampleable

/-!
# Values from their Ranges

Every value that is generated is one that its parameter declares.

Whole numbers are made in two ways, as the middle of two bounds and as so many steps from
the lower one, and both are exact integers between the bounds that are then written as a
word. An integer between two words is itself a word, so nothing wraps, also where the bounds
are so far apart that their sum or their distance is no word. The one range that leaves out
no word needs no such argument: a draw is taken for the bits of any of them.

Of doubles only their number is counted here. Whether a middle or a draw of doubles lies
between its bounds is a matter of rounding, and not of how cases are put together.

## Main definitions

* `Parameter.Kind.Admits`: A value that a kind declares.

## Theorems

* `filter_induction`: Induction along a list whose duplicates are erased.
* `ofInt_bounds`: An integer between two words is written as a word between them.
* `always_drawInt`: Integers are drawn from their range.
* `Parameter.Kind.admits_typical`, `Parameter.Kind.admits_boundaryValues`,
  `Parameter.Kind.always_draw`: The three sources of values.
* `Domain.inputs_admitted`: The inputs of all cases.
-/

namespace Concordance

open Concordance.Random (Always)

/-! ### The first of equal elements -/

section

variable {α : Type} [BEq α]

/-- Induction in which the elements that are equal to the first one are dropped from the
    rest. This is the way in which duplicates are erased. -/
@[elab_as_elim]
theorem filter_induction {motive : List α → Prop} (xs : List α) (nil : motive [])
    (cons : ∀ x xs, motive (xs.filter fun y => !y == x) → motive (x :: xs)) : motive xs := by
  induction hn : xs.length using Nat.strong_induction_on generalizing xs with
  | _ n ih =>
    cases xs with
    | nil => exact nil
    | cons x xs =>
      have hlt : (xs.filter fun y => !y == x).length < n := by
        rw [← hn, List.length_cons]
        exact Nat.lt_succ_of_le (List.length_filter_le _ xs)
      exact cons x xs (ih _ hlt _ rfl)

/-- Keeping the first of equal elements drops elements, whatever counts as equal. -/
theorem eraseDups_sublist (xs : List α) : xs.eraseDups.Sublist xs := by
  induction xs using filter_induction with
  | nil => exact .slnil
  | cons x xs ih =>
    rw [List.eraseDups_cons]
    exact .cons_cons x (ih.trans List.filter_sublist)

end

/-! ### Whole numbers -/

section

variable {min max : Int64}

/-- An integer between two words is written as a word between them. -/
theorem ofInt_bounds {k : Int} (hmin : min.toInt ≤ k) (hmax : k ≤ max.toInt) :
    min ≤ Int64.ofInt k ∧ Int64.ofInt k ≤ max := by
  have hk : (Int64.ofInt k).toInt = k :=
    Int64.toInt_ofInt_of_le ((Int64.le_toInt min).trans hmin) (hmax.trans_lt (Int64.toInt_lt max))
  rw [Int64.le_iff_toInt_le, Int64.le_iff_toInt_le, hk]
  exact ⟨hmin, hmax⟩

/-- A middle that is no integer has both of its neighbours between the ends, so it may be
    rounded either way, and here it is rounded toward zero. -/
theorem tdiv_two_bounds {m n : Int} (h : m ≤ n) : m ≤ (m + n).tdiv 2 ∧ (m + n).tdiv 2 ≤ n := by
  rcases Int.le_total 0 (m + n) with hsum | hsum
  · rw [Int.tdiv_eq_ediv_of_nonneg hsum]
    omega
  · have hneg : (m + n).tdiv 2 = -(-(m + n)).tdiv 2 := by rw [Int.neg_tdiv, Int.neg_neg]
    rw [hneg, Int.tdiv_eq_ediv_of_nonneg (Int.neg_nonneg_of_nonpos hsum)]
    omega

/-- Bounds that are so far apart that they leave out no word are around every word. -/
theorem bounds_of_whole (h : countBetween min max = 2 ^ 64) (n : Int64) : min ≤ n ∧ n ≤ max := by
  have hmin := Int64.le_toInt min
  have hmax := Int64.toInt_lt max
  have hn := Int64.le_toInt n
  have hn' := Int64.toInt_lt n
  unfold countBetween at h
  rw [Int64.le_iff_toInt_le, Int64.le_iff_toInt_le]
  omega

variable (h : min ≤ max)
include h

theorem middleInt_bounds : min ≤ middleInt min max ∧ middleInt min max ≤ max := by
  obtain ⟨hlower, hupper⟩ := tdiv_two_bounds (Int64.le_iff_toInt_le.mp h)
  exact ofInt_bounds hlower hupper

theorem offsetBy_bounds {n : Nat} (hn : n < countBetween min max) :
    min ≤ offsetBy min n ∧ offsetBy min n ≤ max := by
  have hsum : offsetBy min n = Int64.ofInt (min.toInt + n) := by
    rw [Int64.ofInt_add, Int64.ofInt_toInt, Int64.ofInt_eq_ofNat]
    rfl
  have hle : min.toInt ≤ max.toInt := Int64.le_iff_toInt_le.mp h
  unfold countBetween at hn
  rw [hsum]
  exact ofInt_bounds (by omega) (by omega)

theorem always_drawInt : Always (fun n => min ≤ n ∧ n ≤ max) (drawInt min max) := by
  have hle : min.toInt ≤ max.toInt := Int64.le_iff_toInt_le.mp h
  have hcount : 0 < countBetween min max := by
    unfold countBetween
    omega
  refine (Random.always_below .double hcount).bind fun n hn => .of_pure ?_
  -- A draw for the whole range is taken as it is, any other is counted from the lower bound.
  split
  case isTrue hwhole => exact bounds_of_whole hwhole _
  case isFalse => exact offsetBy_bounds h hn

end

namespace Parameter.Kind

/-- Whether a value is one that a kind declares. Doubles may be any. -/
def Admits : Kind → Value → Prop
  | .int min max, .int n => min ≤ n ∧ n ≤ max
  | .float _ _, .float _ => True
  | .bool, .bool _ => True
  | .text minLength maxLength, .text s => minLength ≤ s.length ∧ s.length ≤ maxLength
  | .choice options, .text s => s ∈ options
  | .ints min max maxLength, .ints ns => ns.length ≤ maxLength ∧ ∀ n ∈ ns, min ≤ n ∧ n ≤ max
  | .floats _ _ maxLength, .floats xs => xs.length ≤ maxLength
  | _, _ => False

theorem admits_boundaryText {minLength maxLength n : Nat} (hmin : minLength ≤ n)
    (hmax : n ≤ maxLength) : (text minLength maxLength).Admits (.text (boundaryText n)) := by
  have hlength : (boundaryText n).length = n := by
    unfold boundaryText
    rw [String.length_ofList, List.length_replicate]
  exact ⟨hmin.trans_eq hlength.symm, hlength.trans_le hmax⟩

variable {kind : Kind} (h : kind.HasValue)
include h

theorem admits_typical : kind.Admits kind.typical := by
  cases kind with
  | int min max => exact middleInt_bounds h
  | float min max | bool => exact trivial
  | text minLength maxLength => exact admits_boundaryText le_rfl h
  | choice options =>
    obtain ⟨option, rest, rfl⟩ := List.exists_cons_of_ne_nil h
    exact List.mem_cons_self
  | ints min max maxLength => exact ⟨Nat.zero_le _, nofun⟩
  | floats min max maxLength => exact Nat.zero_le _

theorem admits_boundaryCandidates : ∀ v ∈ kind.boundaryCandidates, kind.Admits v := by
  cases kind with
  | int min max =>
    unfold boundaryCandidates
    rw [List.forall_mem_append]
    constructor
    · split
      case isTrue hzero => exact List.forall_mem_singleton.mpr hzero
      case isFalse => exact nofun
    · simp only [List.forall_mem_cons]
      exact ⟨⟨Int64.le_refl min, h⟩, ⟨h, Int64.le_refl max⟩, middleInt_bounds h, nofun⟩
  | float min max =>
    unfold boundaryCandidates
    rw [List.forall_mem_append]
    constructor
    · split
      case isTrue => exact List.forall_mem_singleton.mpr trivial
      case isFalse => exact nofun
    · simp only [List.forall_mem_cons]
      exact ⟨trivial, trivial, trivial, nofun⟩
  | bool =>
    unfold boundaryCandidates
    simp only [List.forall_mem_cons]
    exact ⟨trivial, trivial, nofun⟩
  | text minLength maxLength =>
    have hmiddle : minLength ≤ Nat.min (Nat.max minLength 1) maxLength :=
      Nat.le_min.mpr ⟨Nat.le_max_left minLength 1, h⟩
    unfold boundaryCandidates
    simp only [List.forall_mem_map, List.forall_mem_cons]
    exact ⟨admits_boundaryText le_rfl h, admits_boundaryText hmiddle (Nat.min_le_right _ _),
      admits_boundaryText h le_rfl, nofun⟩
  | choice options =>
    unfold boundaryCandidates
    rw [List.forall_mem_map]
    exact fun option hoption => hoption
  | ints min max maxLength =>
    unfold boundaryCandidates
    dsimp only
    split
    case isTrue => exact List.forall_mem_singleton.mpr ⟨Nat.zero_le _, nofun⟩
    case isFalse hpositive =>
      have hone : 1 ≤ maxLength := Nat.one_le_iff_ne_zero.mpr hpositive
      simp only [List.forall_mem_cons]
      refine ⟨⟨Nat.zero_le _, nofun⟩, ⟨hone, ?_⟩, ⟨hone, ?_⟩, ⟨?_, ?_⟩, nofun⟩
      · exact List.forall_mem_singleton.mpr ⟨Int64.le_refl min, h⟩
      · exact List.forall_mem_singleton.mpr ⟨h, Int64.le_refl max⟩
      · exact List.length_replicate.le
      · rintro n hn
        rw [List.eq_of_mem_replicate hn]
        exact middleInt_bounds h
  | floats min max maxLength =>
    unfold boundaryCandidates
    dsimp only
    split
    case isTrue => exact List.forall_mem_singleton.mpr (Nat.zero_le _)
    case isFalse hpositive =>
      have hone : 1 ≤ maxLength := Nat.one_le_iff_ne_zero.mpr hpositive
      simp only [List.forall_mem_cons]
      exact ⟨Nat.zero_le _, hone, hone, List.length_replicate.le, nofun⟩

theorem admits_boundaryValues : ∀ v ∈ kind.boundaryValues, kind.Admits v :=
  fun v hv => admits_boundaryCandidates h v ((eraseDups_sublist _).subset hv)

/-- Past the end of the list there is the value from the middle. -/
theorem admits_getD (i : Nat) : kind.Admits (kind.boundaryValues.getD i kind.typical) := by
  rcases lt_or_ge i kind.boundaryValues.length with hlt | hge
  · rw [List.getD_eq_getElem _ _ hlt]
    exact admits_boundaryValues h _ (List.getElem_mem hlt)
  · rw [List.getD_eq_default _ _ hge]
    exact admits_typical h

theorem always_draw : Always kind.Admits kind.draw := by
  cases kind with
  | int min max => exact (always_drawInt h).bind fun n hn => .of_pure hn
  | float min max => exact (Random.always_true _).bind fun x _ => .of_pure trivial
  | bool => exact (Random.always_true _).bind fun b _ => .of_pure trivial
  | text minLength maxLength =>
    refine (always_drawList h (Random.always_true _)).bind fun cs ⟨hmin, hmax, _⟩ => .of_pure ?_
    have hlength : (String.ofList cs).length = cs.length := String.length_ofList
    exact ⟨hmin.trans_eq hlength.symm, hlength.trans_le hmax⟩
  | choice options => exact (always_drawFrom h "").bind fun s hs => .of_pure hs
  | ints min max maxLength =>
    refine (always_drawList (Nat.zero_le _) (always_drawInt h)).bind fun ns hns => ?_
    exact .of_pure hns.2
  | floats min max maxLength =>
    refine (always_drawList (Nat.zero_le _) (Random.always_true _)).bind fun xs hxs => ?_
    exact .of_pure hxs.2.1

end Parameter.Kind

namespace Domain

/-- Every case of a domain that passes the check has, for each parameter in order, a value
    from its range, be it a boundary value, drawn, or the one from the middle. -/
theorem inputs_admitted {domain : Domain} (h : domain.check = .ok ()) :
    (∀ p ∈ domain.parameters, p.kind.Admits p.kind.typical) ∧
    (∀ seed index, (domain.sample seed index).Answers (fun p v => p.kind.Admits v) domain) ∧
    ∀ size seed, ∃ g, Generator.ofDomain domain size seed = .ok g ∧
      ∀ i < size, ∃ case, g.case? i = some case ∧
        case.inputs.Answers (fun p v => p.kind.Admits v) domain := by
  have hkinds : ∀ p ∈ domain.parameters, p.kind.HasValue :=
    fun p hp => ((check_eq_ok_iff.mp h).kinds p hp).range
  have hsample : ∀ seed index,
      (domain.sample seed index).Answers (fun p v => p.kind.Admits v) domain :=
    fun seed index => answers_draw (fun p hp => Parameter.Kind.always_draw (hkinds p hp)) _
  refine ⟨fun p hp => Parameter.Kind.admits_typical (hkinds p hp), hsample, fun size seed => ?_⟩
  refine ⟨_, Generator.ofDomain_eq_ok_iff.mpr ⟨h, rfl⟩, fun i hi => ?_⟩
  refine ⟨_, Generator.case?_of_lt hi, ?_⟩
  unfold Generator.caseAt
  split
  · exact answers_boundaryInputs fun p hp => Parameter.Kind.admits_getD (hkinds p hp) _
  · exact hsample seed i

/-- Ranges that leave out no word, or all but one value. -/
private def extreme : Domain :=
  ⟨[⟨"any", .int Int64.minValue Int64.maxValue⟩, ⟨"one", .int 3 3⟩, ⟨"pair", .text 2 2⟩,
    ⟨"mode", .choice ["only"]⟩, ⟨"none", .ints 1 1 0⟩]⟩

/-- The first of nine cases holds boundary values, and the last one is drawn. -/
theorem inputs_admitted_extreme :
    extreme.check = .ok () ∧ extreme.longestBoundary = 3 ∧
      ∃ g, Generator.ofDomain extreme 9 7 = .ok g ∧ ∃ first last,
        g.case? 0 = some first ∧ g.case? 8 = some last ∧
        first.inputs.Answers (fun p v => p.kind.Admits v) extreme ∧
        last.inputs.Answers (fun p v => p.kind.Admits v) extreme := by
  have hcheck : extreme.check = .ok () := rfl
  obtain ⟨-, -, hcases⟩ := inputs_admitted hcheck
  obtain ⟨g, hg, hcase⟩ := hcases 9 7
  obtain ⟨first, hfirst, hboundary⟩ := hcase 0 (by decide)
  obtain ⟨last, hlast, hdrawn⟩ := hcase 8 (by decide)
  exact ⟨hcheck, by decide +kernel, g, hg, first, last, hfirst, hlast, hboundary, hdrawn⟩

end Domain

end Concordance
