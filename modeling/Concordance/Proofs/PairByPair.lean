import Concordance.Proofs.Acceptance
import Concordance.Proofs.Binary64.Magnitude

/-!
# Numbers Pair by Pair

What the record of two lists of numbers says of each pair.

The lists are walked once. The walk keeps the largest deviations so far and notices a
pair that cannot be compared, and when it is over one number is held against the
tolerance. All the same the record is about single pairs: it matches if every pair
does, its deviations are those of the pair that is farthest apart, and one pair that
cannot be compared outweighs all others, wherever it stands.

## Main definitions

* `Deviation.IsComparable`: Two numbers can be compared.
* `Deviation.ofComparable`: The deviation of two such numbers.
* `Comparator.MatchesPair`: Two numbers are equal, or close enough.

## Theorems

* `ofPair?_of_isComparable`, `ofPair?_eq_none_iff`: Which pairs have a deviation.
* `isMagnitude_ofComparable`: Deviations have no sign.
* `ofLists?_of_isComparable`, `ofLists?_eq_none`: The largest deviations of lists.
* `compareValues_isMatch_iff`: Lists of one length match pair by pair.
* `compare_pairs`: What the record of two lists of numbers says.
-/

namespace Concordance

open Binary64

namespace Deviation

/-- Whether two numbers can be compared: neither is a number, or they are equal, or
    both are finite. -/
def IsComparable (x y : Float) : Prop :=
  (x.isNaN = true ∧ y.isNaN = true) ∨ (x == y) = true ∨ (x.isFinite = true ∧ y.isFinite = true)

instance (x y : Float) : Decidable (IsComparable x y) :=
  inferInstanceAs (Decidable (_ ∨ _ ∨ _))

/-- The deviation of two numbers that can be compared: none if they are the same, and
    otherwise their distance, as it is and relative to the reference. -/
def ofComparable (x y : Float) : Deviation :=
  if (x.isNaN = true ∧ y.isNaN = true) ∨ (x == y) = true then zero
  else ⟨(x - y).abs, (x - y).abs / maxNum x.abs machineEpsilon⟩

section

variable {x y : Float}

theorem ofPair?_of_isComparable (h : IsComparable x y) : ofPair? x y = some (ofComparable x y) := by
  unfold ofComparable
  rcases ofPair?_cases x y with ⟨hsame, hd⟩ | ⟨hsame, _, _, hd⟩ | ⟨hsame, hfinite, _⟩
  · rw [if_pos hsame, hd]
  · rw [if_neg hsame, hd]
  · exact absurd (or_assoc.mpr h) (not_or.mpr ⟨hsame, hfinite⟩)

theorem ofPair?_eq_none_iff : ofPair? x y = none ↔ ¬ IsComparable x y := by
  unfold IsComparable
  rw [← or_assoc]
  rcases ofPair?_cases x y with ⟨hsame, hd⟩ | ⟨_, hx, hy, hd⟩ | ⟨hsame, hfinite, hd⟩
  · rw [hd]
    exact iff_of_false nofun (not_not.mpr (Or.inl hsame))
  · rw [hd]
    exact iff_of_false nofun (not_not.mpr (Or.inr ⟨hx, hy⟩))
  · exact iff_of_true hd (not_or.mpr ⟨hsame, hfinite⟩)

/-- The deviations of numbers that can be compared have no sign. -/
theorem isMagnitude_ofComparable (h : IsComparable x y) :
    IsMagnitude (ofComparable x y).absolute ∧ IsMagnitude (ofComparable x y).relative := by
  unfold ofComparable
  by_cases hsame : (x.isNaN = true ∧ y.isNaN = true) ∨ (x == y) = true
  · rw [if_pos hsame]
    exact ⟨isMagnitude_zero, isMagnitude_zero⟩
  · rw [if_neg hsame]
    obtain ⟨hx, hy⟩ := (or_assoc.mpr h).resolve_left hsame
    have habsolute := isMagnitude_abs (isNaN_sub hx hy)
    -- What is divided by is finite and at least the machine epsilon.
    have hreference := isMagnitude_abs (isNaN_of_isFinite hx)
    have hepsilon : IsMagnitude machineEpsilon := ⟨by decide +kernel, by decide +kernel⟩
    have hpos : 0 < machineEpsilon := by decide +kernel
    have hfinite : x.abs.isFinite = true := by
      rw [isFinite_abs]
      exact hx
    exact ⟨habsolute, isMagnitude_div habsolute (isMagnitude_maxNum hreference hepsilon)
      (isFinite_maxNum hfinite (by decide +kernel))
      (maxNum_pos hreference.isNaN_eq_false hpos)⟩

end

theorem foldl_join (ds : List Deviation) : ∀ d : Deviation, ds.foldl join d =
    ⟨(ds.map absolute).foldl maxNum d.absolute, (ds.map relative).foldl maxNum d.relative⟩ := by
  induction ds with
  | nil => exact fun d => rfl
  | cons e ds ih => exact fun d => ih (d.join e)

/-- A function that does not fail on a list is applied to all of it. -/
theorem mapM_of_forall {α β : Type} {f : α → Option β} {g : α → β} {xs : List α}
    (h : ∀ x ∈ xs, f x = some (g x)) : xs.mapM f = some (xs.map g) := by
  induction xs with
  | nil => rfl
  | cons x xs ih =>
      rw [List.mapM_cons, h x List.mem_cons_self, ih fun y hy => h y (List.mem_cons_of_mem x hy)]
      rfl

section

variable {rs ks : List Float}

/-- The deviations of two lists whose pairs can be compared. -/
theorem ofLists?_of_isComparable (h : ∀ p ∈ rs.zip ks, IsComparable p.1 p.2) :
    ofLists? rs ks = some
      ⟨((rs.zip ks).map fun p => (ofComparable p.1 p.2).absolute).foldl maxNum 0,
        ((rs.zip ks).map fun p => (ofComparable p.1 p.2).relative).foldl maxNum 0⟩ := by
  unfold ofLists?
  rw [mapM_of_forall fun p hp => ofPair?_of_isComparable (h p hp)]
  change some (((rs.zip ks).map fun p => ofComparable p.1 p.2).foldl join zero) = _
  rw [foldl_join, List.map_map, List.map_map]
  rfl

/-- One pair that cannot be compared is enough. -/
theorem ofLists?_eq_none (h : ∃ p ∈ rs.zip ks, ¬ IsComparable p.1 p.2) :
    ofLists? rs ks = none := by
  obtain ⟨p, hp, hnot⟩ := h
  rcases ofLists?_cases rs ks with ⟨_, _, hall, _⟩ | ⟨hnone, _⟩
  · obtain ⟨d, _, hd⟩ := hall p hp
    exact nomatch (ofPair?_eq_none_iff.mpr hnot).symm.trans hd
  · exact hnone

end

end Deviation

namespace Comparator

open Deviation (IsComparable ofComparable)

/-- Whether two numbers match: neither is a number, or they are equal, or both are
    finite and no farther apart than the tolerance says. -/
def MatchesPair (c : Comparator) (x y : Float) : Prop :=
  (x.isNaN = true ∧ y.isNaN = true) ∨ (x == y) = true ∨
    (x.isFinite = true ∧ y.isFinite = true ∧ c.pairDeviation x y ≤ c.epsilon)

instance (c : Comparator) (x y : Float) : Decidable (c.MatchesPair x y) :=
  inferInstanceAs (Decidable (_ ∨ _ ∨ _))

section

variable (c : Comparator)

theorem acceptsPair_epsilon_iff (x y : Float) :
    c.AcceptsPair c.epsilon x y ↔ c.MatchesPair x y := by
  unfold AcceptsPair MatchesPair
  rw [and_self]

/-- Lists of one length match if every pair does. -/
theorem compareValues_isMatch_iff (hepsilon : 0 ≤ c.epsilon) (index : Nat) (rt kt : String)
    (rs ks : List Float) : (c.compareValues index rt kt rs ks).isMatch = true ↔
      ∀ p ∈ rs.zip ks, c.MatchesPair p.1 p.2 := by
  have hwithin : (c.compareValues index rt kt rs ks).isMatch = true →
      (c.compareValues index rt kt rs ks).deviation ≤ c.epsilon := by
    unfold compareValues
    cases Deviation.ofLists? rs ks with
    | none => exact fun h => nomatch h
    | some d => exact fun h => of_decide_eq_true h
  simp only [← c.acceptsPair_epsilon_iff]
  rw [← c.compareValues_accepts_iff hepsilon hepsilon index rt kt]
  exact ⟨fun h => ⟨h, hwithin h⟩, And.left⟩

end

section

variable {c : Comparator} {r k : Outcome} {rt kt : String} {rs ks : List Float}

/-- The record of outcomes in which numbers were found. -/
theorem compare_of_numbers (hkind : c.kind.isNumeric = true) (hr : r.status = .ok)
    (hk : k.status = .ok) (hrt : c.extractor.extract? r.stdout = some rt)
    (hkt : c.extractor.extract? k.stdout = some kt) (hrs : numbers? rt = some rs)
    (hks : numbers? kt = some ks) :
    (rs.length ≠ ks.length ∧
        c.compare r k = failure r.index (.lengths rs.length ks.length) rt kt) ∨
      (rs.length = ks.length ∧ c.compare r k = c.compareValues r.index rt kt rs ks) := by
  have hcompare : c.compare r k = c.compareNumbers r k rt kt := by
    rcases c.compareTexts_cases r k rt kt with ⟨_, h⟩ | ⟨hno, _⟩ | ⟨hno, _⟩
    · rw [← h]
      unfold compare
      rw [if_neg (not_not.mpr hr), hk, hrt, hkt]
      rfl
    · exact absurd (hkind.symm.trans hno) Bool.noConfusion
    · exact absurd (hkind.symm.trans hno) Bool.noConfusion
  rw [hcompare]
  rcases c.compareNumbers_cases r k rt kt with ⟨hnone, _⟩ | ⟨_, _, hnone, _⟩ |
    ⟨rs', ks', hrs', hks', h⟩ | ⟨rs', ks', hrs', hks', h⟩
  · exact nomatch hrs.symm.trans hnone
  · exact nomatch hks.symm.trans hnone
  · cases hrs.symm.trans hrs'
    cases hks.symm.trans hks'
    exact Or.inl h
  · cases hrs.symm.trans hrs'
    cases hks.symm.trans hks'
    exact Or.inr h

/-- The record of two lists of numbers is about single pairs. It matches exactly if the
    lists are of one length and every pair matches. Lists of one length whose pairs can
    all be compared have the deviations of those pairs that are farthest apart, and none
    without pairs. One pair that cannot be compared makes the record a failure with all
    deviations one, whatever the other pairs are. -/
theorem compare_pairs (hkind : c.kind.isNumeric = true) (hepsilon : 0 ≤ c.epsilon)
    (hr : r.status = .ok) (hk : k.status = .ok)
    (hrt : c.extractor.extract? r.stdout = some rt)
    (hkt : c.extractor.extract? k.stdout = some kt) (hrs : numbers? rt = some rs)
    (hks : numbers? kt = some ks) :
    ((c.compare r k).isMatch = true ↔
        rs.length = ks.length ∧ ∀ p ∈ rs.zip ks, c.MatchesPair p.1 p.2) ∧
      (rs.length = ks.length → (∀ p ∈ rs.zip ks, IsComparable p.1 p.2) →
        IsLargestOf (c.compare r k).absolute
            ((rs.zip ks).map fun p => (ofComparable p.1 p.2).absolute) ∧
          IsLargestOf (c.compare r k).relative
            ((rs.zip ks).map fun p => (ofComparable p.1 p.2).relative) ∧
          (c.compare r k).deviation
            = c.governing ⟨(c.compare r k).absolute, (c.compare r k).relative⟩) ∧
      (rs.length = ks.length → (∃ p ∈ rs.zip ks, ¬ IsComparable p.1 p.2) →
        (c.compare r k).absolute = 1 ∧ (c.compare r k).relative = 1 ∧
          (c.compare r k).deviation = 1 ∧
          (c.compare r k).discrepancy = some .outOfTolerance) := by
  rcases compare_of_numbers hkind hr hk hrt hkt hrs hks with ⟨hlength, h⟩ | ⟨hlength, h⟩
  · rw [h]
    exact ⟨iff_of_false nofun fun hall => hlength hall.1, fun heq => absurd heq hlength,
      fun heq => absurd heq hlength⟩
  · rw [h]
    refine ⟨?_, fun _ hall => ?_, fun _ hsome => ?_⟩
    · rw [c.compareValues_isMatch_iff hepsilon, and_iff_right hlength]
    · unfold compareValues
      rw [Deviation.ofLists?_of_isComparable hall]
      refine ⟨isLargestOf_foldl ?_, isLargestOf_foldl ?_, rfl⟩
      · rw [List.forall_mem_map]
        exact fun p hp => (Deviation.isMagnitude_ofComparable (hall p hp)).1
      · rw [List.forall_mem_map]
        exact fun p hp => (Deviation.isMagnitude_ofComparable (hall p hp)).2
    · unfold compareValues
      rw [Deviation.ofLists?_eq_none hsome]
      exact ⟨rfl, rfl, rfl, rfl⟩

end

/-- A comparator that leaves a quarter of the reference as tolerance. -/
private def quarter : Comparator :=
  ⟨.relative, 0.25, .whole⟩

private def oddReference : Outcome :=
  .succeeded 0 "[1, NaN, -inf, 0]"

private def nearCandidate : Outcome :=
  .succeeded 0 "1.25, nan -inf -0.0"

private def farCandidate : Outcome :=
  .succeeded 0 "1.25, 7 -inf -0.0"

/-- A NaN matches a NaN, and a zero matches the other one. A NaN against a number makes
    a failure of the same list, in which all other pairs are within the tolerance. -/
theorem compare_pairs_quarter :
    (0 ≤ quarter.epsilon ∧ quarter.kind.isNumeric = true) ∧
      ((quarter.compare oddReference nearCandidate).isMatch = true ∧
        IsLargestOf (quarter.compare oddReference nearCandidate).absolute [0.25, 0, 0, 0]) ∧
      (quarter.compare oddReference farCandidate).isMatch ≠ true ∧
        (quarter.compare oddReference farCandidate).deviation = 1 := by
  have hkind : quarter.kind.isNumeric = true := rfl
  have hepsilon : 0 ≤ quarter.epsilon := by decide +kernel
  have hreference : numbers? "[1, NaN, -inf, 0]" = some [1, 0 / 0, -1 / 0, 0] := by decide +kernel
  have hrt : quarter.extractor.extract? oddReference.stdout = some "[1, NaN, -inf, 0]" := by
    decide +kernel
  have hnear : quarter.extractor.extract? nearCandidate.stdout = some "1.25, nan -inf -0.0" := by
    decide +kernel
  have hnears : numbers? "1.25, nan -inf -0.0" = some [1.25, 0 / 0, -1 / 0, -0.0] := by
    decide +kernel
  have hfar : quarter.extractor.extract? farCandidate.stdout = some "1.25, 7 -inf -0.0" := by
    decide +kernel
  have hfars : numbers? "1.25, 7 -inf -0.0" = some [1.25, 7, -1 / 0, -0.0] := by decide +kernel
  obtain ⟨hmatch, hlargest, -⟩ := compare_pairs hkind hepsilon rfl rfl hrt hnear hreference hnears
  obtain ⟨hmatch', -, hfailure⟩ := compare_pairs hkind hepsilon rfl rfl hrt hfar hreference hfars
  refine ⟨⟨hepsilon, hkind⟩, ⟨hmatch.mpr ⟨rfl, by decide +kernel⟩, ?_⟩, ?_, ?_⟩
  · have hdeviations : (([1, 0 / 0, -1 / 0, 0] : List Float).zip [1.25, 0 / 0, -1 / 0, -0.0]).map
        (fun p => (ofComparable p.1 p.2).absolute) = [0.25, 0, 0, 0] := by decide +kernel
    rw [← hdeviations]
    exact (hlargest rfl (by decide +kernel)).1
  · exact fun h => absurd (hmatch'.mp h) (by decide +kernel)
  · exact (hfailure rfl (by decide +kernel)).2.2.1

end Comparator

end Concordance
