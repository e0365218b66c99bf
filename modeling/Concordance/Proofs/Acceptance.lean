import Concordance.Proofs.Binary64.Arithmetic
import Concordance.Proofs.Comparing

/-!
# Accepted Outcomes

Which outcomes of a case are accepted, one pair of numbers at a time.

A record holds one deviation for all numbers of a case, the largest, and that is
compared with the tolerance when the record is made and with the allowed deviation
when the candidate is judged. The largest value ignores NaN, so a deviation that
is no number would go unnoticed among others. It does not occur: numbers that can
be compared at all are finite, their difference is no NaN, and it is divided by
something finite and positive. Therefore the largest deviation is within a bound
only if each of them is.

## Main definitions

* `Comparator.AcceptsPair`: Two numbers are equal, or close enough.
* `Comparator.AcceptsTexts`: Two extracted texts are equal, or hold such numbers.
* `Comparator.Accepts`: Two outcomes succeeded with such texts.

## Theorems

* `ofPair?_cases`, `ofLists?_cases`: The ways in which numbers are compared.
* `isNaN_governing`: Numbers that can be compared have a deviation.
* `acceptsPair_iff`, `compareValues_accepts_iff`: Pairs and lists of numbers whose
  deviations are within both bounds.
* `compare_accepts_iff`: A record that matches, with a deviation that is allowed,
  stands for accepted outcomes.
-/

namespace Concordance

namespace Comparator

/-- How far two finite numbers are apart, as the kind of output measures it. -/
def pairDeviation (c : Comparator) (x y : Float) : Float :=
  match c.kind with
  | .absolute => (x - y).abs
  | _ => (x - y).abs / Binary64.maxNum x.abs Binary64.machineEpsilon

/-- Whether two numbers are accepted: neither is a number, or they are equal, or
    both are finite and no farther apart than the tolerance and the bound say. -/
def AcceptsPair (c : Comparator) (bound : Float) (x y : Float) : Prop :=
  (x.isNaN = true ∧ y.isNaN = true) ∨ (x == y) = true ∨
    (x.isFinite = true ∧ y.isFinite = true ∧ c.pairDeviation x y ≤ c.epsilon ∧
      c.pairDeviation x y ≤ bound)

/-- Whether two extracted texts are accepted. Numbers are accepted pair by pair,
    and everything else has to be equal. -/
def AcceptsTexts (c : Comparator) (bound : Float) (rt kt : String) : Prop :=
  if c.kind.isNumeric = true then
    ∃ rs ks, numbers? rt = some rs ∧ numbers? kt = some ks ∧ rs.length = ks.length ∧
      ∀ p ∈ rs.zip ks, c.AcceptsPair bound p.1 p.2
  else rt = kt

/-- Whether two outcomes are accepted: both calls succeeded, both outputs were
    extracted from, and the texts are accepted. -/
structure Accepts (c : Comparator) (bound : Float) (r k : Outcome) : Prop where
  reference_ok : r.status = .ok
  candidate_ok : k.status = .ok
  texts : ∃ rt kt, c.extractor.extract? r.stdout = some rt ∧
    c.extractor.extract? k.stdout = some kt ∧ c.AcceptsTexts bound rt kt

end Comparator

namespace Deviation

theorem isNaN_zero : (0 : Float).isNaN = false := by
  decide +kernel

/-- The ways in which two numbers are compared. -/
theorem ofPair?_cases (x y : Float) :
    ((x.isNaN = true ∧ y.isNaN = true ∨ (x == y) = true) ∧ ofPair? x y = some zero) ∨
      (¬ (x.isNaN = true ∧ y.isNaN = true ∨ (x == y) = true) ∧ x.isFinite = true ∧
        y.isFinite = true ∧ ofPair? x y = some ⟨(x - y).abs,
          (x - y).abs / Binary64.maxNum x.abs Binary64.machineEpsilon⟩) ∨
      (¬ (x.isNaN = true ∧ y.isNaN = true ∨ (x == y) = true) ∧
        ¬ (x.isFinite = true ∧ y.isFinite = true) ∧ ofPair? x y = none) := by
  unfold ofPair?
  by_cases hnan : (x.isNaN && y.isNaN) = true
  · rw [if_pos hnan]
    exact Or.inl ⟨Or.inl (Bool.and_eq_true_iff.mp hnan), rfl⟩
  · rw [if_neg hnan]
    rw [Bool.and_eq_true] at hnan
    by_cases heq : (x == y) = true
    · rw [if_pos heq]
      exact Or.inl ⟨Or.inr heq, rfl⟩
    · rw [if_neg heq]
      refine Or.inr ?_
      by_cases hfinite : x.isFinite = true ∧ y.isFinite = true
      · rw [hfinite.1, hfinite.2]
        exact Or.inl ⟨not_or.mpr ⟨hnan, heq⟩, rfl, rfl, rfl⟩
      · refine Or.inr ⟨not_or.mpr ⟨hnan, heq⟩, hfinite, if_pos ?_⟩
        rw [Bool.or_eq_true, Bool.not_eq_true', Bool.not_eq_true', ← Bool.not_eq_true,
          ← Bool.not_eq_true]
        exact not_and_or.mp hfinite

/-- A function that may fail is applied to a whole list, or it fails somewhere. -/
theorem mapM_cases {α β : Type} (f : α → Option β) (xs : List α) :
    (∃ ys, xs.mapM f = some ys ∧ (∀ x ∈ xs, ∃ y ∈ ys, f x = some y) ∧
        ∀ y ∈ ys, ∃ x ∈ xs, f x = some y) ∨
      (xs.mapM f = none ∧ ∃ x ∈ xs, f x = none) := by
  induction xs with
  | nil => exact Or.inl ⟨[], rfl, nofun, nofun⟩
  | cons x xs ih =>
      rw [List.mapM_cons]
      cases hx : f x with
      | none => exact Or.inr ⟨rfl, x, List.mem_cons_self, hx⟩
      | some y =>
          rcases ih with ⟨ys, hys, hall, hback⟩ | ⟨hnone, x', hx', hfail⟩
          · rw [hys]
            refine Or.inl ⟨y :: ys, rfl, ?_, ?_⟩
            · intro a ha
              rcases List.mem_cons.mp ha with rfl | ha
              · exact ⟨y, List.mem_cons_self, hx⟩
              · rcases hall a ha with ⟨b, hb, hab⟩
                exact ⟨b, List.mem_cons_of_mem y hb, hab⟩
            · intro b hb
              rcases List.mem_cons.mp hb with rfl | hb
              · exact ⟨x, List.mem_cons_self, hx⟩
              · rcases hback b hb with ⟨a, ha, hab⟩
                exact ⟨a, List.mem_cons_of_mem x ha, hab⟩
          · rw [hnone]
            exact Or.inr ⟨rfl, x', List.mem_cons_of_mem x hx', hfail⟩

/-- The ways in which two lists of numbers are compared. -/
theorem ofLists?_cases (rs ks : List Float) :
    (∃ ds : List Deviation, ofLists? rs ks = some (ds.foldl join zero) ∧
        (∀ p ∈ rs.zip ks, ∃ d ∈ ds, ofPair? p.1 p.2 = some d) ∧
        ∀ d ∈ ds, ∃ p ∈ rs.zip ks, ofPair? p.1 p.2 = some d) ∨
      (ofLists? rs ks = none ∧ ∃ p ∈ rs.zip ks, ofPair? p.1 p.2 = none) := by
  unfold ofLists?
  rcases mapM_cases (fun p : Float × Float => ofPair? p.1 p.2) (rs.zip ks) with
    ⟨ds, hds, hpair, hdeviation⟩ | ⟨hnone, hfail⟩
  · rw [hds]
    exact Or.inl ⟨ds, rfl, hpair, hdeviation⟩
  · rw [hnone]
    exact Or.inr ⟨rfl, hfail⟩

end Deviation

namespace Comparator

open Binary64

theorem governing_zero (c : Comparator) : c.governing .zero = 0 := by
  unfold governing
  split
  · rfl
  · rfl

/-- The deviation of two numbers that can be compared is a number. -/
theorem isNaN_governing (c : Comparator) {x y : Float} {d : Deviation}
    (h : Deviation.ofPair? x y = some d) : (c.governing d).isNaN = false := by
  rcases Deviation.ofPair?_cases x y with ⟨_, hd⟩ | ⟨_, hx, hy, hd⟩ | ⟨_, _, hd⟩
  · rw [hd] at h
    cases h
    rw [c.governing_zero]
    exact Deviation.isNaN_zero
  · rw [hd] at h
    cases h
    have habsolute := isNaN_abs (isNaN_sub hx hy)
    -- What is divided by is finite and at least the machine epsilon.
    have hfinite : x.abs.isFinite = true := by
      rw [isFinite_abs]
      exact hx
    have hpositive : 0 < machineEpsilon := by decide +kernel
    have hrelative := isNaN_div habsolute
      (isFinite_maxNum hfinite (by decide +kernel : machineEpsilon.isFinite = true))
      (maxNum_pos (isNaN_of_isFinite hfinite) hpositive)
    unfold governing
    split
    · exact habsolute
    · exact hrelative
  · rw [hd] at h
    exact nomatch h

theorem governing_join (c : Comparator) (d e : Deviation) :
    c.governing (d.join e) = maxNum (c.governing d) (c.governing e) := by
  unfold governing Deviation.join
  split
  · rfl
  · rfl

theorem governing_foldl_join (c : Comparator) (ds : List Deviation) : ∀ d : Deviation,
    c.governing (ds.foldl Deviation.join d)
      = (ds.map c.governing).foldl maxNum (c.governing d) := by
  induction ds with
  | nil => exact fun d => rfl
  | cons e es ih =>
      intro d
      rw [List.foldl_cons, ih, List.map_cons, List.foldl_cons, governing_join]

/-- What counts of the deviation of two finite numbers. -/
theorem governing_pair (c : Comparator) (x y : Float) :
    c.governing ⟨(x - y).abs, (x - y).abs / maxNum x.abs machineEpsilon⟩ = c.pairDeviation x y := by
  unfold governing pairDeviation
  cases c.kind <;> rfl

section

variable (c : Comparator) {bound : Float} (hepsilon : 0 ≤ c.epsilon) (hbound : 0 ≤ bound)

include hepsilon hbound

/-- A pair is accepted if it has a deviation and that is within both bounds. -/
theorem acceptsPair_iff (x y : Float) :
    c.AcceptsPair bound x y ↔ ∃ d, Deviation.ofPair? x y = some d ∧
      c.governing d ≤ c.epsilon ∧ c.governing d ≤ bound := by
  unfold AcceptsPair
  rcases Deviation.ofPair?_cases x y with ⟨hsame, hd⟩ | ⟨hsame, hx, hy, hd⟩ | ⟨hsame, hfin, hd⟩
  · -- What is the same does not deviate, and zero is within both bounds.
    rw [← or_assoc]
    refine iff_of_true (Or.inl hsame) ⟨_, hd, ?_⟩
    rw [c.governing_zero]
    exact ⟨hepsilon, hbound⟩
  · rw [← or_assoc, or_iff_right hsame]
    constructor
    · rintro ⟨_, _, hle⟩
      exact ⟨_, hd, by rw [c.governing_pair]; exact hle⟩
    · rintro ⟨d, hd', hle⟩
      rw [← Option.some.inj (hd.symm.trans hd'), c.governing_pair] at hle
      exact ⟨hx, hy, hle⟩
  · rw [← or_assoc, or_iff_right hsame, hd]
    exact iff_of_false (fun h => hfin ⟨h.1, h.2.1⟩) fun ⟨_, h, _⟩ => nomatch h

/-- Two lists of numbers match, with a deviation that is allowed, if every pair
    of them is accepted. -/
theorem compareValues_accepts_iff (index : Nat) (rt kt : String) (rs ks : List Float) :
    (c.compareValues index rt kt rs ks).isMatch = true ∧
        (c.compareValues index rt kt rs ks).deviation ≤ bound ↔
      ∀ p ∈ rs.zip ks, c.AcceptsPair bound p.1 p.2 := by
  unfold compareValues
  rcases Deviation.ofLists?_cases rs ks with
    ⟨ds, hds, hpair, hdeviation⟩ | ⟨hnone, p, hp, hfail⟩
  · rw [hds]
    dsimp only [measured]
    rw [decide_eq_true_eq, governing_foldl_join, c.governing_zero]
    -- The largest deviation is within a bound if every deviation is.
    have hnan : ∀ g ∈ ds.map c.governing, g.isNaN = false := by
      intro g hg
      rcases List.mem_map.mp hg with ⟨d, hd, rfl⟩
      rcases hdeviation d hd with ⟨p, _, hp⟩
      exact c.isNaN_governing hp
    rw [foldl_maxNum_le_iff _ _ Deviation.isNaN_zero hnan,
      foldl_maxNum_le_iff _ _ Deviation.isNaN_zero hnan, List.forall_mem_map, List.forall_mem_map]
    constructor
    · rintro ⟨⟨_, hepsilon'⟩, _, hbound'⟩ p hp
      rcases hpair p hp with ⟨d, hd, hpd⟩
      exact (c.acceptsPair_iff hepsilon hbound p.1 p.2).mpr
        ⟨d, hpd, hepsilon' d hd, hbound' d hd⟩
    · intro hall
      -- Every deviation belongs to some pair, and that one is accepted.
      have hwithin : ∀ d ∈ ds, c.governing d ≤ c.epsilon ∧ c.governing d ≤ bound := by
        intro d hd
        rcases hdeviation d hd with ⟨p, hp, hpd⟩
        rcases (c.acceptsPair_iff hepsilon hbound p.1 p.2).mp (hall p hp) with ⟨d', hd', hle⟩
        rw [Option.some.inj (hpd.symm.trans hd')]
        exact hle
      exact ⟨⟨hepsilon, fun d hd => (hwithin d hd).1⟩, hbound, fun d hd => (hwithin d hd).2⟩
  · -- A pair that cannot be compared is not accepted either.
    rw [hnone]
    refine iff_of_false (fun h => nomatch h.1) fun hall => ?_
    rcases (c.acceptsPair_iff hepsilon hbound p.1 p.2).mp (hall p hp) with ⟨d, hd, _⟩
    exact nomatch hfail.symm.trans hd

/-- Two texts match, with a deviation that is allowed, if they are accepted. -/
theorem compareTexts_accepts_iff (r k : Outcome) (rt kt : String) :
    (c.compareTexts r k rt kt).isMatch = true ∧ (c.compareTexts r k rt kt).deviation ≤ bound ↔
      c.AcceptsTexts bound rt kt := by
  unfold AcceptsTexts
  rcases c.compareTexts_cases r k rt kt with ⟨hkind, h⟩ | ⟨hkind, heq, h⟩ | ⟨hkind, hne, e, h⟩
  · rw [h, hkind, if_pos rfl]
    rcases c.compareNumbers_cases r k rt kt with ⟨hrs, h⟩ | ⟨rs, hrs, hks, h⟩ |
      ⟨rs, ks, hrs, hks, hlength, h⟩ | ⟨rs, ks, hrs, hks, hlength, h⟩
    · rw [h, hrs]
      exact iff_of_false (fun h => nomatch h.1) fun ⟨_, _, h, _⟩ => nomatch h
    · rw [h, hks]
      exact iff_of_false (fun h => nomatch h.1) fun ⟨_, _, _, h, _⟩ => nomatch h
    · rw [h, hrs, hks]
      refine iff_of_false (fun h => nomatch h.1) ?_
      rintro ⟨rs', ks', hrs', hks', hlength', _⟩
      cases hrs'
      cases hks'
      exact hlength hlength'
    · rw [h, hrs, hks, c.compareValues_accepts_iff hepsilon hbound]
      constructor
      · exact fun hall => ⟨rs, ks, rfl, rfl, hlength, hall⟩
      · rintro ⟨rs', ks', hrs', hks', _, hall⟩
        cases hrs'
        cases hks'
        exact hall
  · rw [h, hkind, if_neg Bool.false_ne_true]
    exact iff_of_true ⟨rfl, hbound⟩ heq
  · rw [h, hkind, if_neg Bool.false_ne_true]
    exact iff_of_false (fun h => nomatch h.1) hne

/-- A record matches, with a deviation that is allowed, if its outcomes are
    accepted. -/
theorem compare_accepts_iff (r k : Outcome) :
    (c.compare r k).isMatch = true ∧ (c.compare r k).deviation ≤ bound ↔
      c.Accepts bound r k := by
  rcases c.compare_cases r k with ⟨hr, h⟩ | ⟨_, d, hd, h⟩ | ⟨_, _, hrt, h⟩ |
    ⟨_, _, rt, hrt, hkt, h⟩ | ⟨hr, hk, rt, kt, hrt, hkt, h⟩
  · rw [h]
    exact iff_of_false (fun h => nomatch h.1) fun haccepts => hr haccepts.reference_ok
  · rw [h]
    refine iff_of_false (fun h => nomatch h.1) fun haccepts => ?_
    rw [haccepts.candidate_ok] at hd
    exact nomatch hd
  · rw [h]
    refine iff_of_false (fun h => nomatch h.1) fun haccepts => ?_
    rcases haccepts.texts with ⟨_, _, hrt', _⟩
    exact nomatch hrt.symm.trans hrt'
  · rw [h]
    refine iff_of_false (fun h => nomatch h.1) fun haccepts => ?_
    rcases haccepts.texts with ⟨_, _, _, hkt', _⟩
    exact nomatch hkt.symm.trans hkt'
  · rw [h, c.compareTexts_accepts_iff hepsilon hbound]
    constructor
    · exact fun htexts => ⟨hr, hk, rt, kt, hrt, hkt, htexts⟩
    · rintro ⟨_, _, rt', kt', hrt', hkt', htexts⟩
      cases hrt.symm.trans hrt'
      cases hkt.symm.trans hkt'
      exact htexts

end

/-- A record that matches has a deviation within the tolerance. -/
theorem deviation_le_of_isMatch (c : Comparator) (hepsilon : 0 ≤ c.epsilon) {r k : Outcome}
    (h : (c.compare r k).isMatch = true) : (c.compare r k).deviation ≤ c.epsilon := by
  rcases c.compare_forms r k with ⟨_, _, _, heq⟩ | heq | ⟨_, heq⟩ | ⟨rt, kt, rs, ks, heq⟩
  · rw [heq] at h
    exact nomatch h
  · rw [heq]
    exact hepsilon
  · rw [heq] at h
    exact nomatch h
  · rw [heq] at h ⊢
    unfold compareValues at h ⊢
    cases hd : Deviation.ofLists? rs ks with
    | none =>
        rw [hd] at h
        exact nomatch h
    | some d =>
        rw [hd] at h
        exact of_decide_eq_true h

end Comparator

end Concordance
