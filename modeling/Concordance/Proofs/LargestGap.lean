import Concordance.Proofs.Binary64.Magnitude
import Concordance.Proofs.Sorting
import Concordance.Statistics.KolmogorovSmirnov
import Mathlib.Algebra.Order.Field.Basic
import Mathlib.Algebra.Order.Field.Rat
import Mathlib.Data.List.TakeWhile
import Mathlib.Order.Bounds.Basic
import Mathlib.Tactic.Linarith

/-!
# The Largest Gap

What the walk along two sorted samples finds is the supremum it is meant to find.

The statistic of the test is defined by all points of the line: at each of them the
two empirical distribution functions have some gap, and the largest one counts. The
walk only looks at a few points, those where a value of either sample stands, and it
stops when one sample is used up. Nothing is lost. Between two values that the walk
meets no count changes, so the gap there is one it has seen. After the end one share
is already one and the other can only come closer.

The statistic is a matter of the counts alone, and read with exact fractions it is
the supremum. With doubles the same gaps are rounded one by one, and what the test gives
is the largest of them, NaN ignored.

A point of the line is known here by the doubles at or below it. Points between two
doubles, or beyond all of them, are covered this way too.

## Main definitions

* `Point`: A point of the line.
* `share`: The empirical distribution function of a sample.
* `gapAt`: The gap between two empirical distribution functions at a point.
* `GapArithmetic.exact`: Arithmetic with exact fractions.
* `roundedGaps`, `IsLargestGap`: The gaps of a walk in doubles, and the largest of them.
* `IsSorted`: A sample of numbers in ascending order.
* `stepPoint`: The point up to which a step of the walk goes.
* `Bounds`: A step of the walk shows at least the gap of a point.
* `WalkEnds`: How the walk ends.

## Theorems

* `isSorted_ordered`: What the walk is given is sorted.
* `mergeCounts_of_length_le`: The number of steps that are allowed is no limit.
* `exists_usedUp`, `exists_mem_counts`: The walk ends with one sample used up.
* `exists_eq_countP`: Every step of the walk counts up to a double.
* `exists_bounds`: Every point has a step that shows at least its gap.
* `gap_le_of_usedUp`, `walkEnds`: No gap after the end of the walk is larger.
* `isLargestGap_statistic`: The statistic in doubles is the largest gap in doubles.
* `compareSamples_isGreatest`: The statistic is the largest gap of all points.
-/

namespace Concordance

namespace KolmogorovSmirnov

/-- A point of the line, known by the doubles at or below it. With one of them
    everything lower is among them. -/
structure Point where
  holds : Float → Bool
  holds_of_le : ∀ {x y : Float}, x ≤ y → holds y = true → holds x = true

/-- The point where a double stands. -/
def Point.ofFloat (x : Float) : Point where
  holds y := decide (y ≤ x)
  holds_of_le hle h := decide_eq_true (Binary64.le_of_le_of_le hle (of_decide_eq_true h))

/-- The numbers of a sample. -/
def numbersOf (xs : List Float) : List Float :=
  xs.filter fun x => !x.isNaN

/-- The empirical distribution function of a sample: the share of its numbers that
    lie at or below a point. -/
def share (xs : List Float) (p : Point) : ℚ :=
  (numbersOf xs).countP p.holds / (numbersOf xs).length

/-- Arithmetic with exact fractions. -/
def GapArithmetic.exact : GapArithmetic ℚ where
  ofNat n := n
  abs q := |q|
  larger := max

/-! ### Sorted samples -/

/-- Whether a sample holds nothing but numbers, in ascending order. -/
structure IsSorted (xs : List Float) : Prop where
  isNaN_eq_false : ∀ x ∈ xs, x.isNaN = false
  pairwise : xs.Pairwise fun x y => x ≤ y

/-- Sorting goes by the total order of doubles, which is finer than that of numbers. -/
theorem isSorted_ordered (xs : List Float) : IsSorted (ordered xs) := by
  have hnumber : ∀ x ∈ ordered xs, x.isNaN = false := by
    intro x hx
    have hmem := (List.mergeSort_perm _ _).mem_iff.mp hx
    simpa using (List.mem_filter.mp hmem).2
  have hkeys := pairwise_mergeSort_key Binary64.orderKey (numbersOf xs)
  -- A negative zero stands before a positive one, and as numbers they are equal.
  refine ⟨hnumber, hkeys.imp_of_mem ?_⟩
  intro x y hx hy hkey
  exact Binary64.le_of_orderKey_le (hnumber x hx) (hnumber y hy) hkey

theorem ordered_perm (xs : List Float) : (ordered xs).Perm (numbersOf xs) :=
  List.mergeSort_perm _ _

theorem ordered_length_pos {xs : List Float} (h : ∃ x ∈ xs, x.isNaN = false) :
    0 < (ordered xs).length := by
  obtain ⟨x, hx, hnumber⟩ := h
  have hmem : x ∈ numbersOf xs := List.mem_filter.mpr ⟨hx, by rw [hnumber]; rfl⟩
  exact List.length_pos_of_mem ((ordered_perm xs).mem_iff.mpr hmem)

theorem share_eq (xs : List Float) (p : Point) :
    share xs p = (ordered xs).countP p.holds / (ordered xs).length := by
  rw [share, (ordered_perm xs).countP_eq, (ordered_perm xs).length_eq]

namespace IsSorted

variable {x : Float} {xs : List Float}

theorem dropWhile (h : IsSorted xs) (p : Float → Bool) : IsSorted (xs.dropWhile p) :=
  ⟨fun x hx => h.isNaN_eq_false x ((List.dropWhile_sublist p).mem hx),
    h.pairwise.sublist (List.dropWhile_sublist p)⟩

theorem tail (h : IsSorted (x :: xs)) : IsSorted xs :=
  ⟨fun z hz => h.isNaN_eq_false z (List.mem_cons_of_mem x hz), h.pairwise.of_cons⟩

theorem head_le (h : IsSorted (x :: xs)) : ∀ z ∈ x :: xs, x ≤ z := by
  intro z hz
  rcases List.mem_cons.mp hz with heq | hmem
  · rw [heq]
    exact Binary64.le_self (h.isNaN_eq_false x List.mem_cons_self)
  · exact List.rel_of_pairwise_cons h.pairwise hmem

end IsSorted

/-- Where nothing of a sample lies lower than a double and the double is above the
    point, the sample is. -/
theorem countP_eq_zero_of_le {low : Float} {xs : List Float} {p : Point}
    (hlow : ∀ z ∈ xs, low ≤ z) (hp : p.holds low = false) : xs.countP p.holds = 0 := by
  refine List.countP_eq_zero.mpr fun z hz hholds => ?_
  rw [p.holds_of_le (hlow z hz) hholds] at hp
  exact Bool.noConfusion hp

/-- The values of a sorted sample at or below a point are those it begins with. -/
theorem IsSorted.length_takeWhile {xs : List Float} (h : IsSorted xs) (p : Point) :
    (xs.takeWhile p.holds).length = xs.countP p.holds := by
  induction xs with
  | nil => rfl
  | cons x xs ih =>
      by_cases hx : p.holds x = true
      · rw [List.takeWhile_cons_of_pos hx, List.countP_cons_of_pos hx, List.length_cons, ih h.tail]
      · rw [List.takeWhile_cons_of_neg hx,
          countP_eq_zero_of_le h.head_le (Bool.eq_false_of_not_eq_true hx), List.length_nil]

/-- What has been passed is counted together with what is left, where everything
    that has been passed counts. -/
theorem countP_eq_add {p q : Float → Bool} (hpq : ∀ z, p z = true → q z = true)
    (xs : List Float) :
    xs.countP q = (xs.takeWhile p).length + (xs.dropWhile p).countP q := by
  have htaken : (xs.takeWhile p).countP q = (xs.takeWhile p).length :=
    List.countP_eq_length.mpr fun z hz => hpq z (List.mem_takeWhile_imp hz)
  rw [← htaken, ← List.countP_append, List.takeWhile_append_dropWhile]

/-- The values that are passed, and those that are left. -/
theorem length_eq_add (p : Float → Bool) (xs : List Float) :
    xs.length = (xs.takeWhile p).length + (xs.dropWhile p).length := by
  rw [← List.length_append, List.takeWhile_append_dropWhile]

/-! ### One step of the walk -/

/-- The point up to which a step of the walk goes: the lower one of the first values. -/
def stepPoint (x y : Float) : Point :=
  Point.ofFloat (Binary64.minNum x y)

section Step

variable {x y : Float} {xs ys : List Float}

/-- The step goes to a value than which nothing that is left lies lower. -/
theorem minNum_le_of_mem (hx : IsSorted (x :: xs)) (hy : IsSorted (y :: ys)) {z : Float}
    (hz : z ∈ x :: xs ∨ z ∈ y :: ys) : Binary64.minNum x y ≤ z := by
  have hnx := hx.isNaN_eq_false x List.mem_cons_self
  have hny := hy.isNaN_eq_false y List.mem_cons_self
  rcases Binary64.minNum_cases hnx hny with ⟨hmin, hle⟩ | ⟨hmin, hle⟩
  · rw [hmin]
    exact hz.elim (hx.head_le z) fun hmem => Binary64.le_of_le_of_le hle (hy.head_le z hmem)
  · rw [hmin]
    exact hz.elim (fun hmem => Binary64.le_of_le_of_le hle (hx.head_le z hmem)) (hy.head_le z)

/-- The step passes the first value of one of the samples. -/
theorem length_dropWhile_lt (hx : IsSorted (x :: xs)) (hy : IsSorted (y :: ys)) :
    ((x :: xs).dropWhile (stepPoint x y).holds).length
        + ((y :: ys).dropWhile (stepPoint x y).holds).length
      < (x :: xs).length + (y :: ys).length := by
  have hnx := hx.isNaN_eq_false x List.mem_cons_self
  have hny := hy.isNaN_eq_false y List.mem_cons_self
  unfold stepPoint
  rcases Binary64.minNum_cases hnx hny with ⟨hmin, -⟩ | ⟨hmin, -⟩
  · rw [hmin]
    have hpass : (Point.ofFloat x).holds x = true := decide_eq_true (Binary64.le_self hnx)
    have hxs := List.length_dropWhile_le (Point.ofFloat x).holds xs
    have hys := List.length_dropWhile_le (Point.ofFloat x).holds (y :: ys)
    rw [List.dropWhile_cons_of_pos hpass, List.length_cons (a := x)]
    omega
  · rw [hmin]
    have hpass : (Point.ofFloat y).holds y = true := decide_eq_true (Binary64.le_self hny)
    have hxs := List.length_dropWhile_le (Point.ofFloat y).holds (x :: xs)
    have hys := List.length_dropWhile_le (Point.ofFloat y).holds ys
    rw [List.dropWhile_cons_of_pos hpass, List.length_cons (a := y)]
    omega

/-- A step counts what it passes, and leaves the rest to the steps after it. -/
theorem mergeCounts_cons (steps i j : Nat) :
    mergeCounts (steps + 1) i j (x :: xs) (y :: ys) =
      let p := (stepPoint x y).holds
      let c := (i + ((x :: xs).takeWhile p).length, j + ((y :: ys).takeWhile p).length)
      c :: mergeCounts steps c.1 c.2 ((x :: xs).dropWhile p) ((y :: ys).dropWhile p) :=
  rfl

end Step

/-! ### The whole walk -/

section Walk

variable {steps i j : Nat} {xs ys : List Float}

theorem mergeCounts_nil : mergeCounts steps i j [] ys = [] := by
  cases steps <;> rfl

theorem mergeCounts_cons_nil {x : Float} : mergeCounts steps i j (x :: xs) [] = [] := by
  cases steps <;> rfl

/-- More steps than there are values make no difference. -/
theorem mergeCounts_of_length_le {k : Nat} (hx : IsSorted xs) (hy : IsSorted ys)
    (h : xs.length + ys.length ≤ steps) (h' : xs.length + ys.length ≤ k) :
    mergeCounts steps i j xs ys = mergeCounts k i j xs ys := by
  -- A step passes at least one value, so the steps that are left are enough for the rest.
  induction steps generalizing k i j xs ys with
  | zero =>
      rw [List.eq_nil_of_length_eq_zero (l := xs) (by omega), mergeCounts_nil, mergeCounts_nil]
  | succ steps ih =>
      cases xs with
      | nil => rw [mergeCounts_nil, mergeCounts_nil]
      | cons x xs =>
          cases ys with
          | nil => rw [mergeCounts_cons_nil, mergeCounts_cons_nil]
          | cons y ys =>
              have hlt := length_dropWhile_lt hx hy
              obtain ⟨k, rfl⟩ : ∃ rest, k = rest + 1 := ⟨k - 1, by omega⟩
              rw [mergeCounts_cons, mergeCounts_cons]
              dsimp only
              rw [ih (hx.dropWhile _) (hy.dropWhile _) (by omega) (k := k) (by omega)]

/-- The walk ends with one sample used up, if there is a step at all. -/
theorem exists_usedUp (hx : IsSorted xs) (hy : IsSorted ys)
    (h : xs.length + ys.length ≤ steps) :
    ∃ c ∈ (i, j) :: mergeCounts steps i j xs ys, c.1 = i + xs.length ∨ c.2 = j + ys.length := by
  induction steps generalizing i j xs ys with
  | zero => exact ⟨(i, j), List.mem_cons_self, Or.inl (by omega)⟩
  | succ steps ih =>
      cases xs with
      | nil => exact ⟨(i, j), List.mem_cons_self, Or.inl rfl⟩
      | cons x xs =>
          cases ys with
          | nil => exact ⟨(i, j), List.mem_cons_self, Or.inr rfl⟩
          | cons y ys =>
              have hlt := length_dropWhile_lt hx hy
              have hxs := length_eq_add (stepPoint x y).holds (x :: xs)
              have hys := length_eq_add (stepPoint x y).holds (y :: ys)
              -- The sample that is used up by the rest is used up as a whole.
              obtain ⟨c, hc, hused⟩ := ih (hx.dropWhile (stepPoint x y).holds)
                (hy.dropWhile (stepPoint x y).holds) (by omega)
              refine ⟨c, List.mem_cons_of_mem _ (by rw [mergeCounts_cons]; exact hc), ?_⟩
              omega

/-- Every step of the walk counts the values at or below some double. -/
theorem exists_eq_countP (hx : IsSorted xs) (hy : IsSorted ys) {c : Nat × Nat}
    (hc : c ∈ mergeCounts steps i j xs ys) :
    ∃ z : Float, (z ∈ xs ∨ z ∈ ys) ∧
      c = (i + xs.countP (Point.ofFloat z).holds, j + ys.countP (Point.ofFloat z).holds) := by
  induction steps generalizing i j xs ys with
  | zero => exact nomatch hc
  | succ steps ih =>
      cases xs with
      | nil => exact nomatch hc
      | cons x xs =>
          cases ys with
          | nil => exact nomatch hc
          | cons y ys =>
              rw [mergeCounts_cons, List.mem_cons] at hc
              rcases hc with heq | hmem
              · refine ⟨Binary64.minNum x y, ?_, ?_⟩
                · have hnx := hx.isNaN_eq_false x List.mem_cons_self
                  have hny := hy.isNaN_eq_false y List.mem_cons_self
                  rcases Binary64.minNum_cases hnx hny with ⟨hmin, -⟩ | ⟨hmin, -⟩
                  · exact Or.inl (by rw [hmin]; exact List.mem_cons_self)
                  · exact Or.inr (by rw [hmin]; exact List.mem_cons_self)
                · rw [heq, hx.length_takeWhile, hy.length_takeWhile, stepPoint]
              · obtain ⟨z, hz, heq⟩ := ih (hx.dropWhile _) (hy.dropWhile _) hmem
                have hz' : z ∈ x :: xs ∨ z ∈ y :: ys :=
                  hz.imp (List.dropWhile_sublist _).mem (List.dropWhile_sublist _).mem
                -- What this step has passed lies below the later value too.
                have hbelow : ∀ w, (stepPoint x y).holds w = true →
                    (Point.ofFloat z).holds w = true := by
                  intro w hw
                  refine (Point.ofFloat z).holds_of_le (of_decide_eq_true hw) ?_
                  exact decide_eq_true (minNum_le_of_mem hx hy hz')
                refine ⟨z, hz', ?_⟩
                rw [heq, countP_eq_add hbelow (x :: xs), countP_eq_add hbelow (y :: ys),
                  Nat.add_assoc, Nat.add_assoc]

/-- Whether a step of the walk, or its start, shows at least the gap of a point that has
    so many of all the values at or below it: its counts are those of the point, or one
    sample is used up and the other one further behind than at the point. -/
def Bounds (n m a b : Nat) (c : Nat × Nat) : Prop :=
  (c.1 = a ∧ c.2 = b) ∨ (c.1 = a ∧ a = n ∧ c.2 ≤ b) ∨ (c.2 = b ∧ b = m ∧ c.1 ≤ a)

/-- Every point has a step that shows at least its gap. Steps up to the point pass only
    what lies at or below it; the next step would go beyond it, or there is none. -/
theorem exists_bounds (hx : IsSorted xs) (hy : IsSorted ys)
    (h : xs.length + ys.length ≤ steps) (p : Point) :
    ∃ c ∈ (i, j) :: mergeCounts steps i j xs ys,
      Bounds (i + xs.length) (j + ys.length) (i + xs.countP p.holds) (j + ys.countP p.holds) c := by
  induction steps generalizing i j xs ys with
  | zero =>
      refine ⟨(i, j), List.mem_cons_self, ?_⟩
      rw [List.eq_nil_of_length_eq_zero (l := xs) (by omega),
        List.eq_nil_of_length_eq_zero (l := ys) (by omega)]
      exact Or.inl ⟨rfl, rfl⟩
  | succ steps ih =>
      cases xs with
      | nil => exact ⟨(i, j), List.mem_cons_self, Or.inr (Or.inl ⟨rfl, rfl, Nat.le_add_right _ _⟩)⟩
      | cons x xs =>
          cases ys with
          | nil =>
              exact ⟨(i, j), List.mem_cons_self, Or.inr (Or.inr ⟨rfl, rfl, Nat.le_add_right _ _⟩)⟩
          | cons y ys =>
              by_cases hp : p.holds (Binary64.minNum x y) = true
              · have hbelow : ∀ w, (stepPoint x y).holds w = true →
                    p.holds w = true :=
                  fun w hw => p.holds_of_le (of_decide_eq_true hw) hp
                have hlt := length_dropWhile_lt hx hy
                -- What the step passes is counted at the point, so the rest of the walk
                -- and the rest of the point's counts go together.
                obtain ⟨c, hc, hbounds⟩ := ih (hx.dropWhile (stepPoint x y).holds)
                  (hy.dropWhile (stepPoint x y).holds) (by omega)
                refine ⟨c, List.mem_cons_of_mem _ (by rw [mergeCounts_cons]; exact hc), ?_⟩
                rw [Nat.add_assoc, Nat.add_assoc, Nat.add_assoc, Nat.add_assoc,
                  ← countP_eq_add hbelow, ← countP_eq_add hbelow, ← length_eq_add,
                  ← length_eq_add] at hbounds
                exact hbounds
              · -- Nothing that is left lies at or below the point.
                have hp' := Bool.eq_false_of_not_eq_true hp
                refine ⟨(i, j), List.mem_cons_self, Or.inl ?_⟩
                rw [countP_eq_zero_of_le (fun z hz => minNum_le_of_mem hx hy (Or.inl hz)) hp',
                  countP_eq_zero_of_le (fun z hz => minNum_le_of_mem hx hy (Or.inr hz)) hp']
                exact ⟨rfl, rfl⟩

end Walk

/-! ### The gap -/

section Gap

variable {n m a b : Nat}

theorem gap_exact (n m : Nat) (c : Nat × Nat) :
    gap .exact n m c = |(c.1 : ℚ) / n - (c.2 : ℚ) / m| :=
  rfl

/-- The gap does not depend on which sample is named first, if distances do not. -/
theorem gap_swap {α : Type} [Sub α] [Div α] {ar : GapArithmetic α}
    (hcomm : ∀ a b : α, ar.abs (a - b) = ar.abs (b - a)) (n m : Nat) (c : Nat × Nat) :
    gap ar m n c.swap = gap ar n m c :=
  hcomm _ _

theorem share_mem_unit (ha : a ≤ n) : (0 : ℚ) ≤ a / n ∧ (a : ℚ) / n ≤ 1 :=
  ⟨by positivity, div_le_one_of_le₀ (by exact_mod_cast ha) (by positivity)⟩

theorem gap_le_one (ha : a ≤ n) (hb : b ≤ m) : gap .exact n m (a, b) ≤ 1 := by
  obtain ⟨ha0, ha1⟩ := share_mem_unit ha
  obtain ⟨hb0, hb1⟩ := share_mem_unit hb
  rw [gap_exact]
  exact abs_sub_le_iff.mpr ⟨by linarith, by linarith⟩

/-- Once a sample is used up the gap shrinks as the other one catches up. -/
theorem gap_usedUp_le (hn : 0 < n) {k : Nat} (hkb : k ≤ b) (hb : b ≤ m) :
    gap .exact n m (n, b) ≤ gap .exact n m (n, k) := by
  have hfull : (n : ℚ) / n = 1 := div_self (by positivity)
  have hb1 := (share_mem_unit hb).2
  have hk1 := (share_mem_unit (hkb.trans hb)).2
  have hle : (k : ℚ) / m ≤ b / m := by gcongr
  rw [gap_exact, gap_exact, hfull, abs_of_nonneg (by linarith), abs_of_nonneg (by linarith)]
  linarith

theorem Bounds.gap_le {c : Nat × Nat} (h : Bounds n m a b c) (hn : 0 < n) (hm : 0 < m)
    (ha : a ≤ n) (hb : b ≤ m) : gap .exact n m (a, b) ≤ gap .exact n m c := by
  obtain ⟨k, l⟩ := c
  rcases h with ⟨rfl, rfl⟩ | ⟨rfl, rfl, hle⟩ | ⟨rfl, rfl, hle⟩
  · exact le_refl _
  · exact gap_usedUp_le hn hle hb
  · rw [← gap_swap abs_sub_comm, ← gap_swap abs_sub_comm n]
    exact gap_usedUp_le hm hle ha

/-- Folding up the maximum gives the greatest of the values and the start. -/
theorem isGreatest_foldl_max (gaps : List ℚ) (start : ℚ) :
    IsGreatest {d | d = start ∨ d ∈ gaps} (gaps.foldl max start) := by
  induction gaps generalizing start with
  | nil => exact ⟨Or.inl rfl, fun d hd => (hd.resolve_right List.not_mem_nil).le⟩
  | cons gap gaps ih =>
      -- The rest is folded from the larger one of the two.
      obtain ⟨hmem, hupper⟩ := ih (max start gap)
      have hstart : max start gap ≤ (gap :: gaps).foldl max start := hupper (Or.inl rfl)
      constructor
      · rcases hmem with heq | hmem
        · rw [List.foldl_cons, heq]
          rcases max_choice start gap with h | h
          · exact Or.inl h
          · exact Or.inr (by rw [h]; exact List.mem_cons_self)
        · exact Or.inr (List.mem_cons_of_mem _ hmem)
      · rintro d (heq | hd)
        · rw [heq]
          exact (le_max_left _ _).trans hstart
        · rcases List.mem_cons.mp hd with heq | hd
          · rw [heq]
            exact (le_max_right _ _).trans hstart
          · exact hupper (Or.inr hd)

end Gap

section Statistic

variable {xs ys : List Float} {c : Nat × Nat}

theorem statistic_exact (xs ys : List Float) :
    statistic .exact xs ys =
      ((counts xs ys).map (gap .exact xs.length ys.length)).foldl max 0 := by
  have hzero : GapArithmetic.exact.ofNat 0 = 0 := Nat.cast_zero
  rw [statistic, hzero]
  rfl

theorem gap_le_statistic (hc : c ∈ (0, 0) :: counts xs ys) :
    gap .exact xs.length ys.length c ≤ statistic .exact xs ys := by
  rw [statistic_exact]
  refine (isGreatest_foldl_max _ 0).2 ?_
  rcases List.mem_cons.mp hc with heq | hmem
  · exact Or.inl (by rw [heq]; simp [gap_exact])
  · exact Or.inr (List.mem_map_of_mem hmem)

/-- Where neither sample is empty there is a last step, and one sample is used up by it. -/
theorem exists_mem_counts (hx : IsSorted xs) (hy : IsSorted ys) (hn : 0 < xs.length)
    (hm : 0 < ys.length) : ∃ c ∈ counts xs ys, c.1 = xs.length ∨ c.2 = ys.length := by
  obtain ⟨c, hc, hused⟩ := exists_usedUp (i := 0) (j := 0) hx hy (le_refl _)
  rw [Nat.zero_add, Nat.zero_add] at hused
  refine ⟨c, (List.mem_cons.mp hc).resolve_left fun heq => ?_, hused⟩
  rw [heq] at hused
  omega

/-- The statistic is the gap of a step. -/
theorem exists_statistic_eq (hx : IsSorted xs) (hy : IsSorted ys) (hn : 0 < xs.length)
    (hm : 0 < ys.length) :
    ∃ c ∈ counts xs ys, statistic .exact xs ys = gap .exact xs.length ys.length c := by
  rcases (isGreatest_foldl_max ((counts xs ys).map (gap .exact xs.length ys.length)) 0).1 with
    hzero | hmem
  · -- No step has a gap then, and any will do.
    obtain ⟨c, hc, -⟩ := exists_mem_counts hx hy hn hm
    have hle := gap_le_statistic (List.mem_cons_of_mem (0, 0) hc)
    rw [← statistic_exact] at hzero
    exact ⟨c, hc, le_antisymm (hzero.le.trans (abs_nonneg _)) hle⟩
  · obtain ⟨c, hc, heq⟩ := List.mem_map.mp hmem
    exact ⟨c, hc, (statistic_exact xs ys).trans heq.symm⟩

/-- After the walk no gap is larger than the statistic. -/
theorem gap_le_of_usedUp (hn : 0 < xs.length) (hm : 0 < ys.length)
    (hc : c ∈ counts xs ys) {i j : Nat} (hi : c.1 ≤ i) (hin : i ≤ xs.length) (hj : c.2 ≤ j)
    (hjm : j ≤ ys.length) (hused : c.1 = xs.length ∨ c.2 = ys.length) :
    gap .exact xs.length ys.length (i, j) ≤ statistic .exact xs ys := by
  refine le_trans (Bounds.gap_le ?_ hn hm hin hjm)
    (gap_le_statistic (List.mem_cons_of_mem _ hc))
  rcases hused with hused | hused
  · exact Or.inr (Or.inl ⟨by omega, by omega, hj⟩)
  · exact Or.inr (Or.inr ⟨by omega, by omega, hi⟩)

/-- The gaps of the walk along two sorted samples, each of them computed in doubles. -/
def roundedGaps (xs ys : List Float) : List Float :=
  (counts xs ys).map fun c =>
    (Float.ofNat c.1 / Float.ofNat xs.length - Float.ofNat c.2 / Float.ofNat ys.length).abs

/-- Whether a double is the largest gap of the walk along two sorted samples, computed in
    doubles. The search for it begins with zero, and a gap that is no number is passed
    over. -/
structure IsLargestGap (xs ys : List Float) (d : Float) : Prop where
  mem : d ∈ 0 :: roundedGaps xs ys
  nonneg : 0 ≤ d
  le : ∀ g ∈ roundedGaps xs ys, g.isNaN = false → g ≤ d

/-- With doubles the statistic is the largest of the gaps in doubles. -/
theorem isLargestGap_statistic (xs ys : List Float) :
    IsLargestGap xs ys (statistic .binary64 xs ys) :=
  have hzero := Binary64.isMagnitude_zero.isNaN_eq_false
  ⟨Binary64.foldl_maxNum_mem _ 0, (Binary64.le_foldl_maxNum hzero).1,
    (Binary64.le_foldl_maxNum hzero).2⟩

/-- How the walk along two sorted samples ends: with one of them used up, by itself and
    not for want of steps, and when no gap could be larger than those it has seen. -/
structure WalkEnds (xs ys : List Float) : Prop where
  enough : ∀ steps, xs.length + ys.length ≤ steps → mergeCounts steps 0 0 xs ys = counts xs ys
  usedUp : ∃ c ∈ counts xs ys, c.1 = xs.length ∨ c.2 = ys.length
  after : ∀ c ∈ counts xs ys, c.1 = xs.length ∨ c.2 = ys.length →
    ∀ i j, c.1 ≤ i → i ≤ xs.length → c.2 ≤ j → j ≤ ys.length →
      gap .exact xs.length ys.length (i, j) ≤ statistic .exact xs ys

theorem walkEnds (hx : IsSorted xs) (hy : IsSorted ys) (hn : 0 < xs.length)
    (hm : 0 < ys.length) : WalkEnds xs ys where
  enough _ hle := mergeCounts_of_length_le hx hy hle (le_refl _)
  usedUp := exists_mem_counts hx hy hn hm
  after _ hc hused _ _ hi hin hj hjm := gap_le_of_usedUp hn hm hc hi hin hj hjm hused

end Statistic

/-! ### The largest gap -/

/-- How far the empirical distribution functions of two samples are apart at a point. -/
def gapAt (xs ys : List Float) (p : Point) : ℚ :=
  |share xs p - share ys p|

section Samples

variable {xs ys : List Float}

theorem gapAt_eq (xs ys : List Float) (p : Point) :
    gapAt xs ys p = gap .exact (ordered xs).length (ordered ys).length
      ((ordered xs).countP p.holds, (ordered ys).countP p.holds) := by
  rw [gapAt, share_eq, share_eq, gap_exact]

theorem gapAt_mem_unit (xs ys : List Float) (p : Point) :
    0 ≤ gapAt xs ys p ∧ gapAt xs ys p ≤ 1 := by
  rw [gapAt_eq]
  exact ⟨abs_nonneg _, gap_le_one List.countP_le_length List.countP_le_length⟩

theorem gapAt_le_statistic (hxs : ∃ x ∈ xs, x.isNaN = false)
    (hys : ∃ y ∈ ys, y.isNaN = false) (p : Point) :
    gapAt xs ys p ≤ statistic .exact (ordered xs) (ordered ys) := by
  obtain ⟨c, hc, hbounds⟩ :=
    exists_bounds (i := 0) (j := 0) (isSorted_ordered xs) (isSorted_ordered ys) (le_refl _) p
  simp only [Nat.zero_add] at hbounds
  have hle := hbounds.gap_le (ordered_length_pos hxs) (ordered_length_pos hys)
    List.countP_le_length List.countP_le_length
  rw [gapAt_eq]
  exact hle.trans (gap_le_statistic hc)

/-- The gap is the largest at the double that some step goes to. -/
theorem exists_gapAt_eq (hxs : ∃ x ∈ xs, x.isNaN = false) (hys : ∃ y ∈ ys, y.isNaN = false) :
    ∃ x : Float, x.isNaN = false ∧
      gapAt xs ys (.ofFloat x) = statistic .exact (ordered xs) (ordered ys) := by
  have ha := isSorted_ordered xs
  have hb := isSorted_ordered ys
  obtain ⟨c, hc, heq⟩ :=
    exists_statistic_eq ha hb (ordered_length_pos hxs) (ordered_length_pos hys)
  obtain ⟨x, hx, hcount⟩ := exists_eq_countP ha hb hc
  rw [Nat.zero_add, Nat.zero_add] at hcount
  refine ⟨x, hx.elim (ha.isNaN_eq_false x) (hb.isNaN_eq_false x), ?_⟩
  rw [gapAt_eq, heq, hcount]

theorem compareSamples?_eq_some (hxs : ∃ x ∈ xs, x.isNaN = false)
    (hys : ∃ y ∈ ys, y.isNaN = false) :
    compareSamples? xs ys = some ⟨statistic .binary64 (ordered xs) (ordered ys),
      pValue (ordered xs).length (ordered ys).length
        (statistic .binary64 (ordered xs) (ordered ys))⟩ := by
  have ha : (ordered xs).isEmpty = false :=
    List.isEmpty_eq_false_iff.mpr (List.length_pos_iff.mp (ordered_length_pos hxs))
  have hb : (ordered ys).isEmpty = false :=
    List.isEmpty_eq_false_iff.mpr (List.length_pos_iff.mp (ordered_length_pos hys))
  unfold compareSamples?
  dsimp only
  rw [if_neg]
  rw [ha, hb]
  exact Bool.false_ne_true

/-- The statistic of two samples is the largest gap between their empirical distribution
    functions, which there is a double for, and what is given is the same statistic with
    every gap rounded. The walk that finds it ends by itself with a sample used up, and no
    gap after its end could be larger. -/
theorem compareSamples_isGreatest (hxs : ∃ x ∈ xs, x.isNaN = false)
    (hys : ∃ y ∈ ys, y.isNaN = false) :
    compareSamples? xs ys = some ⟨statistic .binary64 (ordered xs) (ordered ys),
        pValue (ordered xs).length (ordered ys).length
          (statistic .binary64 (ordered xs) (ordered ys))⟩
      ∧ IsLargestGap (ordered xs) (ordered ys) (statistic .binary64 (ordered xs) (ordered ys))
      ∧ WalkEnds (ordered xs) (ordered ys)
      ∧ IsGreatest (Set.range (gapAt xs ys)) (statistic .exact (ordered xs) (ordered ys))
      ∧ (∃ x : Float, x.isNaN = false ∧
          gapAt xs ys (.ofFloat x) = statistic .exact (ordered xs) (ordered ys))
      ∧ 0 ≤ statistic .exact (ordered xs) (ordered ys)
      ∧ statistic .exact (ordered xs) (ordered ys) ≤ 1 := by
  have hends : WalkEnds (ordered xs) (ordered ys) :=
    walkEnds (isSorted_ordered xs) (isSorted_ordered ys) (ordered_length_pos hxs)
      (ordered_length_pos hys)
  obtain ⟨x, hx, hattained⟩ := exists_gapAt_eq hxs hys
  have hunit := gapAt_mem_unit xs ys (.ofFloat x)
  rw [hattained] at hunit
  refine ⟨compareSamples?_eq_some hxs hys, isLargestGap_statistic _ _, hends,
    ⟨⟨_, hattained⟩, ?_⟩, ⟨x, hx, hattained⟩, hunit⟩
  rintro d ⟨p, rfl⟩
  exact gapAt_le_statistic hxs hys p

end Samples

/-- Numbers with an infinity and a negative zero, and a NaN among them. -/
private def oddSample : List Float :=
  [Float.ofBits 0xfff0000000000000, Float.ofBits 0x8000000000000000,
    Float.ofBits 0x7ff8000000000000, Float.ofNat 1]

/-- Two of a positive zero, and an infinity. -/
private def tiedSample : List Float :=
  [Float.ofNat 0, Float.ofNat 0, Float.ofBits 0x7ff0000000000000]

private theorem counts_tied :
    ordered oddSample = numbersOf oddSample ∧ ordered tiedSample = numbersOf tiedSample ∧
      counts (numbersOf oddSample) (numbersOf tiedSample) = [(1, 0), (2, 2), (3, 2)] :=
  ⟨List.mergeSort_of_pairwise (by decide), List.mergeSort_of_pairwise (by decide), by decide⟩

/-- The zeros tie across the samples, whatever their signs. Of the two gaps of a third, the
    one that is rounded up is given. -/
theorem compareSamples_isGreatest_tied :
    (∃ x ∈ oddSample, x.isNaN = false) ∧ (∃ y ∈ tiedSample, y.isNaN = false) ∧
      IsGreatest (Set.range (gapAt oddSample tiedSample)) (1 / 3) ∧
      (compareSamples? oddSample tiedSample).map (·.statistic) = some 0.33333333333333337 := by
  have hodd : ∃ x ∈ oddSample, x.isNaN = false :=
    ⟨Float.ofNat 1, by simp [oddSample], by decide⟩
  have htied : ∃ y ∈ tiedSample, y.isNaN = false :=
    ⟨Float.ofNat 0, by simp [tiedSample], by decide⟩
  obtain ⟨hgiven, -, -, hgreatest, -⟩ := compareSamples_isGreatest hodd htied
  obtain ⟨hx, hy, hcounts⟩ := counts_tied
  have hn : (numbersOf oddSample).length = 3 := by decide
  have hm : (numbersOf tiedSample).length = 3 := by decide
  have hexact : statistic .exact (ordered oddSample) (ordered tiedSample) = 1 / 3 := by
    rw [hx, hy, statistic_exact, hcounts, hn, hm]
    norm_num [gap_exact]
  have hrounded :
      statistic .binary64 (ordered oddSample) (ordered tiedSample) = 0.33333333333333337 := by
    rw [hx, hy, statistic, hcounts, hn, hm]
    decide +kernel
  rw [hexact] at hgreatest
  rw [hrounded] at hgiven
  exact ⟨hodd, htied, hgreatest, by rw [hgiven]; rfl⟩

end KolmogorovSmirnov

end Concordance
