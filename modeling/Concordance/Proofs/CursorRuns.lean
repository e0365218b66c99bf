import Concordance.Proofs.CaseSequence

/-!
# Whatever Is Done with a Cursor

A cursor is a number, whatever is done with it.

All that a cursor knows is how many cases are behind it. What it answers can therefore be
said of the number alone, without a word about how cases are made and passed over: the
next case is the one at this number, a case further on is the one at a larger number, and
past the last case there is nothing and the number stays. `Generator.serveAt` says this
much, and a run of requests to a cursor is a run of the same requests to a number.

Copies may be kept of a cursor and taken up again at any time. This is the same for
cursors and for numbers, so `Bench` does it once for both, and what is known of one
request to a cursor carries over to runs.

## Main definitions

* `Cursor.Move`, `Cursor.Request`: What is asked of a cursor, and of it with its copies.
* `Cursor.Answer`: What is answered.
* `Cursor.Bench`: A cursor with the copies that were kept.
* `Cursor.serve`, `Generator.serveAt`: One request, to a cursor and to a number.

## Theorems

* `Cursor.Bench.run_map`: Runs that correspond request by request correspond.
* `Cursor.nth_mk`: The case at some distance.
* `Cursor.serve_mk`: One request to a cursor is one to its number.
* `Cursor.Bench.run_of_atEnd`: Behind the last case there is nothing more.
* `Generator.run_requests`: Runs of requests to a cursor.
-/

namespace Concordance

namespace Cursor

/-- What is asked of a cursor. -/
inductive Move where
  | next
  | nth (k : Nat)
  | sizeHint
  | length
  | restart

/-- What is asked of a cursor and of the copies that were kept of it. -/
inductive Request where
  | move (m : Move)
  | save
  | restore (i : Nat)

/-- Whether the cursor goes on from where it is. -/
def Request.GoesOn : Request → Prop
  | .move .restart => False
  | .restore _ => False
  | _ => True

/-- What is answered. -/
inductive Answer where
  | case (found : Option Case)
  | bounds (lower : Nat) (upper : Option Nat)
  | length (n : Option Nat)
  | done

/-- A cursor, or what stands for one, with the copies that were kept of it. -/
structure Bench (α : Type) where
  current : α
  saved : List α

namespace Bench

variable {α β : Type}

/-- The cursor and its copies. -/
def all (b : Bench α) : List α :=
  b.current :: b.saved

/-- Something else in the place of the cursor and of its copies. -/
def map (f : α → β) (b : Bench α) : Bench β :=
  ⟨f b.current, b.saved.map f⟩

/-- One request. Where no copy was kept, none is taken up. -/
def step (serve : α → Move → Answer × α) (b : Bench α) : Request → Answer × Bench α
  | .move m => ((serve b.current m).1, { b with current := (serve b.current m).2 })
  | .save => (.done, { b with saved := b.saved ++ [b.current] })
  | .restore i => (.done, { b with current := b.saved.getD i b.current })

/-- Requests, one after another. -/
def run (serve : α → Move → Answer × α) (b : Bench α) : List Request → List Answer × Bench α
  | [] => ([], b)
  | r :: rs =>
    let (answer, b') := b.step serve r
    let (answers, b'') := b'.run serve rs
    (answer :: answers, b'')

section

variable {serve : α → Move → Answer × α} {serve' : β → Move → Answer × β} {f : β → α}
  {P : β → Prop}
  (hserve : ∀ b m, P b → serve (f b) m = ((serve' b m).1, f (serve' b m).2) ∧ P (serve' b m).2)

include hserve

theorem step_map {b : Bench β} (hb : ∀ x ∈ b.all, P x) (r : Request) :
    (b.map f).step serve r = ((b.step serve' r).1, (b.step serve' r).2.map f) ∧
      ∀ x ∈ (b.step serve' r).2.all, P x := by
  obtain ⟨hcurrent, hsaved⟩ := List.forall_mem_cons.mp hb
  cases r with
  | move m =>
    obtain ⟨heq, hnext⟩ := hserve b.current m hcurrent
    refine ⟨?_, List.forall_mem_cons.mpr ⟨hnext, hsaved⟩⟩
    change ((serve (f b.current) m).1, Bench.mk (serve (f b.current) m).2 (b.saved.map f)) = _
    rw [heq]
    rfl
  | save =>
    refine ⟨?_, List.forall_mem_cons.mpr ⟨hcurrent, ?_⟩⟩
    · unfold step map
      rw [List.map_append, List.map_singleton]
    · exact List.forall_mem_append.mpr ⟨hsaved, List.forall_mem_singleton.mpr hcurrent⟩
  | restore i =>
    refine ⟨?_, List.forall_mem_cons.mpr ⟨?_, hsaved⟩⟩
    · change (Answer.done, Bench.mk ((b.saved.map f).getD i (f b.current)) (b.saved.map f)) = _
      rw [List.getD_map]
      rfl
    · change P (b.saved.getD i b.current)
      rcases lt_or_ge i b.saved.length with hlt | hge
      · rw [List.getD_eq_getElem _ _ hlt]
        exact hsaved _ (List.getElem_mem hlt)
      · rwa [List.getD_eq_default _ _ hge]

/-- Runs correspond if each request to the one is answered like the same request to the
    other and leads to what corresponds to it. -/
theorem run_map {b : Bench β} (hb : ∀ x ∈ b.all, P x) (rs : List Request) :
    (b.map f).run serve rs = ((b.run serve' rs).1, (b.run serve' rs).2.map f) ∧
      ∀ x ∈ (b.run serve' rs).2.all, P x := by
  -- The condition is kept of the copies too, as a later request may take one of them up.
  induction rs generalizing b with
  | nil => exact ⟨rfl, hb⟩
  | cons r rs ih =>
    obtain ⟨hstep, hnext⟩ := step_map hserve hb r
    obtain ⟨hrun, hlast⟩ := ih hnext
    refine ⟨?_, hlast⟩
    unfold run
    rw [hstep]
    dsimp only
    rw [hrun]

end

end Bench

/-! ### Cursors -/

/-- One request to a cursor. -/
def serve (c : Cursor) : Move → Answer × Cursor
  | .next => (.case c.next.1, c.next.2)
  | .nth k => (.case (c.nth k).1, (c.nth k).2)
  | .sizeHint => (.bounds c.sizeHint.1 c.sizeHint.2, c)
  | .length => (.length c.length?, c)
  | .restart => (.done, ofGenerator c.generator)

end Cursor

/-- One request to a number of cases that are passed. -/
def Generator.serveAt (g : Generator) (n : Nat) : Cursor.Move → Cursor.Answer × Nat
  | .next => (.case (g.case? n), if n < g.size then n + 1 else n)
  | .nth k => (.case (g.case? (n + k)), min g.size (n + k + 1))
  | .sizeHint => (.bounds (g.size - n) (some (g.size - n)), n)
  | .length => (.length (some (g.size - n)), n)
  | .restart => (.done, 0)

namespace Cursor

theorem length?_eq (c : Cursor) : c.length? = some c.remaining :=
  if_pos rfl

theorem next_eq_none_iff {c : Cursor} : c.next.1 = none ↔ c.generator.size ≤ c.position := by
  rcases lt_or_ge c.position c.generator.size with hlt | hge
  · rw [next_of_lt hlt]
    exact iff_of_false nofun hlt.not_ge
  · rw [next_of_le hge]
    exact iff_of_true rfl hge

variable {g : Generator} {n : Nat}

theorem next_mk (n : Nat) :
    next ⟨g, n⟩ = (g.case? n, ⟨g, if n < g.size then n + 1 else n⟩) := by
  rcases lt_or_ge n g.size with hlt | hge
  · rw [next_of_lt hlt, Generator.case?_of_lt hlt, if_pos hlt]
  · rw [next_of_le hge, Generator.case?_of_le hge, if_neg hge.not_gt]

/-- Past the last case there is nothing at any distance, and the cursor stays. -/
theorem nth_of_size_le (hn : g.size ≤ n) (k : Nat) : nth ⟨g, n⟩ k = (none, ⟨g, n⟩) := by
  cases k with
  | zero => exact next_of_le hn
  | succ k =>
    unfold nth
    rw [next_of_le hn]

/-- The case at some distance is the one at a larger number, which may be too large. -/
theorem nth_mk (hn : n ≤ g.size) (k : Nat) :
    nth ⟨g, n⟩ k = (g.case? (n + k), ⟨g, min g.size (n + k + 1)⟩) := by
  induction k generalizing n with
  | zero =>
    unfold nth
    rw [next_mk, Nat.add_zero]
    congr 2
    split <;> omega
  | succ k ih =>
    rcases lt_or_ge n g.size with hlt | hge
    · unfold nth
      rw [next_of_lt hlt]
      dsimp only
      rw [ih hlt, Nat.add_right_comm n 1 k, Nat.add_assoc n k 1]
    · -- The number stays, which is the minimum only as it is not beyond the end.
      rw [nth_of_size_le hge, Generator.case?_of_le (by omega), Nat.min_eq_left (by omega),
        hge.antisymm hn]

/-- One request to a cursor is one to the number of cases behind it, which stays among the
    numbers of cases that there are. -/
theorem serve_mk (n : Nat) (m : Move) (hn : n ≤ g.size) :
    serve ⟨g, n⟩ m = ((g.serveAt n m).1, ⟨g, (g.serveAt n m).2⟩) ∧ (g.serveAt n m).2 ≤ g.size := by
  cases m with
  | next =>
    refine ⟨?_, ?_⟩
    · change (Answer.case (next ⟨g, n⟩).1, (next ⟨g, n⟩).2) = _
      rw [next_mk]
      rfl
    · change (if n < g.size then n + 1 else n) ≤ g.size
      split <;> omega
  | nth k =>
    refine ⟨?_, Nat.min_le_left _ _⟩
    change (Answer.case (nth ⟨g, n⟩ k).1, (nth ⟨g, n⟩ k).2) = _
    rw [nth_mk hn]
    rfl
  | sizeHint => exact ⟨rfl, hn⟩
  | length =>
    refine ⟨?_, hn⟩
    change (Answer.length (length? ⟨g, n⟩), Cursor.mk g n) = _
    rw [length?_eq]
    rfl
  | restart => exact ⟨rfl, Nat.zero_le _⟩

/-- Behind the last case a request for a case is answered with none, and the cursor stays
    unless it is told to go back. -/
theorem Bench.step_of_atEnd {b : Bench Cursor} (hend : b.current.generator.size ≤ b.current.position)
    {r : Request} (hr : r.GoesOn) :
    (b.step serve r).2.current = b.current ∧
      ∀ found, (b.step serve r).1 = .case found → found = none := by
  obtain ⟨⟨g, n⟩, saved⟩ := b
  cases r with
  | move m =>
    cases m with
    | next =>
      change (next ⟨g, n⟩).2 = _ ∧ ∀ found, Answer.case (next ⟨g, n⟩).1 = _ → _
      rw [next_of_le hend]
      exact ⟨rfl, fun found hfound => (Answer.case.inj hfound).symm⟩
    | nth k =>
      change (nth ⟨g, n⟩ k).2 = _ ∧ ∀ found, Answer.case (nth ⟨g, n⟩ k).1 = _ → _
      rw [nth_of_size_le hend]
      exact ⟨rfl, fun found hfound => (Answer.case.inj hfound).symm⟩
    | sizeHint | length => exact ⟨rfl, nofun⟩
    | restart => exact hr.elim
  | save => exact ⟨rfl, nofun⟩
  | restore i => exact hr.elim

theorem Bench.run_of_atEnd {b : Bench Cursor} (hend : b.current.generator.size ≤ b.current.position)
    {rs : List Request} (hrs : ∀ r ∈ rs, r.GoesOn) {found : Option Case}
    (hfound : .case found ∈ (b.run serve rs).1) : found = none := by
  induction rs generalizing b with
  | nil => exact nomatch hfound
  | cons r rs ih =>
    rw [List.forall_mem_cons] at hrs
    obtain ⟨hcurrent, hanswer⟩ := step_of_atEnd hend hrs.1
    rcases List.mem_cons.mp hfound with heq | hmem
    · exact hanswer found heq.symm
    · -- The cursor did not move, so it is still at the end for the other requests.
      rw [← hcurrent] at hend
      exact ih hend hrs.2 hmem

theorem length_ahead (c : Cursor) : c.ahead.length = c.remaining := by
  unfold ahead remaining
  rw [List.length_drop, Generator.length_cases]

end Cursor

namespace Generator

open Cursor (Bench Request Answer)

/-- Whatever is asked of a cursor and of its copies, the answers are those of a number that
    counts the cases behind it. No number is beyond the number of cases, the lengths are the
    numbers of cases that are still to come, and where there is no next case there is none
    any more, unless the cursor is told to go back. -/
theorem run_requests (g : Generator) (rs : List Request) :
    let cursors := Bench.run Cursor.serve ⟨.ofGenerator g, []⟩ rs
    let numbers := Bench.run g.serveAt ⟨0, []⟩ rs
    cursors.1 = numbers.1 ∧ cursors.2 = numbers.2.map (Cursor.mk g) ∧
    (∀ c ∈ cursors.2.all, c.position ≤ g.size ∧ c.length? = some (g.size - c.position) ∧
      ∃ cs, c.Yields cs ∧ cs.length = g.size - c.position) ∧
    (cursors.2.current.next.1 = none → ∀ more, (∀ r ∈ more, r.GoesOn) →
      ∀ found, .case found ∈ (cursors.2.run Cursor.serve more).1 → found = none) := by
  intro cursors numbers
  have hstart : ∀ n ∈ (⟨0, []⟩ : Bench Nat).all, n ≤ g.size :=
    List.forall_mem_singleton.mpr (Nat.zero_le _)
  obtain ⟨hrun, hbounds⟩ := Bench.run_map Cursor.serve_mk hstart rs
  have hrun : cursors = (numbers.1, numbers.2.map (Cursor.mk g)) := hrun
  rw [hrun]
  refine ⟨rfl, rfl, fun c hc => ?_, fun hnone more hmore found => ?_⟩
  · obtain ⟨n, hn, rfl⟩ := List.mem_map.mp (show c ∈ numbers.2.all.map (Cursor.mk g) from hc)
    exact ⟨hbounds n hn, Cursor.length?_eq _, _, Cursor.yields_ahead _, Cursor.length_ahead _⟩
  · exact Cursor.Bench.run_of_atEnd (Cursor.next_eq_none_iff.mp hnone) hmore

end Generator

end Concordance
