import Concordance.Proofs.CertificateLines

/-!
# Rows of Failures

How much of a certificate an output can take.

A failure is to stand in one row of five cells, and two of them quote outputs. A cell puts a
backslash before each bar and a blank in place of each line feed. This leaves two ways out. A
backslash that stands before a bar already makes one of the two backslashes escape the other,
and then the bar ends the cell. And a carriage return ends the line. An output without either
keeps its place, whatever else is in it.

The cells of a line are told apart from left to right, and what counts for a bar is only
whether the backslashes before it are odd in number. So a text can be looked at in parts, as
long as each part begins behind another character than a backslash.

## Main definitions

* `Text.brokenLines`: The lines of a text, which end at line feeds and carriage returns.
* `Text.pieces`: What the bars of a line separate.
* `Text.IsRowOf`: A line is the row of some cells.
* `Text.KeepsCell`: A text does not leave its cell.
* `Failure.IsOneRow`: A failure is shown as one row of five cells.

## Theorems

* `Text.piecesFrom_append_bar`: A line can be cut at a bar that separates.
* `ReportDocument.brokenLines_markdown`: The rows of failures among the lines of a certificate.
* `Failure.isOneRow_iff_keepsCell`: Which failures are shown as one row of five cells.
* `Report.render_rows`: The same for all the failures of a certificate.
* `Failure.not_isOneRow`: Two outputs that leave their cells.
-/

namespace Concordance

namespace Text

/-- Whether a character ends a line. -/
def endsLine (c : Char) : Bool :=
  lineEnds.contains c

/-- The lines of a text, without the characters that end them. -/
def brokenLines (s : String) : List String :=
  (s.toList.splitOnP endsLine).map String.ofList

/-- Whether a bar that stands behind some characters, the last of them first, separates
    cells. It does unless the backslashes right before it are odd in number. -/
def barSeparates (before : List Char) : Bool :=
  (before.takeWhile (· = '\\')).length % 2 = 0

/-- What the bars among some characters separate that stand behind others, the last of those
    first. -/
def piecesFrom (before : List Char) : List Char → List (List Char)
  | [] => [[]]
  | c :: cs =>
    if c = '|' ∧ barSeparates before then [] :: piecesFrom (c :: before) cs
    else (piecesFrom (c :: before) cs).modifyHead (c :: ·)

/-- What the bars of a line separate. -/
def pieces (s : String) : List String :=
  (piecesFrom [] s.toList).map String.ofList

/-- Whether a line is the row of some cells: it begins and ends with a bar that separates, and
    the cells stand in between. -/
def IsRowOf (s : String) (cells : List String) : Prop :=
  pieces s = "" :: cells ++ [""]

/-- Whether a text does not leave the cell that it is put into. -/
structure KeepsCell (s : String) : Prop where
  noReturn : '\r' ∉ s.toList
  /-- The backslashes before a bar are even in number. -/
  bars : ∀ before after, s.toList = before ++ '|' :: after → barSeparates before.reverse = true

/-! ### Bars -/

theorem barSeparates_behind_backslash (before : List Char) :
    barSeparates ('\\' :: before) = !barSeparates before := by
  unfold barSeparates
  rw [List.takeWhile_cons_of_pos (by decide), List.length_cons, ← decide_not, decide_eq_decide]
  omega

theorem barSeparates_behind {c : Char} (hc : c ≠ '\\') (before : List Char) :
    barSeparates (c :: before) = true := by
  unfold barSeparates
  rw [List.takeWhile_cons_of_neg (by rwa [decide_eq_true_iff])]
  rfl

theorem barSeparates_cons_congr {before before' : List Char}
    (h : barSeparates before = barSeparates before') (c : Char) :
    barSeparates (c :: before) = barSeparates (c :: before') := by
  by_cases hc : c = '\\'
  · rw [hc, barSeparates_behind_backslash, barSeparates_behind_backslash, h]
  · rw [barSeparates_behind hc, barSeparates_behind hc]

/-- Of what stands before, only this counts: whether a bar would separate. -/
theorem piecesFrom_congr {before before' : List Char}
    (h : barSeparates before = barSeparates before') (cs : List Char) :
    piecesFrom before cs = piecesFrom before' cs := by
  induction cs generalizing before before' with
  | nil => rfl
  | cons c cs ih =>
      unfold piecesFrom
      rw [h, ih (barSeparates_cons_congr h c)]

theorem piecesFrom_bar {before : List Char} (h : barSeparates before = true) (cs : List Char) :
    piecesFrom before ('|' :: cs) = [] :: piecesFrom [] cs := by
  rw [piecesFrom.eq_2, if_pos ⟨rfl, h⟩]
  exact congrArg _ (piecesFrom_congr (barSeparates_behind (by decide) before) cs)

theorem piecesFrom_cons {before : List Char} {c : Char}
    (h : c = '|' → barSeparates before = false) (cs : List Char) :
    piecesFrom before (c :: cs) = (piecesFrom (c :: before) cs).modifyHead (c :: ·) := by
  rw [piecesFrom.eq_2, if_neg fun hbar => Bool.false_ne_true ((h hbar.1).symm.trans hbar.2)]

theorem piecesFrom_ne_nil (cs : List Char) : ∀ before, piecesFrom before cs ≠ [] := by
  induction cs with
  | nil => exact fun _ => List.cons_ne_nil _ _
  | cons c cs ih =>
      intro before
      unfold piecesFrom
      split
      · exact List.cons_ne_nil _ _
      · rw [Ne, List.modifyHead_eq_nil_iff]
        exact ih _

theorem modifyHead_append {α : Type} {l : List α} (h : l ≠ []) (f : α → α) (l' : List α) :
    (l ++ l').modifyHead f = l.modifyHead f ++ l' := by
  obtain ⟨a, l, rfl⟩ := List.exists_cons_of_ne_nil h
  rfl

/-- A line can be cut at a bar that separates. -/
theorem piecesFrom_append_bar {cs : List Char} (ds : List Char) : ∀ {before : List Char},
    barSeparates (cs.reverse ++ before) = true →
      piecesFrom before (cs ++ '|' :: ds) = piecesFrom before cs ++ piecesFrom [] ds := by
  induction cs with
  | nil => exact fun h => piecesFrom_bar h ds
  | cons c cs ih =>
      intro before h
      rw [List.reverse_cons, List.append_assoc] at h
      have hrest := ih h
      rw [List.singleton_append] at hrest
      rw [List.cons_append, piecesFrom.eq_2, piecesFrom.eq_2, hrest]
      split
      · rfl
      · exact modifyHead_append (piecesFrom_ne_nil _ _) _ _

theorem length_piecesFrom_pos (before cs : List Char) : 0 < (piecesFrom before cs).length :=
  List.length_pos_iff.mpr (piecesFrom_ne_nil cs before)

/-- There is one piece exactly if nothing is separated. -/
theorem length_piecesFrom_eq_one_iff {before cs : List Char} :
    (piecesFrom before cs).length = 1 ↔ piecesFrom before cs = [cs] := by
  refine ⟨fun h => ?_, fun h => by rw [h]; rfl⟩
  induction cs generalizing before with
  | nil => rfl
  | cons c cs ih =>
      have hpos := length_piecesFrom_pos (c :: before) cs
      unfold piecesFrom at h ⊢
      split at h
      · rw [List.length_cons] at h
        omega
      · rename_i hbar
        rw [List.length_modifyHead] at h
        rw [if_neg hbar, ih h]
        rfl

theorem piecesFrom_of_notMem {cs : List Char} (h : '|' ∉ cs) (before : List Char) :
    piecesFrom before cs = [cs] := by
  induction cs generalizing before with
  | nil => rfl
  | cons c cs ih =>
      rw [List.mem_cons, not_or] at h
      rw [piecesFrom_cons fun hc => absurd hc.symm h.1, ih h.2]
      rfl

/-! ### Rows -/

/-- A row of cells as characters. -/
def rowCharacters (cells : List (List Char)) : List Char :=
  '|' :: cells.flatMap fun cell => cell ++ ['|']

/-- The bars between cells separate them, unless a cell ends with backslashes. Each cell may
    fall into pieces of its own. -/
theorem piecesFrom_rowCharacters {cells : List (List Char)}
    (h : ∀ cell ∈ cells, barSeparates cell.reverse = true) :
    piecesFrom [] (rowCharacters cells) = [] :: cells.flatMap (piecesFrom []) ++ [[]] := by
  have hcells : piecesFrom [] (cells.flatMap fun cell => cell ++ ['|'])
      = cells.flatMap (piecesFrom []) ++ [[]] := by
    induction cells with
    | nil => rfl
    | cons cell cells ih =>
        obtain ⟨hcell, hcells⟩ := List.forall_mem_cons.mp h
        rw [← List.append_nil cell.reverse] at hcell
        rw [List.flatMap_cons, List.flatMap_cons, List.append_assoc, List.singleton_append,
          piecesFrom_append_bar _ hcell, ih hcells, List.append_assoc]
  have hfirst : barSeparates ([].reverse ++ []) = true := rfl
  calc piecesFrom [] (rowCharacters cells)
      = piecesFrom [] [] ++ piecesFrom [] (cells.flatMap fun cell => cell ++ ['|']) :=
        piecesFrom_append_bar _ hfirst
    _ = [] :: cells.flatMap (piecesFrom []) ++ [[]] := by
        rw [hcells]
        rfl

theorem flatMap_eq_self {α : Type} {g : α → List α} {l : List α} (h : ∀ a ∈ l, g a = [a]) :
    l.flatMap g = l := by
  induction l with
  | nil => rfl
  | cons a l ih =>
      obtain ⟨ha, hl⟩ := List.forall_mem_cons.mp h
      rw [List.flatMap_cons, ha, ih hl]
      rfl

theorem length_flatMap_eq_iff {α β : Type} {g : α → List β} (hg : ∀ a, 0 < (g a).length)
    {l : List α} : (l.flatMap g).length = l.length ↔ ∀ a ∈ l, (g a).length = 1 := by
  have hle (l : List α) : l.length ≤ (l.flatMap g).length := by
    induction l with
    | nil => exact Nat.le_refl 0
    | cons a l ih =>
        have := hg a
        rw [List.flatMap_cons, List.length_append, List.length_cons]
        omega
  induction l with
  | nil => exact ⟨nofun, fun _ => rfl⟩
  | cons a l ih =>
      have := hg a
      have := hle l
      rw [List.flatMap_cons, List.length_append, List.length_cons, List.forall_mem_cons]
      refine ⟨fun h => ⟨by omega, ih.mp (by omega)⟩, fun h => ?_⟩
      rw [h.1, ih.mpr h.2, Nat.add_comm]

/-! ### Cells -/

/-- The bars of a text that begins with some character. -/
theorem forall_bars_cons {P : List Char → Prop} {c : Char} {cs : List Char} :
    (∀ before after, c :: cs = before ++ '|' :: after → P before) ↔
      (c = '|' → P []) ∧ ∀ before after, cs = before ++ '|' :: after → P (c :: before) := by
  constructor
  · refine fun h => ⟨fun hc => h [] cs (by rw [hc]; rfl), fun before after hcs => ?_⟩
    exact h (c :: before) after (by rw [hcs]; rfl)
  · rintro ⟨hfirst, hrest⟩ before after heq
    cases before with
    | nil => exact hfirst (List.cons.inj heq).1
    | cons d before =>
        obtain ⟨rfl, hcs⟩ := List.cons.inj heq
        exact hrest before after hcs

/-- A text in its cell is one piece exactly if each of its bars would separate by itself. The
    backslash that a cell puts before a bar turns the one into the other. The induction is on
    the text, along which the two readings agree on whether a bar would separate. -/
theorem length_piecesFrom_cell {tail : List Char} (htail : '|' ∉ tail) (cs : List Char) :
    ∀ {before source : List Char}, barSeparates before = barSeparates source →
      ((piecesFrom before (cs.flatMap cellCharacter ++ tail)).length = 1 ↔
        ∀ front back, cs = front ++ '|' :: back →
          barSeparates (front.reverse ++ source) = true) := by
  induction cs with
  | nil =>
      intro before source _
      rw [List.flatMap_nil, List.nil_append, piecesFrom_of_notMem htail]
      exact iff_of_true rfl (by simp)
  | cons c cs ih =>
      intro before source h
      have hrest {behind : List Char} (h' : barSeparates behind = barSeparates (c :: source)) :
          ((piecesFrom behind (cs.flatMap cellCharacter ++ tail)).length = 1 ↔
            ∀ front back, cs = front ++ '|' :: back →
              barSeparates ((c :: front).reverse ++ source) = true) := by
        simp only [List.reverse_cons, List.append_assoc, List.singleton_append]
        exact ih h'
      rw [forall_bars_cons, List.flatMap_cons, cellCharacter, List.append_assoc]
      split_ifs with hbar hfeed
      · subst hbar
        have hslash : barSeparates ('\\' :: before) = !barSeparates source := by
          rw [barSeparates_behind_backslash, h]
        have hbehind : barSeparates ('|' :: '\\' :: before) = barSeparates ('|' :: source) := by
          rw [barSeparates_behind (by decide), barSeparates_behind (by decide)]
        rw [List.cons_append, piecesFrom_cons fun hc => absurd hc (by decide),
          List.length_modifyHead, List.singleton_append]
        cases hsource : barSeparates source with
        | true =>
            rw [hsource] at hslash
            rw [piecesFrom_cons fun _ => hslash, List.length_modifyHead, hrest hbehind]
            exact (and_iff_right fun _ => hsource).symm
        | false =>
            -- The bar separates, and so there are two pieces at least.
            rw [hsource] at hslash
            have hpos := length_piecesFrom_pos [] (cs.flatMap cellCharacter ++ tail)
            rw [piecesFrom_bar hslash, List.length_cons]
            refine iff_of_false (by omega) fun hall => ?_
            exact Bool.false_ne_true (hsource.symm.trans (hall.1 rfl))
      · subst hfeed
        have hblank : barSeparates (' ' :: before) = barSeparates ('\n' :: source) := by
          rw [barSeparates_behind (by decide), barSeparates_behind (by decide)]
        rw [List.singleton_append, piecesFrom_cons fun hc => absurd hc (by decide),
          List.length_modifyHead, hrest hblank, and_iff_right fun hc => absurd hc (by decide)]
      · rw [List.singleton_append, piecesFrom_cons fun hc => absurd hc hbar,
          List.length_modifyHead, hrest (barSeparates_cons_congr h c),
          and_iff_right fun hc => absurd hc hbar]

/-- A text in its cell is one piece exactly if each of its bars would separate by itself. -/
theorem length_pieces_cell (s : String) : (pieces (" \x60" ++ cell s ++ "\x60 ")).length = 1 ↔
    ∀ before after, s.toList = before ++ '|' :: after → barSeparates before.reverse = true := by
  have hcharacters : (" \x60" ++ cell s ++ "\x60 ").toList
      = ' ' :: '\x60' :: (s.toList.flatMap cellCharacter ++ ['\x60', ' ']) := by
    have hcell : (cell s).toList = s.toList.flatMap cellCharacter := String.toList_ofList
    rw [String.toList_append, String.toList_append, hcell, List.append_assoc]
    rfl
  have hstart : barSeparates ['\x60', ' '] = barSeparates [] := rfl
  have htail : '|' ∉ ['\x60', ' '] := by decide
  have hcell := length_piecesFrom_cell htail s.toList hstart
  simp only [List.append_nil] at hcell
  rw [pieces, List.length_map, hcharacters, piecesFrom_cons fun hc => absurd hc (by decide),
    List.length_modifyHead, piecesFrom_cons fun hc => absurd hc (by decide),
    List.length_modifyHead, hcell]

theorem pieces_of_avoids {s : String} (h : Avoids dividers s) : pieces s = [s] := by
  have hbar : '|' ∉ s.toList := fun hmem => h _ hmem (by decide)
  rw [pieces, piecesFrom_of_notMem hbar, List.map_singleton, String.ofList_toList]

theorem length_pieces_eq_one_iff {s : String} : (pieces s).length = 1 ↔ pieces s = [s] := by
  refine ⟨fun h => ?_, fun h => by rw [h]; rfl⟩
  rw [pieces, List.length_map, length_piecesFrom_eq_one_iff] at h
  rw [pieces, h, List.map_singleton, String.ofList_toList]

/-! ### Lines -/

theorem endsLine_eq_false_iff {c : Char} : endsLine c = false ↔ c ∉ lineEnds := by
  rw [endsLine, ← Bool.not_eq_true, List.contains_iff_mem]

theorem brokenLines_of_avoids {s : String} (h : Avoids lineEnds s) : brokenLines s = [s] := by
  rw [brokenLines, List.splitOnP_eq_singleton fun c hc => endsLine_eq_false_iff.mpr (h c hc),
    List.map_singleton, String.ofList_toList]

/-- A text is one line exactly if nothing in it ends a line. -/
theorem avoids_of_brokenLines {s l : String} (h : brokenLines s = [l]) : Avoids lineEnds s := by
  intro c hc
  rw [← endsLine_eq_false_iff]
  by_contra hends
  obtain ⟨front, back, hsplit⟩ := List.append_of_mem hc
  have hlength := congrArg List.length h
  have hfront := List.length_pos_iff.mpr (List.splitOnP_ne_nil endsLine front)
  have hback := List.length_pos_iff.mpr (List.splitOnP_ne_nil endsLine back)
  rw [brokenLines, List.length_map, hsplit,
    List.splitOnP_append_cons _ _ (eq_true_of_ne_false hends), List.length_append,
    List.length_singleton] at hlength
  omega

theorem brokenLines_join (texts : List String) :
    brokenLines (String.join (texts.map line)) = texts.flatMap brokenLines ++ [""] := by
  induction texts with
  | nil => rfl
  | cons s texts ih =>
      have hline : (line s).toList = s.toList ++ ['\n'] := String.toList_append
      rw [brokenLines] at ih ⊢
      rw [List.map_cons, String.join_cons, String.toList_append, hline, List.append_assoc,
        List.singleton_append, List.splitOnP_append_cons _ _ (by decide), List.map_append, ih,
        List.flatMap_cons, List.append_assoc]
      rfl

theorem flatMap_brokenLines {texts : List String} (h : ∀ s ∈ texts, Avoids lineEnds s) :
    texts.flatMap brokenLines = texts :=
  flatMap_eq_self fun s hs => brokenLines_of_avoids (h s hs)

end Text

open Text

/-- The lines of a certificate are fixed but for those that the rows of failures have. -/
theorem ReportDocument.brokenLines_markdown (d : ReportDocument) :
    Text.brokenLines d.markdown = d.textsBeforeRows ++
      (d.shown.flatMap fun f => Text.brokenLines (failureText f)) ++ d.textsAfterRows ++ [""] := by
  rw [markdown_eq, brokenLines_join, texts_eq, List.flatMap_append, List.flatMap_append,
    flatMap_brokenLines d.avoids_of_mem_textsBeforeRows,
    flatMap_brokenLines d.avoids_of_mem_textsAfterRows, List.flatMap_map]

/-- A carriage return is all that an output can break a line with. -/
theorem avoids_cell_iff (s : String) : Avoids lineEnds (cell s) ↔ '\r' ∉ s.toList := by
  rw [cell, avoids_ofList]
  simp only [List.mem_flatMap]
  constructor
  · intro h hmem
    exact h '\r' ⟨'\r', hmem, by decide⟩ (by decide)
  · rintro h c ⟨d, hd, hc⟩
    unfold cellCharacter at hc
    split_ifs at hc with hbar hfeed
    · simp only [List.mem_cons, List.not_mem_nil, or_false] at hc
      obtain rfl | rfl := hc <;> decide
    · rw [List.mem_singleton.mp hc]
      decide
    · rw [List.mem_singleton.mp hc, lineEnds, List.mem_cons, List.mem_singleton]
      rintro (rfl | rfl)
      · exact hfeed rfl
      · exact h hd

namespace Failure

variable (f : Failure)

/-- What a failure quotes. -/
def quotes : List String :=
  [(f.outputs.map (·.reference)).getD "", (f.outputs.map (·.candidate)).getD ""]

/-- What is meant to stand in the cells of a failure. -/
def cells : List String :=
  [" " ++ toString f.index ++ " ", " " ++ f.discrepancy.text ++ " ",
    " " ++ Decimal.scientifically.write f.deviation ++ " "]
    ++ f.quotes.map fun s => " \x60" ++ cell s ++ "\x60 "

/-- Whether a failure is shown as one row of five cells. -/
def IsOneRow : Prop :=
  ∃ row cells, Text.brokenLines (failureText f) = [row] ∧ Text.IsRowOf row cells ∧
    cells.length = 5

theorem toList_failureText_eq :
    (failureText f).toList = rowCharacters (f.cells.map String.toList) := by
  unfold failureText cells quotes rowCharacters
  simp [String.toList_append]

theorem barSeparates_of_mem_cells : ∀ s ∈ f.cells, barSeparates s.toList.reverse = true := by
  have hblank (s : String) : barSeparates (s ++ " ").toList.reverse = true := by
    rw [String.toList_append, List.reverse_append]
    exact barSeparates_behind (by decide) _
  have hquote (s : String) : " \x60" ++ cell s ++ "\x60 " = " \x60" ++ cell s ++ "\x60" ++ " " := by
    rw [String.append_assoc, String.append_assoc, String.append_assoc]
    rfl
  unfold cells
  rw [List.forall_mem_append, List.forall_mem_map]
  refine ⟨?_, fun s _ => ?_⟩
  · simp only [List.forall_mem_cons]
    exact ⟨hblank _, hblank _, hblank _, nofun⟩
  · rw [hquote]
    exact hblank _

theorem pieces_failureText :
    pieces (failureText f) = "" :: f.cells.flatMap pieces ++ [""] := by
  have hcells : ∀ cell ∈ f.cells.map String.toList, barSeparates cell.reverse = true :=
    List.forall_mem_map.mpr f.barSeparates_of_mem_cells
  rw [pieces, toList_failureText_eq, piecesFrom_rowCharacters hcells, List.flatMap_map,
    List.map_append, List.map_cons, List.map_flatMap]
  rfl

/-- The index, the reason and the deviation are one piece each, so all cells are exactly if no
    bar of an output gets through. -/
theorem length_pieces_cells : (∀ s ∈ f.cells, (pieces s).length = 1) ↔
    ∀ s ∈ f.quotes, ∀ before after, s.toList = before ++ '|' :: after →
      barSeparates before.reverse = true := by
  have hplain {s : String} (hs : Avoids dividers s) : (pieces (" " ++ s ++ " ")).length = 1 := by
    have hblank : Avoids dividers " " := by decide
    rw [pieces_of_avoids (avoids_append.mpr ⟨avoids_append.mpr ⟨hblank, hs⟩, hblank⟩)]
    rfl
  have hindex : Avoids dividers (toString f.index) := avoids_nat f.index
  unfold cells
  simp only [List.forall_mem_append, List.forall_mem_cons, List.forall_mem_map, List.not_mem_nil,
    false_imp_iff, implies_true, length_pieces_cell, hplain hindex,
    hplain f.discrepancy.avoids_text, hplain (Decimal.avoids_scientifically f.deviation),
    true_and]

theorem avoids_failureText_iff :
    Avoids lineEnds (failureText f) ↔ ∀ s ∈ f.quotes, '\r' ∉ s.toList := by
  have hindex : Avoids lineEnds (toString f.index) :=
    (avoids_nat f.index).mono lineEnds_subset_dividers
  have hreason := f.discrepancy.avoids_text.mono lineEnds_subset_dividers
  have hdeviation := (Decimal.avoids_scientifically f.deviation).mono lineEnds_subset_dividers
  have hmarks : ∀ s ∈ ["| ", " | ", "\x60", " |"], Avoids lineEnds s := by decide
  simp only [List.forall_mem_cons] at hmarks
  unfold failureText quotes
  simp only [avoids_append, hindex, hreason, hdeviation, hmarks, avoids_cell_iff, true_and,
    and_true, List.forall_mem_cons, List.not_mem_nil, false_imp_iff, implies_true]

theorem keepsCell_iff : (∀ s ∈ f.quotes, KeepsCell s) ↔
    Avoids lineEnds (failureText f) ∧ ∀ s ∈ f.cells, (pieces s).length = 1 := by
  rw [avoids_failureText_iff, length_pieces_cells]
  exact ⟨fun h => ⟨fun s hs => (h s hs).noReturn, fun s hs => (h s hs).bars⟩,
    fun h s hs => ⟨h.1 s hs, h.2 s hs⟩⟩

/-- A failure is shown as one row of five cells exactly if neither output that it quotes has
    a carriage return, or a bar behind an odd number of backslashes. -/
theorem isOneRow_iff_keepsCell : f.IsOneRow ↔ ∀ s ∈ f.quotes, KeepsCell s := by
  have hfive : (f.cells.flatMap pieces).length = f.cells.length ↔
      ∀ s ∈ f.cells, (pieces s).length = 1 := by
    refine length_flatMap_eq_iff fun s => ?_
    rw [pieces, List.length_map]
    exact length_piecesFrom_pos _ _
  rw [keepsCell_iff, ← hfive]
  constructor
  · rintro ⟨row, cells, hlines, hrow, hlength⟩
    have havoids := avoids_of_brokenLines hlines
    rw [brokenLines_of_avoids havoids] at hlines
    rw [← List.singleton_inj.mp hlines, IsRowOf, pieces_failureText, List.cons_append,
      List.cons_append, List.cons_inj_right, List.append_cancel_right_eq] at hrow
    exact ⟨havoids, by rw [hrow, hlength]; rfl⟩
  · rintro ⟨havoids, hlength⟩
    exact ⟨_, _, brokenLines_of_avoids havoids, f.pieces_failureText, hlength⟩

/-- In the one row of five cells stands what is meant to stand there. -/
theorem isOneRow_iff_isRowOf : f.IsOneRow ↔
    Text.brokenLines (failureText f) = [failureText f] ∧
      Text.IsRowOf (failureText f) f.cells := by
  constructor
  · rw [isOneRow_iff_keepsCell, keepsCell_iff]
    rintro ⟨havoids, hcells⟩
    have hpieces : f.cells.flatMap pieces = f.cells :=
      flatMap_eq_self fun s hs => length_pieces_eq_one_iff.mp (hcells s hs)
    refine ⟨brokenLines_of_avoids havoids, ?_⟩
    rw [IsRowOf, pieces_failureText, hpieces]
  · rintro ⟨hlines, hrow⟩
    exact ⟨_, _, hlines, hrow, rfl⟩

end Failure

/-- The rows of the failures that a report shows in its certificate, among the other lines.
    Each failure is one row of five cells exactly if neither output that it quotes has a
    carriage return, or a bar behind an odd number of backslashes, and then the cells are those
    that were meant. -/
theorem Report.render_rows (r : Report) (cap : Nat) :
    Text.brokenLines (r.render cap .markdown) = (r.document cap).textsBeforeRows ++
        ((r.document cap).shown.flatMap fun f => Text.brokenLines (failureText f)) ++
        (r.document cap).textsAfterRows ++ [""] ∧
      ∀ f : Failure, (f.IsOneRow ↔ ∀ s ∈ f.quotes, Text.KeepsCell s) ∧
        (f.IsOneRow ↔ Text.brokenLines (failureText f) = [failureText f] ∧
          Text.IsRowOf (failureText f) f.cells) :=
  ⟨(r.document cap).brokenLines_markdown,
    fun f => ⟨f.isOneRow_iff_keepsCell, f.isOneRow_iff_isRowOf⟩⟩

namespace Failure

/-- A failure that quotes an output of the candidate. -/
private def quoting (output : String) : Failure :=
  { index := 0, discrepancy := .different, deviation := 1
    outputs := some ⟨"a", output, none, none⟩ }

/-- Two outputs that leave their cells: a bar behind a backslash begins a further cell, and a
    carriage return begins a further line. -/
theorem not_isOneRow : ¬ (quoting "a\\|b").IsOneRow ∧ ¬ (quoting "a\rb").IsOneRow := by
  rw [isOneRow_iff_keepsCell, isOneRow_iff_keepsCell]
  have hquoted (output : String) : output ∈ (quoting output).quotes :=
    List.mem_cons_of_mem _ List.mem_cons_self
  refine ⟨fun h => ?_, fun h => ?_⟩
  · have hbar := (h _ (hquoted _)).bars ['a', '\\'] ['b'] rfl
    exact absurd hbar (by decide)
  · exact absurd (h _ (hquoted _)).noReturn (by decide)

end Failure

end Concordance
