import Concordance.Yaml.Cursor
import Concordance.Yaml.Scalar

/-!
# Scalars in Their Four Layouts

How the text of a scalar is recovered from its layout on the page.

In quoted and plain scalars a gap between words is folded: blanks within a
line are kept, a single line end becomes a space, and further line ends are
kept as they are. Blanks around line ends are dropped. Block scalars keep
their lines, or fold them, and their header says what becomes of the line
ends at the end.

## Main definitions

* `Gap`: The blanks and line ends between two words.
* `quoted?`: A scalar between quotation marks.
* `Plain`: A plain scalar and how it ended.
* `plain?`: A scalar without quotation marks.
* `block?`: A literal or folded block.
-/

namespace Concordance

namespace Yaml

/-- The blanks and line ends between two words. `breaks` are the line ends
    after the first one; an escaped line end is broken but counts for
    nothing. -/
structure Gap where
  blanks : List Char
  broken : Bool
  first : List Char
  breaks : List Char

/-- No gap. -/
def Gap.none : Gap :=
  ⟨[], false, [], []⟩

/-- What a gap becomes in the text. -/
def Gap.fold (g : Gap) : List Char :=
  if !g.broken then g.blanks
  else if g.first = ['\n'] then if g.breaks.isEmpty then [' '] else g.breaks
  else g.first ++ g.breaks

/-- Take in the blanks and line ends that follow. A tab that stands where the
    indentation of a line should be is refused. -/
def takeGap (indent : Nat) : Nat → Gap → Cursor → Option (Gap × Cursor)
  | 0, g, cur => some (g, cur)
  | fuel + 1, g, cur =>
    match cur.rest with
    | [] => some (g, cur)
    | c :: _ =>
      if isInlineBlank c then
        if !g.broken then takeGap indent fuel { g with blanks := g.blanks ++ [c] } cur.advance
        else if c = '\t' && cur.column < indent then none
        else takeGap indent fuel g cur.advance
      else if isBreak c then
        let (b, next) := cur.lineBreak
        if g.broken then takeGap indent fuel { g with breaks := g.breaks ++ b } next
        else takeGap indent fuel ⟨[], true, b, []⟩ next
      else some (g, cur)

/-- The character of an escape with a single letter in a double-quoted
    scalar. -/
def letterEscape? : Char → Option Char
  | '0' => some '\x00'
  | 'a' => some '\x07'
  | 'b' => some '\x08'
  | 't' => some '\t'
  | '\t' => some '\t'
  | 'n' => some '\n'
  | 'v' => some '\x0b'
  | 'f' => some '\x0c'
  | 'r' => some '\r'
  | 'e' => some '\x1b'
  | ' ' => some ' '
  | '"' => some '"'
  | '/' => some '/'
  | '\\' => some '\\'
  | 'N' => some '\u0085'
  | '_' => some '\u00a0'
  | 'L' => some '\u2028'
  | 'P' => some '\u2029'
  | _ => none

/-- How many hexadecimal digits follow an escape letter. -/
def hexEscape? : Char → Option Nat
  | 'x' => some 2
  | 'u' => some 4
  | 'U' => some 8
  | _ => none

/-- The character behind a backslash, and how many characters spell it. -/
def escaped? : List Char → Option (Char × Nat)
  | [] => none
  | c :: rest =>
    match letterEscape? c with
    | some x => some (x, 1)
    | none => do
      let count ← hexEscape? c
      let spelled := rest.take count
      if spelled.length < count then none
      else
        let n ← digits? 16 spelled
        if (0xD800 ≤ n && n ≤ 0xDFFF) || 0x10FFFF < n then none
        else return (Char.ofNat n, count + 1)

/-- A scalar behind its opening quotation mark, and the place behind the
    closing one. The text so far is given backward. -/
def quoted? (single : Bool) : Nat → List Char → Cursor → Option (List Char × Cursor)
  | 0, _, _ => none
  | fuel + 1, text, cur =>
    if cur.atMark then none
    else match cur.rest with
    | [] => none
    | c :: rest =>
      if isInlineBlank c || isBreak c then do
        let (g, cur) ← takeGap 0 (rest.length + 1) Gap.none cur
        quoted? single fuel (g.fold.reverse ++ text) cur
      else if single then
        match c, rest with
        | '\'', '\'' :: _ => quoted? single fuel ('\'' :: text) (cur.advanceBy 2)
        | '\'', _ => some (text.reverse, cur.advance)
        | _, _ => quoted? single fuel (c :: text) cur.advance
      else
        match c, rest with
        | '"', _ => some (text.reverse, cur.advance)
        | '\\', b :: _ =>
          if isBreak b then do
            let (_, next) := cur.advance.lineBreak
            let (g, cur) ← takeGap 0 (rest.length + 1) ⟨[], true, [], []⟩ next
            quoted? single fuel (g.fold.reverse ++ text) cur
          else do
            let (x, length) ← escaped? rest
            quoted? single fuel (x :: text) (cur.advanceBy (length + 1))
        | '\\', [] => none
        | _, _ => quoted? single fuel (c :: text) cur.advance

/-- Whether a character has a meaning of its own inside brackets. -/
def isFlowMark (c : Char) : Bool :=
  c = ',' || c = '[' || c = ']' || c = '\x7b' || c = '\x7d'

/-- Whether a plain scalar ends at a colon, or at a mark inside brackets. -/
def endsPlain (flow : Bool) : List Char → Bool
  | ':' :: rest => endsWord rest
  | c :: _ => flow && isFlowMark c
  | [] => true

/-- Whether a colon inside brackets touches a mark, which is refused. -/
def touchesMark (flow : Bool) : List Char → Bool
  | ':' :: c :: _ => flow && (isFlowMark c || c = '?')
  | _ => false

/-- A plain scalar, the place behind it and the gap that follows, and whether
    that gap ends a line. -/
structure Plain where
  text : List Char
  cursor : Cursor
  broken : Bool

/-- A plain scalar from one of its words on. The text so far is given
    backward, and the gap before the word is still to be folded in. -/
def plain? (flow : Bool) (indent : Nat) : Nat → Gap → List Char → Cursor → Option Plain
  | 0, _, _, _ => none
  | fuel + 1, g, text, cur =>
    let stop : Plain := ⟨text.reverse, cur, g.broken⟩
    match cur.rest with
    | [] => some stop
    | c :: rest =>
      if isInlineBlank c || isBreak c then do
        let (g, cur) ← takeGap indent (rest.length + 1) g cur
        if (!flow && cur.column < indent) || cur.atMark || cur.rest.head? = some '#' then
          return ⟨text.reverse, cur, g.broken⟩
        else plain? flow indent fuel g text cur
      else if touchesMark flow cur.rest then none
      else if endsPlain flow cur.rest then some stop
      else plain? flow indent fuel Gap.none (c :: (g.fold.reverse ++ text)) cur.advance

/-- What becomes of the line ends at the end of a block. -/
inductive Chomp where
  | strip
  | clip
  | keep

/-- The indicator of a chomping rule. -/
def chomp? : Char → Option Chomp
  | '-' => some .strip
  | '+' => some .keep
  | _ => none

/-- An indentation indicator, which cannot be zero. -/
def increment? (c : Char) : Option Nat :=
  if c.isDigit && c ≠ '0' then some (c.toNat - '0'.toNat) else none

/-- The header of a block behind its indicator: the chomping rule, the
    indentation if it is given, and the place at the end of the line. -/
def header? (cur : Cursor) : Option (Chomp × Option Nat × Cursor) := do
  let (chomp, increment, cur) ← match cur.rest with
    | [] => some (Chomp.clip, none, cur)
    | a :: rest =>
      match chomp? a with
      | some chomp =>
        match rest with
        | d :: _ =>
          if d.isDigit then (increment? d).map fun n => (chomp, some n, cur.advanceBy 2)
          else some (chomp, none, cur.advance)
        | [] => some (chomp, none, cur.advance)
      | none =>
        if a.isDigit then
          (increment? a).map fun n =>
            match rest.head?.bind chomp? with
            | some chomp => (chomp, some n, cur.advanceBy 2)
            | none => (Chomp.clip, some n, cur.advance)
        else some (Chomp.clip, none, cur)
  let cur ← cur.restOfLine?
  return (chomp, increment, cur.lineBreak.2)

/-- Skip the indentation of the lines that follow, taking in the ends of empty
    ones. Without a known indentation every blank belongs to it, and the
    deepest line seen is remembered. -/
def blockBreaks (indent : Option Nat) :
    Nat → Nat → List Char → Cursor → Option (Nat × List Char × Cursor)
  | 0, deepest, breaks, cur => some (deepest, breaks, cur)
  | fuel + 1, deepest, breaks, cur =>
    let room := indent.map (· - cur.column)
    let blanks := cur.rest.takeWhile (· = ' ')
    let skipped := match room with
      | some n => min n blanks.length
      | none => blanks.length
    let cur := cur.advanceBy skipped
    let deepest := max deepest cur.column
    let inside := match indent with
      | some n => cur.column < n
      | none => true
    match cur.rest with
    | [] => some (deepest, breaks, cur)
    | c :: _ =>
      if inside && c = '\t' then none
      else if !isBreak c then some (deepest, breaks, cur)
      else
        let (b, next) := cur.lineBreak
        blockBreaks indent fuel deepest (breaks ++ b) next

/-- The lines of a block. `pending` is the end of the line before, `breaks`
    the ends of the empty lines since, and `indented` says whether the line
    before began with a blank. -/
def blockLines? (folded : Bool) (indent : Nat) : Nat → Bool → List Char → List Char →
    List Char → Cursor → Option (List Char × List Char × List Char × Cursor)
  | 0, _, _, _, _, _ => none
  | fuel + 1, indented, text, pending, breaks, cur =>
    if cur.column ≠ indent || cur.rest.isEmpty then some (text, pending, breaks, cur)
    else do
      let blankStart := (cur.rest.head?.map isInlineBlank).getD false
      let joined :=
        if folded && pending = ['\n'] && !indented && !blankStart then
          if breaks.isEmpty then [' '] else []
        else pending
      let (line, cur) := cur.run fun c => !isBreak c
      let (b, cur) := cur.lineBreak
      let (_, more, cur) ← blockBreaks (some indent) (cur.rest.length + 1) 0 [] cur
      blockLines? folded indent fuel blankStart (text ++ joined ++ breaks ++ line) b more cur

/-- A literal or folded block behind its indicator, within a parent that
    stands at `parent`. -/
def block? (folded : Bool) (parent : Int) (cur : Cursor) : Option (List Char × Cursor) := do
  let (chomp, increment, cur) ← header? cur
  let given := increment.map fun n => (max parent 0).toNat + n
  let fuel := cur.rest.length + 1
  let (deepest, breaks, cur) ← blockBreaks given fuel 0 [] cur
  let indent := given.getD (max (max deepest (parent + 1).toNat) 1)
  let (text, pending, breaks, cur) ← blockLines? folded indent fuel false [] [] breaks cur
  match chomp with
  | .strip => return (text, cur)
  | .clip => return (text ++ pending, cur)
  | .keep => return (text ++ pending ++ breaks, cur)

end Yaml

end Concordance
