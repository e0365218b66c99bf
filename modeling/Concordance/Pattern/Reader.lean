import Concordance.Pattern.Basic
import Concordance.Decimal.Reading

/-!
# Reading Patterns

Patterns from their written form.

Flags hold from where they are set to the end of the enclosing group. They
change what is built, not what is read: whether a letter stands for both
cases, whether anchors look at lines, whether the dot takes line ends, whether
carriage returns end lines, which repetitions are lazy, and whether blanks are
passed over.

Look-around and back-references are not patterns of this kind and are refused,
as is everything that is not closed, repeats nothing, or names a group twice.

## Main definitions

* `Flags`: The flags in force.
* `read?`: The pattern that a text spells.
-/

namespace Concordance

namespace Pattern

/-- The flags in force. -/
structure Flags where
  anyCase : Bool := false
  lines : Bool := false
  dotAll : Bool := false
  returns : Bool := false
  swapped : Bool := false
  spaced : Bool := false

/-- Where the reader stands. -/
structure ReadState where
  rest : List Char
  flags : Flags
  groups : Nat
  names : List (List Char)

/-- A reader of a part of a pattern. -/
abbrev Read := StateT ReadState Option

/-- Look at the next character. -/
def peek : Read (Option Char) := do
  return (← get).rest.head?

/-- Look at the character after the next. -/
def peekSecond : Read (Option Char) := do
  return (← get).rest.tail.head?

/-- Take the next character, which has to exist. -/
def advance : Read Char := do
  match (← get).rest with
  | [] => failure
  | c :: rest =>
    modify ({ · with rest })
    return c

/-- Take some characters if they come next. -/
def skip? (cs : List Char) : Read Bool := do
  let s ← get
  if cs.isPrefixOf s.rest then
    set { s with rest := s.rest.drop cs.length }
    return true
  else return false

/-- Take some characters, which have to come next. -/
def expect (cs : List Char) : Read Unit := do
  unless ← skip? cs do failure

/-- Take the characters up to the first one that fails a test. -/
def takeWhile (p : Char → Bool) : Read (List Char) := do
  let s ← get
  set { s with rest := s.rest.dropWhile p }
  return s.rest.takeWhile p

/-- Whether a character is white space within a pattern. -/
def isGap (c : Char) : Bool :=
  Class.blanks.contains c

/-- A text without its leading blanks and comments. -/
def dropGaps : Nat → List Char → List Char
  | 0, cs => cs
  | n + 1, cs =>
    match cs.dropWhile isGap with
    | '#' :: rest => dropGaps n (rest.dropWhile (· ≠ '\n'))
    | rest => rest

/-- Pass over blanks and comments where the flags say so. -/
def skipGaps : Read Unit :=
  modify fun s =>
    if s.flags.spaced then { s with rest := dropGaps (s.rest.length + 1) s.rest } else s

/-- A number of rounds, blanks around it allowed. -/
def readCount : Read Nat := do
  let _ ← takeWhile isGap
  let digits ← takeWhile fun c => '0' ≤ c && c ≤ '9'
  let _ ← takeWhile isGap
  if digits.isEmpty then failure
  let n := Decimal.natOfDigits digits
  if 2 ^ 32 ≤ n then failure
  return n

/-- What a repetition sign asks for. -/
structure Quantity where
  min : Nat
  max? : Option Nat

/-- The rest of a counted repetition, its opening brace taken. -/
def readBounds : Read Quantity := do
  skipGaps
  let min ← readCount
  let q ←
    if ← skip? [','] then
      if (← peek) = some '\x7d' then pure ⟨min, none⟩
      else
        let max ← readCount
        if max < min then failure
        pure ⟨min, some max⟩
    else pure ⟨min, some min⟩
  expect ['\x7d']
  return q

/-- The repetition sign that comes next, if one does. -/
def readQuantity? : Read (Option Quantity) := do
  match ← peek with
  | some '*' => do let _ ← advance; return some ⟨0, none⟩
  | some '+' => do let _ ← advance; return some ⟨1, none⟩
  | some '?' => do let _ ← advance; return some ⟨0, some 1⟩
  | some '\x7b' => do let _ ← advance; return some (← readBounds)
  | _ => return none

/-- The repetition signs behind a pattern. -/
def readRepetitions : Nat → Pattern → Read Pattern
  | 0, p => return p
  | n + 1, p => do
    skipGaps
    match ← readQuantity? with
    | none => return p
    | some q =>
      let lazy ← skip? ['?']
      let flags := (← get).flags
      readRepetitions n (p.repeated q.min q.max? (lazy == flags.swapped))

/-- The value of a hexadecimal digit. -/
def hexValue? (c : Char) : Option Nat :=
  if '0' ≤ c && c ≤ '9' then some (c.toNat - 0x30)
  else if 'a' ≤ c && c ≤ 'f' then some (c.toNat - 0x57)
  else if 'A' ≤ c && c ≤ 'F' then some (c.toNat - 0x37)
  else none

/-- The character whose code point some hexadecimal digits spell. -/
def charOfHex? (digits : List Char) : Option Char := do
  let values ← digits.mapM hexValue?
  if values.isEmpty then none
  else
    let n := values.foldl (fun n d => n * 16 + d) 0
    if n.isValidChar then some (Char.ofNat n) else none

/-- A code point, in braces or of a fixed number of digits. -/
def readHex (digits : Nat) : Read Char := do
  if ← skip? ['\x7b'] then
    let spelled ← takeWhile (· ≠ '\x7d')
    expect ['\x7d']
    charOfHex? (spelled.filter fun c => !isGap c)
  else
    let rec fixed : Nat → Read (List Char)
      | 0 => return []
      | n + 1 => do
        let c ← advance
        return c :: (← fixed n)
    charOfHex? (← fixed digits)

/-- What a backslash introduces. -/
inductive Escape where
  | literal (c : Char)
  | letter (c : Class)
  | anchor (a : Anchor)

/-- Which word boundary a name in braces means. -/
def boundary? (name : List Char) : Option Anchor :=
  if name = "start".toList then some .wordStart
  else if name = "end".toList then some .wordEnd
  else if name = "start-half".toList then some .halfWordStart
  else if name = "end-half".toList then some .halfWordEnd
  else none

/-- A word boundary, which may be named in braces. What stands in braces but
    is no name at all is left to be read as a repetition. -/
def readBoundary : Read Anchor := do
  let s ← get
  match s.rest with
  | '\x7b' :: rest =>
    let name := rest.takeWhile fun c => c.isAlpha || c = '-'
    if name.isEmpty then return .wordEdge
    else
      set { s with rest := rest.drop name.length }
      expect ['\x7d']
      boundary? name
  | _ => return .wordEdge

/-- The control character of a letter behind a backslash. -/
def control? : Char → Option Char
  | 'a' => some '\x07'
  | 'f' => some '\x0c'
  | 't' => some '\t'
  | 'n' => some '\n'
  | 'r' => some '\r'
  | 'v' => some '\x0b'
  | _ => none

/-- Whether a backslash may stand before a character that means itself. -/
def isEscapable (c : Char) : Bool :=
  c.toNat < 0x80 && !c.isAlphanum && c ≠ '<' && c ≠ '>'

/-- The rest of an escape, its backslash taken. -/
def readEscape : Read Escape := do
  let c ← advance
  match c with
  | 'x' => return .literal (← readHex 2)
  | 'u' => return .literal (← readHex 4)
  | 'U' => return .literal (← readHex 8)
  | 'A' => return .anchor .textStart
  | 'z' => return .anchor .textEnd
  | 'b' => return .anchor (← readBoundary)
  | 'B' => return .anchor .noWordEdge
  | '<' => return .anchor .wordStart
  | '>' => return .anchor .wordEnd
  | _ =>
    match Class.lettered? c, control? c with
    | some letters, _ => return .letter letters
    | none, some control => return .literal control
    | none, none => if isEscapable c then return .literal c else failure

/-- One item of a bracketed class. -/
def readItem : Read Escape := do
  match ← advance with
  | '\\' => readEscape
  | c => return .literal c

/-- An item of a bracketed class, or a range between two. -/
def readRange : Read Class := do
  let item ← readItem
  skipGaps
  let second ← peekSecond
  if (← peek) ≠ some '-' || second = some ']' || second = some '-' then
    match item with
    | .literal c => return .single c
    | .letter c => return c
    | .anchor _ => failure
  else
    let _ ← advance
    skipGaps
    match item, ← readItem with
    | .literal first, .literal last =>
      if last < first then failure
      return .between first last
    | _, _ => failure

/-- A named class, its opening bracket not taken, if one comes next. -/
def readNamed? : Read (Option Class) := do
  let s ← get
  unless ← skip? ['[', ':'] do return none
  let negated ← skip? ['^']
  let name ← takeWhile (· ≠ ':')
  let closed ← skip? [':', ']']
  match Class.named? (String.ofList name), closed with
  | some c, true => return some (c.negateIf negated)
  | _, _ =>
    set s
    return none

/-- The operations between the parts of a bracketed class. -/
def operation? : Option Char → Option Char → Option (Class → Class → Class)
  | some '&', some '&' => some .intersection
  | some '-', some '-' => some .difference
  | some '~', some '~' => some .symmetricDifference
  | _, _ => none

/-- The dashes at the start of a bracketed class, and a closing bracket at its
    very start, stand for themselves. -/
def readLeading : Read Class := do
  let dashes ← takeWhile (· = '-')
  if dashes.isEmpty then
    if ← skip? [']'] then return .single ']' else return .none
  else return .single '-'

/-- The parts of a bracketed class up to its closing bracket. `left` joins the
    part being read to those before the last operation. -/
def readParts : Nat → (Class → Class) → Class → Read Class
  | 0, _, _ => failure
  | n + 1, left, part => do
    skipGaps
    let folding := (← get).flags.anyCase
    let second ← peekSecond
    match ← peek with
    | none => failure
    | some ']' =>
      let _ ← advance
      return (left part).foldIf folding
    | some '[' =>
      match ← readNamed? with
      | some c => readParts n left (.union part c)
      | none =>
        let _ ← advance
        let negated ← skip? ['^']
        let inner ← readParts n id (← readLeading)
        readParts n left (.union part (inner.negateIf negated))
    | some c =>
      match operation? (some c) second with
      | some op =>
        let _ ← advance
        let _ ← advance
        let before := (left part).foldIf folding
        readParts n (fun right => op before (right.foldIf folding)) .none
      | none => do readParts n left (.union part (← readRange))

/-- The rest of a bracketed class, its opening bracket taken. -/
def readClass : Read Class := do
  skipGaps
  let negated ← skip? ['^']
  let length := (← get).rest.length
  let inner ← readParts (length + 1) id (← readLeading)
  return inner.negateIf negated

/-- Set or clear a flag. -/
def Flags.put (flags : Flags) (value : Bool) : Char → Option Flags
  | 'i' => some { flags with anyCase := value }
  | 'm' => some { flags with lines := value }
  | 's' => some { flags with dotAll := value }
  | 'R' => some { flags with returns := value }
  | 'U' => some { flags with swapped := value }
  | 'x' => some { flags with spaced := value }
  | 'u' => if value then some flags else none
  | _ => none

/-- The flags that some letters set, and behind a dash clear. No letter and no
    dash may occur twice, and a dash needs letters behind it. -/
def Flags.apply (flags : Flags) (letters : List Char) : Option Flags := do
  let on := letters.takeWhile (· ≠ '-')
  let off := (letters.dropWhile (· ≠ '-')).tail
  if letters.getLast? = some '-' || (on ++ off).eraseDups.length ≠ (on ++ off).length then none
  else
    let set ← on.foldlM (fun f c => f.put true c) flags
    off.foldlM (fun f c => f.put false c) set

/-- Whether a character may stand in the name of a group. -/
def isNameChar (c : Char) : Bool :=
  Text.isWord c || c = '.' || c = '[' || c = ']'

/-- The name of a group and its closing bracket. -/
def readName : Read Unit := do
  let name ← takeWhile (· ≠ '>')
  expect ['>']
  let s ← get
  match name with
  | [] => failure
  | c :: _ =>
    if !Text.isWord c || Text.isDecimalDigit c || !name.all isNameChar || s.names.contains name then
      failure
    set { s with names := name :: s.names }

/-- How a group opens. -/
inductive Opening where
  /-- A group that is numbered. -/
  | numbered
  /-- A group that only holds its parts together. -/
  | plain
  /-- No group, but flags for what follows. -/
  | flags

/-- The rest of an opening, its parenthesis taken. The flags of a group that
    is not numbered are in force when this returns. -/
def readOpening : Read Opening := do
  unless ← skip? ['?'] do return .numbered
  if (← skip? ['P', '<']) || (← skip? ['<']) then
    readName
    return .numbered
  let letters ← takeWhile fun c => c.isAlpha || c = '-'
  let s ← get
  let flags ← s.flags.apply letters
  set { s with flags }
  if ← skip? [':'] then return .plain
  expect [')']
  if letters.isEmpty then failure
  return .flags

/-- The anchor of a circumflex or of a dollar sign: of the text, or of a line. -/
def Flags.edge (flags : Flags) (text line row : Anchor) : Pattern :=
  .anchor (if !flags.lines then text else if flags.returns then row else line)

/-- A literal character. -/
def literal (c : Char) : Read Pattern := do
  return .char ((Class.single c).foldIf (← get).flags.anyCase)

/-- A pattern that is no group, by its first character, which is taken. -/
def readAtom (c : Char) : Read Pattern := do
  let flags := (← get).flags
  match c with
  | '.' => return .char (.dot flags.dotAll flags.returns)
  | '^' => return flags.edge .textStart .lineStart .rowStart
  | '$' => return flags.edge .textEnd .lineEnd .rowEnd
  | '[' => return .char (← readClass)
  | '\\' =>
    match ← readEscape with
    | .literal c => literal c
    | .letter letters => return .char letters
    | .anchor a => return .anchor a
  | '*' | '+' | '?' | '\x7b' => failure
  | _ => literal c

mutual

/-- Alternatives up to the end of a group or of the text. -/
def readAlternatives : Nat → Read Pattern
  | 0 => failure
  | n + 1 => do
    let first ← readSequence n .empty
    if ← skip? ['|'] then return .alt first (← readAlternatives n)
    else return first

/-- The parts of one alternative, behind those already read. -/
def readSequence : Nat → Pattern → Read Pattern
  | 0, _ => failure
  | n + 1, before => do
    skipGaps
    match ← peek with
    | none => return before
    | some '|' => return before
    | some ')' => return before
    | some '(' =>
      let _ ← advance
      let outer := (← get).flags
      match ← readOpening with
      | .flags => readSequence n before
      | .plain =>
        let inner ← readAlternatives n
        readSequence n (.seq before (← readClosed n outer inner))
      | .numbered =>
        let number := (← get).groups
        modify ({ · with groups := number + 1 })
        let inner ← readAlternatives n
        readSequence n (.seq before (← readClosed n outer (.group number inner)))
    | some _ =>
      let p ← readAtom (← advance)
      readSequence n (.seq before (← readRepetitions n p))

/-- The end of a group: its parenthesis and the repetitions behind it. The
    flags from before the group are in force again. -/
def readClosed : Nat → Flags → Pattern → Read Pattern
  | n, outer, p => do
    expect [')']
    modify ({ · with flags := outer })
    readRepetitions n p

end

/-- The largest program that a pattern may need. -/
def maxWeight : Nat :=
  2 ^ 18

/-- The pattern that a text spells. -/
def read? (text : String) : Option Pattern := do
  let cs := text.toList
  let start : ReadState := { rest := cs, flags := {}, groups := 1, names := [] }
  let (p, state) ← (readAlternatives (3 * cs.length + 3)).run start
  if state.rest.isEmpty && p.weight ≤ maxWeight then some p else none

end Pattern

end Concordance
