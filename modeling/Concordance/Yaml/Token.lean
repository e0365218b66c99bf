import Concordance.Yaml.Quote

/-!
# YAML Tokens

A YAML text cut into tokens.

Block structure is not written with brackets but shown by columns, so the
tokens that open and close it are inferred. A collection opens when an entry
or a key stands further right than everything around it, and closes when a
line starts further left.

A key is recognised late, by the colon behind it. Wherever a key might start,
the place is remembered, one for each level of brackets, until a colon makes
it a key or the line ends. A place that has to be a key, because the line
begins at the column of the mapping around it, must not be given up.

## Main definitions

* `Token`: A piece of structure, a property, or a scalar.
* `KeyPlace`: A place where a key might start.
* `Lexer`: How far the cutting has come.
* `Lexer.step?`: Cuts off the next token.
* `tokens?`: Cuts a whole text.
-/

namespace Concordance

namespace Yaml

/-- A piece of structure, a property, or a scalar. -/
inductive Token where
  | version (major minor : Nat)
  | tagHandle (handle start : String)
  | documentStart
  | documentEnd
  | openSequence
  | openMapping
  | closeBlock
  | openFlowSequence
  | closeFlowSequence
  | openFlowMapping
  | closeFlowMapping
  | entry
  | flowEntry
  | key
  | value
  | alias (name : String)
  | anchor (name : String)
  | tag (handle suffix : String)
  | scalar (text : String) (style : Style)
deriving DecidableEq

/-- A place where a key might start. `token` counts the tokens before it. -/
structure KeyPlace where
  required : Bool
  token : Nat
  index : Nat
  line : Nat
  column : Nat

/-- How far the cutting has come. `column` is the one of the innermost open
    block collection, `columns` those around it; `places` has one element for
    each level of brackets, the innermost first. -/
structure Lexer where
  cursor : Cursor
  tokens : List Token
  column : Int
  columns : List Int
  keyAllowed : Bool
  places : List (Option KeyPlace)

namespace Lexer

/-- The start of a text. -/
def start (cs : List Char) : Lexer :=
  ⟨Cursor.ofList cs, [], -1, [], true, [none]⟩

/-- Whether the place is inside brackets. -/
def inFlow (s : Lexer) : Bool :=
  1 < s.places.length

/-- Add a token behind the others. -/
def push (s : Lexer) (t : Token) : Lexer :=
  { s with tokens := s.tokens ++ [t] }

/-- Step over some characters and add a token. -/
def take (s : Lexer) (n : Nat) (t : Token) : Lexer :=
  { s with cursor := s.cursor.advanceBy n }.push t

/-- Give up the innermost place, unless it has to be a key. -/
def forgetPlace? (s : Lexer) : Option Lexer :=
  match s.places with
  | some place :: rest => if place.required then none else some { s with places := none :: rest }
  | _ => some s

/-- Remember that a key might start here. -/
def rememberPlace? (s : Lexer) : Option Lexer := do
  if !s.keyAllowed then return s
  let s ← s.forgetPlace?
  let place : KeyPlace :=
    { required := !s.inFlow && s.column = s.cursor.column
      token := s.tokens.length
      index := s.cursor.index
      line := s.cursor.line
      column := s.cursor.column }
  return { s with places := some place :: s.places.drop 1 }

/-- Give up every place that lies on an earlier line or too far back. -/
def forgetStale? (s : Lexer) : Option Lexer := do
  let places ← s.places.mapM fun p => match p with
    | none => some none
    | some place =>
      if place.line < s.cursor.line || place.index + 1024 < s.cursor.index then
        if place.required then none else some none
      else some (some place)
  return { s with places := places }

/-- Open a block collection at a column further right than the innermost one,
    its token behind the first `position` others. -/
def openBlock (s : Lexer) (column : Nat) (position : Nat) (t : Token) : Lexer :=
  if s.inFlow || column ≤ s.column then s
  else
    { s with
      columns := s.column :: s.columns
      column := column
      tokens := s.tokens.take position ++ t :: s.tokens.drop position }

/-- Close every block collection further right than a column. -/
def closeBlocks (s : Lexer) (column : Int) : Lexer :=
  if s.inFlow then s else go s s.columns
where
  /-- Close the innermost collection, then those around it. -/
  go (s : Lexer) : List Int → Lexer
  | [] => s
  | outer :: rest =>
    if column < s.column then go { s.push .closeBlock with column := outer, columns := rest } rest
    else s

/-- Skip blanks, comments and empty lines. A new line outside of brackets may
    start with a key; a tab counts as a blank only where no key may start. -/
def skipFiller : Nat → Lexer → Lexer
  | 0, s => s
  | fuel + 1, s =>
    match s.cursor.rest with
    | [] => s
    | c :: _ =>
      if c = '\ufeff' && s.cursor.index = 0 then
        skipFiller fuel { s with cursor := s.cursor.advance }
      else if c = ' ' || (c = '\t' && (s.inFlow || !s.keyAllowed)) then
        skipFiller fuel { s with cursor := s.cursor.advance }
      else if c = '#' then skipFiller fuel { s with cursor := s.cursor.skipToBreak }
      else if isBreak c then
        skipFiller fuel
          { s with cursor := s.cursor.lineBreak.2, keyAllowed := s.keyAllowed || !s.inFlow }
      else s

/-- Whether a character may be part of an anchor or a directive. -/
def isNameChar (c : Char) : Bool :=
  c.isAlphanum || c = '_' || c = '-'

/-- Whether a character may be part of a tag. -/
def isTagChar (c : Char) : Bool :=
  isNameChar c || (";/?:@&=+$.!~*'()").toList.contains c

/-- The bytes of an escaped character in a tag, each behind a percent sign,
    and what follows them. -/
def escapedByte? : List Char → Option (Nat × List Char)
  | '%' :: a :: b :: rest => do
    return ((← digitValue? a) * 16 + (← digitValue? b), rest)
  | _ => none

/-- The characters of a tag, escapes decoded, and the place behind them. Only
    escapes of single bytes below the first of a longer character denote
    themselves; longer ones are taken together. -/
def tagChars? (verbatim : Bool) : Nat → Cursor → Option (List Char × Cursor)
  | 0, cur => some ([], cur)
  | fuel + 1, cur =>
    match cur.rest with
    | '%' :: rest => do
      let (n, after) ← escapedByte? ('%' :: rest)
      let width ←
        if n < 0x80 then some 1 else if n < 0xC0 then none
        else if n < 0xE0 then some 2 else if n < 0xF0 then some 3
        else if n < 0xF8 then some 4 else none
      let (value, _) ← (List.range (width - 1)).foldlM (fun (value, rest) _ => do
        let (b, rest) ← escapedByte? rest
        if b / 64 = 2 then some (value * 64 + b % 64, rest) else none)
        (n % 2 ^ (if width = 1 then 7 else 7 - width), after)
      let (cs, next) ← tagChars? verbatim fuel (cur.advanceBy (3 * width))
      return (Char.ofNat value :: cs, next)
    | c :: _ =>
      if isTagChar c || (verbatim && (c = ',' || c = '[' || c = ']')) then do
        let (cs, next) ← tagChars? verbatim fuel cur.advance
        return (c :: cs, next)
      else some ([], cur)
    | [] => some ([], cur)

/-- A tag between angle brackets, behind the opening one. -/
def verbatimTag? (cur : Cursor) : Option (Token × Cursor) := do
  let (uri, cur) ← tagChars? true cur.rest.length cur
  if uri.isEmpty then none
  else match cur.rest with
    | '>' :: _ => return (.tag "" (String.ofList uri), cur.advance)
    | _ => none

/-- A tag that is a handle and a suffix, or only a suffix behind one mark. -/
def shortTag? (cur : Cursor) : Option (Token × Cursor) := do
  let (name, behind) := cur.advance.run isNameChar
  match behind.rest with
  | '!' :: _ =>
    let (suffix, cur) ← tagChars? false behind.rest.length behind.advance
    if suffix.isEmpty then none
    else return (.tag (String.ofList ('!' :: name ++ ['!'])) (String.ofList suffix), cur)
  | _ =>
    let (suffix, cur) ← tagChars? false behind.rest.length behind
    let suffix := name ++ suffix
    if suffix.isEmpty then return (.tag "" "!", cur)
    else return (.tag "!" (String.ofList suffix), cur)

/-- A tag, which has to end with a blank, a line end, or a comma inside
    brackets. -/
def tag? (flow : Bool) (cur : Cursor) : Option (Token × Cursor) := do
  let (t, cur) ← match cur.rest with
    | '!' :: '<' :: _ => verbatimTag? (cur.advanceBy 2)
    | _ => shortTag? cur
  if endsWord cur.rest || (flow && cur.rest.head? = some ',') then return (t, cur) else none

/-- The name of an anchor or alias behind its mark. -/
def name? (cur : Cursor) : Option (String × Cursor) :=
  let (name, cur) := cur.run isNameChar
  let ends := match cur.rest with
    | c :: _ => "?:,]\x7d%@`".toList.contains c
    | [] => true
  if name.isEmpty || !(endsWord cur.rest || ends) then none
  else some (String.ofList name, cur)

/-- A number of a version directive. -/
def versionNumber? (cur : Cursor) : Option (Nat × Cursor) :=
  let (digits, cur) := cur.run Char.isDigit
  if digits.isEmpty || 9 < digits.length then none
  else some (Decimal.natOfDigits digits, cur)

/-- The handle that a tag directive introduces. -/
def directiveHandle? (cur : Cursor) : Option (String × Cursor) :=
  match cur.rest with
  | '!' :: _ =>
    let (name, cur) := cur.advance.run isNameChar
    match cur.rest with
    | '!' :: _ => some (String.ofList ('!' :: name ++ ['!']), cur.advance)
    | _ => if name.isEmpty then some ("!", cur) else none
  | _ => none

/-- A directive behind its percent sign. -/
def directive? (cur : Cursor) : Option (Token × Cursor) := do
  let (name, cur) := cur.run isNameChar
  if !(endsWord cur.rest) then none
  else
    let (t, cur) ←
      if name = "YAML".toList then do
        let (major, cur) ← versionNumber? cur.skipBlanks
        match cur.rest with
        | '.' :: _ =>
          let (minor, cur) ← versionNumber? cur.advance
          some (Token.version major minor, cur)
        | _ => none
      else if name = "TAG".toList then do
        let (handle, cur) ← directiveHandle? cur.skipBlanks
        match cur.rest with
        | c :: _ =>
          if !isInlineBlank c then none
          else do
            let cur := cur.skipBlanks
            let (start, cur) ← tagChars? true cur.rest.length cur
            if start.isEmpty || !endsWord cur.rest then none
            else some (Token.tagHandle handle (String.ofList start), cur)
        | [] => none
      else none
    let cur ← cur.restOfLine?
    return (t, cur.lineBreak.2)

/-- Leave all block collections, where a document or a directive starts. -/
def leaveDocument? (s : Lexer) : Option Lexer := do
  let s ← (s.closeBlocks (-1)).forgetPlace?
  return { s with keyAllowed := false }

/-- Whether a collection or a key may be opened with an indicator here. -/
def mayIndicate (s : Lexer) : Bool :=
  s.inFlow || s.keyAllowed

/-- An opening bracket. -/
def openFlow? (s : Lexer) (t : Token) : Option Lexer := do
  let s ← s.rememberPlace?
  return { s with places := none :: s.places, keyAllowed := true }.take 1 t

/-- A closing bracket. -/
def closeFlow? (s : Lexer) (t : Token) : Option Lexer := do
  let s ← s.forgetPlace?
  let places := if s.inFlow then s.places.drop 1 else s.places
  return { s with places := places, keyAllowed := false }.take 1 t

/-- A comma inside brackets. -/
def flowEntry? (s : Lexer) : Option Lexer := do
  let s ← s.forgetPlace?
  return { s with keyAllowed := true }.take 1 .flowEntry

/-- The indicator of an entry of a block sequence. -/
def blockEntry? (s : Lexer) : Option Lexer := do
  if !s.mayIndicate then none
  else
    let s ← (s.openBlock s.cursor.column s.tokens.length .openSequence).forgetPlace?
    return { s with keyAllowed := true }.take 1 .entry

/-- The indicator of a key. -/
def keyMark? (s : Lexer) : Option Lexer := do
  if !s.mayIndicate then none
  else
    let s ← (s.openBlock s.cursor.column s.tokens.length .openMapping).forgetPlace?
    return { s with keyAllowed := !s.inFlow }.take 1 .key

/-- The indicator of a value. Where a place for a key is remembered, the key
    starts there, and so does its mapping if it is not open yet. -/
def valueMark? (s : Lexer) : Option Lexer :=
  match s.places with
  | some place :: rest =>
    let before := s.tokens.take place.token
    let s := { s with
      tokens := before ++ Token.key :: s.tokens.drop place.token
      places := none :: rest
      keyAllowed := false }
    some ((s.openBlock place.column place.token .openMapping).take 1 .value)
  | _ =>
    if !s.mayIndicate then none
    else
      let s := s.openBlock s.cursor.column s.tokens.length .openMapping
      some ({ s with keyAllowed := !s.inFlow }.take 1 .value)

/-- An anchor, alias or tag, which may begin a key. -/
def property? (s : Lexer) (read : Cursor → Option (Token × Cursor)) : Option Lexer := do
  let s ← s.rememberPlace?
  let (t, cur) ← read s.cursor
  return { s with keyAllowed := false, cursor := cur }.push t

/-- A block scalar, which is never a key. -/
def blockScalar? (s : Lexer) (folded : Bool) : Option Lexer := do
  let s ← s.forgetPlace?
  let (text, cur) ← block? folded s.column s.cursor.advance
  let style := if folded then Style.folded else Style.literal
  return { s with keyAllowed := true, cursor := cur }.push (.scalar (String.ofList text) style)

/-- A quoted scalar. -/
def quotedScalar? (s : Lexer) (single : Bool) : Option Lexer :=
  s.property? fun cur => do
    let (text, cur) ← quoted? single (cur.rest.length + 1) [] cur.advance
    return (.scalar (String.ofList text) (if single then .single else .double), cur)

/-- A plain scalar. A key may follow it when it ended with its line. -/
def plainScalar? (s : Lexer) : Option Lexer := do
  let s ← s.rememberPlace?
  let fuel := s.cursor.rest.length + 1
  let p ← plain? s.inFlow (s.column + 1).toNat fuel Gap.none [] s.cursor
  return { s with keyAllowed := p.broken, cursor := p.cursor }.push
    (.scalar (String.ofList p.text) .plain)

/-- Whether a plain scalar may begin here. -/
def startsPlain (flow : Bool) : List Char → Bool
  | [] => false
  | '-' :: rest => match rest with
    | c :: _ => !isInlineBlank c
    | [] => true
  | c :: rest =>
    if c = '?' || c = ':' then !flow && !endsWord rest
    else !(isInlineBlank c || isBreak c || ",[]\x7b\x7d#&*!|>'\"%@`".toList.contains c)

/-- Cut off the next token, `none` if there is none to cut, or report the end
    of the text. -/
def step? (s : Lexer) : Option (Lexer × Bool) := do
  let s := skipFiller (s.cursor.rest.length + 1) s
  let s ← s.forgetStale?
  let s := s.closeBlocks s.cursor.column
  let more (s : Option Lexer) : Option (Lexer × Bool) := s.map fun s => (s, true)
  match s.cursor.rest with
  | [] =>
    let s ← (s.closeBlocks (-1)).forgetPlace?
    return (s, false)
  | c :: rest =>
    if c = '%' && s.cursor.column = 0 then
      let s ← s.leaveDocument?
      let (t, cur) ← directive? s.cursor.advance
      return ({ s with cursor := cur }.push t, true)
    else if s.cursor.atMark then
      let s ← s.leaveDocument?
      return (s.take 3 (if c = '-' then .documentStart else .documentEnd), true)
    else match c with
    | '[' => more (s.openFlow? .openFlowSequence)
    | '\x7b' => more (s.openFlow? .openFlowMapping)
    | ']' => more (s.closeFlow? .closeFlowSequence)
    | '\x7d' => more (s.closeFlow? .closeFlowMapping)
    | ',' => more s.flowEntry?
    | '*' => more (s.property? fun cur => (name? cur.advance).map fun r => (.alias r.1, r.2))
    | '&' => more (s.property? fun cur => (name? cur.advance).map fun r => (.anchor r.1, r.2))
    | '!' => more (s.property? (tag? s.inFlow))
    | '\'' => more (s.quotedScalar? true)
    | '"' => more (s.quotedScalar? false)
    | _ =>
      if c = '-' && endsWord rest then more s.blockEntry?
      else if c = '?' && (s.inFlow || endsWord rest) then more s.keyMark?
      else if c = ':' && (s.inFlow || endsWord rest) then more s.valueMark?
      else if c = '|' && !s.inFlow then more (s.blockScalar? false)
      else if c = '>' && !s.inFlow then more (s.blockScalar? true)
      else if startsPlain s.inFlow (c :: rest) then more s.plainScalar?
      else none

/-- Cut until the end of the text. -/
def run? : Nat → Lexer → Option (List Token)
  | 0, _ => none
  | fuel + 1, s => do
    let (s, going) ← s.step?
    if going then run? fuel s else return s.tokens

end Lexer

/-- Whether a character may stand in a YAML text. -/
def isAllowed (c : Char) : Bool :=
  let n := c.toNat
  c = '\t' || c = '\n' || c = '\r' || (0x20 ≤ n && n ≤ 0x7E) || n = 0x85 ||
    (0xA0 ≤ n && n ≤ 0xD7FF) || (0xE000 ≤ n && n ≤ 0xFFFD) || 0x10000 ≤ n

/-- The tokens of a text. Every token takes a character, so the length of the
    text bounds their number. -/
def tokens? (text : String) : Option (List Token) :=
  let cs := text.toList
  if cs.all isAllowed then Lexer.run? (cs.length + 1) (Lexer.start cs) else none

end Yaml

end Concordance
