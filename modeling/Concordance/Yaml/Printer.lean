import Concordance.Yaml.Cursor
import Concordance.Yaml.Scalar
import Concordance.Decimal.Layout

/-!
# Writing YAML

A tree written as a YAML document in block style.

Mappings are indented by two blanks for each level, sequences stand at the
column of their key, and empty collections are a pair of brackets. A tagged
value is its tag followed by the value.

A text is written as simply as it can be read back. It stands as it is unless
it would be taken for something else or for structure; otherwise it is put
between single quotation marks, and between double ones when a character has
to be escaped. A text of several lines becomes a literal block, if its blanks
survive there.

## Main definitions

* `isPlainSafe`: Whether a text can stand without quotation marks.
* `isSingleSafe`, `isLiteralSafe`: Whether the other layouts can hold a text.
* `scalarText`: A text in the layout chosen for it.
* `document`: The document of a tree.
-/

namespace Concordance

namespace Yaml

/-- Whether a character is shown as it is. Everything else needs an escape. -/
def isPrintable (c : Char) : Bool :=
  let n := c.toNat
  n = 0x0A || (0x20 ≤ n && n ≤ 0x7E) ||
    (0xA0 ≤ n && n ≠ 0xFEFF && n ≠ 0xFFFE && n ≠ 0xFFFF)

/-- Whether a character of one kind is followed by one of another. -/
def hasPair (p q : Char → Bool) : List Char → Bool
  | a :: b :: rest => (p a && q b) || hasPair p q (b :: rest)
  | _ => false

/-- Whether a text has a space in front of a line end. -/
def hasSpaceBreak (cs : List Char) : Bool :=
  hasPair (· = ' ') isBreak cs

/-- Whether a text has a space behind a line end. -/
def hasBreakSpace (cs : List Char) : Bool :=
  hasPair isBreak (· = ' ') cs

/-- Whether a text begins like a piece of structure. -/
def startsLikeMark : List Char → Bool
  | [] => false
  | '-' :: '-' :: '-' :: _ => true
  | '.' :: '.' :: '.' :: _ => true
  | c :: rest =>
    "#,[]\x7b\x7d&*!|>'\"%@`".toList.contains c ||
      ((c = '-' || c = '?' || c = ':') && endsWord rest)

/-- Whether a text holds a colon that ends a word, or a number sign that
    begins one, behind its first character. -/
def holdsMark : List Char → Bool
  | a :: b :: rest =>
    (b = ':' && endsWord rest) || (b = '#' && endsWord [a]) || holdsMark (b :: rest)
  | _ => false

/-- Whether a text can stand without quotation marks. -/
def isPlainSafe (cs : List Char) : Bool :=
  cs.all isPrintable && !cs.any isBreak && cs.head? ≠ some ' ' && cs.getLast? ≠ some ' ' &&
    !startsLikeMark cs && !holdsMark cs

/-- Whether a text can stand between single quotation marks. -/
def isSingleSafe (cs : List Char) : Bool :=
  cs.all isPrintable && !hasSpaceBreak cs && !hasBreakSpace cs

/-- Whether a text can stand in a literal block. -/
def isLiteralSafe (cs : List Char) : Bool :=
  cs.all isPrintable && !hasSpaceBreak cs && cs.getLast? ≠ some ' '

/-- Whether a plain text would be read as something else than itself. -/
def isAmbiguous (s : String) : Bool :=
  match resolve s with
  | .text _ => isZeroPadded s.toList
  | _ => true

/-- So many blanks. -/
def indentation (n : Nat) : List Char :=
  List.replicate n ' '

/-- Characters of a text laid out with line ends as they are, each line but
    empty ones indented. `fresh` says whether a line begins. -/
def indentLines (indent : Nat) (write : Char → List Char) : Bool → List Char → List Char
  | _, [] => []
  | fresh, c :: rest =>
    if isBreak c then c :: indentLines indent write true rest
    else
      (if fresh then indentation indent else []) ++ write c ++ indentLines indent write false rest

/-- A text between single quotation marks, which are doubled inside. -/
def singleQuoted (indent : Nat) (cs : List Char) : List Char :=
  let body := indentLines indent (fun c => if c = '\'' then ['\'', '\''] else [c]) false cs
  let last := if (cs.getLast?.map isBreak).getD false then indentation indent else []
  ['\''] ++ body ++ last ++ ['\'']

/-- The letter of an escape. -/
def escapeLetter? : Char → Option Char
  | '\x00' => some '0'
  | '\x07' => some 'a'
  | '\x08' => some 'b'
  | '\t' => some 't'
  | '\n' => some 'n'
  | '\x0b' => some 'v'
  | '\x0c' => some 'f'
  | '\r' => some 'r'
  | '\x1b' => some 'e'
  | '"' => some '"'
  | '\\' => some '\\'
  | '\u0085' => some 'N'
  | '\u2028' => some 'L'
  | '\u2029' => some 'P'
  | _ => none

/-- So many hexadecimal digits, in capitals. -/
def hexDigits (width n : Nat) : List Char :=
  let digits := (Nat.toDigits 16 n).map Char.toUpper
  List.replicate (width - digits.length) '0' ++ digits

/-- A character between double quotation marks. -/
def escapeDouble (c : Char) : List Char :=
  match escapeLetter? c with
  | some letter => ['\\', letter]
  | none =>
    let n := c.toNat
    if isPrintable c then [c]
    else if n ≤ 0xFF then ['\\', 'x'] ++ hexDigits 2 n
    else if n ≤ 0xFFFF then ['\\', 'u'] ++ hexDigits 4 n
    else ['\\', 'U'] ++ hexDigits 8 n

/-- A text between double quotation marks. -/
def doubleQuoted (cs : List Char) : List Char :=
  ['"'] ++ cs.flatMap escapeDouble ++ ['"']

/-- What the header of a literal block says about the line ends at the end of
    a text. -/
def chompMark (cs : List Char) : List Char :=
  match cs.reverse with
  | a :: b :: _ => if !isBreak a then ['-'] else if isBreak b then ['+'] else []
  | [a] => if isBreak a then ['+'] else ['-']
  | [] => ['-']

/-- A text as a literal block. -/
def literalBlock (indent : Nat) (cs : List Char) : List Char :=
  let starts := (cs.head?.map fun c => c = ' ' || isBreak c).getD false
  ['|'] ++ (if starts then ['2'] else []) ++ chompMark cs ++ ['\n'] ++
    indentLines indent (fun c => [c]) true cs

/-- The layout chosen for a text. -/
def layout (s : String) : Style :=
  let cs := s.toList
  if cs.contains '\n' then if isLiteralSafe cs then .literal else .double
  else if !isAmbiguous s && isPlainSafe cs then .plain
  else if isSingleSafe cs then .single
  else .double

/-- A text in the layout chosen for it. -/
def textScalar (indent : Nat) (s : String) : List Char :=
  let cs := s.toList
  match layout s with
  | .literal => literalBlock indent cs
  | .single => singleQuoted indent cs
  | .double => doubleQuoted cs
  | _ => cs

/-- A tree without parts, its lines indented. -/
def scalarText (indent : Nat) : Datum → List Char
  | .bool b => if b then "true".toList else "false".toList
  | .int n => (toString n).toList
  | .float x => (Decimal.yamlNumber.write x).toList
  | .text s => textScalar indent s
  | .list _ => "[]".toList
  | .map _ => "\x7b\x7d".toList
  | _ => "null".toList

/-- Some characters with a line end behind them, unless one is there. -/
def closeLine (cs : List Char) : List Char :=
  if (cs.getLast?.map isBreak).getD false then cs else cs ++ ['\n']

mutual

/-- What follows the colon of a key at some indentation. -/
def keyed (indent : Nat) : Datum → List Char
  | .list (d :: items) =>
    '\n' :: (indentation indent ++ ['-'] ++ listed indent d ++ itemLines indent items)
  | .map ((k, v) :: entries) =>
    '\n' :: (indentation (indent + 2) ++ scalarText 0 k ++ [':'] ++ keyed (indent + 2) v ++
      entryLines (indent + 2) entries)
  | .variant name payload => [' ', '!'] ++ name.toList ++ keyed indent payload
  | d => closeLine (' ' :: scalarText (indent + 2) d)

/-- What follows the dash of an item at some indentation. -/
def listed (indent : Nat) : Datum → List Char
  | .list (d :: items) =>
    [' ', '-'] ++ listed (indent + 2) d ++ itemLines (indent + 2) items
  | .map ((k, v) :: entries) =>
    ' ' :: (scalarText 0 k ++ [':'] ++ keyed (indent + 2) v ++ entryLines (indent + 2) entries)
  | .variant name payload => [' ', '!'] ++ name.toList ++ listed indent payload
  | d => closeLine (' ' :: scalarText (indent + 2) d)

/-- The items of a sequence at some indentation, each on lines of its own. -/
def itemLines (indent : Nat) : List Datum → List Char
  | [] => []
  | d :: items => indentation indent ++ ['-'] ++ listed indent d ++ itemLines indent items

/-- The entries of a mapping at some indentation, each on lines of its own. -/
def entryLines (indent : Nat) : List (Datum × Datum) → List Char
  | [] => []
  | (k, v) :: entries =>
    indentation indent ++ scalarText 0 k ++ [':'] ++ keyed indent v ++ entryLines indent entries

end

/-- The document of a tree. -/
def document : Datum → String
  | .list (d :: items) => String.ofList (itemLines 0 (d :: items))
  | .map (e :: entries) => String.ofList (entryLines 0 (e :: entries))
  | .variant name payload => String.ofList (['!'] ++ name.toList ++ keyed 0 payload)
  | d => String.ofList (closeLine (scalarText 2 d))

end Yaml

end Concordance
