import Concordance.Decimal.Fixed
import Concordance.Decimal.Reading

/-!
# Formatted Output

What `echo` and `printf` write.

Backslashes introduce characters in both. A format is used again as long as
arguments are left, and conversions that find no argument take an empty text
or zero.

## Main definitions

* `echoed`: What `echo` writes.
* `formatted`: What `printf` writes.
-/

namespace Concordance

namespace Shell

/-- The bytes of a text. -/
def encode (cs : List Char) : List UInt8 :=
  (String.ofList cs).toUTF8.toList

/-- The byte of a letter behind a backslash. -/
def letterByte? : Char → Option UInt8
  | 'a' => some 0x07
  | 'b' => some 0x08
  | 'f' => some 0x0C
  | 'n' => some 0x0A
  | 'r' => some 0x0D
  | 't' => some 0x09
  | 'v' => some 0x0B
  | '\\' => some 0x5C
  | '"' => some 0x22
  | '\'' => some 0x27
  | _ => none

/-- Whether a character is an octal digit. -/
def isOctal (c : Char) : Bool :=
  '0' ≤ c && c ≤ '7'

/-- The byte that some octal digits spell. -/
def octalByte (digits : List Char) : UInt8 :=
  UInt8.ofNat (digits.foldl (fun n d => n * 8 + (d.toNat - 0x30)) 0)

/-- The leading characters of a text that pass a test, at most so many. -/
def takeUpTo (count : Nat) (p : Char → Bool) (cs : List Char) : List Char :=
  (cs.take count).takeWhile p

/-- One character of `echo`, or one escape, and what follows it. `none` where
    the output ends. -/
def echoStep (c : Char) (rest : List Char) : Option (List UInt8 × List Char) :=
  match c, rest with
  | '\\', 'c' :: _ => none
  | '\\', '0' :: rest =>
    let digits := takeUpTo 3 isOctal rest
    some ([octalByte digits], rest.drop digits.length)
  | '\\', '"' :: rest => some (encode ['\\', '"'], rest)
  | '\\', '\'' :: rest => some (encode ['\\', '\''], rest)
  | '\\', d :: rest' =>
    match letterByte? d with
    | some b => some ([b], rest')
    | none => some (encode ['\\'], rest)
  | _, _ => some (encode [c], rest)

/-- The bytes of a text with its escapes replaced, and whether it ended
    early. -/
def echoText : Nat → List Char → List UInt8 × Bool
  | 0, _ => ([], false)
  | _ + 1, [] => ([], false)
  | n + 1, c :: cs =>
    match echoStep c cs with
    | none => ([], true)
    | some (bytes, rest) =>
      let (more, ended) := echoText n rest
      (bytes ++ more, ended)

/-- What `echo` writes for some words. -/
def echoed (words : List String) : List UInt8 :=
  let (words, newline) := match words with
    | "-n" :: words => (words, false)
    | _ => (words, true)
  let text := (" ".intercalate words).toList
  let (bytes, ended) := echoText (text.length + 1) text
  if ended || !newline then bytes else bytes ++ [0x0A]

/-- A conversion of a format. -/
structure Conversion where
  isLeft : Bool
  isZeroPadded : Bool
  width : Nat
  precision : Option Nat
  letter : Char

/-- A piece of a format. -/
inductive FormatPiece where
  | bytes (bs : List UInt8)
  | conversion (c : Conversion)

/-- The conversion that follows a percent sign. -/
def conversion? (cs : List Char) : Option (Conversion × List Char) :=
  let isFlag (c : Char) : Bool := "-0+ #".toList.contains c
  let flags := cs.takeWhile isFlag
  let cs := cs.dropWhile isFlag
  let width := cs.takeWhile Char.isDigit
  let cs := cs.dropWhile Char.isDigit
  let (precision, cs) : Option Nat × List Char := match cs with
    | '.' :: rest => (some (Decimal.natOfDigits (rest.takeWhile Char.isDigit)),
        rest.dropWhile Char.isDigit)
    | _ => (none, cs)
  match cs with
  | letter :: rest =>
    some (⟨flags.contains '-', flags.contains '0', Decimal.natOfDigits width, precision, letter⟩,
      rest)
  | [] => none

/-- The pieces of a format. -/
def formatPieces : Nat → List Char → List FormatPiece
  | 0, _ => []
  | _ + 1, [] => []
  | n + 1, '%' :: '%' :: cs => .bytes [0x25] :: formatPieces n cs
  | n + 1, '%' :: cs =>
    match conversion? cs with
    | some (c, rest) => .conversion c :: formatPieces n rest
    | none => [.bytes [0x25]]
  | n + 1, '\\' :: c :: cs =>
    if isOctal c then
      let digits := takeUpTo 3 isOctal (c :: cs)
      .bytes [octalByte digits] :: formatPieces n ((c :: cs).drop digits.length)
    else match letterByte? c with
      | some b => .bytes [b] :: formatPieces n cs
      | none => .bytes (encode ['\\', c]) :: formatPieces n cs
  | n + 1, c :: cs => .bytes (encode [c]) :: formatPieces n cs

/-- Bytes filled up to a width. -/
def pad (c : Conversion) (filler : UInt8) (bytes : List UInt8) : List UInt8 :=
  let missing := c.width - bytes.length
  if c.isLeft then bytes ++ List.replicate missing 0x20
  else List.replicate missing filler ++ bytes

/-- The digits of a number, in front of them its sign. -/
def spelledNumber (c : Conversion) (n : Int) (base : Nat) : List UInt8 :=
  let digits := Nat.toDigits base n.natAbs
  let digits := List.replicate (c.precision.getD 0 - digits.length) '0' ++ digits
  let sign := if n < 0 then ['-'] else []
  if c.isZeroPadded && !c.isLeft then
    let missing := c.width - (sign.length + digits.length)
    encode (sign ++ List.replicate missing '0' ++ digits)
  else pad c 0x20 (encode (sign ++ digits))

/-- The integer that an argument means, zero if it means none. -/
def integerArgument (s : String) : Int :=
  (s.trimAscii.toString.toInt?).getD 0

/-- The double that an argument means, zero if it means none. -/
def floatArgument (s : String) : Float :=
  (Decimal.read? s.toList).getD 0

/-- What a conversion writes for an argument. -/
def Conversion.apply (c : Conversion) (argument : String) : List UInt8 :=
  let text (bytes : List UInt8) : List UInt8 :=
    pad c 0x20 (match c.precision with
      | some p => bytes.take p
      | none => bytes)
  match c.letter with
  | 's' => text (encode argument.toList)
  | 'b' => text (echoText (argument.length + 1) argument.toList).1
  | 'c' => pad c 0x20 ((encode argument.toList).take 1)
  | 'd' | 'i' | 'u' => spelledNumber c (integerArgument argument) 10
  | 'x' => spelledNumber c (integerArgument argument) 16
  | 'o' => spelledNumber c (integerArgument argument) 8
  | 'f' =>
    pad c (if c.isZeroPadded && !c.isLeft then 0x30 else 0x20)
      (encode (Decimal.fixed (c.precision.getD 6) (floatArgument argument)).toList)
  | letter => encode ['%', letter]

/-- What a format writes once, and the arguments that are left. -/
def formatOnce : List FormatPiece → List String → List UInt8 × List String
  | [], arguments => ([], arguments)
  | .bytes bs :: pieces, arguments =>
    let (more, rest) := formatOnce pieces arguments
    (bs ++ more, rest)
  | .conversion c :: pieces, arguments =>
    let (more, rest) := formatOnce pieces arguments.tail
    (c.apply (arguments.headD "") ++ more, rest)

/-- What a format writes as long as arguments are left. -/
def formatAll : Nat → List FormatPiece → List String → List UInt8
  | 0, _, _ => []
  | n + 1, pieces, arguments =>
    let (bytes, rest) := formatOnce pieces arguments
    if rest.isEmpty || rest.length = arguments.length then bytes
    else bytes ++ formatAll n pieces rest

/-- What `printf` writes for a format and arguments. -/
def formatted (format : String) (arguments : List String) : List UInt8 :=
  formatAll (arguments.length + 1) (formatPieces (format.length + 1) format.toList) arguments

end Shell

end Concordance
