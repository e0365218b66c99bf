import Concordance.Power

/-!
# The ChaCha Key Stream

The stream of words that all random draws are made from.

A block of sixteen words stands in four rows: constants, the two halves of the
key, and the counter with the nonce. A quarter round works on one word of each
row, and since it does the same in all four columns, a column round is one
quarter round on whole rows. A diagonal round is a column round between two
rotations of the rows.

The nonce is zero and the counter, sixty-four bits wide, starts at zero, so
the key alone determines the stream.

## Main definitions

* `Row`: Four words side by side.
* `block`: The words of the stream for one counter.
* `Stream`: A key, the next counter, and the words not yet drawn.
* `Stream.next`: Draws one word.
-/

namespace Concordance

namespace Random

/-- Four words side by side. -/
structure Row where
  w : UInt32
  x : UInt32
  y : UInt32
  z : UInt32

namespace Row

/-- Apply an operation in each column. -/
def zip (f : UInt32 → UInt32 → UInt32) (r s : Row) : Row :=
  ⟨f r.w s.w, f r.x s.x, f r.y s.y, f r.z s.z⟩

/-- Rotate every word toward its high end. -/
def rotateWords (r : Row) (n : UInt32) : Row :=
  let rotate (v : UInt32) : UInt32 := (v <<< n) ||| (v >>> (32 - n))
  ⟨rotate r.w, rotate r.x, rotate r.y, rotate r.z⟩

/-- Rotate the row by one word to the left. -/
def shift (r : Row) : Row :=
  ⟨r.x, r.y, r.z, r.w⟩

/-- The words of a row. -/
def toList (r : Row) : List UInt32 :=
  [r.w, r.x, r.y, r.z]

/-- The row of the first four words of a list, zeros where there are none. -/
def ofList (ws : List UInt32) : Row :=
  ⟨ws.getD 0 0, ws.getD 1 0, ws.getD 2 0, ws.getD 3 0⟩

end Row

/-- Sixteen words in four rows. -/
structure Block where
  a : Row
  b : Row
  c : Row
  d : Row

namespace Block

/-- A quarter round in each column. -/
def columnRound (s : Block) : Block :=
  let a := s.a.zip (· + ·) s.b
  let d := (s.d.zip (· ^^^ ·) a).rotateWords 16
  let c := s.c.zip (· + ·) d
  let b := (s.b.zip (· ^^^ ·) c).rotateWords 12
  let a := a.zip (· + ·) b
  let d := (d.zip (· ^^^ ·) a).rotateWords 8
  let c := c.zip (· + ·) d
  let b := (b.zip (· ^^^ ·) c).rotateWords 7
  ⟨a, b, c, d⟩

/-- Bring the diagonals into the columns. -/
def slant (s : Block) : Block :=
  ⟨s.a, s.b.shift, s.c.shift.shift, s.d.shift.shift.shift⟩

/-- Bring the columns back into the diagonals. -/
def straighten (s : Block) : Block :=
  ⟨s.a, s.b.shift.shift.shift, s.c.shift.shift, s.d.shift⟩

/-- A column round and a diagonal round. -/
def doubleRound (s : Block) : Block :=
  s.columnRound.slant.columnRound.straighten

/-- The words of a block in order. -/
def toList (s : Block) : List UInt32 :=
  s.a.toList ++ s.b.toList ++ s.c.toList ++ s.d.toList

end Block

/-- The block before the rounds. -/
def initialBlock (key : List UInt32) (counter : Nat) : Block :=
  { a := ⟨0x61707865, 0x3320646e, 0x79622d32, 0x6b206574⟩
    b := Row.ofList key
    c := Row.ofList (key.drop 4)
    d := ⟨UInt32.ofNat counter, UInt32.ofNat (counter / 2 ^ 32), 0, 0⟩ }

/-- The words of the stream for one counter, after twenty rounds. -/
def block (key : List UInt32) (counter : Nat) : List UInt32 :=
  let start := initialBlock key counter
  let stirred := (List.range 10).foldl (fun s _ => s.doubleRound) start
  List.zipWith (· + ·) start.toList stirred.toList

/-- A key, the next counter, and the words not yet drawn. -/
structure Stream where
  key : List UInt32
  counter : Nat
  pending : List UInt32

namespace Stream

/-- The word that bytes spell, least significant first. -/
def wordOfBytes (bytes : List UInt8) : UInt32 :=
  bytes.foldr (fun b w => w * 256 + b.toUInt32) 0

/-- The stream of a key of thirty-two bytes. -/
def ofKey (bytes : List UInt8) : Stream :=
  { key := (List.range 8).map fun i => wordOfBytes ((bytes.drop (4 * i)).take 4)
    counter := 0
    pending := [] }

/-- Draw one word. -/
def next (s : Stream) : UInt32 × Stream :=
  match s.pending with
  | w :: rest => (w, { s with pending := rest })
  | [] =>
    let words := block s.key s.counter
    (words.headD 0, { s with counter := s.counter + 1, pending := words.tail })

end Stream

end Random

end Concordance
