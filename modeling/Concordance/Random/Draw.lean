import Concordance.Random.ChaCha

/-!
# Draws

Numbers drawn from a stream of words.

A draw of so many bits is one word, or two with the low one first. A number
below a bound comes from multiplying a draw by the bound and keeping the high
half; draws whose low half falls under a threshold are rejected, which makes
every number equally likely. Rejection happens less than half the time, so a
row of rejections as long as the one allowed for does not occur; the number
is below the bound either way.

Where a tiny unevenness does not matter, a second draw decides whether the
first one is rounded up, and nothing is ever rejected.

## Main definitions

* `Draw`: A computation that draws from a stream.
* `Width`: The two widths of a draw.
* `below`: A number below a bound, every one equally likely.
* `scaled`: A number below a bound, nearly every one equally likely.
* `coin`: A truth value.
-/

namespace Concordance

namespace Random

/-- A computation that draws from a stream. -/
abbrev Draw := StateM Stream

/-- How many bits a draw has. -/
inductive Width where
  | single
  | double

/-- The number of bits. -/
def Width.bits : Width → Nat
  | .single => 32
  | .double => 64

/-- One word. -/
def word : Draw UInt32 :=
  fun s => s.next

/-- A number of the given width, the low word first. -/
def raw : Width → Draw Nat
  | .single => do return (← word).toNat
  | .double => do
    let low ← word
    let high ← word
    return low.toNat + high.toNat * 2 ^ 32

/-- Draw until the low half of the product reaches the threshold, or the
    attempts are used up. -/
def accept (width : Width) (count threshold : Nat) : Nat → Draw Nat
  | 0 => do return (← raw width) * count / 2 ^ width.bits
  | attempts + 1 => do
    let product := (← raw width) * count
    if threshold ≤ product % 2 ^ width.bits then return product / 2 ^ width.bits
    else accept width count threshold attempts

/-- A number below `count`, every one equally likely. -/
def below (width : Width) (count : Nat) : Draw Nat :=
  if count = 2 ^ width.bits then raw width
  else accept width count ((2 ^ width.bits - count) % count) 255

/-- A number below `count`, nearly every one equally likely. -/
def scaled (width : Width) (count : Nat) : Draw Nat := do
  let product := (← raw width) * count
  let high := product / 2 ^ width.bits
  let low := product % 2 ^ width.bits
  if 2 ^ width.bits - count < low then
    let carry := (← raw width) * count / 2 ^ width.bits
    return if 2 ^ width.bits ≤ low + carry then high + 1 else high
  else return high

/-- A truth value, the high bit of one word. -/
def coin : Draw Bool := do
  return 2 ^ 31 ≤ (← word).toNat

/-- So many draws, in order. -/
def several {α : Type} (draw : Draw α) : Nat → Draw (List α)
  | 0 => return []
  | n + 1 => do
    let x ← draw
    let xs ← several draw n
    return x :: xs

end Random

end Concordance
