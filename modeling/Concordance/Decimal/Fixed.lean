import Concordance.Binary64

/-!
# Fixed Places

A double written with a set number of digits after the point.

The certificate prints percentages and test statistics this way. The exact
value of the double is scaled by the power of ten and rounded once, so a
value that lies exactly between two neighbours goes to the even one and no
other value is ever misplaced. The sign is the sign bit, also where the
digits are all zero.

## Main definitions

* `fixed`: The text of a double with so many digits after the point.
-/

namespace Concordance

namespace Decimal

/-- The digits of `n`, with zeros in front up to the given width. -/
def paddedDigits (width n : Nat) : List Char :=
  let digits := Nat.toDigits 10 n
  List.replicate (width - digits.length) '0' ++ digits

/-- The text of a double with `places` digits after the point. -/
def fixed (places : Nat) (x : Float) : String :=
  let sign := if Binary64.isNegative x then "-" else ""
  match Binary64.valueOf? x with
  | none => if x.isNaN then "NaN" else sign ++ "inf"
  | some ⟨_, m, q⟩ =>
    let n := roundDiv (m * 2 ^ q.toNat * 10 ^ places) (2 ^ (-q).toNat) .even
    let digits := paddedDigits (places + 1) n
    let whole := digits.length - places
    sign ++ String.ofList (digits.take whole) ++ "." ++ String.ofList (digits.drop whole)

end Decimal

end Concordance
