import Concordance.Power

/-!
# Bytes and Characters

From the bytes a program writes to text, and how long texts are cut.

Bytes that are not UTF-8 do not make an output unreadable. Each longest piece
that starts like a character and breaks off becomes one replacement character,
and so does each byte that starts none; what stands between is kept.

Cutting a text to a number of bytes must not split a character. Offsets
between characters are boundaries, and the cut goes back from the limit to
the nearest one.

## Main definitions

* `decodeUtf8`: The text of some bytes, faults replaced.
* `validUtf8?`: The text of some bytes, if they are UTF-8.
* `isBoundary`: Whether an offset lies between two characters.
* `truncate`: A text cut at the last boundary within a limit.

## Theorems

* `byteLength_append`: Bytes of a text are those of its parts.
* `isBoundary_append`, `takeBytes_append`: There is a boundary between two parts.
-/

namespace Concordance

namespace Text

/-- What stands in for bytes that are no character. -/
def replacementCharacter : Char := '\uFFFD'

/-- The bounds of the second byte of a character, by its first byte, and how
    many bytes follow in all. They exclude the overlong forms, the surrogates
    and everything past the last code point. -/
def continuation? (lead : Nat) : Option (Nat × Nat × Nat) :=
  if lead < 0xC2 then none
  else if lead ≤ 0xDF then some (1, 0x80, 0xBF)
  else if lead = 0xE0 then some (2, 0xA0, 0xBF)
  else if lead = 0xED then some (2, 0x80, 0x9F)
  else if lead ≤ 0xEF then some (2, 0x80, 0xBF)
  else if lead = 0xF0 then some (3, 0x90, 0xBF)
  else if lead ≤ 0xF3 then some (3, 0x80, 0xBF)
  else if lead = 0xF4 then some (3, 0x80, 0x8F)
  else none

/-- The bits that the lead byte of a character contributes. -/
def leadBits (lead following : Nat) : Nat :=
  lead % 2 ^ (6 - following)

/-- The character that starts with `lead`, or `none` if it breaks off, and
    how many bytes belong to it in either case, `lead` apart. -/
def nextCharacter (lead : Nat) (rest : List UInt8) : Option Char × Nat :=
  if lead < 0x80 then (some (Char.ofNat lead), 0)
  else match continuation? lead with
    | none => (none, 0)
    | some (count, low, high) => follow count low high (leadBits lead count) 0 rest
where
  /-- Take the bytes that still belong to the character. -/
  follow : Nat → Nat → Nat → Nat → Nat → List UInt8 → Option Char × Nat
  | 0, _, _, value, taken, _ => (some (Char.ofNat value), taken)
  | _ + 1, _, _, _, taken, [] => (none, taken)
  | count + 1, low, high, value, taken, b :: bs =>
    if low ≤ b.toNat && b.toNat ≤ high then
      follow count 0x80 0xBF (value * 64 + b.toNat % 64) (taken + 1) bs
    else (none, taken)

/-- The characters of some bytes, `none` for each fault. -/
def characters : List UInt8 → List (Option Char)
  | [] => []
  | b :: bs =>
    let (c, taken) := nextCharacter b.toNat bs
    c :: characters (bs.drop taken)
termination_by bs => bs.length
decreasing_by
  simp only [List.length_cons, List.length_drop]
  omega

/-- The text of some bytes, each fault replaced. -/
def decodeUtf8 (bytes : List UInt8) : String :=
  String.ofList ((characters bytes).map (·.getD replacementCharacter))

/-- The text of some bytes, if they are UTF-8. -/
def validUtf8? (bytes : List UInt8) : Option String :=
  ((characters bytes).mapM id).map String.ofList

/-- How many bytes a text takes. -/
def byteLength (cs : List Char) : Nat :=
  cs.foldl (fun n c => n + c.utf8Size) 0

/-- Whether an offset in bytes lies between two characters of a text, or at
    one of its ends. -/
def isBoundary : List Char → Nat → Bool
  | _, 0 => true
  | [], _ + 1 => false
  | c :: cs, n => c.utf8Size ≤ n && isBoundary cs (n - c.utf8Size)

/-- The last boundary that is not beyond an offset. -/
def boundaryBefore (cs : List Char) : Nat → Nat
  | 0 => 0
  | n + 1 => if isBoundary cs (n + 1) then n + 1 else boundaryBefore cs n

/-- The leading characters that fit into so many bytes. -/
def takeBytes : List Char → Nat → List Char
  | [], _ => []
  | c :: cs, n => if c.utf8Size ≤ n then c :: takeBytes cs (n - c.utf8Size) else []

/-- A text of at most `limit` bytes as it is, a longer one cut at the last
    boundary within the limit. -/
def truncate (limit : Nat) (cs : List Char) : List Char :=
  if byteLength cs ≤ limit then cs else takeBytes cs (boundaryBefore cs limit)

theorem byteLength_cons (c : Char) (cs : List Char) :
    byteLength (c :: cs) = c.utf8Size + byteLength cs := by
  have hfrom : ∀ (cs : List Char) (n : Nat),
      cs.foldl (fun n c => n + c.utf8Size) n = n + byteLength cs := by
    intro cs
    induction cs with
    | nil => exact fun n => rfl
    | cons d ds ih =>
        intro n
        rw [byteLength, List.foldl_cons, List.foldl_cons, ih, ih, Nat.zero_add, Nat.add_assoc]
  rw [byteLength, List.foldl_cons, Nat.zero_add, hfrom]

theorem byteLength_append (cs ds : List Char) :
    byteLength (cs ++ ds) = byteLength cs + byteLength ds := by
  induction cs with
  | nil => exact (Nat.zero_add _).symm
  | cons c cs ih => rw [List.cons_append, byteLength_cons, byteLength_cons, ih, Nat.add_assoc]

theorem isBoundary_cons (c : Char) (cs : List Char) {n : Nat} (hn : 0 < n) :
    isBoundary (c :: cs) n = (decide (c.utf8Size ≤ n) && isBoundary cs (n - c.utf8Size)) := by
  cases n with
  | zero => exact absurd hn (Nat.lt_irrefl 0)
  | succ n => rfl

/-- There is a boundary between two parts of a text. -/
theorem isBoundary_append (cs ds : List Char) :
    isBoundary (cs ++ ds) (byteLength cs) = true := by
  induction cs with
  | nil => simp [byteLength, isBoundary]
  | cons c cs ih =>
      rw [byteLength_cons, List.cons_append,
        isBoundary_cons c _ (Nat.add_pos_left c.utf8Size_pos _), Nat.add_sub_cancel_left, ih,
        Bool.and_true, decide_eq_true_eq]
      exact Nat.le_add_right _ _

/-- The bytes of a part in front are its characters. -/
theorem takeBytes_append (cs ds : List Char) : takeBytes (cs ++ ds) (byteLength cs) = cs := by
  induction cs with
  | nil =>
      cases ds with
      | nil => rfl
      | cons d ds => exact if_neg (Nat.not_le_of_lt d.utf8Size_pos)
  | cons c cs ih =>
      rw [byteLength_cons, List.cons_append, takeBytes, if_pos (Nat.le_add_right _ _),
        Nat.add_sub_cancel_left, ih]

end Text

end Concordance
