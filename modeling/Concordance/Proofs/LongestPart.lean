import Concordance.Text.Utf8
import Mathlib.Order.Nat

/-!
# Texts Cut to a Number of Bytes

What is left of a text that is cut to a number of bytes.

A text is cut in its bytes. Where a character starts can be told from the byte that is there, so
the cut goes back from the limit, one byte at a time, until there is such a byte. Two things
could go wrong in this: there might be no byte left to go back by, and the text might be cut
within a character. `cut?` does what is done to the bytes and says when one of them happens.

It never does, and the bytes that are left are those of the characters that `truncate` keeps.
For this the bytes at which characters start have to be the boundaries between the characters,
which is what `isStart_bytes` says. All else is said of characters. No character has more than
four bytes, so the last boundary is at most three bytes before the limit.

## Main definitions

* `bytesOf`: The bytes of a text.
* `isStart`, `goBack?`, `cut?`: Bytes that are cut, if this is possible.
* `IsLongestPart`: What should be left of the bytes.

## Theorems

* `isStart_bytes`: Characters start at the boundaries.
* `boundaryBefore_spec`: The last boundary within a limit.
* `goBack?_bytes`: The way back to it has an end.
* `truncate_append`: What is kept of a text ends there.
* `cut?_bytesOf`: Every text can be cut, and the longest part that fits is left.
-/

namespace Concordance

namespace Text

/-- The bytes of a text. -/
def bytesOf (text : String) : List UInt8 :=
  text.toByteArray.data.toList

/-- Whether an offset is at the beginning or the end of some bytes, or a character starts there. -/
def isStart (bytes : List UInt8) (n : Nat) : Bool :=
  n == 0 || n == bytes.length || bytes[n]?.any fun b => decide b.IsUTF8FirstByte

/-- Go back from an offset to where a character starts, `none` if there is nothing to go back
    by before this. -/
def goBack? (bytes : List UInt8) : Nat → Option Nat
  | 0 => if isStart bytes 0 then some 0 else none
  | n + 1 => if isStart bytes (n + 1) then some (n + 1) else goBack? bytes n

/-- Bytes of which there are no more than the limit as they are, and more of them cut where the
    way back from the limit ends, `none` if it does not or if this is within a character. -/
def cut? (limit : Nat) (bytes : List UInt8) : Option (List UInt8) :=
  if bytes.length ≤ limit then some bytes
  else (goBack? bytes limit).bind fun n => if isStart bytes n then some (bytes.take n) else none

/-- The longest of the parts in front that have no more bytes than the limit and do not end
    within a character. -/
structure IsLongestPart (limit : Nat) (bytes part : List UInt8) : Prop where
  isPart : part <+: bytes
  isStart : isStart bytes part.length = true
  length_le : part.length ≤ limit
  longest : ∀ other, other <+: bytes → Text.isStart bytes other.length = true →
    other.length ≤ limit → other <+: part

/-! ### Bytes of characters -/

/-- The bytes of some characters. -/
def bytes (cs : List Char) : List UInt8 :=
  cs.flatMap String.utf8EncodeChar

theorem bytesOf_ofList (cs : List Char) : bytesOf (String.ofList cs) = bytes cs := by
  rw [bytesOf, String.toByteArray_ofList, List.utf8Encode, List.toList_data_toByteArray, bytes]

theorem bytesOf_eq (text : String) : bytesOf text = bytes text.toList := by
  rw [← bytesOf_ofList, String.ofList_toList]

theorem length_bytesOf (text : String) : (bytesOf text).length = text.utf8ByteSize := by
  rw [bytesOf, Array.length_toList]
  rfl

theorem bytes_append (cs ds : List Char) : bytes (cs ++ ds) = bytes cs ++ bytes ds :=
  List.flatMap_append

theorem bytes_cons (c : Char) (cs : List Char) :
    bytes (c :: cs) = String.utf8EncodeChar c ++ bytes cs :=
  List.flatMap_cons

theorem length_bytes (cs : List Char) : (bytes cs).length = byteLength cs := by
  induction cs with
  | nil => rfl
  | cons c cs ih =>
      rw [bytes_cons, List.length_append, String.length_utf8EncodeChar, ih, byteLength_cons]

/-! ### Where characters start -/

theorem isStart_iff {bytes : List UInt8} {n : Nat} : isStart bytes n = true ↔
    n = 0 ∨ n = bytes.length ∨ ∃ b, bytes[n]? = some b ∧ b.IsUTF8FirstByte := by
  unfold isStart
  rw [Bool.or_eq_true, Bool.or_eq_true, beq_iff_eq, beq_iff_eq, Option.any_eq_true, or_assoc]
  simp only [decide_eq_true_eq]

/-- Within the bytes of a character no other starts. -/
theorem isStart_inside {c : Char} {n : Nat} (hpos : 0 < n) (hlt : n < c.utf8Size)
    (rest : List UInt8) : isStart (String.utf8EncodeChar c ++ rest) n = false := by
  have hn : n < (String.utf8EncodeChar c).length := by rwa [String.length_utf8EncodeChar]
  rw [← Bool.not_eq_true, isStart_iff, List.getElem?_append_left hn, List.length_append]
  rintro (hzero | hlength | ⟨b, hb, hfirst⟩)
  · omega
  · omega
  · rw [List.getElem?_eq_getElem hn, Option.some_inj] at hb
    rw [← hb, UInt8.isUTF8FirstByte_getElem_utf8EncodeChar] at hfirst
    omega

/-- A character starts wherever another one ends. -/
theorem isStart_bytes_zero (cs : List Char) (front : List UInt8) :
    isStart (front ++ bytes cs) front.length = true := by
  rw [isStart_iff]
  cases cs with
  | nil =>
      refine .inr (.inl ?_)
      rw [List.length_append]
      rfl
  | cons c cs =>
      have hpos : 0 < (String.utf8EncodeChar c).length := by
        rw [String.length_utf8EncodeChar]
        exact c.utf8Size_pos
      refine .inr (.inr ⟨(String.utf8EncodeChar c)[0], ?_,
        UInt8.isUTF8FirstByte_getElem_utf8EncodeChar.mpr rfl⟩)
      rw [List.getElem?_append_right (Nat.le_refl _), Nat.sub_self, bytes_cons,
        List.getElem?_append_left hpos, List.getElem?_eq_getElem hpos]

/-- What comes before makes no difference to where characters start. -/
theorem isStart_append (front : List UInt8) (cs : List Char) (n : Nat) :
    isStart (front ++ bytes cs) (front.length + n) = isStart (bytes cs) n := by
  cases n with
  | zero => exact isStart_bytes_zero cs front
  | succ n =>
      rw [Bool.eq_iff_iff, isStart_iff, isStart_iff, List.length_append,
        List.getElem?_append_right (Nat.le_add_right _ _), Nat.add_sub_cancel_left,
        Nat.add_left_cancel_iff]
      have hfront : front.length + (n + 1) ≠ 0 := by omega
      rw [or_iff_right hfront, or_iff_right (Nat.succ_ne_zero n)]

/-- Characters start at the boundaries between characters. -/
theorem isStart_bytes (cs : List Char) (n : Nat) : isStart (bytes cs) n = isBoundary cs n := by
  induction cs generalizing n with
  | nil =>
      cases n with
      | zero => rfl
      | succ n => rfl
  | cons c cs ih =>
      cases n with
      | zero => rfl
      | succ n =>
          have hcons := isBoundary_cons c cs (n := n + 1) (Nat.succ_pos n)
          rw [hcons, bytes_cons]
          -- Behind the first character an offset is one into the rest, and before its end it is
          -- no boundary.
          by_cases hsize : c.utf8Size ≤ n + 1
          · obtain ⟨m, hm⟩ := Nat.exists_eq_add_of_le hsize
            rw [decide_eq_true hsize, Bool.true_and, hm, Nat.add_sub_cancel_left, ← ih m,
              ← String.length_utf8EncodeChar, isStart_append]
          · rw [decide_eq_false hsize, Bool.false_and]
            exact isStart_inside (Nat.succ_pos n) (Nat.lt_of_not_le hsize) _

/-! ### The last boundary within a limit -/

/-- A boundary is where a part in front ends. -/
theorem exists_append_of_isBoundary {cs : List Char} {n : Nat} (h : isBoundary cs n = true) :
    ∃ front back, cs = front ++ back ∧ byteLength front = n := by
  induction cs generalizing n with
  | nil =>
      cases n with
      | zero => exact ⟨[], [], rfl, rfl⟩
      | succ n => exact absurd h Bool.false_ne_true
  | cons c cs ih =>
      cases n with
      | zero => exact ⟨[], c :: cs, rfl, rfl⟩
      | succ n =>
          rw [isBoundary_cons c cs (Nat.succ_pos n), Bool.and_eq_true, decide_eq_true_eq] at h
          obtain ⟨front, back, rfl, hfront⟩ := ih h.2
          refine ⟨c :: front, back, rfl, ?_⟩
          rw [byteLength_cons, hfront]
          omega

theorem boundaryBefore_spec (cs : List Char) (n : Nat) :
    isBoundary cs (boundaryBefore cs n) = true ∧ boundaryBefore cs n ≤ n ∧
      ∀ m ≤ n, isBoundary cs m = true → m ≤ boundaryBefore cs n := by
  induction n with
  | zero =>
      refine ⟨?_, Nat.le_refl 0, fun m hm _ => hm⟩
      cases cs <;> rfl
  | succ n ih =>
      unfold boundaryBefore
      split
      · rename_i hboundary
        exact ⟨hboundary, Nat.le_refl _, fun m hm _ => hm⟩
      · rename_i hinside
        obtain ⟨hboundary, hle, hlast⟩ := ih
        refine ⟨hboundary, Nat.le_succ_of_le hle, fun m hm hm' => ?_⟩
        -- The offset itself is no boundary, so one within it is before it.
        obtain rfl | hlt := Nat.eq_or_lt_of_le hm
        · exact absurd hm' hinside
        · exact hlast m (Nat.le_of_lt_succ hlt) hm'

/-- No offset into a text is more than three bytes behind a boundary. -/
theorem exists_isBoundary (cs : List Char) {n : Nat} (hn : n ≤ byteLength cs) :
    ∃ m ≤ n, isBoundary cs m = true ∧ n ≤ m + 3 := by
  induction cs generalizing n with
  | nil => exact ⟨0, Nat.zero_le n, rfl, Nat.le_add_right_of_le hn⟩
  | cons c cs ih =>
      by_cases hsize : c.utf8Size ≤ n
      · rw [byteLength_cons] at hn
        obtain ⟨m, hm, hboundary, hnear⟩ := ih (n := n - c.utf8Size) (by omega)
        refine ⟨c.utf8Size + m, by omega, ?_, by omega⟩
        rw [isBoundary_cons c cs (Nat.add_pos_left c.utf8Size_pos m), Nat.add_sub_cancel_left,
          hboundary, decide_eq_true (Nat.le_add_right _ _)]
        rfl
      -- The offset is within the first character.
      · have hfour := c.utf8Size_le_four
        exact ⟨0, Nat.zero_le n, rfl, by omega⟩

theorem le_boundaryBefore_add (cs : List Char) {n : Nat} (hn : n ≤ byteLength cs) :
    n ≤ boundaryBefore cs n + 3 := by
  obtain ⟨m, hm, hboundary, hnear⟩ := exists_isBoundary cs hn
  have hlast := (boundaryBefore_spec cs n).2.2 m hm hboundary
  omega

/-- The way back through the bytes ends at the last boundary. -/
theorem goBack?_bytes (cs : List Char) (n : Nat) :
    goBack? (bytes cs) n = some (boundaryBefore cs n) := by
  induction n with
  | zero => rfl
  | succ n ih =>
      unfold goBack? boundaryBefore
      rw [isStart_bytes, ih]
      split <;> rfl

/-! ### What is left -/

/-- A text that is too long is kept up to the last boundary. -/
theorem truncate_append {limit : Nat} {cs : List Char} (h : limit < byteLength cs) :
    ∃ back, cs = truncate limit cs ++ back ∧
      byteLength (truncate limit cs) = boundaryBefore cs limit := by
  obtain ⟨front, back, hcs, hfront⟩ :=
    exists_append_of_isBoundary (boundaryBefore_spec cs limit).1
  have hkept : truncate limit cs = front := by
    rw [truncate, if_neg (Nat.not_le_of_lt h), ← hfront]
    rw [hcs]
    exact takeBytes_append front back
  rw [hkept]
  exact ⟨back, hcs, hfront⟩

theorem truncate_of_le {limit : Nat} {cs : List Char} (h : byteLength cs ≤ limit) :
    truncate limit cs = cs :=
  if_pos h

theorem isLongestPart_self {limit : Nat} {cs : List Char} (h : byteLength cs ≤ limit) :
    IsLongestPart limit (bytes cs) (bytes cs) where
  isPart := List.prefix_refl _
  isStart := isStart_iff.mpr (.inr (.inl rfl))
  length_le := (length_bytes cs).trans_le h
  longest _ hother _ _ := hother

/-- The bytes that are kept are those in front. -/
theorem bytes_truncate {limit : Nat} {cs : List Char} (h : limit < byteLength cs) :
    bytes (truncate limit cs) <+: bytes cs ∧
      (bytes (truncate limit cs)).length = boundaryBefore cs limit := by
  obtain ⟨back, hcs, hlength⟩ := truncate_append h
  exact ⟨⟨bytes back, by rw [← bytes_append, ← hcs]⟩, (length_bytes _).trans hlength⟩

theorem isLongestPart_truncate {limit : Nat} {cs : List Char} (h : limit < byteLength cs) :
    IsLongestPart limit (bytes cs) (bytes (truncate limit cs)) := by
  obtain ⟨hpart, hlength⟩ := bytes_truncate h
  obtain ⟨hboundary, hle, hlast⟩ := boundaryBefore_spec cs limit
  rw [← hlength] at hboundary hle hlast
  refine ⟨hpart, (isStart_bytes cs _).trans hboundary, hle, fun other hother hstart hfits => ?_⟩
  -- Of two parts in front of the same bytes the shorter one is in front of the other.
  have hshorter := hlast other.length hfits ((isStart_bytes cs _).symm.trans hstart)
  exact List.prefix_of_prefix_length_le hother hpart hshorter

theorem cut?_of_lt {limit : Nat} {cs : List Char} (h : limit < byteLength cs) :
    cut? limit (bytes cs) = some (bytes (truncate limit cs)) := by
  obtain ⟨hpart, hlength⟩ := bytes_truncate h
  have htake : (bytes cs).take (boundaryBefore cs limit) = bytes (truncate limit cs) := by
    rw [← hlength]
    exact (List.prefix_iff_eq_take.mp hpart).symm
  rw [cut?, length_bytes, if_neg (Nat.not_le_of_lt h), goBack?_bytes, Option.bind_some,
    isStart_bytes, if_pos (boundaryBefore_spec cs limit).1, htake]

/-- Every text can be cut to any number of bytes: there is always a byte to go back by, and no
    character is broken. What is left is the longest part in front that fits and ends between
    characters. A text that fits is left as it is, and of another at most three bytes less than
    the limit are left. -/
theorem cut?_bytesOf (limit : Nat) (text : String) :
    let kept := String.ofList (truncate limit text.toList)
    cut? limit (bytesOf text) = some (bytesOf kept) ∧
      IsLongestPart limit (bytesOf text) (bytesOf kept) ∧
      (text.utf8ByteSize ≤ limit → kept = text) ∧
      (limit < text.utf8ByteSize → limit ≤ kept.utf8ByteSize + 3) := by
  intro kept
  have hkept : bytesOf kept = bytes (truncate limit text.toList) := bytesOf_ofList _
  have hsize : text.utf8ByteSize = byteLength text.toList := by
    rw [← length_bytesOf, bytesOf_eq, length_bytes]
  rw [← length_bytesOf kept, hkept, bytesOf_eq, hsize, length_bytes]
  by_cases hfits : byteLength text.toList ≤ limit
  · have hsame : truncate limit text.toList = text.toList := truncate_of_le hfits
    refine ⟨?_, ?_, fun _ => ?_, fun hlt => absurd hfits (Nat.not_le_of_lt hlt)⟩
    · rw [cut?, length_bytes, if_pos hfits, hsame]
    · rw [hsame]
      exact isLongestPart_self hfits
    · exact (congrArg String.ofList hsame).trans String.ofList_toList
  · have hlt : limit < byteLength text.toList := Nat.lt_of_not_le hfits
    refine ⟨cut?_of_lt hlt, isLongestPart_truncate hlt, fun hle => absurd hle hfits, fun _ => ?_⟩
    rw [← length_bytes, (bytes_truncate hlt).2]
    exact le_boundaryBefore_add _ hlt.le

/-- The second character has two bytes, so the cut goes back before it. -/
example : truncate 2 "héllo".toList = ['h'] := by decide

end Text

end Concordance
