/-!
# Blank Characters

Which characters are white space, and how a text is trimmed of them.

The class is the White_Space property of Unicode, twenty-five code points,
and not only the ASCII blanks: outputs of programs are compared after
trimming, and a program may well end its output with a no-break space.

Trimming is stated on lists of characters, where it is `dropWhile` from both
ends, and lifted to strings.

## Main definitions

* `isBlank`: The White_Space property.
* `trimList`: A list of characters without its outer blanks.
* `trim`: A text without its outer blanks.

## Theorems

* `trimList_blanks_append`, `trimList_append_blanks`: Blanks added on either
  side do not survive.
-/

namespace Concordance

namespace Text

/-- The White_Space property of Unicode. -/
def isBlank (c : Char) : Bool :=
  let n := c.toNat
  (9 ≤ n && n ≤ 13) || n == 0x20 || n == 0x85 || n == 0xA0 || n == 0x1680 ||
    (0x2000 ≤ n && n ≤ 0x200A) || n == 0x2028 || n == 0x2029 || n == 0x202F ||
    n == 0x205F || n == 0x3000

/-- The characters from the first one that is not blank on. -/
def trimStartList (cs : List Char) : List Char :=
  cs.dropWhile isBlank

/-- The characters up to the last one that is not blank. -/
def trimEndList (cs : List Char) : List Char :=
  (trimStartList cs.reverse).reverse

/-- The characters between the outer blanks. -/
def trimList (cs : List Char) : List Char :=
  trimEndList (trimStartList cs)

/-- A text without its outer blanks. -/
def trim (s : String) : String :=
  String.ofList (trimList s.toList)

theorem trimStartList_blanks_append {bs : List Char} (h : ∀ b ∈ bs, isBlank b = true)
    (cs : List Char) : trimStartList (bs ++ cs) = trimStartList cs := by
  induction bs with
  | nil => rfl
  | cons b bs ih =>
      rw [List.cons_append, trimStartList, List.dropWhile_cons_of_pos (h b (by simp))]
      exact ih fun c hc => h c (List.mem_cons_of_mem b hc)

theorem trimEndList_append_blanks {bs : List Char} (h : ∀ b ∈ bs, isBlank b = true)
    (cs : List Char) : trimEndList (cs ++ bs) = trimEndList cs := by
  rw [trimEndList, List.reverse_append, trimStartList_blanks_append, trimEndList]
  exact fun b hb => h b (List.mem_reverse.mp hb)

/-- Blanks in front of a text do not survive trimming. -/
theorem trimList_blanks_append {bs : List Char} (h : ∀ b ∈ bs, isBlank b = true)
    (cs : List Char) : trimList (bs ++ cs) = trimList cs := by
  rw [trimList, trimStartList_blanks_append h, trimList]

theorem trimStartList_blanks {bs : List Char} (h : ∀ b ∈ bs, isBlank b = true) :
    trimStartList bs = [] := by
  have hbs := trimStartList_blanks_append h []
  rwa [List.append_nil] at hbs

/-- Blanks behind a text do not survive trimming. -/
theorem trimList_append_blanks {bs : List Char} (h : ∀ b ∈ bs, isBlank b = true)
    (cs : List Char) : trimList (cs ++ bs) = trimList cs := by
  have happ : trimStartList (cs ++ bs) =
      if (trimStartList cs).isEmpty then trimStartList bs else trimStartList cs ++ bs :=
    List.dropWhile_append
  rw [trimList, trimList, happ]
  split
  · next hcs =>
      -- Nothing but blanks: both sides are empty.
      rw [trimStartList_blanks h, List.isEmpty_iff.mp hcs]
  · exact trimEndList_append_blanks h _

end Text

end Concordance
