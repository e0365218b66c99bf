import Concordance.Decimal.Reading
import Concordance.Text.Blank

/-!
# Lists of Numbers

Numbers as programs print them: one, or several between commas or blanks, in
brackets or not.

Separators may come in any number and also stand before the first number and
after the last. Only brackets tell an empty list from no output at all.

## Main definitions

* `isSeparator`: Whether a character stands between numbers.
* `words`: The pieces of a text between separators.
* `numbers?`: The numbers of an output.

## Theorems

* `words_append`: Pieces of a text with a separator in it are those before and
  after it.
-/

namespace Concordance

/-- Whether a character stands between numbers. -/
def isSeparator (c : Char) : Bool :=
  c = ',' || Text.isBlank c

/-- Put a character in front of the first of some pieces. -/
def extendFirst (c : Char) : List (List Char) → List (List Char)
  | [] => [[c]]
  | w :: ws => (c :: w) :: ws

/-- The pieces of a text between separators, none of them empty. -/
def words : List Char → List (List Char)
  | [] => []
  | [c] => if isSeparator c then [] else [[c]]
  | c :: d :: cs =>
    if isSeparator c then words (d :: cs)
    else if isSeparator d then [c] :: words (d :: cs)
    else extendFirst c (words (d :: cs))

/-- The text between a pair of brackets that encloses all of it. -/
def unbracketed? : List Char → Option (List Char)
  | '[' :: cs => if cs.getLast? = some ']' then some cs.dropLast else none
  | _ => none

/-- The numbers of an output. -/
def numbersOfList? (output : List Char) : Option (List Float) :=
  let trimmed := Text.trimList output
  match unbracketed? trimmed with
  | some inner => (words inner).mapM Decimal.read?
  | none =>
    let pieces := words trimmed
    if pieces.isEmpty then none else pieces.mapM Decimal.read?

/-- The numbers of an output. -/
def numbers? (output : String) : Option (List Float) :=
  numbersOfList? output.toList

theorem words_cons_separator {c : Char} (h : isSeparator c = true) (cs : List Char) :
    words (c :: cs) = words cs := by
  cases cs with
  | nil => simp [words, h]
  | cons d cs => simp [words, h]

/-- A separator ends the piece before it and begins none. -/
theorem words_append {s : Char} (h : isSeparator s = true) (cs ds : List Char) :
    words (cs ++ s :: ds) = words cs ++ words ds := by
  induction cs with
  | nil => simpa [words] using words_cons_separator h ds
  | cons c cs ih =>
      cases cs with
      | nil =>
          by_cases hc : isSeparator c = true
          · simp [words, hc, words_cons_separator h]
          · simp [words, hc, h, words_cons_separator h]
      | cons d cs =>
          rw [List.cons_append, List.cons_append] at *
          by_cases hc : isSeparator c = true
          · simpa [words, hc] using ih
          · by_cases hd : isSeparator d = true
            · simpa [words, hc, hd] using ih
            · have hne : ∀ w, words (d :: w) ≠ [] := fun w => by
                cases w with
                | nil => simp [words, hd]
                | cons e w =>
                    by_cases he : isSeparator e = true
                    · simp [words, hd, he]
                    · rw [words, if_neg hd, if_neg he]
                      cases words (e :: w) <;> simp [extendFirst]
              rw [words, if_neg hc, if_neg hd, ih, words, if_neg hc, if_neg hd]
              cases hw : words (d :: cs) with
              | nil => exact absurd hw (hne cs)
              | cons w ws => simp [extendFirst]

end Concordance
