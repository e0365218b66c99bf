import Concordance.Data.Document

/-!
# Documents as Characters

What is read of the text of a tree, without the text.

A text is held as bytes, and in a proof by computation every look at it decodes them, in
time that grows with the square of their number. Both readers take a text apart into
characters before anything else, and what is written is put together from characters, so
the bytes between the two can be left out. That a given tree reads back is then decided in
a moment.

## Main definitions

* `Json.compactChars`, `Yaml.documentChars`: The characters that are written for a tree.
* `DocumentFormat.readBack?`: What is read of them.

## Theorems

* `Json.toList_compact`, `Yaml.toList_document`: They are those of the text.
* `DocumentFormat.source?_write`: What is read of the text.
-/

namespace Concordance

namespace Json

mutual

/-- The characters of a tree on one line. -/
def compactChars : Datum → List Char
  | .list items => '[' :: (compactItemsChars items ++ [']'])
  | .map entries => '\x7b' :: (compactEntriesChars entries ++ ['\x7d'])
  | .variant name payload =>
    '\x7b' :: ((string name).toList ++ ':' :: (compactChars payload ++ ['\x7d']))
  | d => (leaf d).toList

/-- The characters of the items of a list. -/
def compactItemsChars : List Datum → List Char
  | [] => []
  | [d] => compactChars d
  | d :: rest => compactChars d ++ ',' :: compactItemsChars rest

/-- The characters of the entries of a map. -/
def compactEntriesChars : List (Datum × Datum) → List Char
  | [] => []
  | [(k, v)] => compactChars k ++ ':' :: compactChars v
  | (k, v) :: rest =>
    compactChars k ++ ':' :: (compactChars v ++ ',' :: compactEntriesChars rest)

end

mutual

theorem toList_compact : ∀ d : Datum, (compact d).toList = compactChars d
  | .list items => by simp [compact, compactChars, toList_compactItems items]
  | .map entries => by simp [compact, compactChars, toList_compactEntries entries]
  | .variant name payload => by simp [compact, compactChars, toList_compact payload]
  | .null | .bool _ | .int _ | .float _ | .text _ | .unreadable => by
    simp only [compact, compactChars]

theorem toList_compactItems : ∀ items : List Datum,
    (compactItems items).toList = compactItemsChars items
  | [] => rfl
  | [d] => by simp [compactItems, compactItemsChars, toList_compact d]
  | d :: e :: rest => by
    simp [compactItems, compactItemsChars, toList_compact d, toList_compactItems (e :: rest)]

theorem toList_compactEntries : ∀ entries : List (Datum × Datum),
    (compactEntries entries).toList = compactEntriesChars entries
  | [] => rfl
  | [(k, v)] => by
    simp [compactEntries, compactEntriesChars, toList_compact k, toList_compact v]
  | (k, v) :: e :: rest => by
    simp [compactEntries, compactEntriesChars, toList_compact k, toList_compact v,
      toList_compactEntries (e :: rest)]

end

end Json

namespace Yaml

/-- The characters of the document of a tree. -/
def documentChars : Datum → List Char
  | .list (d :: items) => itemLines 0 (d :: items)
  | .map (e :: entries) => entryLines 0 (e :: entries)
  | .variant name payload => ['!'] ++ name.toList ++ keyed 0 payload
  | d => closeLine (scalarText 2 d)

theorem toList_document (d : Datum) : (document d).toList = documentChars d := by
  cases d with
  | list items => cases items <;> exact String.toList_ofList
  | map entries => cases entries <;> exact String.toList_ofList
  | _ => exact String.toList_ofList

end Yaml

namespace DocumentFormat

/-- What is read of the characters that are written for a tree. -/
def readBack? : DocumentFormat → Datum → Option Source
  | .json, d => do
    let tokens ← Json.tokensWithin? (Json.compactChars d).length (Json.compactChars d)
    match ← Json.value? (2 * tokens.length + 2) tokens with
    | (d, []) => some (.json d)
    | _ => none
  | .yaml, d =>
    let cs := Yaml.documentChars d
    let tokens :=
      if cs.all Yaml.isAllowed then Yaml.Lexer.run? (cs.length + 1) (Yaml.Lexer.start cs)
      else none
    (tokens.bind Yaml.ofTokens?).map .yaml

/-- What is read of the text of a tree. -/
theorem source?_write (format : DocumentFormat) (d : Datum) :
    format.source? (format.write d) = format.readBack? d := by
  cases format with
  | json =>
    unfold source? write readBack? Json.read? Json.tokens?
    dsimp only
    rw [← String.length_toList, Json.toList_compact]
    cases Json.tokensWithin? (Json.compactChars d).length (Json.compactChars d) with
    | none => rfl
    | some tokens =>
      simp only [Option.bind_eq_bind, Option.bind_some]
      rcases Json.value? (2 * tokens.length + 2) tokens with _ | ⟨d, _ | ⟨t, rest⟩⟩ <;> rfl
  | yaml =>
    unfold source? write readBack? Yaml.read? Yaml.tokens?
    dsimp only
    rw [Yaml.toList_document]

end DocumentFormat

end Concordance
