import Concordance.Proofs.JsonNumber
import Concordance.Report.Format

/-!
# The Text of a Report

Where the deviations of a report stand in its JSON text, and what is written there.

A tree that is spread over lines has a line for each entry of its maps, with two blanks in
front for each level and nothing behind it but a comma. A deviation is such an entry, so it
can be read off its line: a number of JSON if the deviation is finite, and `null` if it is
not.

## Main definitions

* `HasEntry`: A text has a line for an entry.
* `Holds`: A tree has an entry at a level.
* `WritesDouble`: An entry of a text is a double.
* `Report.WritesDeviations`: The deviations of a report are doubles in its text.

## Theorems

* `prettyItems_of_mem`, `prettyEntries_of_mem`: Lists and maps contain the texts of their
  parts.
* `hasEntry_of_holds`: The entries of a tree are the entries of its text.
* `Report.writesDeviations`: The deviations in the text of a report.
-/

namespace Concordance

namespace Json

/-- Whether an entry has a line of its own in a text, at a level and with or without a comma
    at its end. -/
def HasEntry (text : String) (level : Nat) (key value : String) : Prop :=
  ∃ before comma after, (comma = "" ∨ comma = ",") ∧
    text = before ++ lineBreak level ++ string key ++ ": " ++ value ++ comma ++ "\n" ++ after

/-- Whether a tree that begins at a level holds an entry at another one. -/
inductive Holds : Nat → Datum → Nat → String → Datum → Prop
  | entry {level : Nat} {entries : List (Datum × Datum)} {key : String} {value : Datum}
      (h : (.text key, value) ∈ entries) : Holds level (.map entries) (level + 1) key value
  | inEntry {level l : Nat} {entries : List (Datum × Datum)} {k d : Datum} {key : String}
      {value : Datum} (h : (k, d) ∈ entries) (hd : Holds (level + 1) d l key value) :
      Holds level (.map entries) l key value
  | inItem {level l : Nat} {items : List Datum} {d : Datum} {key : String} {value : Datum}
      (h : d ∈ items) (hd : Holds (level + 1) d l key value) :
      Holds level (.list items) l key value

theorem HasEntry.append {text key value : String} {level : Nat}
    (h : HasEntry text level key value) (before after : String) :
    HasEntry (before ++ text ++ after) level key value := by
  obtain ⟨before', comma, after', hcomma, rfl⟩ := h
  refine ⟨before ++ before', comma, after' ++ after, hcomma, ?_⟩
  simp only [String.append_assoc]

/-- An item stands somewhere between the brackets of its list. -/
theorem prettyItems_of_mem (level : Nat) {d : Datum} : ∀ {items : List Datum}, d ∈ items →
    ∃ before after, prettyItems level items = before ++ prettyAt level d ++ after
  | [d'], h => by
      rw [List.mem_singleton.mp h, prettyItems]
      exact ⟨"", "", by rw [String.empty_append, String.append_empty]⟩
  | d' :: e :: rest, h => by
      have hitems : prettyItems level (d' :: e :: rest) = prettyAt level d' ++ "," ++
          lineBreak level ++ prettyItems level (e :: rest) := rfl
      rcases List.mem_cons.mp h with rfl | h
      · refine ⟨"", "," ++ lineBreak level ++ prettyItems level (e :: rest), ?_⟩
        simp only [hitems, String.empty_append, String.append_assoc]
      · obtain ⟨before, after, heq⟩ := prettyItems_of_mem level h
        refine ⟨prettyAt level d' ++ "," ++ lineBreak level ++ before, after, ?_⟩
        simp only [hitems, heq, String.append_assoc]

/-- An entry has a line of its own between the brackets of its map. -/
theorem prettyEntries_of_mem (level : Nat) {k d : Datum} :
    ∀ {entries : List (Datum × Datum)}, (k, d) ∈ entries →
    ∃ before comma after, (comma = "" ∨ comma = ",") ∧
      lineBreak level ++ prettyEntries level entries ++ "\n" = before ++ lineBreak level ++
        prettyAt level k ++ ": " ++ prettyAt level d ++ comma ++ "\n" ++ after
  | [(k', d')], h => by
      cases List.mem_singleton.mp h
      refine ⟨"", "", "", Or.inl rfl, ?_⟩
      simp only [prettyEntries, String.empty_append, String.append_empty, String.append_assoc]
  | (k', d') :: e :: rest, h => by
      have hentries : prettyEntries level ((k', d') :: e :: rest) = prettyAt level k' ++ ": " ++
          prettyAt level d' ++ "," ++ lineBreak level ++ prettyEntries level (e :: rest) := rfl
      rcases List.mem_cons.mp h with h | h
      · -- Behind the comma begins the line of the next entry.
        cases h
        refine ⟨"", ",", String.ofList (List.replicate (2 * level) ' ') ++
          prettyEntries level (e :: rest) ++ "\n", Or.inr rfl, ?_⟩
        simp only [hentries, lineBreak, String.empty_append, String.append_assoc]
      · obtain ⟨before, comma, after, hcomma, heq⟩ := prettyEntries_of_mem level h
        refine ⟨lineBreak level ++ prettyAt level k' ++ ": " ++ prettyAt level d' ++ "," ++ before,
          comma, after, hcomma, ?_⟩
        have hrest := congrArg
          (lineBreak level ++ prettyAt level k' ++ ": " ++ prettyAt level d' ++ "," ++ ·) heq
        simpa only [hentries, String.append_assoc] using hrest
  termination_by entries => entries.length

theorem prettyAt_list {level : Nat} {items : List Datum} (h : items ≠ []) :
    prettyAt level (.list items) = enclose level "[" (prettyItems (level + 1) items) "]" := by
  cases items with
  | nil => exact absurd rfl h
  | cons d items => rfl

/-- A map, cut before the last line. -/
theorem prettyAt_map {level : Nat} {entries : List (Datum × Datum)} (h : entries ≠ []) :
    prettyAt level (.map entries) = "\x7b" ++
      (lineBreak (level + 1) ++ prettyEntries (level + 1) entries ++ "\n") ++
      (String.ofList (List.replicate (2 * level) ' ') ++ "\x7d") := by
  cases entries with
  | nil => exact absurd rfl h
  | cons e entries =>
      have hmap : prettyAt level (.map (e :: entries)) =
        enclose level "\x7b" (prettyEntries (level + 1) (e :: entries)) "\x7d" := rfl
      simp only [hmap, enclose, lineBreak, String.append_assoc]

/-- Every entry that a tree holds has a line of its own in the text of the tree. -/
theorem hasEntry_of_holds {level l : Nat} {d value : Datum} {key : String}
    (h : Holds level d l key value) : HasEntry (prettyAt level d) l key (prettyAt l value) := by
  induction h with
  -- An entry is found in the text of its map, and this text in that of the whole tree.
  | @entry level entries key value h =>
      obtain ⟨before, comma, after, hcomma, heq⟩ := prettyEntries_of_mem (level + 1) h
      rw [prettyAt_map (List.ne_nil_of_mem h)]
      exact HasEntry.append ⟨before, comma, after, hcomma, heq⟩ _ _
  | @inEntry level l entries k d key value h _ ih =>
      obtain ⟨before, comma, after, -, heq⟩ := prettyEntries_of_mem (level + 1) h
      rw [prettyAt_map (List.ne_nil_of_mem h), heq]
      have hentry := (ih.append (before ++ lineBreak (level + 1) ++ prettyAt (level + 1) k ++ ": ")
        (comma ++ "\n" ++ after)).append "\x7b"
        (String.ofList (List.replicate (2 * level) ' ') ++ "\x7d")
      simpa only [String.append_assoc] using hentry
  | @inItem level l items d key value h _ ih =>
      obtain ⟨before, after, heq⟩ := prettyItems_of_mem (level + 1) h
      rw [prettyAt_list (List.ne_nil_of_mem h), heq]
      have hentry := (ih.append before after).append ("[" ++ lineBreak (level + 1))
        (lineBreak level ++ "]")
      simpa only [enclose, String.append_assoc] using hentry

theorem Holds.field {level : Nat} {fields : List (String × Datum)} {key : String} {value : Datum}
    (h : (key, value) ∈ fields) : Holds level (.object fields) (level + 1) key value :=
  .entry (List.mem_map_of_mem h)

theorem Holds.inField {level l : Nat} {fields : List (String × Datum)} {name key : String}
    {d value : Datum} (h : (name, d) ∈ fields) (hd : Holds (level + 1) d l key value) :
    Holds level (.object fields) l key value :=
  .inEntry (List.mem_map_of_mem h) hd

/-- Whether an entry of a text is a double: a number of JSON exactly if the double is finite,
    and `null` if it is not. -/
def WritesDouble (text : String) (level : Nat) (key : String) (x : Float) : Prop :=
  ∃ value, HasEntry text level key value ∧ (IsNumber value.toList ↔ x.isFinite = true) ∧
    (x.isFinite = false → value = "null")

theorem writesDouble_of_holds {d : Datum} {l : Nat} {key : String} {x : Float}
    (h : Holds 0 d l key (.float x)) : WritesDouble (pretty d) l key x :=
  ⟨_, hasEntry_of_holds h, isNumber_write_iff x, write_of_not_isFinite⟩

theorem WritesDouble.null {text key : String} {level : Nat} {x : Float}
    (h : WritesDouble text level key x) (hx : x.isFinite = false) :
    HasEntry text level key "null" := by
  obtain ⟨value, hentry, -, hnull⟩ := h
  rwa [hnull hx] at hentry

end Json

namespace Report

/-- Whether the deviations that a report tells of are doubles in its JSON text: the largest
    one, the mean, and those of the failures that are shown. -/
def WritesDeviations (r : Report) (cap : Nat) : Prop :=
  Json.WritesDouble (r.render cap .json) 1 "max_deviation" r.maxDeviation ∧
    Json.WritesDouble (r.render cap .json) 1 "mean_deviation" r.meanDeviation ∧
    ∀ f ∈ r.failureDetails.take cap,
      Json.WritesDouble (r.render cap .json) 3 "deviation" f.deviation

theorem writesDeviations (r : Report) (cap : Nat) : r.WritesDeviations cap := by
  refine ⟨Json.writesDouble_of_holds (.field ?_), Json.writesDouble_of_holds (.field ?_),
    fun f hf => Json.writesDouble_of_holds ?_⟩
  · simp [document]
  · simp [document]
  · have hdetails : ("failure_details", Datum.list ((r.failureDetails.take cap).map
        Failure.toDatum)) ∈ [("failure_details", Datum.list ((r.document cap).shown.map
          Failure.toDatum)), ("failure_details_truncated", .bool (r.document cap).isTruncated)] :=
      List.mem_cons_self
    refine .inField (List.mem_append_right _ hdetails) (.inItem (List.mem_map_of_mem hf) ?_)
    exact .field (by simp)

end Report

end Concordance
