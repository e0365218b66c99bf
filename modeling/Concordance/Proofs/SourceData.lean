import Concordance.Data.Source
import Mathlib.Data.List.Forall2

/-!
# Reading Sources with Known Data

What a source answers once its plain data is known.

The formats differ in how they hold a document, and `Source.datum?` says which tree
a piece of it is. A reader of the types asks for less than the tree: for a text, for
the items, for the fields. If the tree is known, so are these answers, and the format
does not matter: a node of a YAML text whose data is a text has that text, even though
a plain scalar may stand for many other things.

The lemmas go from the tree to the answer and never back. The items and the values of
a source come out as sources again, each with the data that stood in its place.

## Main definitions

* `Datum.same`: Whether two trees are the same, which makes their equality decidable.
* `Yaml.IsMeaningOf`: What a scalar of some text may stand for.

## Theorems

* `Yaml.isMeaningOf_of_datum?`: A scalar stands for nothing else.
* `Yaml.Node.forall₂_of_data?`, `forall₂_of_entryData?`: The data of the parts of a node.
* `Source.text?_of_datum?`, `list?_of_datum?`, `entries?_of_datum?`: One question each.
* `Source.record?_of_entries?`, `record?_of_datum?`: The fields of a structure.
* `Source.flattened?_of_datum?`: A field and, beside it, the rest as plain data.
-/

namespace Concordance

/-- What holds of every element on the right may be added to a relation of two lists. -/
theorem forall₂_and_of_mem {α β : Type} {R : α → β → Prop} {p : β → Prop} {xs : List α}
    {ys : List β} (h : List.Forall₂ R xs ys) (hp : ∀ y ∈ ys, p y) :
    List.Forall₂ (fun x y => R x y ∧ p y) xs ys := by
  induction h with
  | nil => exact .nil
  | cons hhead _ ih =>
    rw [List.forall_mem_cons] at hp
    exact .cons ⟨hhead, hp.1⟩ (ih hp.2)

/-- One reader for each element of a list. -/
theorem mapM_eq_some {α β : Type} {read : α → Option β} {xs : List α} {ys : List β}
    (h : List.Forall₂ (fun x y => read x = some y) xs ys) : xs.mapM read = some ys := by
  induction h with
  | nil => rfl
  | cons hhead _ ih => rw [List.mapM_cons, hhead, ih]; rfl

namespace Datum

mutual

/-- Whether two trees are the same. -/
def same : Datum → Datum → Bool
  | .null, .null => true
  | .bool a, .bool b => a = b
  | .int m, .int n => m = n
  | .float x, .float y => x = y
  | .text s, .text t => s = t
  | .list ds, .list es => sameItems ds es
  | .map ds, .map es => sameEntries ds es
  | .variant s d, .variant t e => s = t && same d e
  | .unreadable, .unreadable => true
  | _, _ => false

/-- Whether two lists of trees are the same. -/
def sameItems : List Datum → List Datum → Bool
  | [], [] => true
  | d :: ds, e :: es => same d e && sameItems ds es
  | _, _ => false

/-- Whether two lists of entries are the same. -/
def sameEntries : List (Datum × Datum) → List (Datum × Datum) → Bool
  | [], [] => true
  | (k, v) :: ds, (l, w) :: es => same k l && same v w && sameEntries ds es
  | _, _ => false

end

mutual

theorem same_iff (d e : Datum) : same d e = true ↔ d = e := by
  cases d with
  | list ds => cases e <;> simp [same, sameItems_iff ds]
  | map ds => cases e <;> simp [same, sameEntries_iff ds]
  | variant s d => cases e <;> simp [same, same_iff d]
  | _ => cases e <;> simp [same]

theorem sameItems_iff (ds es : List Datum) : sameItems ds es = true ↔ ds = es := by
  cases ds with
  | nil => cases es <;> simp [sameItems]
  | cons d ds => cases es <;> simp [sameItems, same_iff d, sameItems_iff ds]

theorem sameEntries_iff (ds es : List (Datum × Datum)) : sameEntries ds es = true ↔ ds = es := by
  rcases ds with _ | ⟨⟨k, v⟩, ds⟩ <;> rcases es with _ | ⟨⟨l, w⟩, es⟩
  · simp [sameEntries]
  · simp [sameEntries]
  · simp [sameEntries]
  · simp [sameEntries, same_iff k, same_iff v, sameEntries_iff ds]

end

instance : DecidableEq Datum := fun d e => decidable_of_iff _ (same_iff d e)

theorem isReadable_of_mem {ds : List Datum} (h : areReadable ds = true) :
    ∀ d ∈ ds, d.isReadable = true := by
  induction ds with
  | nil => exact nofun
  | cons d ds ih =>
    rw [areReadable, Bool.and_eq_true] at h
    exact List.forall_mem_cons.mpr ⟨h.1, ih h.2⟩

theorem isReadable_of_mem_entries {es : List (Datum × Datum)}
    (h : entriesReadable es = true) :
    ∀ e ∈ es, e.1.isReadable = true ∧ e.2.isReadable = true := by
  induction es with
  | nil => exact nofun
  | cons e es ih =>
    rw [entriesReadable, Bool.and_eq_true, Bool.and_eq_true] at h
    exact List.forall_mem_cons.mpr ⟨h.1, ih h.2⟩

end Datum

namespace Yaml

/-- Whether a tree may be what a scalar of this text stands for: it has no parts, and if
    it is a text, then this one. -/
def IsMeaningOf (text : String) : Datum → Prop
  | .list _ | .map _ | .variant .. => False
  | .text t => t = text
  | _ => True

theorem isMeaningOf_resolveInt (text : String) (n : Int) : IsMeaningOf text (resolveInt n) := by
  unfold resolveInt
  split <;> trivial

theorem isMeaningOf_resolve (text : String) : IsMeaningOf text (resolve text) := by
  unfold resolve
  dsimp only
  split
  · trivial
  · split
    · trivial
    · split
      · exact isMeaningOf_resolveInt text _
      · split
        · trivial
        · exact rfl

/-- A scalar means the same few things whatever its style and its tag. -/
theorem isMeaningOf_of_datum? {s : Scalar} {d : Datum} (h : s.datum? = some d) :
    IsMeaningOf s.text d := by
  unfold Scalar.datum? at h
  dsimp only at h
  split at h
  · obtain rfl := Option.some.inj h
    split
    · exact isMeaningOf_resolve s.text
    · exact rfl
  · split_ifs at h
    -- The tags of a truth value, an integer, a double and nothing, and then any other.
    · obtain ⟨b, -, rfl⟩ := Option.map_eq_some_iff.mp h
      trivial
    · obtain ⟨n, -, rfl⟩ := Option.map_eq_some_iff.mp h
      exact isMeaningOf_resolveInt s.text n
    · obtain ⟨x, -, rfl⟩ := Option.map_eq_some_iff.mp h
      trivial
    · obtain rfl := Option.some.inj h
      trivial
    · obtain rfl := Option.some.inj h
      exact rfl

namespace Node

theorem forall₂_of_data? {ns : List Node} {ds : List Datum} (h : data? ns = some ds) :
    List.Forall₂ (fun n d => n.datum? = some d) ns ds := by
  induction ns generalizing ds with
  | nil =>
    obtain rfl : ds = [] := by simpa only [data?, Option.some.injEq, eq_comm] using h
    exact .nil
  | cons n ns ih =>
    simp only [data?, Option.bind_eq_bind, Option.bind_eq_some_iff, Option.pure_def,
      Option.some.injEq] at h
    obtain ⟨d, hd, ds, hds, rfl⟩ := h
    exact .cons hd (ih hds)

theorem forall₂_of_entryData? {ns : List (Node × Node)} {es : List (Datum × Datum)}
    (h : entryData? ns = some es) :
    List.Forall₂ (fun n e => n.1.datum? = some e.1 ∧ n.2.datum? = some e.2) ns es := by
  induction ns generalizing es with
  | nil =>
    obtain rfl : es = [] := by simpa only [entryData?, Option.some.injEq, eq_comm] using h
    exact .nil
  | cons n ns ih =>
    simp only [entryData?, Option.bind_eq_bind, Option.bind_eq_some_iff, Option.pure_def,
      Option.some.injEq] at h
    obtain ⟨k, hk, v, hv, es, hes, rfl⟩ := h
    exact .cons ⟨hk, hv⟩ (ih hes)

theorem isMeaningOf_of_datum?_scalar {s : Scalar} {d : Datum}
    (h : (scalar s).datum? = some d) : IsMeaningOf s.text d := by
  rw [datum?] at h
  exact isMeaningOf_of_datum? h

theorem datum?_sequence {tag : Option String} {items : List Node} {d : Datum} :
    (sequence tag items).datum? = some d ↔
      localName? tag = none ∧ ∃ ds, data? items = some ds ∧ .list ds = d := by
  rw [datum?, ← Option.map_eq_some_iff]
  cases localName? tag with
  | none => exact (and_iff_right rfl).symm
  | some name => exact iff_of_false nofun fun h => nomatch h.1

theorem datum?_mapping {tag : Option String} {entries : List (Node × Node)} {d : Datum} :
    (mapping tag entries).datum? = some d ↔
      localName? tag = none ∧ ∃ es, entryData? entries = some es ∧ .map es = d := by
  rw [datum?, ← Option.map_eq_some_iff]
  cases localName? tag with
  | none => exact (and_iff_right rfl).symm
  | some name => exact iff_of_false nofun fun h => nomatch h.1

/-- A node whose data is a text is a scalar with that text. -/
theorem eq_scalar_of_datum? {n : Node} {t : String} (h : n.datum? = some (.text t)) :
    ∃ s, n = .scalar s ∧ s.text = t := by
  cases n with
  | missing => simp only [datum?, Option.some.injEq, reduceCtorEq] at h
  | scalar s => exact ⟨s, rfl, (isMeaningOf_of_datum?_scalar h).symm⟩
  | sequence tag items => obtain ⟨-, ds, -, ⟨⟩⟩ := datum?_sequence.mp h
  | mapping tag entries => obtain ⟨-, es, -, ⟨⟩⟩ := datum?_mapping.mp h

/-- A node whose data is a list is a sequence. -/
theorem eq_sequence_of_datum? {n : Node} {ds : List Datum} (h : n.datum? = some (.list ds)) :
    ∃ tag items, n = .sequence tag items ∧ data? items = some ds := by
  cases n with
  | missing => simp only [datum?, Option.some.injEq, reduceCtorEq] at h
  | scalar s => exact (isMeaningOf_of_datum?_scalar h).elim
  | sequence tag items =>
    obtain ⟨-, ds, hds, ⟨⟩⟩ := datum?_sequence.mp h
    exact ⟨tag, items, rfl, hds⟩
  | mapping tag entries => obtain ⟨-, es, -, ⟨⟩⟩ := datum?_mapping.mp h

/-- A node whose data is a map is a mapping. -/
theorem eq_mapping_of_datum? {n : Node} {es : List (Datum × Datum)}
    (h : n.datum? = some (.map es)) :
    ∃ tag entries, n = .mapping tag entries ∧ entryData? entries = some es := by
  cases n with
  | missing => simp only [datum?, Option.some.injEq, reduceCtorEq] at h
  | scalar s => exact (isMeaningOf_of_datum?_scalar h).elim
  | sequence tag items => obtain ⟨-, ds, -, ⟨⟩⟩ := datum?_sequence.mp h
  | mapping tag entries =>
    obtain ⟨-, es, hes, ⟨⟩⟩ := datum?_mapping.mp h
    exact ⟨tag, entries, rfl, hes⟩

end Node

end Yaml

open Yaml (Node Scalar)

namespace Source

theorem datum?_json {d e : Datum} : (json d).datum? = some e ↔ d.isReadable = true ∧ d = e := by
  rw [datum?, Option.ite_none_right_eq_some, Option.some.injEq]

theorem datum?_plain {d e : Datum} : (plain d).datum? = some e ↔ d = e := by
  rw [datum?, Option.some.injEq]

theorem datum?_yaml {n : Node} {e : Datum} :
    (yaml n).datum? = some e ↔ n.datum? = some e ∧ e.isReadable = true := by
  rw [datum?, Option.filter_eq_some_iff]

theorem text?_of_datum? {s : Source} {t : String} (h : s.datum? = some (.text t)) :
    s.text? = some t := by
  cases s with
  | json d =>
    obtain ⟨-, rfl⟩ := datum?_json.mp h
    rfl
  | plain d =>
    obtain rfl := datum?_plain.mp h
    rfl
  | yaml n =>
    obtain ⟨s, rfl, rfl⟩ := Node.eq_scalar_of_datum? (datum?_yaml.mp h).1
    rfl

theorem label?_of_datum? {s : Source} {t : String} (h : s.datum? = some (.text t)) :
    s.label? = some (.name t) := by
  -- Only an integer is a label in any other way than as a text.
  have hlabel : s.label? = s.text?.map .name := by
    unfold label?
    split
    · exact nomatch datum?_plain.mp h
    · rfl
  rw [hlabel, text?_of_datum? h, Option.map_some]

/-- The items of a list, each with its data. -/
theorem list?_of_datum? {s : Source} {ds : List Datum} (h : s.datum? = some (.list ds)) :
    ∃ items, s.list? = some items ∧ List.Forall₂ (fun s d => s.datum? = some d) items ds := by
  cases s with
  | json d =>
    obtain ⟨hd, rfl⟩ := datum?_json.mp h
    rw [Datum.isReadable] at hd
    refine ⟨ds.map json, rfl, List.forall₂_map_left_iff.mpr (List.forall₂_same.mpr ?_)⟩
    exact fun d hmem => datum?_json.mpr ⟨Datum.isReadable_of_mem hd d hmem, rfl⟩
  | plain d =>
    obtain rfl := datum?_plain.mp h
    exact ⟨ds.map plain, rfl,
      List.forall₂_map_left_iff.mpr (List.forall₂_same.mpr fun d _ => datum?_plain.mpr rfl)⟩
  | yaml n =>
    obtain ⟨hn, hd⟩ := datum?_yaml.mp h
    obtain ⟨tag, items, rfl, hitems⟩ := Node.eq_sequence_of_datum? hn
    rw [Datum.isReadable] at hd
    have hdata := forall₂_and_of_mem (Node.forall₂_of_data? hitems) (Datum.isReadable_of_mem hd)
    exact ⟨items.map yaml, rfl,
      List.forall₂_map_left_iff.mpr (hdata.imp fun _ _ => datum?_yaml.mpr)⟩

/-- The entries of a map, key and value each with its data. A map is not a list. -/
theorem entries?_of_datum? {s : Source} {es : List (Datum × Datum)}
    (h : s.datum? = some (.map es)) :
    ∃ entries, s.entries? = some entries ∧
      List.Forall₂ (fun f e => f.1.datum? = some e.1 ∧ f.2.datum? = some e.2) entries es := by
  cases s with
  | json d =>
    obtain ⟨hd, rfl⟩ := datum?_json.mp h
    rw [Datum.isReadable] at hd
    refine ⟨es.map _, rfl, List.forall₂_map_left_iff.mpr (List.forall₂_same.mpr ?_)⟩
    intro e hmem
    have he := Datum.isReadable_of_mem_entries hd e hmem
    exact ⟨datum?_json.mpr ⟨he.1, rfl⟩, datum?_json.mpr ⟨he.2, rfl⟩⟩
  | plain d =>
    obtain rfl := datum?_plain.mp h
    refine ⟨es.map _, rfl, List.forall₂_map_left_iff.mpr (List.forall₂_same.mpr ?_)⟩
    exact fun e _ => ⟨datum?_plain.mpr rfl, datum?_plain.mpr rfl⟩
  | yaml n =>
    obtain ⟨hn, hd⟩ := datum?_yaml.mp h
    obtain ⟨tag, entries, rfl, hentries⟩ := Node.eq_mapping_of_datum? hn
    rw [Datum.isReadable] at hd
    have hdata := forall₂_and_of_mem (Node.forall₂_of_entryData? hentries)
      (Datum.isReadable_of_mem_entries hd)
    refine ⟨entries.map _, rfl, List.forall₂_map_left_iff.mpr (hdata.imp ?_)⟩
    rintro n e ⟨⟨hkey, hvalue⟩, he⟩
    exact ⟨datum?_yaml.mpr ⟨hkey, he.1⟩, datum?_yaml.mpr ⟨hvalue, he.2⟩⟩

variable {s : Source} {name : String} {d : Datum}

/-- The key of an entry puts its value in the place of that name. -/
theorem placeField?_of_datum? {entry : Source × Source} (h : entry.1.datum? = some (.text name)) :
    placeField? [name] [none] entry = some [some entry.2] := by
  unfold placeField?
  rw [label?_of_datum? h]
  simp [Label.index?]

/-- The values of entries whose keys are the names of the fields, in their order, fill these
    fields. -/
theorem foldlM_placeField? {entries : List (Source × Source)} {fields : List (String × Datum)}
    (h : List.Forall₂ (fun f e => f.1.datum? = some (Datum.text e.1)) entries fields)
    (names : List String) (values : List Source) (hlength : values.length = names.length)
    (hnodup : (names ++ fields.map Prod.fst).Nodup) :
    entries.foldlM (placeField? (names ++ fields.map Prod.fst))
        (values.map some ++ fields.map fun _ => none) =
      some ((values ++ entries.map Prod.snd).map some) := by
  induction h generalizing names values with
  | nil => simp
  | @cons entry field entries fields hkey _ ih =>
      have hnext : names ++ field.1 :: fields.map Prod.fst =
          (names ++ [field.1]) ++ fields.map Prod.fst := by simp
      rw [List.map_cons] at hnodup
      -- The first name that is left is the name of this entry, and its place is empty.
      have hnotMem : field.1 ∉ names := fun hmem =>
        (List.nodup_append.mp hnodup).2.2 _ hmem _ List.mem_cons_self rfl
      have hindex : (names ++ field.1 :: fields.map Prod.fst).idxOf? field.1
          = some names.length := by
        rw [List.idxOf?_eq_some_iff]
        refine ⟨by simp, by simp, fun j hj => ?_⟩
        rw [List.getElem_append_left hj]
        exact fun heq => hnotMem (heq ▸ List.getElem_mem hj)
      have hplace : placeField? (names ++ field.1 :: fields.map Prod.fst)
          (values.map some ++ none :: fields.map fun _ => none) entry
          = some ((values ++ [entry.2]).map some ++ fields.map fun _ => none) := by
        unfold placeField?
        rw [label?_of_datum? hkey]
        simp [Label.index?, hindex, ← hlength]
      rw [List.map_cons, List.map_cons, List.foldlM_cons, hplace, Option.bind_eq_bind,
        Option.bind_some, hnext, ih _ _ (by simp [hlength]) (hnext ▸ hnodup)]
      simp

/-- The fields of a structure, if its entries are these fields in their order. -/
theorem record?_of_entries? {fields : List (String × Datum)} {entries : List (Source × Source)}
    (h : s.datum? = some (.object fields)) (hentries : s.entries? = some entries)
    (hkeys : List.Forall₂ (fun f e => f.1.datum? = some (Datum.text e.1)) entries fields)
    (hnodup : (fields.map Prod.fst).Nodup) :
    s.record? (fields.map Prod.fst) = some ⟨(entries.map Prod.snd).map some, false⟩ := by
  have hmap : s.record? (fields.map Prod.fst) = do
      let entries ← s.entries?
      let values ← entries.foldlM (placeField? (fields.map Prod.fst))
        ((fields.map Prod.fst).map fun _ => none)
      return ⟨values, false⟩ := by
    unfold record?
    split
    · exact nomatch (datum?_json.mp h).2
    · exact nomatch datum?_plain.mp h
    · rfl
  have hplaced := foldlM_placeField? hkeys [] [] rfl hnodup
  simp only [List.nil_append, List.map_nil] at hplaced
  rw [hmap, hentries, List.map_map]
  change (entries.foldlM (placeField? (fields.map Prod.fst)) (fields.map fun _ => none)).bind _ = _
  rw [hplaced]
  rfl

/-- The only field of a structure. -/
theorem record?_of_datum? (h : s.datum? = some (.object [(name, d)])) :
    ∃ v, v.datum? = some d ∧ s.record? [name] = some ⟨[some v], false⟩ := by
  obtain ⟨entries, hentries, hdata⟩ := entries?_of_datum? h
  obtain ⟨entry, rest, ⟨hkey, hvalue⟩, hrest, rfl⟩ := List.forall₂_cons_right_iff.mp hdata
  obtain rfl := List.forall₂_nil_right_iff.mp hrest
  exact ⟨entry.2, hvalue,
    record?_of_entries? h hentries (.cons hkey .nil) (List.pairwise_singleton _ name)⟩

/-- Entries with other names are kept as plain data. -/
theorem foldlM_placeOrKeep? {entries : List (Source × Source)} {rest : List (String × Datum)}
    {values : List (Option Source)} {kept : List (Datum × Datum)}
    (h : List.Forall₂ (fun f e => f.1.datum? = some (Datum.text e.1) ∧ f.2.datum? = some e.2)
      entries rest)
    (hrest : name ∉ rest.map Prod.fst) :
    entries.foldlM (placeOrKeep? [name]) (values, kept) =
      some (values, kept ++ rest.map fun f => (.text f.1, f.2)) := by
  induction h generalizing kept with
  | nil => simp
  | @cons entry field entries rest hentry _ ih =>
    obtain ⟨hkey, hvalue⟩ := hentry
    rw [List.map_cons, List.mem_cons, not_or] at hrest
    have hkeep : placeOrKeep? [name] (values, kept) entry =
        some (values, kept ++ [(.text field.1, field.2)]) := by
      unfold placeOrKeep?
      simp [text?_of_datum? hkey, hvalue, Ne.symm hrest.1]
    rw [List.foldlM_cons, hkeep, Option.bind_eq_bind, Option.bind_some, ih hrest.2]
    simp

/-- A field and, beside it, all others as plain data. -/
theorem flattened?_of_datum? {rest : List (String × Datum)}
    (h : s.datum? = some (.object ((name, d) :: rest))) (hrest : name ∉ rest.map Prod.fst) :
    ∃ v, v.datum? = some d ∧
      s.flattened? [name] = some (⟨[some v], false⟩, .plain (.object rest)) := by
  obtain ⟨entries, hentries, hdata⟩ := entries?_of_datum? h
  obtain ⟨entry, others, ⟨hkey, hvalue⟩, hothers, rfl⟩ := List.forall₂_cons_right_iff.mp hdata
  refine ⟨entry.2, hvalue, ?_⟩
  have hplace : placeOrKeep? [name] ([none], []) entry = some ([some entry.2], []) := by
    unfold placeOrKeep?
    simp [text?_of_datum? hkey, placeField?_of_datum? hkey]
  have hkeep : others.foldlM (placeOrKeep? [name]) ([some entry.2], []) =
      some ([some entry.2], [] ++ rest.map fun f => (.text f.1, f.2)) :=
    foldlM_placeOrKeep? (List.forall₂_map_right_iff.mp hothers) hrest
  unfold flattened?
  rw [hentries]
  simp [hplace, hkeep, Datum.object]

end Source

end Concordance
