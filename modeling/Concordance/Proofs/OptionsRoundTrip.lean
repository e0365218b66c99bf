import Concordance.Proofs.DescriptionRoundTrip
import Concordance.Proofs.FiniteValues
import Concordance.Proofs.Options
import Concordance.Proofs.SourceScalars
import Concordance.Proofs.WrittenCharacters

/-!
# Options Read Back

Options that pass the check are what their own document says.

Every option has a default, so one that is lost on the way does not make a document
unreadable; it silently becomes another option. What excludes this is that all options are
written, those that are absent as `null`, and that the fields of a structure are filled in
their order by the entries that were written for them. No default is then ever used, and
neither is one of a rule among the tolerances, which are a map from the names of the kinds.

As with descriptions, the text is the business of the format. That it reads back as the
tree it was written from is taken for granted, and here also that nothing in it has a tag
and no zero a sign, since options are asked for by their types. It is granted only of
records of finite doubles, integers of sixty-four bits and texts, and it is proved that
checked options are such a record.

## Main definitions

* `Datum.IsPortableRecord`: A record of values that a format can carry, or of none.
* `DocumentFormat.Conveys`: The text of a tree says this tree.
* `Config.IsCounted`: Counts are of sixty-four bits.

## Theorems

* `Overrides.ofList_toList`: Rules are put together from their entries.
* `Overrides.ofSource?_eq`: A source that says rules is read as them.
* `Config.isPortableRecord_toDatum`: Checked options are a record that a format can carry.
* `Config.ofSource?_eq`: A source that says options is read as them.
* `Config.parse_write_profile`: Checked options read back, and give a profile its epsilons.
-/

namespace Concordance

/-- A record that a format can carry: its fields are values that the format can carry, or
    nothing. -/
inductive Datum.IsPortableRecord : Datum → Prop where
  | fields {fields : List (String × Datum)} (h : ∀ f ∈ fields, f.2 = .null ∨ f.2.IsPortable) :
    IsPortableRecord (.object fields)

/-- The text of a tree says this tree. -/
def DocumentFormat.Conveys (format : DocumentFormat) (d : Datum) : Prop :=
  ∃ s, format.source? (format.write d) = some s ∧ s.Says d

instance (format : DocumentFormat) (d : Datum) : Decidable (format.Conveys d) :=
  decidable_of_iff
    ((format.readBack? d).any (fun s => s.datum? = some d && s.isUnmarked) = true) <| by
      rw [Option.any_eq_true, DocumentFormat.Conveys, format.source?_write]
      refine exists_congr fun s => and_congr_right fun _ => ?_
      rw [Bool.and_eq_true, decide_eq_true_eq]
      exact ⟨fun h => ⟨h.1, h.2⟩, fun h => ⟨h.datum?, h.isUnmarked⟩⟩

/-! ### Kinds and rules -/

theorem OutputKind.ofSource?_of_datum? {kind : OutputKind} {s : Source}
    (h : s.datum? = some kind.toDatum) : ofSource? s = some kind := by
  unfold ofSource? Source.unitVariant?
  rw [Source.variant?_of_datum? h]
  cases kind <;> rfl

theorem Tolerance.ofSource?_eq {t : Tolerance} {s : Source} (h : s.Says t.toDatum) :
    ofSource? s = some t := by
  obtain ⟨values, hrecord, hvalues⟩ := h.record? (by simp)
  obtain _ | ⟨hrelative, _ | ⟨habsolute, ⟨⟩⟩⟩ := hvalues
  dsimp only [List.map] at hrecord
  unfold ofSource?
  rw [hrecord]
  change (do
    let relative ← Source.float? _
    let absolute ← Source.float? _
    return (⟨relative, absolute⟩ : Tolerance)) = _
  rw [hrelative.float?, habsolute.float?]
  rfl

namespace Overrides

/-- Inserting the rules of some kinds gives these kinds their rules and leaves the others as
    they are. -/
theorem foldl_insert_filterMap (rules base : Overrides) (kinds : List OutputKind)
    (kind : OutputKind) :
    (kinds.filterMap fun k => (rules k).map fun t => (k, t)).foldl
        (fun rules e => rules.insert e.1 e.2) base kind =
      if kind ∈ kinds ∧ (rules kind).isSome then rules kind else base kind := by
  induction kinds generalizing base with
  | nil => rfl
  | cons k kinds ih =>
      cases hk : rules k with
      | none =>
          rw [List.filterMap_cons_none (by rw [hk]; rfl), ih]
          by_cases heq : kind = k
          · simp [heq, hk]
          · simp [heq]
      | some t =>
          rw [List.filterMap_cons_some (by rw [hk]; rfl), List.foldl_cons, ih]
          by_cases heq : kind = k
          · simp [heq, hk, insert]
          · simp [heq, insert]

/-- Rules are put together again from their entries. -/
theorem ofList_toList (rules : Overrides) : ofList rules.toList = rules := by
  funext kind
  have hmem : kind ∈ OutputKind.all := by cases kind <;> decide
  refine (foldl_insert_filterMap rules none OutputKind.all kind).trans ?_
  cases hkind : rules kind with
  | none => simp [none]
  | some t => simp [hmem]

/-- A source that says rules is read as these rules. -/
theorem ofSource?_eq {rules : Overrides} {s : Source} (h : s.Says rules.toDatum) :
    ofSource? s = some rules := by
  obtain ⟨entries, hentries, hdata⟩ := h.entries?
  rw [List.map_map, List.forall₂_map_right_iff] at hdata
  have hread : entries.mapM (fun e => do
      return (← OutputKind.ofSource? e.1, ← Tolerance.ofSource? e.2)) = some rules.toList := by
    refine mapM_eq_some (hdata.imp ?_)
    rintro f ⟨kind, t⟩ ⟨hkey, hvalue⟩
    rw [OutputKind.ofSource?_of_datum? hkey.datum?, Tolerance.ofSource?_eq hvalue]
    rfl
  unfold ofSource?
  rw [hentries]
  change (do
    let entries ← entries.mapM fun (e : Source × Source) => do
      return (← OutputKind.ofSource? e.1, ← Tolerance.ofSource? e.2)
    return ofList entries) = _
  rw [hread]
  exact congrArg some (ofList_toList rules)

end Overrides

/-! ### Options -/

namespace Config

variable {c : Config} {dialect : Pattern.Dialect} {s : Source}

/-- Whether the counts among the options are of sixty-four bits. The check bounds only the
    number of cases. -/
structure IsCounted (c : Config) : Prop where
  workers : c.workers < 2 ^ 64
  failureCap : c.failureCap < 2 ^ 64

/-- Options that can be used are a record that a format can carry. -/
theorem isPortableRecord_toDatum (h : c.IsSound dialect) (hcounted : c.IsCounted) :
    c.toDatum.IsPortableRecord := by
  have hword (w : UInt64) : (Datum.nat w.toNat).IsPortable := by
    have := w.toNat_lt
    exact .int (by omega) (by omega)
  have hcount {n : Nat} (hn : n < 2 ^ 64) : (Datum.nat n).IsPortable := .int (by omega) (by omega)
  have hsize : c.sampleSize < 2 ^ 64 := by
    have := h.sampleSize
    unfold maxSampleSize at this
    omega
  have hconfidence : c.minConfidence.isFinite = true :=
    Binary64.isFinite_of_le_of_le Binary64.isFinite_zero Binary64.isFinite_one
      h.minConfidence.1 h.minConfidence.2
  have htolerances : c.tolerances.toDatum.IsPortable := by
    refine .object (List.forall_mem_map.mpr ?_)
    rintro ⟨kind, t⟩ ht
    have husable := Bool.and_eq_true_iff.mp (h.tolerances kind t (mem_toList.mp ht))
    refine .object (List.forall_mem_cons.mpr ⟨.float ?_, List.forall_mem_singleton.mpr (.float ?_)⟩)
    · exact isFinite_of_isNonNegative husable.1
    · exact isFinite_of_isNonNegative husable.2
  refine .fields ?_
  simp only [List.forall_mem_cons]
  refine ⟨.inr (hcount hsize), .inr (hword _), .inr (hword _), ?_,
    .inr (.float (isFinite_of_isNonNegative h.maxDeviation)), .inr (.float hconfidence),
    .inr (hcount hcounted.workers), .inr (.text _), ?_, .inr htolerances,
    .inr (hcount hcounted.failureCap), nofun⟩
  · cases c.runTimeout with
    | none => exact .inl rfl
    | some t => exact .inr (hword t)
  · cases c.pattern with
    | none => exact .inl rfl
    | some p => exact .inr (.text p)

/-- A source that says options is read as these options. -/
theorem ofSource?_eq (hsize : c.sampleSize < 2 ^ 64) (hcounted : c.IsCounted)
    (h : s.Says c.toDatum) : ofSource? s = some c := by
  obtain ⟨values, hrecord, hvalues⟩ := h.record? (by simp)
  obtain _ | ⟨hsample, _ | ⟨hseed, _ | ⟨htimeout, _ | ⟨hrunTimeout, _ | ⟨hdeviation, _ |
    ⟨hconfidence, _ | ⟨hworkers, _ | ⟨hkind, _ | ⟨hpattern, _ | ⟨htolerances, _ |
    ⟨hcap, ⟨⟩⟩⟩⟩⟩⟩⟩⟩⟩⟩⟩⟩ := hvalues
  dsimp only [List.map] at hrecord
  unfold ofSource?
  rw [hrecord]
  change (do
    let sampleSize ← Source.nat? _
    let seed ← Source.word? _
    let timeout ← Source.word? _
    let runTimeout ← Fields.nullable? Source.word? _
    let maxDeviation ← Source.float? _
    let minConfidence ← Source.float? _
    let workers ← Source.nat? _
    let kind ← OutputKind.ofSource? _
    let pattern ← Fields.nullable? Source.text? _
    let tolerances ← Overrides.ofSource? _
    let failureCap ← Source.nat? _
    return (⟨sampleSize, seed, timeout, runTimeout, maxDeviation, minConfidence, workers, kind,
      pattern, tolerances, failureCap⟩ : Config)) = _
  rw [hsample.nat? hsize, hseed.word?, htimeout.word?,
    hrunTimeout.nullable? nofun fun _ => Source.Says.word?, hdeviation.float?,
    hconfidence.float?, hworkers.nat? hcounted.workers, OutputKind.ofSource?_of_datum? hkind.datum?,
    hpattern.nullable? nofun fun _ h => Source.text?_of_datum? h.datum?,
    Overrides.ofSource?_eq htolerances, hcap.nat? hcounted.failureCap]
  rfl

/-- Options that pass the check read back from their document, if its text says the tree it
    was written from, and their profile gives every kind the epsilon of the rule among the
    tolerances, or else of the standard one. This holds in every dialect of patterns. -/
theorem parse_write_profile (format : DocumentFormat) (dialect : Pattern.Dialect)
    (hcheck : c.check dialect = .ok ()) (hcounted : c.IsCounted)
    (hconveys : c.toDatum.IsPortableRecord → format.Conveys c.toDatum) :
    parse format (format.write c.toDatum) dialect = .ok c ∧
      c.profile.rules = Overrides.ofList c.tolerances.toList ∧
      ∀ kind, c.profile.epsilon kind =
        match c.tolerances kind with
        | some t => t.epsilon kind
        | none => Tolerance.standard.epsilon kind := by
  have hsound := (c.check_ok_iff dialect).mp hcheck
  have hsize : c.sampleSize < 2 ^ 64 := Nat.lt_of_le_of_lt hsound.sampleSize (by decide)
  obtain ⟨s, hs, htree⟩ := hconveys (isPortableRecord_toDatum hsound hcounted)
  refine ⟨?_, (Overrides.ofList_toList c.tolerances).symm, fun kind => ?_⟩
  · unfold parse
    rw [hs, Option.bind_eq_bind, Option.bind_some, ofSource?_eq hsize hcounted htree]
    dsimp only
    unfold checked
    rw [hcheck]
  · change ((c.tolerances kind).getD .standard).epsilon kind = _
    cases c.tolerances kind <;> rfl

/-- Options none of which is the standard one: a pattern that a plain scalar would not hold,
    and rules for kinds whose names are not in the order of the kinds. -/
private def unusual : Config :=
  { sampleSize := 0, seed := 18446744073709551615, timeout := 1, runTimeout := some 250
    maxDeviation := 1e-300, minConfidence := 0.1, workers := 3, kind := .hash
    pattern := some "- \"é\": (.*) #", failureCap := 0
    tolerances := Overrides.ofList [(.text, ⟨0, 5e-324⟩), (.relative, ⟨0.5, 1e16⟩)] }

theorem parse_write_profile_unusual :
    unusual.check = .ok () ∧ unusual.IsCounted ∧
      ∀ format : DocumentFormat, format.Conveys unusual.toDatum ∧
        parse format (format.write unusual.toDatum) = .ok unusual ∧
        unusual.profile.epsilon .relative = 0.5 ∧
        unusual.profile.epsilon .absolute = 1e-9 := by
  have hread : (unusual.extractor .standard).isOk = true := by decide +kernel
  have hextractor : ∃ e, unusual.extractor .standard = .ok e := by
    cases h : unusual.extractor .standard with
    | error fault => rw [h] at hread; exact nomatch hread
    | ok e => exact ⟨e, rfl⟩
  have htolerances : ∀ e ∈ unusual.tolerances.toList, isUsable e.2 = true := by decide +kernel
  have hsound : unusual.IsSound :=
    ⟨⟨by decide +kernel, by decide +kernel⟩, by decide +kernel, by decide, by decide, by decide,
      by decide, fun kind t ht => htolerances (kind, t) (mem_toList.mpr ht),
      (unusual.extractor_ok_iff _).mp hextractor⟩
  have hcheck : unusual.check = .ok () := (unusual.check_ok_iff _).mpr hsound
  have hcounted : unusual.IsCounted := ⟨by decide, by decide⟩
  have hconveys : ∀ format : DocumentFormat, format.Conveys unusual.toDatum := by
    rintro (_ | _) <;> decide +kernel
  refine ⟨hcheck, hcounted, fun format => ?_⟩
  obtain ⟨hparse, -, hepsilon⟩ :=
    parse_write_profile format .standard hcheck hcounted fun _ => hconveys format
  exact ⟨hconveys format, hparse, hepsilon .relative, hepsilon .absolute⟩

end Config

end Concordance
