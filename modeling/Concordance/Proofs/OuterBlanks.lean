import Concordance.Proofs.Comparing

/-!
# Outer Blanks

Blanks around the outputs of a call do not count.

Where the whole output is compared, a record takes texts from the outcomes in three ways.
What is compared is the trimmed output, digests and numbers are taken of what is compared,
and an excerpt is cut from the trimmed text whichever output it quotes. So the record
depends on an output only through its trimmed text, at every way out, and blanks in front
of an output or behind it have left before anything is looked at.

## Main definitions

* `Text.WithBlanks`: A text is another one between blanks.
* `Outcome.WithBlanks`: An outcome is another one with blanks around its outputs.
* `Outcome.TrimsLike`: Outcomes with the same trimmed outputs.

## Theorems

* `trim_of_withBlanks`: Blanks around a text are trimmed.
* `excerpt_congr`: An excerpt depends on the trimmed text.
* `Comparator.compare_of_trimsLike`: A record depends on the trimmed outputs.
* `Comparator.compare_withBlanks`: Blanks around the outputs do not change a record.
-/

namespace Concordance

namespace Text

/-- Whether a text is another one with blanks in front of it and behind it. -/
def WithBlanks (padded s : String) : Prop :=
  ∃ before after : String, (∀ c ∈ before.toList, isBlank c = true) ∧
    (∀ c ∈ after.toList, isBlank c = true) ∧ padded = before ++ s ++ after

theorem trim_of_withBlanks {padded s : String} (h : WithBlanks padded s) : trim padded = trim s := by
  obtain ⟨before, after, hbefore, hafter, rfl⟩ := h
  unfold trim
  rw [String.toList_append, String.toList_append, trimList_append_blanks hafter,
    trimList_blanks_append hbefore]

theorem trim_eq_iff {s t : String} : trim s = trim t ↔ trimList s.toList = trimList t.toList :=
  String.ofList_inj

end Text

namespace Outcome

/-- Whether an outcome is another one with blanks around what was put out. -/
structure WithBlanks (padded o : Outcome) : Prop where
  index_eq : padded.index = o.index
  status_eq : padded.status = o.status
  stdout : Text.WithBlanks padded.stdout o.stdout
  stderr : Text.WithBlanks padded.stderr o.stderr

/-- Whether two calls ended in the same way and put out the same texts but for blanks around
    them. -/
structure TrimsLike (o o' : Outcome) : Prop where
  index_eq : o.index = o'.index
  status_eq : o.status = o'.status
  stdout : Text.trim o.stdout = Text.trim o'.stdout
  stderr : Text.trim o.stderr = Text.trim o'.stderr

theorem WithBlanks.trimsLike {padded o : Outcome} (h : padded.WithBlanks o) : padded.TrimsLike o :=
  ⟨h.index_eq, h.status_eq, Text.trim_of_withBlanks h.stdout, Text.trim_of_withBlanks h.stderr⟩

end Outcome

/-- An excerpt is cut after trimming, so it depends on the trimmed text. -/
theorem excerpt_congr {s t : String} (h : Text.trim s = Text.trim t) : excerpt s = excerpt t := by
  unfold excerpt excerptList
  rw [Text.trim_eq_iff.mp h]

theorem Extractor.extract?_whole (output : String) :
    whole.extract? output = some (Text.trim output) :=
  rfl

namespace Comparator

variable {c : Comparator} {r r' k k' : Outcome}

theorem failure_congr (index : Nat) (d : Discrepancy) {s s' t t' : String}
    (hs : Text.trim s = Text.trim s') (ht : Text.trim t = Text.trim t') :
    failure index d s t = failure index d s' t' := by
  unfold failure Excerpts.ofOutputs
  rw [excerpt_congr hs, excerpt_congr ht]

/-- Of the outcomes themselves only the index and excerpts are used once the texts are
    extracted. -/
theorem compareNumbers_of_trimsLike (hr : r.TrimsLike r') (hk : k.TrimsLike k')
    (rt kt : String) : c.compareNumbers r k rt kt = c.compareNumbers r' k' rt kt := by
  unfold compareNumbers
  rw [hr.index_eq]
  cases numbers? rt with
  | none => exact failure_congr _ _ hr.stdout hk.stdout
  | some rs =>
      cases numbers? kt with
      | none => exact failure_congr _ _ hr.stdout hk.stdout
      | some ks => rfl

theorem compareTexts_of_trimsLike (hr : r.TrimsLike r') (hk : k.TrimsLike k')
    (rt kt : String) : c.compareTexts r k rt kt = c.compareTexts r' k' rt kt := by
  unfold compareTexts
  rw [hr.index_eq, compareNumbers_of_trimsLike hr hk]

/-- Where whole outputs are compared, a record depends on the trimmed outputs. -/
theorem compare_of_trimsLike (hwhole : c.extractor = .whole) (hr : r.TrimsLike r')
    (hk : k.TrimsLike k') : c.compare r k = c.compare r' k' := by
  unfold compare
  simp only [hwhole, Extractor.extract?_whole]
  rw [hr.index_eq, hr.status_eq, hk.status_eq, hr.stdout, hk.stdout]
  -- One way out for each status that is not ok, and one for texts that can be compared.
  split
  · exact failure_congr _ _ hr.stderr hk.stdout
  · split
    · exact failure_congr _ _ hr.stdout hk.stderr
    · exact compareTexts_of_trimsLike hr hk _ _

/-- Where whole outputs are compared, blanks around what the two implementations put out do
    not change the record. -/
theorem compare_withBlanks (kind : OutputKind) (profile : Profile) {reference candidate : Outcome}
    {paddedReference paddedCandidate : Outcome} (hr : paddedReference.WithBlanks reference)
    (hk : paddedCandidate.WithBlanks candidate) :
    (ofProfile kind profile .whole).compare paddedReference paddedCandidate =
      (ofProfile kind profile .whole).compare reference candidate :=
  compare_of_trimsLike rfl hr.trimsLike hk.trimsLike

/-- Hashes that differ, among a line end, a no-break space and an ideographic space. -/
theorem compare_withBlanks_hashes :
    let reference := Outcome.succeeded 3 "9a f1"
    let candidate := Outcome.succeeded 3 "9a  f1"
    let paddedReference := Outcome.succeeded 3 "\u00a0 9a f1\r\n"
    let paddedCandidate := { Outcome.succeeded 3 "9a  f1\u3000" with stderr := "\n" }
    paddedReference.WithBlanks reference ∧ paddedCandidate.WithBlanks candidate ∧
      (ofProfile .hash .standard .whole).compare paddedReference paddedCandidate =
        (ofProfile .hash .standard .whole).compare reference candidate := by
  have hblank {s : String} (h : s.toList.all Text.isBlank = true) :
      ∀ c ∈ s.toList, Text.isBlank c = true := List.all_eq_true.mp h
  have hr : (Outcome.succeeded 3 "\u00a0 9a f1\r\n").WithBlanks (Outcome.succeeded 3 "9a f1") :=
    ⟨rfl, rfl, ⟨"\u00a0 ", "\r\n", hblank rfl, hblank rfl, by decide⟩,
      ⟨"", "", hblank rfl, hblank rfl, rfl⟩⟩
  have hk : Outcome.WithBlanks { Outcome.succeeded 3 "9a  f1\u3000" with stderr := "\n" }
      (Outcome.succeeded 3 "9a  f1") :=
    ⟨rfl, rfl, ⟨"", "\u3000", hblank rfl, hblank rfl, by decide⟩,
      ⟨"\n", "", hblank rfl, hblank rfl, rfl⟩⟩
  exact ⟨hr, hk, compare_withBlanks .hash .standard hr hk⟩

end Comparator

end Concordance
