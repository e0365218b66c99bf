import Concordance.Validation.Validator
import Concordance.Proofs.Binary64.Order

/-!
# Options That Can Be Used

What is known of options that passed the check.

The check looks at one option after the other and stops at the first that cannot
be used, so it passes only if all of them can. `IsSound` states that without the
order, and whatever relies on options having been checked goes through it. Patterns are
read in some dialect. All that is asked of it is which texts it accepts.

## Main definitions

* `Config.IsSound`: Every option can be used.

## Theorems

* `extractor_ok_iff`: When there is an extractor.
* `check_ok_iff`: The check passes options that can be used, and no others.
* `isSound_standard`, `check_standard`, `check_fuzz`: The standard options can be used, and
  some that are close to them.
* `epsilon_nonneg`, `isFinite_epsilon`: No tolerance is negative or infinite.
* `ofConfig_ok_iff`: What a validator is made of.
* `ofConfig_ok`: The options of a validator passed the check.
* `ofConfig_extractor`: A validator extracts as its options say.
-/

namespace Concordance

namespace Config

/-- Whether every option can be used, the pattern in a dialect. -/
structure IsSound (c : Config) (dialect : Pattern.Dialect := .standard) : Prop where
  minConfidence : 0 ≤ c.minConfidence ∧ c.minConfidence ≤ 1
  maxDeviation : isNonNegative c.maxDeviation = true
  timeout : c.timeout ≠ 0
  runTimeout : c.runTimeout ≠ some 0
  workers : c.workers ≠ 0
  sampleSize : c.sampleSize ≤ maxSampleSize
  tolerances : ∀ kind t, c.tolerances kind = some t → isUsable t = true
  pattern : ∀ text, c.pattern = some text → dialect.Accepts text

theorem mem_toList {rules : Overrides} {kind : OutputKind} {t : Tolerance} :
    (kind, t) ∈ rules.toList ↔ rules kind = some t := by
  unfold Overrides.toList
  rw [List.mem_filterMap]
  constructor
  · rintro ⟨k, _, h⟩
    rcases Option.map_eq_some_iff.mp h with ⟨t', ht', heq⟩
    cases heq
    exact ht'
  · intro h
    exact ⟨kind, by cases kind <;> decide, by rw [h]; rfl⟩

theorem find?_tolerance_eq_none (c : Config) :
    (c.tolerances.toList.find? fun e => !isUsable e.2) = none ↔
      ∀ kind t, c.tolerances kind = some t → isUsable t = true := by
  rw [List.find?_eq_none]
  constructor
  · intro h kind t ht
    have hnot := h (kind, t) (mem_toList.mpr ht)
    rwa [Bool.not_eq_true', Bool.not_eq_false] at hnot
  · rintro h ⟨kind, t⟩ he
    rw [h kind t (mem_toList.mp he)]
    exact Bool.false_ne_true

theorem refuse_eq_ok {ε α : Type} {p : Prop} [Decidable p] {e : ε} {x : Except ε α} {a : α} :
    (if p then .error e else x) = .ok a ↔ ¬ p ∧ x = .ok a := by
  by_cases hp : p
  · rw [if_pos hp]
    exact iff_of_false nofun fun h => h.1 hp
  · rw [if_neg hp]
    exact (and_iff_right hp).symm

/-- There is an extractor if there is no pattern, or one that the dialect accepts. -/
theorem extractor_ok_iff (c : Config) (dialect : Pattern.Dialect) :
    (∃ e, c.extractor dialect = .ok e) ↔
      ∀ text, c.pattern = some text → dialect.Accepts text := by
  unfold extractor Extractor.ofPattern?
  cases c.pattern with
  | none => exact iff_of_true ⟨.whole, rfl⟩ nofun
  | some text =>
      simp only [Option.some.injEq, forall_eq', Pattern.Dialect.Accepts, Extractor.ofPattern]
      cases dialect.read? text with
      | none => exact iff_of_false nofun nofun
      | some e =>
          by_cases hgroup : e.groupCount < 2
          · simp [hgroup, Except.mapError]
          · simp [hgroup, Except.mapError, Nat.le_of_not_lt hgroup]

/-- The check passes options that can be used, and no others. -/
theorem check_ok_iff (c : Config) (dialect : Pattern.Dialect) :
    c.check dialect = .ok () ↔ c.IsSound dialect := by
  unfold check
  simp only [bind, Except.bind, throw, throwThe, MonadExceptOf.throw, pure, Except.pure]
  rw [refuse_eq_ok, refuse_eq_ok, refuse_eq_ok, refuse_eq_ok, refuse_eq_ok, refuse_eq_ok]
  simp only [Bool.not_eq_true, Bool.not_eq_false', Bool.and_eq_true, decide_eq_true_eq]
  constructor
  · -- Tolerances and the pattern are looked at last.
    rintro ⟨hconfidence, hdeviation, htimeout, hrunTimeout, hworkers, hsize, hrest⟩
    split at hrest
    · exact nomatch hrest
    · rename_i htolerances
      cases hextractor : c.extractor dialect with
      | error fault =>
          rw [hextractor] at hrest
          exact nomatch hrest
      | ok e =>
          exact ⟨hconfidence, hdeviation, htimeout, hrunTimeout, hworkers, Nat.not_lt.mp hsize,
            c.find?_tolerance_eq_none.mp htolerances,
            (c.extractor_ok_iff dialect).mp ⟨e, hextractor⟩⟩
  · intro h
    rcases (c.extractor_ok_iff dialect).mpr h.pattern with ⟨e, he⟩
    refine ⟨h.minConfidence, h.maxDeviation, h.timeout, h.runTimeout, h.workers,
      Nat.not_lt.mpr h.sampleSize, ?_⟩
    rw [c.find?_tolerance_eq_none.mpr h.tolerances, he]

theorem standard_thresholds : isNonNegative standard.maxDeviation = true ∧
    0 ≤ standard.minConfidence ∧ standard.minConfidence ≤ 1 := by
  decide +kernel

/-- The standard options can be used in every dialect, also with another number of cases,
    another confidence and another kind of output. -/
theorem isSound_standard (kind : OutputKind) (dialect : Pattern.Dialect) {size : Nat}
    {confidence : Float} (hsize : size ≤ maxSampleSize)
    (hconfidence : 0 ≤ confidence ∧ confidence ≤ 1) :
    IsSound { standard with sampleSize := size, minConfidence := confidence, kind } dialect where
  minConfidence := hconfidence
  maxDeviation := standard_thresholds.1
  timeout := (by decide : standard.timeout ≠ 0)
  runTimeout := nofun
  workers := (by decide : standard.workers ≠ 0)
  sampleSize := hsize
  tolerances := nofun
  pattern := nofun

/-- The standard options pass the check. -/
theorem check_standard (dialect : Pattern.Dialect) : standard.check dialect = .ok () :=
  (check_ok_iff _ dialect).mpr
    (isSound_standard standard.kind dialect (by decide) standard_thresholds.2)

/-- So do the options for a run over many cases. -/
theorem check_fuzz (dialect : Pattern.Dialect) : fuzz.check dialect = .ok () :=
  (check_ok_iff _ dialect).mpr
    (isSound_standard fuzz.kind dialect (by decide) standard_thresholds.2)

theorem nonneg_of_isNonNegative {x : Float} (h : isNonNegative x = true) : 0 ≤ x := by
  unfold isNonNegative at h
  rw [Bool.and_eq_true, decide_eq_true_eq] at h
  exact h.2

theorem isFinite_of_isNonNegative {x : Float} (h : isNonNegative x = true) :
    x.isFinite = true := by
  unfold isNonNegative at h
  rw [Bool.and_eq_true] at h
  exact h.1

section

variable {c : Config} {dialect : Pattern.Dialect}

/-- Tolerances can be used, whether they were given or are the standard ones. -/
theorem IsSound.isNonNegative_epsilon (h : c.IsSound dialect) (kind : OutputKind) :
    isNonNegative (c.profile.epsilon kind) = true := by
  have hrule : isUsable (c.profile.rule kind) = true := by
    change isUsable ((c.tolerances kind).getD .standard) = true
    -- The check sees only tolerances that were given.
    cases ht : c.tolerances kind with
    | none => decide +kernel
    | some t => exact h.tolerances kind t ht
  unfold isUsable at hrule
  rw [Bool.and_eq_true] at hrule
  unfold Profile.epsilon Tolerance.epsilon
  cases kind with
  | relative => exact hrule.1
  | absolute => exact hrule.2
  | _ => exact (by decide +kernel : isNonNegative 0 = true)

/-- No tolerance is negative. -/
theorem IsSound.epsilon_nonneg (h : c.IsSound dialect) (kind : OutputKind) :
    0 ≤ c.profile.epsilon kind :=
  nonneg_of_isNonNegative (h.isNonNegative_epsilon kind)

/-- No tolerance is infinite. -/
theorem IsSound.isFinite_epsilon (h : c.IsSound dialect) (kind : OutputKind) :
    (c.profile.epsilon kind).isFinite = true :=
  isFinite_of_isNonNegative (h.isNonNegative_epsilon kind)

end

end Config

namespace Validator

variable {c : Config} {dialect : Pattern.Dialect} {v : Validator}

/-- A validator is made of options that can be used, and of the extractor that they ask
    for. -/
theorem ofConfig_ok_iff :
    ofConfig c dialect = .ok v ↔
      v.config = c ∧ c.IsSound dialect ∧ c.extractor dialect = .ok v.extractor := by
  unfold ofConfig Config.checked
  rw [← c.check_ok_iff dialect]
  simp only [bind, Except.bind, pure, Except.pure]
  cases c.check dialect with
  | error e => exact iff_of_false nofun fun h => nomatch h.2.1
  | ok u =>
      simp only [Except.mapError]
      cases c.extractor dialect with
      | error fault => exact iff_of_false nofun fun h => nomatch h.2.2
      | ok e =>
          constructor
          · intro h
            rw [← Except.ok.inj h]
            exact ⟨rfl, trivial, rfl⟩
          · rcases v with ⟨config, extractor⟩
            rintro ⟨hconfig, _, he⟩
            dsimp only at hconfig he
            rw [hconfig, Except.ok.inj he]

/-- The options of a validator are those that it was made of, and they passed the
    check. -/
theorem ofConfig_ok (h : ofConfig c dialect = .ok v) : v.config = c ∧ c.IsSound dialect :=
  ⟨(ofConfig_ok_iff.mp h).1, (ofConfig_ok_iff.mp h).2.1⟩

/-- The extractor of a validator is the one that its options ask for. -/
theorem ofConfig_extractor (h : ofConfig c dialect = .ok v) :
    c.extractor dialect = .ok v.extractor :=
  (ofConfig_ok_iff.mp h).2.2

end Validator

end Concordance
