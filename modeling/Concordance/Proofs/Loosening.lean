import Concordance.Proofs.Binary64.TotalOrder
import Concordance.Proofs.Certification
import Concordance.Proofs.Interleaving.Transfer
import Concordance.Proofs.Interleaving.Usable

/-!
# Looser Options

Whoever asks for less is not refused what was granted before.

Options are loosened by a larger tolerance, a larger deviation that is allowed, or a
lower confidence that is asked for. A candidate that was certified before is certified
then, and the report is the same to the last figure. A tolerance only decides whether
a record matches, and where all records match already a larger one leaves them as they
are. Of the two thresholds neither enters into any figure.

The same run stays possible, step by step, since what the outcomes of its cases come
to is the same. Another run may go another way, but if the artifacts do on every case
what they did before, it has the same report, unless its deadline or its caller stops
it.

## Main definitions

* `Comparator.withEpsilon`: A comparator with another tolerance.
* `Policy.Loosens`, `Config.Loosens`: Thresholds and options that ask for less.
* `Interleaving.IsStopped`: A run was stopped by its deadline or its caller.

## Theorems

* `compare_withEpsilon`: A record that matches stays as it is.
* `certify_of_loosens`: So does the report of records that were certified.
* `returns_of_isMatch`: What a run returns whose cases all match.
* `reports_certified_of_loosens`: A certificate is not withdrawn.
-/

namespace Concordance

namespace Comparator

/-- A comparator with another tolerance. -/
def withEpsilon (c : Comparator) (epsilon : Float) : Comparator :=
  { c with epsilon }

section

variable (c : Comparator) {epsilon : Float} (hle : c.epsilon ≤ epsilon)

include hle

theorem measured_withEpsilon {index : Nat} {d : Deviation}
    (h : (c.measured index d).isMatch = true) :
    (c.withEpsilon epsilon).measured index d = c.measured index d := by
  have hmatch : c.governing d ≤ c.epsilon := of_decide_eq_true h
  have hmatch' : (c.withEpsilon epsilon).governing d ≤ (c.withEpsilon epsilon).epsilon :=
    Binary64.le_of_le_of_le hmatch hle
  unfold measured
  dsimp only
  -- Of the tolerance a record keeps only the decision.
  rw [decide_eq_true hmatch, decide_eq_true hmatch']
  rfl

theorem compareValues_withEpsilon {index : Nat} {rt kt : String} {rs ks : List Float}
    (h : (c.compareValues index rt kt rs ks).isMatch = true) :
    (c.withEpsilon epsilon).compareValues index rt kt rs ks
      = c.compareValues index rt kt rs ks := by
  unfold compareValues at h ⊢
  cases hd : Deviation.ofLists? rs ks with
  | none => rfl
  | some d =>
      rw [hd] at h
      dsimp only
      rw [c.measured_withEpsilon hle h]

theorem compareNumbers_withEpsilon {r k : Outcome} {rt kt : String}
    (h : (c.compareNumbers r k rt kt).isMatch = true) :
    (c.withEpsilon epsilon).compareNumbers r k rt kt = c.compareNumbers r k rt kt := by
  unfold compareNumbers at h ⊢
  cases hrs : numbers? rt with
  | none => rfl
  | some rs =>
      cases hks : numbers? kt with
      | none => rfl
      | some ks =>
          rw [hrs, hks] at h
          dsimp only at h ⊢
          by_cases hlength : rs.length ≠ ks.length
          · rw [if_pos hlength, if_pos hlength]
          · rw [if_neg hlength] at h ⊢
            rw [if_neg hlength]
            exact c.compareValues_withEpsilon hle h

theorem compareTexts_withEpsilon {r k : Outcome} {rt kt : String}
    (h : (c.compareTexts r k rt kt).isMatch = true) :
    (c.withEpsilon epsilon).compareTexts r k rt kt = c.compareTexts r k rt kt := by
  rcases c with ⟨kind, tolerance, extractor⟩
  cases kind with
  | relative | absolute => exact compareNumbers_withEpsilon _ hle h
  | _ => rfl

/-- A record that matches is the same with a larger tolerance. -/
theorem compare_withEpsilon {r k : Outcome} (h : (c.compare r k).isMatch = true) :
    (c.withEpsilon epsilon).compare r k = c.compare r k := by
  unfold compare at h ⊢
  dsimp only [withEpsilon] at h ⊢
  by_cases hr : r.status ≠ .ok
  · rw [if_pos hr, if_pos hr]
  · rw [if_neg hr] at h ⊢
    rw [if_neg hr]
    cases hk : Discrepancy.ofCandidate? k.status with
    | some d => rfl
    | none =>
        cases hrt : c.extractor.extract? r.stdout with
        | none => rfl
        | some rt =>
            cases hkt : c.extractor.extract? k.stdout with
            | none => rfl
            | some kt =>
                rw [hk, hrt, hkt] at h
                exact c.compareTexts_withEpsilon hle h

end

/-- Outcomes that match are those of calls that succeeded, and the output of the
    reference can be read. -/
theorem canRead_of_isMatch (c : Comparator) {r k : Outcome} (h : (c.compare r k).isMatch = true) :
    r.status = .ok ∧ k.status = .ok ∧ c.CanRead r.stdout := by
  rcases c.compare_cases r k with ⟨_, heq⟩ | ⟨_, _, _, heq⟩ | ⟨_, _, _, heq⟩ |
    ⟨_, _, _, _, _, heq⟩ | ⟨hr, hk, rt, kt, hrt, _, heq⟩
  · rw [heq] at h
    exact nomatch h
  · rw [heq] at h
    exact nomatch h
  · rw [heq] at h
    exact nomatch h
  · rw [heq] at h
    exact nomatch h
  · refine ⟨hr, hk, (canRead_iff hrt).mpr ?_⟩
    rintro ⟨hkind, hnone⟩
    rcases c.compareTexts_discrepancy r k rt kt with ⟨_, _, hd⟩ | ⟨hread, _⟩
    · -- A text without numbers has no record that matches.
      rcases c.compareTexts_cases r k rt kt with ⟨_, hnumbers⟩ | ⟨hno, _⟩ | ⟨hno, _⟩
      · rw [heq, hnumbers, compareNumbers, hnone] at h
        exact nomatch h
      · rw [hkind] at hno
        exact nomatch hno
      · rw [hkind] at hno
        exact nomatch hno
    · exact hread ⟨hkind, hnone⟩

end Comparator

namespace Policy

/-- Whether thresholds ask for less, and the figures are computed in the same way. -/
structure Loosens (p p' : Policy) : Prop where
  maxDeviation : p.maxDeviation ≤ p'.maxDeviation
  minConfidence : p'.minConfidence ≤ p.minConfidence
  z : p'.z = p.z
  minSamples : p'.minSamples = p.minSamples
  significance : p'.significance = p.significance

/-- Only records that match are certified. -/
theorem isMatch_of_certified {p : Policy} {kind : OutputKind} {records : List Comparison}
    (h : (p.certify kind records).verdict = .certified) :
    ∀ record ∈ records, record.isMatch = true := by
  unfold certify at h
  by_cases hempty : records.isEmpty = true
  · rw [if_pos hempty] at h
    exact nomatch h
  · rw [if_neg hempty] at h
    have hall := filter_failed_eq_nil.mp ((p.certifyOrdered_verdict_iff kind _).mp h).1
    exact fun record hrecord => hall record (mem_inCaseOrder.mpr hrecord)

section

variable {p p' : Policy} (hloosens : p.Loosens p') (kind : OutputKind)

include hloosens

/-- The thresholds of a verdict enter into no figure. -/
theorem figures_of_loosens (records : List Comparison) :
    p'.certifyOrdered kind records
      = { p.certifyOrdered kind records with
          verdict := (p'.certifyOrdered kind records).verdict } := by
  have htest : p'.testDistributions? kind records = p.testDistributions? kind records := by
    unfold testDistributions?
    rw [hloosens.minSamples]
  have hsimilarity : p'.similarity = p.similarity := by
    funext test
    unfold similarity
    rw [hloosens.significance]
  unfold certifyOrdered
  dsimp only
  -- The test, its reading and the confidence go by what both have in common.
  rw [htest, hsimilarity, hloosens.z]

/-- Records that were certified have the same report if less is asked for. -/
theorem certify_of_loosens {records : List Comparison}
    (h : (p.certify kind records).verdict = .certified) :
    p'.certify kind records = p.certify kind records := by
  unfold certify at h ⊢
  by_cases hempty : records.isEmpty = true
  · rw [if_pos hempty, if_pos hempty]
  · rw [if_neg hempty] at h ⊢
    rw [if_neg hempty]
    have hfigures := figures_of_loosens hloosens kind (inCaseOrder records)
    rcases (p.certifyOrdered_verdict_iff kind (inCaseOrder records)).mp h with
      ⟨hmatch, hmax, hconfidence, hsimilarity⟩
    have hcertified : (p'.certifyOrdered kind (inCaseOrder records)).verdict = .certified := by
      refine (p'.certifyOrdered_verdict_iff kind _).mpr ⟨hmatch, ?_, ?_, ?_⟩
      · exact Binary64.le_of_le_of_le hmax hloosens.maxDeviation
      · rw [hfigures]
        exact Binary64.le_of_le_of_le hloosens.minConfidence hconfidence
      · rw [hfigures]
        exact hsimilarity
    rw [hfigures, hcertified, ← h]

end

end Policy

namespace Interleaving

/-- Whether a run tells that it was stopped by its deadline or by its caller, and so it
    was. -/
inductive IsStopped (e : Executor) (total : Nat) (m : Moment) (s : State) : RunError → Prop
  | byCaller {completed : Nat} (h : s.isCancelledByCaller = true ∨ m.isCancelled = true) :
      IsStopped e total m s (.cancelled completed total)
  | byDeadline {timeout : UInt64} {completed : Nat} (htimeout : e.runTimeout = some timeout)
      (h : (e.limits m).deadline.isExpired s.moment.time = true) :
      IsStopped e total m s (.timedOut timeout completed total)

section

variable {e : Executor} {reference candidate : Conduct} {comparator : Comparator}
  {cases : List Case} {m : Moment} {s : State} {R C : Case → Outcome}

theorem ofOutcomes_congr {comparator' : Comparator} {o : Outcomes}
    (h : comparator'.compare o.reference o.candidate
      = comparator.compare o.reference o.candidate) (index : Nat) :
    CaseResult.ofOutcomes comparator' index o = CaseResult.ofOutcomes comparator index o := by
  unfold CaseResult.ofOutcomes
  rw [h]

/-- Where all cases match, the reference is of use. -/
theorem isUsable_of_isMatch (hreference : reference.Follows R)
    (hmatch : ∀ case ∈ cases, (comparator.compare (R case) (C case)).isMatch = true) :
    reference.IsUsable comparator cases := by
  intro case hcase b o ho
  rcases comparator.canRead_of_isMatch (hmatch case hcase) with ⟨hok, _, hread⟩
  refine (hreference case b o ho).imp_left fun hagrees => ?_
  rw [hagrees.status_eq, hagrees.stdout_eq]
  exact ⟨hok, hread⟩

/-- On cases that match, calls are cut short only if the run is. -/
theorem isHonest_on {c : Conduct} (hc : c.Follows R)
    (hok : ∀ case ∈ cases, (R case).status = .ok) : (c.on cases).IsHonest := by
  rintro case o ⟨hcase, ho⟩
  rw [(hc.agrees ⟨false, ho, id⟩ (Or.inr rfl)).status_eq, hok case hcase]
  exact Status.noConfusion

/-- A run whose cases all match has their records, unless it is stopped by its deadline
    or its caller. -/
theorem returns_of_isMatch (hreference : reference.Follows R) (hcandidate : candidate.Follows C)
    (hmatch : ∀ case ∈ cases, (comparator.compare (R case) (C case)).isMatch = true)
    {result : Except RunError (List Comparison)}
    (h : Returns e reference candidate comparator cases m s result) :
    result = .ok ((cases.map fun case => comparator.compare (R case) (C case)).mergeSort
        fun a b => decide (a.index ≤ b.index)) ∨
      ∃ err, result = .error err ∧ IsStopped e cases.length m s err := by
  -- What the artifacts would do on other cases does not matter.
  have hreferenceHonest : (reference.on cases).IsHonest :=
    isHonest_on hreference fun case hcase => (comparator.canRead_of_isMatch (hmatch case hcase)).1
  have hcandidateHonest : (candidate.on cases).IsHonest :=
    isHonest_on hcandidate fun case hcase => (comparator.canRead_of_isMatch (hmatch case hcase)).2.1
  have husable := isUsable_of_isMatch hreference hmatch
  rcases h.cases with ⟨i, st, d, hmem, _⟩ | ⟨_, _, herr⟩ | ⟨_, hok⟩
  · -- Nothing is held against a reference that is of use.
    rcases mem_referenceFailed h.run hmem with ⟨lane, hlane, o, ho, hblame, _⟩
    exact absurd hblame (not_blameReference_of_isUsable husable h.run hlane ho)
  · refine Or.inr ⟨_, herr, ?_⟩
    unfold cutShort at herr ⊢
    -- A run that is cut short looks at its deadline first.
    by_cases hexpired : (e.limits m).deadline.isExpired s.moment.time = true
    · rw [if_pos hexpired] at herr ⊢
      rcases returns_timedOut h herr with ⟨htimeout, _, _, htotal⟩
      rw [htotal]
      exact .byDeadline htimeout hexpired
    · rw [if_neg hexpired] at herr ⊢
      rcases returns_cancelled hreferenceHonest hcandidateHonest h.on herr with
        ⟨hcause, _, htotal⟩
      rw [htotal]
      exact .byCaller hcause
  · rw [hok] at h
    exact Or.inl (by rw [hok, records_eq_alone hreference hcandidate h])

/-- A run whose records all match is a run under every comparison by which they are the
    same. -/
theorem returns_of_compare_eq {comparator' : Comparator} {records : List Comparison}
    (hsame : ∀ r k : Outcome, (comparator.compare r k).isMatch = true →
      comparator'.compare r k = comparator.compare r k)
    (h : Returns e reference candidate comparator cases m s (.ok records))
    (hmatch : ∀ record ∈ records, record.isMatch = true) :
    Returns e reference candidate comparator' cases m s (.ok records) := by
  have hcovers : Covers (setting e reference candidate comparator m)
      (setting e reference candidate comparator' m) s := by
    refine ⟨rfl, fun _ _ _ _ ho => ho, fun _ _ _ _ ho => ho, fun lane hlane o ho => ?_⟩
    have hrecord := (mem_records h).mpr ⟨lane, hlane, o, ho, rfl⟩
    exact ofOutcomes_congr (hsame _ _ (hmatch _ hrecord)) _
  exact hcovers.returns h

end

end Interleaving

/-- Whether options ask for less: the tolerance for the kind of output and the deviation
    that is allowed are no lower, and the confidence that is asked for is no higher. The
    runs are the same otherwise. -/
structure Config.Loosens (c c' : Config) : Prop where
  epsilon : c.profile.epsilon c.kind ≤ c'.profile.epsilon c.kind
  maxDeviation : c.maxDeviation ≤ c'.maxDeviation
  minConfidence : c'.minConfidence ≤ c.minConfidence
  sampleSize : c'.sampleSize = c.sampleSize
  seed : c'.seed = c.seed
  timeout : c'.timeout = c.timeout
  runTimeout : c'.runTimeout = c.runTimeout
  workers : c'.workers = c.workers
  kind : c'.kind = c.kind
  pattern : c'.pattern = c.pattern
  failureCap : c'.failureCap = c.failureCap

namespace Validator

section

variable {c c' : Config} {dialect : Pattern.Dialect} {v v' : Validator}
  (hv : ofConfig c dialect = .ok v) (hv' : ofConfig c' dialect = .ok v') (hloosens : c.Loosens c')

include hv hv' hloosens

theorem executor_of_loosens : v'.executor = v.executor := by
  rcases ofConfig_ok hv with ⟨rfl, _⟩
  rcases ofConfig_ok hv' with ⟨rfl, _⟩
  rw [executor, hloosens.workers, hloosens.timeout, hloosens.runTimeout, executor]

theorem cases_of_loosens (domain : Domain) : v'.cases domain = v.cases domain := by
  rcases ofConfig_ok hv with ⟨rfl, _⟩
  rcases ofConfig_ok hv' with ⟨rfl, _⟩
  rw [cases, hloosens.sampleSize, hloosens.seed, cases]

theorem comparator_of_loosens :
    v'.comparator = v.comparator.withEpsilon (c'.profile.epsilon c.kind) := by
  have hextractor : v'.extractor = v.extractor := by
    have hpattern : c'.extractor dialect = c.extractor dialect := by
      rw [Config.extractor, hloosens.pattern, Config.extractor]
    rw [ofConfig_extractor hv, ofConfig_extractor hv'] at hpattern
    exact Except.ok.inj hpattern
  rcases ofConfig_ok hv with ⟨rfl, _⟩
  rcases ofConfig_ok hv' with ⟨rfl, _⟩
  unfold comparator
  rw [hextractor, hloosens.kind]
  rfl

theorem policy_of_loosens :
    (Policy.ofProfile v.config.profile).Loosens (.ofProfile v'.config.profile) := by
  rcases ofConfig_ok hv with ⟨rfl, _⟩
  rcases ofConfig_ok hv' with ⟨rfl, _⟩
  exact ⟨hloosens.maxDeviation, hloosens.minConfidence, rfl, rfl, rfl⟩

/-- Outcomes that match have the same record with looser options. -/
theorem compare_of_loosens {r k : Outcome} (h : (v.comparator.compare r k).isMatch = true) :
    v'.comparator.compare r k = v.comparator.compare r k := by
  have hepsilon : v.comparator.epsilon ≤ c'.profile.epsilon c.kind := by
    rw [comparator, Comparator.ofProfile, (ofConfig_ok hv).1]
    exact hloosens.epsilon
  rw [comparator_of_loosens hv hv' hloosens]
  exact v.comparator.compare_withEpsilon hepsilon h

theorem report_of_loosens {records : List Comparison}
    (h : (v.report records).verdict = .certified) : v'.report records = v.report records := by
  have hkind : v'.config.kind = v.config.kind := by
    rw [(ofConfig_ok hv).1, (ofConfig_ok hv').1, hloosens.kind]
  unfold report at h ⊢
  rw [hkind]
  exact Policy.certify_of_loosens (policy_of_loosens hv hv' hloosens) _ h

/-- A certificate is not withdrawn by looser options. Let the artifacts do on every case
    what is a function of the case, and let a validation report that the candidate is
    certified. With options that ask for less, the very same run has the same report;
    and whatever else a validation with these options may give, it is this report again,
    unless the run was stopped by its deadline or its caller. -/
theorem reports_certified_of_loosens {reference candidate : Conduct} {R C : Case → Outcome}
    (hreference : reference.Follows R) (hcandidate : candidate.Follows C) {domain : Domain}
    {m : Moment} {s : Interleaving.State} {report : Report}
    (h : v.Reports reference candidate domain m s report)
    (hcertified : report.verdict = .certified) :
    v'.Reports reference candidate domain m s report ∧
      ∀ (reference' candidate' : Conduct) (m' : Moment) (s' : Interleaving.State)
        (result : Except ValidationError Report),
        reference'.Follows R → candidate'.Follows C →
        v'.Concludes reference' candidate' domain m' s' result →
        result = .ok report ∨ ∃ err, result = .error (.run err) ∧
          Interleaving.IsStopped v'.executor c.sampleSize m' s' err := by
  cases h with
  | inconclusive => exact nomatch hcertified
  | @ofRecords cases s records hcases hne h =>
      have hmatch := Policy.isMatch_of_certified hcertified
      have hcases' : v'.cases domain = .ok cases := by
        rw [cases_of_loosens hv hv' hloosens, hcases]
      have hreport := report_of_loosens hv hv' hloosens hcertified
      have hreturns := Interleaving.returns_of_compare_eq
        (fun r k => compare_of_loosens hv hv' hloosens (r := r) (k := k)) h hmatch
      constructor
      · -- The very same run.
        rw [← hreport]
        refine .ofRecords hcases' hne ?_
        rw [executor_of_loosens hv hv' hloosens]
        exact hreturns
      · intro reference' candidate' m' s' result hreference' hcandidate' hconcludes
        -- Each case matches when it is run alone, so it does in every other run.
        have halone : ∀ case ∈ cases,
            (v'.comparator.compare (R case) (C case)).isMatch = true := by
          intro case hcase
          have hmem : v.comparator.compare (R case) (C case) ∈ records := by
            rw [Interleaving.records_eq_alone hreference hcandidate h, List.mem_mergeSort]
            exact List.mem_map_of_mem hcase
          rw [compare_of_loosens hv hv' hloosens (hmatch _ hmem)]
          exact hmatch _ hmem
        cases hconcludes with
        | refused hrefused => exact nomatch hcases'.symm.trans hrefused
        | inconclusive hempty => exact absurd (Except.ok.inj (hcases'.symm.trans hempty)) hne
        | returned hcases'' _ h' =>
            cases hcases'.symm.trans hcases''
            rcases Interleaving.returns_of_isMatch hreference' hcandidate' halone h' with
              hok | ⟨err, herr, hstopped⟩
            · rw [← Interleaving.records_eq_alone hreference hcandidate hreturns] at hok
              rw [hok, ← hreport]
              exact Or.inl rfl
            · rw [herr]
              refine Or.inr ⟨err, rfl, ?_⟩
              rw [cases_length hcases, (ofConfig_ok hv).1] at hstopped
              exact hstopped

end

/-- Options by which a deviation of a quarter is just allowed. -/
private def strict : Config :=
  { Config.standard with
    sampleSize := 1, maxDeviation := 0.25, minConfidence := 0.125
    tolerances := fun _ => some ⟨0.25, 0⟩ }

/-- Options that allow for more. -/
private def lenient : Config :=
  { strict with maxDeviation := 1, minConfidence := 0, tolerances := fun _ => some ⟨0.5, 0⟩ }

/-- The conduct of an artifact that puts out one number. -/
private def stating (number : String) : Conduct := fun case _ o =>
  o = .succeeded case.index number

private theorem strict_loosens_lenient : strict.Loosens lenient :=
  ⟨by decide +kernel, by decide +kernel, by decide +kernel, rfl, rfl, rfl, rfl, rfl, rfl, rfl, rfl⟩

/-- One case on which the candidate deviates by a quarter. -/
theorem reports_certified_of_loosens_quarter :
    ∃ v v' s report, ofConfig strict = .ok v ∧ ofConfig lenient = .ok v' ∧
      strict.Loosens lenient ∧ v.Reports (stating "2") (stating "2.5") ⟨[]⟩ .start s report ∧
      report.verdict = .certified ∧
      v'.Reports (stating "2") (stating "2.5") ⟨[]⟩ .start s report := by
  have hv : ofConfig strict = .ok ⟨strict, .whole⟩ :=
    ofConfig_ok_iff.mpr ⟨rfl, ⟨⟨by decide +kernel, by decide +kernel⟩, by decide +kernel,
      by decide, nofun, by decide, by decide, by rintro kind t ⟨⟩; decide +kernel, nofun⟩, rfl⟩
  have hv' : ofConfig lenient = .ok ⟨lenient, .whole⟩ :=
    ofConfig_ok_iff.mpr ⟨rfl, ⟨⟨by decide +kernel, by decide +kernel⟩, by decide +kernel,
      by decide, nofun, by decide, by decide, by rintro kind t ⟨⟩; decide +kernel, nofun⟩, rfl⟩
  let v : Validator := ⟨strict, .whole⟩
  have hfollows : ∀ number, (stating number).Follows fun case => .succeeded case.index number := by
    rintro number case b o rfl
    exact Or.inl (.refl _)
  rcases Interleaving.exists_returns_single (e := v.executor) rfl (stating "2") (stating "2.5")
    v.comparator ⟨0, Domain.sample ⟨[]⟩ strict.seed 0, .random⟩ (m := .start) rfl
    (fun _ => rfl) (fun _ => rfl) with ⟨s, h, _⟩
  let record : Comparison := v.comparator.compare (.succeeded 0 "2") (.succeeded 0 "2.5")
  have hok : settle [(CaseResult.ofOutcomes v.comparator 0
      ⟨.succeeded 0 "2", .succeeded 0 "2.5"⟩).1] none false = .ok [record] := by
    have hrecord : (CaseResult.ofOutcomes v.comparator 0
        ⟨.succeeded 0 "2", .succeeded 0 "2.5"⟩).1 = .record record := by
      unfold CaseResult.ofOutcomes
      rw [if_neg (by decide), if_neg (by decide), if_neg (by decide)]
      dsimp only
      rw [if_neg (by decide +kernel)]
    rw [hrecord]
    exact congrArg Except.ok (List.mergeSort_singleton _)
  rw [hok] at h
  have hreports : v.Reports (stating "2") (stating "2.5") ⟨[]⟩ .start s (v.report [record]) :=
    .ofRecords rfl (List.cons_ne_nil _ _) h
  have hcertified : (v.report [record]).verdict = .certified := by
    have hordered : inCaseOrder [record] = [record] := List.mergeSort_singleton _
    unfold report Policy.certify
    rw [hordered]
    decide +kernel
  exact ⟨v, _, s, _, hv, hv', strict_loosens_lenient, hreports, hcertified,
    (reports_certified_of_loosens hv hv' strict_loosens_lenient (hfollows "2") (hfollows "2.5")
      hreports hcertified).1⟩

end Validator

end Concordance
