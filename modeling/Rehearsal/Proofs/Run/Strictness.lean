import Rehearsal.Proofs.Journaled.Resembles
import Rehearsal.Proofs.Report.Verdict
import Rehearsal.Proofs.Run.Actions
import Rehearsal.Proofs.Run.SelfContained

/-!
# Strictness

Whether a run is strict decides how what happens in it is judged, not what happens. A strict
and a lenient run of a self-contained test suite call the same code and tell the same,
scenario by scenario, but for the verdict on each scenario; and what fails in the lenient run
fails in the strict one.
-/

namespace Rehearsal

open Journaled

variable {W σ ν : Type}

/-! ## Verdicts -/

/-- In a strict run, undefined and pending steps are fatal, too. -/
theorem Outcome.isFatal_strict_iff {o : Outcome} :
    o.isFatal true = true ↔ o.isFatal false = true ∨ o = .undefined ∨ o = .pending := by
  cases o <;> simp [isFatal]

/-- A scenario that failed in a lenient run failed in a strict one. -/
theorem ScenarioReport.isFailed_of_lenient {report : ScenarioReport}
    (h : report.isFailed false = true) :
    report.isFailed true = true := by
  rw [isFailed_iff] at h ⊢
  exact h.imp_right fun ⟨step, hstep, hfatal⟩ => ⟨step, hstep, Outcome.isFatal_of_lenient hfatal⟩

/-- A feature that failed in a lenient run failed in a strict one. -/
theorem FeatureReport.isFailed_of_lenient {report : FeatureReport}
    (h : report.isFailed false = true) :
    report.isFailed true = true := by
  rw [isFailed_iff] at h ⊢
  exact h.imp_right fun ⟨scenario, hscenario, hfailed⟩ =>
    ⟨scenario, hscenario, ScenarioReport.isFailed_of_lenient hfailed⟩

/-- A record that is fatal in a strict run is so in a lenient one, or it has a step that is
undefined or pending. -/
theorem SuiteReport.hasFatal_strict_iff (features : List FeatureReport)
    (hookFailures : List HookFailure) (strict : Bool) :
    (ofFeatures features hookFailures strict).hasFatal true = true ↔
      (ofFeatures features hookFailures strict).hasFatal false = true ∨
        ∃ step ∈ (ofFeatures features hookFailures strict).steps,
          step.outcome = .undefined ∨ step.outcome = .pending := by
  simp only [hasFatal_iff, counts_ofFeatures, OutcomeCounts.ofList_hasFatal_iff, List.mem_map,
    exists_exists_and_eq_and, Outcome.isFatal_strict_iff]
  constructor
  · rintro (⟨step, hstep, hfatal | hopen⟩ | hhook)
    · exact .inl (.inl ⟨step, hstep, hfatal⟩)
    · exact .inr ⟨step, hstep, hopen⟩
    · exact .inl (.inr hhook)
  · rintro ((⟨step, hstep, hfatal⟩ | hhook) | ⟨step, hstep, hopen⟩)
    · exact .inl ⟨step, hstep, .inl hfatal⟩
    · exact .inr hhook
    · exact .inl ⟨step, hstep, .inr hopen⟩

/-! ## Entries -/

/-- The entry of a strict run stands for that of a lenient one: it is the same, or it tells of the
same end of a scenario, with another verdict if the scenario failed in the strict run only. -/
inductive Entry.Reclassified : Entry ν → Entry ν → Prop
  | same (entry : Entry ν) : Reclassified entry entry
  | finished (observer : Nat) (feature name : String) (status : ScenarioStatus)
      {failed failed' : Bool} :
      (failed = true → failed' = true) →
      Reclassified (.observed observer (.scenarioFinished feature name status failed))
        (.observed observer (.scenarioFinished feature name status failed'))

/-- The marks are the same. -/
theorem marks_of_reclassified {lenient strict : List (Entry ν)}
    (h : List.Forall₂ Entry.Reclassified lenient strict) : marks strict = marks lenient := by
  induction h with
  | nil => rfl
  | @cons entry entry' rest rest' hentry _ ih =>
    have hsplit : ∀ (e : Entry ν) (es : List (Entry ν)), marks (e :: es) = marks [e] ++ marks es :=
      fun e es => marks_append [e] es
    rw [hsplit, hsplit entry, ih]
    cases hentry with
    | same => rfl
    | finished => rfl

namespace Runner

/-! ## Runs next to each other -/

/-- The runner as lenient. -/
def asLenient (r : Runner W σ ν) : Runner W σ ν := { r with strict := false }

/-- Strict or lenient, a runner does the same. -/
theorem asLenient_actsLike (r : Runner W σ ν) : r.asLenient.ActsLike r.asStrict :=
  ⟨rfl, rfl, rfl, rfl⟩

/-- Observers that are told of related events make related entries. -/
theorem ActsLike.tell_resembles {r r' : Runner W σ ν} (h : r.ActsLike r')
    {event event' : RunEvent}
    (hevent : ∀ observer, Entry.Reclassified (.observed observer event : Entry ν)
      (.observed observer event')) :
    Resembles Eq (Entry.Reclassified (ν := ν)) (r.tell event) (r'.tell event') := by
  intro s s'
  have hentries : (r.tell event s : Unit × σ × List (Entry ν)).2.2 = r.announced event :=
    r.tell_announces event s
  have hentries' : (r'.tell event' s' : Unit × σ × List (Entry ν)).2.2 = r'.announced event' :=
    r'.tell_announces event' s'
  refine ⟨rfl, ?_⟩
  rw [hentries, hentries', announced, announced, h.observers, List.forall₂_map_left_iff,
    List.forall₂_map_right_iff, List.forall₂_same]
  exact fun observer _ => hevent observer

namespace SelfContained

/-- A self-contained test suite is so for the lenient runner. -/
theorem asLenient {r : Runner W σ ν} (hself : r.SelfContained) : r.asLenient.SelfContained :=
  ⟨hself.registry, hself.newWorld⟩

/-- Of a scenario both runs tell the same but for the verdict, and give the same record. -/
theorem scenarioReport_resembles {r : Runner W σ ν} (hself : r.SelfContained) (feature : String)
    (scenario : Scenario) (blocked : Bool) :
    Resembles Eq (Entry.Reclassified (ν := ν)) (r.asLenient.scenarioReport feature scenario blocked)
      (r.asStrict.scenarioReport feature scenario blocked) := by
  have hacts := r.asLenient_actsLike
  rw [scenarioReport_eq, scenarioReport_eq, ← hacts.recordScenario]
  refine (hacts.tell_resembles fun _ => .same _).bind fun _ _ _ => ?_
  refine (Resembles.of_constant
    (hself.asLenient.recordScenario feature scenario blocked) .same).bind
    fun report _ hreport => ?_
  subst hreport
  refine (hacts.tell_resembles fun observer => ?_).bind fun _ _ _ => Resembles.pure rfl
  exact .finished observer feature report.name report.status ScenarioReport.isFailed_of_lenient

/-- So they do of a feature. -/
theorem featureReport_resembles {r : Runner W σ ν} (hself : r.SelfContained) (feature : Feature)
    (suiteBlocked : Bool) :
    Resembles Eq (Entry.Reclassified (ν := ν)) (r.asLenient.featureReport feature suiteBlocked)
      (r.asStrict.featureReport feature suiteBlocked) := by
  have hacts := r.asLenient_actsLike
  cases hselected : r.hasSelected feature with
  | false =>
    have hlenient : r.asLenient.hasSelected feature = false := hselected
    have hstrict : r.asStrict.hasSelected feature = false := hselected
    rw [r.asLenient.featureReport_of_not_selected hlenient,
      r.asStrict.featureReport_of_not_selected hstrict]
    exact Resembles.pure rfl
  | true =>
    -- Hooks do not see the strictness, and give the same from wherever they start.
    have hhooks : ∀ run scope, scope.isSuite = false → Resembles Eq (Entry.Reclassified (ν := ν))
        (r.asLenient.fireAroundFeature feature run scope)
        (r.asStrict.fireAroundFeature feature run scope) := by
      intro run scope hscope
      rw [← hacts.fireAroundFeature]
      exact .of_constant (hself.asLenient.fireAroundFeature feature run hscope) .same
    have hlenient : r.asLenient.hasSelected feature = true := hselected
    have hstrict : r.asStrict.hasSelected feature = true := hselected
    rw [r.asLenient.featureReport_of_selected hlenient,
      r.asStrict.featureReport_of_selected hstrict]
    refine (hacts.tell_resembles fun _ => .same _).bind fun _ _ _ => ?_
    refine (hhooks _ _ rfl).bind fun before _ hbefore => ?_
    subst hbefore
    have hscenarios := Resembles.forEach (r.selected feature) fun scenario =>
      hself.scenarioReport_resembles feature.name scenario (suiteBlocked || !before.isEmpty)
    refine hscenarios.bind fun reports _ hreports => ?_
    refine (hhooks _ _ rfl).bind fun after _ hafter => ?_
    subst hreports hafter
    exact (hacts.tell_resembles fun _ => .same _).bind fun _ _ _ => Resembles.pure rfl

/-- So they do of the run, of which they give the same record but for the strictness. -/
theorem run_resembles {r : Runner W σ ν} (hself : r.SelfContained) (features : List Feature) :
    Resembles (fun lenient strict => ∃ reports failures,
        lenient = .ofFeatures reports failures false ∧ strict = .ofFeatures reports failures true)
      (Entry.Reclassified (ν := ν)) (r.asLenient.run features) (r.asStrict.run features) := by
  have hacts := r.asLenient_actsLike
  have hhooks : ∀ scope, Resembles Eq (Entry.Reclassified (ν := ν))
    (r.asLenient.fireAroundSuite scope)
      (r.asStrict.fireAroundSuite scope) := by
    intro scope
    rw [← hacts.fireAroundSuite]
    exact .of_constant (hself.asLenient.fireAroundSuite scope) .same
  rw [run_bracketed, run_bracketed]
  refine (hacts.tell_resembles fun _ => .same _).bind fun _ _ _ => ?_
  refine (hhooks _).bind fun before _ hbefore => ?_
  subst hbefore
  have hfeatures := Resembles.forEach features fun feature =>
    hself.featureReport_resembles feature (!before.isEmpty)
  refine hfeatures.bind fun results _ hresults => (hhooks _).bind fun after _ hafter => ?_
  subst hresults hafter
  exact (hacts.tell_resembles fun _ => .same _).bind fun _ _ _ => Resembles.pure ⟨_, _, rfl, rfl⟩

end SelfContained

/-- Strictness only reclassifies. If the code of a test suite depends on its worlds only, then from
whatever surroundings a strict run gives the record of the lenient run with nothing changed but the
strictness; it calls the same code, with the same failures; and all that it writes is the same,
entry by entry, but for the verdicts on scenarios that observers are told. What failed in the
lenient run failed in the strict one. The exit codes differ exactly if nothing fatal happened in the
lenient run while some step was undefined or pending. -/
theorem run_reclassifies (r : Runner W σ ν) (hself : r.SelfContained) (features : List Feature)
    (s s' : σ) :
    let lenient := (r.asLenient.run features).run s
    let strict := (r.asStrict.run features).run s'
    strict.1 = { lenient.1 with strict := true } ∧
    marks strict.2.2 = marks lenient.2.2 ∧
    List.Forall₂ Entry.Reclassified lenient.2.2 strict.2.2 ∧
    (∀ feature ∈ lenient.1.features,
      (feature.isFailed false = true → feature.isFailed true = true) ∧
      ∀ scenario ∈ feature.scenarios, scenario.isFailed false = true →
        scenario.isFailed true = true) ∧
    (strict.1.exitCode ≠ lenient.1.exitCode ↔ lenient.1.hasFatal false = false ∧
      ∃ step ∈ lenient.1.steps, step.outcome = .undefined ∨ step.outcome = .pending) := by
  intro lenient strict
  obtain ⟨⟨reports, failures, hlenient, hstrict⟩, hentries⟩ := hself.run_resembles features s s'
  have hlenient : lenient.1 = .ofFeatures reports failures false := hlenient
  have hstrict : strict.1 = .ofFeatures reports failures true := hstrict
  refine ⟨?_, marks_of_reclassified hentries, hentries, fun feature _ => ?_, ?_⟩
  · rw [hlenient, hstrict]
    rfl
  · exact ⟨FeatureReport.isFailed_of_lenient, fun _ _ => ScenarioReport.isFailed_of_lenient⟩
  · have hfatal := SuiteReport.hasFatal_strict_iff reports failures false
    have hcodes : strict.1.exitCode = (if lenient.1.hasFatal true then 1 else 0) ∧
        lenient.1.exitCode = (if lenient.1.hasFatal false then 1 else 0) := by
      rw [hlenient, hstrict]
      exact ⟨rfl, rfl⟩
    rw [hcodes.1, hcodes.2, hlenient]
    cases hfatal' : (SuiteReport.ofFeatures reports failures false).hasFatal false with
    | true => simp [hfatal.2 (.inl hfatal')]
    | false =>
      rw [hfatal', or_iff_right Bool.false_ne_true] at hfatal
      rw [← hfatal]
      simp

/-- A run with an undefined step and nothing fatal: strictness fails it, with the same calls as
in the lenient run. -/
theorem hooked_reclassifies :
    hooked.SelfContained ∧
    ((hooked.asLenient.run [shortFeature]).run ()).1.exitCode = 0 ∧
    ((hooked.asStrict.run [shortFeature]).run ()).1.exitCode ≠ 0 ∧
    (marks ((hooked.asLenient.run [shortFeature]).run ()).2.2).length = 9 ∧
    marks ((hooked.asStrict.run [shortFeature]).run ()).2.2 =
      marks ((hooked.asLenient.run [shortFeature]).run ()).2.2 := by
  have h := hooked.run_reclassifies hooked_selfContained [shortFeature] () ()
  have hlenient : ((hooked.asLenient.run [shortFeature]).run ()).1.exitCode = 0 := rfl
  have hdiffer := h.2.2.2.2.2 ⟨rfl, _, List.mem_singleton_self _, .inl rfl⟩
  exact ⟨hooked_selfContained, hlenient,
    fun hstrict => hdiffer (hstrict.trans hlenient.symm), rfl, h.2.1⟩

end Runner

end Rehearsal
