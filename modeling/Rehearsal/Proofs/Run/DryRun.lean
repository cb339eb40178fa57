import Rehearsal.Proofs.Run.Faults
import Rehearsal.Proofs.Run.Records

/-!
# Dry runs

A dry run calls nothing: its record is a function of the definitions and of what is selected. It
foretells the record of a run that is not dry, step by step. For the definitions that are for a step
do not depend on anything that happens before it, so a step that is attempted is found, or not
found, as the dry run says; only hooks that fail around the step can hide that.
-/

namespace Rehearsal

open Journaled

variable {W σ ν ε α β : Type}

/-! ## Looking up and running -/

/-- The record `dry` of a step that is looked up only and the record `real` of its run
agree on its definition. -/
structure StepReport.AgreesOnLookup (dry real : StepReport) : Prop where
  /-- It is found, or not, by the same pattern. -/
  pattern : dry.pattern = real.pattern
  /-- The pattern captures the same. -/
  arguments : dry.arguments = real.arguments
  /-- Both find no definition, or neither. -/
  undefined : dry.outcome = .undefined ↔ real.outcome = .undefined
  /-- Both find several definitions, or neither, and the error names the same. -/
  ambiguous : ∀ error, (dry.outcome = .ambiguous ∧ dry.error = error) ↔
    (real.outcome = .ambiguous ∧ real.error = error)

/-- The record `dry` of a step that is looked up only tells beforehand what the record `real`
of the same step in a run says of its definition, if the step is attempted there and no hook
around it makes it fail. -/
structure StepReport.Foretells (dry real : StepReport) : Prop where
  /-- The records are of the same keyword. -/
  keyword : dry.keyword = real.keyword
  /-- The records are of the same text. -/
  text : dry.text = real.text
  /-- The step is not run: it is skipped, or it cannot be run. -/
  outcome : dry.outcome = .skipped ∨ dry.outcome = .undefined ∨ dry.outcome = .ambiguous
  /-- An attempt finds what has been looked up. -/
  attempted : real.outcome ≠ .skipped → real.faults = [] → dry.AgreesOnLookup real

namespace Registry

/-- A step that has one definition succeeds, fails or is pending. -/
theorem invoke_outcome (r : Registry W σ ν) (definition : StepDefinition W σ ν)
    (captures : List String) (below : Option StepArgument) :
    (r.invoke definition captures below).Ensures fun result _ =>
      result.1 = .successful ∨ result.1 = .failed ∨ result.1 = .pending := by
  refine (Ensures.any _).bind fun result _ _ => ?_
  match result with
  | .error (.transform e) => exact Ensures.pure (.inr (.inl rfl))
  | .error (.failure f) =>
    dsimp only
    cases f.pending with
    | some p => exact Ensures.pure (.inr (.inr rfl))
    | none => exact Ensures.pure (.inr (.inl rfl))
  | .ok .completed => exact Ensures.pure (.inl rfl)
  | .ok (.chained steps) =>
    refine (Ensures.any _).bind fun chain _ _ => ?_
    cases chain with
    | ok _ => exact Ensures.pure (.inl rfl)
    | error e => exact Ensures.pure (.inr (.inl rfl))

/-- What is looked up is skipped, undefined or ambiguous. -/
theorem preview_outcome (r : Registry W σ ν) (step : Step) :
    (r.preview step).outcome = .skipped ∨ (r.preview step).outcome = .undefined ∨
      (r.preview step).outcome = .ambiguous := by
  unfold preview
  split
  · exact .inr (.inl rfl)
  · exact .inr (.inr rfl)
  · exact .inl rfl

/-- To run a step is to look it up first, whatever world it is run on. -/
theorem execute_agreesOnLookup (r : Registry W σ ν) (step : Step) :
    (r.execute step).Ensures fun report _ => (r.preview step).AgreesOnLookup report := by
  have hsame : (r.preview step).AgreesOnLookup (r.preview step) := ⟨rfl, rfl, .rfl, fun _ => .rfl⟩
  unfold execute
  split
  · next definition captures hresolve =>
    have hpreview : r.preview step =
        { StepReport.skipped step with
          pattern := some definition.pattern.source
          arguments := captures } := by
      unfold preview
      rw [hresolve]
    refine (r.invoke_outcome definition captures step.argument).bind fun ⟨outcome, error⟩ _
      houtcome => ?_
    refine Ensures.pure ?_
    rw [hpreview]
    -- Neither the step that was looked up nor the one that was run is undefined or ambiguous.
    refine ⟨rfl, rfl, ?_, fun _ => ?_⟩
    · rcases houtcome with rfl | rfl | rfl <;> simp [StepReport.skipped]
    · rcases houtcome with rfl | rfl | rfl <;> simp [StepReport.skipped]
  · exact Ensures.pure hsame

end Registry

namespace Runner

/-- A step that is attempted does not count as skipped. -/
theorem attemptStep_ne_skipped (r : Runner W σ ν) (feature : String) (scenario : Scenario)
    (step : Step) :
    (r.attemptStep feature scenario step).Ensures fun result _ => result.1.outcome ≠ .skipped := by
  refine (r.tryStep_ne_skipped feature scenario step).bind fun report _ htried => ?_
  refine (Ensures.any _).bind fun failures _ _ => Ensures.pure ?_
  exact absorb_ne_skipped failures htried

/-- Looking a step up foretells every record that a runner makes of it. -/
theorem holdsOfRecords_foretells (r : Runner W σ ν) :
    r.HoldsOfRecords fun step report => (r.registry.preview step).Foretells report := by
  have hforetells : ∀ {step report}, step.RecordedBy report →
      (report.outcome ≠ .skipped → report.faults = [] →
        (r.registry.preview step).AgreesOnLookup report) →
      (r.registry.preview step).Foretells report := by
    intro step report hreport hagrees
    have hpreview := r.registry.preview_recordedBy step
    exact ⟨hpreview.keyword.trans hreport.keyword.symm, hpreview.text.trans hreport.text.symm,
      r.registry.preview_outcome step, hagrees⟩
  have hrecorded := r.holdsOfRecords_recordedBy
  refine ⟨fun step => ?_, fun step => ?_, fun step failure => ?_, fun step s => ?_⟩
  · exact hforetells (hrecorded.skipped step) fun hattempted => absurd rfl hattempted
  · exact hforetells (hrecorded.previewed step) fun _ _ => ⟨rfl, rfl, .rfl, fun _ => .rfl⟩
  · exact hforetells (hrecorded.failedByHook step failure) fun _ hnone => nomatch hnone
  · exact hforetells (hrecorded.executed step s) fun _ _ => r.registry.execute_agreesOnLookup step s

end Runner

/-! ## The record of a dry run -/

/-- The record of a scenario whose steps are looked up only. -/
def Registry.previewScenario (r : Registry W σ ν) (scenario : Scenario) : ScenarioReport :=
  ⟨scenario.name, scenario.tags, .completed, scenario.steps.map r.preview, []⟩

namespace Runner

/-- The record of a feature whose steps are looked up only. -/
def previewFeature (r : Runner W σ ν) (feature : Feature) : FeatureReport :=
  ⟨feature.name, feature.tags, (r.selected feature).map r.registry.previewScenario, []⟩

variable {r : Runner W σ ν}

/-- In a dry run the steps of a scenario are looked up, and nothing is called. -/
theorem scenarioReport_of_dryRun (hdry : r.dryRun = true) (feature : String) (scenario : Scenario) :
    (r.scenarioReport feature scenario false).Ensures fun report entries =>
      report = r.registry.previewScenario scenario ∧ marks entries = [] := by
  rw [r.scenarioReport_eq, recordScenario, if_neg Bool.false_ne_true, if_pos hdry]
  refine (r.tell_marks _).bind fun _ first hfirst => ?_
  refine Ensures.bind (P := fun report entries =>
    report = r.registry.previewScenario scenario ∧ marks entries = []) ?_ fun report between
      hbetween => ?_
  · refine (r.recordSteps_marks feature scenario _).bind fun steps entries ⟨hsteps, hquiet⟩ =>
      Ensures.pure ?_
    rw [List.append_nil, hsteps]
    exact ⟨rfl, hquiet⟩
  · refine (r.tell_marks _).bind fun _ last hlast => Ensures.pure ⟨hbetween.1, ?_⟩
    rw [List.append_nil, marks_append, marks_append, hfirst, hbetween.2, hlast]
    rfl

/-- In a dry run a feature is looked up if one of its scenarios is selected,
and nothing is called. -/
theorem featureReport_of_dryRun (hdry : r.dryRun = true) (feature : Feature) :
    (r.featureReport feature false).Ensures fun result entries =>
      result = (if r.hasSelected feature then some (r.previewFeature feature) else none) ∧
      marks entries = [] := by
  cases hselected : r.hasSelected feature with
  | false =>
    rw [r.featureReport_of_not_selected hselected]
    exact Ensures.pure ⟨rfl, rfl⟩
  | true =>
    have hscenarios := forEach_quiet (r.selected feature)
      (r.scenarioReport_of_dryRun hdry feature.name)
    rw [r.featureReport_of_selected hselected]
    simp only [fireAroundFeature, hdry, Bool.not_true, Bool.and_false, Bool.false_eq_true,
      ↓reduceIte, pure_bind, List.isEmpty_nil, Bool.or_self]
    refine (r.tell_marks _).bind fun _ first hfirst => ?_
    refine hscenarios.bind fun reports between hbetween => ?_
    refine (r.tell_marks _).bind fun _ last hlast => Ensures.pure ⟨?_, ?_⟩
    · rw [hbetween.1]
      rfl
    · rw [List.append_nil, marks_append, marks_append, hfirst, hbetween.2, hlast]
      rfl

/-- A dry run records what looking up finds, and calls nothing. -/
theorem run_of_dryRun (hdry : r.dryRun = true) (features : List Feature) :
    (r.run features).Ensures fun report entries =>
      report = .ofFeatures ((features.filter r.hasSelected).map r.previewFeature) [] r.strict ∧
      marks entries = [] := by
  have hfeatures := forEach_quiet features (r.featureReport_of_dryRun hdry)
  rw [r.run_bracketed]
  simp only [fireAroundSuite, hdry, ↓reduceIte, pure_bind, List.isEmpty_nil, Bool.not_true]
  refine (r.tell_marks _).bind fun _ first hfirst => ?_
  refine hfeatures.bind fun results between hbetween => ?_
  refine (r.tell_marks _).bind fun _ last hlast => Ensures.pure ⟨?_, ?_⟩
  · rw [hbetween.1, r.filterMap_selected]
    rfl
  · rw [List.append_nil, marks_append, marks_append, hfirst, hbetween.2, hlast]
    rfl

end Runner

/-! ## What a dry run foretells -/

/-- The record `dry` of a scenario whose steps are looked up only foretells its
record `real` in a run. -/
structure ScenarioReport.Foretells (dry real : ScenarioReport) : Prop where
  /-- The records are of the same name. -/
  name : dry.name = real.name
  /-- The records are of the same tags. -/
  tags : dry.tags = real.tags
  /-- The scenario counts as completed. -/
  completed : dry.status = .completed
  /-- No hook has failed. -/
  unhooked : dry.hookFailures = []
  /-- The steps are the same, and what is looked up of each is foretold. -/
  steps : List.Forall₂ StepReport.Foretells dry.steps real.steps

/-- The record `dry` of a feature whose steps are looked up only foretells its
record `real` in a run. -/
structure FeatureReport.Foretells (dry real : FeatureReport) : Prop where
  /-- The records are of the same name. -/
  name : dry.name = real.name
  /-- The records are of the same tags. -/
  tags : dry.tags = real.tags
  /-- No hook has failed. -/
  unhooked : dry.hookFailures = []
  /-- The scenarios are the same, and what is looked up in each is foretold. -/
  scenarios : List.Forall₂ ScenarioReport.Foretells dry.scenarios real.scenarios

namespace Runner

/-- Looking up the steps of a scenario foretells its record. -/
theorem previewScenario_foretells (r : Registry W σ ν) {scenario : Scenario}
    {report : ScenarioReport}
    (h : scenario.RecordedBy (fun step report => (r.preview step).Foretells report) report) :
    (r.previewScenario scenario).Foretells report where
  name := h.name.symm
  tags := h.tags.symm
  completed := rfl
  unhooked := rfl
  steps := List.forall₂_map_left_iff.2 h.steps

/-- Looking up the steps of a feature foretells its record. -/
theorem previewFeature_foretells (r : Runner W σ ν) {feature : Feature} {report : FeatureReport}
    (h : r.RecordsFeature (fun step report => (r.registry.preview step).Foretells report)
      feature report) :
    (r.previewFeature feature).Foretells report where
  name := h.name.symm
  tags := h.tags.symm
  unhooked := rfl
  scenarios := List.forall₂_map_left_iff.2 <|
    h.scenarios.imp fun _ _ hscenario => previewScenario_foretells r.registry hscenario

/-- A dry run calls nothing, records no failure of a hook and foretells the run that is not dry,
from whatever states the two start and whatever the code of the test suite does: it records the same
features, scenarios and steps; it has each scenario completed and each step skipped, undefined or
ambiguous; and where a step is attempted and no hook around it makes it fail, the record of the run
agrees with it on the definition of the step. The steps that are attempted are those which the run
does not record as skipped: no attempt leads to such a record. -/
theorem asDryRun_foretells (r : Runner W σ ν) (features : List Feature) (s s' : σ) :
    let dry := (r.asDryRun.run features).run s
    let real := (r.run features).run s'
    marks dry.2.2 = [] ∧
    dry.1.hookFailures = [] ∧
    List.Forall₂ FeatureReport.Foretells dry.1.features real.1.features ∧
    ∀ feature scenario step t, ((r.attemptStep feature scenario step).run t).1.1.outcome ≠
      .skipped := by
  intro dry real
  have hdry : dry.1 = .ofFeatures
      ((features.filter r.hasSelected).map r.previewFeature) [] r.strict ∧
      marks dry.2.2 = [] :=
    run_of_dryRun (r := r.asDryRun) rfl features s
  obtain ⟨hrecord, hquiet⟩ := hdry
  have hreal : List.Forall₂
      (r.RecordsFeature fun step report => (r.registry.preview step).Foretells report)
      (features.filter r.hasSelected) real.1.features :=
    (r.holdsOfRecords_foretells.run features s').1
  rw [hrecord]
  refine ⟨hquiet, rfl, ?_,
    fun feature scenario step => r.attemptStep_ne_skipped feature scenario step⟩
  rw [SuiteReport.ofFeatures, List.forall₂_map_left_iff]
  exact hreal.imp fun _ _ hfeature => r.previewFeature_foretells hfeature

/-- A dry run finds the step for which there is no definition, and calls none of the hooks. -/
example :
    ((hooked.asDryRun.run [shortFeature]).run ()).1.steps.map StepReport.outcome = [.undefined] ∧
    marks ((hooked.asDryRun.run [shortFeature]).run ()).2.2 = [] := ⟨rfl, rfl⟩

end Runner

end Rehearsal
