import Mathlib.Data.List.Forall2
import Rehearsal.Proofs.Report.Counting
import Rehearsal.Proofs.Run.Brackets

/-!
# Records position by position

A runner makes records of a step in several ways: it skips the step, looks it up only, runs it, or
finds that a hook around it fails. What holds of the records that are made in each of these ways
holds throughout the record of a run, position by position: there is one record for each feature of
which a scenario is selected, in it one for each selected scenario, in that one for each step, and
no other. So a record mirrors what was to be run, however it went.
-/

namespace Rehearsal

open Journaled

variable {W σ ν ε α β : Type}

/-! ## Lists item by item -/

/-- Computations for items in order give values that stand to the items as the value of
each computation does. -/
theorem Journaled.forEach_forall₂ {f : α → Journaled σ ε β} {R : α → β → Prop} (items : List α)
    (h : ∀ a, (f a).Ensures fun b _ => R a b) :
    (forEach f items).Ensures fun bs _ => List.Forall₂ R items bs :=
  Ensures.forEach (R := fun items bs _ => List.Forall₂ R items bs) items (fun a _ => h a) .nil
    fun _ _ _ _ _ _ hb hbs => .cons hb hbs

/-- Items for which nothing is to be put together may be left out. -/
theorem flatMap_filter_of_nil {f : α → List β} (p : α → Bool) (items : List α)
    (h : ∀ a, p a = false → f a = []) :
    (items.filter p).flatMap f = items.flatMap f := by
  induction items with
  | nil => rfl
  | cons a rest ih =>
    cases hp : p a with
    | true => rw [List.filter_cons_of_pos hp, List.flatMap_cons, List.flatMap_cons, ih]
    | false =>
      rw [List.filter_cons_of_neg (by simp [hp]), ih, List.flatMap_cons, h a hp, List.nil_append]

/-! ## Records of one item -/

/-- The record is of the step: it says the same. -/
structure Step.RecordedBy (step : Step) (report : StepReport) : Prop where
  /-- It has the keyword. -/
  keyword : report.keyword = step.keyword
  /-- It has the text. -/
  text : report.text = step.text

/-- The record of a step that is looked up only is of the step. -/
theorem Registry.preview_recordedBy (r : Registry W σ ν) (step : Step) :
    step.RecordedBy (r.preview step) := by
  unfold preview
  split <;> exact ⟨rfl, rfl⟩

/-- The record is of the scenario, and `P` holds of its steps and their records. -/
structure Scenario.RecordedBy (P : Step → StepReport → Prop) (scenario : Scenario)
    (report : ScenarioReport) :
    Prop where
  /-- It has the name. -/
  name : report.name = scenario.name
  /-- It has the tags, those of the feature included. -/
  tags : report.tags = scenario.tags
  /-- Its steps are those of the scenario, position by position. -/
  steps : List.Forall₂ P scenario.steps report.steps

namespace Runner

/-- The record is of the feature as the runner selects its scenarios, and `P` holds of their steps
and the records of these. -/
structure RecordsFeature (r : Runner W σ ν) (P : Step → StepReport → Prop) (feature : Feature)
    (report : FeatureReport) : Prop where
  /-- It has the name. -/
  name : report.name = feature.name
  /-- It has the tags. -/
  tags : report.tags = feature.tags
  /-- Its scenarios are those that are selected, position by position. -/
  scenarios : List.Forall₂ (Scenario.RecordedBy P) (r.selected feature) report.scenarios

/-- Something that holds of every record which the runner makes of a step. -/
structure HoldsOfRecords (r : Runner W σ ν) (P : Step → StepReport → Prop) : Prop where
  /-- It holds of the records of steps that are skipped. -/
  skipped : ∀ step, P step (.skipped step)
  /-- It holds of the records of steps that are looked up only. -/
  previewed : ∀ step, P step (r.registry.preview step)
  /-- It holds of the records of steps that a hook around them makes fail. -/
  failedByHook : ∀ step failure, P step (.failedByHook step failure)
  /-- It holds of the records of steps that are run. -/
  executed : ∀ step, (r.registry.execute step).Ensures fun report _ => P step report

variable {r : Runner W σ ν} {P : Step → StepReport → Prop}

/-! ## Records that are put together -/

/-- A feature has a record of which `R` holds exactly if one of its scenarios is selected. -/
def RecordedIfSelected (r : Runner W σ ν) (R : Feature → FeatureReport → Prop) (feature : Feature)
    (result : Option FeatureReport) : Prop :=
  if r.hasSelected feature then ∃ report, result = some report ∧ R feature report else result = none

/-- What holds of a record may be weakened. -/
theorem RecordedIfSelected.mono {R R' : Feature → FeatureReport → Prop} {feature : Feature}
    {result : Option FeatureReport} (h : r.RecordedIfSelected R feature result)
    (hR : ∀ report, R feature report → R' feature report) :
    r.RecordedIfSelected R' feature result := by
  unfold RecordedIfSelected at h ⊢
  split at h
  · next hselected =>
    obtain ⟨report, hresult, hreport⟩ := h
    rw [if_pos hselected]
    exact ⟨report, hresult, hR report hreport⟩
  · next hnone =>
    rw [if_neg hnone]
    exact h

/-- The record of a feature has its name, its tags and the records of its selected
scenarios, in order. -/
theorem featureReport_ensures {R : Scenario → ScenarioReport → Prop} (feature : Feature)
    (h : ∀ scenario blocked,
      (r.scenarioReport feature.name scenario blocked).Ensures fun report _ => R scenario report)
    (suiteBlocked : Bool) :
    (r.featureReport feature suiteBlocked).Ensures fun result _ =>
      r.RecordedIfSelected (fun feature report => report.name = feature.name ∧
        report.tags = feature.tags ∧
        List.Forall₂ R (r.selected feature) report.scenarios) feature result := by
  unfold RecordedIfSelected
  cases hselected : r.hasSelected feature with
  | false =>
    rw [r.featureReport_of_not_selected hselected]
    exact Ensures.pure rfl
  | true =>
    have hscenarios : ∀ blocked,
        (forEach (fun scenario => r.scenarioReport feature.name scenario blocked)
          (r.selected feature)).Ensures fun reports _ =>
            List.Forall₂ R (r.selected feature) reports :=
      fun blocked => forEach_forall₂ _ fun scenario => h scenario blocked
    rw [r.featureReport_of_selected hselected]
    -- The hooks around the feature decide whether it is blocked, but not what is recorded.
    refine (Ensures.any _).bind fun _ _ _ => (Ensures.any _).bind fun before _ _ => ?_
    refine (hscenarios _).bind fun reports _ hreports => (Ensures.any _).bind fun after _ _ => ?_
    exact (Ensures.any _).bind fun _ _ _ => Ensures.pure ⟨_, rfl, rfl, rfl, hreports⟩

/-- Of features in order those with a selected scenario are recorded, in order. -/
theorem forall₂_recordedIfSelected {R : Feature → FeatureReport → Prop} {features : List Feature}
    {results : List (Option FeatureReport)}
    (h : List.Forall₂ (r.RecordedIfSelected R) features results) :
    List.Forall₂ R (features.filter r.hasSelected) (results.filterMap id) := by
  induction h with
  | nil => exact .nil
  | @cons feature result features results hfirst _ ih =>
    unfold RecordedIfSelected at hfirst
    cases hselected : r.hasSelected feature with
    | false =>
      rw [if_neg (by simp [hselected])] at hfirst
      rw [List.filter_cons_of_neg (by simp [hselected]), hfirst]
      exact ih
    | true =>
      rw [if_pos hselected] at hfirst
      obtain ⟨report, rfl, hreport⟩ := hfirst
      rw [List.filter_cons_of_pos hselected]
      exact .cons hreport ih

/-- The record of a run has the records of its features with a selected scenario, in
order, and their counts. -/
theorem run_ensures {R : Feature → FeatureReport → Prop}
    (h : ∀ feature suiteBlocked, (r.featureReport feature suiteBlocked).Ensures fun result _ =>
      r.RecordedIfSelected R feature result) (features : List Feature) :
    (r.run features).Ensures fun report _ =>
      List.Forall₂ R (features.filter r.hasSelected) report.features ∧
      report = .ofFeatures report.features report.hookFailures r.strict := by
  rw [r.run_bracketed]
  refine (Ensures.any _).bind fun _ _ _ => (Ensures.any _).bind fun before _ _ => ?_
  have hfeatures := forEach_forall₂ features fun feature => h feature (!before.isEmpty)
  refine hfeatures.bind fun results _ hresults => (Ensures.any _).bind fun after _ _ => ?_
  exact (Ensures.any _).bind fun _ _ _ => Ensures.pure ⟨forall₂_recordedIfSelected hresults, rfl⟩

namespace HoldsOfRecords

section

variable (h : r.HoldsOfRecords P)
include h

/-! ## Steps -/

theorem attemptStep (feature : String) (scenario : Scenario) (step : Step) :
    (r.attemptStep feature scenario step).Ensures fun result _ => P step result.1 := by
  have htry : (r.tryStep feature scenario step).Ensures fun report _ => P step report := by
    refine (Ensures.any _).bind fun failures _ _ => ?_
    cases failures with
    | nil => exact h.executed step
    | cons failure rest => exact Ensures.pure (h.failedByHook step failure)
  refine htry.bind fun report _ hreport => (Ensures.any _).bind fun failures _ _ => Ensures.pure ?_
  cases failures with
  | nil => exact hreport
  | cons failure rest =>
    rw [absorb]
    split
    · exact h.failedByHook step failure
    · exact hreport

/-- Steps are recorded in order, whether they are attempted or skipped. -/
theorem attemptSteps (feature : String) (scenario : Scenario) (progress : Progress)
    (steps : List Step) :
    (r.attemptSteps feature scenario progress steps).Ensures fun result _ =>
      List.Forall₂ P steps result.1 := by
  have hrecord : ∀ report, (r.record feature scenario report).Ensures fun told _ => told = report :=
    fun report => (r.record_marks feature scenario report).mono fun _ _ h => h.1
  induction steps generalizing progress with
  | nil => exact Ensures.pure .nil
  | cons step rest ih =>
    cases progress with
    | failureMode =>
      refine (hrecord _).beside.bind fun report _ hreport => ?_
      refine (ih .failureMode).bind fun ⟨reports, _, _⟩ _ hreports => Ensures.pure ?_
      rw [hreport]
      exact .cons (h.skipped step) hreports
    | running =>
      refine (h.attemptStep feature scenario step).bind fun ⟨report, _⟩ _ hreport => ?_
      refine (hrecord report).beside.bind fun told _ htold => ?_
      refine (ih _).bind fun ⟨reports, _, _⟩ _ hreports => Ensures.pure ?_
      rw [htold]
      exact .cons hreport hreports

omit h in
/-- Steps that are not run are recorded in order, too. -/
theorem recordSteps (feature : String) (scenario : Scenario) {preview : Step → StepReport}
    (hpreview : ∀ step, P step (preview step)) :
    (r.recordSteps feature scenario preview).Ensures fun steps _ =>
      List.Forall₂ P scenario.steps steps := by
  refine (r.recordSteps_marks feature scenario preview).mono fun steps _ ⟨hsteps, _⟩ => ?_
  rw [hsteps, List.forall₂_map_right_iff, List.forall₂_same]
  exact fun step _ => hpreview step

/-! ## Scenarios -/

theorem executeScenario (feature : String) (scenario : Scenario) :
    (r.executeScenario feature scenario).Ensures fun report _ => scenario.RecordedBy P report := by
  refine (Ensures.any _).bind fun made _ _ => ?_
  cases made with
  | ok world =>
    have hworld : (r.runOnWorld feature scenario).Ensures fun report _ =>
        scenario.RecordedBy P report := by
      refine (Ensures.any _).bind fun before _ _ => ?_
      refine (h.attemptSteps feature scenario _ _).bind fun ⟨steps, _, _⟩ _ hsteps => ?_
      exact (Ensures.any _).bind fun after _ _ => Ensures.pure ⟨rfl, rfl, hsteps⟩
    have hwithin : ((r.runOnWorld feature scenario).within world).Ensures fun result _ =>
        scenario.RecordedBy P result.1 := Ensures.within (hworld.mono fun _ _ hreport _ => hreport)
    exact hwithin.bind fun result _ hresult => Ensures.pure hresult
  | error f =>
    refine (Ensures.any _).bind fun _ _ _ => ?_
    exact (recordSteps feature scenario h.skipped).bind fun steps _ hsteps =>
      Ensures.pure ⟨rfl, rfl, hsteps⟩

/-- A scenario is recorded whether it is blocked, looked up only or run. -/
theorem scenarioReport (feature : String) (scenario : Scenario) (blocked : Bool) :
    (r.scenarioReport feature scenario blocked).Ensures fun report _ =>
      scenario.RecordedBy P report := by
  have hrecord : (r.recordScenario feature scenario blocked).Ensures fun report _ =>
      scenario.RecordedBy P report := by
    unfold recordScenario
    split
    · exact (recordSteps feature scenario h.skipped).bind fun _ _ hsteps =>
        Ensures.pure ⟨rfl, rfl, hsteps⟩
    · split
      · exact (recordSteps feature scenario h.previewed).bind fun _ _ hsteps =>
          Ensures.pure ⟨rfl, rfl, hsteps⟩
      · exact h.executeScenario feature scenario
  rw [r.scenarioReport_eq]
  refine (Ensures.any _).bind fun _ _ _ => hrecord.bind fun report _ hreport => ?_
  exact (Ensures.any _).bind fun _ _ _ => Ensures.pure hreport

/-! ## Features and the whole run -/

/-- A feature is recorded exactly if one of its scenarios is selected. -/
theorem featureReport (feature : Feature) (suiteBlocked : Bool) :
    (r.featureReport feature suiteBlocked).Ensures fun result _ =>
      r.RecordedIfSelected (r.RecordsFeature P) feature result :=
  (featureReport_ensures feature
    (fun scenario blocked => h.scenarioReport feature.name scenario blocked)
    suiteBlocked).mono fun _ _ hresult => hresult.mono fun _ ⟨hname, htags, hscenarios⟩ =>
      ⟨hname, htags, hscenarios⟩

/-- A run records the features of which a scenario is selected, in order, and counts the
steps that it records. -/
theorem run (features : List Feature) :
    (r.run features).Ensures fun report _ =>
      List.Forall₂ (r.RecordsFeature P) (features.filter r.hasSelected) report.features ∧
      report = .ofFeatures report.features report.hookFailures r.strict :=
  run_ensures h.featureReport features

end

end HoldsOfRecords

/-! ## The record of a run as a mirror -/

/-- Whatever is done about a step, its record is of it. -/
theorem holdsOfRecords_recordedBy (r : Runner W σ ν) : r.HoldsOfRecords Step.RecordedBy where
  skipped := fun _ => ⟨rfl, rfl⟩
  previewed := r.registry.preview_recordedBy
  failedByHook := fun _ _ => ⟨rfl, rfl⟩
  executed := fun step => by
    unfold Registry.execute
    split
    · exact (Ensures.any _).bind fun _ _ _ => Ensures.pure ⟨rfl, rfl⟩
    · exact Ensures.pure (r.registry.preview_recordedBy step)

/-- The steps of a feature's selected scenarios are recorded in order. -/
theorem RecordsFeature.forall₂_steps {r : Runner W σ ν} {P : Step → StepReport → Prop}
    {feature : Feature} {report : FeatureReport} (h : r.RecordsFeature P feature report) :
    List.Forall₂ P ((r.selected feature).flatMap Scenario.steps) report.steps :=
  List.rel_flatMap h.scenarios fun _ _ hscenario => hscenario.steps

/-- The record of a run mirrors what was to be run, whatever becomes of it: it has the features of
which a scenario is selected, in order, each with its name and tags; in each of them the scenarios
that are selected, in order, each with its name and its tags; and in each of these its steps,
position by position, each with its keyword and text. The total of its counts is the number of these
steps, as far as a counter goes. -/
theorem run_mirrors (r : Runner W σ ν) (features : List Feature) (s : σ) :
    let report := ((r.run features).run s).1
    List.Forall₂ (r.RecordsFeature Step.RecordedBy) (features.filter r.hasSelected)
      report.features ∧
    report.counts.total.value =
      min Tally.limit (features.flatMap fun feature =>
        (r.selected feature).flatMap Scenario.steps).length := by
  intro report
  have hrun : List.Forall₂ (r.RecordsFeature Step.RecordedBy) (features.filter r.hasSelected)
      report.features ∧
      report = .ofFeatures report.features report.hookFailures r.strict :=
    r.holdsOfRecords_recordedBy.run features s
  obtain ⟨hfeatures, hcounts⟩ := hrun
  refine ⟨hfeatures, ?_⟩
  have hselected : (features.filter r.hasSelected).flatMap
      (fun feature => (r.selected feature).flatMap Scenario.steps) =
        features.flatMap fun feature => (r.selected feature).flatMap Scenario.steps := by
    refine flatMap_filter_of_nil _ _ fun feature hnone => ?_
    have hempty : r.selected feature = [] := by simpa [hasSelected] using hnone
    rw [hempty, List.flatMap_nil]
  have htotal : report.counts.total = .ofNat report.steps.length := by
    rw [hcounts, SuiteReport.counts_ofFeatures, OutcomeCounts.total_ofList, List.length_map]
  have hlength : (features.flatMap fun feature =>
      (r.selected feature).flatMap Scenario.steps).length =
      report.steps.length := by
    rw [← hselected]
    exact (List.rel_flatMap hfeatures fun _ _ hfeature => hfeature.forall₂_steps).length_eq
  rw [htotal, hlength]
  rfl

end Runner

end Rehearsal
