import Rehearsal.Proofs.Run.Lifecycle

/-!
# What brackets what

On each level a run tells of the start, calls the hooks before, does what is inside, calls the
hooks after and tells of the end. Which of the hooks are called depends on whether the run is dry
or blocked; these choices are put here into one function for each level, so that the levels
become plain sequences.
-/

namespace Rehearsal.Runner

open Journaled

variable {W σ ν : Type}

/-- The record of a scenario, without what observers are told of its start and its end. -/
def recordScenario (r : Runner W σ ν) (feature : String) (scenario : Scenario) (blocked : Bool) :
    Journaled σ (Entry ν) ScenarioReport :=
  if blocked then do
    let steps ← r.recordSteps feature scenario .skipped
    return ⟨scenario.name, scenario.tags, .aborted, steps, []⟩
  else if r.dryRun then do
    let steps ← r.recordSteps feature scenario r.registry.preview
    return ⟨scenario.name, scenario.tags, .completed, steps, []⟩
  else r.executeScenario feature scenario

/-- The hooks of a boundary of a feature, if they are to be run. -/
def fireAroundFeature (r : Runner W σ ν) (feature : Feature) (run : Bool) (scope : HookScope) :
    Journaled σ (Entry ν) (List HookFailure) :=
  if run then r.fireOutside (featureContext feature scope) else pure []

/-- The hooks of a boundary of the run, unless it is dry. -/
def fireAroundSuite (r : Runner W σ ν) (scope : HookScope) :
    Journaled σ (Entry ν) (List HookFailure) :=
  if r.dryRun then pure [] else r.fireOutside { scope }

/-- Observers are told of a scenario before and after it. -/
theorem scenarioReport_eq (r : Runner W σ ν) (feature : String) (scenario : Scenario)
    (blocked : Bool) :
    r.scenarioReport feature scenario blocked = (do
      r.tell (.scenarioStarted feature scenario.name)
      let report ← r.recordScenario feature scenario blocked
      r.tell (.scenarioFinished feature report.name report.status (report.isFailed r.strict))
      return report) := by
  unfold scenarioReport recordScenario
  cases blocked <;> cases r.dryRun <;> simp

/-- A feature of which no scenario is selected leaves no trace. -/
theorem featureReport_of_not_selected (r : Runner W σ ν) {feature : Feature}
    (hselected : r.hasSelected feature = false) (suiteBlocked : Bool) :
    r.featureReport feature suiteBlocked = pure none := by
  have hnone : (r.selected feature).isEmpty = true := by simpa [hasSelected] using hselected
  simp [featureReport, hnone]

/-- A feature of which a scenario is selected is run between its hooks. -/
theorem featureReport_of_selected (r : Runner W σ ν) {feature : Feature}
    (hselected : r.hasSelected feature = true) (suiteBlocked : Bool) :
    r.featureReport feature suiteBlocked = (do
      r.tell (.featureStarted feature.name)
      let before ← r.fireAroundFeature feature (!suiteBlocked && !r.dryRun) .beforeFeature
      let reports ← .forEach (fun scenario =>
        r.scenarioReport feature.name scenario (suiteBlocked || !before.isEmpty))
          (r.selected feature)
      let after ← r.fireAroundFeature feature (!suiteBlocked && !r.dryRun) .afterFeature
      r.tell (.featureFinished feature.name)
      return some {
        name := feature.name, tags := feature.tags, scenarios := reports,
          hookFailures := before ++ after }) := by
  have hsome : (r.selected feature).isEmpty = false := by simpa [hasSelected] using hselected
  unfold featureReport fireAroundFeature
  cases suiteBlocked <;> cases r.dryRun <;> simp [hsome]

/-- Where nothing is put down for a feature of which no scenario is selected,
the others are left. -/
theorem filterMap_selected (r : Runner W σ ν) (put : Feature → FeatureReport)
    (features : List Feature) :
    (features.map fun feature =>
      if r.hasSelected feature then some (put feature) else none).filterMap id =
      (features.filter r.hasSelected).map put := by
  induction features with
  | nil => rfl
  | cons feature rest ih =>
    cases hselected : r.hasSelected feature with
    | true => simp [hselected, ← ih]
    | false => simp [hselected, ← ih]

/-- Features are run between the hooks around the run. -/
theorem run_bracketed (r : Runner W σ ν) (features : List Feature) :
    r.run features = (do
      r.tell (.suiteStarted features.length)
      let before ← r.fireAroundSuite .beforeSuite
      let results ← .forEach (fun feature => r.featureReport feature (!before.isEmpty)) features
      let after ← r.fireAroundSuite .afterSuite
      let report := SuiteReport.ofFeatures (results.filterMap id) (before ++ after) r.strict
      r.tell (.suiteFinished report.counts)
      return report) := by
  unfold run startSuite finishSuite fireAroundSuite
  cases r.dryRun <;> simp

end Rehearsal.Runner
