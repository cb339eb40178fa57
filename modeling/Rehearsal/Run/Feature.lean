import Rehearsal.Run.Scenario

/-!
# Runs of features and of whole suites

A feature is run if one of its scenarios is selected. A hook that fails before the features blocks
all of them, one that fails before a feature blocks its scenarios; what is blocked is recorded but
not run. The hooks after a boundary run whenever those before it did.
-/

namespace Rehearsal.Runner

variable {W σ ν : Type}

/-- Runs the hooks of a boundary without a world and tells the observers of their failures. -/
def fireOutside (r : Runner W σ ν) (context : HookContext) :
    Journaled σ (Entry ν) (List HookFailure) := do
  let failures ← r.registry.fire context
  r.tellHookFailures context.feature none failures
  return failures

/-- What hooks around a feature see. -/
def featureContext (feature : Feature) (scope : HookScope) : HookContext :=
  { scope, feature := some feature.name, tags := feature.tags }

/-- The record of a feature, if one of its scenarios is selected. -/
def featureReport (r : Runner W σ ν) (feature : Feature) (suiteBlocked : Bool) :
    Journaled σ (Entry ν) (Option FeatureReport) := do
  let scenarios := r.selected feature
  if scenarios.isEmpty then return none
  r.tell (.featureStarted feature.name)
  let runHooks := !suiteBlocked && !r.dryRun
  let before ← if runHooks then r.fireOutside (featureContext feature .beforeFeature) else pure []
  let blocked := suiteBlocked || !before.isEmpty
  let reports ← .forEach (fun scenario => r.scenarioReport feature.name scenario blocked) scenarios
  let after ← if runHooks then r.fireOutside (featureContext feature .afterFeature) else pure []
  r.tell (.featureFinished feature.name)
  return some {
    name := feature.name, tags := feature.tags, scenarios := reports,
      hookFailures := before ++ after }

/-- Opens a run of so many features and gives the failures of the hooks before it. -/
def startSuite (r : Runner W σ ν) (features : Nat) : Journaled σ (Entry ν) (List HookFailure) := do
  r.tell (.suiteStarted features)
  if r.dryRun then return []
  r.fireOutside { scope := .beforeSuite }

/-- Closes a run and gives its record. -/
def finishSuite (r : Runner W σ ν) (features : List FeatureReport) (before : List HookFailure) :
    Journaled σ (Entry ν) SuiteReport := do
  let after ← if r.dryRun then pure [] else r.fireOutside { scope := .afterSuite }
  let report := SuiteReport.ofFeatures features (before ++ after) r.strict
  r.tell (.suiteFinished report.counts)
  return report

/-- Runs features one after the other. -/
def run (r : Runner W σ ν) (features : List Feature) : Journaled σ (Entry ν) SuiteReport := do
  let before ← r.startSuite features.length
  let reports ← .forEach (fun feature => r.featureReport feature (!before.isEmpty)) features
  r.finishSuite (reports.filterMap id) before

/-- Runs one feature. -/
def runFeature (r : Runner W σ ν) (feature : Feature) : Journaled σ (Entry ν) SuiteReport :=
  r.run [feature]

end Rehearsal.Runner
