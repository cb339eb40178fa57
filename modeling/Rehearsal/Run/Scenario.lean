import Rehearsal.Run.Runner

/-!
# Runs of scenarios

A scenario runs on a world of its own. Its steps are attempted in order until one does not
succeed; from then on the scenario is in failure mode and steps are skipped. Hooks run around
the scenario and around each step that is attempted. A hook that fails before a step, or
after one that succeeded, makes the step fail; of other failures of hooks around steps the
record of the scenario tells.
-/

namespace Rehearsal

/-- Whether steps are still attempted. -/
inductive Progress
  | running | failureMode
  deriving DecidableEq, Repr

/-- How a scenario ends that got so far. -/
def Progress.status : Progress → ScenarioStatus
  | .running => .completed
  | .failureMode => .aborted

/-- How it goes on after a step with the given outcome. -/
def Progress.after (p : Progress) (o : Outcome) : Progress :=
  if o.entersFailureMode then .failureMode else p

variable {W σ ν : Type}

namespace Runner

/-- Tells the observers of the record of a step, and gives it back. -/
def record (r : Runner W σ ν) (feature : String) (scenario : Scenario) (report : StepReport) :
    Journaled σ (Entry ν) StepReport := do
  r.tell (.stepFinished feature scenario.name report)
  return report

/-- Runs the hooks of a boundary on the world and tells the observers of their failures. -/
def fireAround (r : Runner W σ ν) (feature : String) (scenario : Scenario) (context : HookContext) :
    Journaled (W × σ) (Entry ν) (List HookFailure) := do
  let failures ← r.registry.fireOnWorld context
  (r.tellHookFailures (some feature) (some scenario.name) failures).beside
  return failures

/-- What hooks around a scenario see. -/
def scenarioContext (feature : String) (scenario : Scenario) (scope : HookScope) : HookContext :=
  { scope, feature := some feature, scenario := some scenario.name, tags := scenario.tags }

/-- What hooks around a step see. -/
def stepContext (feature : String) (scenario : Scenario) (step : Step) (scope : HookScope)
    (outcome : Option Outcome) : HookContext :=
  { scenarioContext feature scenario scope with step := some step, outcome }

/-- Runs the hooks before a step and then, unless one of them fails, the step. -/
def tryStep (r : Runner W σ ν) (feature : String) (scenario : Scenario) (step : Step) :
    Journaled (W × σ) (Entry ν) StepReport := do
  match ← r.fireAround feature scenario (stepContext feature scenario step .beforeStep none) with
  | failure :: _ => return .failedByHook step failure
  | [] => r.registry.execute step

/-- The record of a step with the failures of the hooks after it, and those of them that it does not
tell of. A failure makes a step fail that succeeded. -/
def absorb (step : Step) (report : StepReport) : List HookFailure → StepReport × List HookFailure
  | [] => (report, [])
  | failure :: rest =>
    if report.outcome = .successful then (.failedByHook step failure, rest)
      else (report, failure :: rest)

/-- Runs one step between its hooks. Gives the record of the step and the failures of hooks that
it does not tell of. -/
def attemptStep (r : Runner W σ ν) (feature : String) (scenario : Scenario) (step : Step) :
    Journaled (W × σ) (Entry ν) (StepReport × List HookFailure) := do
  let report ← r.tryStep feature scenario step
  let after ←
    r.fireAround feature scenario
      (stepContext feature scenario step .afterStep (some report.outcome))
  return absorb step report after

/-- Runs steps as far as it goes. Gives their records, the failures of hooks that these do not tell
of, and whether steps were attempted to the end. -/
def attemptSteps (r : Runner W σ ν) (feature : String) (scenario : Scenario) :
    Progress → List Step → Journaled (W × σ) (Entry ν)
      (List StepReport × List HookFailure × Progress)
  | progress, [] => pure ([], [], progress)
  | .failureMode, step :: rest => do
    let report ← (r.record feature scenario (.skipped step)).beside
    let (reports, failures, progress) ← r.attemptSteps feature scenario .failureMode rest
    return (report :: reports, failures, progress)
  | .running, step :: rest => do
    let (report, unabsorbed) ← r.attemptStep feature scenario step
    let report ← (r.record feature scenario report).beside
    let (reports, failures, progress) ←
      r.attemptSteps feature scenario (Progress.running.after report.outcome) rest
    return (report :: reports, unabsorbed ++ failures, progress)

/-- Runs the steps of a scenario between its hooks, on its world. -/
def runOnWorld (r : Runner W σ ν) (feature : String) (scenario : Scenario) :
    Journaled (W × σ) (Entry ν) ScenarioReport := do
  let before ← r.fireAround feature scenario (scenarioContext feature scenario .beforeScenario)
  let start : Progress := if before.isEmpty then .running else .failureMode
  let (steps, around, progress) ← r.attemptSteps feature scenario start scenario.steps
  let after ← r.fireAround feature scenario (scenarioContext feature scenario .afterScenario)
  return {
    name := scenario.name, tags := scenario.tags, status := progress.status, steps
    hookFailures := before ++ around ++ after }

/-- Records all steps of a scenario without running them, each as `preview` says. -/
def recordSteps (r : Runner W σ ν) (feature : String) (scenario : Scenario)
    (preview : Step → StepReport) : Journaled σ (Entry ν) (List StepReport) :=
  .forEach (fun step => r.record feature scenario (preview step)) scenario.steps

/-- Makes the world of a scenario and runs the scenario on it. Without a world
its steps are skipped. -/
def executeScenario (r : Runner W σ ν) (feature : String) (scenario : Scenario) :
    Journaled σ (Entry ν) ScenarioReport := do
  match ← calling .world r.newWorld with
  | .ok world =>
    let (report, _) ← (r.runOnWorld feature scenario).within world
    return report
  | .error f =>
    let failure := HookFailure.ofFailure .beforeScenario
      (f.wrap "failed to create the scenario world")
    r.tellHookFailures (some feature) (some scenario.name) [failure]
    let steps ← r.recordSteps feature scenario .skipped
    return {
      name := scenario.name, tags := scenario.tags, status := .aborted, steps
      hookFailures := [failure] }

/-- The record of a scenario. A scenario that is blocked is not run, and its steps are skipped; in a
dry run its steps are looked up only. -/
def scenarioReport (r : Runner W σ ν) (feature : String) (scenario : Scenario) (blocked : Bool) :
    Journaled σ (Entry ν) ScenarioReport := do
  r.tell (.scenarioStarted feature scenario.name)
  let report ←
    if blocked then do
      let steps ← r.recordSteps feature scenario .skipped
      pure ⟨scenario.name, scenario.tags, .aborted, steps, []⟩
    else if r.dryRun then do
      let steps ← r.recordSteps feature scenario r.registry.preview
      pure ⟨scenario.name, scenario.tags, .completed, steps, []⟩
    else r.executeScenario feature scenario
  r.tell (.scenarioFinished feature report.name report.status (report.isFailed r.strict))
  return report

/-- Runs one scenario alone, whatever its tags, without the hooks around features and runs. -/
def runScenario (r : Runner W σ ν) (feature : String) (scenario : Scenario) :
    Journaled σ (Entry ν) ScenarioReport :=
  r.scenarioReport feature scenario false

end Runner

end Rehearsal
