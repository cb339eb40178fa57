import Rehearsal.Report.Counts
import Rehearsal.Report.Detail

/-!
# Reports

What a run leaves behind: a record of each step, gathered by scenario, feature and run, and the
verdict on them. A failed hook makes the run fail wherever it happened.
-/

namespace Rehearsal

/-- The record of a step. -/
structure StepReport where
  /-- The word that the step starts with. -/
  keyword : Keyword
  /-- What the step says. -/
  text : String
  /-- How the step ended. -/
  outcome : Outcome
  /-- What the pattern of its definition captured. -/
  arguments : List String := []
  /-- The pattern of its definition, if there is exactly one. -/
  pattern : Option String := none
  /-- Why the step did not succeed. -/
  error : Option ErrorDetail := none
  deriving DecidableEq, Repr

/-- The record of a step that is not attempted. -/
def StepReport.skipped (step : Step) : StepReport :=
  { keyword := step.keyword, text := step.text, outcome := .skipped }

/-- The record of a step that failed by a hook around it. -/
def StepReport.failedByHook (step : Step) (failure : HookFailure) : StepReport :=
  { StepReport.skipped step with
    outcome := .failed
    error := some (.hook failure.scope failure.message) }

/-- A hook that fails a step makes it count as failed. -/
@[simp] theorem StepReport.outcome_failedByHook (step : Step) (failure : HookFailure) :
    (failedByHook step failure).outcome = .failed := rfl

/-- How a scenario ended. -/
inductive ScenarioStatus
  /-- All steps were run and succeeded. -/
  | completed
  /-- Steps were skipped, or could have been. -/
  | aborted
  deriving DecidableEq, Repr, Inhabited

/-- The status in a word. -/
def ScenarioStatus.name : ScenarioStatus → String
  | .completed => "completed"
  | .aborted => "aborted"

/-- The record of a scenario. -/
structure ScenarioReport where
  /-- The name. -/
  name : String
  /-- The tags, those of the feature included. -/
  tags : TagSet
  /-- How it ended. -/
  status : ScenarioStatus
  /-- The records of its steps, in order. -/
  steps : List StepReport
  /-- The failures of hooks around it and those around steps that the record of no step tells. -/
  hookFailures : List HookFailure
  deriving DecidableEq

namespace ScenarioReport

/-- The counts of the outcomes of the steps. -/
def counts (r : ScenarioReport) : OutcomeCounts := .ofList (r.steps.map StepReport.outcome)

/-- Whether the scenario failed: a step ended fatally, or a hook failed. -/
def isFailed (r : ScenarioReport) (strict : Bool) : Bool :=
  !r.hookFailures.isEmpty || r.counts.hasFatal strict

end ScenarioReport

/-- The record of a feature. -/
structure FeatureReport where
  /-- The name. -/
  name : String
  /-- The tags. -/
  tags : TagSet
  /-- The records of the scenarios that were selected, in order. -/
  scenarios : List ScenarioReport
  /-- The failures of hooks around the feature. -/
  hookFailures : List HookFailure
  deriving DecidableEq

namespace FeatureReport

/-- The counts of the outcomes of all steps. -/
def counts (r : FeatureReport) : OutcomeCounts :=
  .ofList (r.scenarios.flatMap fun s => s.steps.map StepReport.outcome)

/-- Whether the feature failed: a scenario or a hook did. -/
def isFailed (r : FeatureReport) (strict : Bool) : Bool :=
  !r.hookFailures.isEmpty || r.scenarios.any fun s => s.isFailed strict

end FeatureReport

/-- The record of a run. -/
structure SuiteReport where
  /-- The records of the features, in order. -/
  features : List FeatureReport
  /-- The failures of hooks around the run. -/
  hookFailures : List HookFailure
  /-- The counts of the outcomes of all steps. -/
  counts : OutcomeCounts
  /-- Whether undefined and pending steps are fatal. -/
  strict : Bool
  deriving DecidableEq

namespace SuiteReport

/-- The record of a run with the counts of its features added up. -/
def ofFeatures (features : List FeatureReport) (hookFailures : List HookFailure) (strict : Bool) :
    SuiteReport :=
  ⟨features, hookFailures, features.foldl (fun counts f => counts.merge f.counts) {}, strict⟩

/-- Whether something fatal happened: to a step, or in a hook of the run, a
feature or a scenario. -/
def hasFatal (r : SuiteReport) (strict : Bool) : Bool :=
  r.counts.hasFatal strict || !r.hookFailures.isEmpty ||
    r.features.any fun f => !f.hookFailures.isEmpty || f.scenarios.any fun s =>
      !s.hookFailures.isEmpty

/-- The exit code of a program that ran the suite: zero unless something fatal happened. -/
def exitCode (r : SuiteReport) : Nat := if r.hasFatal r.strict then 1 else 0

/-- The number of scenarios. -/
def scenarioCount (r : SuiteReport) : Nat := (r.features.flatMap FeatureReport.scenarios).length

/-- The number of scenarios that failed. -/
def failedScenarioCount (r : SuiteReport) : Nat :=
  (r.features.flatMap FeatureReport.scenarios).countP fun s => s.isFailed r.strict

/-- The number of features that failed. -/
def failedFeatureCount (r : SuiteReport) : Nat := r.features.countP fun f => f.isFailed r.strict

end SuiteReport

/-- The verdict on a run. -/
inductive SuiteOutcome
  /-- Nothing fatal happened. -/
  | success
  /-- Something fatal happened, and the program is to end with the given code. -/
  | failed (code : Nat)
  deriving DecidableEq, Repr

namespace SuiteOutcome

/-- The verdict that a report leads to. -/
def ofReport (r : SuiteReport) : SuiteOutcome :=
  match r.exitCode with
  | 0 => .success
  | code => .failed code

/-- The exit code of the verdict. -/
def exitCode : SuiteOutcome → Nat
  | .success => 0
  | .failed code => code

end SuiteOutcome

/-- A finished run. -/
structure SuiteRun where
  /-- The verdict. -/
  outcome : SuiteOutcome
  /-- The record. -/
  report : SuiteReport

/-- The finished run that a report tells of. -/
def SuiteRun.ofReport (r : SuiteReport) : SuiteRun := ⟨.ofReport r, r⟩

end Rehearsal
