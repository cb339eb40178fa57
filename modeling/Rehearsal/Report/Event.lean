import Rehearsal.Report

/-!
# Events of a run

What observers are told while a run goes on.
-/

namespace Rehearsal

/-- Something that happened in a run. -/
inductive RunEvent
  /-- The run started, with so many features. -/
  | suiteStarted (features : Nat)
  /-- A feature started. -/
  | featureStarted (name : String)
  /-- A scenario started. -/
  | scenarioStarted (feature name : String)
  /-- A step was finished or skipped. -/
  | stepFinished (feature scenario : String) (step : StepReport)
  /-- A hook failed, in a feature and a scenario or around them. -/
  | hookFailed (feature scenario : Option String) (failure : HookFailure)
  /-- A scenario finished. -/
  | scenarioFinished (feature name : String) (status : ScenarioStatus) (failed : Bool)
  /-- A feature finished. -/
  | featureFinished (name : String)
  /-- The run finished. -/
  | suiteFinished (counts : OutcomeCounts)
  deriving DecidableEq

end Rehearsal
