import Rehearsal.Model.Feature
import Rehearsal.Run.Hook
import Rehearsal.Run.Step
import Rehearsal.Settings

/-!
# Runners

A runner knows the definitions of a test suite, how a world is made, how strict and on which
scenarios it is to run, and who is told of what happens.
-/

namespace Rehearsal

variable {W σ ν : Type}

/-- As long as nothing else is asked for, several features may run at once. -/
theorem initialWorkers_pos : 0 < 4 := by decide

/-- What it takes to run features. -/
structure Runner (W σ ν : Type) where
  /-- The definitions. -/
  registry : Registry W σ ν
  /-- The code that makes the world of a scenario. -/
  newWorld : WorldCode W σ ν
  /-- Whether undefined and pending steps are fatal. -/
  strict : Bool := false
  /-- Whether steps are only looked up. -/
  dryRun : Bool := false
  /-- How many features may run at once. -/
  workers : Nat := 4
  /-- At least one feature may run. -/
  workers_pos : 0 < workers := by exact initialWorkers_pos
  /-- The tags of the scenarios that are run; all if there is no filter. -/
  filter : Option TagFilter := none
  /-- Who is told of what happens. -/
  observers : List (Observer σ) := []

namespace Runner

/-! ## Construction -/

/-- The runner as strict. -/
def asStrict (r : Runner W σ ν) : Runner W σ ν := { r with strict := true }

/-- The runner that only looks steps up. -/
def asDryRun (r : Runner W σ ν) : Runner W σ ν := { r with dryRun := true }

/-- The runner for scenarios with certain tags. -/
def withFilter (r : Runner W σ ν) (filter : TagFilter) : Runner W σ ν :=
  { r with filter := some filter }

/-- The runner for scenarios whose tags meet an expression. -/
def withTags (r : Runner W σ ν) (expression : String) : Except TagFilterError (Runner W σ ν) :=
  (TagFilter.parse expression).map r.withFilter

/-- The runner with a bound on the number of features at once, which is at least one. -/
def withWorkers (r : Runner W σ ν) (workers : Nat) : Runner W σ ν :=
  { r with workers := max workers 1, workers_pos := by omega }

/-- The runner with one more observer. -/
def withObserver (r : Runner W σ ν) (observer : Observer σ) : Runner W σ ν :=
  { r with observers := r.observers ++ [observer] }

/-- The runner with the given settings. -/
def ofSettings (registry : Registry W σ ν) (newWorld : WorldCode W σ ν) (settings : Settings) :
    Except TagFilterError (Runner W σ ν) := do
  let filter ← settings.tags.mapM TagFilter.parse
  let plain : Runner W σ ν := { registry, newWorld }
  return { plain.withWorkers settings.execution.workers with
    strict := settings.execution.strict
    dryRun := settings.execution.dryRun
    filter }

/-! ## Events -/

/-- Tells the observers of an event, one after the other; the first one given
has the place `index`. -/
def tellEach (event : RunEvent) : (index : Nat) → List (Observer σ) → Journaled σ (Entry ν) Unit
  | _, [] => pure ()
  | index, observer :: rest => do
    .change (observer.notify event)
    .write (.observed index event)
    tellEach event (index + 1) rest

/-- Tells all observers of an event. -/
def tell (r : Runner W σ ν) (event : RunEvent) : Journaled σ (Entry ν) Unit :=
  tellEach event 0 r.observers

/-- Tells all observers of failures of hooks. -/
def tellHookFailures (r : Runner W σ ν) (feature scenario : Option String) :
    List HookFailure → Journaled σ (Entry ν) Unit
  | [] => pure ()
  | failure :: rest => do
    r.tell (.hookFailed feature scenario failure)
    r.tellHookFailures feature scenario rest

/-- Whether a scenario is to be run. -/
def selects (r : Runner W σ ν) (scenario : Scenario) : Bool :=
  r.filter.all fun filter => filter.accepts scenario.tags

/-- The scenarios of a feature that are to be run. -/
def selected (r : Runner W σ ν) (feature : Feature) : List Scenario :=
  feature.scenarios.filter r.selects

end Runner

end Rehearsal
