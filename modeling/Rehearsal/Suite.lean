import Rehearsal.Registry.Builder
import Rehearsal.Run.Concurrent

/-!
# Test suites

A test suite is ready to run when its registry is built and its settings are chosen. Running it
gives the record together with the verdict on it. The only things that can go wrong beside the
suite's own code are a registry that cannot be built, a tag filter that cannot be read and, in
concurrent runs, a lost worker.
-/

namespace Rehearsal

/-- What went wrong around a run. -/
inductive SuiteError
  /-- A definition could not be registered. -/
  | registration (e : RegistrationError)
  /-- The tag filter cannot be read. -/
  | tagFilter (e : TagFilterError)
  /-- The settings cannot be had or used. -/
  | settings (e : SettingsError)
  /-- A worker was lost. -/
  | run (e : RunError)
  deriving DecidableEq, Repr

/-- The wording of an error. -/
def SuiteError.message : SuiteError → String
  | .registration e => e.message
  | .tagFilter e => e.message
  | .settings e => e.message
  | .run e => e.message

/-- A test suite that is ready to run. -/
structure Suite (W σ ν : Type) where
  /-- The definitions. -/
  registry : Registry W σ ν
  /-- The code that makes the world of a scenario. -/
  newWorld : WorldCode W σ ν
  /-- The settings. -/
  settings : Settings
  /-- The features, in order. -/
  features : List Feature
  /-- Who is told of what happens. -/
  observers : List (Observer σ) := []

namespace Suite

variable {W σ ν : Type}

/-- The runner for the suite. -/
def runner (s : Suite W σ ν) : Except SuiteError (Runner W σ ν) :=
  match Runner.ofSettings s.registry s.newWorld s.settings with
  | .ok r => .ok (s.observers.foldl Runner.withObserver r)
  | .error e => .error (.tagFilter e)

/-- Runs the features one after the other. -/
def run (s : Suite W σ ν) : Journaled σ (Entry ν) (Except SuiteError SuiteRun) :=
  match s.runner with
  | .error e => pure (.error e)
  | .ok r => do
    let report ← r.run s.features
    return .ok (.ofReport report)

/-- Runs the features by workers. -/
def runConcurrent (s : Suite W σ ν) : Journaled σ (Entry ν) (Except SuiteError SuiteRun) :=
  match s.runner with
  | .error e => pure (.error e)
  | .ok r => do
    let result ← r.runConcurrent s.features
    return result.map SuiteRun.ofReport |>.mapError .run

end Suite

/-- A test suite whose definitions are collected, but not built to a registry yet. -/
structure SuitePlan (W σ ν : Type) where
  /-- The definitions. -/
  definitions : Registry.Builder W σ ν
  /-- The code that makes the world of a scenario. -/
  newWorld : WorldCode W σ ν
  /-- The settings. -/
  settings : Settings
  /-- The features, in order. -/
  features : List Feature
  /-- Who is told of what happens. -/
  observers : List (Observer σ) := []

namespace SuitePlan

variable {W σ ν : Type}

/-- The suite with the registry of the definitions. -/
def suite (m : Regex.SetMatcher) (p : SuitePlan W σ ν) : Except SuiteError (Suite W σ ν) :=
  match p.definitions.build m with
  | .error e => .error (.registration e)
  | .ok r => .ok {
      registry := r.registry, newWorld := p.newWorld, settings := p.settings, features := p.features
      observers := p.observers }

/-- Builds the registry and runs the features one after the other. -/
def run (m : Regex.SetMatcher) (p : SuitePlan W σ ν) :
    Journaled σ (Entry ν) (Except SuiteError SuiteRun) :=
  match p.suite m with
  | .error e => pure (.error e)
  | .ok suite => suite.run

/-- Builds the registry and runs the features by workers. -/
def runConcurrent (m : Regex.SetMatcher) (p : SuitePlan W σ ν) :
    Journaled σ (Entry ν) (Except SuiteError SuiteRun) :=
  match p.suite m with
  | .error e => pure (.error e)
  | .ok suite => suite.runConcurrent

end SuitePlan

end Rehearsal
