import Rehearsal.Proofs.Run.Brackets

/-!
# What a runner acts on

What is done for a scenario, from the making of its world to the last hook, is decided by the
definitions, by whether the run is dry, and by the observers. The strictness of a runner, its filter
and its workers have no part in that: runners that agree on the rest do the same.
-/

namespace Rehearsal.Runner

open Journaled

variable {W σ ν : Type}

/-- The runners may differ in their strictness, their workers and their filter only. -/
structure ActsLike (r r' : Runner W σ ν) : Prop where
  /-- They have the same definitions. -/
  registry : r.registry = r'.registry
  /-- They make worlds in the same way. -/
  newWorld : r.newWorld = r'.newWorld
  /-- Both are dry, or neither. -/
  dryRun : r.dryRun = r'.dryRun
  /-- They have the same observers. -/
  observers : r.observers = r'.observers

namespace ActsLike

variable {r r' : Runner W σ ν} (h : r.ActsLike r')
include h

/-! ## Observers and hooks -/

theorem tell (event : RunEvent) : (r.tell event : Journaled σ (Entry ν) Unit) = r'.tell event := by
  unfold Runner.tell
  rw [h.observers]

theorem tellHookFailures (feature scenario : Option String) (failures : List HookFailure) :
    r.tellHookFailures feature scenario failures =
      r'.tellHookFailures feature scenario failures := by
  induction failures with
  | nil => rfl
  | cons failure rest ih =>
    unfold Runner.tellHookFailures
    rw [h.tell, ih]

theorem record (feature : String) (scenario : Scenario) (report : StepReport) :
    r.record feature scenario report = r'.record feature scenario report := by
  unfold Runner.record
  rw [h.tell]

theorem fireAround (feature : String) (scenario : Scenario) (context : HookContext) :
    r.fireAround feature scenario context = r'.fireAround feature scenario context := by
  simp only [Runner.fireAround, h.registry, h.tellHookFailures]

theorem fireOutside (context : HookContext) : r.fireOutside context = r'.fireOutside context := by
  simp only [Runner.fireOutside, h.registry, h.tellHookFailures]

/-! ## Steps -/

theorem attemptStep (feature : String) (scenario : Scenario) (step : Step) :
    r.attemptStep feature scenario step = r'.attemptStep feature scenario step := by
  simp only [Runner.attemptStep, Runner.tryStep, h.registry, h.fireAround]

theorem attemptSteps (feature : String) (scenario : Scenario) (progress : Progress)
    (steps : List Step) :
    r.attemptSteps feature scenario progress steps =
      r'.attemptSteps feature scenario progress steps := by
  induction steps generalizing progress with
  | nil => cases progress <;> rfl
  | cons step rest ih =>
    cases progress with
    | failureMode => simp only [Runner.attemptSteps, h.record, ih]
    | running => simp only [Runner.attemptSteps, h.attemptStep, h.record, ih]

theorem recordSteps (feature : String) (scenario : Scenario) (preview : Step → StepReport) :
    r.recordSteps feature scenario preview = r'.recordSteps feature scenario preview := by
  simp only [Runner.recordSteps, h.record]

/-! ## Scenarios and the hooks around features and runs -/

theorem executeScenario (feature : String) (scenario : Scenario) :
    r.executeScenario feature scenario = r'.executeScenario feature scenario := by
  have hworld : r.runOnWorld feature scenario = r'.runOnWorld feature scenario := by
    simp only [Runner.runOnWorld, h.fireAround, h.attemptSteps]
  simp only [Runner.executeScenario, h.newWorld, hworld, h.tellHookFailures, h.recordSteps]

/-- Such runners give the same records of a scenario. -/
theorem recordScenario (feature : String) (scenario : Scenario) (blocked : Bool) :
    r.recordScenario feature scenario blocked = r'.recordScenario feature scenario blocked := by
  simp only [Runner.recordScenario, h.recordSteps, h.dryRun, h.registry, h.executeScenario]

/-- If they are equally strict, they tell the same of it, too. -/
theorem scenarioReport (hstrict : r.strict = r'.strict) (feature : String) (scenario : Scenario)
    (blocked : Bool) :
    r.scenarioReport feature scenario blocked = r'.scenarioReport feature scenario blocked := by
  simp only [scenarioReport_eq, h.tell, h.recordScenario, hstrict]

theorem fireAroundFeature (feature : Feature) (run : Bool) (scope : HookScope) :
    r.fireAroundFeature feature run scope = r'.fireAroundFeature feature run scope := by
  simp only [Runner.fireAroundFeature, h.fireOutside]

theorem fireAroundSuite (scope : HookScope) :
    r.fireAroundSuite scope = r'.fireAroundSuite scope := by
  simp only [Runner.fireAroundSuite, h.dryRun, h.fireOutside]

end ActsLike

end Rehearsal.Runner
