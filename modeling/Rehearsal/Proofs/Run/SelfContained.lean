import Rehearsal.Proofs.Journaled.DependsOn
import Rehearsal.Proofs.Run.Brackets
import Rehearsal.Proofs.Run.Parts

/-!
# Self-contained test suites

The code of a self-contained test suite depends on its arguments and on the world that it is called
on, and on nothing around them. Then neither does anything that a runner computes: the surroundings,
in which observers live, do not matter to the records and the journal.
-/

namespace Rehearsal

open Journaled

variable {W σ ν α : Type}

/-- The code of a test suite depends on its arguments and on its world only. -/
structure Registry.SelfContained (r : Registry W σ ν) : Prop where
  /-- The code of steps does. -/
  step : ∀ d ∈ r.steps, ∀ arguments, (d.code arguments).DependsOn Prod.fst
  /-- The code of transforms of captures does. -/
  transform : ∀ d ∈ r.transforms, ∀ captures, (d.code captures).DependsOn Prod.fst
  /-- The code of transforms of tables does. -/
  tableTransform : ∀ d ∈ r.tableTransforms, ∀ table, (d.code table).DependsOn Prod.fst
  /-- The code of hooks does. -/
  hook : ∀ h ∈ r.hooks, ∀ context, (h.code context).DependsOn Prod.fst

/-- Worlds are made from nothing, and the definitions are self-contained. -/
structure Runner.SelfContained (r : Runner W σ ν) : Prop where
  /-- The definitions are self-contained. -/
  registry : r.registry.SelfContained
  /-- Worlds are made from nothing. -/
  newWorld : r.newWorld.Constant

/-! ## Calls and events -/

/-- Calling code under guard depends on what the code depends on. -/
theorem calling_dependsOn {κ : Type} {view : σ → κ} (call : Call) {code : Journaled σ ν (Verdict α)}
    (h : code.DependsOn view) : (calling call code).DependsOn view := by
  refine (DependsOn.write _).bind fun _ => h.mapEntries.bind fun verdict => ?_
  cases verdict.guarded with
  | ok value => exact .pure _
  | error f => exact (DependsOn.write _).bind fun _ => .pure _

/-- What observers are told does not depend on the surroundings, though these may change by it. -/
theorem Runner.tell_constant (r : Runner W σ ν) (event : RunEvent) : (r.tell event).Constant := by
  suffices h : ∀ (observers : List (Observer σ)) (index : Nat),
      (tellEach event index observers : Journaled σ (Entry ν) Unit).Constant from h r.observers 0
  intro observers
  induction observers with
  | nil => exact fun index => .pure _
  | cons observer rest ih =>
    exact fun index => (Constant.change _).bind fun _ => (DependsOn.write _).bind fun _ =>
      ih (index + 1)

/-- Telling of failures of hooks does not depend on the surroundings either. -/
theorem Runner.tellHookFailures_constant (r : Runner W σ ν) (feature scenario : Option String)
    (failures : List HookFailure) : (r.tellHookFailures feature scenario failures).Constant := by
  induction failures with
  | nil => exact .pure _
  | cons failure rest ih => exact (r.tell_constant _).bind fun _ => ih

/-! ## Hooks -/

namespace Registry

variable {r : Registry W σ ν}

/-- Hooks depend on the world, if there is one. -/
theorem fireEach_dependsOn (context : HookContext) (hooks : List (HookDefinition W σ ν × Nat))
    (h : ∀ hook ∈ hooks, (hook.1.code context).DependsOn Prod.fst) :
    (fireEach context hooks).DependsOn Prod.fst := by
  induction hooks with
  | nil => exact .pure _
  | cons hook rest ih =>
    have hrest := ih fun hook hmem => h hook (List.mem_cons_of_mem _ hmem)
    refine (calling_dependsOn _ (h hook List.mem_cons_self)).bind fun result => ?_
    cases result with
    | ok _ => exact hrest
    | error f =>
      dsimp only
      split
      · exact .pure _
      · exact hrest.bind fun failures => .pure _

namespace SelfContained

variable (hr : r.SelfContained)
include hr

/-- The hooks of a boundary are hooks of the registry. -/
theorem firingHooks (context : HookContext) :
    (fireEach context (r.firingHooks context)).DependsOn Prod.fst :=
  fireEach_dependsOn context _ fun hook hmem =>
    hr.hook hook.1 (List.fst_mem_of_mem_zipIdx (List.mem_filter.1 hmem).1) context

/-- Without a world hooks depend on nothing. -/
theorem fire (context : HookContext) : (r.fire context).Constant :=
  (hr.firingHooks context).through (fun _ _ _ => rfl) fun _ _ _ _ _ _ => rfl

/-- On a world hooks depend on it, and so does the world that they leave. -/
theorem fireOnWorld (context : HookContext) : (r.fireOnWorld context).DependsOn Prod.fst := by
  refine (hr.firingHooks context).through (fun s s' h => congrArg some h) fun s s' t t' h ht => ?_
  dsimp only
  rw [show s.1 = s'.1 from h, show t.1 = t'.1 from ht]

end SelfContained

end Registry

/-! ## Runs -/

/-- Depending on nothing but a view of the state is compositional. -/
theorem Journaled.DependsOn.compositional {κ ε : Type} (view : σ → κ) :
    Compositional fun α (m : Journaled σ ε α) => m.DependsOn view :=
  ⟨fun a => .pure a, fun hm hf => hm.bind hf⟩

namespace Runner.SelfContained

variable {r : Runner W σ ν} (hr : r.SelfContained)
include hr

/-- The parts of a run depend on the world where there is one, and on nothing elsewhere. -/
theorem holdsOfParts : r.HoldsOfParts (fun _ m => m.Constant) fun _ m => m.DependsOn Prod.fst where
  compositional := DependsOn.compositional _
  calls := {
    compositional := DependsOn.compositional _
    step := fun d hd arguments => calling_dependsOn _ (hr.registry.step d hd arguments)
    transform := fun d hd captures => calling_dependsOn _ (hr.registry.transform d hd captures)
    tableTransform := fun d hd table =>
      calling_dependsOn _ (hr.registry.tableTransform d hd table) }
  beside := fun h => h.beside
  within := fun _ h => Constant.within h
  tell := fun event _ => r.tell_constant event
  world := calling_dependsOn _ hr.newWorld
  fire := fun context _ => hr.registry.fire context
  fireOnWorld := fun context _ => hr.registry.fireOnWorld context

/-- The record of a scenario does not depend on the surroundings. -/
theorem recordScenario (feature : String) (scenario : Scenario) (blocked : Bool) :
    (r.recordScenario feature scenario blocked).Constant := by
  have hparts := hr.holdsOfParts
  unfold Runner.recordScenario
  split
  · exact (hparts.recordSteps feature scenario _).bind fun _ => .pure _
  · split
    · exact (hparts.recordSteps feature scenario _).bind fun _ => .pure _
    · exact hparts.executeScenario feature scenario

/-- The hooks around a feature do not depend on the surroundings. -/
theorem fireAroundFeature (feature : Feature) (run : Bool) {scope : HookScope}
    (hscope : scope.isSuite = false) : (r.fireAroundFeature feature run scope).Constant := by
  unfold Runner.fireAroundFeature
  split
  · exact hr.holdsOfParts.fireOutside feature scope hscope
  · exact .pure _

/-- The hooks around the run do not depend on the surroundings. -/
theorem fireAroundSuite (scope : HookScope) : (r.fireAroundSuite scope).Constant := by
  unfold Runner.fireAroundSuite
  split
  · exact .pure _
  · exact (hr.registry.fire _).bind fun failures =>
      (r.tellHookFailures_constant _ _ failures).bind fun _ => .pure _

/-- A feature gives the same record and writes the same entries wherever it is run. -/
theorem featureReport (feature : Feature) (suiteBlocked : Bool) :
    (r.featureReport feature suiteBlocked).Constant :=
  hr.holdsOfParts.featureReport feature suiteBlocked

/-- The end of a run is the same wherever it comes. -/
theorem finishSuite (features : List FeatureReport) (before : List HookFailure) :
    (r.finishSuite features before).Constant := by
  unfold Runner.finishSuite
  split
  · exact (DependsOn.pure _).bind fun after => (r.tell_constant _).bind fun _ => .pure _
  · refine DependsOn.bind ?_ fun after => (r.tell_constant _).bind fun _ => .pure _
    exact (hr.registry.fire _).bind fun failures =>
      (r.tellHookFailures_constant _ _ failures).bind fun _ => .pure _

end Runner.SelfContained

/-- Code that only gives values depends on nothing. -/
theorem Runner.hooked_selfContained : hooked.SelfContained where
  registry := {
    step := nofun
    transform := nofun
    tableTransform := nofun
    hook := fun h hmem context => by
      obtain ⟨scope, -, rfl⟩ := List.mem_map.1 hmem
      exact .pure _ }
  newWorld := .pure _

end Rehearsal
