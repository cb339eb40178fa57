import Rehearsal.Failure
import Rehearsal.Model.Step
import Rehearsal.Report.Outcome

/-!
# Hooks

Hooks are code that runs around the whole run, each feature, each scenario and each step. What a
hook gets to see depends on the boundary it runs at: feature hooks see the feature, scenario hooks
the scenario and its world as well, step hooks also the step, and those after a step its outcome.
-/

namespace Rehearsal

/-- The boundary at which a hook runs. -/
inductive HookScope
  | beforeSuite | afterSuite
  | beforeFeature | afterFeature
  | beforeScenario | afterScenario
  | beforeStep | afterStep
  deriving DecidableEq, Repr, Inhabited

namespace HookScope

/-- All scopes. -/
def all : List HookScope :=
  [.beforeSuite, .afterSuite, .beforeFeature, .afterFeature, .beforeScenario, .afterScenario,
   .beforeStep, .afterStep]

/-- Whether hooks of the scope run before what they are around. -/
def isBefore : HookScope → Bool
  | .beforeSuite | .beforeFeature | .beforeScenario | .beforeStep => true
  | .afterSuite | .afterFeature | .afterScenario | .afterStep => false

/-- Whether the scope is the whole run. -/
def isSuite : HookScope → Bool
  | .beforeSuite | .afterSuite => true
  | _ => false

/-- The two words of the name of the scope with `joint` between them. -/
def nameWith (joint : String) (scope : HookScope) : String :=
  let level := match scope with
    | .beforeSuite | .afterSuite => "suite"
    | .beforeFeature | .afterFeature => "feature"
    | .beforeScenario | .afterScenario => "scenario"
    | .beforeStep | .afterStep => "step"
  (if scope.isBefore then "before" else "after") ++ joint ++ level

/-- The scope as readers see it. -/
def display (scope : HookScope) : String := scope.nameWith "-"

/-- The scope in documents. -/
def name (scope : HookScope) : String := scope.nameWith "_"

/-- The scope of the given name in documents. -/
def named? (name : String) : Option HookScope := all.find? fun scope => scope.name == name

/-- The description of a scope. -/
def describe : HookScope → String
  | .beforeSuite => "BeforeSuite"
  | .afterSuite => "AfterSuite"
  | .beforeFeature => "BeforeFeature"
  | .afterFeature => "AfterFeature"
  | .beforeScenario => "BeforeScenario"
  | .afterScenario => "AfterScenario"
  | .beforeStep => "BeforeStep"
  | .afterStep => "AfterStep"

end HookScope

/-- What a hook sees of the boundary at which it runs, its world aside. -/
structure HookContext where
  /-- The boundary. -/
  scope : HookScope
  /-- The name of the feature. -/
  feature : Option String := none
  /-- The name of the scenario. -/
  scenario : Option String := none
  /-- The tags of the feature or of the scenario. -/
  tags : TagSet := .empty
  /-- The step. -/
  step : Option Step := none
  /-- How the step ended. -/
  outcome : Option Outcome := none
  deriving DecidableEq, Inhabited

/-- That a hook failed. -/
structure HookFailure where
  /-- The scope of the hook. -/
  scope : HookScope
  /-- The outermost message. -/
  message : String
  /-- The messages of its causes. -/
  causes : List String
  deriving DecidableEq, Repr, Inhabited

/-- The record of a failure in a hook. -/
def HookFailure.ofFailure (scope : HookScope) (f : Failure) : HookFailure :=
  ⟨scope, f.message, f.causes⟩

end Rehearsal
