import Rehearsal.Model.Outline

/-!
# Features

A feature groups scenarios and outlines. What is run are its flattened scenarios: outlines
are expanded, the background goes before the steps of each scenario, and the tags of the
feature go to each of them.
-/

namespace Rehearsal

/-- A scenario of a feature, plain or with examples. -/
inductive ScenarioDefinition
  /-- A plain scenario. -/
  | scenario (s : Scenario)
  /-- A scenario with examples. -/
  | outline (o : Outline)
  deriving DecidableEq

/-- A feature. -/
structure Feature where
  /-- The name. -/
  name : String
  /-- The tags, which every scenario of the feature has too. -/
  tags : TagSet := .empty
  /-- The steps that come before those of each scenario. -/
  background : List Step := []
  /-- The scenarios and outlines, in order. -/
  definitions : List ScenarioDefinition
  deriving DecidableEq, Inhabited

/-- The scenarios that a definition stands for. -/
def ScenarioDefinition.expand : ScenarioDefinition → List Scenario
  | .scenario s => [s]
  | .outline o => o.expand

namespace Feature

/-- The scenario with the tags and the background of the feature. -/
def inherit (f : Feature) (s : Scenario) : Scenario :=
  { s with tags := f.tags.union s.tags, steps := f.background ++ s.steps }

/-- The scenarios of the feature as they are run. -/
def scenarios (f : Feature) : List Scenario :=
  (f.definitions.flatMap ScenarioDefinition.expand).map f.inherit

end Feature

end Rehearsal
