import Rehearsal.Model.Document
import Rehearsal.Report.Event

/-!
# Reports as documents

The JSON form of reports and events for whoever presents them. The pattern and the error of a step
and the details of a failure are left out when there are none.
-/

namespace Rehearsal

/-- An optional text as a value. -/
def Json.ofOption : Option String → Json
  | none => .null
  | some s => .string s

/-- A field that is left out when there is no value. -/
def Json.fieldIfAny (name : String) : Option Json → List (String × Json)
  | none => []
  | some value => [(name, value)]

/-- The document of an error detail. -/
def ErrorDetail.toJson : ErrorDetail → Json
  | .pending message => .object [("kind", .string "pending"), ("message", .ofOption message)]
  | .ambiguous patterns =>
    .object [("kind", .string "ambiguous"), ("patterns", .ofStrings patterns)]
  | .failed message causes details =>
    .object
      ([("kind", .string "failed"), ("message", .string message), ("causes", .ofStrings causes)] ++
      Json.fieldIfAny "details" (details.map .string))
  | .hook scope message =>
    .object [("kind", .string "hook"), ("scope", .string scope.name), ("message", .string message)]

/-- The document of the record of a step. -/
def StepReport.toJson (r : StepReport) : Json :=
  .object
    ([("keyword", r.keyword.toJson), ("text", .string r.text), ("outcome", .string r.outcome.name),
      ("arguments", .ofStrings r.arguments)] ++
    Json.fieldIfAny "pattern" (r.pattern.map .string) ++
    Json.fieldIfAny "error" (r.error.map ErrorDetail.toJson))

/-- The document of the failure of a hook. -/
def HookFailure.toJson (f : HookFailure) : Json :=
  .object [("scope", .string f.scope.name), ("message", .string f.message),
    ("causes", .ofStrings f.causes)]

/-- The document of failures of hooks. -/
def HookFailure.listToJson (failures : List HookFailure) : Json :=
  .array (failures.map HookFailure.toJson)

/-- The document of counts. -/
def OutcomeCounts.toJson (c : OutcomeCounts) : Json :=
  .object (Outcome.all.map fun o => (o.name, .integer (c.get o).value))

/-- The document of the record of a scenario. -/
def ScenarioReport.toJson (r : ScenarioReport) : Json :=
  .object [("name", .string r.name), ("tags", r.tags.toJson), ("status", .string r.status.name),
    ("steps", .array (r.steps.map StepReport.toJson)),
    ("hook_failures", HookFailure.listToJson r.hookFailures)]

/-- The document of the record of a feature. -/
def FeatureReport.toJson (r : FeatureReport) : Json :=
  .object [("name", .string r.name), ("tags", r.tags.toJson),
    ("scenarios", .array (r.scenarios.map ScenarioReport.toJson)),
    ("hook_failures", HookFailure.listToJson r.hookFailures)]

/-- The document of the record of a run. -/
def SuiteReport.toJson (r : SuiteReport) : Json :=
  .object [("features", .array (r.features.map FeatureReport.toJson)),
    ("hook_failures", HookFailure.listToJson r.hookFailures), ("counts", r.counts.toJson),
    ("strict", .bool r.strict)]

/-- The fields of the document of an event. -/
def RunEvent.fields : RunEvent → List (String × Json)
  | .suiteStarted features => [("event", .string "suite_started"), ("features", .integer features)]
  | .featureStarted name => [("event", .string "feature_started"), ("name", .string name)]
  | .scenarioStarted feature name =>
    [("event", .string "scenario_started"), ("feature", .string feature), ("name", .string name)]
  | .stepFinished feature scenario step =>
    [("event", .string "step_finished"), ("feature", .string feature),
      ("scenario", .string scenario),
     ("step", step.toJson)]
  | .hookFailed feature scenario failure =>
    [("event", .string "hook_failed"), ("feature", .ofOption feature),
      ("scenario", .ofOption scenario),
     ("failure", failure.toJson)]
  | .scenarioFinished feature name status failed =>
    [("event", .string "scenario_finished"), ("feature", .string feature), ("name", .string name),
     ("status", .string status.name), ("failed", .bool failed)]
  | .featureFinished name => [("event", .string "feature_finished"), ("name", .string name)]
  | .suiteFinished counts => [("event", .string "suite_finished"), ("counts", counts.toJson)]

end Rehearsal
