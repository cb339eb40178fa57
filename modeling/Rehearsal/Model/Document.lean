import Rehearsal.Json
import Rehearsal.Model.Feature

/-!
# Features as documents

Features are handed over as JSON. A step without argument, a scenario without tags and a feature
without background may leave these fields out. Scenarios and outlines are told apart by the field
`type`, tables and texts below a step by the field `kind`. What stands below the field `type` is
read leniently: names are accepted there in more forms than elsewhere.
-/

namespace Rehearsal

/-! ## Names of kinds -/

/-- Whether a value stands for no content: null or, read leniently, an object without fields. -/
def Json.isNothing (lenient : Bool) : Json → Bool
  | .null => true
  | .object [] => lenient
  | _ => false

/-- The name that a value is: a text, or an object with one field that has the
name and no content. -/
def Json.name? (lenient : Bool) : Json → Option String
  | .string name => some name
  | .object [(name, content)] => if content.isNothing lenient then some name else none
  | _ => none

/-- The kind that the first item of a list tells: the name of one or, read leniently, its
place among the `kinds`. -/
def Json.kindInList? (lenient : Bool) (kinds : List String) : Json → Option String
  | .string name => some name
  | .integer (.ofNat place) => if lenient then kinds[place]? else none
  | _ => none

/-! ## Parts of features -/

/-- The document of a set of tags. -/
def TagSet.toJson (tags : TagSet) : Json := .ofStrings tags.toList

/-- The set of tags of a document. -/
def TagSet.ofJson? (value : Json) : Option TagSet := (value.list? Json.string?).map TagSet.ofList

/-- The document of a table. -/
def Table.toJson (t : Table) : Json := .array (t.rows.map .ofStrings)

/-- The table of a document. -/
def Table.ofJson? (value : Json) : Option Table :=
  (value.list? (Json.list? Json.string?)).map Table.mk

/-- The document of a keyword. -/
def Keyword.toJson (k : Keyword) : Json := .string k.name

/-- The keyword of a document. -/
def Keyword.ofJson? (lenient : Bool) (value : Json) : Option Keyword :=
  (value.name? lenient).bind Keyword.named?

/-- The document of an argument. -/
def StepArgument.toJson : StepArgument → Json
  | .table t => .object [("kind", .string "table"), ("value", t.toJson)]
  | .text s => .object [("kind", .string "text"), ("value", .string s)]

/-- The argument of a document. -/
def StepArgument.ofJson? (lenient : Bool) (value : Json) : Option StepArgument := do
  let field ← value.record? ["kind", "value"]
  let kind? := match value with
    | .array _ => Json.kindInList? lenient ["table", "text"]
    | _ => Json.name? lenient
  match ← Json.required kind? (field "kind") with
  | "table" => return .table (← Json.required Table.ofJson? (field "value"))
  | "text" => return .text (← Json.required Json.string? (field "value"))
  | _ => none

/-- The document of a step. -/
def Step.toJson (step : Step) : Json :=
  .object ([("keyword", step.keyword.toJson), ("text", .string step.text)] ++
    match step.argument with
    | none => []
    | some argument => [("argument", argument.toJson)])

/-- Reads a value that may be null. -/
def Json.nullable (read : Json → Option α) : Json → Option (Option α)
  | .null => some none
  | value => (read value).map some

/-- The step of a document. -/
def Step.ofJson? (lenient : Bool) (value : Json) : Option Step := do
  let field ← value.record? ["keyword", "text", "argument"]
  return {
    keyword := ← Json.required (Keyword.ofJson? lenient) (field "keyword")
    text := ← Json.required Json.string? (field "text")
    argument := ← Json.optional (Json.nullable (StepArgument.ofJson? lenient)) none
      (field "argument") }

/-- The document of a list of steps. -/
def Step.listToJson (steps : List Step) : Json := .array (steps.map Step.toJson)

/-- The fields of a scenario in its document. -/
def Scenario.fields (s : Scenario) : List (String × Json) :=
  [("name", .string s.name), ("tags", s.tags.toJson), ("steps", Step.listToJson s.steps)]

/-- The document of a scenario. -/
def Scenario.toJson (s : Scenario) : Json := .object s.fields

/-- The scenario of a document. -/
def Scenario.ofJson? (lenient : Bool) (value : Json) : Option Scenario := do
  let field ← value.record? ["name", "tags", "steps"]
  return {
    name := ← Json.required Json.string? (field "name")
    tags := ← Json.optional TagSet.ofJson? .empty (field "tags")
    steps := ← Json.required (Json.list? (Step.ofJson? lenient)) (field "steps") }

/-- The fields of an outline in its document. -/
def Outline.fields (o : Outline) : List (String × Json) :=
  [("name", .string o.name), ("tags", o.tags.toJson), ("steps", Step.listToJson o.steps),
   ("examples", o.examples.toJson)]

/-- The outline of a document. -/
def Outline.ofJson? (lenient : Bool) (value : Json) : Option Outline := do
  let field ← value.record? ["name", "tags", "steps", "examples"]
  return {
    name := ← Json.required Json.string? (field "name")
    tags := ← Json.optional TagSet.ofJson? .empty (field "tags")
    steps := ← Json.required (Json.list? (Step.ofJson? lenient)) (field "steps")
    examples := ← Json.required Table.ofJson? (field "examples") }

/-! ## Features -/

/-- The document of a scenario definition. -/
def ScenarioDefinition.toJson : ScenarioDefinition → Json
  | .scenario s => .object (("type", .string "scenario") :: s.fields)
  | .outline o => .object (("type", .string "outline") :: o.fields)

/-- The tag of a document of several kinds, and the document without it. -/
def Json.tagged? (tag : String) : Json → Option (Json × Json)
  | .object fields =>
    (fields.lookup tag).map fun kind => (kind, .object (fields.filter fun field => field.1 != tag))
  | .array (kind :: rest) => some (kind, .array rest)
  | _ => none

/-- The scenario definition of a document. -/
def ScenarioDefinition.ofJson? (value : Json) : Option ScenarioDefinition := do
  let (kind, content) ← value.tagged? "type"
  match ← kind.string? with
  | "scenario" => return .scenario (← Scenario.ofJson? true content)
  | "outline" => return .outline (← Outline.ofJson? true content)
  | _ => none

/-- The document of a feature. -/
def Feature.toJson (f : Feature) : Json :=
  .object
    [("name", .string f.name), ("tags", f.tags.toJson),
      ("background", Step.listToJson f.background),
     ("scenarios", .array (f.definitions.map ScenarioDefinition.toJson))]

/-- The feature of a document. -/
def Feature.ofJson? (value : Json) : Option Feature := do
  let field ← value.record? ["name", "tags", "background", "scenarios"]
  return {
    name := ← Json.required Json.string? (field "name")
    tags := ← Json.optional TagSet.ofJson? .empty (field "tags")
    background := ← Json.optional (Json.list? (Step.ofJson? false)) [] (field "background")
    definitions := ← Json.required (Json.list? ScenarioDefinition.ofJson?) (field "scenarios") }

end Rehearsal
