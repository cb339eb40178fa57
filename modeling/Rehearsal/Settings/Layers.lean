import Rehearsal.Json
import Rehearsal.Settings
import Rehearsal.Unicode.Blank

/-!
# Layers of settings

Settings are put together from layers, later ones over earlier ones. Objects are laid over objects
field by field; anything else replaces what is below it. Only then is the result read as settings,
so a later layer can mend a field that an earlier one has wrong. Some layer must say something:
without any field there is nothing to read.
-/

namespace Rehearsal

/-- Gives a field a value that is made from the one below, if there is one. -/
def Json.putField (name : String) (value : Option Json → Json) :
    List (String × Json) → List (String × Json)
  | [] => [(name, value none)]
  | (n, v) :: rest =>
    if n = name then (n, value (some v)) :: rest else (n, v) :: Json.putField name value rest

/-- The fields of a value, none if it is no object. -/
def Json.fields : Json → List (String × Json)
  | .object fields => fields
  | _ => []

/-- The value laid over another one. -/
def Json.over (below : Json) : Json → Json
  | .object fields => .object (overFields below.fields fields)
  | .null => .null
  | .bool b => .bool b
  | .integer n => .integer n
  | .decimal digits exponent => .decimal digits exponent
  | .string s => .string s
  | .array items => .array items
where
  /-- Fields laid over fields. -/
  overFields (below : List (String × Json)) : List (String × Json) → List (String × Json)
    | [] => below
    | (name, value) :: rest =>
      overFields (Json.putField name (fun v => Json.over (v.getD .null) value) below) rest

namespace ExecutionSettings

/-- The document of execution settings. -/
def toJson (s : ExecutionSettings) : Json :=
  .object [("strict", .bool s.strict), ("dry_run", .bool s.dryRun), ("workers", .integer s.workers)]

/-- The execution settings of a document. What is missing has its default. -/
def ofJson? (value : Json) : Option ExecutionSettings := do
  let field ← value.record? ["strict", "dry_run", "workers"]
  let defaults : ExecutionSettings := {}
  return {
    strict := ← Json.optional Json.bool? defaults.strict (field "strict")
    dryRun := ← Json.optional Json.bool? defaults.dryRun (field "dry_run")
    workers := ← Json.optional (Json.natBelow? UInt64.size) defaults.workers (field "workers") }

end ExecutionSettings

namespace Settings

/-- The document of settings. -/
def toJson (s : Settings) : Json :=
  .object [("tags", s.tags.elim .null .string), ("execution", s.execution.toJson)]

/-- The tag filter of a document. No value means no filter. -/
def tagsOf? : Json → Option (Option String)
  | .null => some none
  | value => value.string?.map some

/-- The settings of a document. What is missing has its default; a list of the fields has
at least the first. -/
def ofJson? : Json → Option Settings
  | .array [] => none
  | value => do
    let field ← value.record? ["tags", "execution"]
    return {
      tags := ← Json.optional tagsOf? none (field "tags")
      execution := ← Json.optional ExecutionSettings.ofJson? {} (field "execution") }

/-- The settings without blanks around the tag filter, and without filter if it is blank. -/
def normalized (s : Settings) : Settings :=
  { s with tags := (s.tags.map trimmed).filter fun tags => tags != "" }

/-- Whether a layer is an object. -/
def isLayer : Json → Bool
  | .object _ => true
  | _ => false

/-- What layers, from the lowest to the highest, amount to: no value if none of them has a field. -/
def combined (layers : List Json) : Json :=
  (layers.filter fun layer => !layer.fields.isEmpty).foldl Json.over .null

/-- The settings that layers, from the lowest to the highest, amount to. -/
def ofLayers (layers : List Json) : Except SettingsError Settings :=
  if layers.all isLayer then
    match ofJson? (combined layers) with
    | some s => .ok s.normalized
    | none => .error .layers
  else .error .layers

end Settings

end Rehearsal
