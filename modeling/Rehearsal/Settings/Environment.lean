import Rehearsal.Scalar
import Rehearsal.Settings.Layers

/-!
# Settings in the environment

Each setting has a variable. Truth values and numbers are read from the text of the variable without
the blanks around it; the first variable that cannot be read decides the error.
-/

namespace Rehearsal

/-- The values of variables. -/
abbrev Environment := String → Option String

/-- What the text of a variable is read as. -/
inductive VariableKind
  | text | boolean | count
  deriving DecidableEq, Repr

/-- A variable and the setting that it is for. -/
structure Variable where
  /-- The name. -/
  name : String
  /-- Where the setting is in the document of settings. -/
  path : List String
  /-- What the text is read as. -/
  kind : VariableKind
  deriving DecidableEq, Repr

namespace Variable

/-- The variables of the settings, in the order in which they are read. -/
def all : List Variable :=
  [⟨"STEPWRIGHT_TAGS", ["tags"], .text⟩,
   ⟨"STEPWRIGHT_EXECUTION_STRICT", ["execution", "strict"], .boolean⟩,
   ⟨"STEPWRIGHT_EXECUTION_DRY_RUN", ["execution", "dry_run"], .boolean⟩,
   ⟨"STEPWRIGHT_EXECUTION_WORKERS", ["execution", "workers"], .count⟩]

/-- The variable that names the file with settings. -/
def filePath : String := "STEPWRIGHT_CONFIG_PATH"

/-- The names of all variables that matter. -/
def names : List String := all.map Variable.name ++ [filePath]

/-- The error for a text that is not what is expected. -/
def invalid (v : Variable) (expected text : String) : SettingsError :=
  .invalidValue v.name ("expected " ++ expected ++ ", got '" ++ text ++ "'")

/-- Reads the text of a variable. -/
def read (v : Variable) (text : String) : Except SettingsError Json :=
  match v.kind with
  | .text => .ok (.string text)
  | .boolean =>
    match readBoolean (trimmed text) with
    | some b => .ok (.bool b)
    | none => .error (v.invalid "bool (true/false)" text)
  | .count =>
    match IntegerType.unsigned64.read (trimmed text) with
    | .ok n => .ok (.integer n)
    | .error _ => .error (v.invalid "unsigned integer" text)

/-- The value at a path from an otherwise empty object. -/
def nested : List String → Json → Json
  | [], value => value
  | name :: path, value => .object [(name, nested path value)]

end Variable

/-- Lays the values of variables over a document. -/
def Environment.layOver (env : Environment) : Json → List Variable → Except SettingsError Json
  | layer, [] => .ok layer
  | layer, v :: rest =>
    match env v.name with
    | none => env.layOver layer rest
    | some text => do
      let value ← v.read text
      env.layOver (layer.over (Variable.nested v.path value)) rest

/-- The layer that the environment makes. -/
def Environment.layer (env : Environment) : Except SettingsError Json :=
  env.layOver (.object []) Variable.all

end Rehearsal
