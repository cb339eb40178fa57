import Rehearsal.Registry.Definition

/-!
# Registries

A registry holds the definitions of a test suite in the order in which they were
registered. Within a kind no two patterns have the same source; a registration that fails
leaves the registry as it was.
-/

namespace Rehearsal

/-- Why a definition is not registered. -/
inductive RegistrationError
  /-- The source is no pattern. -/
  | invalidPattern (source : String) (e : PatternError)
  /-- A definition of the kind with the same source is there already. -/
  | duplicatePattern (kind : DefinitionKind) (source : String)
  /-- The patterns of a kind are too much together. -/
  | patternSet (kind : DefinitionKind) (reason : String)
  deriving DecidableEq, Repr

/-- The wording of an error. -/
def RegistrationError.message : RegistrationError → String
  | .invalidPattern source e => "invalid pattern '" ++ source ++ "': " ++ e.message
  | .duplicatePattern kind source => "duplicate " ++ kind.display ++ " pattern: " ++ source
  | .patternSet kind reason => "failed to compile " ++ kind.display ++ " pattern set: " ++ reason

/-- The definitions of a test suite. -/
structure Registry (W σ ν : Type) where
  /-- The step definitions. -/
  steps : List (StepDefinition W σ ν) := []
  /-- The transforms of captures. -/
  transforms : List (TransformDefinition W σ ν) := []
  /-- The transforms of tables. -/
  tableTransforms : List (TableTransformDefinition W σ ν) := []
  /-- The hooks. -/
  hooks : List (HookDefinition W σ ν) := []
  /-- How far down steps are followed that ask for other steps. There is no bound on how deep these
  may be nested, and steps that ask for each other without end are never done. The limit makes a run
  a function all the same: a chain that reaches it stands for a run that never returns. -/
  chainLimit : Nat := 1000000

/-- The step definitions that are for a text. -/
inductive Resolution (W σ ν : Type)
  /-- There is none. -/
  | noMatch
  /-- There is one, and it captures the given parts of the text. -/
  | unique (definition : StepDefinition W σ ν) (captures : List String)
  /-- There are several. -/
  | ambiguous (definitions : List (StepDefinition W σ ν))

variable {W σ ν : Type}

/-- The sources of the patterns of the definitions that are for a text. -/
def Resolution.patterns : Resolution W σ ν → List String
  | .noMatch => []
  | .unique d _ => [d.pattern.source]
  | .ambiguous ds => ds.map fun d => d.pattern.source

namespace Registry

/-- The registry without definitions. -/
def empty : Registry W σ ν := {}

instance : Inhabited (Registry W σ ν) := ⟨empty⟩

/-! ## Registration -/

/-- Compiles the source of a new definition of a kind of which `sources` are there already. -/
def claim (kind : DefinitionKind) (sources : List String) (source : String) :
    Except RegistrationError Pattern :=
  match Pattern.compile source with
  | .error e => .error (.invalidPattern source e)
  | .ok p => if sources.contains source then .error (.duplicatePattern kind source) else .ok p

/-- Registers a step. -/
def addStep (r : Registry W σ ν) (keyword : Option Keyword) (source : String)
    (code : StepCode W σ ν) :
    Except RegistrationError (Registry W σ ν) :=
  (claim .step (r.steps.map fun d => d.pattern.source) source).map fun pattern =>
    { r with steps := r.steps ++ [⟨keyword, pattern, code⟩] }

/-- Registers a transform of captures. -/
def addTransform (r : Registry W σ ν) (source : String) (code : TransformCode W σ ν) :
    Except RegistrationError (Registry W σ ν) :=
  (claim .transform (r.transforms.map fun d => d.pattern.source) source).map fun pattern =>
    { r with transforms := r.transforms ++ [⟨pattern, code⟩] }

/-- Registers a transform of tables. -/
def addTableTransform (r : Registry W σ ν) (source : String) (code : TableTransformCode W σ ν) :
    Except RegistrationError (Registry W σ ν) :=
  (claim .tableTransform (r.tableTransforms.map fun d => d.pattern.source) source).map
    fun pattern => { r with tableTransforms := r.tableTransforms ++ [⟨pattern, code⟩] }

/-- Registers a hook. Hooks may be alike. -/
def addHook (r : Registry W σ ν) (scope : HookScope) (filter : Option TagFilter)
    (code : HookCode W σ ν) : Registry W σ ν :=
  { r with hooks := r.hooks ++ [⟨scope, filter, code⟩] }

/-! ## Lookup -/

/-- The step definitions whose patterns match a text. -/
def matchingSteps (r : Registry W σ ν) (text : String) : List (StepDefinition W σ ν) :=
  r.steps.filter fun d => d.pattern.isMatch text

/-- The transforms whose patterns match a capture. -/
def matchingTransforms (r : Registry W σ ν) (capture : String) : List (TransformDefinition W σ ν) :=
  r.transforms.filter fun d => d.pattern.isMatch capture

/-- The transforms whose patterns match the signature of a table. -/
def matchingTableTransforms (r : Registry W σ ν) (signature : String) :
    List (TableTransformDefinition W σ ν) :=
  r.tableTransforms.filter fun d => d.pattern.isMatch signature

/-- The hooks of a scope. -/
def hooksOf (r : Registry W σ ν) (scope : HookScope) : List (HookDefinition W σ ν) :=
  r.hooks.filter fun h => h.scope == scope

/-- The step definitions that are for a text. -/
def resolve (r : Registry W σ ν) (text : String) : Resolution W σ ν :=
  match r.matchingSteps text with
  | [] => .noMatch
  | [d] => match d.pattern.captures text with
    | some captures => .unique d captures
    | none => .noMatch
  | ds => .ambiguous ds

end Registry

end Rehearsal
