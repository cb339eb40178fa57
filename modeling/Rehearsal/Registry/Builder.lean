import Rehearsal.Regex.Set
import Rehearsal.Registry

/-!
# Building registries

Definitions are collected before a run. For each kind that is bound to patterns the builder keeps
the sources that are taken beside the definitions themselves. Building a registry makes sets of the
patterns of each kind, so that a text is matched against all patterns of a kind at once; the
definitions are then found by the places of their patterns.
-/

namespace Rehearsal

variable {W σ ν δ : Type}

/-! ## Registration -/

/-- The definitions of one kind. -/
structure Shelf (δ : Type) where
  /-- The definitions, in order of registration. -/
  definitions : List δ := []
  /-- The sources that are taken, in any order. -/
  sources : List String := []

/-- Takes the source of a pattern, unless it is taken already. -/
def Shelf.claim (s : Shelf δ) (kind : DefinitionKind) (pattern : Pattern) :
    Except RegistrationError Unit × Shelf δ :=
  (if s.sources.contains pattern.source then .error
    (.duplicatePattern kind pattern.source) else .ok (),
    { s with sources := s.sources.insert pattern.source })

/-- Puts a definition to the others of its kind, if the source of its pattern can be taken. -/
def Shelf.register (s : Shelf δ) (kind : DefinitionKind) (pattern : Pattern) (d : δ) :
    Except RegistrationError Unit × Shelf δ :=
  match s.claim kind pattern with
  | (.error e, s) => (.error e, s)
  | (.ok (), s) => (.ok (), { s with definitions := s.definitions ++ [d] })

/-- A definition that is to be registered. -/
inductive Registration (W σ ν : Type)
  /-- A step. -/
  | step (keyword : Option Keyword) (source : String) (code : StepCode W σ ν)
  /-- A transform of captures. -/
  | transform (source : String) (code : TransformCode W σ ν)
  /-- A transform of tables. -/
  | tableTransform (source : String) (code : TableTransformCode W σ ν)
  /-- A hook. -/
  | hook (scope : HookScope) (filter : Option TagFilter) (code : HookCode W σ ν)

namespace Registry

/-- The definitions that have been registered so far. -/
structure Builder (W σ ν : Type) where
  /-- The step definitions. -/
  steps : Shelf (StepDefinition W σ ν) := {}
  /-- The transforms of captures. -/
  transforms : Shelf (TransformDefinition W σ ν) := {}
  /-- The transforms of tables. -/
  tableTransforms : Shelf (TableTransformDefinition W σ ν) := {}
  /-- The hooks. -/
  hooks : List (HookDefinition W σ ν) := []

namespace Builder

/-- Registers a step with a pattern that is compiled already. -/
def registerStep (b : Builder W σ ν) (d : StepDefinition W σ ν) :
    Except RegistrationError Unit × Builder W σ ν :=
  let (result, steps) := b.steps.register .step d.pattern d
  (result, { b with steps })

/-- Registers a transform with a pattern that is compiled already. -/
def registerTransform (b : Builder W σ ν) (d : TransformDefinition W σ ν) :
    Except RegistrationError Unit × Builder W σ ν :=
  let (result, transforms) := b.transforms.register .transform d.pattern d
  (result, { b with transforms })

/-- Registers a transform of tables with a pattern that is compiled already. -/
def registerTableTransform (b : Builder W σ ν) (d : TableTransformDefinition W σ ν) :
    Except RegistrationError Unit × Builder W σ ν :=
  let (result, tableTransforms) := b.tableTransforms.register .tableTransform d.pattern d
  (result, { b with tableTransforms })

/-- Registers a hook. -/
def registerHook (b : Builder W σ ν) (d : HookDefinition W σ ν) : Builder W σ ν :=
  { b with hooks := b.hooks ++ [d] }

/-- Compiles the source of a definition, and goes on with the pattern. -/
def compiling (b : Builder W σ ν) (source : String)
    (register : Pattern → Except RegistrationError Unit × Builder W σ ν) :
    Except RegistrationError Unit × Builder W σ ν :=
  match Pattern.compile source with
  | .error e => (.error (.invalidPattern source e), b)
  | .ok pattern => register pattern

/-- Registers a definition. Beside the result there is the builder as it is left,
whether that fails or not. -/
def register (b : Builder W σ ν) :
    Registration W σ ν → Except RegistrationError Unit × Builder W σ ν
  | .step keyword source code =>
    b.compiling source fun pattern => b.registerStep ⟨keyword, pattern, code⟩
  | .transform source code => b.compiling source fun pattern => b.registerTransform ⟨pattern, code⟩
  | .tableTransform source code =>
    b.compiling source fun pattern => b.registerTableTransform ⟨pattern, code⟩
  | .hook scope filter code => (.ok (), b.registerHook ⟨scope, filter, code⟩)

/-- Registers one definition after the other, whether they fail or not. There is
one result for each. -/
def registerAll (b : Builder W σ ν) :
    List (Registration W σ ν) → List (Except RegistrationError Unit) × Builder W σ ν
  | [] => ([], b)
  | registration :: rest =>
    let (result, b) := b.register registration
    let (results, b) := b.registerAll rest
    (result :: results, b)

/-- The registry of the definitions. -/
def registry (b : Builder W σ ν) : Registry W σ ν :=
  { steps := b.steps.definitions
    transforms := b.transforms.definitions
    tableTransforms := b.tableTransforms.definitions
    hooks := b.hooks }

end Builder

/-! ## Lookup -/

/-- The sets of the patterns of each kind. -/
structure PatternSets (m : Regex.SetMatcher) where
  /-- The patterns of the steps. -/
  steps : m.Prepared
  /-- Those of the transforms of captures. -/
  transforms : m.Prepared
  /-- Those of the transforms of tables. -/
  tableTransforms : m.Prepared

/-- A registry with the sets of its patterns. -/
structure Indexed (m : Regex.SetMatcher) (W σ ν : Type) where
  /-- The registry. -/
  registry : Registry W σ ν
  /-- The sets. -/
  sets : PatternSets m

/-- Makes the set of the patterns of a kind. -/
def patternSet (m : Regex.SetMatcher) (kind : DefinitionKind) (patterns : List Pattern) :
    Except RegistrationError m.Prepared :=
  (m.prepare (patterns.map Pattern.regex)).mapError (.patternSet kind)

/-- Makes the sets of the patterns of a registry. -/
def patternSets (m : Regex.SetMatcher) (r : Registry W σ ν) :
    Except RegistrationError (PatternSets m) := do
  let steps ← patternSet m .step (r.steps.map StepDefinition.pattern)
  let transforms ← patternSet m .transform (r.transforms.map TransformDefinition.pattern)
  let tableTransforms ← patternSet m .tableTransform
    (r.tableTransforms.map TableTransformDefinition.pattern)
  return ⟨steps, transforms, tableTransforms⟩

/-- Builds the registry. -/
def Builder.build (m : Regex.SetMatcher) (b : Builder W σ ν) :
    Except RegistrationError (Indexed m W σ ν) :=
  (patternSets m b.registry).map fun sets => ⟨b.registry, sets⟩

/-- The definitions whose patterns match a text, by the places at which the set has these. -/
def select (m : Regex.SetMatcher) (set : m.Prepared) (definitions : List δ)
    (text : String) : List δ :=
  (m.places set text).filterMap fun place => definitions[place]?

namespace Indexed

variable {m : Regex.SetMatcher}

/-- The step definitions whose patterns match a text. -/
def matchingSteps (r : Indexed m W σ ν) (text : String) : List (StepDefinition W σ ν) :=
  select m r.sets.steps r.registry.steps text

/-- The transforms whose patterns match a capture. -/
def matchingTransforms (r : Indexed m W σ ν) (capture : String) :
    List (TransformDefinition W σ ν) :=
  select m r.sets.transforms r.registry.transforms capture

/-- The transforms whose patterns match the signature of a table. -/
def matchingTableTransforms (r : Indexed m W σ ν) (signature : String) :
    List (TableTransformDefinition W σ ν) :=
  select m r.sets.tableTransforms r.registry.tableTransforms signature

/-- The step definitions that are for a text. A single one is matched once more,
for what it captures. -/
def matchStep (r : Indexed m W σ ν) (text : String) : Resolution W σ ν :=
  let candidates := r.matchingSteps text
  if 1 < candidates.length then .ambiguous candidates
  else match candidates.getLast? with
    | none => .noMatch
    | some d => match d.pattern.captures text with
      | some captures => .unique d captures
      | none => .noMatch

end Indexed

end Registry

end Rehearsal
