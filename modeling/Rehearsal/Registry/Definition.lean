import Rehearsal.Arguments
import Rehearsal.Hook
import Rehearsal.Journaled
import Rehearsal.Pattern
import Rehearsal.Tag.Filter

/-!
# Definitions

The code of a test suite and what it is bound to: steps and transforms to patterns, hooks to a
boundary and possibly to tags.

Code works on the world of a scenario, of type `W`, and on its surroundings, of type `σ`:
all that it can see and change outside the world. It may write notes, of type `ν`, into
the journal of the run.
-/

namespace Rehearsal

/-- What a step gives when it succeeds. -/
inductive StepReturn
  /-- The step is finished. -/
  | completed
  /-- The step is finished when the given steps are, in order. -/
  | chained (steps : List Step)
  deriving DecidableEq, Repr

/-- The code of a step. -/
abbrev StepCode (W σ ν : Type) := Arguments → Journaled (W × σ) ν (Verdict StepReturn)

/-- The code of a transform, called with the captures of its pattern. -/
abbrev TransformCode (W σ ν : Type) := List String → Journaled (W × σ) ν (Verdict Value)

/-- The code of a transform of tables. -/
abbrev TableTransformCode (W σ ν : Type) := Table → Journaled (W × σ) ν (Verdict Value)

/-- The code of a hook. There is a world where hooks run around scenarios and steps; a hook may
change it but not take it away. -/
abbrev HookCode (W σ ν : Type) := HookContext → Journaled (Option W × σ) ν (Verdict Unit)

/-- The code that makes the world of a scenario. -/
abbrev WorldCode (W σ ν : Type) := Journaled σ ν (Verdict W)

/-- The kinds of definitions that are bound to patterns. -/
inductive DefinitionKind
  | step | transform | tableTransform
  deriving DecidableEq, Repr

/-- The kind in messages. -/
def DefinitionKind.display : DefinitionKind → String
  | .step => "step"
  | .transform => "transform"
  | .tableTransform => "table transform"

variable {W σ ν : Type}

/-- A step definition. -/
structure StepDefinition (W σ ν : Type) where
  /-- The keyword that it is presented with, which does not matter for matching. -/
  keyword : Option Keyword
  /-- The pattern. -/
  pattern : Pattern
  /-- The code. -/
  code : StepCode W σ ν

/-- A transform of captures. -/
structure TransformDefinition (W σ ν : Type) where
  /-- The pattern. -/
  pattern : Pattern
  /-- The code. -/
  code : TransformCode W σ ν

/-- A transform of tables, by their signatures. -/
structure TableTransformDefinition (W σ ν : Type) where
  /-- The pattern. -/
  pattern : Pattern
  /-- The code. -/
  code : TableTransformCode W σ ν

/-- A hook. -/
structure HookDefinition (W σ ν : Type) where
  /-- The boundary at which it runs. -/
  scope : HookScope
  /-- The tags for which it runs; for all if there is no filter. -/
  filter : Option TagFilter
  /-- The code. -/
  code : HookCode W σ ν

/-- Whether the hook runs where there are the given tags. Hooks around the whole run always do. -/
def HookDefinition.appliesTo (h : HookDefinition W σ ν) (tags : TagSet) : Bool :=
  h.scope.isSuite || h.filter.all fun filter => filter.accepts tags

end Rehearsal
