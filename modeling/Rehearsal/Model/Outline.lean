import Rehearsal.Model.Step

/-!
# Scenario outlines

An outline stands for one scenario per row of its examples. A column name in angle brackets
is replaced by the cell of that column; all replacements are made at once, so what is
inserted is not looked at again.
-/

namespace Rehearsal

/-- A scenario with examples. -/
structure Outline where
  /-- The name. -/
  name : String
  /-- The tags. -/
  tags : TagSet := .empty
  /-- The steps, with column names in angle brackets. -/
  steps : List Step
  /-- The examples. -/
  examples : Table
  deriving DecidableEq, Inhabited

/-- The values of the columns of one row. -/
abbrev Bindings := List (String × String)

namespace Outline

/-- The text with the column names in brackets replaced. `pending` holds what was read since the
last opening bracket, in reverse, as long as that may still become a column name. -/
def substituteFrom (bindings : Bindings) : Option (List Char) → List Char → List Char
  | none, [] => []
  | some read, [] => '<' :: read.reverse
  | none, c :: rest =>
    if c = '<' then substituteFrom bindings (some []) rest
    else c :: substituteFrom bindings none rest
  | some read, c :: rest =>
    if c = '<' then ('<' :: read.reverse) ++ substituteFrom bindings (some []) rest
    else if c = '>' then
      match bindings.lookup (.ofList read.reverse) with
      | some value => value.toList ++ substituteFrom bindings none rest
      | none => ('<' :: read.reverse) ++ '>' :: substituteFrom bindings none rest
    else substituteFrom bindings (some (c :: read)) rest

/-- The template with each column name in brackets replaced by its value. Names that are not bound
stay as they are; of several values of one name the first counts. -/
def substitute (bindings : Bindings) (template : String) : String :=
  .ofList (substituteFrom bindings none template.toList)

/-- The argument of a step with its texts substituted, in a table those of the headers too. -/
def substituteArgument (bindings : Bindings) : StepArgument → StepArgument
  | .table t => .table (t.map (substitute bindings))
  | .text s => .text (substitute bindings s)

/-- The step with its text and argument substituted. -/
def substituteStep (bindings : Bindings) (step : Step) : Step :=
  { step with
    text := substitute bindings step.text
    argument := step.argument.map (substituteArgument bindings) }

/-- The scenario of one row of the examples, the `number`-th. -/
def instantiate (o : Outline) (number : Nat) (row : List String) : Scenario :=
  { name := o.name ++ " (example " ++ toString number ++ ")"
    tags := o.tags
    steps := o.steps.map (substituteStep (o.examples.headers.zip row)) }

/-- The scenarios that the outline stands for, one per row of the examples and counted from one. -/
def expand (o : Outline) : List Scenario :=
  o.examples.body.zipIdx.map fun (row, i) => o.instantiate (i + 1) row

end Outline

end Rehearsal
