import Rehearsal.Run.Journal

/-!
# Transformation of arguments

Between the match of a step and the call of its code each capture, and then the table below the
step, is given to the one transform that is for it. What no transform is for stays as it is; what
several are for is an error, as is a transform that fails. The first error ends the transformation.
-/

namespace Rehearsal.Registry

variable {W σ ν : Type}

/-- What a transform is called with for a capture: what its pattern captures, or the whole capture
if the pattern has no groups. -/
def transformInput (p : Pattern) (capture : String) : List String :=
  match p.captures capture with
  | some (group :: groups) => group :: groups
  | _ => [capture]

/-- The argument for one capture. -/
def transformCapture (r : Registry W σ ν) (capture : String) :
    Journaled (W × σ) (Entry ν) (Except TransformError Argument) :=
  match r.matchingTransforms capture with
  | [] => pure (.ok (.captured capture))
  | [t] => do
    let input := transformInput t.pattern capture
    match ← calling (.transform t.pattern.source input) (t.code input) with
    | .ok value => return .ok (.transformed capture value)
    | .error f => return .error (.failed t.pattern.source capture f)
  | ts => pure (.error (.ambiguous capture (ts.map fun t => t.pattern.source)))

/-- The arguments for captures, from left to right. -/
def transformCaptures (r : Registry W σ ν) :
    List String → Journaled (W × σ) (Entry ν) (Except TransformError (List Argument))
  | [] => pure (.ok [])
  | capture :: rest => do
    match ← r.transformCapture capture with
    | .error e => return .error e
    | .ok argument =>
      match ← r.transformCaptures rest with
      | .error e => return .error e
      | .ok arguments => return .ok (argument :: arguments)

/-- The argument for the table below a step. -/
def transformTable (r : Registry W σ ν) (table : Table) :
    Journaled (W × σ) (Entry ν) (Except TransformError Argument) :=
  let signature := table.signature
  match r.matchingTableTransforms signature with
  | [] => pure (.ok (.table table))
  | [t] => do
    match ← calling (.tableTransform t.pattern.source signature) (t.code table) with
    | .ok value => return .ok (.transformed signature value)
    | .error f => return .error (.failed t.pattern.source signature f)
  | ts => pure (.error (.ambiguous signature (ts.map fun t => t.pattern.source)))

/-- The arguments for what is below a step. -/
def transformBelow (r : Registry W σ ν) :
    Option StepArgument → Journaled (W × σ) (Entry ν) (Except TransformError (List Argument))
  | none => pure (.ok [])
  | some (.text text) => pure (.ok [.text text])
  | some (.table table) => do
    let argument ← r.transformTable table
    return argument.map fun a => [a]

/-- The arguments that the code of a step is called with. -/
def transformArguments (r : Registry W σ ν) (captures : List String) (below : Option StepArgument) :
    Journaled (W × σ) (Entry ν) (Except TransformError Arguments) := do
  match ← r.transformCaptures captures with
  | .error e => return .error e
  | .ok front =>
    match ← r.transformBelow below with
    | .error e => return .error e
    | .ok back => return .ok ⟨front ++ back⟩

end Rehearsal.Registry
