import Rehearsal.Run.Transform

/-!
# Execution of steps

A step is looked up, its arguments are transformed, and its code is called on the world. The code
may ask for further steps; these are run on the same world, one after the other, until one does not
succeed, and any that does not succeed makes the step that asked for it fail. Steps that ask for
steps are followed down to the chain limit of the registry. Nothing is said of what is below it: a
chain that reaches the limit is cut off, which is none of the errors of chains.
-/

namespace Rehearsal

/-- Why a chain of steps is not run to its end. -/
inductive ChainStop
  /-- One of its steps does not succeed. -/
  | broken (e : ChainError)
  /-- Its steps are nested down to the limit. This stands for a chain that does not end. -/
  | cutOff
  deriving DecidableEq, Repr, Inhabited

namespace ChainStop

/-- What it is for the step, with the given text, that asked for the chain. -/
def nested (text : String) : ChainStop → ChainStop
  | .broken e => .broken (.nested text e)
  | .cutOff => .cutOff

/-- How a report keeps it. It has nothing to tell of a chain that does not end. -/
def detail : ChainStop → ErrorDetail
  | .broken e => .ofChainError e
  | .cutOff => .failed "" [] none

end ChainStop

namespace Registry

variable {W σ ν : Type}

/-- Why the code of a step gave nothing. -/
inductive CallError
  /-- It was not called, for its arguments could not be transformed. -/
  | transform (e : TransformError)
  /-- It failed. -/
  | failure (f : Failure)

/-- Calls the code of a step with the transformed arguments. -/
def callStep (r : Registry W σ ν) (definition : StepDefinition W σ ν) (captures : List String)
    (below : Option StepArgument) : Journaled (W × σ) (Entry ν) (Except CallError StepReturn) := do
  match ← r.transformArguments captures below with
  | .error e => return .error (.transform e)
  | .ok arguments =>
    let result ← calling (.step definition.pattern.source) (definition.code arguments)
    return result.mapError .failure

/-- Runs steps by `run`, up to the first that does not succeed. -/
def runEach (run : Step → Journaled (W × σ) (Entry ν) (Except ChainStop Unit)) :
    List Step → Journaled (W × σ) (Entry ν) (Except ChainStop Unit)
  | [] => pure (.ok ())
  | step :: rest => do
    match ← run step with
    | .error e => return .error e
    | .ok () => runEach run rest

/-- Runs a step that another one asked for. Chains below it are followed down to `depth`. -/
def runChained (r : Registry W σ ν) :
    (depth : Nat) → Step → Journaled (W × σ) (Entry ν) (Except ChainStop Unit)
  | 0, _ => pure (.error .cutOff)
  | depth + 1, step =>
    match r.resolve step.text with
    | .noMatch => pure (.error (.broken (.undefined step.text)))
    | .ambiguous ds =>
      pure (.error (.broken (.ambiguous step.text (ds.map fun d => d.pattern.source))))
    | .unique definition captures => do
      match ← r.callStep definition captures step.argument with
      | .error (.transform e) => return .error (.broken (.transform step.text e))
      | .error (.failure f) =>
        match f.pending with
        | some p => return .error (.broken (.pending step.text p.message))
        | none => return .error (.broken (.failed step.text f))
      | .ok .completed => return .ok ()
      | .ok (.chained steps) =>
        let result ← runEach (r.runChained depth) steps
        return result.mapError (.nested step.text)

/-- Runs the steps that a step asked for. -/
def runChain (r : Registry W σ ν) (steps : List Step) :
    Journaled (W × σ) (Entry ν) (Except ChainStop Unit) :=
  runEach (r.runChained r.chainLimit) steps

/-- How a step with a definition ends, and why if it does not succeed. -/
def invoke (r : Registry W σ ν) (definition : StepDefinition W σ ν) (captures : List String)
    (below : Option StepArgument) : Journaled (W × σ) (Entry ν) (Outcome × Option ErrorDetail) := do
  match ← r.callStep definition captures below with
  | .error (.transform e) => return (.failed, some (.ofTransformError e))
  | .error (.failure f) =>
    match f.pending with
    | some p => return (.pending, some (.pending p.message))
    | none => return (.failed, some (.ofFailure f))
  | .ok .completed => return (.successful, none)
  | .ok (.chained steps) =>
    match ← r.runChain steps with
    | .ok () => return (.successful, none)
    | .error e => return (.failed, some e.detail)

/-- The record of a step that is only looked up. With exactly one definition
it counts as skipped. -/
def preview (r : Registry W σ ν) (step : Step) : StepReport :=
  match r.resolve step.text with
  | .noMatch => { StepReport.skipped step with outcome := .undefined }
  | .ambiguous ds =>
    { StepReport.skipped step with
      outcome := .ambiguous
      error := some (.ambiguous (ds.map fun d => d.pattern.source)) }
  | .unique definition captures =>
    { StepReport.skipped step with
      pattern := some definition.pattern.source
      arguments := captures }

/-- Runs a step on the world. Whatever its code does becomes part of the record. -/
def execute (r : Registry W σ ν) (step : Step) : Journaled (W × σ) (Entry ν) StepReport :=
  match r.resolve step.text with
  | .unique definition captures => do
    let (outcome, error) ← r.invoke definition captures step.argument
    return {
      keyword := step.keyword, text := step.text, outcome, error, arguments := captures
      pattern := some definition.pattern.source }
  | _ => pure (r.preview step)

end Registry

end Rehearsal
