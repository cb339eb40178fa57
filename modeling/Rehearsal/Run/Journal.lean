import Rehearsal.Registry
import Rehearsal.Report.Event

/-!
# Journals of runs

What a run writes down as it goes on: which code it called, what that code noted, whether it
failed, and what each observer was told. Observers live in the surroundings of the test
suite and may change them.
-/

namespace Rehearsal

/-- A call of code. -/
inductive Call
  /-- The world of a scenario is made. -/
  | world
  /-- The code of the step with the given pattern is called. -/
  | step (pattern : String)
  /-- The transform with the given pattern is called for what its pattern captured. -/
  | transform (pattern : String) (captures : List String)
  /-- The transform with the given pattern is called for a table with the given signature. -/
  | tableTransform (pattern signature : String)
  /-- The hook at the given place in the registry is called. -/
  | hook (index : Nat) (context : HookContext)
  deriving DecidableEq

/-- An entry of the journal of a run. -/
inductive Entry (ν : Type)
  /-- Code was called. -/
  | called (call : Call)
  /-- Code noted something. -/
  | noted (note : ν)
  /-- Code that was called failed. -/
  | failed (call : Call) (f : Failure)
  /-- The observer at the given place was told of an event. -/
  | observed (observer : Nat) (event : RunEvent)

/-- Someone who is told of the events of a run. -/
structure Observer (σ : Type) where
  /-- What it does to the surroundings when it is told of an event. -/
  notify : RunEvent → σ → σ := fun _ surroundings => surroundings
  /-- The events that it does not survive being told of. -/
  crashesOn : RunEvent → Bool := fun _ => false

variable {σ ν : Type}

/-- Calls code under guard: panics become failures. The call comes before what the code notes, and
a failure after it. -/
def calling {α : Type} (call : Call) (code : Journaled σ ν (Verdict α)) :
    Journaled σ (Entry ν) (Except Failure α) := do
  .write (.called call)
  let verdict ← code.mapEntries .noted
  match verdict.guarded with
  | .ok value => return .ok value
  | .error f =>
    .write (.failed call f)
    return .error f

end Rehearsal
