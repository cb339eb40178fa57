import Rehearsal.Run.Journal

/-!
# Firing of hooks

At each boundary the hooks of its scope run whose filters accept the tags there. Those before the
boundary stop at the first failure; those after it all run.
-/

namespace Rehearsal.Registry

variable {W σ ν : Type}

/-- The hooks that run at a boundary, with their places in the registry. -/
def firingHooks (r : Registry W σ ν) (context : HookContext) : List (HookDefinition W σ ν × Nat) :=
  r.hooks.zipIdx.filter fun (h, _) => h.scope == context.scope && h.appliesTo context.tags

/-- Runs hooks and collects their failures. -/
def fireEach (context : HookContext) :
    List (HookDefinition W σ ν × Nat) → Journaled (Option W × σ) (Entry ν) (List HookFailure)
  | [] => pure []
  | (h, index) :: rest => do
    match ← calling (.hook index context) (h.code context) with
    | .ok () => fireEach context rest
    | .error f =>
      let failure := HookFailure.ofFailure context.scope f
      if context.scope.isBefore then return [failure]
      else return failure :: (← fireEach context rest)

/-- Runs the hooks of a boundary where there is no world. -/
def fire (r : Registry W σ ν) (context : HookContext) : Journaled σ (Entry ν) (List HookFailure) :=
  (fireEach context (r.firingHooks context)).through (fun surroundings => (none, surroundings))
    (fun _ after => after.2)

/-- Runs the hooks of a boundary on a world. -/
def fireOnWorld (r : Registry W σ ν) (context : HookContext) :
    Journaled (W × σ) (Entry ν) (List HookFailure) :=
  (fireEach context (r.firingHooks context)).through
  (fun (world, surroundings) => (some world, surroundings))
    (fun (world, _) (world', surroundings) => (world'.getD world, surroundings))

end Rehearsal.Registry
