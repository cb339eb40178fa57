/-!
# Outcomes of steps

How a step ended, and what that means for its scenario and for the run.
-/

namespace Rehearsal

/-- How a step ended. -/
inductive Outcome
  /-- Its code returned. -/
  | successful
  /-- Its code, a step that it asked for, a transform or a hook failed. -/
  | failed
  /-- It signalled that it is still to be written. -/
  | pending
  /-- No definition is for it. -/
  | undefined
  /-- Several definitions are for it. -/
  | ambiguous
  /-- It was not attempted. -/
  | skipped
  deriving DecidableEq, Repr, Inhabited

namespace Outcome

/-- All outcomes. -/
def all : List Outcome := [.successful, .failed, .pending, .undefined, .ambiguous, .skipped]

/-- The outcome in a word. -/
def name : Outcome → String
  | .successful => "successful"
  | .failed => "failed"
  | .pending => "pending"
  | .undefined => "undefined"
  | .ambiguous => "ambiguous"
  | .skipped => "skipped"

/-- The outcome of the given name. -/
def named? (name : String) : Option Outcome := all.find? fun o => o.name == name

/-- Whether the outcome makes a run fail. What is undefined or pending does so
in strict runs only. -/
def isFatal (strict : Bool) : Outcome → Bool
  | .failed | .ambiguous => true
  | .undefined | .pending => strict
  | .successful | .skipped => false

/-- Whether the steps that follow in the scenario are skipped. -/
def entersFailureMode : Outcome → Bool
  | .failed | .pending | .undefined | .ambiguous => true
  | .successful | .skipped => false

/-- A step that is attempted leads into failure mode unless it succeeds. -/
theorem entersFailureMode_of_ne_skipped {o : Outcome} (h : o ≠ .skipped) :
    o.entersFailureMode = !(o == .successful) := by
  cases o <;> first | rfl | exact absurd rfl h

end Outcome

end Rehearsal
