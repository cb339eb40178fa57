/-!
# Failures

What the code of a test suite can end with. A failure is a chain of messages from the outermost
context to the root cause, and it may carry the signal that a step is still to be written. Code can
also panic; at the boundary to the engine a panic becomes a failure like any other.
-/

namespace Rehearsal

/-- What is appended to say that something is pending: the message, if there is one. -/
def pendingSuffix : Option String → String
  | none => ""
  | some message => ": " ++ message

/-- The signal of a step that is still to be written. -/
structure Pending where
  /-- What is to be done. -/
  message : Option String
  deriving DecidableEq, Repr

/-- The wording of the signal. -/
def Pending.text (p : Pending) : String := "step is pending" ++ pendingSuffix p.message

/-- Why code failed. -/
structure Failure where
  /-- The outermost message. -/
  message : String
  /-- The messages of its causes, the root cause last. -/
  causes : List String := []
  /-- The signal that the failure carries. -/
  pending : Option Pending := none
  deriving DecidableEq, Repr, Inhabited

namespace Failure

/-- All messages, from the outermost to the root cause. -/
def chain (f : Failure) : List String := f.message :: f.causes

/-- The failure of which `messages` is the chain, without signal. -/
def ofMessages : List String → Failure
  | [] => { message := "" }
  | message :: causes => { message, causes }

/-- The signal itself as a failure. -/
def ofPending (p : Pending) : Failure := { message := p.text, pending := some p }

/-- The failure in a context, which is the new outermost message. A signal stays with it. -/
def wrap (context : String) (f : Failure) : Failure :=
  { message := context, causes := f.chain, pending := f.pending }

/-- The failure under a message of its own, of which it is only a cause: a
signal is not carried on. -/
def hide (message : String) (f : Failure) : Failure := { message, causes := f.chain }

/-- The whole chain in one line. -/
def rendered (f : Failure) : String := "report[" ++ " <- ".intercalate f.chain ++ "]"

/-- What a panic becomes. A panic may come without a text. -/
def ofPanic (payload : Option String) : Failure :=
  { message := "panicked: " ++ payload.getD "non-string panic payload" }

end Failure

/-- How code ended. -/
inductive Verdict (α : Type)
  /-- It gave a value. -/
  | done (value : α)
  /-- It failed. -/
  | failed (f : Failure)
  /-- It panicked. -/
  | panicked (payload : Option String)

/-- The value or the failure of code that is guarded against panics. -/
def Verdict.guarded : Verdict α → Except Failure α
  | .done value => .ok value
  | .failed f => .error f
  | .panicked payload => .error (.ofPanic payload)

end Rehearsal
