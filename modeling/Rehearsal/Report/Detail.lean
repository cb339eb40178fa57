import Rehearsal.Hook

/-!
# Why a step did not succeed

What can go wrong with the arguments of a step and with the steps that it asks for, as chains of
messages, and the form in which a report keeps it.
-/

namespace Rehearsal

/-- Why the arguments of a step could not be transformed. -/
inductive TransformError
  /-- Several transforms are for one value. -/
  | ambiguous (value : String) (patterns : List String)
  /-- The transform failed. -/
  | failed (pattern value : String) (f : Failure)
  deriving DecidableEq, Repr

namespace TransformError

/-- The wording of an error. -/
def message : TransformError → String
  | .ambiguous value patterns =>
    "value '" ++ value ++ "' matches more than one transform: " ++ ", ".intercalate patterns
  | .failed pattern value _ => "transform '" ++ pattern ++ "' failed for value '" ++ value ++ "'"

/-- The messages of the causes. -/
def causes : TransformError → List String
  | .ambiguous _ _ => []
  | .failed _ _ f => f.chain

/-- The failure at the root, rendered. -/
def details? : TransformError → Option String
  | .ambiguous _ _ => none
  | .failed _ _ f => some f.rendered

end TransformError

/-- Why a chained step, with the given text, did not succeed. -/
inductive ChainError
  /-- No definition is for it. -/
  | undefined (text : String)
  /-- Several definitions are for it. -/
  | ambiguous (text : String) (patterns : List String)
  /-- It is still to be written. -/
  | pending (text : String) (message : Option String)
  /-- Its arguments could not be transformed. -/
  | transform (text : String) (e : TransformError)
  /-- Its code failed. -/
  | failed (text : String) (f : Failure)
  /-- A step that it asked for did not succeed. -/
  | nested (text : String) (e : ChainError)
  deriving DecidableEq, Repr, Inhabited

namespace ChainError

/-- The wording of an error. -/
def message (e : ChainError) : String :=
  match e with
  | .undefined text => say text "is undefined"
  | .ambiguous text patterns => say text ("is ambiguous between: " ++ ", ".intercalate patterns)
  | .pending text message => say text ("is pending" ++ pendingSuffix message)
  | .transform text _ => say text "could not transform its arguments"
  | .failed text _ => say text "failed"
  | .nested text _ => say text "failed in a nested chain"
where
  /-- The sentence about the step with the given text. -/
  say (text verb : String) : String := "chained step '" ++ text ++ "' " ++ verb

/-- The messages of the causes. -/
def causes : ChainError → List String
  | .undefined _ | .ambiguous _ _ | .pending _ _ => []
  | .transform _ e => e.message :: e.causes
  | .failed _ f => f.chain
  | .nested _ e => e.message :: e.causes

/-- The failure at the root, rendered. -/
def details? : ChainError → Option String
  | .undefined _ | .ambiguous _ _ | .pending _ _ => none
  | .transform _ e => e.details?
  | .failed _ f => some f.rendered
  | .nested _ e => e.details?

end ChainError

/-- Why a step did not succeed, as reports keep it. -/
inductive ErrorDetail
  /-- It is still to be written. -/
  | pending (message : Option String)
  /-- Several definitions are for it. -/
  | ambiguous (patterns : List String)
  /-- It failed. -/
  | failed (message : String) (causes : List String) (details : Option String)
  /-- A hook around it failed. -/
  | hook (scope : HookScope) (message : String)
  deriving DecidableEq, Repr

namespace ErrorDetail

/-- The detail of a failure of the step's own code. -/
def ofFailure (f : Failure) : ErrorDetail := .failed f.message f.causes (some f.rendered)

/-- The detail of arguments that could not be transformed. -/
def ofTransformError (e : TransformError) : ErrorDetail := .failed e.message e.causes e.details?

/-- The detail of a chain that did not succeed. -/
def ofChainError (e : ChainError) : ErrorDetail := .failed e.message e.causes e.details?

/-- The detail in one line. -/
def summary : ErrorDetail → String
  | .pending message => "pending" ++ pendingSuffix message
  | .ambiguous patterns => "ambiguous: " ++ ", ".intercalate patterns
  | .failed message _ _ => message
  | .hook scope message => scope.display ++ " hook failed: " ++ message

end ErrorDetail

end Rehearsal
