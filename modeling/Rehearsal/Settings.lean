import Rehearsal.Tag.Filter

/-!
# Settings of runs

How a run goes about a test suite, with the values that hold unless something else is asked for, and
the check that the values are usable.
-/

namespace Rehearsal

/-- How scenarios are executed. -/
structure ExecutionSettings where
  /-- Whether undefined and pending steps are fatal. -/
  strict : Bool := false
  /-- Whether steps are only looked up. -/
  dryRun : Bool := false
  /-- How many features may run at once. -/
  workers : Nat := 4
  deriving DecidableEq, Repr, Inhabited

/-- The settings of a run. -/
structure Settings where
  /-- The tag filter that selects scenarios, as written. -/
  tags : Option String := none
  /-- How scenarios are executed. -/
  execution : ExecutionSettings := {}
  deriving DecidableEq, Repr, Inhabited

/-- Why settings cannot be had, or cannot be used. -/
inductive SettingsError
  /-- The file that was asked for does not exist. -/
  | fileNotFound (path : String)
  /-- The file cannot be read. -/
  | unreadable (path : String)
  /-- The content of the file is no document. -/
  | malformed (path : String)
  /-- A value is not usable. -/
  | invalidValue (field reason : String)
  /-- The layers together do not make settings. -/
  | layers
  deriving DecidableEq, Repr

namespace SettingsError

/-- The wording of what is wrong with a file. -/
def fileMessage (reason : String) : String := "failed to parse configuration file: " ++ reason

/-- The wording of an error. What exactly is wrong with a file or with the layers is not worded. -/
def message : SettingsError → String
  | .fileNotFound path => "configuration file not found: " ++ path
  | .unreadable path => fileMessage ("failed to read " ++ path)
  | .malformed path => fileMessage ("failed to parse " ++ path)
  | .invalidValue field reason => "invalid configuration value for '" ++ field ++ "': " ++ reason
  | .layers => "configuration loading failed"

end SettingsError

namespace Settings

/-- Checks that the values are usable: first the tag filter, then the number of workers. -/
def validate (s : Settings) : Except SettingsError Unit := do
  if let some tags := s.tags then
    if let .error e := TagFilter.parse tags then
      throw (.invalidValue "tags" e.message)
  if s.execution.workers = 0 then
    throw (.invalidValue "execution.workers" "must be at least 1")

end Settings

end Rehearsal
