import Rehearsal.Report.Outcome

/-!
# Counts of outcomes

One counter per outcome. Counters have 64 bits and stay at the greatest number when they reach it,
so a sum of counters does not depend on the order in which it is taken.
-/

namespace Rehearsal

/-- A counter. -/
structure Tally where
  /-- What has been counted, or the greatest number if that is less. -/
  value : Nat
  /-- The value is a number of 64 bits. -/
  value_lt : value < UInt64.size := by decide
  deriving DecidableEq

namespace Tally

/-- The greatest number that a counter holds. -/
def limit : Nat := UInt64.size - 1

/-- The counter that holds `n`, or the greatest number if that is less. -/
def ofNat (n : Nat) : Tally :=
  ⟨min limit n, Nat.lt_of_le_of_lt (Nat.min_le_left limit n) (by decide)⟩

instance : Inhabited Tally := ⟨ofNat 0⟩

/-- The counter for what two counters have counted. -/
def add (a b : Tally) : Tally := ofNat (a.value + b.value)

instance : Add Tally := ⟨add⟩

/-- Counts one more. -/
def next (a : Tally) : Tally := ofNat (a.value + 1)

end Tally

/-- One counter per outcome. -/
structure OutcomeCounts where
  /-- Successful steps. -/
  successful : Tally := .ofNat 0
  /-- Failed steps. -/
  failed : Tally := .ofNat 0
  /-- Pending steps. -/
  pending : Tally := .ofNat 0
  /-- Undefined steps. -/
  undefined : Tally := .ofNat 0
  /-- Ambiguous steps. -/
  ambiguous : Tally := .ofNat 0
  /-- Skipped steps. -/
  skipped : Tally := .ofNat 0
  deriving DecidableEq, Inhabited

namespace OutcomeCounts

/-- The counts given by outcome. -/
def ofFn (f : Outcome → Tally) : OutcomeCounts :=
  ⟨f .successful, f .failed, f .pending, f .undefined, f .ambiguous, f .skipped⟩

/-- The counter of an outcome. -/
def get (c : OutcomeCounts) : Outcome → Tally
  | .successful => c.successful
  | .failed => c.failed
  | .pending => c.pending
  | .undefined => c.undefined
  | .ambiguous => c.ambiguous
  | .skipped => c.skipped

/-- The counter of an outcome is the one given for it. -/
@[simp] theorem get_ofFn (f : Outcome → Tally) (o : Outcome) : (ofFn f).get o = f o := by
  cases o <;> rfl

/-- Counts one step with the outcome `o`. -/
def record (c : OutcomeCounts) (o : Outcome) : OutcomeCounts :=
  ofFn fun p => if p = o then (c.get p).next else c.get p

/-- The counts of a list of outcomes. -/
def ofList (outcomes : List Outcome) : OutcomeCounts := outcomes.foldl record {}

/-- The counts of what two counts have counted. -/
def merge (c d : OutcomeCounts) : OutcomeCounts := ofFn fun o => c.get o + d.get o

/-- The number of steps counted. -/
def total (c : OutcomeCounts) : Tally := (Outcome.all.map c.get).foldl (· + ·) (.ofNat 0)

/-- Whether something fatal has been counted. -/
def hasFatal (c : OutcomeCounts) (strict : Bool) : Bool :=
  0 < c.failed.value || 0 < c.ambiguous.value ||
    (strict && (0 < c.undefined.value || 0 < c.pending.value))

end OutcomeCounts

end Rehearsal
