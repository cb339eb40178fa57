import Rehearsal.Run.Feature
import Rehearsal.Run.Window

/-!
# Concurrent runs

Features can be run by workers, several at once, between the hooks around the run. The record
keeps the order of the features. A worker is lost when it panics, as when an observer does not
survive an event of its feature; then the run ends, after all workers did, with an error that
names the first such feature.

Each worker has the surroundings to itself as they are when the first one starts, and what workers
do to them is not seen by others.
-/

namespace Rehearsal

/-- Why a concurrent run gave no record. -/
inductive RunError
  /-- The worker of a feature was lost. -/
  | workerFailed (feature reason : String)
  deriving DecidableEq, Repr

/-- The wording of an error. -/
def RunError.message : RunError → String
  | .workerFailed feature reason =>
    "worker running feature '" ++ feature ++ "' did not complete: " ++ reason

variable {W σ ν : Type}

namespace Runner

/-- Whether an observer does not survive what the entry tells it. -/
def crashes (r : Runner W σ ν) : Entry ν → Bool
  | .observed index event =>
    match r.observers[index]? with
    | some observer => observer.crashesOn event
    | none => false
  | _ => false

/-- Which workers are lost: for a worker, by its number and the entries that it is to write, after
how many of them it is lost, if it is. -/
abbrev Losses (ν : Type) := Nat → List (Entry ν) → Option Nat

/-- The losses by observers that crash. A worker writes the entry on which one does, and no more. -/
def crashLosses (r : Runner W σ ν) : Losses ν := fun _ entries =>
  (entries.findIdx? r.crashes).map (· + 1)

/-- What the worker of a feature ends with: the record of the feature, if a scenario of it is
selected, or that it is lost. -/
abbrev WorkerResult := Except RunError (Option FeatureReport)

/-- The worker of a feature. -/
def workerFor (r : Runner W σ ν) (lostAfter : List (Entry ν) → Option Nat) (blocked : Bool)
    (surroundings : σ) (feature : Feature) : Worker (Entry ν) WorkerResult :=
  let (report, _, entries) := (r.featureReport feature blocked).run surroundings
  match lostAfter entries with
  | some n => ⟨entries.take n, .error (.workerFailed feature.name "panicked")⟩
  | none => ⟨entries, .ok report⟩

/-- The workers of features, in order. -/
def workersFor (r : Runner W σ ν) (losses : Losses ν) (blocked : Bool) (surroundings : σ)
    (features : List Feature) : List (Worker (Entry ν) WorkerResult) :=
  features.mapIdx fun number feature => r.workerFor (losses number) blocked surroundings feature

/-- Writes entries in order. -/
def writeEach : List (Entry ν) → Journaled σ (Entry ν) Unit
  | [] => pure ()
  | entry :: rest => do
    .write entry
    writeEach rest

/-- Ends a concurrent run with the results of its workers: with the first loss, or with the hooks
after the run and the record. -/
def conclude (r : Runner W σ ν) (before : List HookFailure) (results : List WorkerResult) :
    Journaled σ (Entry ν) (Except RunError SuiteReport) :=
  match results.mapM id with
  | .error e => pure (.error e)
  | .ok reports => .ok <$> r.finishSuite (reports.filterMap id) before

/-- Runs features by workers that take turns as the schedule says; nothing if the schedule does not
take all workers through. -/
def runScheduled (r : Runner W σ ν) (losses : Losses ν) (schedule : List Move)
    (features : List Feature) :
    Journaled σ (Entry ν) (Option (Except RunError SuiteReport)) := do
  let before ← r.startSuite features.length
  let surroundings ← .state
  match Window.arrange? r.workers
    (r.workersFor losses (!before.isEmpty) surroundings features) schedule with
  | none => return none
  | some (results, entries) =>
    writeEach (entries.map Prod.snd)
    some <$> r.conclude before results

/-- Runs features by workers, the entries of each of which stay together. -/
def runConcurrent (r : Runner W σ ν) (features : List Feature) :
    Journaled σ (Entry ν) (Except RunError SuiteReport) := do
  let before ← r.startSuite features.length
  let surroundings ← .state
  let workers := r.workersFor r.crashLosses (!before.isEmpty) surroundings features
  writeEach (workers.flatMap Worker.entries)
  r.conclude before (workers.map Worker.result)

end Runner

end Rehearsal
