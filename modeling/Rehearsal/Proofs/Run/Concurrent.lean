import Rehearsal.Proofs.Except
import Rehearsal.Proofs.Run.Lifecycle
import Rehearsal.Proofs.Run.SelfContained
import Rehearsal.Proofs.Run.SuiteBoundary
import Rehearsal.Proofs.Run.Window
import Rehearsal.Run.Concurrent

/-!
# Concurrent runs

A run by workers next to a run of one feature after the other. Under every schedule the journal
consists of the start of the run, the entries of the workers in the order of the schedule and, if no
worker is lost, the end of the run. For self-contained test suites all of this is what the
sequential run does, but for the order in which entries of different features come.
-/

namespace Rehearsal.Runner

open Journaled

variable {W σ ν : Type}

/-! ## Workers -/

/-- The workers of a run that starts from the given surroundings. -/
def workersOf (r : Runner W σ ν) (losses : Losses ν) (features : List Feature) (s : σ) :
    List (Worker (Entry ν) WorkerResult) :=
  let opening := r.startSuite features.length s
  r.workersFor losses (!opening.1.isEmpty) opening.2.1 features

/-- Writing entries writes them and changes nothing. -/
theorem writeEach_apply (entries : List (Entry ν)) (s : σ) :
    writeEach entries s = ((), s, entries) := by
  induction entries with
  | nil => rfl
  | cons entry rest ih =>
    rw [writeEach, bind_apply, write_apply, ih]
    rfl

/-- What a run comes to under a schedule that takes all workers through. -/
theorem runScheduled_apply {r : Runner W σ ν} {losses : Losses ν} {schedule : List Move}
    {features : List Feature} {s : σ} {results : List WorkerResult} {log : List (Nat × Entry ν)}
    (h : Window.arrange? r.workers (r.workersOf losses features s) schedule = some (results, log)) :
    let opening := r.startSuite features.length s
    let closing := r.conclude opening.1 results opening.2.1
    r.runScheduled losses schedule features s =
      (some closing.1, closing.2.1, opening.2.2 ++ (log.map Prod.snd ++ closing.2.2)) := by
  intro opening closing
  rw [runScheduled, bind_apply, bind_apply, state_apply]
  unfold workersOf at h
  dsimp only at h ⊢
  rw [h]
  dsimp only
  rw [bind_apply, writeEach_apply, map_apply]
  rfl

/-- What a sequential run comes to. -/
theorem run_eq (r : Runner W σ ν) (features : List Feature) (s : σ) :
    let opening := r.startSuite features.length s
    let middle := forEach (fun feature => r.featureReport feature (!opening.1.isEmpty))
      features opening.2.1
    let closing := r.finishSuite (middle.1.filterMap id) opening.1 middle.2.1
    r.run features s = (closing.1, closing.2.1, opening.2.2 ++ (middle.2.2 ++ closing.2.2)) := by
  intro opening middle closing
  rw [run, bind_apply, bind_apply]

/-- A run whose workers go through one after the other is one whose entries stay
together by worker. -/
theorem runScheduled_inTurn (r : Runner W σ ν) (features : List Feature) (s : σ) :
    (r.runScheduled r.crashLosses (Window.inTurn (r.workersOf r.crashLosses features s))
      features).run s =
      (some <$> r.runConcurrent features).run s := by
  rw [Journaled.run_apply, Journaled.run_apply,
    runScheduled_apply (Window.arrange?_inTurn r.workers_pos _), map_apply, runConcurrent,
      bind_apply, bind_apply, state_apply, bind_apply, writeEach_apply, Window.map_snd_numbered]
  rfl

/-! ## Runs without losses -/

/-- No observer crashes, whatever it is told. -/
def Calm (r : Runner W σ ν) : Prop :=
  ∀ observer ∈ r.observers, ∀ event, observer.crashesOn event = false

/-- Where no observer crashes no worker is lost. -/
theorem Calm.crashLosses {r : Runner W σ ν} (h : r.Calm) (number : Nat) (entries : List (Entry ν)) :
    r.crashLosses number entries = none := by
  rw [Runner.crashLosses, Option.map_eq_none_iff, List.findIdx?_eq_none_iff]
  intro entry _
  unfold crashes
  split
  · split
    · next observer hobserver => exact h observer (List.mem_of_getElem? hobserver) _
    · rfl
  · rfl

/-- A worker that is not lost writes what its feature writes and ends with its record. -/
theorem workersFor_of_calm {r : Runner W σ ν} (h : r.Calm) (blocked : Bool) (s : σ)
    (features : List Feature) :
    r.workersFor r.crashLosses blocked s features = features.map fun feature =>
      ⟨(r.featureReport feature blocked s).2.2, .ok (r.featureReport feature blocked s).1⟩ := by
  refine List.ext_getElem (by simp [workersFor]) fun number _ _ => ?_
  simp [workersFor, workerFor, h.crashLosses]

/-- A run without losses ends like a sequential one. -/
theorem conclude_ok (r : Runner W σ ν) (before : List HookFailure)
    (reports : List (Option FeatureReport)) :
    r.conclude before (reports.map .ok) = .ok <$> r.finishSuite (reports.filterMap id) before := by
  rw [conclude, mapM_id_ok]

/-! ## Refinement -/

/-- The entries that the sequential run writes for each feature, in the order of the features. -/
def featurePieces (r : Runner W σ ν) (features : List Feature) (s : σ) : List (List (Entry ν)) :=
  let opening := r.startSuite features.length s
  pieces (fun feature => r.featureReport feature (!opening.1.isEmpty)) features opening.2.1

/-- A run by workers next to the sequential run: `log` is what the workers write, with their
numbers, and `closing` what is written after that. -/
structure Refines (r : Runner W σ ν) (features : List Feature) (s : σ)
    (log : List (Nat × Entry ν)) (closing : List (Entry ν))
    (run : Option (Except RunError SuiteReport) × σ × List (Entry ν)) : Prop where
  /-- The run gives the record of the sequential run. -/
  report : run.1 = some (.ok ((r.run features).run s).1)
  /-- Its journal is that of the start, then what the workers write, then that of the end. -/
  entries : run.2.2 = (r.startSuite features.length s).2.2 ++ (log.map Prod.snd ++ closing)
  /-- In the sequential run the start and the end are the same. -/
  sequential : ((r.run features).run s).2.2 =
    (r.startSuite features.length s).2.2 ++ ((r.featurePieces features s).flatten ++ closing)
  /-- Each worker writes what the sequential run writes for its feature, in the same order. -/
  writtenBy : ∀ number, Window.writtenBy number log = (r.featurePieces features s)[number]?.getD []
  /-- It makes no difference in which surroundings a worker finds itself. -/
  anywhere : ∀ number feature, features[number]? = some feature → ∀ s',
    Window.writtenBy number log =
      (r.featureReport feature (!(r.startSuite features.length s).1.isEmpty) s').2.2
  /-- All workers together write what the sequential run writes for all features. -/
  perm : List.Perm (log.map Prod.snd) (r.featurePieces features s).flatten
  /-- The run tells of the same events as the sequential run. -/
  events_perm : List.Perm (events run.2.2) (events ((r.run features).run s).2.2)
  /-- The first events are the start of the run and then the failures of the hooks before it. -/
  starts : ∃ failures, (∀ failure ∈ failures, failure.scope = .beforeSuite) ∧
    events (r.startSuite features.length s).2.2 =
      events (r.announced (.suiteStarted features.length) ++ r.announcedFailures failures)
  /-- No event of a worker is one of the whole run. -/
  inside : ∀ entry ∈ log.map Prod.snd, entry.Inside
  /-- The last events are the failures of the hooks after the run and then its end. -/
  ends : ∃ failures, (∀ failure ∈ failures, failure.scope = .afterSuite) ∧
    events closing = events (r.announcedFailures failures ++
      r.announced (.suiteFinished ((r.run features).run s).1.counts))

/-- Run one after the other, features write nothing of the whole run. -/
theorem featurePieces_inside (r : Runner W σ ν) (features : List Feature) (s : σ) :
    ∀ entry ∈ (r.featurePieces features s).flatten, entry.Inside := by
  unfold featurePieces
  dsimp only
  rw [← forEach_entries]
  exact Writes.forEach (fun feature _ => r.featureReport_inside feature _) _

/-- The entries for each feature of a self-contained test suite are those that
it writes anywhere. -/
theorem SelfContained.featurePieces_eq {r : Runner W σ ν} (hself : r.SelfContained)
    (features : List Feature) (s s' : σ) :
    r.featurePieces features s = features.map fun feature =>
      (r.featureReport feature (!(r.startSuite features.length s).1.isEmpty) s').2.2 :=
  Constant.pieces (fun feature => hself.featureReport feature _) features _ s'

/-- The workers of a self-contained test suite write what the sequential run
writes for the features. -/
theorem SelfContained.workersOf_eq {r : Runner W σ ν} (hself : r.SelfContained) (hcalm : r.Calm)
    (features : List Feature) (s : σ) :
    (r.workersOf r.crashLosses features s).map Worker.entries = r.featurePieces features s ∧
    (r.workersOf r.crashLosses features s).map Worker.result =
      (forEach (fun feature =>
        r.featureReport feature (!(r.startSuite features.length s).1.isEmpty)) features
        (r.startSuite features.length s).2.1).1.map .ok := by
  have hconstant := fun feature =>
    hself.featureReport feature (!(r.startSuite features.length s).1.isEmpty)
  rw [workersOf, hself.featurePieces_eq features s (r.startSuite features.length s).2.1,
    Constant.forEach_value hconstant features _ (r.startSuite features.length s).2.1]
  rw [workersFor_of_calm hcalm, List.map_map, List.map_map, List.map_map]
  exact ⟨rfl, rfl⟩

/-- Concurrent runs refine sequential runs. If the code of a test suite depends on its worlds only
and no observer crashes, then whatever the workers do in turns, as long as they may, ends after
finitely many moves; and whenever it has ended, the run gives the record of the sequential run and
tells of the same events: those of the start first, those of the end last, and those of each feature
in between in the order of the sequential run. One of these schedules is that of `runConcurrent`. -/
theorem runScheduled_refines_run (r : Runner W σ ν) (hself : r.SelfContained) (hcalm : r.Calm)
    (features : List Feature) (s : σ) :
    let workers := r.workersOf r.crashLosses features s
    (∀ schedule, Window.Allows r.workers workers schedule →
      schedule.length ≤ 2 * workers.length + (workers.flatMap Worker.entries).length ∧
      ∃ more, Window.Exhausts r.workers workers (schedule ++ more)) ∧
    (∀ schedule, Window.Exhausts r.workers workers schedule →
      ∃ log closing, r.Refines features s log closing
        ((r.runScheduled r.crashLosses schedule features).run s)) ∧
    Window.Exhausts r.workers workers (Window.inTurn workers) ∧
    (r.runScheduled r.crashLosses (Window.inTurn workers) features).run s =
      (some <$> r.runConcurrent features).run s := by
  intro workers
  refine ⟨fun schedule h => ⟨h.length_le, h.exists_exhausts r.workers_pos⟩,
    fun schedule hschedule => ?_,
    Window.inTurn_exhausts r.workers_pos workers, r.runScheduled_inTurn features s⟩
  obtain ⟨hpieces, hresults⟩ := hself.workersOf_eq hcalm features s
  obtain ⟨log, harrange, hwritten, hperm⟩ := hschedule.arrange? r.workers_pos
  rw [hpieces] at hwritten
  rw [List.flatMap_def, hpieces] at hperm
  rw [hresults] at harrange
  have hrun := runScheduled_apply harrange
  have hsequential := r.run_eq features s
  dsimp only at hsequential hrun
  rw [conclude_ok, map_apply] at hrun
  dsimp only at hrun
  rw [forEach_entries] at hsequential
  change _ = (_, _, _ ++ ((r.featurePieces features s).flatten ++ _)) at hsequential
  generalize forEach (fun feature =>
    r.featureReport feature (!(r.startSuite features.length s).1.isEmpty))
    features (r.startSuite features.length s).2.1 = middle at hrun hsequential
  -- The end of the run does not depend on what the features did to the surroundings.
  have hfinish := hself.finishSuite (middle.1.filterMap id) (r.startSuite features.length s).1
  have hvalue := hfinish.value (r.startSuite features.length s).2.1 middle.2.1
  have hentries := hfinish.entries (r.startSuite features.length s).2.1 middle.2.1
  obtain ⟨failures, -, hevents, hscope⟩ := r.finishSuite_events (middle.1.filterMap id)
    (r.startSuite features.length s).1 middle.2.1
  have hopening := r.startSuite_events features.length s
  have hinside : ∀ entry ∈ log.map Prod.snd, entry.Inside := fun entry hentry =>
    r.featurePieces_inside features s entry (hperm.symm.subset hentry)
  refine ⟨log, (r.finishSuite (middle.1.filterMap id) (r.startSuite features.length s).1
    middle.2.1).2.2, ?_⟩
  rw [Journaled.run_apply, hrun, hvalue, hentries]
  exact {
    report := by rw [Journaled.run_apply, hsequential]
    entries := rfl
    sequential := by rw [Journaled.run_apply, hsequential]
    writtenBy := hwritten
    anywhere := fun number feature hfeature s' => by
      rw [hwritten, hself.featurePieces_eq features s s', List.getElem?_map, hfeature]
      rfl
    perm := hperm.symm
    events_perm := by
      rw [Journaled.run_apply, hsequential]
      exact ((hperm.symm.append_right _).append_left _).filterMap _
    starts := ⟨_, hopening.2, hopening.1⟩
    inside := hinside
    ends := ⟨failures, hscope, by rw [hevents, Journaled.run_apply, hsequential]⟩ }

/-- An observer that never crashes is calm. -/
theorem hooked_calm : hooked.Calm := by
  intro observer hmem event
  obtain rfl := List.mem_singleton.1 hmem
  rfl

/-- Two features at once: however the run goes on after the second worker has overtaken the first
one, it comes to what the sequential run comes to. -/
theorem hooked_refines_run :
    hooked.SelfContained ∧ hooked.Calm ∧ ∃ more log closing,
      Window.Exhausts hooked.workers
        (hooked.workersOf hooked.crashLosses [shortFeature, shortFeature] ())
        ([.start, .start, .advance 1, .advance 1, .advance 0] ++ more) ∧
      hooked.Refines [shortFeature, shortFeature] () log closing
        ((hooked.runScheduled hooked.crashLosses
          ([.start, .start, .advance 1, .advance 1, .advance 0] ++ more)
          [shortFeature, shortFeature]).run ()) := by
  have h := hooked.runScheduled_refines_run hooked_selfContained hooked_calm
    [shortFeature, shortFeature] ()
  obtain ⟨-, more, hmore⟩ := h.1 [.start, .start, .advance 1, .advance 1, .advance 0] ⟨_, _, rfl⟩
  obtain ⟨log, closing, hrefines⟩ := h.2.1 _ hmore
  exact ⟨hooked_selfContained, hooked_calm, more, log, closing, hmore, hrefines⟩

end Rehearsal.Runner
