import Rehearsal.Proofs.Run.Concurrent

/-!
# Lost workers

What becomes of the end of a run when workers are lost. A run that loses no worker is closed
after all workers are through: the hooks after it are called, each of them once, and the
observers are told that it has ended. A run that loses a worker is not closed at all. It ends
with an error that names the first feature whose worker is lost, and neither calls a hook after
the run nor tells anyone of its end.
-/

namespace Rehearsal.Runner

open Journaled

variable {W σ ν : Type} {r : Runner W σ ν} {losses : Losses ν}

/-- The features whose workers are lost, in order. -/
def lostFeatures (r : Runner W σ ν) (losses : Losses ν) (features : List Feature)
    (s : σ) : List Feature :=
  let opening := r.startSuite features.length s
  (features.zipIdx.filter fun numbered =>
    (losses numbered.2 (r.featureReport numbered.1 (!opening.1.isEmpty)
      opening.2.1).2.2).isSome).map Prod.fst

/-- The end of a run that gives a record: the calls of the hooks after it, all of them in order, and
what the observers are told of their failures and of the end. -/
structure Closes (r : Runner W σ ν) (report : SuiteReport) (closing : List (Entry ν)) : Prop where
  /-- The hooks after the run are called. -/
  calls : ∃ s ok s', r.registry.BoundaryCalls { scope := .afterSuite } s (marks closing) ok s'
  /-- The observers are told of failures of hooks and then of the end. -/
  events : ∃ failures, (∀ failure ∈ failures, failure.scope = .afterSuite) ∧
    events closing = events (r.announcedFailures failures ++
      r.announced (.suiteFinished report.counts))

/-- A run that comes to its end is closed. -/
theorem finishSuite_closes (hlive : r.dryRun = false) (features : List FeatureReport)
    (before : List HookFailure) :
    (r.finishSuite features before).Ensures fun report closing => r.Closes report closing := by
  intro s
  obtain ⟨failures, -, hevents, hscope⟩ := r.finishSuite_events features before s
  obtain ⟨ok, _, ⟨s₁, hcalls, -⟩, -⟩ := r.finishSuite_calls hlive features before s
  exact ⟨⟨s, ok, s₁, hcalls⟩, failures, hscope, hevents⟩

/-! ## Results -/

/-- How a worker ends depends on whether it is lost. -/
theorem workerFor_result (lostAfter : List (Entry ν) → Option Nat) (blocked : Bool) (s : σ)
    (feature : Feature) :
    (r.workerFor lostAfter blocked s feature).result =
      if (lostAfter (r.featureReport feature blocked s).2.2).isSome then
        .error (.workerFailed feature.name "panicked")
      else .ok (r.featureReport feature blocked s).1 := by
  simp only [workerFor, Journaled.run_apply]
  cases lostAfter (r.featureReport feature blocked s).2.2 <;> rfl

/-- A worker writes no more than its feature does. -/
theorem mem_of_mem_workerFor {lostAfter : List (Entry ν) → Option Nat} {blocked : Bool} {s : σ}
    {feature : Feature} {entry : Entry ν}
    (h : entry ∈ (r.workerFor lostAfter blocked s feature).entries) :
    entry ∈ (r.featureReport feature blocked s).2.2 := by
  simp only [workerFor, Journaled.run_apply] at h
  split at h
  · exact List.mem_of_mem_take h
  · exact h

/-- The results of workers are put together if none is lost; otherwise the first
loss is the result. -/
theorem mapM_results (losses : Losses ν) (blocked : Bool) (s : σ)
    (features : List (Feature × Nat)) :
    (features.map fun numbered =>
      (r.workerFor (losses numbered.2) blocked s numbered.1).result).mapM id =
      match (features.filter fun numbered =>
        (losses numbered.2 (r.featureReport numbered.1 blocked s).2.2).isSome).map Prod.fst with
      | [] => .ok (features.map fun numbered => (r.featureReport numbered.1 blocked s).1)
      | feature :: _ => .error (.workerFailed feature.name "panicked") := by
  induction features with
  | nil => rfl
  | cons numbered rest ih =>
    rw [List.map_cons, List.mapM_cons, workerFor_result]
    cases hlost : (losses numbered.2 (r.featureReport numbered.1 blocked s).2.2).isSome with
    | true =>
      -- The first loss ends the collection of results.
      simp only [List.filter_cons, hlost, ↓reduceIte]
      rfl
    | false =>
      simp only [List.filter_cons, hlost, ih, Bool.false_eq_true, ↓reduceIte]
      split <;> rfl

/-- The workers of a run write nothing of the whole run, lost or not. -/
theorem workersOf_inside (losses : Losses ν) (features : List Feature) (s : σ) :
    ∀ entry ∈ (r.workersOf losses features s).flatMap Worker.entries, entry.Inside := by
  intro entry hentry
  obtain ⟨worker, hworker, hmem⟩ := List.mem_flatMap.1 hentry
  obtain ⟨number, hnumber, rfl⟩ := List.mem_mapIdx.1 hworker
  exact r.featureReport_inside _ _ _ entry (mem_of_mem_workerFor hmem)

/-! ## Closing -/

/-- A run is closed exactly if it loses no worker. Under every schedule that takes all workers
through, each worker has written its entries before the end of the run; what is of the end comes
after all of them, and only if no worker is lost. -/
theorem runScheduled_closing (r : Runner W σ ν) (hlive : r.dryRun = false) (losses : Losses ν)
    (features : List Feature) (s : σ) (schedule : List Move)
    (hschedule : Window.Exhausts r.workers (r.workersOf losses features s) schedule) :
    let run := (r.runScheduled losses schedule features).run s
    let opening := (r.startSuite features.length s).2.2
    ∃ log, (∀ number, Window.writtenBy number log =
        ((r.workersOf losses features s).map Worker.entries)[number]?.getD []) ∧
      (∀ entry ∈ opening ++ log.map Prod.snd, entry.isOfEnd = false) ∧
      match r.lostFeatures losses features s with
      | [] => ∃ report closing, run.1 = some (.ok report) ∧
          run.2.2 = opening ++ (log.map Prod.snd ++ closing) ∧ r.Closes report closing
      | feature :: _ => run.1 = some (.error (.workerFailed feature.name "panicked")) ∧
          run.2.2 = opening ++ log.map Prod.snd := by
  intro run opening
  obtain ⟨log, harrange, hwritten, hperm⟩ := hschedule.arrange? r.workers_pos
  refine ⟨log, hwritten, fun entry hentry => ?_, ?_⟩
  · rcases List.mem_append.1 hentry with hentry | hentry
    · exact r.startSuite_writes features.length s entry hentry
    · exact (workersOf_inside losses features s entry (hperm.symm.subset hentry)).isOfEnd
  · have hrun : run = _ := runScheduled_apply harrange
    have hresults := r.mapM_results losses (!(r.startSuite features.length s).1.isEmpty)
      (r.startSuite features.length s).2.1 features.zipIdx
    have hworkers : (r.workersOf losses features s).map Worker.result =
        features.zipIdx.map fun numbered =>
        (r.workerFor (losses numbered.2) (!(r.startSuite features.length s).1.isEmpty)
          (r.startSuite features.length s).2.1 numbered.1).result := by
      rw [workersOf, workersFor, List.mapIdx_eq_zipIdx_map, List.map_map]
      rfl
    rw [← hworkers] at hresults
    change _ = match r.lostFeatures losses features s with | [] => _ | feature :: _ => _ at hresults
    rw [conclude, hresults] at hrun
    cases hlost : r.lostFeatures losses features s with
    | nil =>
      rw [hlost] at hrun
      dsimp only at hrun
      rw [map_apply] at hrun
      exact ⟨_, _, by rw [hrun], by rw [hrun], finishSuite_closes hlive _ _ _⟩
    | cons feature rest =>
      rw [hlost] at hrun
      dsimp only at hrun
      rw [pure_apply, List.append_nil] at hrun
      exact ⟨by rw [hrun], by rw [hrun]⟩

/-- The runner with one hook at each boundary, and with an observer that crashes when a
certain feature starts. -/
def fragile : Runner Unit Unit Unit :=
  { hooked with observers := [{ crashesOn := fun event => event == .featureStarted "short" }] }

/-- The feature on which the observer crashes is lost, and the run is not closed. -/
theorem fragile_closing :
    let workers := fragile.workersOf fragile.crashLosses [shortFeature] ()
    let run :=
      (fragile.runScheduled fragile.crashLosses (Window.inTurn workers) [shortFeature]).run ()
    fragile.dryRun = false ∧ Window.Exhausts fragile.workers workers (Window.inTurn workers) ∧
    run.1 = some (.error (.workerFailed "short" "panicked")) ∧
      ∀ entry ∈ run.2.2, entry.isOfEnd = false := by
  intro workers run
  have hexhausts := Window.inTurn_exhausts fragile.workers_pos workers
  obtain ⟨log, -, hend, hlost⟩ :=
    fragile.runScheduled_closing rfl fragile.crashLosses [shortFeature] ()
      (Window.inTurn workers) hexhausts
  rw [show fragile.lostFeatures fragile.crashLosses [shortFeature] () =
    [shortFeature] from rfl] at hlost
  exact ⟨rfl, hexhausts, hlost.1, fun entry hentry => hend entry (hlost.2 ▸ hentry)⟩

/-- The start of the run has called a hook, there is a hook for its end, and
the end does not come. -/
theorem fragile_unclosed :
    let run := (fragile.runConcurrent [shortFeature]).run ()
    fragile.dryRun = false ∧ Mark.called (.hook 0 { scope := .beforeSuite }) ∈ marks run.2.2 ∧
    (fragile.registry.firingHooks { scope := .afterSuite }).map Prod.snd = [1] ∧
    run.1 = .error (.workerFailed "short" "panicked") ∧ run.2.2.any Entry.isOfEnd = false :=
  ⟨rfl, List.mem_cons_self, rfl, rfl, rfl⟩

end Rehearsal.Runner
