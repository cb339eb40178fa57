import Rehearsal.Proofs.Run.InProgress
import Rehearsal.Proofs.Run.LostWorkers

/-!
# Bounds on concurrent runs

However a runner is put together, it lets one worker go on at least: its bound is what was last
asked for, and one where that was zero. A concurrent run keeps this bound at every moment. It comes
to its end whatever its workers do, with every feature started once, and if workers are lost it
names the first of them in the order of the features, after all of them are through.
-/

namespace Rehearsal

variable {W σ ν : Type}

namespace Runner

/-! ## Construction -/

/-- The runner is put together from the definitions of a test suite by the operations that there
are, and a bound on the number of features at once was last given as `requested`. -/
inductive Built : (requested : Nat) → Runner W σ ν → Prop
  | plain (registry : Registry W σ ν) (newWorld : WorldCode W σ ν) : Built 4 { registry, newWorld }
  | ofSettings {registry : Registry W σ ν} {newWorld : WorldCode W σ ν} {settings : Settings}
      {r : Runner W σ ν} :
      Runner.ofSettings registry newWorld settings = .ok r → Built settings.execution.workers r
  | asStrict {requested r} : Built requested r → Built requested r.asStrict
  | asDryRun {requested r} : Built requested r → Built requested r.asDryRun
  | withFilter {requested r} (filter : TagFilter) :
      Built requested r → Built requested (r.withFilter filter)
  | withTags {requested r r'} {expression : String} :
      Built requested r → r.withTags expression = .ok r' →
      Built requested r'
  | withWorkers {requested r} (workers : Nat) :
      Built requested r → Built workers (r.withWorkers workers)
  | withObserver {requested r} (observer : Observer σ) : Built requested r →
      Built requested (r.withObserver observer)

/-- The bound of settings is taken over, and zero as one. -/
theorem workers_ofSettings {registry : Registry W σ ν} {newWorld : WorldCode W σ ν}
    {settings : Settings} {r : Runner W σ ν} (h : ofSettings registry newWorld settings = .ok r) :
    r.workers = max settings.execution.workers 1 := by
  obtain ⟨filter, -, h⟩ := ok_of_bind h
  obtain rfl := Except.ok.inj h
  rfl

/-- Tags leave the bound as it is. -/
theorem workers_withTags {r r' : Runner W σ ν} {expression : String}
    (h : r.withTags expression = .ok r') :
    r'.workers = r.workers := by
  obtain ⟨filter, -, rfl⟩ := exists_of_map h
  rfl

/-- The bound is what was last asked for, and one where that was zero. -/
theorem Built.workers_eq {requested : Nat} {r : Runner W σ ν} (h : Built requested r) :
    r.workers = max requested 1 := by
  induction h with
  | plain registry newWorld => rfl
  | ofSettings hsettings => exact workers_ofSettings hsettings
  | asStrict _ ih => exact ih
  | asDryRun _ ih => exact ih
  | withFilter filter _ ih => exact ih
  | withTags _ htags ih => rw [workers_withTags htags, ih]
  | withWorkers workers _ _ => rfl
  | withObserver observer _ ih => exact ih

/-! ## The first loss -/

variable {r : Runner W σ ν} {losses : Losses ν} {features : List Feature} {s : σ}

/-- The worker of the feature with the given number is lost. -/
def LosesAt (r : Runner W σ ν) (losses : Losses ν) (features : List Feature) (s : σ)
    (number : Nat) : Prop :=
  ∃ e, ((r.workersOf losses features s).map Worker.result)[number]? = some (.error e)

/-- There is one worker for each feature. -/
theorem length_workersOf (r : Runner W σ ν) (losses : Losses ν) (features : List Feature) (s : σ) :
    (r.workersOf losses features s).length = features.length := by
  rw [workersOf, workersFor, List.length_mapIdx]

/-- A worker that is lost ends with the error that names its feature. -/
theorem LosesAt.result_eq {number : Nat} {feature : Feature}
    (h : r.LosesAt losses features s number) (hfeature : features[number]? = some feature) :
    ((r.workersOf losses features s).map Worker.result)[number]? =
      some (.error (.workerFailed feature.name "panicked")) := by
  obtain ⟨e, he⟩ := h
  simp only [workersOf, workersFor, List.getElem?_map, List.getElem?_mapIdx, hfeature,
    Option.map_some, Option.some.injEq, workerFor_result] at he ⊢
  split at he
  · next hlost => rw [if_pos hlost]
  · cases he

/-- A worker that is not lost ends with a result. -/
theorem result_of_not_losesAt {number : Nat} (h : ¬ r.LosesAt losses features s number)
    (hlt : number < features.length) :
    ∃ report, ((r.workersOf losses features s).map Worker.result)[number]? = some (.ok report) := by
  have hresult := List.getElem?_eq_getElem (l := (r.workersOf losses features s).map Worker.result)
    (by rw [List.length_map, length_workersOf]; exact hlt)
  match hvalue : ((r.workersOf losses features s).map Worker.result)[number]? with
  | none =>
    rw [hvalue] at hresult
    cases hresult
  | some (.error e) => exact absurd ⟨e, hvalue⟩ h
  | some (.ok report) => exact ⟨report, rfl⟩

/-- The first worker that is lost decides what a run ends with. -/
theorem conclude_of_first_loss {first : Nat} {feature : Feature}
    (hfeature : features[first]? = some feature) (hlost : r.LosesAt losses features s first)
    (hbefore : ∀ earlier < first, ¬ r.LosesAt losses features s earlier)
    (before : List HookFailure) :
    r.conclude before ((r.workersOf losses features s).map Worker.result) =
      pure (.error (.workerFailed feature.name "panicked")) := by
  have hlength : first < features.length := (List.getElem?_eq_some_iff.1 hfeature).1
  have hresults := mapM_id_eq_error (hlost.result_eq hfeature) fun earlier hearlier =>
    result_of_not_losesAt (hbefore earlier hearlier) (Nat.lt_trans hearlier hlength)
  rw [conclude, hresults]

/-! ## The bound -/

/-- A concurrent run keeps to its bound, which is what the runner was last asked for, or one where
that was zero. There is a worker for each feature; whatever workers are lost, at every moment no
more of them than the bound are in progress, each that has been started is so only after all those
that are a whole bound before it have ended, and the run can go on to its end. At its end each was
started once and has written its entries, and if workers are lost, the error names the feature of
the first of them in the order of the features, whatever the order in which they ended. -/
theorem runScheduled_keepsBound {requested : Nat} {r : Runner W σ ν} (hbuilt : Built requested r)
    (losses : Losses ν) (features : List Feature) (s : σ) :
    let workers := r.workersOf losses features s
    r.workers = max requested 1 ∧ workers.length = features.length ∧
    (∀ schedule w log, Window.steps? r.workers { waiting := workers } schedule = some (w, log) →
      Window.Reaches r.workers workers schedule w log ∧
      ∃ more, Window.Exhausts r.workers workers (schedule ++ more)) ∧
    ∀ schedule, Window.Exhausts r.workers workers schedule →
      let run := (r.runScheduled losses schedule features).run s
      Window.starts r.workers { waiting := workers } schedule = workers.zipIdx ∧
      ∃ log closing, run.2.2 =
        (r.startSuite features.length s).2.2 ++ (log.map Prod.snd ++ closing) ∧
        (∀ number, Window.writtenBy number log = (workers.map Worker.entries)[number]?.getD []) ∧
        ∀ first feature, features[first]? = some feature → r.LosesAt losses features s first →
          (∀ earlier < first, ¬ r.LosesAt losses features s earlier) →
          run.1 = some (.error (.workerFailed feature.name "panicked")) ∧ closing = [] := by
  intro workers
  refine ⟨hbuilt.workers_eq, length_workersOf r losses features s, fun schedule w log hsteps => ?_,
    fun schedule hschedule => ?_⟩
  · have hallows : Window.Allows r.workers workers schedule := ⟨w, log, hsteps⟩
    exact ⟨Window.steps?_reaches hsteps, hallows.exists_exhausts r.workers_pos⟩
  · intro run
    obtain ⟨log, harrange, hwritten, -⟩ := hschedule.arrange? r.workers_pos
    have hrun : run = _ := runScheduled_apply harrange
    refine ⟨hschedule.starts_eq r.workers_pos, log, _, by rw [hrun], hwritten, ?_⟩
    intro first feature hfeature hlost hbefore
    rw [hrun, conclude_of_first_loss hfeature hlost hbefore]
    exact ⟨rfl, rfl⟩

/-- A runner that was asked for no feature at once. -/
def oneByOne : Runner Unit Unit Unit :=
  { registry := hooked.registry, newWorld := hooked.newWorld : Runner Unit Unit Unit }.withWorkers 0

/-- The second of three workers is lost, and the third. -/
def lastLost : Losses Unit := fun number _ => if number = 0 then none else some 0

/-- The runner that was asked for no feature at once runs one at once, and the run names
the second feature. -/
theorem oneByOne_keepsBound :
    let features := [shortFeature, { shortFeature with name := "second" },
      { shortFeature with name := "third" }]
    let workers := oneByOne.workersOf lastLost features ()
    let run := (oneByOne.runScheduled lastLost (Window.inTurn workers) features).run ()
    Built 0 oneByOne ∧ oneByOne.workers = 1 ∧
      Window.Exhausts oneByOne.workers workers (Window.inTurn workers) ∧
    oneByOne.LosesAt lastLost features () 1 ∧ ¬ oneByOne.LosesAt lastLost features () 0 ∧
    run.1 = some (.error (.workerFailed "second" "panicked")) := by
  intro features workers run
  have hbuilt : Built 0 oneByOne := .withWorkers 0 (.plain hooked.registry hooked.newWorld)
  have hexhausts := Window.inTurn_exhausts oneByOne.workers_pos workers
  have hlost : oneByOne.LosesAt lastLost features () 1 := ⟨_, rfl⟩
  have hkept : ¬ oneByOne.LosesAt lastLost features () 0 := by
    rintro ⟨e, he⟩
    cases he
  obtain ⟨hbound, -, -, hend⟩ := runScheduled_keepsBound hbuilt lastLost features ()
  obtain ⟨-, log, closing, -, -, hfirst⟩ := hend _ hexhausts
  have hbefore : ∀ earlier < 1, ¬ oneByOne.LosesAt lastLost features () earlier :=
    fun earlier hearlier =>
    Nat.lt_one_iff.1 hearlier ▸ hkept
  exact ⟨hbuilt, hbound, hexhausts, hlost, hkept, (hfirst 1 _ rfl hlost hbefore).1⟩

end Runner

end Rehearsal
