import Rehearsal.Proofs.Run.Lifecycle

/-!
# Failure mode

How far a scenario goes. `StepsCourse` and `ScenarioCourse` take a run of a scenario apart into what
is computed one after the other, from which state and with which entries: after the first step that
does not succeed there is nothing but the telling of skipped records until the hooks after the
scenario, which find the world as the hooks after that step left it. The outcomes and the status
follow from the course.
-/

namespace Rehearsal.Runner

open Journaled

variable {W σ ν : Type}

/-! ## Courses -/

/-- Attempts a step and tells of its record. -/
def attempt (r : Runner W σ ν) (feature : String) (scenario : Scenario) (step : Step) :
    Journaled (W × σ) (Entry ν) (StepReport × List HookFailure) := do
  let (report, unabsorbed) ← r.attemptStep feature scenario step
  let report ← (r.record feature scenario report).beside
  return (report, unabsorbed)

/-- Tells of records one after the other. -/
def recordEach (r : Runner W σ ν) (feature : String) (scenario : Scenario)
    (reports : List StepReport) :
    Journaled σ (Entry ν) (List StepReport) := forEach (r.record feature scenario) reports

/-- How steps go that are attempted from a state on. A step is tried, the hooks after it are
run on the world that it leaves, and its record is told of beside the world that these
leave. If it succeeds, the others are attempted from there on; if it does not, only their
skipped records are told. -/
inductive StepsCourse (r : Runner W σ ν) (feature : String) (scenario : Scenario) :
    List Step → W × σ → (List StepReport × List HookFailure × Progress) × (W × σ) ×
      List (Entry ν) → Prop
  | done {t} : StepsCourse r feature scenario [] t (([], [], .running), t, [])
  | passed {step rest t report t₁ trying failures w s₁ closing s₂ telling reports around
      progress t' entries} :
      r.tryStep feature scenario step t = (report, t₁, trying) →
      r.fireAround feature scenario
        (stepContext feature scenario step .afterStep (some report.outcome)) t₁ =
        (failures, (w, s₁), closing) →
      (absorb step report failures).1.outcome = .successful →
      r.record feature scenario (absorb step report failures).1 s₁ =
        ((absorb step report failures).1, s₂, telling) →
      StepsCourse r feature scenario rest (w, s₂) ((reports, around, progress), t', entries) →
      StepsCourse r feature scenario (step :: rest) t
        (((absorb step report failures).1 :: reports,
          (absorb step report failures).2 ++ around, progress),
         t', trying ++ closing ++ telling ++ entries)
  | halted {step rest t report t₁ trying failures w s₁ closing s₂ telling} :
      r.tryStep feature scenario step t = (report, t₁, trying) →
      r.fireAround feature scenario
        (stepContext feature scenario step .afterStep (some report.outcome)) t₁ =
        (failures, (w, s₁), closing) →
      (absorb step report failures).1.outcome.entersFailureMode = true →
      r.recordEach feature scenario ((absorb step report failures).1 :: rest.map .skipped) s₁ =
        ((absorb step report failures).1 :: rest.map .skipped, s₂, telling) →
      StepsCourse r feature scenario (step :: rest) t
        (((absorb step report failures).1 :: rest.map .skipped, (absorb step report failures).2,
          .failureMode),
         (w, s₂), trying ++ closing ++ telling)

/-- How a scenario goes: it has no world, a hook before it fails, or its steps are attempted. -/
inductive ScenarioCourse (r : Runner W σ ν) (feature : String) (scenario : Scenario) (s : σ) :
    ScenarioReport × σ × List (Entry ν) → Prop
  | unmade {f s₁ made s₂ telling} :
      calling .world r.newWorld s = (.error f, s₁, made) → marks telling = [] →
      ScenarioCourse r feature scenario s
        (⟨scenario.name, scenario.tags, .aborted, scenario.steps.map .skipped,
          [.ofFailure .beforeScenario (f.wrap "failed to create the scenario world")]⟩, s₂,
         made ++ telling)
  | blocked {world s₁ made failure failures w s₂ opening s₃ telling afters w' s₄ closing} :
      calling .world r.newWorld s = (.ok world, s₁, made) →
      r.fireAround feature scenario (scenarioContext feature scenario .beforeScenario) (world, s₁) =
        (failure :: failures, (w, s₂), opening) →
      r.recordEach feature scenario (scenario.steps.map .skipped) s₂ =
        (scenario.steps.map .skipped, s₃, telling) →
      r.fireAround feature scenario (scenarioContext feature scenario .afterScenario) (w, s₃) =
        (afters, (w', s₄), closing) →
      ScenarioCourse r feature scenario s
        (⟨scenario.name, scenario.tags, .aborted, scenario.steps.map .skipped,
          failure :: failures ++ afters⟩,
         s₄, made ++ (opening ++ telling ++ closing))
  | attempted {world s₁ made t opening reports around progress t' between afters w' s₂ closing} :
      calling .world r.newWorld s = (.ok world, s₁, made) →
      r.fireAround feature scenario (scenarioContext feature scenario .beforeScenario) (world, s₁) =
        ([], t, opening) →
      r.StepsCourse feature scenario scenario.steps t ((reports, around, progress), t', between) →
      r.fireAround feature scenario (scenarioContext feature scenario .afterScenario) t' =
        (afters, (w', s₂), closing) →
      ScenarioCourse r feature scenario s
        (⟨scenario.name, scenario.tags, progress.status, reports, around ++ afters⟩, s₂,
         made ++ (opening ++ between ++ closing))

/-! ## Steps -/

/-- Telling of a record gives it back. -/
theorem record_value (r : Runner W σ ν) (feature : String) (scenario : Scenario)
    (report : StepReport) (s : σ) : (r.record feature scenario report s).1 = report := by
  rw [record, bind_apply, pure_apply]

/-- Records are told one after the other and given back. -/
theorem recordEach_cons (r : Runner W σ ν) (feature : String) (scenario : Scenario)
    (report : StepReport) (rest : List StepReport) (s : σ) :
    r.recordEach feature scenario (report :: rest) s =
      (report :: (r.recordEach feature scenario rest (r.record feature scenario report s).2.1).1,
       (r.recordEach feature scenario rest (r.record feature scenario report s).2.1).2.1,
       (r.record feature scenario report s).2.2 ++
         (r.recordEach feature scenario rest (r.record feature scenario report s).2.1).2.2) := by
  refine forEach_cons_apply (Prod.ext ?_ rfl) rfl
  exact r.record_value feature scenario report s

/-- Telling of records gives them back. -/
theorem recordEach_value (r : Runner W σ ν) (feature : String) (scenario : Scenario)
    (reports : List StepReport) (s : σ) :
    (r.recordEach feature scenario reports s).1 = reports := by
  induction reports generalizing s with
  | nil => rfl
  | cons report rest ih => rw [recordEach_cons, ih]

/-- In failure mode the records of the remaining steps are told, beside a world
that is left alone. -/
theorem attemptSteps_failureMode (r : Runner W σ ν) (feature : String) (scenario : Scenario)
    (steps : List Step) (w : W) (s : σ) :
    r.attemptSteps feature scenario .failureMode steps (w, s) =
      ((steps.map .skipped, [], .failureMode),
       (w, (r.recordEach feature scenario (steps.map .skipped) s).2.1),
       (r.recordEach feature scenario (steps.map .skipped) s).2.2) := by
  induction steps generalizing s with
  | nil => rfl
  | cons step rest ih =>
    rw [attemptSteps, bind_apply, beside_apply]
    dsimp only
    rw [bind_apply, ih, List.map_cons, recordEach_cons, pure_apply, record_value, List.append_nil]

/-- A step that is attempted succeeds or leads into failure mode. -/
theorem attempt_entersFailureMode (r : Runner W σ ν) (feature : String) (scenario : Scenario)
    (step : Step) :
    (r.attempt feature scenario step).Ensures fun result _ =>
      result.1.outcome.entersFailureMode = !(result.1.outcome == .successful) := by
  unfold attempt attemptStep
  rw [bind_assoc]
  refine (r.tryStep_ne_skipped feature scenario step).bind fun report tried htried => ?_
  rw [bind_assoc]
  refine (Ensures.any _).bind fun failures _ _ => ?_
  rw [pure_bind]
  refine (r.record_marks feature scenario _).beside.bind fun told _ htold => Ensures.pure ?_
  obtain ⟨rfl, -⟩ := htold
  exact Outcome.entersFailureMode_of_ne_skipped (absorb_ne_skipped failures htried)

/-- A step is attempted by trying it, running the hooks after it on the world that it leaves, and
telling of the record beside the world that these leave. -/
theorem attempt_apply (r : Runner W σ ν) (feature : String) (scenario : Scenario) (step : Step)
    {t t₁ : W × σ} {report : StepReport} {trying : List (Entry ν)} {failures : List HookFailure}
    {w : W} {s : σ} {closing : List (Entry ν)}
    (htried : r.tryStep feature scenario step t = (report, t₁, trying))
    (hclosed : r.fireAround feature scenario
      (stepContext feature scenario step .afterStep (some report.outcome)) t₁ =
        (failures, (w, s), closing)) :
    r.attempt feature scenario step t =
      (absorb step report failures,
       (w, (r.record feature scenario (absorb step report failures).1 s).2.1),
       trying ++ closing ++ (r.record feature scenario (absorb step report failures).1 s).2.2) := by
  have hattempt : r.attemptStep feature scenario step t =
      (absorb step report failures, (w, s), trying ++ closing) := by
    rw [attemptStep, bind_apply, htried]
    dsimp only
    rw [bind_apply, hclosed, pure_apply, List.append_nil]
  rw [attempt, bind_apply, hattempt]
  dsimp only
  rw [bind_apply, beside_apply, pure_apply, record_value, List.append_nil]

/-- The first of the steps is attempted, and the others as far as its outcome says. -/
theorem attemptSteps_cons (r : Runner W σ ν) (feature : String) (scenario : Scenario) (step : Step)
    (rest : List Step) :
    r.attemptSteps feature scenario .running (step :: rest) = (do
      let (report, unabsorbed) ← r.attempt feature scenario step
      let (reports, failures, progress) ←
        r.attemptSteps feature scenario (Progress.running.after report.outcome) rest
      return (report :: reports, unabsorbed ++ failures, progress)) := by
  simp only [attemptSteps, attempt, bind_assoc, pure_bind]

/-- Steps that are attempted in order take a course. -/
theorem attemptSteps_course (r : Runner W σ ν) (feature : String) (scenario : Scenario)
    (steps : List Step) (t : W × σ) :
    r.StepsCourse feature scenario steps t (r.attemptSteps feature scenario .running steps t) := by
  induction steps generalizing t with
  | nil => exact .done
  | cons step rest ih =>
    rw [attemptSteps_cons, bind_apply]
    rcases htried : r.tryStep feature scenario step t with ⟨report, t₁, trying⟩
    rcases hclosed : r.fireAround feature scenario (stepContext feature scenario step .afterStep
      (some report.outcome)) t₁ with ⟨failures, ⟨w, s⟩, closing⟩
    have hmode := r.attempt_entersFailureMode feature scenario step t
    have happly := r.attempt_apply feature scenario step htried hclosed
    rw [happly] at hmode
    rw [happly]
    dsimp only at hmode ⊢
    rw [bind_apply, pure_apply, Progress.after]
    cases hhalt : (absorb step report failures).1.outcome.entersFailureMode with
    | true =>
      -- This step is the first that does not succeed.
      rw [if_pos rfl, attemptSteps_failureMode]
      have htold := r.recordEach_cons feature scenario (absorb step report failures).1
        (rest.map .skipped) s
      rw [recordEach_value] at htold
      simpa using StepsCourse.halted htried hclosed hhalt htold
    | false =>
      have hsuccess : (absorb step report failures).1.outcome = .successful := by
        simpa [hhalt] using hmode
      have hvalue := r.record_value feature scenario (absorb step report failures).1 s
      rcases htold : r.record feature scenario (absorb step report failures).1 s
        with ⟨told, s₂, telling⟩
      obtain rfl : told = (absorb step report failures).1 := by rwa [htold] at hvalue
      rw [if_neg Bool.false_ne_true]
      simpa using StepsCourse.passed htried hclosed hsuccess htold (ih _)

/-! ## Scenarios -/

/-- Recording the steps of a scenario is telling of their records. -/
theorem recordSteps_eq (r : Runner W σ ν) (feature : String) (scenario : Scenario)
    (preview : Step → StepReport) :
    r.recordSteps feature scenario preview =
      r.recordEach feature scenario (scenario.steps.map preview) := by
  unfold recordSteps recordEach
  induction scenario.steps with
  | nil => rfl
  | cons step rest ih => rw [List.map_cons, forEach_cons, forEach_cons, ih]

/-- A run of a scenario on its world that is opened by hooks takes a course up to
the hooks after it. -/
theorem runOnWorld_course (r : Runner W σ ν) (feature : String) (scenario : Scenario) {s s₁ : σ}
    {world : W} {made : List (Entry ν)}
    (hmade : calling .world r.newWorld s = (.ok world, s₁, made)) :
    r.ScenarioCourse feature scenario s
      ((r.runOnWorld feature scenario (world, s₁)).1,
        (r.runOnWorld feature scenario (world, s₁)).2.1.2,
       made ++ (r.runOnWorld feature scenario (world, s₁)).2.2) := by
  rw [runOnWorld, bind_apply]
  rcases hopened : r.fireAround feature scenario (scenarioContext feature scenario .beforeScenario)
    (world, s₁) with ⟨failures, ⟨w, s₂⟩, opening⟩
  cases failures with
  | cons failure failures =>
    -- A hook before the scenario has failed, so the steps are told of as skipped.
    have htold := r.recordEach_value feature scenario (scenario.steps.map .skipped) s₂
    rcases htelling : r.recordEach feature scenario (scenario.steps.map .skipped) s₂
      with ⟨told, s₃, telling⟩
    obtain rfl : told = scenario.steps.map .skipped := by rwa [htelling] at htold
    rcases hclosed : r.fireAround feature scenario (scenarioContext feature scenario .afterScenario)
      (w, s₃) with ⟨afters, ⟨w', s₄⟩, closing⟩
    dsimp only [List.isEmpty_cons]
    rw [if_neg Bool.false_ne_true, bind_apply, attemptSteps_failureMode, htelling]
    dsimp only
    rw [bind_apply, hclosed, pure_apply]
    simpa [Progress.status] using ScenarioCourse.blocked hmade hopened htelling hclosed
  | nil =>
    have hsteps := r.attemptSteps_course feature scenario scenario.steps (w, s₂)
    rcases hattempted : r.attemptSteps feature scenario .running scenario.steps (w, s₂)
      with ⟨⟨reports, around, progress⟩, t', between⟩
    rw [hattempted] at hsteps
    rcases hclosed : r.fireAround feature scenario
      (scenarioContext feature scenario .afterScenario) t'
      with ⟨afters, ⟨w', s₃⟩, closing⟩
    dsimp only [List.isEmpty_nil]
    rw [if_pos rfl, bind_apply, hattempted]
    dsimp only
    rw [bind_apply, hclosed, pure_apply]
    simpa using ScenarioCourse.attempted hmade hopened hsteps hclosed

/-- Every run of a scenario takes a course. -/
theorem executeScenario_course (r : Runner W σ ν) (feature : String) (scenario : Scenario) (s : σ) :
    r.ScenarioCourse feature scenario s (r.executeScenario feature scenario s) := by
  rw [executeScenario, bind_apply]
  rcases hmade : calling .world r.newWorld s with ⟨made, s₁, making⟩
  cases made with
  | error f =>
    -- Without a world nothing is called any more.
    dsimp only
    rw [bind_apply, bind_apply, pure_apply, recordSteps_eq, recordEach_value]
    refine .unmade hmade ?_
    rw [marks_append, r.tellHookFailures_marks _ _ _ s₁, ← recordSteps_eq, List.append_nil,
      List.nil_append]
    exact (r.recordSteps_marks feature scenario _ _).2
  | ok world =>
    dsimp only
    rw [bind_apply, within_apply, pure_apply, List.append_nil]
    exact r.runOnWorld_course feature scenario hmade

/-! ## Outcomes and status -/

/-- The world of the scenario can be made, and no hook before the scenario fails. -/
def Opens (r : Runner W σ ν) (feature : String) (scenario : Scenario) (s : σ) : Prop :=
  ∃ world s₁ made, calling .world r.newWorld s = (.ok world, s₁, made) ∧
    (r.fireAround feature scenario (scenarioContext feature scenario .beforeScenario)
      (world, s₁)).1 = []

/-- The outcomes of steps none of which, or one of which, was the first not to succeed. -/
inductive Unbroken : List Outcome → Progress → Prop
  | passed (n : Nat) : Unbroken (List.replicate n .successful) .running
  | halted (passed : Nat) (o : Outcome) (rest : Nat) :
      o = .failed ∨ o = .pending ∨ o = .undefined ∨ o = .ambiguous →
      Unbroken (List.replicate passed .successful ++ o :: List.replicate rest .skipped) .failureMode

theorem map_outcome_skipped (steps : List Step) :
    (steps.map StepReport.skipped).map StepReport.outcome =
      List.replicate steps.length .skipped := by
  rw [List.map_map]
  exact List.map_const'

/-- One more success does not break them. -/
theorem Unbroken.cons {outcomes : List Outcome} {progress : Progress}
    (h : Unbroken outcomes progress) :
    Unbroken (.successful :: outcomes) progress := by
  cases h with
  | passed n => exact .passed (n + 1)
  | halted passed o rest ho => exact .halted (passed + 1) o rest ho

/-- Outcomes other than success and being skipped lead into failure mode, and no others do. -/
theorem entersFailureMode_iff {o : Outcome} :
    o.entersFailureMode = true ↔ o = .failed ∨ o = .pending ∨ o = .undefined ∨ o = .ambiguous := by
  cases o <;> simp [Outcome.entersFailureMode]

/-- The outcomes of steps follow from the course that they take: there is one for each step,
and they are unbroken. -/
theorem StepsCourse.unbroken {r : Runner W σ ν} {feature : String} {scenario : Scenario}
    {steps : List Step} {t t' : W × σ} {reports : List StepReport} {around : List HookFailure}
    {progress : Progress} {entries : List (Entry ν)}
    (h : r.StepsCourse feature scenario steps t ((reports, around, progress), t', entries)) :
    reports.length = steps.length ∧ Unbroken (reports.map StepReport.outcome) progress := by
  generalize hcourse : ((reports, around, progress), t', entries) = course at h
  induction h generalizing reports around progress t' entries with
  | done =>
    cases hcourse
    exact ⟨rfl, .passed 0⟩
  | passed _ _ hsuccess _ _ ih =>
    cases hcourse
    obtain ⟨hlength, hunbroken⟩ := ih rfl
    rw [List.map_cons, hsuccess]
    exact ⟨congrArg (· + 1) hlength, hunbroken.cons⟩
  | halted _ _ hhalt _ =>
    cases hcourse
    rw [List.map_cons, map_outcome_skipped]
    exact ⟨by simp, .halted 0 _ _ (entersFailureMode_iff.1 hhalt)⟩

/-- Unbroken outcomes are all successful exactly if steps were attempted to the end. -/
theorem Unbroken.successful_iff {outcomes : List Outcome} {progress : Progress}
    (h : Unbroken outcomes progress) : (∀ o ∈ outcomes, o = .successful) ↔ progress = .running := by
  cases h with
  | passed n => exact iff_of_true (fun _ => List.eq_of_mem_replicate) rfl
  | halted passed o rest ho =>
    refine iff_of_false (fun hall => ?_) nofun
    have hsuccess := hall o (List.mem_append_right _ List.mem_cons_self)
    subst hsuccess
    simp at ho

/-- Failure mode is entered once and not left, and it decides the status. The steps of a scenario
that cannot be opened are all skipped; those of another one succeed up to the first that does not,
after which they are skipped: as the course says, nothing is done about them but telling that they
are, and the hooks after the scenario find the world as the hooks after the last step that was
attempted left it. The status is that the scenario is completed exactly if it could be opened and
all steps succeeded, whatever the hooks after it do. -/
theorem executeScenario_failureMode (r : Runner W σ ν) (feature : String) (scenario : Scenario)
    (s : σ) :
    let run := (r.executeScenario feature scenario).run s
    let outcomes := run.1.steps.map StepReport.outcome
    r.ScenarioCourse feature scenario s run ∧
    outcomes.length = scenario.steps.length ∧
    ((¬ r.Opens feature scenario s ∧ outcomes = List.replicate scenario.steps.length .skipped) ∨
      (r.Opens feature scenario s ∧ ∃ progress, Unbroken outcomes progress)) ∧
    (run.1.status = .completed ↔ r.Opens feature scenario s ∧ ∀ o ∈ outcomes, o = .successful) := by
  intro run outcomes
  have hcourse : r.ScenarioCourse feature scenario s run :=
    r.executeScenario_course feature scenario s
  refine ⟨hcourse, ?_⟩
  subst outcomes
  generalize run = run at hcourse ⊢
  cases hcourse with
  | unmade hmade _ =>
    have hclosed : ¬ r.Opens feature scenario s := by
      rintro ⟨world, s₁, made, hworld, -⟩
      rw [hmade] at hworld
      simp at hworld
    rw [map_outcome_skipped]
    exact ⟨List.length_replicate, .inl ⟨hclosed, rfl⟩, iff_of_false nofun fun h => hclosed h.1⟩
  | blocked hmade hopened _ _ =>
    have hclosed : ¬ r.Opens feature scenario s := by
      -- The world is made, so it is a hook that keeps the scenario from being opened.
      rintro ⟨world, s₁, made, hworld, hnone⟩
      rw [hmade] at hworld
      obtain ⟨⟨⟩, rfl, rfl⟩ := hworld
      rw [hopened] at hnone
      simp at hnone
    rw [map_outcome_skipped]
    exact ⟨List.length_replicate, .inl ⟨hclosed, rfl⟩, iff_of_false nofun fun h => hclosed h.1⟩
  | @attempted _ _ _ _ _ _ _ progress _ _ _ _ _ _ hmade hopened hsteps _ =>
    have hopens : r.Opens feature scenario s := ⟨_, _, _, hmade, by rw [hopened]⟩
    obtain ⟨hlength, hunbroken⟩ := hsteps.unbroken
    refine ⟨by rw [List.length_map, hlength], .inr ⟨hopens, progress, hunbroken⟩, ?_⟩
    rw [and_iff_right hopens, hunbroken.successful_iff]
    cases progress <;> simp [Progress.status]

end Rehearsal.Runner
