import Rehearsal.Proofs.Run.Chain
import Rehearsal.Proofs.Run.StepCalls

/-!
# The lifecycle of a run

Which code a run calls, in which order, and on which state. The rules `AttemptCalls`,
`ScenarioCalls`, `FeatureCalls` and `SuiteCalls` fix this level by level, for all code: each part of
a run starts from the state that the part before it leaves, changed by nothing but what the
observers do when they are told of events, and code that is called decides by how it ends, and by
the steps that it asks for, what is called next. Each level is shown of the function that runs it
and used for the next one. At each boundary the hooks after it are called whether or not those
before it failed, while what lies between the two is left out if one of those before it failed.
If the observers leave the surroundings alone, the rules allow no other calls than these.
-/

namespace Rehearsal.Runner

open Journaled

variable {W σ ν : Type}

/-! ## The rules -/

/-- The marks of a step up to its end, from one state to another, and the outcome that they lead to.
The hooks before it hold it back, or let it run on the state that they leave. -/
inductive TryCalls (r : Runner W σ ν) (feature : String) (scenario : Scenario) (step : Step)
    (t : W × σ) :
    List Mark → Outcome → W × σ → Prop
  | held {before t'} :
      r.AroundCalls (stepContext feature scenario step .beforeStep none) t before false t' →
      TryCalls r feature scenario step t before .failed t'
  | ran {before t₁ entries outcome t'} :
      r.AroundCalls (stepContext feature scenario step .beforeStep none) t before true t₁ →
      r.registry.StepCalls (r.registry.chainLimit + 1) step t₁ entries outcome t' →
      TryCalls r feature scenario step t (before ++ marks entries) outcome t'

/-- The marks of a step that is attempted. The hooks after it are called in any case and see how it
ended. The truth value tells whether the step and all hooks around it succeed. -/
inductive AttemptCalls (r : Runner W σ ν) (feature : String) (scenario : Scenario) (step : Step)
    (t : W × σ) : List Mark → Bool → W × σ → Prop
  | ended {tried outcome t₁ after ok t₂ t'} :
      r.TryCalls feature scenario step t tried outcome t₁ →
      r.AroundCalls (stepContext feature scenario step .afterStep (some outcome)) t₁ after ok t₂ →
      r.ToldBeside t₂ t' →
      AttemptCalls r feature scenario step t (tried ++ after) (outcome == .successful && ok) t'

/-- The marks of a scenario that is run. No hook is called without a world. Steps are attempted in
order, up to the first that does not succeed. -/
inductive ScenarioCalls (r : Runner W σ ν) (feature : String) (scenario : Scenario) (s : σ) :
    List Mark → σ → Prop
  | unmade {s₁ f made s₂ s'} :
      r.Told s s₁ → Called .world r.newWorld s₁ (.error f) made s₂ → r.Told s₂ s' →
      ScenarioCalls r feature scenario s (marks made) s'
  | blocked {s₁ world made s₂ before t₁ t₂ after ok t₃ s'} :
      r.Told s s₁ → Called .world r.newWorld s₁ (.ok world) made s₂ →
      r.AroundCalls (scenarioContext feature scenario .beforeScenario) (world, s₂) before false t₁ →
      r.ToldBeside t₁ t₂ →
      r.AroundCalls (scenarioContext feature scenario .afterScenario) t₂ after ok t₃ →
      r.Told t₃.2 s' →
      ScenarioCalls r feature scenario s (marks made ++ before ++ after) s'
  | attempted {s₁ world made s₂ before t₁ steps stepsOk t₂ t₃ after ok t₄ s'} :
      r.Told s s₁ → Called .world r.newWorld s₁ (.ok world) made s₂ →
      r.AroundCalls (scenarioContext feature scenario .beforeScenario) (world, s₂) before true t₁ →
      InSequence true (r.AttemptCalls feature scenario) scenario.steps t₁ steps stepsOk t₂ →
      r.ToldBeside t₂ t₃ →
      r.AroundCalls (scenarioContext feature scenario .afterScenario) t₃ after ok t₄ →
      r.Told t₄.2 s' →
      ScenarioCalls r feature scenario s (marks made ++ before ++ steps ++ after) s'

/-- The marks of a part of a run with hooks before it and after it, where there is no world.
What is between the hooks is left out if one of those before it fails; those after it are
called in any case. -/
inductive HookedCalls (r : Runner W σ ν) (beforehand afterwards : HookContext)
    (Between : σ → List Mark → σ → Prop) (s : σ) : List Mark → σ → Prop
  | blocked {s₁ before s₂ s₃ after ok s₄ s'} :
      r.Told s s₁ → r.OutsideCalls beforehand s₁ before false s₂ → r.Told s₂ s₃ →
      r.OutsideCalls afterwards s₃ after ok s₄ → r.Told s₄ s' →
      HookedCalls r beforehand afterwards Between s (before ++ after) s'
  | ran {s₁ before s₂ between s₃ after ok s₄ s'} :
      r.Told s s₁ → r.OutsideCalls beforehand s₁ before true s₂ → Between s₂ between s₃ →
      r.OutsideCalls afterwards s₃ after ok s₄ → r.Told s₄ s' →
      HookedCalls r beforehand afterwards Between s (before ++ between ++ after) s'

/-- The marks of a feature that is run. Its selected scenarios are run in order, however they
end. -/
def FeatureCalls (r : Runner W σ ν) (feature : Feature) : σ → List Mark → σ → Prop :=
  r.HookedCalls (featureContext feature .beforeFeature) (featureContext feature .afterFeature)
    (Consecutive (r.ScenarioCalls feature.name) (r.selected feature))

/-- Whether a scenario of the feature is selected. -/
def hasSelected (r : Runner W σ ν) (feature : Feature) : Bool := !(r.selected feature).isEmpty

/-- The marks of a run. The features of which a scenario is selected are run in order, however they
end. -/
def SuiteCalls (r : Runner W σ ν) (features : List Feature) : σ → List Mark → σ → Prop :=
  r.HookedCalls { scope := .beforeSuite } { scope := .afterSuite }
    (Consecutive r.FeatureCalls (features.filter r.hasSelected))

/-! ## One way only

Code is a function of the state that it is run on. So the rules leave no choice, as long as the
observers leave the surroundings alone.
-/

section

variable {r : Runner W σ ν} (hquiet : r.Quiet) (feature : String) (scenario : Scenario)

include hquiet

theorem tryCalls_determined (step : Step) (t : W × σ) :
    Determined (r.TryCalls feature scenario step t) := by
  have hbefore := r.aroundCalls_determined hquiet
    (stepContext feature scenario step .beforeStep none) t
  intro ms outcome t₁ ms' outcome' t₂ h h'
  cases h with
  | held h =>
    cases h' with
    | held h' =>
      obtain ⟨rfl, -, rfl⟩ := hbefore h h'
      exact ⟨rfl, rfl, rfl⟩
    | ran h' _ => exact nomatch (hbefore h h').2.1
  | ran h hcalls =>
    cases h' with
    | held h' => exact nomatch (hbefore h h').2.1
    | ran h' hcalls' =>
      obtain ⟨rfl, -, rfl⟩ := hbefore h h'
      obtain ⟨rfl, rfl, rfl⟩ := r.registry.stepCalls_determined _ step _ hcalls hcalls'
      exact ⟨rfl, rfl, rfl⟩

theorem attemptCalls_determined (step : Step) (t : W × σ) :
    Determined (r.AttemptCalls feature scenario step t) := by
  rintro _ _ _ _ _ _ ⟨htried, hafter, htold⟩ ⟨htried', hafter', htold'⟩
  obtain ⟨rfl, rfl, rfl⟩ := tryCalls_determined hquiet feature scenario step t htried htried'
  obtain ⟨rfl, rfl, rfl⟩ := r.aroundCalls_determined hquiet _ _ hafter hafter'
  exact ⟨rfl, rfl, htold.unique hquiet htold'⟩

theorem ScenarioCalls.unique {s s₁ s₂ : σ} {ms ms' : List Mark}
    (h : r.ScenarioCalls feature scenario s ms s₁)
    (h' : r.ScenarioCalls feature scenario s ms' s₂) :
    ms' = ms ∧ s₂ = s₁ := by
  have haround := r.aroundCalls_determined hquiet
  have hmade : ∀ {s₁ s₂ s₁' s₂' : σ} {result result' : Except Failure W}
      {made made' : List (Entry ν)},
      r.Told s s₁ ∧ Called .world r.newWorld s₁ result made s₂ →
      r.Told s s₁' ∧ Called .world r.newWorld s₁' result' made' s₂' →
      result' = result ∧ made' = made ∧ s₂' = s₂ := by
    rintro _ _ _ _ _ _ _ _ ⟨htold, hcall⟩ ⟨htold', hcall'⟩
    obtain rfl := htold.unique hquiet htold'
    exact hcall.unique hcall'
  -- For two rules to apply, the world or the hooks before the steps would have to end in two ways.
  cases h with
  | unmade htold h hlast =>
    cases h' with
    | unmade htold' h' hlast' =>
      obtain ⟨-, rfl, rfl⟩ := hmade ⟨htold, h⟩ ⟨htold', h'⟩
      exact ⟨rfl, hlast.unique hquiet hlast'⟩
    | blocked htold' h' | attempted htold' h' => exact nomatch (hmade ⟨htold, h⟩ ⟨htold', h'⟩).1
  | blocked htold h hbefore hskipped hafter hlast =>
    cases h' with
    | unmade htold' h' => exact nomatch (hmade ⟨htold, h⟩ ⟨htold', h'⟩).1
    | blocked htold' h' hbefore' hskipped' hafter' hlast' =>
      obtain ⟨hworld, rfl, rfl⟩ := hmade ⟨htold, h⟩ ⟨htold', h'⟩
      obtain rfl := Except.ok.inj hworld
      obtain ⟨rfl, -, rfl⟩ := haround _ _ hbefore hbefore'
      obtain rfl := hskipped.unique hquiet hskipped'
      obtain ⟨rfl, -, rfl⟩ := haround _ _ hafter hafter'
      exact ⟨rfl, hlast.unique hquiet hlast'⟩
    | attempted htold' h' hbefore' =>
      obtain ⟨hworld, rfl, rfl⟩ := hmade ⟨htold, h⟩ ⟨htold', h'⟩
      obtain rfl := Except.ok.inj hworld
      exact nomatch (haround _ _ hbefore hbefore').2.1
  | attempted htold h hbefore hsteps hskipped hafter hlast =>
    cases h' with
    | unmade htold' h' => exact nomatch (hmade ⟨htold, h⟩ ⟨htold', h'⟩).1
    | blocked htold' h' hbefore' =>
      obtain ⟨hworld, rfl, rfl⟩ := hmade ⟨htold, h⟩ ⟨htold', h'⟩
      obtain rfl := Except.ok.inj hworld
      exact nomatch (haround _ _ hbefore hbefore').2.1
    | attempted htold' h' hbefore' hsteps' hskipped' hafter' hlast' =>
      obtain ⟨hworld, rfl, rfl⟩ := hmade ⟨htold, h⟩ ⟨htold', h'⟩
      obtain rfl := Except.ok.inj hworld
      obtain ⟨rfl, -, rfl⟩ := haround _ _ hbefore hbefore'
      have hattempts := attemptCalls_determined hquiet feature scenario
      obtain ⟨rfl, -, rfl⟩ := InSequence.determined hattempts _ _ hsteps hsteps'
      obtain rfl := hskipped.unique hquiet hskipped'
      obtain ⟨rfl, -, rfl⟩ := haround _ _ hafter hafter'
      exact ⟨rfl, hlast.unique hquiet hlast'⟩

theorem HookedCalls.unique {beforehand afterwards : HookContext}
    {Between : σ → List Mark → σ → Prop}
    (hbetween : ∀ ⦃s ms s₁ ms' s₂⦄, Between s ms s₁ → Between s ms' s₂ → ms' = ms ∧ s₂ = s₁)
    {s s₁ s₂ : σ} {ms ms' : List Mark} (h : r.HookedCalls beforehand afterwards Between s ms s₁)
    (h' : r.HookedCalls beforehand afterwards Between s ms' s₂) : ms' = ms ∧ s₂ = s₁ := by
  have houtside := r.outsideCalls_determined hquiet
  cases h with
  | blocked htold h hskipped hafter hlast =>
    cases h' with
    | blocked htold' h' hskipped' hafter' hlast' =>
      obtain rfl := htold.unique hquiet htold'
      obtain ⟨rfl, -, rfl⟩ := houtside _ _ h h'
      obtain rfl := hskipped.unique hquiet hskipped'
      obtain ⟨rfl, -, rfl⟩ := houtside _ _ hafter hafter'
      exact ⟨rfl, hlast.unique hquiet hlast'⟩
    | ran htold' h' =>
      obtain rfl := htold.unique hquiet htold'
      exact nomatch (houtside _ _ h h').2.1
  | ran htold h hpart hafter hlast =>
    cases h' with
    | blocked htold' h' =>
      obtain rfl := htold.unique hquiet htold'
      exact nomatch (houtside _ _ h h').2.1
    | ran htold' h' hpart' hafter' hlast' =>
      obtain rfl := htold.unique hquiet htold'
      obtain ⟨rfl, -, rfl⟩ := houtside _ _ h h'
      obtain ⟨rfl, rfl⟩ := hbetween hpart hpart'
      obtain ⟨rfl, -, rfl⟩ := houtside _ _ hafter hafter'
      exact ⟨rfl, hlast.unique hquiet hlast'⟩

theorem FeatureCalls.unique {feature : Feature} {s s₁ s₂ : σ} {ms ms' : List Mark}
    (h : r.FeatureCalls feature s ms s₁) (h' : r.FeatureCalls feature s ms' s₂) :
    ms' = ms ∧ s₂ = s₁ := by
  refine HookedCalls.unique hquiet ?_ h h'
  intro _ _ _ _ _ hone hother
  exact hone.unique hother fun scenario _ _ _ _ _ =>
    ScenarioCalls.unique hquiet feature.name scenario

/-- At most one list of marks and one state are those of a run. -/
theorem SuiteCalls.unique {features : List Feature} {s s₁ s₂ : σ} {ms ms' : List Mark}
    (h : r.SuiteCalls features s ms s₁) (h' : r.SuiteCalls features s ms' s₂) :
    ms' = ms ∧ s₂ = s₁ := by
  refine HookedCalls.unique hquiet ?_ h h'
  intro _ _ _ _ _ hone hother
  exact hone.unique hother fun _ _ _ _ _ _ => FeatureCalls.unique hquiet

end

/-! ## Steps -/

/-- Telling of the record of a step leaves no marks. -/
theorem record_marks (r : Runner W σ ν) (feature : String) (scenario : Scenario)
    (report : StepReport) :
    (r.record feature scenario report).Ensures fun told entries =>
      told = report ∧ marks entries = [] := by
  refine (r.tell_marks _).bind fun _ before hbefore => Ensures.pure ⟨rfl, ?_⟩
  rw [List.append_nil, hbefore]

theorem record_onlyTells (r : Runner W σ ν) (feature : String) (scenario : Scenario)
    (report : StepReport) : r.OnlyTells (r.record feature scenario report) :=
  (r.tell_onlyTells _).bind fun _ => .pure report

/-- A hook that fails before a step is the end of the step. -/
theorem tryStep_calls (r : Runner W σ ν) (feature : String) (scenario : Scenario) (step : Step)
    (t : W × σ) :
    (r.tryStep feature scenario step).From t fun report entries t' =>
      r.TryCalls feature scenario step t (marks entries) report.outcome t' := by
  refine (r.fireAround_calls feature scenario _ t).bind fun failures before t₁ hbefore => ?_
  cases failures with
  | cons failure rest =>
    refine .pure ?_
    rw [List.append_nil]
    exact .held hbefore
  | nil =>
    refine (r.registry.execute_calls step t₁).mono fun report calls t' hcalls => ?_
    rw [marks_append]
    exact .ran hbefore hcalls

/-- A step that is tried is not skipped. -/
theorem TryCalls.ne_skipped {r : Runner W σ ν} {feature : String} {scenario : Scenario}
    {step : Step} {t t' : W × σ} {ms : List Mark} {outcome : Outcome}
    (h : r.TryCalls feature scenario step t ms outcome t') : outcome ≠ .skipped := by
  cases h with
  | held _ => exact nofun
  | ran _ hcalls => exact hcalls.ne_skipped

/-- Nor is its record. -/
theorem tryStep_ne_skipped (r : Runner W σ ν) (feature : String) (scenario : Scenario)
    (step : Step) :
    (r.tryStep feature scenario step).Ensures fun report _ => report.outcome ≠ .skipped :=
  fun t => (r.tryStep_calls feature scenario step t).ne_skipped

/-- Failures of hooks after a step do not make it skipped. -/
theorem absorb_ne_skipped {step : Step} {report : StepReport} (failures : List HookFailure)
    (h : report.outcome ≠ .skipped) : (absorb step report failures).1.outcome ≠ .skipped := by
  cases failures with
  | nil => exact h
  | cons failure rest =>
    by_cases hsuccess : report.outcome = .successful
    · simp [absorb, hsuccess]
    · simpa [absorb, hsuccess] using h

/-- A step succeeds with the hooks after it if it does and they do. -/
theorem absorb_successful (step : Step) (report : StepReport) (failures : List HookFailure) :
    ((absorb step report failures).1.outcome == .successful) =
      (report.outcome == .successful && failures.isEmpty) := by
  cases failures with
  | nil => simp [absorb]
  | cons failure rest =>
    by_cases hsuccess : report.outcome = .successful
    · simp [absorb, hsuccess]
    · simp [absorb, hsuccess]

/-- A step that is attempted leads into failure mode exactly if it or a hook around it fails. -/
theorem attemptStep_calls (r : Runner W σ ν) (feature : String) (scenario : Scenario) (step : Step)
    (t : W × σ) :
    (r.attemptStep feature scenario step).From t fun result entries t' =>
      ∀ t'', r.ToldBeside t' t'' → r.AttemptCalls feature scenario step t (marks entries)
        (!result.1.outcome.entersFailureMode) t'' := by
  refine (r.tryStep_calls feature scenario step t).bind fun report tried t₁ htried => ?_
  refine (r.fireAround_calls feature scenario _ t₁).bind fun failures after t' hafter => .pure ?_
  intro t'' htold
  rw [List.append_nil, marks_append, Outcome.entersFailureMode_of_ne_skipped
    (absorb_ne_skipped failures htried.ne_skipped), absorb_successful, Bool.not_not]
  exact .ended htried hafter htold

/-- Telling of the records of all steps gives them back and leaves no marks. -/
theorem recordSteps_marks (r : Runner W σ ν) (feature : String) (scenario : Scenario)
    (preview : Step → StepReport) :
    (r.recordSteps feature scenario preview).Ensures fun reports entries =>
      reports = scenario.steps.map preview ∧ marks entries = [] :=
  forEach_quiet scenario.steps fun step => r.record_marks feature scenario (preview step)

theorem recordSteps_onlyTells (r : Runner W σ ν) (feature : String) (scenario : Scenario)
    (preview : Step → StepReport) : r.OnlyTells (r.recordSteps feature scenario preview) :=
  .forEach scenario.steps fun step => r.record_onlyTells feature scenario (preview step)

/-- In failure mode nothing is called any more, and it is not left. -/
theorem attemptSteps_failureMode_marks (r : Runner W σ ν) (feature : String) (scenario : Scenario)
    (steps : List Step) (t : W × σ) :
    (r.attemptSteps feature scenario .failureMode steps).From t fun result entries t' =>
      marks entries = [] ∧ result.2.2 = .failureMode ∧ r.ToldBeside t t' := by
  induction steps generalizing t with
  | nil => exact .pure ⟨rfl, rfl, rfl, .refl⟩
  | cons step rest ih =>
    obtain ⟨w, s⟩ := t
    refine From.bind (P := fun _ before t₁ => marks before = [] ∧ r.ToldBeside (w, s) t₁)
      (From.beside ?_) fun report before t₁ ⟨hbefore, hworld, htold⟩ => ?_
    · exact (r.record_onlyTells feature scenario _ s).mono fun _ _ s' h => ⟨h.1, rfl, h.2⟩
    · refine (ih t₁).bind fun ⟨_, _, _⟩ after t' ⟨hafter, hmode, hworld', htold'⟩ => .pure ?_
      rw [List.append_nil, marks_append, hbefore, hafter, List.append_nil]
      exact ⟨rfl, hmode, hworld'.trans hworld, htold.trans htold'⟩

/-- Steps are attempted in order, up to the first that does not succeed. What is told of the others
then leaves no marks. -/
theorem attemptSteps_calls (r : Runner W σ ν) (feature : String) (scenario : Scenario)
    (steps : List Step) (t : W × σ) :
    (r.attemptSteps feature scenario .running steps).From t fun result entries t' =>
      ∃ t₁, InSequence true (r.AttemptCalls feature scenario) steps t (marks entries)
        (result.2.2 == .running) t₁ ∧ r.ToldBeside t₁ t' := by
  induction steps generalizing t with
  | nil => exact .pure ⟨t, .done, rfl, .refl⟩
  | cons step rest ih =>
    refine (r.attemptStep_calls feature scenario step t).bind
      fun ⟨report, unabsorbed⟩ before ⟨w, s⟩ hbefore => ?_
    -- The record is told of beside the world that the attempt leaves.
    refine From.bind (P := fun told between t₁ => told = report ∧ marks between = [] ∧
      r.ToldBeside (w, s) t₁) (From.beside ?_) fun told between t₁ ⟨htold, hbetween, hbeside⟩ => ?_
    · exact ⟨(r.record_marks feature scenario report s).1,
        (r.record_onlyTells feature scenario report s).1, rfl,
          (r.record_onlyTells feature scenario report s).2⟩
    subst htold
    have hattempt := hbefore t₁ hbeside
    have hmarks : ∀ after, marks (before ++ (between ++ (after ++ []))) =
        marks before ++ marks after := by
      intro after
      rw [List.append_nil, marks_append, marks_append, hbetween, List.nil_append]
    cases hmode : told.outcome.entersFailureMode with
    | true =>
      -- The other steps are skipped, which leaves no marks.
      have hstop : (r.attemptSteps feature scenario
          (Progress.running.after told.outcome) rest).From t₁
          fun result entries t' =>
            marks entries = [] ∧ result.2.2 = .failureMode ∧ r.ToldBeside t₁ t' := by
        rw [Progress.after, if_pos hmode]
        exact r.attemptSteps_failureMode_marks feature scenario rest t₁
      refine hstop.bind fun ⟨reports, failures, progress⟩ after t' ⟨hafter, hprogress, htold⟩ =>
        .pure ⟨t₁, ?_, htold⟩
      rw [hmarks, hafter, List.append_nil, show progress = .failureMode from hprogress]
      rw [hmode] at hattempt
      exact .stopped rfl hattempt
    | false =>
      have hgo : (r.attemptSteps feature scenario
          (Progress.running.after told.outcome) rest).From t₁
          fun result entries t' => ∃ t₂, InSequence true (r.AttemptCalls feature scenario) rest t₁
            (marks entries) (result.2.2 == .running) t₂ ∧ r.ToldBeside t₂ t' := by
        rw [Progress.after, if_neg (by simp [hmode])]
        exact ih t₁
      refine hgo.bind fun ⟨reports, failures, progress⟩ after t' ⟨t₂, hafter, htold⟩ =>
        .pure ⟨t₂, ?_, htold⟩
      rw [hmarks]
      rw [hmode] at hattempt
      exact .passed hattempt hafter

/-! ## Scenarios, features and the whole run -/

/-- The calls of a scenario on its world, between its hooks. -/
theorem runOnWorld_calls (r : Runner W σ ν) (feature : String) (scenario : Scenario) {s s₁ s₂ : σ}
    {world : W} {made : List (Entry ν)} (htold : r.Told s s₁)
    (hmade : Called .world r.newWorld s₁ (.ok world) made s₂) :
    (r.runOnWorld feature scenario).From (world, s₂) fun _ entries t' => ∀ s', r.Told t'.2 s' →
      r.ScenarioCalls feature scenario s (marks made ++ marks entries) s' := by
  refine (r.fireAround_calls feature scenario _ _).bind fun failures before t₁ hbefore => ?_
  cases failures with
  | cons failure rest =>
    -- A hook before the scenario has failed: between the hooks there are no marks.
    refine (r.attemptSteps_failureMode_marks feature scenario _ t₁).bind
      fun ⟨_, _, _⟩ steps t₂ ⟨hsteps, _, hskipped⟩ => ?_
    refine (r.fireAround_calls feature scenario _ t₂).bind fun afters after t₃ hafter => .pure ?_
    intro s' hlast
    rw [List.append_nil, marks_append, marks_append, hsteps, List.nil_append, ← List.append_assoc]
    exact .blocked htold hmade hbefore hskipped hafter hlast
  | nil =>
    refine (r.attemptSteps_calls feature scenario _ t₁).bind
      fun ⟨_, _, progress⟩ steps t₃ ⟨t₂, hsteps, hskipped⟩ => ?_
    refine (r.fireAround_calls feature scenario _ t₃).bind fun afters after t₄ hafter => .pure ?_
    intro s' hlast
    rw [List.append_nil, marks_append, marks_append, ← List.append_assoc, ← List.append_assoc]
    exact .attempted htold hmade hbefore hsteps hskipped hafter hlast

/-- The calls of a scenario that is run. -/
theorem executeScenario_calls (r : Runner W σ ν) (feature : String) (scenario : Scenario) {s s₁ : σ}
    (htold : r.Told s s₁) :
    (r.executeScenario feature scenario).From s₁ fun _ entries s₂ => ∀ s', r.Told s₂ s' →
      r.ScenarioCalls feature scenario s (marks entries) s' := by
  refine (calling_called _ _ s₁).bind fun made first s₂ hfirst => ?_
  cases made with
  | ok world =>
    refine From.bind (From.within (P := fun _ entries s₃ => ∀ s', r.Told s₃ s' →
      r.ScenarioCalls feature scenario s (marks first ++ marks entries) s')
      (r.runOnWorld_calls feature scenario htold hfirst)) fun result entries s₃ hentries => .pure ?_
    rw [List.append_nil, marks_append]
    exact hentries
  | error f =>
    refine (r.tellHookFailures_onlyTells _ _ _ s₂).bind fun _ before s₃ ⟨hbefore, htold₃⟩ => ?_
    refine (r.recordSteps_onlyTells feature scenario _ s₃).bind
      fun _ after s₄ ⟨hafter, htold₄⟩ => .pure ?_
    intro s' hlast
    rw [List.append_nil, marks_append, marks_append, hbefore, hafter, List.append_nil,
      List.append_nil]
    exact .unmade htold hfirst ((htold₃.trans htold₄).trans hlast)

/-- A scenario that is blocked calls nothing. -/
theorem scenarioReport_onlyTells (r : Runner W σ ν) (feature : String) (scenario : Scenario) :
    r.OnlyTells (r.scenarioReport feature scenario true) := by
  refine (r.tell_onlyTells _).bind fun _ => ?_
  simp only [↓reduceIte, pure_bind]
  refine (r.recordSteps_onlyTells feature scenario _).bind fun steps => ?_
  exact (r.tell_onlyTells _).bind fun _ => .pure _

/-- Told of at its start and its end, a scenario calls what running it calls. -/
theorem scenarioReport_calls (r : Runner W σ ν) (hlive : r.dryRun = false) (feature : String)
    (scenario : Scenario) (s : σ) :
    (r.scenarioReport feature scenario false).From s fun _ entries s' =>
      r.ScenarioCalls feature scenario s (marks entries) s' := by
  refine (r.tell_onlyTells _ s).bind fun _ first s₁ ⟨hfirst, htold⟩ => ?_
  simp only [hlive, Bool.false_eq_true, ↓reduceIte]
  refine (r.executeScenario_calls feature scenario htold).bind fun report between s₂ hbetween => ?_
  refine (r.tell_onlyTells _ s₂).bind fun _ last s' ⟨hlast, htold'⟩ => .pure ?_
  rw [List.append_nil, marks_append, marks_append, hfirst, hlast, List.append_nil, List.nil_append]
  exact hbetween s' htold'

/-- A feature without selected scenarios is left out. -/
theorem featureReport_unselected (r : Runner W σ ν) (feature : Feature) (suiteBlocked : Bool)
    (hnone : r.hasSelected feature = false) : r.featureReport feature suiteBlocked = pure none := by
  have hselected : (r.selected feature).isEmpty = true := by simpa [hasSelected] using hnone
  simp only [featureReport, hselected, ↓reduceIte]

/-- A feature of a run that is blocked calls nothing. -/
theorem featureReport_onlyTells (r : Runner W σ ν) (feature : Feature) :
    r.OnlyTells (r.featureReport feature true) := by
  cases hselected : r.hasSelected feature with
  | false =>
    rw [r.featureReport_unselected feature true hselected]
    exact .pure none
  | true =>
    -- Scenarios are selected, but no hooks are run around the feature.
    have hsome : (r.selected feature).isEmpty = false := by simpa [hasSelected] using hselected
    simp only [featureReport, hsome, Bool.false_eq_true, Bool.not_true,
      Bool.false_and, Bool.true_or, ↓reduceIte, pure_bind]
    refine (r.tell_onlyTells _).bind fun _ => ?_
    refine (OnlyTells.forEach _ (r.scenarioReport_onlyTells feature.name)).bind fun reports => ?_
    exact (r.tell_onlyTells _).bind fun _ => .pure _

/-- The calls of a feature that is run. -/
theorem featureReport_calls (r : Runner W σ ν) (hlive : r.dryRun = false) (feature : Feature)
    (hselected : r.hasSelected feature = true) (s : σ) :
    (r.featureReport feature false).From s fun _ entries s' =>
      r.FeatureCalls feature s (marks entries) s' := by
  have hsome : (r.selected feature).isEmpty = false := by simpa [hasSelected] using hselected
  simp only [featureReport, hsome, hlive, Bool.false_eq_true, Bool.not_false, Bool.and_true,
    Bool.false_or, ↓reduceIte]
  refine (r.tell_onlyTells _ s).bind fun _ first s₁ ⟨hfirst, htold⟩ => ?_
  refine (r.fireOutside_calls _ s₁).bind fun failures before s₂ hbefore => ?_
  cases failures with
  | cons failure rest =>
    have hscenarios := OnlyTells.forEach (r.selected feature)
      (r.scenarioReport_onlyTells feature.name)
    refine (hscenarios s₂).bind fun reports between s₃ ⟨hbetween, hblocked⟩ => ?_
    refine (r.fireOutside_calls _ s₃).bind fun afters after s₄ hafter => ?_
    refine (r.tell_onlyTells _ s₄).bind fun _ last s' ⟨hlast, htold'⟩ => .pure ?_
    rw [List.append_nil]
    simp only [marks_append, hfirst, hbetween, hlast, List.nil_append, List.append_nil]
    exact .blocked htold hbefore hblocked hafter htold'
  | nil =>
    have hscenarios := forEach_consecutive _ (r.selected feature)
      (r.scenarioReport_calls hlive feature.name)
    refine (hscenarios s₂).bind fun reports between s₃ hbetween => ?_
    refine (r.fireOutside_calls _ s₃).bind fun afters after s₄ hafter => ?_
    refine (r.tell_onlyTells _ s₄).bind fun _ last s' ⟨hlast, htold'⟩ => .pure ?_
    rw [List.append_nil]
    simp only [marks_append, hfirst, hlast, List.nil_append, List.append_nil]
    rw [← List.append_assoc]
    exact .ran htold hbefore hbetween hafter htold'

/-- Features are run in order; those without selected scenarios leave no marks. -/
theorem features_calls (r : Runner W σ ν) (hlive : r.dryRun = false) (features : List Feature)
    (s : σ) :
    (forEach (fun feature => r.featureReport feature false) features).From s fun _ entries s' =>
      Consecutive r.FeatureCalls (features.filter r.hasSelected) s (marks entries) s' := by
  have hparts := forEach_consecutive
    (fun feature s ms s' => if r.hasSelected feature then r.FeatureCalls feature s ms s'
      else ms = [] ∧ s' = s)
    features fun feature s => show (r.featureReport feature false).From s _ by
      cases hselected : r.hasSelected feature with
      | true => simpa using r.featureReport_calls hlive feature hselected s
      | false =>
        rw [r.featureReport_unselected feature false hselected]
        exact .pure (by simp)
  refine (hparts s).mono fun _ entries s' h => h.filter r.hasSelected ?_ ?_
  · intro feature s ms s' hselected hms
    rwa [if_pos hselected] at hms
  · intro feature s ms s' hselected hms
    rwa [if_neg (by simp [hselected])] at hms

/-- A run that is opened has called the hooks before it. -/
theorem startSuite_calls (r : Runner W σ ν) (hlive : r.dryRun = false) (features : Nat) (s : σ) :
    (r.startSuite features).From s fun failures entries s' => ∃ s₁, r.Told s s₁ ∧
      r.OutsideCalls { scope := .beforeSuite } s₁ (marks entries) failures.isEmpty s' := by
  refine (r.tell_onlyTells _ s).bind fun _ first s₁ ⟨hfirst, htold⟩ => ?_
  simp only [hlive, Bool.false_eq_true, ↓reduceIte]
  refine (r.fireOutside_calls _ s₁).mono fun failures before s' hbefore => ⟨s₁, htold, ?_⟩
  rw [marks_append, hfirst, List.nil_append]
  exact hbefore

/-- A run that is closed has called the hooks after it. -/
theorem finishSuite_calls (r : Runner W σ ν) (hlive : r.dryRun = false)
    (features : List FeatureReport) (before : List HookFailure) (s : σ) :
    (r.finishSuite features before).From s fun _ entries s' => ∃ ok s₁,
      r.OutsideCalls { scope := .afterSuite } s (marks entries) ok s₁ ∧ r.Told s₁ s' := by
  unfold finishSuite
  simp only [hlive, Bool.false_eq_true, ↓reduceIte]
  refine (r.fireOutside_calls _ s).bind fun afters after s₁ hafter => ?_
  refine (r.tell_onlyTells _ s₁).bind fun _ last s' ⟨hlast, htold⟩ =>
    .pure ⟨afters.isEmpty, s₁, ?_, htold⟩
  rw [List.append_nil, marks_append, hlast, List.append_nil]
  exact hafter

/-- A run calls the hooks before it, then its features unless it is blocked, and then the hooks
after it. -/
theorem run_calls (r : Runner W σ ν) (hlive : r.dryRun = false) (features : List Feature) (s : σ) :
    (r.run features).From s fun _ entries s' => r.SuiteCalls features s (marks entries) s' := by
  refine (r.startSuite_calls hlive _ s).bind fun failures before s₂ ⟨s₁, htold, hbefore⟩ => ?_
  cases failures with
  | cons failure rest =>
    have hquiet := OnlyTells.forEach features r.featureReport_onlyTells
    refine (hquiet s₂).bind fun reports between s₃ ⟨hbetween, hblocked⟩ => ?_
    refine (r.finishSuite_calls hlive _ _ s₃).mono fun report after s' ⟨ok, s₄, hafter, hlast⟩ => ?_
    rw [marks_append, marks_append, hbetween, List.nil_append]
    exact .blocked htold hbefore hblocked hafter hlast
  | nil =>
    refine From.bind (r.features_calls hlive features s₂) fun reports between s₃ hbetween => ?_
    refine (r.finishSuite_calls hlive _ _ s₃).mono fun report after s' ⟨ok, s₄, hafter, hlast⟩ => ?_
    rw [marks_append, marks_append, ← List.append_assoc]
    exact .ran htold hbefore hbetween hafter hlast

/-- A run makes the calls that `SuiteCalls` says, in this order and to this extent: from state to
state, as the code that is called has it. They are the only ones that `SuiteCalls` allows, so the
rules say exactly which calls a run makes, if the observers leave the surroundings alone. -/
theorem run_lifecycle (r : Runner W σ ν) (hlive : r.dryRun = false) (features : List Feature)
    (s : σ) :
    let after := (r.run features).run s
    r.SuiteCalls features s (marks after.2.2) after.2.1 ∧
    (r.Quiet → ∀ ms s', r.SuiteCalls features s ms s' → ms = marks after.2.2 ∧ s' = after.2.1) := by
  intro after
  have hcalls : r.SuiteCalls features s (marks after.2.2) after.2.1 := r.run_calls hlive features s
  exact ⟨hcalls, fun hquiet ms s' h => SuiteCalls.unique hquiet hcalls h⟩

/-- A hook that does nothing. -/
def idle (scope : HookScope) : HookDefinition Nat Unit Unit :=
  ⟨scope, none, fun _ => pure (.done ())⟩

/-- A runner whose steps count, with one hook at each boundary, and with one observer. -/
def counted : Runner Nat Unit Unit where
  registry := { Registry.tally with hooks := HookScope.all.map idle }
  newWorld := (pure (.done 0) : Journaled Unit Unit (Verdict Nat))
  observers := [{}]

/-- A scenario of one step, which asks for two others. -/
def doublingScenario : Scenario := { name := "double", steps := [Registry.letterStep 'd'] }

/-- A feature of one scenario. -/
def doublingFeature : Feature := { name := "double", definitions := [.scenario doublingScenario] }

/-- The hook at a boundary is called and leaves everything alone. -/
theorem counted_firing (context : HookContext) (index : Nat)
    (h : counted.registry.firingHooks context = [(idle context.scope, index)])
    (s : Option Nat × Unit) :
    counted.registry.FiringCalls context s [.called (.hook index context)] true s := by
  have hcode : (idle context.scope).code context s = (.done (), s, []) := rfl
  have hcall : HookCalls context (idle context.scope, index) s _ true s :=
    HookCalls.intro (.of_done hcode)
  rw [Registry.FiringCalls, h]
  exact InSequence.passed hcall .done

theorem counted_outside (context : HookContext) (index : Nat)
    (h : counted.registry.firingHooks context = [(idle context.scope, index)]) :
    counted.OutsideCalls context () [.called (.hook index context)] true () :=
  ⟨(), ⟨none, counted_firing context index h _⟩, rfl⟩

theorem counted_around (context : HookContext) (index : Nat)
    (h : counted.registry.firingHooks context = [(idle context.scope, index)])
    (t : Nat × Unit) : counted.AroundCalls context t [.called (.hook index context)] true t :=
  ⟨t, ⟨some t.1, counted_firing context index h _, rfl⟩, rfl⟩

/-- A step that asks for two others calls what these do. -/
theorem counted_step (t : Nat × Unit) :
    counted.registry.StepCalls 3 (Registry.letterStep 'd') t
      (["d", "c", "c"].map (.called <| .step ·)) .successful
      (t.1 + 2, t.2) := by
  have hcalls := counted.registry.execute_calls (Registry.letterStep 'd') t
  have hsteps : counted.registry.steps = Registry.tally.steps := rfl
  have hresolve := (Registry.resolve_of_steps hsteps _).trans (Registry.resolve_tally 'd')
  have hchain : counted.registry.runChain
      [Registry.letterStep 'c', Registry.letterStep 'c'] t = _ :=
    Registry.runEach_counting hsteps 1 t
  rw [From, Registry.execute_of_call hresolve (counted.registry.callStep_doubling t),
    Registry.invokedAfter, bind_apply, hchain] at hcalls
  exact hcalls

/-- The calls of a run of this feature. -/
def doublingCalls : List Mark :=
  let step := Registry.letterStep 'd'
  [.called (.hook 0 { scope := .beforeSuite }),
   .called (.hook 2 (featureContext doublingFeature .beforeFeature)),
   .called .world,
   .called (.hook 4 (scenarioContext "double" doublingScenario .beforeScenario)),
   .called (.hook 6 (stepContext "double" doublingScenario step .beforeStep none)),
   .called (.step "d"), .called (.step "c"), .called (.step "c"),
   .called (.hook 7 (stepContext "double" doublingScenario step .afterStep (some .successful))),
   .called (.hook 5 (scenarioContext "double" doublingScenario .afterScenario)),
   .called (.hook 3 (featureContext doublingFeature .afterFeature)),
   .called (.hook 1 { scope := .afterSuite })]

theorem counted_suite : counted.SuiteCalls [doublingFeature] () doublingCalls () := by
  have haround := fun scope => counted_around (scenarioContext "double" doublingScenario scope)
  have hstep := fun scope outcome =>
    counted_around (stepContext "double" doublingScenario (Registry.letterStep 'd') scope outcome)
  have houtside := fun scope => counted_outside (featureContext doublingFeature scope)
  have hattempt := AttemptCalls.ended
    (.ran (hstep .beforeStep none 6 rfl (0, ())) (counted_step (0, ())))
    (hstep .afterStep (some .successful) 7 rfl (2, ())) ⟨rfl, .refl⟩
  have hscenario := ScenarioCalls.attempted .refl (.of_done rfl)
    (haround .beforeScenario 4 rfl (0, ())) (.passed hattempt .done) ⟨rfl, .refl⟩
    (haround .afterScenario 5 rfl (2, ())) .refl
  have hfeature : counted.FeatureCalls doublingFeature () _ () :=
    HookedCalls.ran .refl (houtside .beforeFeature 2 rfl) (Consecutive.cons hscenario .nil)
      (houtside .afterFeature 3 rfl) .refl
  exact HookedCalls.ran .refl (counted_outside { scope := .beforeSuite } 0 rfl)
    (Consecutive.cons hfeature .nil) (counted_outside { scope := .afterSuite } 1 rfl) .refl

/-- The lifecycle at work: every hook is called in its turn, and the steps that the
step asks for after it. -/
theorem counted_lifecycle :
    counted.dryRun = false ∧ counted.Quiet ∧
    counted.SuiteCalls [doublingFeature] () doublingCalls () ∧
    doublingCalls = marks ((counted.run [doublingFeature]).run ()).2.2 := by
  have hlive : counted.dryRun = false := rfl
  have hquiet : counted.Quiet := fun _ _ => rfl
  obtain ⟨-, hunique⟩ := counted.run_lifecycle hlive [doublingFeature] ()
  exact ⟨hlive, hquiet, counted_suite, (hunique hquiet doublingCalls () counted_suite).1⟩

/-- A runner with one hook at each boundary, none of which fails, with one observer and without step
definitions. -/
def hooked : Runner Unit Unit Unit where
  registry := { hooks := HookScope.all.map fun scope => ⟨scope, none, fun _ => pure (.done ())⟩ }
  newWorld := (pure (.done ()) : Journaled Unit Unit (Verdict Unit))
  observers := [{}]

/-- A scenario of one step. -/
def shortScenario : Scenario := { name := "short", steps := [⟨.given, "nothing", none⟩] }

/-- A feature of one scenario. -/
def shortFeature : Feature := { name := "short", definitions := [.scenario shortScenario] }

end Rehearsal.Runner
