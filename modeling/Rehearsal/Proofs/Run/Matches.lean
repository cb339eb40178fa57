import Rehearsal.Proofs.Run.Chain
import Rehearsal.Proofs.Run.FailureMode
import Rehearsal.Proofs.Run.LostWorkers
import Rehearsal.Proofs.Run.Records

/-!
# Matches in records

A step that is run has one definition at most, and its record tells which and what that captured,
however the step ends. But a hook that fails after a step that succeeded makes a record of its own,
as of a step that was not looked up at all: it tells of no definition. This is the only way in which
the match of a step that was run is lost.
-/

namespace Rehearsal

open Journaled

variable {W σ ν : Type}

/-! ## One step -/

/-- The record tells of the definition of the step and of what its pattern captured. -/
structure StepReport.Tells (report : StepReport) (definition : StepDefinition W σ ν)
    (captures : List String) :
    Prop where
  /-- The pattern is that of the definition. -/
  pattern : report.pattern = some definition.pattern.source
  /-- The arguments are what it captured. -/
  arguments : report.arguments = captures

/-- The record tells of no definition. -/
structure StepReport.Silent (report : StepReport) : Prop where
  /-- There is no pattern. -/
  pattern : report.pattern = none
  /-- There are no arguments. -/
  arguments : report.arguments = []

/-- The record of a step that is run tells of its definition, however the step ends. -/
theorem Registry.execute_tells (r : Registry W σ ν) {step : Step}
    {definition : StepDefinition W σ ν} {captures : List String}
    (hmatch : r.resolve step.text = .unique definition captures) :
    (r.execute step).Ensures fun report _ => report.Tells definition captures := by
  unfold execute
  rw [hmatch]
  exact (Ensures.any _).bind fun _ _ _ => Ensures.pure ⟨rfl, rfl⟩

namespace Runner

variable {r : Runner W σ ν} {feature : String} {scenario : Scenario}

/-- Failures of hooks after a step silence its record exactly if it succeeded. -/
theorem absorb_tells {step : Step} {executed : StepReport} {definition : StepDefinition W σ ν}
    {captures : List String} (h : executed.Tells definition captures)
    (failures : List HookFailure) :
    if executed.outcome = .successful ∧ failures ≠ [] then (absorb step executed failures).1.Silent
    else (absorb step executed failures).1.Tells definition captures := by
  cases failures with
  | nil =>
    rw [if_neg fun hboth => hboth.2 rfl]
    exact h
  | cons failure rest =>
    rw [absorb]
    by_cases hsuccess : executed.outcome = .successful
    · rw [if_pos hsuccess, if_pos ⟨hsuccess, List.cons_ne_nil _ _⟩]
      exact ⟨rfl, rfl⟩
    · rw [if_neg hsuccess, if_neg fun hboth => hsuccess hboth.1]
      exact h

/-- Unless a hook before it fails, a step is tried by running it. -/
theorem tryStep_match {step : Step} {t : W × σ}
    (hbefore : (r.fireAround feature scenario
      (stepContext feature scenario step .beforeStep none) t).1 = [])
    {definition : StepDefinition W σ ν} {captures : List String}
    (hmatch : r.registry.resolve step.text = .unique definition captures) :
    (r.tryStep feature scenario step t).1.Tells definition captures := by
  rw [tryStep, bind_apply, hbefore]
  exact r.registry.execute_tells hmatch _

/-- The record of a step that is attempted from a state on, and the failures of
the hooks after it. -/
theorem attempt_value (r : Runner W σ ν) (feature : String) (scenario : Scenario) (step : Step)
    (t : W × σ) :
    let tried := r.tryStep feature scenario step t
    (r.attempt feature scenario step t).1 = absorb step tried.1
      (r.fireAround feature scenario
        (stepContext feature scenario step .afterStep (some tried.1.outcome))
        tried.2.1).1 := by
  intro tried
  have htried : r.tryStep feature scenario step t = (tried.1, tried.2.1, tried.2.2) := rfl
  rcases hclosed : r.fireAround feature scenario (stepContext feature scenario step .afterStep
    (some tried.1.outcome)) tried.2.1 with ⟨failures, ⟨w, s⟩, closing⟩
  rw [r.attempt_apply feature scenario step htried hclosed]

/-! ## The steps of a scenario -/

/-- Steps are attempted one after the other from a state on, all of them succeed, and they
leave another state. -/
inductive Passes (r : Runner W σ ν) (feature : String) (scenario : Scenario) :
    W × σ → List Step → W × σ → Prop
  | nil {t} : Passes r feature scenario t [] t
  | cons {t step rest t'} : (r.attempt feature scenario step t).1.1.outcome = .successful →
      Passes r feature scenario (r.attempt feature scenario step t).2.1 rest t' →
      Passes r feature scenario t (step :: rest) t'

/-- Steps that succeed leave one state only. -/
theorem Passes.unique {t t₁ t₂ : W × σ} {passed : List Step}
    (h₁ : r.Passes feature scenario t passed t₁)
    (h₂ : r.Passes feature scenario t passed t₂) : t₁ = t₂ := by
  induction h₁ with
  | nil =>
    cases h₂
    rfl
  | cons _ _ ih =>
    cases h₂ with
    | cons _ hrest => exact ih hrest

/-- What comes after steps that succeed is attempted, from the state that they leave. -/
theorem Passes.getElem?_attemptSteps {t t' : W × σ} {passed : List Step}
    (h : r.Passes feature scenario t passed t') (step : Step) (rest : List Step) :
    (r.attemptSteps feature scenario .running (passed ++ step :: rest) t).1.1[passed.length]? =
      some (r.attempt feature scenario step t').1.1 := by
  induction h with
  | nil =>
    rw [List.nil_append, attemptSteps_cons, bind_apply]
    rfl
  | cons hsuccess _ ih =>
    rw [List.cons_append, attemptSteps_cons, bind_apply]
    dsimp only
    rw [hsuccess, bind_apply]
    exact ih

/-- What does not come after steps that all succeed is skipped. -/
theorem passes_or_skipped (t : W × σ) (passed : List Step) (step : Step) (rest : List Step) :
    (∃ t', r.Passes feature scenario t passed t') ∨
      (r.attemptSteps feature scenario .running (passed ++ step :: rest) t).1.1[passed.length]? =
        some (.skipped step) := by
  induction passed generalizing t with
  | nil => exact .inl ⟨t, .nil⟩
  | cons first passed ih =>
    have hmode := r.attempt_entersFailureMode feature scenario first t
    rw [List.cons_append, attemptSteps_cons, bind_apply]
    dsimp only at hmode ⊢
    rw [bind_apply, Progress.after, hmode]
    by_cases hsuccess : (r.attempt feature scenario first t).1.1.outcome = .successful
    · rcases ih (r.attempt feature scenario first t).2.1 with ⟨t', hpasses⟩ | hskipped
      · exact .inl ⟨t', .cons hsuccess hpasses⟩
      · rw [hsuccess, if_neg (by decide)]
        exact .inr hskipped
    · have hhalt : (!((r.attempt feature scenario first t).1.1.outcome == .successful)) = true := by
        simpa using hsuccess
      rcases (r.attempt feature scenario first t).2.1 with ⟨w, s⟩
      rw [if_pos hhalt, attemptSteps_failureMode, pure_apply]
      refine .inr ?_
      rw [List.length_cons, List.getElem?_cons_succ, List.getElem?_map]
      simp

/-! ## Scenarios -/

/-- A run of the scenario from a state comes to what follows some of its steps: there is a world, no
hook before the scenario fails, and these steps are attempted and all succeed. -/
def ComesTo (r : Runner W σ ν) (feature : String) (scenario : Scenario) (s : σ)
    (passed : List Step) (t : W × σ) :
    Prop :=
  ∃ world s₁ made t₀ opening, calling .world r.newWorld s = (.ok world, s₁, made) ∧
    r.fireAround feature scenario (scenarioContext feature scenario .beforeScenario) (world, s₁) =
      ([], t₀, opening) ∧
    r.Passes feature scenario t₀ passed t

/-- What a record of the scenario tells, step by step, if the scenario was run from the state `s`. A
step that the run does not come to is skipped. Of one that it comes to, and that no hook before it
keeps from being run, the record tells the definition if there is exactly one, unless the step
succeeds and a hook after it fails; then it tells of none. -/
def TellsMatches (r : Runner W σ ν) (feature : String) (scenario : Scenario) (s : σ)
    (record : ScenarioReport) : Prop :=
  ∀ passed step rest, scenario.steps = passed ++ step :: rest →
    ∃ report, record.steps[passed.length]? = some report ∧
      ((¬ ∃ t, r.ComesTo feature scenario s passed t) → report = .skipped step) ∧
      ∀ t, r.ComesTo feature scenario s passed t →
        (r.fireAround feature scenario
          (stepContext feature scenario step .beforeStep none) t).1 = [] →
        ∀ definition captures, r.registry.resolve step.text = .unique definition captures →
          let tried := r.tryStep feature scenario step t
          let after := r.fireAround feature scenario
            (stepContext feature scenario step .afterStep (some tried.1.outcome)) tried.2.1
          if tried.1.outcome = .successful ∧
            after.1 ≠ [] then report.Silent else report.Tells definition captures

/-- The steps of a scenario that is opened are attempted. -/
theorem executeScenario_steps {s s₁ : σ} {world : W} {made : List (Entry ν)} {t : W × σ}
    {opening : List (Entry ν)} (hmade : calling .world r.newWorld s = (.ok world, s₁, made))
    (hopened : r.fireAround feature scenario (scenarioContext feature scenario .beforeScenario)
      (world, s₁) = ([], t, opening)) :
    (r.executeScenario feature scenario s).1.steps =
      (r.attemptSteps feature scenario .running scenario.steps t).1.1 := by
  have hworld : (r.runOnWorld feature scenario (world, s₁)).1.steps =
      (r.attemptSteps feature scenario .running scenario.steps t).1.1 := by
    rw [runOnWorld, bind_apply, hopened]
    rfl
  rw [executeScenario, bind_apply, hmade]
  exact hworld

/-- If the run comes to no step, all steps are to be skipped. -/
theorem tellsMatches_of_skipped {s : σ} {record : ScenarioReport}
    (hrecord : record.steps = scenario.steps.map .skipped)
    (hnone : ∀ passed t, ¬ r.ComesTo feature scenario s passed t) :
    r.TellsMatches feature scenario s record := by
  intro passed step rest hsteps
  refine ⟨.skipped step, ?_, fun _ => rfl, fun t hcomes => absurd hcomes (hnone passed t)⟩
  rw [hrecord, hsteps]
  simp

/-- If the scenario is opened, the run comes to the steps before which all others succeed. -/
theorem tellsMatches_of_opened {s s₁ : σ} {world : W} {made : List (Entry ν)} {t : W × σ}
    {opening : List (Entry ν)} (hmade : calling .world r.newWorld s = (.ok world, s₁, made))
    (hopened : r.fireAround feature scenario (scenarioContext feature scenario .beforeScenario)
      (world, s₁) = ([], t, opening)) :
    r.TellsMatches feature scenario s (r.executeScenario feature scenario s).1 := by
  intro passed step rest hsteps
  have hsame : ∀ t', r.ComesTo feature scenario s passed t' →
      r.Passes feature scenario t passed t' := by
    rintro t' ⟨world', s₁', made', t₀, opening', hworld, hnone, hpasses⟩
    obtain ⟨⟨⟩, rfl, rfl⟩ := hmade.symm.trans hworld
    obtain ⟨-, rfl, rfl⟩ := hopened.symm.trans hnone
    exact hpasses
  rw [executeScenario_steps hmade hopened, hsteps]
  by_cases hpasses : ∃ t', r.Passes feature scenario t passed t'
  · obtain ⟨t', hpasses⟩ := hpasses
    refine ⟨_, hpasses.getElem?_attemptSteps step rest, fun hnone => ?_,
      fun t₁ hcomes hbefore definition captures
      hmatch => ?_⟩
    · exact absurd ⟨t', world, s₁, made, t, opening, hmade, hopened, hpasses⟩ hnone
    · obtain rfl := hpasses.unique (hsame t₁ hcomes)
      rw [r.attempt_value feature scenario step]
      exact absorb_tells (tryStep_match hbefore hmatch) _
  · exact ⟨_, (passes_or_skipped t passed step rest).resolve_left hpasses, fun _ => rfl,
      fun t₁ hcomes => absurd ⟨t₁, hsame t₁ hcomes⟩ hpasses⟩

/-- A run of a scenario tells of the matches of its steps. -/
theorem executeScenario_tellsMatches (r : Runner W σ ν) (feature : String) (scenario : Scenario)
    (s : σ) :
    r.TellsMatches feature scenario s (r.executeScenario feature scenario s).1 := by
  have hcourse := r.executeScenario_course feature scenario s
  generalize hrun : r.executeScenario feature scenario s = run at hcourse ⊢
  cases hcourse with
  | unmade hmade _ =>
    refine tellsMatches_of_skipped rfl ?_
    rintro passed t ⟨world, s₁, made, t₀, opening, hworld, -⟩
    exact absurd (hmade.symm.trans hworld) (by simp)
  | blocked hmade hopened _ _ =>
    refine tellsMatches_of_skipped rfl ?_
    rintro passed t ⟨world, s₁, made, t₀, opening, hworld, hnone, -⟩
    obtain ⟨⟨⟩, rfl, rfl⟩ := hmade.symm.trans hworld
    exact absurd (hopened.symm.trans hnone) (by simp)
  | attempted hmade hopened _ _ =>
    rw [← hrun]
    exact tellsMatches_of_opened hmade hopened

/-- A run of a scenario alone, or within a run that does not block it, tells
observers of it and runs it. -/
theorem scenarioReport_value (hlive : r.dryRun = false) (feature : String) (scenario : Scenario)
    (s : σ) :
    (r.scenarioReport feature scenario false s).1 =
      (r.executeScenario feature scenario
        (r.tell (.scenarioStarted feature scenario.name) s).2.1).1 := by
  rw [r.scenarioReport_eq, bind_apply, bind_apply, bind_apply, recordScenario,
    if_neg Bool.false_ne_true, hlive]
  rfl

/-! ## Runs -/

/-- The record of a scenario within a run: all its steps are skipped, as those of a scenario that is
blocked, or it is run from some state and tells of the matches of its steps. -/
inductive RunOrBlocked (r : Runner W σ ν) (feature : String) (scenario : Scenario)
    (record : ScenarioReport) : Prop
  | blocked : record.steps = scenario.steps.map .skipped → RunOrBlocked r feature scenario record
  | run (s : σ) : record = (r.executeScenario feature scenario s).1 →
      r.TellsMatches feature scenario s record →
      RunOrBlocked r feature scenario record

/-- Each scenario of a run is blocked or run. -/
theorem scenarioReport_runOrBlocked (hlive : r.dryRun = false) (feature : String)
    (scenario : Scenario) (blocked : Bool) :
    (r.scenarioReport feature scenario blocked).Ensures fun record _ =>
      r.RunOrBlocked feature scenario record := by
  intro s
  cases blocked with
  | false =>
    rw [scenarioReport_value hlive]
    exact .run _ rfl (r.executeScenario_tellsMatches feature scenario _)
  | true =>
    refine .blocked ?_
    rw [r.scenarioReport_eq, bind_apply, bind_apply, bind_apply, recordScenario,
      if_pos rfl, bind_apply, recordSteps_eq, recordEach_value]
    rfl

/-- The record at the end of a run is put together of those of its features. -/
theorem finishSuite_features (r : Runner W σ ν) (reports : List FeatureReport)
    (before : List HookFailure) :
    (r.finishSuite reports before).Ensures fun report _ => report.features = reports := by
  unfold finishSuite
  split
  all_goals exact (Ensures.any _).bind fun _ _ _ => (Ensures.any _).bind fun _ _ _ =>
    Ensures.pure rfl

/-- The record of a concurrent run that gives one has the records of its features, too, in order. -/
theorem runScheduled_ensures {R : Feature → FeatureReport → Prop}
    (h : ∀ feature suiteBlocked,
      (r.featureReport feature suiteBlocked).Ensures fun result _ =>
        r.RecordedIfSelected R feature result)
    {losses : Losses ν} {features : List Feature} {s : σ} {schedule : List Move}
    (hschedule : Window.Exhausts r.workers (r.workersOf losses features s) schedule)
    {report : SuiteReport}
    (hrun : ((r.runScheduled losses schedule features).run s).1 = some (.ok report)) :
    List.Forall₂ R (features.filter r.hasSelected) report.features := by
  obtain ⟨log, harrange, -⟩ := hschedule.arrange? r.workers_pos
  rw [run_apply, runScheduled_apply harrange] at hrun
  have hconclude := Option.some.inj hrun
  rw [conclude] at hconclude
  cases hresults : ((r.workersOf losses features s).map Worker.result).mapM id with
  | error e =>
    rw [hresults] at hconclude
    cases hconclude
  | ok reports =>
    rw [hresults] at hconclude
    dsimp only at hconclude
    rw [map_apply] at hconclude
    have hfeatures := r.finishSuite_features (reports.filterMap id)
      (r.startSuite features.length s).1
      (r.startSuite features.length s).2.1
    rw [Except.ok.inj hconclude] at hfeatures
    rw [hfeatures]
    refine forall₂_recordedIfSelected ?_
    -- Each worker ends with the record of its feature.
    have hvalues := mapM_id_eq_ok hresults
    rw [workersOf, workersFor, List.mapIdx_eq_zipIdx_map, List.map_map, ← List.forall₂_eq_eq_eq,
      List.forall₂_map_left_iff, List.forall₂_map_right_iff] at hvalues
    have hnumbered : List.Forall₂ (fun numbered result => r.RecordedIfSelected R numbered.1 result)
        features.zipIdx reports := by
      refine hvalues.imp fun numbered result hresult => ?_
      rw [Function.comp_apply, workerFor_result] at hresult
      split at hresult
      · cases hresult
      · rw [← Except.ok.inj hresult]
        exact h _ _ _
    have hfirst : features.zipIdx.map Prod.fst = features := List.zipIdx_map_fst 0 features
    rw [← hfirst, List.forall₂_map_left_iff]
    exact hnumbered

/-- What the record of a feature tells if the scenarios of the feature are run or blocked. -/
def FeatureTellsMatches (r : Runner W σ ν) (feature : Feature) (report : FeatureReport) : Prop :=
  List.Forall₂ (r.RunOrBlocked feature.name) (r.selected feature) report.scenarios

/-- So the record of a feature tells of the matches of its steps. -/
theorem featureReport_tellsMatches (hlive : r.dryRun = false) (feature : Feature)
    (suiteBlocked : Bool) :
    (r.featureReport feature suiteBlocked).Ensures fun result _ =>
      r.RecordedIfSelected r.FeatureTellsMatches feature result :=
  (featureReport_ensures feature
    (fun scenario blocked => scenarioReport_runOrBlocked hlive feature.name scenario blocked)
    suiteBlocked).mono
      fun _ _ hresult => hresult.mono fun _ hreport => hreport.2.2

/-- In a run that is not dry, be it of one scenario, of features one after the other or of features
at once, the record of every step that is attempted, that no hook before it keeps from being run and
that has exactly one definition tells this definition and what it captured, whatever its outcome;
but if the step succeeds and a hook after it fails, the record tells of none. -/
theorem run_tellsMatches (r : Runner W σ ν) (hlive : r.dryRun = false) :
    (∀ feature scenario s, r.TellsMatches feature scenario
      (r.tell (.scenarioStarted feature scenario.name) s).2.1
      ((r.runScenario feature scenario).run s).1) ∧
    (∀ features s, List.Forall₂ r.FeatureTellsMatches (features.filter r.hasSelected)
      ((r.run features).run s).1.features) ∧
    ∀ losses features s schedule report,
      Window.Exhausts r.workers (r.workersOf losses features s) schedule →
      ((r.runScheduled losses schedule features).run s).1 = some (.ok report) →
      List.Forall₂ r.FeatureTellsMatches (features.filter r.hasSelected) report.features := by
  refine ⟨fun feature scenario s => ?_, fun features s => ?_,
    fun losses features s schedule report hschedule hrun => ?_⟩
  · rw [run_apply, runScenario, scenarioReport_value hlive]
    exact r.executeScenario_tellsMatches feature scenario _
  · exact (run_ensures (featureReport_tellsMatches hlive) features s).1
  · exact runScheduled_ensures (featureReport_tellsMatches hlive) hschedule hrun

/-! ### A match that is lost -/

/-- A runner with one step definition and a hook after steps that fails. -/
def audited (code : StepCode Nat Unit Unit) : Runner Nat Unit Unit where
  registry := {
    steps := [Registry.letterDefinition 'c' code]
    hooks := [⟨.afterStep, none, fun _ => pure (.failed { message := "audit" })⟩] }
  newWorld := (pure (.done 0) : Journaled Unit Unit (Verdict Nat))

/-- A scenario of one step, which that definition is for. -/
def letterScenario : Scenario := { name := "letter", steps := [Registry.letterStep 'c'] }

/-- The definition is the only one for the step. -/
theorem resolve_audited (code : StepCode Nat Unit Unit) :
    (audited code).registry.resolve (Registry.letterStep 'c').text =
      .unique (Registry.letterDefinition 'c' code) [] := by
  have hisMatch : (Registry.letterDefinition 'c' code).pattern.isMatch (.singleton 'c') = true :=
    Registry.isMatch_letterDefinition ..
  have hcaptures : (Registry.letterDefinition 'c' code).pattern.captures
      (Registry.letterStep 'c').text = some [] :=
    Registry.captures_letterDefinition ..
  have hsteps : (audited code).registry.matchingSteps (Registry.letterStep 'c').text =
      [Registry.letterDefinition 'c' code].filter (·.pattern.isMatch (.singleton 'c')) := rfl
  rw [List.filter_cons, hisMatch, if_pos rfl, List.filter_nil] at hsteps
  rw [Registry.resolve, hsteps]
  simp [hcaptures]

/-- The step is the first of its scenario, and no hook runs before it. -/
theorem comesTo_audited (code : StepCode Nat Unit Unit) :
    (audited code).ComesTo "letters" letterScenario () [] (0, ()) ∧
    ((audited code).fireAround "letters" letterScenario
      (stepContext "letters" letterScenario (Registry.letterStep 'c') .beforeStep none)
        (0, ())).1 = [] :=
  ⟨⟨0, (), _, (0, ()), _, rfl, rfl, .nil⟩, rfl⟩

/-- How the step ends, its hooks aside, is how its code ends. -/
theorem tryStep_audited (code : StepCode Nat Unit Unit) :
    ((audited code).tryStep "letters" letterScenario (Registry.letterStep 'c') (0, ())).1.outcome =
      ((audited code).registry.invoke (Registry.letterDefinition 'c' code) [] none
        (0, ())).1.1 := by
  have hexecute : (audited code).registry.execute (Registry.letterStep 'c') = (do
      let ended ← (audited code).registry.invoke (Registry.letterDefinition 'c' code) [] none
      return {
        keyword := .given, text := .singleton 'c', outcome := ended.1, error := ended.2,
          arguments := []
        pattern := some (Registry.letterDefinition 'c' code).pattern.source }) := by
    rw [Registry.execute, resolve_audited]
    rfl
  rw [tryStep, bind_apply, (comesTo_audited code).2, hexecute]
  dsimp only
  rw [bind_apply]
  rfl

/-- A step that fails keeps its definition in its record, even though a hook
after it fails as well. -/
theorem audited_tellsMatch :
    (audited fun _ => pure (.failed { message := "no" })).dryRun = false ∧
    ∃ report,
      (((audited fun _ => pure (.failed { message := "no" })).runScenario "letters"
        letterScenario).run
        ()).1.steps[0]? = some report ∧
      report.Tells (Registry.letterDefinition 'c' fun _ =>
        pure (.failed { message := "no" })) [] := by
  have hrun := ((audited fun _ => pure (.failed { message := "no" })).run_tellsMatches rfl).1
    "letters" letterScenario ()
  obtain ⟨report, hreport, -, htells⟩ := hrun [] (Registry.letterStep 'c') [] rfl
  obtain ⟨hcomes, hbefore⟩ := comesTo_audited fun _ => pure (.failed { message := "no" })
  have htells := htells _ hcomes hbefore _ _ (resolve_audited _)
  dsimp only at htells
  rw [tryStep_audited] at htells
  exact ⟨rfl, report, hreport, htells⟩

/-- One that succeeds loses it, although it is attempted, no hook before it fails and its
definition is the only one. -/
theorem audited_losesMatch :
    let r := audited fun _ => pure (.done .completed)
    r.dryRun = false ∧ r.ComesTo "letters" letterScenario () [] (0, ()) ∧
    (r.fireAround "letters" letterScenario
      (stepContext "letters" letterScenario (Registry.letterStep 'c') .beforeStep none)
      (0, ())).1 = [] ∧
    r.registry.resolve (Registry.letterStep 'c').text =
      .unique (Registry.letterDefinition 'c' fun _ => pure (.done .completed)) [] ∧
    ∃ report, ((r.runScenario "letters" letterScenario).run ()).1.steps[0]? = some report ∧
      report.pattern = none := by
  intro r
  obtain ⟨hcomes, hbefore⟩ := comesTo_audited fun _ => pure (.done .completed)
  refine ⟨rfl, hcomes, hbefore, resolve_audited _, ?_⟩
  have hrun := r.executeScenario_tellsMatches "letters" letterScenario ()
  obtain ⟨report, hreport, -, htells⟩ := hrun [] (Registry.letterStep 'c') [] rfl
  have htells := htells _ hcomes hbefore _ _ (resolve_audited _)
  dsimp only at htells
  rw [tryStep_audited] at htells
  have hsilent : report.Silent := htells
  refine ⟨report, ?_, hsilent.pattern⟩
  rw [run_apply, runScenario, scenarioReport_value rfl]
  exact hreport

end Runner

end Rehearsal
