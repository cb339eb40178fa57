import Rehearsal.Proofs.Report.Counting
import Rehearsal.Proofs.Run.Narration

/-!
# The story of a run

What observers are told and what the record of a run says are the same story. On each level, what is
told starts and ends with the level; in between the failures of the hooks before it come first, then
what is told inside, then the failures of the hooks after it. The record lists these failures,
except that a step which a hook makes fail is itself the record of that failure.
-/

namespace Rehearsal

open Journaled

variable {W σ τ ν α β : Type}

/-! ## Steps -/

/-- What is told of a step: the failures of the hooks around it and then its record. `around` are
those of the failures that its record leaves to the scenario. -/
inductive StepTold (feature scenario : String) :
    StepReport → List HookFailure → List RunEvent → Prop
  /-- No hook has made the step fail, and all failures are left. -/
  | own {report around} : report.faults = [] →
      StepTold feature scenario report around
        (hooksFailed (some feature) (some scenario) around ++
          [.stepFinished feature scenario report])
  /-- The first of the failures has made the step fail. -/
  | byHook {report failure around} : report.outcome = .failed →
      report.error = some (.hook failure.scope failure.message) →
      failure.scope ∈ [HookScope.beforeStep, .afterStep] →
      StepTold feature scenario report around
        (hooksFailed (some feature) (some scenario) (failure :: around) ++
          [.stepFinished feature scenario report])

/-- What is told of steps one after the other, and the failures that they leave to the scenario. -/
inductive StepsTold (feature scenario : String) :
    List StepReport → List HookFailure → List RunEvent → Prop
  | nil : StepsTold feature scenario [] [] []
  | cons {report reports around others first rest} : StepTold feature scenario report around first →
      StepsTold feature scenario reports others rest →
      StepsTold feature scenario (report :: reports) (around ++ others) (first ++ rest)

/-- Of a step only its record is told. -/
theorem StepTold.filterMap_step {feature scenario : String} {report : StepReport}
    {around : List HookFailure} {story : List RunEvent}
    (h : StepTold feature scenario report around story) :
    story.filterMap RunEvent.step? = [report] := by
  cases h with
  | own => rw [List.filterMap_append, filterMap_step_hooksFailed]; rfl
  | byHook => rw [List.filterMap_append, filterMap_step_hooksFailed]; rfl

/-- Of steps their records are told, in order. -/
theorem StepsTold.filterMap_step {feature scenario : String} {reports : List StepReport}
    {around : List HookFailure} {story : List RunEvent}
    (h : StepsTold feature scenario reports around story) :
    story.filterMap RunEvent.step? = reports := by
  induction h with
  | nil => rfl
  | cons hfirst _ ih =>
    rw [List.filterMap_append, hfirst.filterMap_step, ih]
    rfl

/-! ## Blocks -/

/-- Stories of items one after the other, one block for each item. -/
inductive InBlocks (Block : β → List RunEvent → Prop) : List β → List RunEvent → Prop
  | nil : InBlocks Block [] []
  | cons {item items block rest} : Block item block → InBlocks Block items rest →
      InBlocks Block (item :: items) (block ++ rest)

/-- The steps that are told are those of all blocks. -/
theorem InBlocks.filterMap_step {Block : β → List RunEvent → Prop} {steps : β → List StepReport}
    {items : List β} {story : List RunEvent} (h : InBlocks Block items story)
    (hblock : ∀ item block, Block item block → block.filterMap RunEvent.step? = steps item) :
    story.filterMap RunEvent.step? = items.flatMap steps := by
  induction h with
  | nil => rfl
  | cons hfirst _ ih => rw [List.filterMap_append, hblock _ _ hfirst, ih, List.flatMap_cons]

/-- What is told between the start and the end of a scenario: the failures `before` and `after` of
the hooks around it, and in between its steps, which leave the failures `around` to it. -/
def ScenarioReport.Inside (feature : String) (report : ScenarioReport)
    (story : List RunEvent) : Prop :=
  ∃ before around after steps,
    story = hooksFailed (some feature) (some report.name) before ++ steps ++
      hooksFailed (some feature) (some report.name) after ∧
    report.hookFailures = before ++ around ++ after ∧
    AllOf .beforeScenario before ∧ AllOf .afterStep around ∧ AllOf .afterScenario after ∧
    StepsTold feature report.name report.steps around steps

/-- What is told of a scenario of which the record is made. -/
def ScenarioReport.Told (strict : Bool) (feature : String) (report : ScenarioReport)
    (story : List RunEvent) : Prop :=
  ∃ inside, report.Inside feature inside ∧
    story = .scenarioStarted feature report.name :: inside ++
      [.scenarioFinished feature report.name report.status (report.isFailed strict)]

/-- What is told of a feature of which the record is made: a block for each scenario that is
recorded, between the failures of the hooks around the feature. -/
def FeatureReport.Told (strict : Bool) (report : FeatureReport) (story : List RunEvent) : Prop :=
  ∃ before after scenarios,
    story = .featureStarted report.name :: hooksFailed (some report.name) none
      before ++ scenarios ++
      hooksFailed (some report.name) none after ++ [.featureFinished report.name] ∧
    report.hookFailures = before ++ after ∧ AllOf .beforeFeature before ∧
      AllOf .afterFeature after ∧
    InBlocks (ScenarioReport.Told strict report.name) report.scenarios scenarios

/-- What is told of a run of so many features of which the record is made: a block for each feature
that is recorded, between the failures of the hooks around the run. -/
def SuiteReport.Told (strict : Bool) (number : Nat) (report : SuiteReport)
    (story : List RunEvent) : Prop :=
  ∃ before after features,
    story = .suiteStarted number :: hooksFailed none none before ++ features ++
      hooksFailed none none after ++
      [.suiteFinished report.counts] ∧
    report.hookFailures = before ++ after ∧ AllOf .beforeSuite before ∧ AllOf .afterSuite after ∧
    InBlocks (FeatureReport.Told strict) report.features features

/-- What is told of a feature that may be left out: nothing if it is. -/
def ToldIfRecorded (strict : Bool) (result : Option FeatureReport) (story : List RunEvent) : Prop :=
  match result with
  | none => story = []
  | some report => report.Told strict story

/-- Features that are left out have no block. -/
theorem InBlocks.filterMap_id {strict : Bool} {results : List (Option FeatureReport)}
    {story : List RunEvent} (h : InBlocks (ToldIfRecorded strict) results story) :
    InBlocks (FeatureReport.Told strict) (results.filterMap id) story := by
  induction h with
  | nil => exact .nil
  | @cons result results block rest hblock _ ih =>
    cases result with
    | none =>
      obtain rfl : block = [] := hblock
      exact ih
    | some report => exact .cons hblock ih

/-! ### The steps in a story -/

/-- On a level the steps are told inside. -/
theorem filterMap_step_framed (feature scenario : Option String) (before after : List HookFailure)
    (inside : List RunEvent) {first last : RunEvent} (hfirst : first.step? = none)
    (hlast : last.step? = none) :
    (first :: hooksFailed feature scenario before ++ inside ++ hooksFailed feature scenario after ++
      [last]).filterMap RunEvent.step? = inside.filterMap RunEvent.step? := by
  simp only [List.cons_append, List.filterMap_cons_none hfirst, List.filterMap_append,
    filterMap_step_hooksFailed, List.filterMap_cons_none hlast, List.filterMap_nil, List.nil_append,
      List.append_nil]

/-- The steps in the block of a scenario are those of its record. -/
theorem ScenarioReport.Told.filterMap_step {strict : Bool} {feature : String}
    {report : ScenarioReport} {story : List RunEvent} (h : report.Told strict feature story) :
    story.filterMap RunEvent.step? = report.steps := by
  obtain ⟨_, ⟨before, around, after, steps, rfl, -, -, -, -, hsteps⟩, rfl⟩ := h
  rw [← hsteps.filterMap_step]
  exact filterMap_step_framed _ _ before after steps rfl rfl

/-- The steps in the block of a feature are those of its record. -/
theorem FeatureReport.Told.filterMap_step {strict : Bool} {report : FeatureReport}
    {story : List RunEvent} (h : report.Told strict story) :
    story.filterMap RunEvent.step? = report.steps := by
  obtain ⟨before, after, scenarios, rfl, -, -, -, hscenarios⟩ := h
  rw [filterMap_step_framed _ _ before after scenarios rfl rfl]
  exact hscenarios.filterMap_step fun _ _ hscenario => hscenario.filterMap_step

/-- The steps in the story of a run are those of its record. -/
theorem SuiteReport.Told.filterMap_step {strict : Bool} {number : Nat} {report : SuiteReport}
    {story : List RunEvent} (h : report.Told strict number story) :
    story.filterMap RunEvent.step? = report.steps := by
  obtain ⟨before, after, features, rfl, -, -, -, hfeatures⟩ := h
  rw [filterMap_step_framed _ _ before after features rfl rfl]
  exact hfeatures.filterMap_step fun _ _ hfeature => hfeature.filterMap_step

namespace Runner

variable {r : Runner W σ ν}

/-! ## Steps are told -/

/-- What is told while a step is tried, and the record: there is nothing to tell, or a hook
before the step fails. -/
theorem tryStep_tells (r : Runner W σ ν) (feature : String) (scenario : Scenario) (step : Step) :
    r.Tells (r.tryStep feature scenario step) fun report story =>
      (story = [] ∧ report.faults = []) ∨
      ∃ failure, story = hooksFailed (some feature) (some scenario.name) [failure] ∧
        report = .failedByHook step failure ∧ failure.scope = .beforeStep := by
  refine (r.fireAround_tells feature scenario _).bind fun failures before
    ⟨hbefore, hscope, hone⟩ => ?_
  cases failures with
  | nil =>
    refine (r.execute_tells step).mono fun report story ⟨hstory, hnone⟩ => .inl ⟨?_, hnone⟩
    rw [hbefore, hstory]
    rfl
  | cons failure rest =>
    -- No hook after the first that fails is run, so there is one failure to tell of.
    obtain rfl : rest = [] := by simpa using hone rfl
    refine Tells.pure (.inr ⟨failure, ?_, rfl, hscope failure List.mem_cons_self⟩)
    rw [List.append_nil, hbefore]

/-- A step is told with the failures of the hooks around it, whichever of them makes it fail. -/
theorem attemptStep_tells (r : Runner W σ ν) (feature : String) (scenario : Scenario)
    (step : Step) :
    r.Tells (r.attemptStep feature scenario step) fun result story =>
      StepTold feature scenario.name result.1 result.2
        (story ++ [.stepFinished feature scenario.name result.1]) ∧ AllOf .afterStep result.2 := by
  refine (r.tryStep_tells feature scenario step).bind fun report tried htried => ?_
  refine (r.fireAround_tells feature scenario _).bind fun failures after
    ⟨hafter, hscope, _⟩ => Tells.pure ?_
  have hscope : AllOf .afterStep failures := hscope
  subst hafter
  rw [List.append_nil]
  cases failures with
  | nil =>
    refine ⟨?_, hscope⟩
    rcases htried with ⟨rfl, hnone⟩ | ⟨failure, rfl, rfl, hbefore⟩
    · exact .own hnone
    · exact .byHook rfl rfl (by simp [hbefore])
  | cons failure rest =>
    obtain ⟨hfirst, hrest⟩ := List.forall_mem_cons.1 hscope
    by_cases hsuccess : report.outcome = .successful
    · -- The failure makes the step fail, so nothing has failed before.
      rw [absorb, if_pos hsuccess]
      refine ⟨?_, hrest⟩
      rcases htried with ⟨rfl, -⟩ | ⟨_, -, rfl, -⟩
      · exact .byHook rfl rfl (by simp [hfirst])
      · cases hsuccess
    · -- All failures are left to the scenario, also if one before the step has made it fail.
      rw [absorb, if_neg hsuccess]
      refine ⟨?_, hscope⟩
      rcases htried with ⟨rfl, hnone⟩ | ⟨earlier, rfl, rfl, hbefore⟩
      · exact .own hnone
      · exact .byHook rfl rfl (by simp [hbefore])

/-- A step that is skipped is told by its record alone. -/
theorem stepTold_of_faults_nil (feature scenario : String) {report : StepReport}
    (h : report.faults = []) :
    StepTold feature scenario report [] [.stepFinished feature scenario report] := .own h

/-- Steps are told one after the other. -/
theorem attemptSteps_tells (r : Runner W σ ν) (feature : String) (scenario : Scenario)
    (progress : Progress) (steps : List Step) :
    r.Tells (r.attemptSteps feature scenario progress steps) fun result story =>
      StepsTold feature scenario.name result.1 result.2.1 story ∧ AllOf .afterStep result.2.1 := by
  induction steps generalizing progress with
  | nil => exact Tells.pure ⟨.nil, by simp⟩
  | cons step rest ih =>
    cases progress with
    | failureMode =>
      refine (r.record_tells feature scenario _).beside.bind fun report first
        ⟨hreport, hfirst⟩ => ?_
      subst hreport hfirst
      refine (ih .failureMode).bind fun ⟨reports, others, _⟩ told ⟨htold, hothers⟩ => Tells.pure ?_
      rw [List.append_nil]
      exact ⟨.cons (stepTold_of_faults_nil feature scenario.name rfl) htold, hothers⟩
    | running =>
      refine (r.attemptStep_tells feature scenario step).bind fun ⟨report, around⟩ first
        ⟨hfirst, haround⟩ => ?_
      refine (r.record_tells feature scenario report).beside.bind fun told last ⟨htold, hlast⟩ => ?_
      subst htold hlast
      refine (ih _).bind fun ⟨reports, others, _⟩ rest ⟨hrest, hothers⟩ => Tells.pure ?_
      rw [List.append_nil, ← List.append_assoc]
      exact ⟨.cons hfirst hrest, List.forall_mem_append.2 ⟨haround, hothers⟩⟩

/-- Steps that are not run are told by their records alone. -/
theorem recordSteps_tells (r : Runner W σ ν) (feature : String) (scenario : Scenario)
    {preview : Step → StepReport} (hpreview : ∀ step, (preview step).faults = []) :
    r.Tells (r.recordSteps feature scenario preview) fun steps story =>
      StepsTold feature scenario.name steps [] story := by
  unfold recordSteps
  induction scenario.steps with
  | nil => exact Tells.pure .nil
  | cons step rest ih =>
    rw [forEach_cons]
    refine (r.record_tells feature scenario _).bind fun report first ⟨hreport, hfirst⟩ => ?_
    subst hreport hfirst
    refine ih.bind fun steps told htold => Tells.pure ?_
    rw [List.append_nil]
    exact .cons (stepTold_of_faults_nil feature scenario.name (hpreview step)) htold

/-! ## Scenarios are told -/

/-- Steps that are told without any hook make up the inside of a scenario. -/
theorem inside_of_steps {feature : String} {report : ScenarioReport} {story : List RunEvent}
    (hsteps : StepsTold feature report.name report.steps [] story)
    (hnone : report.hookFailures = []) :
    report.Inside feature story :=
  ⟨[], [], [], story, by simp [hooksFailed], hnone, by simp, by simp, by simp, hsteps⟩

/-- On its world a scenario is told between the failures of the hooks around it. -/
theorem runOnWorld_tells (r : Runner W σ ν) (feature : String) (scenario : Scenario) :
    r.Tells (r.runOnWorld feature scenario) fun report story =>
      report.name = scenario.name ∧ report.Inside feature story := by
  refine (r.fireAround_tells feature scenario _).bind fun before opening
    ⟨hopening, hbefore, _⟩ => ?_
  refine (r.attemptSteps_tells feature scenario _ _).bind
    fun ⟨steps, around, progress⟩ between ⟨hbetween, haround⟩ => ?_
  refine (r.fireAround_tells feature scenario _).bind fun after closing
    ⟨hclosing, hafter, _⟩ => Tells.pure ?_
  refine ⟨rfl, before, around, after, between, ?_, rfl, hbefore, haround, hafter, hbetween⟩
  rw [List.append_nil, hopening, hclosing, List.append_assoc]

/-- A scenario without a world is told with the failure that this is, and its steps are skipped. -/
theorem executeScenario_tells (r : Runner W σ ν) (feature : String) (scenario : Scenario) :
    r.Tells (r.executeScenario feature scenario) fun report story =>
      report.name = scenario.name ∧ report.Inside feature story := by
  rw [r.executeScenario_eq]
  refine (r.makeWorld_tells feature scenario).bind fun made first hfirst => ?_
  cases made with
  | ok world =>
    subst hfirst
    refine (r.runOnWorld_tells feature scenario).within.bind fun result story
      hstory => Tells.pure ?_
    rw [List.append_nil, List.nil_append]
    exact hstory
  | error failure =>
    -- The failure is told before the steps, as that of a hook before the scenario would be.
    obtain ⟨rfl, hscope⟩ := hfirst
    refine (r.recordSteps_tells feature scenario fun _ => rfl).bind fun steps told
      htold => Tells.pure ?_
    refine ⟨rfl, [failure], [], [], told, ?_, rfl, ?_, by simp, by simp, htold⟩
    · simp [hooksFailed]
    · simpa [AllOf] using hscope

/-- A scenario is told whether it is blocked, looked up only or run. -/
theorem scenarioReport_tells (r : Runner W σ ν) (feature : String) (scenario : Scenario)
    (blocked : Bool) :
    r.Tells (r.scenarioReport feature scenario blocked) (ScenarioReport.Told r.strict feature) := by
  have hpreview : ∀ step, (r.registry.preview step).faults = [] := by
    intro step
    unfold Registry.preview
    split <;> rfl
  have hrecord : r.Tells (r.recordScenario feature scenario blocked) fun report story =>
      report.name = scenario.name ∧ report.Inside feature story := by
    unfold recordScenario
    split
    · refine (r.recordSteps_tells feature scenario fun _ => rfl).bind fun steps told htold =>
        Tells.pure ⟨rfl, ?_⟩
      rw [List.append_nil]
      exact inside_of_steps htold rfl
    · split
      · refine (r.recordSteps_tells feature scenario hpreview).bind fun steps told htold =>
          Tells.pure ⟨rfl, ?_⟩
        rw [List.append_nil]
        exact inside_of_steps htold rfl
      · exact r.executeScenario_tells feature scenario
  rw [r.scenarioReport_eq]
  refine (r.tell_tells rfl).bind fun _ first hfirst => ?_
  refine hrecord.bind fun report inside ⟨hname, hinside⟩ => ?_
  refine (r.tell_tells rfl).bind fun _ last hlast => Tells.pure ⟨inside, hinside, ?_⟩
  rw [List.append_nil, hfirst, hlast, hname]
  rfl

/-! ## Features and runs are told -/

/-- Computations for items in order tell blocks in order. -/
theorem forEach_tells {Block : β → List RunEvent → Prop} {f : α → Journaled τ (Entry ν) β}
    (items : List α) (h : ∀ a, r.Tells (f a) Block) :
    r.Tells (forEach f items) (InBlocks Block) := by
  refine Ensures.forEach (R := fun _ bs entries => ∃ story, r.Narrates story entries ∧
    InBlocks Block bs story)
    items (fun a _ => h a) ⟨[], .nil, .nil⟩ ?_
  intro _ b before _ bs after ⟨first, hfirst, hb⟩ ⟨rest, hrest, hbs⟩
  exact ⟨first ++ rest, hfirst.append hrest, .cons hb hbs⟩

/-- A feature is told if one of its scenarios is selected. -/
theorem featureReport_tells (r : Runner W σ ν) (feature : Feature) (suiteBlocked : Bool) :
    r.Tells (r.featureReport feature suiteBlocked) (ToldIfRecorded r.strict) := by
  cases hselected : r.hasSelected feature with
  | false =>
    rw [r.featureReport_of_not_selected hselected]
    exact Tells.pure rfl
  | true =>
    rw [r.featureReport_of_selected hselected]
    refine (r.tell_tells rfl).bind fun _ first hfirst => ?_
    refine (r.fireAroundFeature_tells feature _ _).bind fun before opening ⟨hopening, hbefore⟩ => ?_
    -- Whether the hooks block the scenarios decides what is told inside of them,
    -- not that it is told.
    have hscenarios := forEach_tells (r.selected feature) fun scenario =>
      r.scenarioReport_tells feature.name scenario (suiteBlocked || !before.isEmpty)
    refine hscenarios.bind fun reports between hbetween => ?_
    refine (r.fireAroundFeature_tells feature _ _).bind fun after closing ⟨hclosing, hafter⟩ => ?_
    refine (r.tell_tells rfl).bind fun _ last hlast => Tells.pure ?_
    refine ⟨before, after, between, ?_, rfl, hbefore, hafter, hbetween⟩
    simp [hfirst, hopening, hclosing, hlast]

/-- A run is told, and its record counts the steps of its features. -/
theorem run_tells (r : Runner W σ ν) (features : List Feature) :
    r.Tells (r.run features) fun report story => report.Told r.strict features.length story ∧
      report = .ofFeatures report.features report.hookFailures r.strict := by
  rw [r.run_bracketed]
  refine (r.tell_tells rfl).bind fun _ first hfirst => ?_
  refine (r.fireAroundSuite_tells _).bind fun before opening ⟨hopening, hbefore⟩ => ?_
  have hfeatures := forEach_tells features fun feature =>
    r.featureReport_tells feature (!before.isEmpty)
  refine hfeatures.bind fun results between hbetween => ?_
  refine (r.fireAroundSuite_tells _).bind fun after closing ⟨hclosing, hafter⟩ => ?_
  refine (r.tell_tells rfl).bind fun _ last hlast => Tells.pure ⟨?_, rfl⟩
  refine ⟨before, after, between, ?_, rfl, hbefore, hafter, hbetween.filterMap_id⟩
  simp [hfirst, hopening, hclosing, hlast]

/-- Observers and the record of a run tell the same story. All observers are told the same: that the
run starts, with the number of its features; the failures of the hooks before it; a block for each
feature that is recorded, in order; the failures of the hooks after it; and that it ends, with the
counts of the record. So it is in the block of a feature with its scenarios, and in that of a
scenario with its steps, which are told by the very records that the record of the scenario has. The
failures of hooks are told in the order in which they happen, and are those that the record lists,
with those that made steps fail. The counts are those of the steps that are told. -/
theorem run_story (r : Runner W σ ν) (features : List Feature) (s : σ) :
    let report := ((r.run features).run s).1
    let entries := ((r.run features).run s).2.2
    ∃ story, report.Told r.strict features.length story ∧
      (∀ observer < r.observers.length, toldTo observer entries = story) ∧
      story.filterMap RunEvent.fault? = faults (marks entries) ∧
      report.counts = .ofList ((story.filterMap RunEvent.step?).map StepReport.outcome) := by
  intro report entries
  have htells : ∃ story, r.Narrates story entries ∧ report.Told r.strict features.length story ∧
      report = .ofFeatures report.features report.hookFailures r.strict := r.run_tells features s
  obtain ⟨story, hnarrates, htold, hcounts⟩ := htells
  refine ⟨story, htold, fun observer hplace => hnarrates.toldTo hplace, hnarrates.faults.symm, ?_⟩
  rw [htold.filterMap_step, hcounts]
  exact SuiteReport.counts_ofFeatures _ _ _

/-- The second of two observers is told that a hook makes the only step fail, right before the
record of the step. -/
example :
    let broken : HookFailure := ⟨.beforeStep, "broken", []⟩
    let r := { hooked with
      registry :=
        { hooks := [⟨.beforeStep, none, fun _ => pure (.failed { message := "broken" })⟩] }
      observers := [{}, {}] }
    toldTo 1 ((r.run [shortFeature]).run ()).2.2 =
      [.suiteStarted 1, .featureStarted "short", .scenarioStarted "short" "short",
       .hookFailed (some "short") (some "short") broken,
       .stepFinished "short" "short" (.failedByHook ⟨.given, "nothing", none⟩ broken),
       .scenarioFinished "short" "short" .aborted true, .featureFinished "short",
       .suiteFinished { failed := .ofNat 1 }] := rfl

end Runner

end Rehearsal
