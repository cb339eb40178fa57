import Mathlib.Tactic.ByContra
import Rehearsal.Proofs.Report.Fatal
import Rehearsal.Proofs.Run.Lifecycle
import Rehearsal.Proofs.Run.SuiteBoundary

/-!
# Conservation of faults

What becomes of the failures of hooks. Each of them, and each world that cannot be made, is a
fault; the record of a run keeps every fault once: with the run, the feature or the scenario in
which it happened, there in the list of failures or as the reason why a step failed. A record that
keeps a fault is fatal.
-/

namespace Rehearsal

open Journaled

variable {W σ ν α β : Type}

/-! ## Faults -/

/-- A failure of a hook as all records show it: the boundary and the outermost message. -/
abbrev Fault := HookScope × String

/-- The fault that the record of the failure of a hook keeps. -/
def HookFailure.fault (failure : HookFailure) : Fault := (failure.scope, failure.message)

namespace Mark

/-- The fault that the mark is of. A world that cannot be made counts as a fault
before the scenario. -/
def fault? : Mark → Option Fault
  | .failed (.hook _ context) f => some (context.scope, f.message)
  | .failed .world _ => some (.beforeScenario, "failed to create the scenario world")
  | _ => none

/-- The boundary at which the hook is run that the mark is of. -/
def context? : Mark → Option HookContext
  | .called (.hook _ context) | .failed (.hook _ context) _ => some context
  | _ => none

end Mark

/-- The faults among marks, in order. -/
def faults (ms : List Mark) : List Fault := ms.filterMap Mark.fault?

@[simp] theorem faults_nil : faults [] = [] := rfl

@[simp] theorem faults_append (before after : List Mark) :
    faults (before ++ after) = faults before ++ faults after := List.filterMap_append

/-- The fault of a hook that made a step fail. -/
def ErrorDetail.fault? : ErrorDetail → Option Fault
  | .hook scope message => some (scope, message)
  | _ => none

/-- The fault that the record of a step keeps, if one. -/
def StepReport.faults (report : StepReport) : List Fault :=
  (report.error.bind ErrorDetail.fault?).toList

/-- A step whose record keeps a fault failed. -/
def StepReport.FailedIfFaulty (report : StepReport) : Prop :=
  report.faults ≠ [] → report.outcome = .failed

/-- The faults that the record of a scenario keeps, those of its steps included. -/
def ScenarioReport.faults (report : ScenarioReport) : List Fault :=
  report.hookFailures.map HookFailure.fault ++ report.steps.flatMap StepReport.faults

/-- The faults that the record of a feature keeps, those of its scenarios included. -/
def FeatureReport.faults (report : FeatureReport) : List Fault :=
  report.hookFailures.map HookFailure.fault ++ report.scenarios.flatMap ScenarioReport.faults

/-- The faults that the record of a run keeps, those of its features included. -/
def SuiteReport.faults (report : SuiteReport) : List Fault :=
  report.hookFailures.map HookFailure.fault ++ report.features.flatMap FeatureReport.faults

/-! ## Marks and the faults that are kept of them -/

/-- The faults of the marks are kept, each of them once, and all hooks among the marks are run at
boundaries as `At` says. -/
structure Keeps (At : HookContext → Prop) (kept : List Fault) (ms : List Mark) : Prop where
  /-- What is kept are the faults of the marks. -/
  perm : (faults ms).Perm kept
  /-- The hooks are run where they belong. -/
  contexts : ∀ mark ∈ ms, ∀ context, mark.context? = some context → At context

namespace Keeps

variable {At At' : HookContext → Prop} {kept kept' : List Fault} {ms ms' : List Mark}

theorem nil : Keeps At [] [] := ⟨.refl _, by simp⟩

theorem mono (h : Keeps At kept ms) (hAt : ∀ context, At context → At' context) :
    Keeps At' kept ms :=
  ⟨h.perm, fun mark hmark context hcontext => hAt context (h.contexts mark hmark context hcontext)⟩

/-- In which order faults are kept does not matter. -/
theorem of_perm (h : Keeps At kept ms) (hperm : kept.Perm kept') : Keeps At kept' ms :=
  ⟨h.perm.trans hperm, h.contexts⟩

theorem append (h : Keeps At kept ms) (h' : Keeps At kept' ms') :
    Keeps At (kept ++ kept') (ms ++ ms') := by
  refine ⟨?_, fun mark hmark => ?_⟩
  · rw [faults_append]
    exact h.perm.append h'.perm
  · rcases List.mem_append.1 hmark with hmark | hmark
    · exact h.contexts mark hmark
    · exact h'.contexts mark hmark

end Keeps

/-! ## Boundaries -/

/-- A world that cannot be made is a fault, and no hook. -/
theorem keeps_world {At : HookContext → Prop} (failure : Option Failure) :
    Keeps At (failure.map fun _ => (.beforeScenario, "failed to create the scenario world")).toList
      (Mark.ofCall .world failure) := by
  refine ⟨?_, ?_⟩
  · cases failure <;> exact .refl _
  · cases failure <;> simp [Mark.ofCall, Mark.context?]

/-- The failures that the hooks of a boundary give are all of their faults, in order. Before a
boundary there is no more than one. -/
theorem Registry.fireEach_faults (context : HookContext)
    (hooks : List (HookDefinition W σ ν × Nat)) :
    (fireEach context hooks).Ensures fun failures entries =>
      faults (marks entries) = failures.map HookFailure.fault ∧
      (context.scope.isBefore = true → failures.length ≤ 1) := by
  induction hooks with
  | nil => exact Ensures.pure ⟨rfl, by simp⟩
  | cons hook rest ih =>
    refine (calling_marks _ _).bind fun result before hbefore => ?_
    cases result with
    | ok _ =>
      refine ih.mono fun failures after ⟨hafter, hone⟩ => ⟨?_, hone⟩
      rw [marks_append, faults_append, hbefore, hafter]
      rfl
    | error f =>
      cases hscope : context.scope.isBefore with
      | true =>
        simp only [↓reduceIte]
        refine Ensures.pure ⟨?_, by simp⟩
        rw [List.append_nil, hbefore]
        rfl
      | false =>
        simp only [Bool.false_eq_true, ↓reduceIte]
        refine ih.bind fun failures after ⟨hafter, _⟩ => Ensures.pure ⟨?_, by simp⟩
        rw [List.append_nil, marks_append, faults_append, hbefore, hafter]
        rfl

/-- The hooks of a boundary are run there, and their failures keep their faults. -/
theorem Registry.fireEach_keeps (context : HookContext)
    (hooks : List (HookDefinition W σ ν × Nat)) :
    (fireEach context hooks).Ensures fun failures entries =>
      Keeps (· = context) (failures.map HookFailure.fault) (marks entries) ∧
      (context.scope.isBefore = true → failures.length ≤ 1) := by
  -- Each entry says by itself at which boundary its hook is run.
  have hwrites : (fireEach context hooks).Writes fun entry =>
      ∀ mark, entry.mark? = some mark → ∀ context', mark.context? = some context' →
        context' = context := by
    refine fireEach_writes ?_ ?_ ?_ hooks <;> simp [Entry.mark?, Mark.context?, eq_comm]
  intro t
  obtain ⟨hfaults, hone⟩ := fireEach_faults context hooks t
  refine ⟨⟨.of_eq hfaults, fun mark hmark => ?_⟩, hone⟩
  obtain ⟨entry, hentry, hmark⟩ := List.mem_filterMap.1 hmark
  exact hwrites t entry hentry mark hmark

namespace Runner

/-- The observers are told of the failures that the hooks of a boundary without a world give. -/
theorem fireOutside_keeps (r : Runner W σ ν) (context : HookContext) :
    (r.fireOutside context).Ensures fun failures entries =>
      Keeps (· = context) (failures.map HookFailure.fault) (marks entries) := by
  refine r.fireOutside_marks
    (P := fun failures marks => Keeps (· = context) (failures.map HookFailure.fault) marks) ?_
  exact Ensures.through ((Registry.fireEach_keeps context _).mono fun _ _ h => h.1)

/-- The same for a boundary with a world. -/
theorem fireAround_keeps (r : Runner W σ ν) (feature : String) (scenario : Scenario)
    (context : HookContext) :
    (r.fireAround feature scenario context).Ensures fun failures entries =>
      Keeps (· = context) (failures.map HookFailure.fault) (marks entries) ∧
      (context.scope.isBefore = true → failures.length ≤ 1) :=
  r.fireAround_marks feature scenario
    (P := fun failures marks => Keeps (· = context) (failures.map HookFailure.fault) marks ∧
      (context.scope.isBefore = true → failures.length ≤ 1))
    (Ensures.through (Registry.fireEach_keeps context _))

end Runner

/-! ## Steps -/

/-- Whether the entry is of a step and not of a hook or of a world. -/
def Entry.IsOfStep : Entry ν → Prop
  | .called (.hook _ _) | .failed (.hook _ _) _ | .called .world | .failed .world _ => False
  | _ => True

/-- Entries of steps have no faults and no hooks. -/
theorem keeps_of_isOfStep {At : HookContext → Prop} {entries : List (Entry ν)}
    (h : ∀ entry ∈ entries, entry.IsOfStep) : Keeps At [] (marks entries) := by
  induction entries with
  | nil => exact .nil
  | cons entry rest ih =>
    obtain ⟨hentry, hrest⟩ := List.forall_mem_cons.1 h
    have hone : Keeps At [] (marks [entry]) := by
      cases entry with
      | called call =>
        cases call <;> first | exact hentry.elim | exact ⟨.refl _, by simp [Mark.context?]⟩
      | failed call f =>
        cases call <;> first | exact hentry.elim | exact ⟨.refl _, by simp [Mark.context?]⟩
      | noted note => exact .nil
      | observed observer event => exact .nil
    have hall := hone.append (ih hrest)
    rwa [← marks_append] at hall

/-- What a step calls by itself are neither hooks nor worlds. -/
theorem Registry.execute_isOfStep (r : Registry W σ ν) (step : Step) :
    (r.execute step).Writes Entry.IsOfStep := by
  have hcalls : r.HoldsOfCalls fun _ m => m.Writes Entry.IsOfStep := {
    compositional := Writes.compositional _
    step := fun _ _ _ => calling_writes _ (.step _) trivial (fun _ => trivial) (fun _ => trivial) _
    transform := fun _ _ _ =>
      calling_writes _ (.transform _ _) trivial (fun _ => trivial) (fun _ => trivial) _
    tableTransform := fun _ _ _ =>
      calling_writes _ (.tableTransform _ _) trivial (fun _ => trivial) (fun _ => trivial) _ }
  exact hcalls.execute step

/-- The record of a step that is run by itself keeps no fault. -/
theorem Registry.execute_faults (r : Registry W σ ν) (step : Step) :
    (r.execute step).Ensures fun report _ => report.faults = [] := by
  have hinvoke : ∀ definition captures,
      (r.invoke definition captures step.argument).Ensures fun result _ =>
      result.2.bind ErrorDetail.fault? = none := by
    intro definition captures s
    rw [invoke, bind_apply]
    match (r.callStep definition captures step.argument s).1 with
    | .error (.transform e) => rfl
    | .error (.failure f) =>
      dsimp only
      cases f.pending <;> rfl
    | .ok .completed => rfl
    | .ok (.chained steps) =>
      dsimp only
      rw [bind_apply]
      rcases (r.runChain steps _).1 with (_ | _) | _ <;> rfl
  unfold execute
  split
  · refine (hinvoke _ _).bind fun result _ hresult => Ensures.pure ?_
    exact congrArg Option.toList hresult
  · refine Ensures.pure ?_
    rw [StepReport.faults, preview]
    split <;> rfl

namespace Runner

/-- The boundaries around a scenario and its steps. -/
structure AroundScenario (feature scenario : String) (context : HookContext) : Prop where
  /-- The hooks see the feature. -/
  feature : context.feature = some feature
  /-- The hooks see the scenario. -/
  scenario : context.scenario = some scenario
  /-- The boundary is one of a scenario or of a step. -/
  scope : context.scope ∈ [HookScope.beforeScenario, .afterScenario, .beforeStep, .afterStep]

/-- Hooks around a scenario are run at such boundaries. -/
theorem aroundScenario_scenarioContext (feature : String) (scenario : Scenario) {scope : HookScope}
    (h : scope ∈ [HookScope.beforeScenario, .afterScenario, .beforeStep, .afterStep]) :
    ∀ context, context = scenarioContext feature scenario scope →
      AroundScenario feature scenario.name context := by
  rintro context rfl
  exact ⟨rfl, rfl, h⟩

/-- So are hooks around its steps. -/
theorem aroundScenario_stepContext (feature : String) (scenario : Scenario) (step : Step)
    (outcome : Option Outcome) {scope : HookScope}
    (h : scope ∈ [HookScope.beforeScenario, .afterScenario, .beforeStep, .afterStep]) :
    ∀ context, context = stepContext feature scenario step scope outcome →
      AroundScenario feature scenario.name context := by
  rintro context rfl
  exact ⟨rfl, rfl, h⟩

/-- A step keeps the fault of a hook before it as the reason why it failed. -/
theorem tryStep_keeps (r : Runner W σ ν) (feature : String) (scenario : Scenario) (step : Step) :
    (r.tryStep feature scenario step).Ensures fun report entries =>
      Keeps (AroundScenario feature scenario.name) report.faults (marks entries) ∧
      report.FailedIfFaulty := by
  refine (r.fireAround_keeps feature scenario _).bind fun failures before ⟨hbefore, hone⟩ => ?_
  have hbefore := hbefore.mono (aroundScenario_stepContext feature scenario step none (by simp))
  cases failures with
  | cons failure rest =>
    -- There are no further failures that the record of the step would lose.
    obtain rfl : rest = [] := by simpa using hone rfl
    refine Ensures.pure ⟨?_, fun _ => rfl⟩
    rw [List.append_nil]
    exact hbefore
  | nil =>
    refine Ensures.mono (P := fun report entries => report.faults = [] ∧ ∀ entry ∈ entries,
      entry.IsOfStep)
      (fun t => ⟨r.registry.execute_faults step t, r.registry.execute_isOfStep step t⟩) ?_
    intro report after ⟨hnone, hafter⟩
    rw [marks_append, StepReport.FailedIfFaulty, hnone]
    exact ⟨hbefore.append (keeps_of_isOfStep hafter), fun h => absurd rfl h⟩

/-- A step that takes up a failure of a hook after it keeps it, and the others are left. -/
theorem absorb_faults (step : Step) {report : StepReport} (failures : List HookFailure)
    (h : report.FailedIfFaulty) :
    (absorb step report failures).1.faults ++ (absorb step report failures).2.map
      HookFailure.fault =
      report.faults ++ failures.map HookFailure.fault ∧
      (absorb step report failures).1.FailedIfFaulty := by
  cases failures with
  | nil => exact ⟨rfl, h⟩
  | cons failure rest =>
    by_cases hsuccess : report.outcome = .successful
    · -- The record has kept no fault so far, and now keeps the first one.
      have hnone : report.faults = [] := by
        by_contra hfaulty
        rw [h hfaulty] at hsuccess
        cases hsuccess
      rw [absorb, if_pos hsuccess, hnone]
      exact ⟨rfl, fun _ => rfl⟩
    · rw [absorb, if_neg hsuccess]
      exact ⟨rfl, h⟩

/-- The faults of the hooks around a step are kept by its record or left to the scenario. -/
theorem attemptStep_keeps (r : Runner W σ ν) (feature : String) (scenario : Scenario)
    (step : Step) :
    (r.attemptStep feature scenario step).Ensures fun result entries =>
      Keeps (AroundScenario feature scenario.name)
        (result.1.faults ++ result.2.map HookFailure.fault)
        (marks entries) ∧ result.1.FailedIfFaulty := by
  refine (r.tryStep_keeps feature scenario step).bind fun report tried ⟨htried, hfailed⟩ => ?_
  refine (r.fireAround_keeps feature scenario _).bind fun failures after ⟨hafter, _⟩ =>
    Ensures.pure ?_
  obtain ⟨hfaults, habsorbed⟩ := absorb_faults step failures hfailed
  have hafter := hafter.mono (aroundScenario_stepContext feature scenario step _ (by simp))
  refine ⟨?_, habsorbed⟩
  rw [List.append_nil, marks_append, hfaults]
  exact htried.append hafter

/-- The faults of the hooks around steps are kept by their records or left to the scenario. -/
theorem attemptSteps_keeps (r : Runner W σ ν) (feature : String) (scenario : Scenario)
    (progress : Progress) (steps : List Step) :
    (r.attemptSteps feature scenario progress steps).Ensures fun result entries =>
      Keeps (AroundScenario feature scenario.name)
        (result.2.1.map HookFailure.fault ++ result.1.flatMap StepReport.faults) (marks entries) ∧
      ∀ report ∈ result.1, report.FailedIfFaulty := by
  induction steps generalizing progress with
  | nil => exact Ensures.pure ⟨.nil, by simp⟩
  | cons step rest ih =>
    cases progress with
    | failureMode =>
      refine (r.record_marks feature scenario _).beside.bind fun report before
        ⟨hreport, hbefore⟩ => ?_
      obtain rfl := hreport
      refine (ih .failureMode).bind fun ⟨reports, failures, progress⟩ after ⟨hafter, hall⟩ =>
        Ensures.pure ?_
      rw [List.append_nil, marks_append, hbefore, List.nil_append]
      exact ⟨hafter, List.forall_mem_cons.2 ⟨fun h => absurd rfl h, hall⟩⟩
    | running =>
      refine (r.attemptStep_keeps feature scenario step).bind
        fun ⟨report, unabsorbed⟩ before ⟨hbefore, hfailed⟩ => ?_
      refine (r.record_marks feature scenario report).beside.bind fun told between
        ⟨htold, hbetween⟩ => ?_
      obtain rfl := htold
      refine (ih _).bind fun ⟨reports, failures, progress⟩ after ⟨hafter, hall⟩ => Ensures.pure ?_
      refine ⟨?_, List.forall_mem_cons.2 ⟨hfailed, hall⟩⟩
      rw [List.append_nil, marks_append, marks_append, hbetween, List.nil_append]
      refine (hbefore.append hafter).of_perm ?_
      rw [List.map_append, List.flatMap_cons, List.append_assoc, List.append_assoc]
      refine (List.perm_append_comm_assoc _ _ _).trans (List.Perm.append_left _ ?_)
      exact List.perm_append_comm_assoc _ _ _

/-! ## Scenarios -/

/-- The record of a scenario keeps the faults of its marks, and no step has
succeeded in spite of one. -/
structure ScenarioKeeps (feature : String) (scenario : Scenario) (report : ScenarioReport)
    (ms : List Mark) :
    Prop where
  /-- The record is of the scenario. -/
  name : report.name = scenario.name
  /-- The marks are of hooks around the scenario and its steps. -/
  keeps : Keeps (AroundScenario feature scenario.name) report.faults ms
  /-- The steps that keep a fault failed. -/
  failed : ∀ step ∈ report.steps, step.FailedIfFaulty

/-- Steps that are not run have no faults. -/
theorem recordSteps_skipped_faults (r : Runner W σ ν) (feature : String) (scenario : Scenario) :
    (r.recordSteps feature scenario .skipped).Ensures fun steps entries => marks entries = [] ∧
      steps.flatMap StepReport.faults = [] ∧ ∀ step ∈ steps, step.FailedIfFaulty := by
  refine (r.recordSteps_marks feature scenario _).mono fun steps entries ⟨hsteps, hquiet⟩ => ?_
  have hnone : ∀ step ∈ steps, step.faults = [] := by
    intro step hstep
    rw [hsteps] at hstep
    obtain ⟨_, -, rfl⟩ := List.mem_map.1 hstep
    rfl
  exact ⟨hquiet, List.flatMap_eq_nil_iff.2 hnone, fun step hstep h => absurd (hnone step hstep) h⟩

/-- On its world a scenario keeps all faults. -/
theorem runOnWorld_keeps (r : Runner W σ ν) (feature : String) (scenario : Scenario) :
    (r.runOnWorld feature scenario).Ensures fun report entries =>
      ScenarioKeeps feature scenario report (marks entries) := by
  refine (r.fireAround_keeps feature scenario _).bind fun before opening ⟨hopening, _⟩ => ?_
  refine (r.attemptSteps_keeps feature scenario _ _).bind
    fun ⟨steps, around, progress⟩ between ⟨hbetween, hall⟩ => ?_
  refine (r.fireAround_keeps feature scenario _).bind fun after closing ⟨hclosing, _⟩ =>
    Ensures.pure ⟨rfl, ?_, hall⟩
  rw [List.append_nil, marks_append, marks_append, ScenarioReport.faults]
  have hopening := hopening.mono (aroundScenario_scenarioContext feature scenario (by simp))
  have hclosing := hclosing.mono (aroundScenario_scenarioContext feature scenario (by simp))
  refine (hopening.append (hbetween.append hclosing)).of_perm ?_
  rw [List.map_append, List.map_append, List.append_assoc, List.append_assoc, List.append_assoc]
  refine List.Perm.append_left _ (List.Perm.append_left _ ?_)
  exact List.perm_append_comm

/-- A scenario keeps all faults, also that its world cannot be made. -/
theorem executeScenario_keeps (r : Runner W σ ν) (feature : String) (scenario : Scenario) :
    (r.executeScenario feature scenario).Ensures fun report entries =>
      ScenarioKeeps feature scenario report (marks entries) := by
  refine (calling_marks _ _).bind fun made first hfirst => ?_
  cases made with
  | ok world =>
    refine Ensures.bind (P := fun result entries =>
      ScenarioKeeps feature scenario result.1 (marks entries)) ?_ ?_
    · exact Ensures.within ((r.runOnWorld_keeps feature scenario).mono fun _ _ h _ => h)
    · intro result entries hentries
      refine Ensures.pure ?_
      rw [List.append_nil, marks_append, hfirst]
      exact { hentries with keeps := (keeps_world none).append hentries.keeps }
  | error f =>
    refine (r.tellHookFailures_marks _ _ _).bind fun _ before hbefore => ?_
    refine (r.recordSteps_skipped_faults feature scenario).bind
      fun steps after ⟨hafter, hnone, hall⟩ => Ensures.pure ⟨rfl, ?_, hall⟩
    rw [List.append_nil, marks_append, marks_append, hfirst, hbefore, hafter,
      ScenarioReport.faults, hnone]
    exact keeps_world (some f)

/-- A scenario that is blocked has no faults, and one that is run keeps all of them. -/
theorem scenarioReport_keeps (r : Runner W σ ν) (hlive : r.dryRun = false) (feature : String)
    (scenario : Scenario) (blocked : Bool) :
    (r.scenarioReport feature scenario blocked).Ensures fun report entries =>
      ScenarioKeeps feature scenario report (marks entries) := by
  refine (r.tell_marks _).bind fun _ first hfirst => ?_
  cases blocked with
  | true =>
    simp only [↓reduceIte, pure_bind]
    refine (r.recordSteps_skipped_faults feature scenario).bind
      fun steps between ⟨hbetween, hnone, hall⟩ => ?_
    refine (r.tell_marks _).bind fun _ last hlast => Ensures.pure ⟨rfl, ?_, hall⟩
    rw [List.append_nil, marks_append, marks_append, hfirst, hbetween, hlast,
      ScenarioReport.faults, hnone]
    exact .nil
  | false =>
    simp only [hlive, Bool.false_eq_true, ↓reduceIte]
    refine (r.executeScenario_keeps feature scenario).bind fun report between hbetween => ?_
    refine (r.tell_marks _).bind fun _ last hlast => Ensures.pure ?_
    rw [List.append_nil, marks_append, marks_append, hfirst, hlast, List.append_nil,
      List.nil_append]
    exact hbetween

end Runner

end Rehearsal
