import Rehearsal.Run.Feature

/-!
# Properties of runs by their parts

Many a property of computations is kept by giving values and by running one computation after the
other. Such a property holds of all that a runner computes for a feature if it holds of the calls of
code and of what the observers are told: `HoldsOfParts.featureReport` goes through the functions of
a run once for all of these properties.
-/

namespace Rehearsal

open Journaled

variable {W σ τ ν ε α β : Type}

/-! ## Compositional properties -/

/-- A property that is kept by giving values and by running one computation after the other. -/
structure Journaled.Compositional (P : ∀ α : Type, Journaled τ ε α → Prop) : Prop where
  /-- Giving a value has the property. -/
  pure : ∀ {α : Type} (a : α), P α (pure a)
  /-- Two computations have it together. -/
  bind : ∀ {α β : Type} {m : Journaled τ ε α} {f : α → Journaled τ ε β},
    P α m → (∀ a, P β (f a)) → P β (m >>= f)

/-- Computations for items have the property together. -/
theorem Journaled.Compositional.forEach {P : ∀ α : Type, Journaled τ ε α → Prop}
    (hP : Compositional P) {f : α → Journaled τ ε β} (items : List α) (hf : ∀ a, P β (f a)) :
    P _ (Journaled.forEach f items) := by
  induction items with
  | nil => exact hP.pure []
  | cons a rest ih =>
    rw [forEach_cons]
    exact hP.bind (hf a) fun b => hP.bind ih fun bs => hP.pure (b :: bs)

/-! ## Steps -/

namespace Registry

variable {r : Registry W σ ν}

/-- The definition that is for a text is one of the registry. -/
theorem mem_steps_of_resolve {text : String} {definition : StepDefinition W σ ν}
    {captures : List String} (h : r.resolve text = .unique definition captures) :
    definition ∈ r.steps := by
  unfold resolve at h
  split at h
  · cases h
  · next d hd =>
    split at h
    · obtain ⟨rfl, rfl⟩ := h
      exact (List.mem_filter.1 (show definition ∈ r.matchingSteps text by simp [hd])).1
    · cases h
  · cases h

/-- A compositional property that the calls of all steps and transforms have. -/
structure HoldsOfCalls (r : Registry W σ ν)
    (Q : ∀ α : Type, Journaled (W × σ) (Entry ν) α → Prop) : Prop where
  /-- The property is compositional. -/
  compositional : Compositional Q
  /-- The calls of steps have it. -/
  step : ∀ d ∈ r.steps, ∀ arguments, Q _ (calling (.step d.pattern.source) (d.code arguments))
  /-- The calls of transforms of captures have it. -/
  transform : ∀ d ∈ r.transforms, ∀ captures,
    Q _ (calling (.transform d.pattern.source captures) (d.code captures))
  /-- The calls of transforms of tables have it. -/
  tableTransform : ∀ d ∈ r.tableTransforms, ∀ table,
    Q _ (calling (.tableTransform d.pattern.source table.signature) (d.code table))

namespace HoldsOfCalls

variable {Q : ∀ α : Type, Journaled (W × σ) (Entry ν) α → Prop} (h : r.HoldsOfCalls Q)
include h

theorem transformCaptures (captures : List String) : Q _ (r.transformCaptures captures) := by
  have hQ := h.compositional
  have hcapture : ∀ capture, Q _ (r.transformCapture capture) := by
    intro capture
    unfold transformCapture
    split
    · exact hQ.pure _
    · next t ht =>
      have hmem : t ∈ r.matchingTransforms capture := by simp [ht]
      refine hQ.bind (h.transform t (List.mem_filter.1 hmem).1 _) fun result => ?_
      cases result <;> exact hQ.pure _
    · exact hQ.pure _
  induction captures with
  | nil => exact hQ.pure _
  | cons capture rest ih =>
    refine hQ.bind (hcapture capture) fun result => ?_
    cases result with
    | error e => exact hQ.pure _
    | ok argument =>
      refine hQ.bind ih fun result => ?_
      cases result <;> exact hQ.pure _

theorem transformBelow (below : Option StepArgument) : Q _ (r.transformBelow below) := by
  have hQ := h.compositional
  match below with
  | none => exact hQ.pure _
  | some (.text text) => exact hQ.pure _
  | some (.table table) =>
    refine hQ.bind ?_ fun argument => hQ.pure _
    simp only [transformTable]
    split
    · exact hQ.pure _
    · next t ht =>
      have hmem : t ∈ r.matchingTableTransforms table.signature := by simp [ht]
      refine hQ.bind (h.tableTransform t (List.mem_filter.1 hmem).1 _) fun result => ?_
      cases result <;> exact hQ.pure _
    · exact hQ.pure _

theorem callStep {definition : StepDefinition W σ ν} (hd : definition ∈ r.steps)
    (captures : List String) (below : Option StepArgument) :
    Q _ (r.callStep definition captures below) := by
  have hQ := h.compositional
  refine hQ.bind ?_ fun result => ?_
  · refine hQ.bind (h.transformCaptures captures) fun result => ?_
    cases result with
    | error e => exact hQ.pure _
    | ok front =>
      refine hQ.bind (h.transformBelow below) fun result => ?_
      cases result <;> exact hQ.pure _
  · cases result with
    | error e => exact hQ.pure _
    | ok arguments => exact hQ.bind (h.step definition hd arguments) fun _ => hQ.pure _

/-- Steps in order have the property if each of them has. -/
theorem runEach {run : Step → Journaled (W × σ) (Entry ν) (Except ChainStop Unit)}
    (steps : List Step) (hrun : ∀ step, Q _ (run step)) : Q _ (Registry.runEach run steps) := by
  have hQ := h.compositional
  induction steps with
  | nil => exact hQ.pure _
  | cons step rest ih =>
    refine hQ.bind (hrun step) fun result => ?_
    cases result with
    | error e => exact hQ.pure _
    | ok _ => exact ih

/-- Chains have the property, however deep they are nested. -/
theorem runChained (depth : Nat) (step : Step) : Q _ (r.runChained depth step) := by
  have hQ := h.compositional
  induction depth generalizing step with
  | zero => exact hQ.pure _
  | succ depth ih =>
    -- Steps that this one asks for are nested less deep.
    unfold Registry.runChained
    split
    · exact hQ.pure _
    · exact hQ.pure _
    · next definition captures hresolve =>
      refine hQ.bind (h.callStep (mem_steps_of_resolve hresolve) captures step.argument)
        fun result => ?_
      match result with
      | .error (.transform e) => exact hQ.pure _
      | .error (.failure f) =>
        dsimp only
        split <;> exact hQ.pure _
      | .ok .completed => exact hQ.pure _
      | .ok (.chained steps) => exact hQ.bind (h.runEach steps ih) fun _ => hQ.pure _

/-- Steps have the property, with all that they ask for. -/
theorem execute (step : Step) : Q _ (r.execute step) := by
  have hQ := h.compositional
  unfold Registry.execute
  split
  · next definition captures hresolve =>
    refine hQ.bind ?_ fun _ => hQ.pure _
    refine hQ.bind (h.callStep (mem_steps_of_resolve hresolve) captures step.argument)
      fun result => ?_
    match result with
    | .error (.transform e) => exact hQ.pure _
    | .error (.failure f) =>
      dsimp only
      split <;> exact hQ.pure _
    | .ok .completed => exact hQ.pure _
    | .ok (.chained steps) =>
      refine hQ.bind (h.runEach steps (h.runChained r.chainLimit)) fun result => ?_
      cases result <;> exact hQ.pure _
  · exact hQ.pure _

end HoldsOfCalls

end Registry

/-! ## Runs of features -/

/-- Whether the event is one of the whole run: its start, its end or the failure
of a hook around it. -/
def RunEvent.isOfSuite : RunEvent → Bool
  | .suiteStarted _ | .suiteFinished _ | .hookFailed none _ _ => true
  | _ => false

namespace Runner

variable {r : Runner W σ ν}

/-- A property of computations without a world, and one of computations on a world, that the parts
have from which runs of features are made. -/
structure HoldsOfParts (r : Runner W σ ν) (P : ∀ α : Type, Journaled σ (Entry ν) α → Prop)
    (Q : ∀ α : Type, Journaled (W × σ) (Entry ν) α → Prop) : Prop where
  /-- Without a world the property is compositional. -/
  compositional : Compositional P
  /-- The calls of steps and transforms have it. -/
  calls : r.registry.HoldsOfCalls Q
  /-- It is kept beside a world. -/
  beside : ∀ {α : Type} {m : Journaled σ (Entry ν) α}, P α m → Q α m.beside
  /-- It is kept when a world is there for a while. -/
  within : ∀ {α : Type} {m : Journaled (W × σ) (Entry ν) α} (world : W), Q α m →
    P _ (m.within world)
  /-- Telling observers of a feature has it. -/
  tell : ∀ event, event.isOfSuite = false → P _ (r.tell event)
  /-- Making a world has it. -/
  world : P _ (calling .world r.newWorld)
  /-- Hooks that run in a feature have it. -/
  fire : ∀ context, context.scope.isSuite = false → P _ (r.registry.fire context)
  /-- Hooks that run in a scenario have it. -/
  fireOnWorld : ∀ context, context.scope.isSuite = false → Q _ (r.registry.fireOnWorld context)

namespace HoldsOfParts

variable {P : ∀ α : Type, Journaled σ (Entry ν) α → Prop}
  {Q : ∀ α : Type, Journaled (W × σ) (Entry ν) α → Prop} (h : r.HoldsOfParts P Q)
include h

theorem tellHookFailures (feature : String) (scenario : Option String)
    (failures : List HookFailure) :
    P _ (r.tellHookFailures (some feature) scenario failures) := by
  induction failures with
  | nil => exact h.compositional.pure _
  | cons failure rest ih => exact h.compositional.bind (h.tell _ rfl) fun _ => ih

theorem record (feature : String) (scenario : Scenario) (report : StepReport) :
    P _ (r.record feature scenario report) :=
  h.compositional.bind (h.tell _ rfl) fun _ => h.compositional.pure _

theorem recordSteps (feature : String) (scenario : Scenario) (preview : Step → StepReport) :
    P _ (r.recordSteps feature scenario preview) :=
  h.compositional.forEach _ fun step => h.record feature scenario (preview step)

theorem fireAround (feature : String) (scenario : Scenario) (context : HookContext)
    (hcontext : context.scope.isSuite = false) : Q _ (r.fireAround feature scenario context) := by
  have hQ := h.calls.compositional
  exact hQ.bind (h.fireOnWorld context hcontext) fun failures =>
    hQ.bind (h.beside (h.tellHookFailures feature _ failures)) fun _ => hQ.pure _

theorem attemptStep (feature : String) (scenario : Scenario) (step : Step) :
    Q _ (r.attemptStep feature scenario step) := by
  have hQ := h.calls.compositional
  refine hQ.bind ?_ fun report => hQ.bind (h.fireAround _ _ _ rfl) fun failures => hQ.pure _
  refine hQ.bind (h.fireAround _ _ _ rfl) fun failures => ?_
  cases failures with
  | nil => exact h.calls.execute step
  | cons failure rest => exact hQ.pure _

/-- Steps have the property however far they go. -/
theorem attemptSteps (feature : String) (scenario : Scenario) (progress : Progress)
    (steps : List Step) :
    Q _ (r.attemptSteps feature scenario progress steps) := by
  have hQ := h.calls.compositional
  induction steps generalizing progress with
  | nil => cases progress <;> exact hQ.pure _
  | cons step rest ih =>
    cases progress with
    | failureMode =>
      exact hQ.bind (h.beside (h.record _ _ _)) fun report => hQ.bind (ih _) fun _ => hQ.pure _
    | running =>
      refine hQ.bind (h.attemptStep _ _ _) fun result => ?_
      exact hQ.bind (h.beside (h.record _ _ _)) fun report => hQ.bind (ih _) fun _ => hQ.pure _

theorem runOnWorld (feature : String) (scenario : Scenario) :
    Q _ (r.runOnWorld feature scenario) := by
  have hQ := h.calls.compositional
  exact hQ.bind (h.fireAround _ _ _ rfl) fun _ => hQ.bind (h.attemptSteps _ _ _ _) fun _ =>
    hQ.bind (h.fireAround _ _ _ rfl) fun _ => hQ.pure _

theorem executeScenario (feature : String) (scenario : Scenario) :
    P _ (r.executeScenario feature scenario) := by
  have hP := h.compositional
  refine hP.bind h.world fun made => ?_
  cases made with
  | ok world => exact hP.bind (h.within world (h.runOnWorld feature scenario)) fun _ => hP.pure _
  | error f =>
    exact hP.bind (h.tellHookFailures _ _ _) fun _ =>
      hP.bind (h.recordSteps _ _ _) fun _ => hP.pure _

theorem scenarioReport (feature : String) (scenario : Scenario) (blocked : Bool) :
    P _ (r.scenarioReport feature scenario blocked) := by
  have hP := h.compositional
  refine hP.bind (h.tell _ rfl) fun _ => ?_
  dsimp only
  split
  · exact hP.bind (h.recordSteps _ _ _) fun steps => hP.bind (hP.pure _) fun report =>
      hP.bind (h.tell _ rfl) fun _ => hP.pure _
  · split
    · exact hP.bind (h.recordSteps _ _ _) fun steps => hP.bind (hP.pure _) fun report =>
        hP.bind (h.tell _ rfl) fun _ => hP.pure _
    · exact hP.bind (h.executeScenario feature scenario) fun report =>
        hP.bind (h.tell _ rfl) fun _ => hP.pure _

theorem fireOutside (feature : Feature) (scope : HookScope) (hscope : scope.isSuite = false) :
    P _ (r.fireOutside (featureContext feature scope)) := by
  have hP := h.compositional
  exact hP.bind (h.fire _ hscope) fun failures =>
    hP.bind (h.tellHookFailures _ _ failures) fun _ => hP.pure _

/-- What holds of the parts holds of the run of a feature. -/
theorem featureReport (feature : Feature) (suiteBlocked : Bool) :
    P _ (r.featureReport feature suiteBlocked) := by
  have hP := h.compositional
  have hscenarios : ∀ blocked, P _ (Journaled.forEach
      (fun scenario => r.scenarioReport feature.name scenario blocked) (r.selected feature)) :=
    fun blocked => hP.forEach _ fun scenario => h.scenarioReport feature.name scenario blocked
  unfold Runner.featureReport
  dsimp only
  split
  · exact hP.pure _
  · refine hP.bind (h.tell _ rfl) fun _ => ?_
    split
    · exact hP.bind (h.fireOutside _ _ rfl) fun before => hP.bind (hscenarios _) fun reports =>
        hP.bind (h.fireOutside _ _ rfl) fun after => hP.bind (h.tell _ rfl) fun _ => hP.pure _
    · exact hP.bind (hP.pure _) fun before => hP.bind (hscenarios _) fun reports =>
        hP.bind (hP.pure _) fun after => hP.bind (h.tell _ rfl) fun _ => hP.pure _

end HoldsOfParts

end Runner

end Rehearsal
