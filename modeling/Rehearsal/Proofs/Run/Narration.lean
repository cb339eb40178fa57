import Rehearsal.Proofs.Run.Brackets
import Rehearsal.Proofs.Run.Faults

/-!
# What observers are told

The observers of a run are all told the same, each event once and in order. So what a computation
tells is a list of events, its story, and stories of consecutive computations follow each other.
Besides, a story leaves out no fault and invents none: the failures of hooks that it tells of are
those that happened, in the order in which they did.
-/

namespace Rehearsal

open Journaled

variable {W σ τ ν α β : Type}

namespace RunEvent

/-- The record of a step that the event tells of. -/
def step? : RunEvent → Option StepReport
  | .stepFinished _ _ step => some step
  | _ => none

/-- The fault that the event tells of. -/
def fault? : RunEvent → Option Fault
  | .hookFailed _ _ failure => some failure.fault
  | _ => none

end RunEvent

/-- What the observer at the given place was told, in order. -/
def toldTo (observer : Nat) (entries : List (Entry ν)) : List RunEvent :=
  (events entries).filterMap fun (place, event) => if place = observer then some event else none

@[simp] theorem toldTo_append (observer : Nat) (before after : List (Entry ν)) :
    toldTo observer (before ++ after) = toldTo observer before ++ toldTo observer after := by
  rw [toldTo, events_append, List.filterMap_append]
  rfl

/-- The events that tell of failures of hooks one by one. -/
def hooksFailed (feature scenario : Option String) (failures : List HookFailure) : List RunEvent :=
  failures.map (.hookFailed feature scenario)

@[simp] theorem hooksFailed_append (feature scenario : Option String)
    (before after : List HookFailure) :
    hooksFailed feature scenario (before ++ after) =
      hooksFailed feature scenario before ++ hooksFailed feature scenario after := List.map_append

/-- Of the failures exactly the faults are told. -/
@[simp] theorem filterMap_fault_hooksFailed (feature scenario : Option String)
    (failures : List HookFailure) :
    (hooksFailed feature scenario failures).filterMap RunEvent.fault? =
      failures.map HookFailure.fault := by
  rw [hooksFailed, List.filterMap_map]
  exact congrFun (List.filterMap_eq_map' (f := HookFailure.fault)) failures

/-- No step is told of where failures are. -/
@[simp] theorem filterMap_step_hooksFailed (feature scenario : Option String)
    (failures : List HookFailure) :
    (hooksFailed feature scenario failures).filterMap RunEvent.step? = [] := by
  rw [hooksFailed, List.filterMap_map, List.filterMap_eq_nil_iff]
  intro failure _
  rfl

/-- All failures are of hooks of the given scope. -/
def AllOf (scope : HookScope) (failures : List HookFailure) : Prop :=
  ∀ failure ∈ failures, failure.scope = scope

@[simp] theorem allOf_nil (scope : HookScope) : AllOf scope [] := List.forall_mem_nil _

/-- Observers are told nothing by the entry. -/
def Entry.Untold (entry : Entry ν) : Prop := entry.event? = none

namespace Runner

/-! ## Stories -/

/-- The entries tell the story: all observers are told its events in order and nothing else, and it
tells of the faults that happened, in order. -/
structure Narrates (r : Runner W σ ν) (story : List RunEvent)
    (entries : List (Entry ν)) : Prop where
  /-- The observers are told of the events. -/
  events : events entries = events (story.flatMap r.announced)
  /-- The faults are told. -/
  faults : faults (marks entries) = story.filterMap RunEvent.fault?

variable {r : Runner W σ ν}

/-- Whoever has a place among the observers is told of an event once. -/
theorem toldTo_announced (r : Runner W σ ν) (event : RunEvent) {observer : Nat}
    (h : observer < r.observers.length) :
    toldTo observer (r.announced event : List (Entry ν)) = [event] := by
  suffices hplaces : ∀ n, toldTo observer
      ((List.range n).map fun place => (.observed place event : Entry ν)) =
      if observer < n then [event] else [] by rw [announced, hplaces, if_pos h]
  -- By induction on the number of places: the last one is that of the observer, or an
  -- earlier one, or none.
  intro n
  induction n with
  | zero => rfl
  | succ n ih =>
    have hlast : toldTo observer [(.observed n event : Entry ν)] = if n =
        observer then [event] else [] := by
      by_cases hplace : n = observer <;> simp [toldTo, events, Entry.event?, hplace]
    rw [List.range_succ, List.map_append, List.map_singleton, toldTo_append, ih, hlast]
    rcases Nat.lt_trichotomy observer n with hlt | rfl | hgt
    · rw [if_pos hlt, if_neg (by omega), if_pos (by omega), List.append_nil]
    · simp
    · rw [if_neg (by omega), if_neg (by omega), if_neg (by omega), List.append_nil]

namespace Narrates

variable {story story' : List RunEvent} {entries entries' : List (Entry ν)}

theorem nil : r.Narrates [] [] := ⟨rfl, rfl⟩

/-- Entries after each other tell one story after the other. -/
theorem append (h : r.Narrates story entries) (h' : r.Narrates story' entries') :
    r.Narrates (story ++ story') (entries ++ entries') where
  events := by rw [events_append, List.flatMap_append, events_append, h.events, h'.events]
  faults := by rw [marks_append, faults_append, List.filterMap_append, h.faults, h'.faults]

/-- Entries that have no part in telling and no fault may stand anywhere. -/
theorem of_silent (hevents : Rehearsal.events entries = [])
    (hfaults : Rehearsal.faults (marks entries) = []) :
    r.Narrates [] entries := ⟨hevents, hfaults⟩

/-- Every observer is told the whole story. -/
theorem toldTo (h : r.Narrates story entries) {observer : Nat}
    (hplace : observer < r.observers.length) :
    toldTo observer entries = story := by
  have hstory : Rehearsal.toldTo observer (story.flatMap r.announced : List (Entry ν)) = story := by
    clear h
    induction story with
    | nil => rfl
    | cons event rest ih =>
      rw [List.flatMap_cons, toldTo_append, r.toldTo_announced event hplace, ih]
      rfl
  rw [← hstory, Rehearsal.toldTo, h.events]
  rfl

end Narrates

/-! ## Computations that tell stories -/

/-- From every state, the computation tells a story that stands to what it gives as `Q` says. -/
def Tells (r : Runner W σ ν) (m : Journaled τ (Entry ν) α) (Q : α → List RunEvent → Prop) : Prop :=
  m.Ensures fun a entries => ∃ story, r.Narrates story entries ∧ Q a story

namespace Tells

variable {m : Journaled τ (Entry ν) α} {P Q : α → List RunEvent → Prop}

theorem mono (h : r.Tells m P) (hPQ : ∀ a story, P a story → Q a story) : r.Tells m Q :=
  Ensures.mono h fun a _ ⟨story, hstory, ha⟩ => ⟨story, hstory, hPQ a story ha⟩

protected theorem pure {a : α} (h : Q a []) : r.Tells (pure a : Journaled τ (Entry ν) α) Q :=
  Ensures.pure ⟨[], .nil, h⟩

/-- The second computation is judged on the whole story, that of the first one included. -/
protected theorem bind {f : α → Journaled τ (Entry ν) β} {R : β → List RunEvent → Prop}
    (hm : r.Tells m P)
    (hf : ∀ a before, P a before → r.Tells (f a) fun b after => R b (before ++ after)) :
    r.Tells (m >>= f) R := by
  refine Ensures.bind hm fun a before ⟨first, hfirst, ha⟩ => ?_
  refine Ensures.mono (hf a first ha) fun b after ⟨second, hsecond, hb⟩ => ?_
  exact ⟨first ++ second, hfirst.append hsecond, hb⟩

protected theorem beside {m : Journaled σ (Entry ν) α} (h : r.Tells m Q) :
    r.Tells (m.beside : Journaled (τ × σ) (Entry ν) α) Q := Ensures.beside h

protected theorem within {w : W} {m : Journaled (W × σ) (Entry ν) α} (h : r.Tells m Q) :
    r.Tells (m.within w) fun result story => Q result.1 story :=
  Ensures.within (Ensures.mono h fun _ _ h _ => h)

end Tells

/-! ## Observers -/

/-- To tell of an event is a story of one event. -/
theorem tell_tells (r : Runner W σ ν) {event : RunEvent} (h : event.fault? = none) :
    r.Tells (r.tell event) fun _ story => story = [event] := by
  refine (r.tell_announces event).mono fun _ entries hentries => ⟨[event], ?_, rfl⟩
  subst hentries
  refine ⟨by rw [List.flatMap_singleton], ?_⟩
  rw [marks_announced, List.filterMap_cons_none h]
  rfl

/-- The record of a step is told, and is what telling of it gives. -/
theorem record_tells (r : Runner W σ ν) (feature : String) (scenario : Scenario)
    (report : StepReport) :
    r.Tells (r.record feature scenario report) fun told story =>
      told = report ∧ story = [.stepFinished feature scenario.name report] := by
  refine (r.tell_tells rfl).bind fun _ story hstory => Tells.pure ⟨rfl, ?_⟩
  rw [hstory]
  rfl

/-! ## Hooks -/

/-- Faults that happen untold and are told of afterwards make up a story. -/
theorem narrates_hooksFailed (r : Runner W σ ν) (feature scenario : Option String)
    {failures : List HookFailure} {entries : List (Entry ν)} (hevents : events entries = [])
    (hfaults : faults (marks entries) = failures.map HookFailure.fault) :
    r.Narrates (hooksFailed feature scenario failures)
      (entries ++ failures.flatMap fun failure =>
        r.announced (.hookFailed feature scenario failure)) where
  events := by
    rw [events_append, hevents, List.nil_append, hooksFailed, List.flatMap_map]
  faults := by
    rw [marks_append, marks_flatMap_announced, List.append_nil, hfaults,
      filterMap_fault_hooksFailed]

/-- At a boundary without a world the failures of the hooks are told. -/
theorem fireOutside_tells (r : Runner W σ ν) (context : HookContext) :
    r.Tells (r.fireOutside context) fun failures story =>
      story = hooksFailed context.feature none failures ∧ AllOf context.scope failures := by
  have hfire : (r.registry.fire context).Ensures fun failures entries =>
      (events entries = [] ∧ AllOf context.scope failures) ∧
      faults (marks entries) = failures.map HookFailure.fault :=
    Ensures.through fun t =>
      ⟨Registry.fireEach_events context _ t, (Registry.fireEach_faults context _ t).1⟩
  refine hfire.bind fun failures before ⟨⟨hevents, hscope⟩, hfaults⟩ => ?_
  refine (r.tellHookFailures_announces context.feature none failures).bind fun _ after hafter =>
    Ensures.pure ?_
  rw [List.append_nil, hafter]
  exact ⟨_, r.narrates_hooksFailed _ _ hevents hfaults, rfl, hscope⟩

/-- So are they at a boundary with a world. Before a boundary no more than one hook fails. -/
theorem fireAround_tells (r : Runner W σ ν) (feature : String) (scenario : Scenario)
    (context : HookContext) :
    r.Tells (r.fireAround feature scenario context) fun failures story =>
      story = hooksFailed (some feature) (some scenario.name) failures ∧
      AllOf context.scope failures ∧
      (context.scope.isBefore = true → failures.length ≤ 1) := by
  have hfire : (r.registry.fireOnWorld context).Ensures fun failures entries =>
      (events entries = [] ∧ AllOf context.scope failures) ∧
      faults (marks entries) = failures.map HookFailure.fault ∧
      (context.scope.isBefore = true → failures.length ≤ 1) :=
    Ensures.through fun t =>
      ⟨Registry.fireEach_events context _ t, Registry.fireEach_faults context _ t⟩
  refine hfire.bind fun failures before ⟨⟨hevents, hscope⟩, hfaults, hone⟩ => ?_
  have htell := r.tellHookFailures_announces (some feature) (some scenario.name) failures
  refine htell.beside.bind fun _ after hafter => Ensures.pure ?_
  rw [List.append_nil, hafter]
  exact ⟨_, r.narrates_hooksFailed _ _ hevents hfaults, rfl, hscope, hone⟩

/-- The hooks of a boundary of a feature are told of if they are run. -/
theorem fireAroundFeature_tells (r : Runner W σ ν) (feature : Feature) (run : Bool)
    (scope : HookScope) :
    r.Tells (r.fireAroundFeature feature run scope) fun failures story =>
      story = hooksFailed (some feature.name) none failures ∧ AllOf scope failures := by
  cases run with
  | false => exact Tells.pure ⟨rfl, by simp⟩
  | true => exact r.fireOutside_tells _

/-- So are the hooks of a boundary of the run. -/
theorem fireAroundSuite_tells (r : Runner W σ ν) (scope : HookScope) :
    r.Tells (r.fireAroundSuite scope) fun failures story =>
      story = hooksFailed none none failures ∧ AllOf scope failures := by
  unfold fireAroundSuite
  split
  · exact Tells.pure ⟨rfl, by simp⟩
  · exact r.fireOutside_tells _

/-! ## Steps and worlds -/

/-- A step by itself tells nothing, and its record has no fault. -/
theorem execute_tells (r : Runner W σ ν) (step : Step) :
    r.Tells (r.registry.execute step) fun report story => story = [] ∧ report.faults = [] := by
  have hcalls : r.registry.HoldsOfCalls fun _ m => m.Writes Entry.Untold := {
    compositional := Writes.compositional _
    step := fun _ _ _ => calling_writes Entry.Untold (.step _) rfl (fun _ => rfl) (fun _ => rfl) _
    transform := fun _ _ _ =>
      calling_writes Entry.Untold (.transform _ _) rfl (fun _ => rfl) (fun _ => rfl) _
    tableTransform := fun _ _ _ =>
      calling_writes Entry.Untold (.tableTransform _ _) rfl (fun _ => rfl) (fun _ => rfl) _ }
  intro t
  have hevents : events (r.registry.execute step t).2.2 = [] :=
    List.filterMap_eq_nil_iff.2 (hcalls.execute step t)
  have hkeeps : Keeps (fun _ => True) [] (marks (r.registry.execute step t).2.2) :=
    keeps_of_isOfStep (r.registry.execute_isOfStep step t)
  exact ⟨[], .of_silent hevents hkeeps.perm.eq_nil, rfl, r.registry.execute_faults step t⟩

/-- The world of a scenario, or the failure that the observers are told of if it cannot be made. -/
def makeWorld (r : Runner W σ ν) (feature : String) (scenario : Scenario) :
    Journaled σ (Entry ν) (Except HookFailure W) := do
  match ← calling .world r.newWorld with
  | .ok world => return .ok world
  | .error f =>
    let failure := HookFailure.ofFailure .beforeScenario
      (f.wrap "failed to create the scenario world")
    r.tellHookFailures (some feature) (some scenario.name) [failure]
    return .error failure

/-- A scenario is run on the world that is made for it. -/
theorem executeScenario_eq (r : Runner W σ ν) (feature : String) (scenario : Scenario) :
    r.executeScenario feature scenario = (do
      match ← r.makeWorld feature scenario with
      | .ok world =>
        let (report, _) ← (r.runOnWorld feature scenario).within world
        return report
      | .error failure =>
        let steps ← r.recordSteps feature scenario .skipped
        return {
          name := scenario.name, tags := scenario.tags, status := .aborted, steps
          hookFailures := [failure] }) := by
  rw [executeScenario, makeWorld, bind_assoc]
  refine congrArg _ (funext fun made => ?_)
  cases made with
  | ok world => rw [pure_bind]
  | error f => simp only [bind_assoc, pure_bind]

/-- That no world can be made is told as a failure before the scenario. -/
theorem makeWorld_tells (r : Runner W σ ν) (feature : String) (scenario : Scenario) :
    r.Tells (r.makeWorld feature scenario) fun made story =>
      match made with
      | .ok _ => story = []
      | .error failure =>
        story = hooksFailed (some feature) (some scenario.name) [failure] ∧
          failure.scope = .beforeScenario := by
  have hcall : (calling .world r.newWorld).Ensures fun made entries =>
      events entries = [] ∧ marks entries = Mark.ofCall .world (failure? made) :=
    fun s => ⟨calling_events .world r.newWorld s, calling_marks .world r.newWorld s⟩
  refine hcall.bind fun made before ⟨hevents, hmarks⟩ => ?_
  cases made with
  | ok world =>
    refine Ensures.pure ⟨[], .of_silent ?_ ?_, rfl⟩
    · rw [List.append_nil, hevents]
    · rw [List.append_nil, hmarks]
      rfl
  | error f =>
    refine (r.tellHookFailures_announces _ _ _).bind fun _ after hafter => Ensures.pure ?_
    rw [List.append_nil, hafter]
    refine ⟨_, r.narrates_hooksFailed _ _ hevents ?_, rfl, rfl⟩
    rw [hmarks]
    rfl

end Runner

end Rehearsal
