import Rehearsal.Proofs.Run.Parts
import Rehearsal.Proofs.Run.Trace

/-!
# The boundary of a run

What is of the whole run and not of one feature: the hooks around it, its start and its end.
Features write no entry of this kind. The start of a run tells the observers of itself and of the
failures of the hooks before the features; its end tells them of the failures of the hooks after the
features and of itself.
-/

namespace Rehearsal

open Journaled

variable {W σ ν α : Type}

/-- Whether the entry is one of the whole run: of a hook around it or of an event of it. -/
def Entry.isOfSuite : Entry ν → Bool
  | .called (.hook _ context) | .failed (.hook _ context) _ => context.scope.isSuite
  | .observed _ event => event.isOfSuite
  | _ => false

/-- The entry is not of the whole run. -/
def Entry.Inside (entry : Entry ν) : Prop := entry.isOfSuite = false

/-! ## Features -/

/-- A call writes itself, notes and perhaps its failure. -/
theorem calling_writes (p : Entry ν → Prop) (call : Call) (hcalled : p (.called call))
    (hfailed : ∀ f, p (.failed call f)) (hnoted : ∀ note, p (.noted note))
    (code : Journaled σ ν (Verdict α)) :
    (calling call code).Writes p := by
  have hwrite : ∀ entry, p entry → (write entry : Journaled σ (Entry ν) Unit).Writes p := by
    intro entry hentry s
    simpa using hentry
  have hnotes : (code.mapEntries Entry.noted).Writes p := by
    refine Ensures.mapEntries fun s entry hentry => ?_
    obtain ⟨note, -, rfl⟩ := List.mem_map.1 hentry
    exact hnoted note
  refine (hwrite _ hcalled).bind fun _ => hnotes.bind fun verdict => ?_
  cases verdict.guarded with
  | ok value => exact Writes.pure
  | error f => exact (hwrite _ (hfailed f)).bind fun _ => Writes.pure

/-- The hooks of a boundary write their calls, notes and perhaps their failures. -/
theorem Registry.fireEach_writes {p : Entry ν → Prop} {context : HookContext}
    (hcalled : ∀ index, p (.called (.hook index context)))
    (hfailed : ∀ index f, p (.failed (.hook index context) f)) (hnoted : ∀ note, p (.noted note))
    (hooks : List (HookDefinition W σ ν × Nat)) : (fireEach context hooks).Writes p := by
  induction hooks with
  | nil => exact Writes.pure
  | cons hook rest ih =>
    refine (calling_writes p _ (hcalled hook.2) (hfailed hook.2) hnoted _).bind fun result => ?_
    cases result with
    | ok _ => exact ih
    | error f =>
      dsimp only
      split
      · exact Writes.pure
      · exact ih.bind fun _ => Writes.pure

/-- Telling observers writes nothing but the event. -/
theorem Runner.tell_writes {p : Entry ν → Prop} (r : Runner W σ ν) {event : RunEvent}
    (h : ∀ observer, p (.observed observer event)) : (r.tell event).Writes p :=
  (r.tell_announces event).mono fun _ entries hentries entry hentry => by
    rw [hentries] at hentry
    obtain ⟨observer, -, rfl⟩ := List.mem_map.1 hentry
    exact h observer

/-- What all entries meet is compositional. -/
theorem Journaled.Writes.compositional {ε : Type} (p : ε → Prop) :
    Compositional fun α (m : Journaled σ ε α) => m.Writes p :=
  ⟨fun _ => Writes.pure, fun hm hf => hm.bind hf⟩

namespace Runner

/-- Nothing that the parts of a feature write is of the whole run. -/
theorem inside_holdsOfParts (r : Runner W σ ν) :
    r.HoldsOfParts (fun _ m => m.Writes Entry.Inside) fun _ m => m.Writes Entry.Inside where
  compositional := Writes.compositional _
  calls := {
    compositional := Writes.compositional _
    step := fun _ _ _ => calling_writes Entry.Inside (.step _) rfl (fun _ => rfl) (fun _ => rfl) _
    transform := fun _ _ _ =>
      calling_writes Entry.Inside (.transform _ _) rfl (fun _ => rfl) (fun _ => rfl) _
    tableTransform := fun _ _ _ =>
      calling_writes Entry.Inside (.tableTransform _ _) rfl (fun _ => rfl) (fun _ => rfl) _ }
  beside := fun h => Ensures.beside h
  within := fun _ h => Ensures.within fun s _ => h s
  tell := fun _ hevent => r.tell_writes fun _ => hevent
  world := calling_writes Entry.Inside .world rfl (fun _ => rfl) (fun _ => rfl) _
  fire := fun _ h => Ensures.through
    (Registry.fireEach_writes (fun _ => h) (fun _ _ => h) (fun _ => rfl) _)
  fireOnWorld := fun _ h =>
    Ensures.through (Registry.fireEach_writes (fun _ => h) (fun _ _ => h) (fun _ => rfl) _)

/-- No feature writes an entry of the whole run. -/
theorem featureReport_inside (r : Runner W σ ν) (feature : Feature) (suiteBlocked : Bool) :
    (r.featureReport feature suiteBlocked).Writes Entry.Inside :=
  r.inside_holdsOfParts.featureReport feature suiteBlocked

end Runner

/-! ## Start and end -/

/-- Calls tell observers of nothing. -/
theorem calling_events (call : Call) (code : Journaled σ ν (Verdict α)) :
    (calling call code).Ensures fun _ entries => events entries = [] := by
  have hnotes : (code.mapEntries Entry.noted).Ensures fun _ entries => events entries = [] :=
    Ensures.mapEntries fun _ => events_map_noted _
  refine Ensures.write_bind (hnotes.bind fun verdict notes hn => ?_)
  cases verdict.guarded with
  | ok value => exact Ensures.pure (by simp [hn])
  | error f => exact Ensures.write_bind (Ensures.pure (by simp [hn]))

/-- Hooks tell observers of nothing, and their failures are of their scope. -/
theorem Registry.fireEach_events (context : HookContext)
    (hooks : List (HookDefinition W σ ν × Nat)) :
    (fireEach context hooks).Ensures fun failures entries =>
      events entries = [] ∧ ∀ failure ∈ failures, failure.scope = context.scope := by
  induction hooks with
  | nil => exact Ensures.pure ⟨rfl, by simp⟩
  | cons hook rest ih =>
    refine (calling_events _ _).bind fun result before hbefore => ?_
    cases result with
    | ok value =>
      refine ih.mono fun failures after hafter => ⟨?_, hafter.2⟩
      rw [events_append, hbefore, hafter.1, List.append_nil]
    | error f =>
      dsimp only
      split
      · refine Ensures.pure ⟨by rwa [List.append_nil], ?_⟩
        exact List.forall_mem_singleton.2 rfl
      · refine ih.bind fun failures after hafter => Ensures.pure ⟨?_, ?_⟩
        · rw [List.append_nil, events_append, hbefore, hafter.1, List.append_nil]
        · exact List.forall_mem_cons.2 ⟨rfl, hafter.2⟩

namespace Runner

/-- The events of telling all observers of failures of hooks around the run. -/
def announcedFailures (r : Runner W σ ν) (failures : List HookFailure) : List (Entry ν) :=
  failures.flatMap fun failure => r.announced (.hookFailed none none failure)

/-- At a boundary of the run the observers are told of the failures of its hooks. -/
theorem fireOutside_events (r : Runner W σ ν) (scope : HookScope) :
    (r.fireOutside { scope }).Ensures fun failures entries =>
      events entries = events (r.announcedFailures failures) ∧
      ∀ failure ∈ failures, failure.scope = scope := by
  refine (Ensures.through (Registry.fireEach_events _ _)).bind fun failures before hbefore => ?_
  refine (r.tellHookFailures_announces none none failures).bind fun _ after hafter => ?_
  refine Ensures.pure ⟨?_, hbefore.2⟩
  rw [List.append_nil, events_append, hbefore.1, List.nil_append, hafter]
  rfl

/-- A run that starts tells of itself and then of the failures of the hooks before the features. -/
theorem startSuite_events (r : Runner W σ ν) (features : Nat) :
    (r.startSuite features).Ensures fun failures entries =>
      events entries = events (r.announced (.suiteStarted features) ++
        r.announcedFailures failures) ∧
      ∀ failure ∈ failures, failure.scope = .beforeSuite := by
  refine (r.tell_announces _).bind fun _ before hbefore => ?_
  subst hbefore
  split
  · exact Ensures.pure ⟨rfl, by simp⟩
  · refine (r.fireOutside_events .beforeSuite).mono fun failures after hafter => ⟨?_, hafter.2⟩
    rw [events_append, hafter.1, events_append]

/-- A run that ends tells of the failures of the hooks after the features and then of itself. -/
theorem finishSuite_events (r : Runner W σ ν) (features : List FeatureReport)
    (before : List HookFailure) :
    (r.finishSuite features before).Ensures fun report entries => ∃ after,
      report = .ofFeatures features (before ++ after) r.strict ∧
      events entries = events (r.announcedFailures after ++
        r.announced (.suiteFinished report.counts)) ∧
      ∀ failure ∈ after, failure.scope = .afterSuite := by
  have hend : ∀ after, (do
      let report := SuiteReport.ofFeatures features (before ++ after) r.strict
      r.tell (.suiteFinished report.counts)
      return report : Journaled σ (Entry ν) SuiteReport).Ensures fun report entries =>
        report = .ofFeatures features (before ++ after) r.strict ∧
        events entries = events (r.announced (.suiteFinished report.counts)) := by
    intro after
    refine (r.tell_announces _).bind fun _ entries hentries => Ensures.pure ⟨rfl, ?_⟩
    rw [List.append_nil, hentries]
  unfold finishSuite
  split
  · exact (Ensures.pure rfl : (pure [] : Journaled σ (Entry ν) (List HookFailure)).Ensures
      fun after entries =>
      (after, entries) = ([], [])).bind fun after entries h => by
        obtain ⟨rfl, rfl⟩ := h
        exact (hend []).mono fun report last hlast => ⟨[], hlast.1, hlast.2, by simp⟩
  · refine (r.fireOutside_events .afterSuite).bind fun after entries hafter => ?_
    refine (hend after).mono fun report last hlast => ⟨after, hlast.1, ?_, hafter.2⟩
    rw [events_append, hafter.1, hlast.2, events_append]

/-! ## What ends a run -/

end Runner

/-- Whether the entry is of the end of a run: of a hook after the features or of the
event that tells of it. -/
def Entry.isOfEnd : Entry ν → Bool
  | .called (.hook _ context) | .failed (.hook _ context) _ => context.scope == .afterSuite
  | .observed _ (.suiteFinished _) => true
  | _ => false

/-- What is of the end of a run is of the whole run. -/
theorem Entry.Inside.isOfEnd {entry : Entry ν} (h : entry.Inside) : entry.isOfEnd = false := by
  have hscope : ∀ scope : HookScope, scope.isSuite = false → (scope == .afterSuite) = false := by
    intro scope hscope
    cases scope <;> first | rfl | cases hscope
  cases entry with
  | called call => cases call with
    | hook index context => exact hscope _ h
    | _ => rfl
  | failed call f => cases call with
    | hook index context => exact hscope _ h
    | _ => rfl
  | noted note => rfl
  | observed observer event => cases event with
    | suiteFinished counts => cases h
    | _ => rfl

namespace Runner

/-- The start of a run writes nothing that is of its end. -/
theorem startSuite_writes (r : Runner W σ ν) (features : Nat) :
    (r.startSuite features).Writes fun entry => entry.isOfEnd = false := by
  have hfailures : ∀ failures, (r.tellHookFailures none none failures).Writes
      fun entry => entry.isOfEnd = false := by
    intro failures
    induction failures with
    | nil => exact Writes.pure
    | cons failure rest ih => exact (r.tell_writes fun _ => rfl).bind fun _ => ih
  refine (r.tell_writes fun _ => rfl).bind fun _ => ?_
  split
  · exact Writes.pure
  · refine Writes.bind (Ensures.through ?_) fun failures =>
      (hfailures failures).bind fun _ => Writes.pure
    exact Registry.fireEach_writes (fun _ => rfl) (fun _ _ => rfl) (fun _ => rfl) _

end Runner

end Rehearsal
