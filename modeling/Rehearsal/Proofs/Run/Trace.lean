import Mathlib.Logic.Relation
import Rehearsal.Proofs.Journaled.From
import Rehearsal.Run.Runner

/-!
# Traces of runs

Two views of the journal of a run: `marks` keeps which code was called and which calls failed,
`events` what the observers were told. Telling observers leaves no marks, and a call leaves its mark
and, if it fails, the mark of its failure right after it.
-/

namespace Rehearsal

open Journaled

/-- What the journal keeps of a call. -/
inductive Mark
  /-- Code was called. -/
  | called (call : Call)
  /-- The code that was called failed. -/
  | failed (call : Call) (f : Failure)
  deriving DecidableEq

/-- The marks of a call that ends with the given failure, if with one. -/
def Mark.ofCall (call : Call) : Option Failure → List Mark
  | none => [.called call]
  | some f => [.called call, .failed call f]

variable {W σ ν α : Type}

namespace Entry

/-- The mark that the entry is. -/
def mark? : Entry ν → Option Mark
  | .called call => some (.called call)
  | .failed call f => some (.failed call f)
  | _ => none

/-- The event that the entry tells of, with the place of the observer. -/
def event? : Entry ν → Option (Nat × RunEvent)
  | .observed observer event => some (observer, event)
  | _ => none

end Entry

/-- The calls of code in a journal and their failures, in order. -/
def marks (entries : List (Entry ν)) : List Mark := entries.filterMap Entry.mark?

/-- What the observers were told, in order. -/
def events (entries : List (Entry ν)) : List (Nat × RunEvent) := entries.filterMap Entry.event?

@[simp] theorem marks_nil : marks ([] : List (Entry ν)) = [] := rfl

@[simp] theorem marks_append (before after : List (Entry ν)) :
    marks (before ++ after) = marks before ++ marks after := List.filterMap_append

@[simp] theorem marks_called (call : Call) (rest : List (Entry ν)) :
    marks (.called call :: rest) = .called call :: marks rest := rfl

@[simp] theorem marks_failed (call : Call) (f : Failure) (rest : List (Entry ν)) :
    marks (.failed call f :: rest) = .failed call f :: marks rest := rfl

@[simp] theorem marks_observed (observer : Nat) (event : RunEvent) (rest : List (Entry ν)) :
    marks (.observed observer event :: rest) = marks rest := rfl

/-- Notes are no marks. -/
@[simp] theorem marks_map_noted (notes : List ν) : marks (notes.map Entry.noted) = [] := by
  induction notes with
  | nil => rfl
  | cons note rest ih => exact ih

@[simp] theorem events_nil : events ([] : List (Entry ν)) = [] := rfl

@[simp] theorem events_append (before after : List (Entry ν)) :
    events (before ++ after) = events before ++ events after := List.filterMap_append

@[simp] theorem events_called (call : Call) (rest : List (Entry ν)) :
    events (.called call :: rest) = events rest := rfl

@[simp] theorem events_failed (call : Call) (f : Failure) (rest : List (Entry ν)) :
    events (.failed call f :: rest) = events rest := rfl

/-- Notes are no events. -/
@[simp] theorem events_map_noted (notes : List ν) : events (notes.map Entry.noted) = [] := by
  induction notes with
  | nil => rfl
  | cons note rest ih => exact ih

/-! ## Calls -/

/-- How guarded code failed, if it did. -/
def failure? : Except Failure α → Option Failure
  | .ok _ => none
  | .error f => some f

/-- The entries of a call with the notes of the code and the failure that it
ends with, if it does. -/
def Entry.ofCall (call : Call) (notes : List ν) : Except Failure α → List (Entry ν)
  | .ok _ => .called call :: notes.map .noted
  | .error f => .called call :: (notes.map .noted ++ [.failed call f])

@[simp] theorem marks_ofCall (call : Call) (notes : List ν) (result : Except Failure α) :
    marks (Entry.ofCall call notes result) = Mark.ofCall call (failure? result) := by
  cases result with
  | ok value => simp [Entry.ofCall, Mark.ofCall, failure?]
  | error f => simp [Entry.ofCall, Mark.ofCall, failure?]

/-- A call runs the code once, on the state that there is. -/
theorem calling_apply {call : Call} {code : Journaled σ ν (Verdict α)} {t t₁ : σ}
    {verdict : Verdict α} {notes : List ν} (h : code t = (verdict, t₁, notes)) :
    calling call code t = (verdict.guarded, t₁, Entry.ofCall call notes verdict.guarded) := by
  rw [calling, bind_apply, write_apply, bind_apply, mapEntries_apply, h]
  cases verdict.guarded with
  | ok value => simp [Entry.ofCall]
  | error f => simp [Entry.ofCall, bind_apply]

/-- The code is called on the state `s`: how the call ends, its entries, and the state that the code
leaves. A panic ends it as a failure does. -/
inductive Called (call : Call) (code : Journaled σ ν (Verdict α)) (s : σ) :
    Except Failure α → List (Entry ν) → σ → Prop
  | intro {verdict : Verdict α} {s' : σ} {notes : List ν} (hcode : code s = (verdict, s', notes)) :
    Called call code s verdict.guarded (Entry.ofCall call notes verdict.guarded) s'

/-- Code that gives a value ends the call with it. -/
theorem Called.of_done {call : Call} {code : Journaled σ ν (Verdict α)} {s s' : σ} {value : α}
    {notes : List ν} (hcode : code s = (.done value, s', notes)) :
    Called call code s (.ok value) (.called call :: notes.map .noted) s' := .intro hcode

theorem calling_called (call : Call) (code : Journaled σ ν (Verdict α)) (s : σ) :
    (calling call code).From s (Called call code s) := by
  unfold From
  rw [calling_apply rfl]
  exact .intro rfl

/-- Called on the same state, code does the same and ends the same. -/
theorem Called.unique {call : Call} {code : Journaled σ ν (Verdict α)} {s s₁ s₂ : σ}
    {result result' : Except Failure α} {entries entries' : List (Entry ν)}
    (h : Called call code s result entries s₁) (h' : Called call code s result' entries' s₂) :
    result' = result ∧ entries' = entries ∧ s₂ = s₁ := by
  obtain ⟨hcode⟩ := h
  obtain ⟨hcode'⟩ := h'
  cases hcode.symm.trans hcode'
  exact ⟨rfl, rfl, rfl⟩

/-- A call leaves the marks of its ending, whatever the code notes. -/
theorem calling_marks (call : Call) (code : Journaled σ ν (Verdict α)) :
    (calling call code).Ensures fun result entries =>
      marks entries = Mark.ofCall call (failure? result) := by
  intro s
  rw [calling_apply rfl]
  exact marks_ofCall call _ _

/-- Computations in order that give what `g` says and leave no marks. -/
theorem forEach_quiet {β : Type} {f : α → Journaled σ (Entry ν) β} {g : α → β} (items : List α)
    (h : ∀ a, (f a).Ensures fun b entries => b = g a ∧ marks entries = []) :
    (forEach f items).Ensures fun bs entries => bs = items.map g ∧ marks entries = [] := by
  refine Ensures.forEach (R := fun items bs entries => bs = items.map g ∧ marks entries = []) items
    (fun a _ => h a) ⟨rfl, rfl⟩ ?_
  intro a b before rest bs after ⟨hb, hbefore⟩ ⟨hbs, hafter⟩
  rw [marks_append, hbefore, hafter, hb, hbs]
  exact ⟨rfl, rfl⟩

/-! ## Observers -/

namespace Runner

/-- The entries of telling all observers of an event. -/
def announced (r : Runner W σ ν) (event : RunEvent) : List (Entry ν) :=
  (List.range r.observers.length).map fun observer => .observed observer event

/-- Every observer is told, in order and once. -/
theorem tell_announces (r : Runner W σ ν) (event : RunEvent) :
    (r.tell event).Ensures fun _ entries => entries = r.announced event := by
  suffices h : ∀ (observers : List (Observer σ)) (index : Nat),
      (tellEach event index observers : Journaled σ (Entry ν) Unit).Ensures fun _ entries =>
        entries = (List.range' index observers.length).map fun observer =>
          .observed observer event by
    rw [announced, List.range_eq_range']
    exact h r.observers 0
  intro observers
  induction observers with
  | nil => exact fun index => Ensures.pure rfl
  | cons observer rest ih =>
    intro index
    refine Ensures.change_bind (Ensures.write_bind ?_)
    refine (ih (index + 1)).mono fun _ after hafter => ?_
    rw [hafter, List.length_cons, List.range'_succ, List.map_cons]

/-- What the observers make of the surroundings when they are told of an event,
one after the other. -/
def notified (r : Runner W σ ν) (event : RunEvent) (s : σ) : σ :=
  r.observers.foldl (fun s observer => observer.notify event s) s

/-- From one state of the surroundings to the other nothing happens but that the observers are
told of some events. -/
def Told (r : Runner W σ ν) : σ → σ → Prop :=
  Relation.ReflTransGen fun s s' => ∃ event, s' = r.notified event s

/-- The observers leave the surroundings alone. -/
def Quiet (r : Runner W σ ν) : Prop := ∀ event s, r.notified event s = s

/-- Observers that leave the surroundings alone may be told of anything. -/
theorem Told.eq {r : Runner W σ ν} (hquiet : r.Quiet) {s s' : σ} (h : r.Told s s') : s' = s := by
  induction h with
  | refl => rfl
  | tail _ hlast ih =>
    obtain ⟨event, rfl⟩ := hlast
    rw [hquiet, ih]

/-- So telling them leads from one state to one state only. -/
theorem Told.unique {r : Runner W σ ν} (hquiet : r.Quiet) {s s₁ s₂ : σ} (h : r.Told s s₁)
    (h' : r.Told s s₂) : s₂ = s₁ := (h'.eq hquiet).trans (h.eq hquiet).symm

/-- Telling the observers does to the surroundings what they do. -/
theorem tell_told (r : Runner W σ ν) (event : RunEvent) (s : σ) :
    r.Told s (r.tell event s).2.1 := by
  refine .single ⟨event, ?_⟩
  suffices h : ∀ (observers : List (Observer σ)) (index : Nat) (s : σ),
      (tellEach event index observers s : _ × _ × List (Entry ν)).2.1 =
        observers.foldl (fun s observer => observer.notify event s) s from h r.observers 0 s
  intro observers
  induction observers with
  | nil => exact fun _ _ => rfl
  | cons observer rest ih => exact fun index s => ih (index + 1) (observer.notify event s)

/-- The observers are told of the failures of hooks one by one. -/
theorem tellHookFailures_announces (r : Runner W σ ν) (feature scenario : Option String)
    (failures : List HookFailure) :
    (r.tellHookFailures feature scenario failures).Ensures fun _ entries =>
      entries = failures.flatMap fun failure =>
        r.announced (.hookFailed feature scenario failure) := by
  induction failures with
  | nil => exact Ensures.pure rfl
  | cons failure rest ih =>
    refine (r.tell_announces _).bind fun _ before hbefore => ?_
    refine ih.mono fun _ after hafter => ?_
    rw [hbefore, hafter, List.flatMap_cons]

/-- Telling observers calls no code. -/
@[simp] theorem marks_announced (r : Runner W σ ν) (event : RunEvent) :
    marks (r.announced event) = [] := by
  rw [marks, announced, List.filterMap_map, List.filterMap_eq_nil_iff]
  intro observer _
  rfl

@[simp] theorem marks_flatMap_announced (r : Runner W σ ν) (failures : List HookFailure)
    (event : HookFailure → RunEvent) :
    marks (failures.flatMap fun failure => r.announced (event failure)) = [] := by
  induction failures with
  | nil => rfl
  | cons failure rest ih =>
    rw [List.flatMap_cons, marks_append, marks_announced, ih, List.append_nil]

/-- Telling observers leaves no marks. -/
theorem tell_marks (r : Runner W σ ν) (event : RunEvent) :
    (r.tell event).Ensures fun _ entries => marks entries = [] :=
  (r.tell_announces event).mono fun _ _ h => by rw [h, marks_announced]

/-- Telling observers of failures leaves no marks. -/
theorem tellHookFailures_marks (r : Runner W σ ν) (feature scenario : Option String)
    (failures : List HookFailure) :
    (r.tellHookFailures feature scenario failures).Ensures fun _ entries => marks entries = [] :=
  (r.tellHookFailures_announces feature scenario failures).mono fun _ _ h => by
    rw [h, marks_flatMap_announced]

/-- The computation calls no code, and all that it does to the surroundings is to
tell the observers. -/
def OnlyTells (r : Runner W σ ν) (m : Journaled σ (Entry ν) α) : Prop :=
  ∀ s, m.From s fun _ entries s' => marks entries = [] ∧ r.Told s s'

namespace OnlyTells

variable {r : Runner W σ ν} {β : Type}

protected theorem pure (a : α) : r.OnlyTells (pure a) := fun _ => ⟨rfl, .refl⟩

protected theorem bind {m : Journaled σ (Entry ν) α} {f : α → Journaled σ (Entry ν) β}
    (hm : r.OnlyTells m) (hf : ∀ a, r.OnlyTells (f a)) : r.OnlyTells (m >>= f) := by
  intro s
  refine (hm s).bind fun a before t ⟨hbefore, htold⟩ => (hf a t).mono fun b after s' h => ?_
  rw [marks_append, hbefore, h.1]
  exact ⟨rfl, htold.trans h.2⟩

protected theorem forEach {f : α → Journaled σ (Entry ν) β} (items : List α)
    (h : ∀ a, r.OnlyTells (f a)) : r.OnlyTells (forEach f items) := by
  induction items with
  | nil => exact .pure []
  | cons a rest ih => exact (h a).bind fun b => ih.bind fun bs => .pure (b :: bs)

end OnlyTells

theorem tell_onlyTells (r : Runner W σ ν) (event : RunEvent) : r.OnlyTells (r.tell event) :=
  fun s => ⟨r.tell_marks event s, r.tell_told event s⟩

theorem tellHookFailures_onlyTells (r : Runner W σ ν) (feature scenario : Option String)
    (failures : List HookFailure) : r.OnlyTells (r.tellHookFailures feature scenario failures) := by
  induction failures with
  | nil => exact .pure ()
  | cons failure rest ih => exact (r.tell_onlyTells _).bind fun _ => ih

/-- Without failures there is nothing to tell of. -/
theorem tellHookFailures_told (r : Runner W σ ν) (feature scenario : Option String)
    (failures : List HookFailure) (s : σ) :
    (r.tellHookFailures feature scenario failures).From s fun _ entries s' =>
      marks entries = [] ∧ if failures.isEmpty then s' = s else r.Told s s' := by
  cases failures with
  | nil => exact .pure ⟨rfl, rfl⟩
  | cons failure rest => exact r.tellHookFailures_onlyTells feature scenario (failure :: rest) s

end Runner

end Rehearsal
