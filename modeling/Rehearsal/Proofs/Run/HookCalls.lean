import Rehearsal.Proofs.Run.Trace
import Rehearsal.Run.Feature

/-!
# Calls of hooks

How the calls at one boundary follow each other: the hooks of the boundary are called in the
order in which they were registered, those before it up to the first that fails, those after it
all. Each is run on the state that the one before it leaves. `InSequence` is the rule that this
has in common with other calls that follow each other, `Consecutive` the rule for parts of a run
that do not stop each other.
-/

namespace Rehearsal

open Journaled

variable {W σ ν α β S ε : Type}

/-! ## Parts that follow each other -/

/-- Parts that follow each other from one state to another, with what they write. Each starts from
the state that the one before it leaves. If `stops` holds, nothing follows a part that fails. The
truth value tells whether no part fails. -/
inductive InSequence (stops : Bool) (Part : α → S → List ε → Bool → S → Prop) :
    List α → S → List ε → Bool → S → Prop
  | done {s} : InSequence stops Part [] s [] true s
  | passed {a rest s s₁ s' before after ok} : Part a s before true s₁ →
      InSequence stops Part rest s₁ after ok s' →
      InSequence stops Part (a :: rest) s (before ++ after) ok s'
  | stopped {a rest s s' before} : stops = true → Part a s before false s' →
      InSequence stops Part (a :: rest) s before false s'
  | failed {a rest s s₁ s' before after ok} : stops = false → Part a s before false s₁ →
      InSequence stops Part rest s₁ after ok s' →
      InSequence stops Part (a :: rest) s (before ++ after) false s'

/-- There is one way only in which something can end: with what is written, a value and a state. -/
def Determined (R : List ε → β → S → Prop) : Prop :=
  ∀ ⦃ms b s ms' b' s'⦄, R ms b s → R ms' b' s' → ms' = ms ∧ b' = b ∧ s' = s

/-- If this holds of each part, then of the sequence. -/
theorem InSequence.determined {stops : Bool} {Part : α → S → List ε → Bool → S → Prop}
    (hpart : ∀ a s, Determined (Part a s)) (items : List α) (s : S) :
    Determined (InSequence stops Part items s) := by
  intro ms ok s₁ ms' ok' s₂ h h'
  induction h generalizing ms' ok' s₂ with
  | done =>
    cases h'
    exact ⟨rfl, rfl, rfl⟩
  | passed hfirst _ ih =>
    cases h' with
    | passed hfirst' hrest' =>
      obtain ⟨rfl, -, rfl⟩ := hpart _ _ hfirst hfirst'
      obtain ⟨rfl, rfl, rfl⟩ := ih hrest'
      exact ⟨rfl, rfl, rfl⟩
    | stopped _ hfirst' => exact nomatch (hpart _ _ hfirst hfirst').2.1
    | failed _ hfirst' _ => exact nomatch (hpart _ _ hfirst hfirst').2.1
  | stopped hstops hfirst =>
    cases h' with
    | passed hfirst' _ => exact nomatch (hpart _ _ hfirst hfirst').2.1
    | stopped _ hfirst' => exact hpart _ _ hfirst hfirst'
    | failed hgoes _ _ => exact nomatch hstops.symm.trans hgoes
  | failed hgoes hfirst _ ih =>
    cases h' with
    | passed hfirst' _ => exact nomatch (hpart _ _ hfirst hfirst').2.1
    | stopped hstops _ => exact nomatch hstops.symm.trans hgoes
    | failed _ hfirst' hrest' =>
      obtain ⟨rfl, -, rfl⟩ := hpart _ _ hfirst hfirst'
      obtain ⟨rfl, -, rfl⟩ := ih hrest'
      exact ⟨rfl, rfl, rfl⟩

/-- Parts that follow each other from one state to another, whatever becomes of them. -/
inductive Consecutive (Part : α → S → List ε → S → Prop) : List α → S → List ε → S → Prop
  | nil {s} : Consecutive Part [] s [] s
  | cons {a rest s s₁ s' before after} : Part a s before s₁ → Consecutive Part rest s₁ after s' →
      Consecutive Part (a :: rest) s (before ++ after) s'

theorem Consecutive.unique {Part : α → S → List ε → S → Prop} {items : List α} {s s₁ s₂ : S}
    {ms ms' : List ε} (h : Consecutive Part items s ms s₁) (h' : Consecutive Part items s ms' s₂)
    (hpart : ∀ ⦃a s ms s₁ ms' s₂⦄, Part a s ms s₁ → Part a s ms' s₂ → ms' = ms ∧ s₂ = s₁) :
    ms' = ms ∧ s₂ = s₁ := by
  induction h generalizing ms' with
  | nil =>
    cases h'
    exact ⟨rfl, rfl⟩
  | cons hfirst _ ih =>
    cases h' with
    | cons hfirst' hrest' =>
      obtain ⟨rfl, rfl⟩ := hpart hfirst hfirst'
      obtain ⟨rfl, rfl⟩ := ih hrest'
      exact ⟨rfl, rfl⟩

/-- Parts that write nothing and leave the state alone may be left out. -/
theorem Consecutive.filter {Part Part' : α → S → List ε → S → Prop} {items : List α} {s s' : S}
    {ms : List ε} (p : α → Bool) (h : Consecutive Part items s ms s')
    (hkept : ∀ a s m s', p a = true → Part a s m s' → Part' a s m s')
    (hleft : ∀ a s m s', p a = false → Part a s m s' → m = [] ∧ s' = s) :
    Consecutive Part' (items.filter p) s ms s' := by
  induction h with
  | nil => exact .nil
  | @cons a rest s s₁ s' before after ha _ ih =>
    cases hp : p a with
    | true =>
      rw [List.filter_cons_of_pos hp]
      exact .cons (hkept a s before s₁ hp ha) ih
    | false =>
      obtain ⟨rfl, rfl⟩ := hleft a s before s₁ hp ha
      rw [List.filter_cons_of_neg (by simp [hp]), List.nil_append]
      exact ih

/-- Computations for items in order leave the marks of the items in order. -/
theorem forEach_consecutive {f : α → Journaled σ (Entry ν) β}
    (Part : α → σ → List Mark → σ → Prop) (items : List α)
    (h : ∀ a s, (f a).From s fun _ entries s' => Part a s (marks entries) s') (s : σ) :
    (forEach f items).From s fun _ entries s' => Consecutive Part items s (marks entries) s' := by
  induction items generalizing s with
  | nil => exact .pure .nil
  | cons a rest ih =>
    refine (h a s).bind fun b before s₁ hbefore => (ih s₁).bind fun bs after s' hafter => .pure ?_
    rw [List.append_nil, marks_append]
    exact .cons hbefore hafter

/-! ## The hooks of a boundary -/

/-- The call of a hook, which has a place in the registry. -/
inductive HookCalls (context : HookContext) (hook : HookDefinition W σ ν × Nat) (s : Option W × σ) :
    List Mark → Bool → Option W × σ → Prop
  | intro {result : Except Failure Unit} {entries s'}
    (h : Called (.hook hook.2 context) (hook.1.code context) s result entries s') :
    HookCalls context hook s (marks entries) result.isOk s'

namespace Registry

/-- The calls of the hooks of a boundary: all in order, up to a failure if they run before it. -/
def FiringCalls (r : Registry W σ ν) (context : HookContext) :
    Option W × σ → List Mark → Bool → Option W × σ → Prop :=
  InSequence context.scope.isBefore (HookCalls context) (r.firingHooks context)

/-- These calls where there is no world. -/
def BoundaryCalls (r : Registry W σ ν) (context : HookContext) (s : σ) (ms : List Mark) (ok : Bool)
    (s' : σ) : Prop :=
  ∃ w, r.FiringCalls context (none, s) ms ok (w, s')

/-- These calls on a world, which no hook takes away. -/
def WorldBoundaryCalls (r : Registry W σ ν) (context : HookContext) (t : W × σ) (ms : List Mark)
    (ok : Bool) (t' : W × σ) : Prop :=
  ∃ w, r.FiringCalls context (some t.1, t.2) ms ok (w, t'.2) ∧ t'.1 = w.getD t.1

theorem firingCalls_determined (r : Registry W σ ν) (context : HookContext) (s : Option W × σ) :
    Determined (r.FiringCalls context s) := by
  refine InSequence.determined (fun hook s ms ok s₁ ms' ok' s₂ h h' => ?_) _ s
  obtain ⟨h⟩ := h
  obtain ⟨h'⟩ := h'
  obtain ⟨rfl, rfl, rfl⟩ := h.unique h'
  exact ⟨rfl, rfl, rfl⟩

theorem boundaryCalls_determined (r : Registry W σ ν) (context : HookContext) (s : σ) :
    Determined (r.BoundaryCalls context s) := by
  rintro ms ok s₁ ms' ok' s₂ ⟨w, h⟩ ⟨w', h'⟩
  obtain ⟨rfl, rfl, hstate⟩ := r.firingCalls_determined context _ h h'
  exact ⟨rfl, rfl, congrArg Prod.snd hstate⟩

theorem worldBoundaryCalls_determined (r : Registry W σ ν) (context : HookContext) (t : W × σ) :
    Determined (r.WorldBoundaryCalls context t) := by
  rintro ms ok t₁ ms' ok' t₂ ⟨w, h, hworld⟩ ⟨w', h', hworld'⟩
  obtain ⟨rfl, rfl, hstate⟩ := r.firingCalls_determined context _ h h'
  obtain ⟨rfl, hsurroundings⟩ := Prod.mk.inj hstate
  exact ⟨rfl, rfl, Prod.ext (hworld'.trans hworld.symm) hsurroundings⟩

/-- Hooks are called in order; those before a boundary end with the first failure. -/
theorem fireEach_calls (context : HookContext) (hooks : List (HookDefinition W σ ν × Nat))
    (s : Option W × σ) :
    (fireEach context hooks).From s fun failures entries s' =>
      InSequence context.scope.isBefore (HookCalls context) hooks s (marks entries)
        failures.isEmpty s' := by
  induction hooks generalizing s with
  | nil => exact .pure .done
  | cons hook rest ih =>
    obtain ⟨h, index⟩ := hook
    refine (calling_called _ _ s).bind fun result before s₁ hcalled => ?_
    have hcall : HookCalls context (h, index) s (marks before) result.isOk s₁ := .intro hcalled
    cases result with
    | ok value =>
      refine (ih s₁).mono fun failures after s' hafter => ?_
      rw [marks_append]
      exact .passed hcall hafter
    | error f =>
      -- Only before a boundary is a failure the end.
      cases hscope : context.scope.isBefore with
      | true =>
        simp only [↓reduceIte]
        refine .pure ?_
        rw [List.append_nil]
        exact .stopped rfl hcall
      | false =>
        rw [hscope] at ih
        simp only [Bool.false_eq_true, ↓reduceIte]
        refine (ih s₁).bind fun failures after s' hafter => .pure ?_
        rw [List.append_nil, marks_append]
        exact .failed rfl hcall hafter

/-- The calls at a boundary without a world. -/
theorem fire_calls (r : Registry W σ ν) (context : HookContext) (s : σ) :
    (r.fire context).From s fun failures entries s' =>
      r.BoundaryCalls context s (marks entries) failures.isEmpty s' :=
  From.through ((fireEach_calls context _ _).mono fun _ _ after h => ⟨after.1, h⟩)

/-- The calls at a boundary with a world. -/
theorem fireOnWorld_calls (r : Registry W σ ν) (context : HookContext) (t : W × σ) :
    (r.fireOnWorld context).From t fun failures entries t' =>
      r.WorldBoundaryCalls context t (marks entries) failures.isEmpty t' :=
  From.through ((fireEach_calls context _ _).mono fun _ _ after h => ⟨after.1, h, rfl⟩)

end Registry

namespace Runner

variable {P : List HookFailure → List Mark → Prop}

/-- Telling the observers of failures adds nothing to the marks of a boundary without a world. -/
theorem fireOutside_marks (r : Runner W σ ν) {context : HookContext}
    (h : (r.registry.fire context).Ensures fun failures entries => P failures (marks entries)) :
    (r.fireOutside context).Ensures fun failures entries => P failures (marks entries) := by
  refine h.bind fun failures before hbefore => ?_
  refine (r.tellHookFailures_marks context.feature none failures).bind fun _ after hafter =>
    Ensures.pure ?_
  rw [List.append_nil, marks_append, hafter, List.append_nil]
  exact hbefore

/-- Nor to those of a boundary with a world. -/
theorem fireAround_marks (r : Runner W σ ν) (feature : String) (scenario : Scenario)
    {context : HookContext}
    (h : (r.registry.fireOnWorld context).Ensures fun failures entries =>
      P failures (marks entries)) :
    (r.fireAround feature scenario context).Ensures fun failures entries =>
      P failures (marks entries) := by
  refine h.bind fun failures before hbefore => ?_
  refine (r.tellHookFailures_marks (some feature) (some scenario.name) failures).beside.bind
    fun _ after hafter => Ensures.pure ?_
  rw [List.append_nil, marks_append, hafter, List.append_nil]
  exact hbefore

/-- Beside a world that is left alone, nothing happens but that the observers are
told of some events. -/
def ToldBeside (r : Runner W σ ν) (t t' : W × σ) : Prop := t'.1 = t.1 ∧ r.Told t.2 t'.2

theorem ToldBeside.unique {r : Runner W σ ν} (hquiet : r.Quiet) {t t₁ t₂ : W × σ}
    (h : r.ToldBeside t t₁) (h' : r.ToldBeside t t₂) : t₂ = t₁ :=
  Prod.ext (h'.1.trans h.1.symm) (h.2.unique hquiet h'.2)

/-- The calls of the hooks of a boundary without a world. The observers are told of the failures,
and of nothing else. -/
def OutsideCalls (r : Runner W σ ν) (context : HookContext) (s : σ) (ms : List Mark) (ok : Bool)
    (s' : σ) : Prop :=
  ∃ s₁, r.registry.BoundaryCalls context s ms ok s₁ ∧ if ok then s' = s₁ else r.Told s₁ s'

/-- The same for a boundary with a world. -/
def AroundCalls (r : Runner W σ ν) (context : HookContext) (t : W × σ) (ms : List Mark) (ok : Bool)
    (t' : W × σ) : Prop :=
  ∃ t₁, r.registry.WorldBoundaryCalls context t ms ok t₁ ∧
    if ok then t' = t₁ else r.ToldBeside t₁ t'

theorem outsideCalls_determined (r : Runner W σ ν) (hquiet : r.Quiet) (context : HookContext)
    (s : σ) :
    Determined (r.OutsideCalls context s) := by
  rintro ms ok s₁ ms' ok' s₂ ⟨u, h, hu⟩ ⟨u', h', hu'⟩
  obtain ⟨rfl, rfl, rfl⟩ := r.registry.boundaryCalls_determined context s h h'
  refine ⟨rfl, rfl, ?_⟩
  cases ok' with
  | true => exact hu'.trans hu.symm
  | false => exact Told.unique hquiet hu hu'

theorem aroundCalls_determined (r : Runner W σ ν) (hquiet : r.Quiet) (context : HookContext)
    (t : W × σ) :
    Determined (r.AroundCalls context t) := by
  rintro ms ok t₁ ms' ok' t₂ ⟨u, h, hu⟩ ⟨u', h', hu'⟩
  obtain ⟨rfl, rfl, rfl⟩ := r.registry.worldBoundaryCalls_determined context t h h'
  refine ⟨rfl, rfl, ?_⟩
  cases ok' with
  | true => exact hu'.trans hu.symm
  | false => exact ToldBeside.unique hquiet hu hu'

/-- The calls at a boundary without a world, whose failures observers are told of. -/
theorem fireOutside_calls (r : Runner W σ ν) (context : HookContext) (s : σ) :
    (r.fireOutside context).From s fun failures entries s' =>
      r.OutsideCalls context s (marks entries) failures.isEmpty s' := by
  refine (r.registry.fire_calls context s).bind fun failures before s₁ hbefore => ?_
  refine (r.tellHookFailures_told context.feature none failures s₁).bind
    fun _ after s' ⟨hafter, htold⟩ => .pure ⟨s₁, ?_, htold⟩
  rw [List.append_nil, marks_append, hafter, List.append_nil]
  exact hbefore

/-- The same for a boundary with a world. -/
theorem fireAround_calls (r : Runner W σ ν) (feature : String) (scenario : Scenario)
    (context : HookContext) (t : W × σ) :
    (r.fireAround feature scenario context).From t fun failures entries t' =>
      r.AroundCalls context t (marks entries) failures.isEmpty t' := by
  refine (r.registry.fireOnWorld_calls context t).bind fun failures before t₁ hbefore => ?_
  refine From.bind (P := fun _ after t' => marks after = [] ∧
    if failures.isEmpty then t' = t₁ else r.ToldBeside t₁ t') ?_
    fun _ after t' ⟨hafter, htold⟩ => .pure ⟨t₁, ?_, htold⟩
  · refine From.beside ((r.tellHookFailures_told _ _ failures t₁.2).mono
      fun _ after s' ⟨hafter, htold⟩ => ⟨hafter, ?_⟩)
    cases failures with
    | nil => exact Prod.ext rfl htold
    | cons failure rest => exact ⟨rfl, htold⟩
  · rw [List.append_nil, marks_append, hafter, List.append_nil]
    exact hbefore

end Runner

end Rehearsal
