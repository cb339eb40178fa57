import Rehearsal.Proofs.Run.Arguments
import Rehearsal.Proofs.Run.HookCalls

/-!
# Calls of a step

What a step calls when it is run: the transforms that are for its captures and its table, in
order and up to a failure; then, if all arguments could be made, the code of its definition,
with these arguments; then, if this code asks for steps, what these call, up to the first that
does not succeed. Each piece of code is run on the world that what was called before it leaves,
so it is the code that decides how it goes on. No hook is among the calls, and no observer is
told of anything in between.
-/

namespace Rehearsal.Registry

open Journaled

variable {W σ ν : Type}

/-! ## The rules -/

/-- The code of a definition is called with the arguments that the values of a step are transformed
to, and comes to the verdict. -/
inductive CodeCalls (r : Registry W σ ν) (d : StepDefinition W σ ν) (captures : List String)
    (below : Option StepArgument) (t : W × σ) (verdict : Verdict StepReturn) :
    List (Entry ν) → W × σ → Prop
  | intro {arguments t₁ before notes t'} :
      r.TransformsAll (Subject.all captures below) t arguments t₁ before →
      d.code ⟨arguments⟩ t₁ = (verdict, t', notes) →
      CodeCalls r d captures below t verdict
        (before ++ Entry.ofCall (.step d.pattern.source) notes verdict.guarded) t'

/-- The part that a step has in a sequence of steps, each of which must succeed. -/
def Succeeding (Part : Step → W × σ → List (Entry ν) → Outcome → W × σ → Prop) (step : Step)
    (t : W × σ) (entries : List (Entry ν)) (ok : Bool) (t' : W × σ) : Prop :=
  ∃ outcome, Part step t entries outcome t' ∧ ok = (outcome == .successful)

/-- The calls of a step with a definition, from one world to another, and the outcome that they lead
to; `Part` says this of the steps that the code of the definition asks for. -/
inductive InvocationCalls (r : Registry W σ ν)
    (Part : Step → W × σ → List (Entry ν) → Outcome → W × σ → Prop) (d : StepDefinition W σ ν)
    (captures : List String) (below : Option StepArgument) (t : W × σ) :
    List (Entry ν) → Outcome → W × σ → Prop
  /-- A value cannot be transformed: the code is not called. -/
  | untransformed {e entries t'} :
      r.TransformsTo (Subject.all captures below) t (.error e) t' entries →
      InvocationCalls r Part d captures below t entries .failed t'
  /-- The code fails or panics. -/
  | failed {verdict f entries t'} : r.CodeCalls d captures below t verdict entries t' →
      verdict.guarded = .error f →
      InvocationCalls r Part d captures below t entries
        (if f.pending.isSome then .pending else .failed) t'
  /-- The code gives nothing to go on with. -/
  | completed {entries t'} : r.CodeCalls d captures below t (.done .completed) entries t' →
      InvocationCalls r Part d captures below t entries .successful t'
  /-- The code asks for steps: it is these that follow, on the world that the code leaves. -/
  | chained {steps before t₁ after ok t'} :
      r.CodeCalls d captures below t (.done (.chained steps)) before t₁ →
      InSequence true (Succeeding Part) steps t₁ after ok t' →
      InvocationCalls r Part d captures below t (before ++ after)
        (if ok then .successful else .failed) t'

/-- The calls of a step, from one world to another, and the outcome that they lead to. Steps
that ask for steps are followed down to `depth`. Without exactly one definition for it a
step calls nothing. -/
def StepCalls (r : Registry W σ ν) :
    (depth : Nat) → Step → W × σ → List (Entry ν) → Outcome → W × σ → Prop
  | 0, _, t, entries, outcome, t' => entries = [] ∧ outcome = .failed ∧ t' = t
  | depth + 1, step, t, entries, outcome, t' =>
    match r.resolve step.text with
    | .noMatch => entries = [] ∧ outcome = .undefined ∧ t' = t
    | .ambiguous _ => entries = [] ∧ outcome = .ambiguous ∧ t' = t
    | .unique d captures =>
      r.InvocationCalls (r.StepCalls depth) d captures step.argument t entries outcome t'

/-! ## The call of the code -/

variable {r : Registry W σ ν} {d : StepDefinition W σ ν} {captures : List String}
  {below : Option StepArgument} {t t₁ t₂ : W × σ} {before : List (Entry ν)}

/-- Arguments that cannot be transformed are all that there is of the call of a step. -/
theorem callStep_of_error {e : TransformError}
    (harguments : r.transformArguments captures below t = (.error e, t₁, before)) :
    r.callStep d captures below t = (.error (.transform e), t₁, before) := by
  rw [callStep, bind_apply, harguments]
  dsimp only
  rw [pure_apply, List.append_nil]

/-- With its arguments the code of a step is called. -/
theorem callStep_of_ok {arguments : Arguments} {verdict : Verdict StepReturn} {notes : List ν}
    (harguments : r.transformArguments captures below t = (.ok arguments, t₁, before))
    (hcode : d.code arguments t₁ = (verdict, t₂, notes)) :
    r.callStep d captures below t = (verdict.guarded.mapError .failure, t₂,
      before ++ Entry.ofCall (.step d.pattern.source) notes verdict.guarded) := by
  rw [callStep, bind_apply, harguments]
  dsimp only
  rw [bind_apply, calling_apply hcode, pure_apply, List.append_nil]

/-- How the call of the code of a step ends, or why there is none. -/
inductive CallCalls (r : Registry W σ ν) (d : StepDefinition W σ ν) (captures : List String)
    (below : Option StepArgument) (t : W × σ) :
    Except CallError StepReturn → List (Entry ν) → W × σ → Prop
  | untransformed {e entries t'} :
      r.TransformsTo (Subject.all captures below) t (.error e) t' entries →
      CallCalls r d captures below t (.error (.transform e)) entries t'
  | failed {verdict f entries t'} : r.CodeCalls d captures below t verdict entries t' →
      verdict.guarded = .error f → CallCalls r d captures below t (.error (.failure f)) entries t'
  | done {value entries t'} : r.CodeCalls d captures below t (.done value) entries t' →
      CallCalls r d captures below t (.ok value) entries t'

/-- The code of a step is called once, when all of its arguments could be made. -/
theorem callStep_calls (r : Registry W σ ν) (d : StepDefinition W σ ν) (captures : List String)
    (below : Option StepArgument) (t : W × σ) :
    (r.callStep d captures below).From t (r.CallCalls d captures below t) := by
  unfold From
  obtain ⟨result, hresult, htransforms⟩ := r.transformArguments_transformsTo captures below t
  rcases harguments : r.transformArguments captures below t with ⟨_, t₁, before⟩
  rw [harguments] at hresult htransforms
  obtain rfl := hresult
  cases result with
  | error e =>
    rw [callStep_of_error harguments]
    exact .untransformed htransforms
  | ok arguments =>
    rcases hcode : d.code ⟨arguments⟩ t₁ with ⟨verdict, t₂, notes⟩
    have hcalls : r.CodeCalls d captures below t verdict _ t₂ := .intro htransforms hcode
    rw [callStep_of_ok harguments hcode]
    cases verdict with
    | done value => exact .done hcalls
    | failed f => exact .failed hcalls rfl
    | panicked payload => exact .failed hcalls rfl

/-- There is no other way for the call to go. -/
theorem CodeCalls.eq {verdict : Verdict StepReturn}
    (h : r.CodeCalls d captures below t verdict before t₁) :
    r.callStep d captures below t = (verdict.guarded.mapError .failure, t₁, before) := by
  obtain @⟨arguments, t₁, before, notes, t', htransforms, hcode⟩ := h
  have hall : r.TransformsTo (Subject.all captures below) t (.ok arguments) t₁ before := htransforms
  exact callStep_of_ok (transformArguments_of_transformsTo hall) hcode

/-- There is no other way for the call to end. -/
theorem CallCalls.eq {result : Except CallError StepReturn}
    (h : r.CallCalls d captures below t result before t₁) :
    r.callStep d captures below t = (result, t₁, before) := by
  cases h with
  | untransformed htransforms =>
    exact callStep_of_error (transformArguments_of_transformsTo htransforms)
  | failed hcalls hfailed =>
    rw [hcalls.eq, hfailed]
    rfl
  | done hcalls => exact hcalls.eq

/-! ## Steps -/

/-- Steps that a step asks for are run in order, up to the first that does not succeed. -/
theorem runEach_calls {run : Step → Journaled (W × σ) (Entry ν) (Except ChainStop Unit)}
    {Part : Step → W × σ → List (Entry ν) → Bool → W × σ → Prop} (steps : List Step)
    (h : ∀ step t, (run step).From t fun result entries t' => Part step t entries result.isOk t')
    (t : W × σ) :
    (runEach run steps).From t fun result entries t' =>
      InSequence true Part steps t entries result.isOk t' := by
  induction steps generalizing t with
  | nil => exact .pure .done
  | cons step rest ih =>
    refine (h step t).bind fun result before t₁ hbefore => ?_
    cases result with
    | error e =>
      refine .pure ?_
      rw [List.append_nil]
      exact .stopped rfl hbefore
    | ok _ => exact (ih t₁).mono fun result after t' hafter => .passed hbefore hafter

/-- What follows the call of the code of a step, by how the call ends, and the
outcome of the step. -/
inductive FollowingCalls (Part : Step → W × σ → List (Entry ν) → Outcome → W × σ → Prop)
    (t : W × σ) :
    Except CallError StepReturn → List (Entry ν) → Outcome → W × σ → Prop
  | untransformed (e : TransformError) : FollowingCalls Part t (.error (.transform e)) [] .failed t
  | pending {f p} : f.pending = some p → FollowingCalls Part t (.error (.failure f)) [] .pending t
  | failed {f} : f.pending = none → FollowingCalls Part t (.error (.failure f)) [] .failed t
  | completed : FollowingCalls Part t (.ok .completed) [] .successful t
  | chained {steps entries ok t'} : InSequence true (Succeeding Part) steps t entries ok t' →
      FollowingCalls Part t (.ok (.chained steps)) entries (if ok then .successful else .failed) t'

/-- A call and what follows it make up a step. -/
theorem FollowingCalls.invocation {Part : Step → W × σ → List (Entry ν) → Outcome → W × σ → Prop}
    {result : Except CallError StepReturn} {after : List (Entry ν)} {outcome : Outcome}
    (h : FollowingCalls Part t₁ result after outcome t₂)
    (hcall : r.CallCalls d captures below t result before t₁) :
    r.InvocationCalls Part d captures below t (before ++ after) outcome t₂ := by
  cases h with
  | untransformed e =>
    cases hcall with
    | untransformed htransforms =>
      rw [List.append_nil]
      exact .untransformed htransforms
  | @pending f p hp =>
    cases hcall with
    | failed hcalls hfailed =>
      rw [List.append_nil]
      simpa [hp] using InvocationCalls.failed hcalls hfailed
  | @failed f hp =>
    cases hcall with
    | failed hcalls hfailed =>
      rw [List.append_nil]
      simpa [hp] using InvocationCalls.failed hcalls hfailed
  | completed =>
    cases hcall with
    | done hcalls =>
      rw [List.append_nil]
      exact .completed hcalls
  | chained hsteps =>
    cases hcall with
    | done hcalls => exact .chained hcalls hsteps

theorem FollowingCalls.determined {Part : Step → W × σ → List (Entry ν) → Outcome → W × σ → Prop}
    (hpart : ∀ step t, Determined (Part step t)) (t : W × σ)
    (result : Except CallError StepReturn) :
    Determined (FollowingCalls Part t result) := by
  intro entries outcome t₁ entries' outcome' t₂ h h'
  cases h with
  | untransformed e =>
    cases h'
    exact ⟨rfl, rfl, rfl⟩
  | pending hp =>
    cases h' with
    | pending _ => exact ⟨rfl, rfl, rfl⟩
    | failed hp' => exact nomatch hp.symm.trans hp'
  | failed hp =>
    cases h' with
    | pending hp' => exact nomatch hp.symm.trans hp'
    | failed _ => exact ⟨rfl, rfl, rfl⟩
  | completed =>
    cases h'
    exact ⟨rfl, rfl, rfl⟩
  | chained hsteps =>
    cases h' with
    | chained hsteps' =>
      have hsucceeding : ∀ step t, Determined (Succeeding Part step t) := by
        rintro step t ms ok s ms' ok' s' ⟨outcome, h, rfl⟩ ⟨outcome', h', rfl⟩
        obtain ⟨rfl, rfl, rfl⟩ := hpart step t h h'
        exact ⟨rfl, rfl, rfl⟩
      obtain ⟨rfl, rfl, rfl⟩ := InSequence.determined hsucceeding _ _ hsteps hsteps'
      exact ⟨rfl, rfl, rfl⟩

/-- Every step with a definition is made up so. -/
theorem InvocationCalls.exists_following
    {Part : Step → W × σ → List (Entry ν) → Outcome → W × σ → Prop} {entries : List (Entry ν)}
    {outcome : Outcome} (h : r.InvocationCalls Part d captures below t entries outcome t₂) :
    ∃ result before t₁ after, r.CallCalls d captures below t result before t₁ ∧
      FollowingCalls Part t₁ result after outcome t₂ ∧ entries = before ++ after := by
  cases h with
  | untransformed htransforms =>
    exact ⟨_, _, _, [], .untransformed htransforms, .untransformed _, (List.append_nil _).symm⟩
  | @failed _ f _ _ hcalls hfailed =>
    cases hpending : f.pending with
    | none =>
      exact ⟨_, _, _, [], .failed hcalls hfailed, .failed hpending, (List.append_nil _).symm⟩
    | some p =>
      exact ⟨_, _, _, [], .failed hcalls hfailed, .pending hpending, (List.append_nil _).symm⟩
  | completed hcalls => exact ⟨_, _, _, [], .done hcalls, .completed, (List.append_nil _).symm⟩
  | chained hcalls hsteps => exact ⟨_, _, _, _, .done hcalls, .chained hsteps, rfl⟩

/-- What a step calls and how it ends is settled by its code, however deep its chains are. -/
theorem stepCalls_determined (r : Registry W σ ν) (depth : Nat) (step : Step) (t : W × σ) :
    Determined (r.StepCalls depth step t) := by
  induction depth generalizing step t with
  | zero =>
    rintro _ _ _ _ _ _ ⟨rfl, rfl, rfl⟩ ⟨rfl, rfl, rfl⟩
    exact ⟨rfl, rfl, rfl⟩
  | succ depth ih =>
    -- The call of the code settles what follows it, and the induction what the steps do.
    intro entries outcome t₁ entries' outcome' t₂ h h'
    unfold StepCalls at h h'
    cases hresolve : r.resolve step.text with
    | noMatch =>
      rw [hresolve] at h h'
      obtain ⟨rfl, rfl, rfl⟩ := h
      exact h'
    | ambiguous ds =>
      rw [hresolve] at h h'
      obtain ⟨rfl, rfl, rfl⟩ := h
      exact h'
    | unique d captures =>
      rw [hresolve] at h h'
      obtain ⟨result, before, t₁', after, hcall, hfollowing, rfl⟩ :=
        InvocationCalls.exists_following h
      obtain ⟨result', before', t₂', after', hcall', hfollowing', rfl⟩ :=
        InvocationCalls.exists_following h'
      cases hcall.eq.symm.trans hcall'.eq
      obtain ⟨rfl, rfl, rfl⟩ := FollowingCalls.determined ih _ _ hfollowing hfollowing'
      exact ⟨rfl, rfl, rfl⟩

/-- A step that another one asked for calls what any step does; it counts as successful or not. -/
theorem runChained_calls (r : Registry W σ ν) (depth : Nat) (step : Step) (t : W × σ) :
    (r.runChained depth step).From t fun result entries t' =>
      Succeeding (r.StepCalls depth) step t entries result.isOk t' := by
  -- The induction is on how far down steps are still followed.
  induction depth generalizing step t with
  | zero => exact .pure ⟨.failed, ⟨rfl, rfl, rfl⟩, rfl⟩
  | succ depth ih =>
    unfold Succeeding StepCalls runChained
    cases r.resolve step.text with
    | noMatch => exact .pure ⟨.undefined, ⟨rfl, rfl, rfl⟩, rfl⟩
    | ambiguous ds => exact .pure ⟨.ambiguous, ⟨rfl, rfl, rfl⟩, rfl⟩
    | unique d captures =>
      refine (r.callStep_calls d captures step.argument t).bind fun called before t₁ hbefore => ?_
      refine From.mono (P := fun result after t' => ∃ outcome,
        FollowingCalls (r.StepCalls depth) t₁ called after outcome t' ∧
        result.isOk = (outcome == .successful)) ?_ fun result after t' ⟨outcome, hfollowing, hok⟩ =>
          ⟨outcome, hfollowing.invocation hbefore, hok⟩
      match called with
      | .error (.transform e) => exact .pure ⟨.failed, .untransformed e, rfl⟩
      | .error (.failure f) =>
        dsimp only
        split
        · next p hp => exact .pure ⟨.pending, .pending hp, rfl⟩
        · next hp => exact .pure ⟨.failed, .failed hp, rfl⟩
      | .ok .completed => exact .pure ⟨.successful, .completed, rfl⟩
      | .ok (.chained steps) =>
        refine (runEach_calls steps ih t₁).bind fun result after t' hafter => .pure ?_
        refine ⟨if result.isOk then .successful else .failed, ?_, by cases result <;> rfl⟩
        rw [List.append_nil]
        exact .chained hafter

/-- How a step with a definition ends goes with the calls that it makes. -/
theorem invoke_calls (r : Registry W σ ν) (d : StepDefinition W σ ν) (captures : List String)
    (below : Option StepArgument) (t : W × σ) :
    (r.invoke d captures below).From t fun result entries t' =>
      r.InvocationCalls (r.StepCalls r.chainLimit) d captures below t entries result.1 t' := by
  refine (r.callStep_calls d captures below t).bind fun called before t₁ hbefore => ?_
  refine From.mono (P := fun result after t' =>
    FollowingCalls (r.StepCalls r.chainLimit) t₁ called after result.1 t') ?_
      fun result after t' hfollowing => hfollowing.invocation hbefore
  match called with
  | .error (.transform e) => exact .pure (.untransformed e)
  | .error (.failure f) =>
    dsimp only
    split
    · next p hp => exact .pure (.pending hp)
    · next hp => exact .pure (.failed hp)
  | .ok .completed => exact .pure .completed
  | .ok (.chained steps) =>
    refine (runEach_calls steps (r.runChained_calls r.chainLimit) t₁).bind fun result after
      t' hafter => ?_
    rw [← List.append_nil after] at hafter
    cases result with
    | ok _ => exact .pure (.chained hafter)
    | error e => exact .pure (.chained hafter)

/-- The record of a step tells the outcome that its calls lead to. -/
theorem execute_calls (r : Registry W σ ν) (step : Step) (t : W × σ) :
    (r.execute step).From t fun report entries t' =>
      r.StepCalls (r.chainLimit + 1) step t entries report.outcome t' := by
  unfold execute StepCalls preview
  cases r.resolve step.text with
  | noMatch => exact .pure ⟨rfl, rfl, rfl⟩
  | ambiguous ds => exact .pure ⟨rfl, rfl, rfl⟩
  | unique d captures =>
    refine (r.invoke_calls d captures step.argument t).bind fun result before t' hbefore => .pure ?_
    rw [List.append_nil]
    exact hbefore

/-- A step that is run is not skipped. -/
theorem StepCalls.ne_skipped {depth : Nat} {step : Step} {entries : List (Entry ν)}
    {outcome : Outcome} (h : r.StepCalls depth step t entries outcome t₁) : outcome ≠ .skipped := by
  cases depth with
  | zero => exact h.2.1 ▸ nofun
  | succ depth =>
    unfold StepCalls at h
    split at h
    · exact h.2.1 ▸ nofun
    · exact h.2.1 ▸ nofun
    · cases h with
      | untransformed _ => exact nofun
      | failed _ _ => split <;> exact nofun
      | completed _ => exact nofun
      | chained _ _ => split <;> exact nofun

end Rehearsal.Registry
