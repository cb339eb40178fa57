import Rehearsal.Proofs.Run.Classification

/-!
# What is told of broken chains

A chain breaks at the first step that does not succeed, which may be one that another step of the
chain asked for. What is told of the step at the top names every step on the way down to the one
that broke the chain, says what happened to that one, and ends with all messages of the failure of
its code, if that is what happened. Nothing is left out, told twice or told in another order,
however deep the chain is nested.
-/

namespace Rehearsal

open Journaled

variable {W σ ν : Type}

/-! ## The story of a broken chain -/

/-- What happened to the step that broke a chain. -/
inductive RootCause
  /-- No definition is for it. -/
  | undefined
  /-- Definitions with several sources are for it. -/
  | ambiguous (sources : List String)
  /-- It is still to be written. -/
  | pending (message : Option String)
  /-- Its code failed or panicked. -/
  | failed (f : Failure)
  /-- Transforms with several sources are for one of its arguments. -/
  | ambiguousArgument (value : String) (sources : List String)
  /-- The transform that is for one of its arguments failed or panicked. -/
  | failedArgument (source value : String) (f : Failure)

namespace RootCause

/-- The cause that an error with the arguments of a step is. -/
def ofTransformError : TransformError → RootCause
  | .ambiguous value sources => .ambiguousArgument value sources
  | .failed source value f => .failedArgument source value f

/-- The failure of code that is the cause. A signal that a step is still to be written is none. -/
def failure? : RootCause → Option Failure
  | .failed f | .failedArgument _ _ f => some f
  | .undefined | .ambiguous _ | .pending _ | .ambiguousArgument _ _ => none

/-- What is said of a chained step. -/
def sentence (text verb : String) : String := "chained step '" ++ text ++ "' " ++ verb

/-- What is said of the step that broke the chain, and of its argument if that is why. -/
def sentences (text : String) : RootCause → List String
  | .undefined => [sentence text "is undefined"]
  | .ambiguous sources => [sentence text ("is ambiguous between: " ++ ", ".intercalate sources)]
  | .pending none => [sentence text "is pending"]
  | .pending (some message) => [sentence text ("is pending" ++ (": " ++ message))]
  | .failed _ => [sentence text "failed"]
  | .ambiguousArgument value sources =>
    [sentence text "could not transform its arguments",
     "value '" ++ value ++ "' matches more than one transform: " ++ ", ".intercalate sources]
  | .failedArgument source value _ =>
    [sentence text "could not transform its arguments",
     "transform '" ++ source ++ "' failed for value '" ++ value ++ "'"]

/-- The messages for the steps on the way down, the last of which broke the chain. -/
def story (cause : RootCause) : List String → List String
  | [] => []
  | [text] => cause.sentences text ++ cause.failure?.elim [] Failure.chain
  | text :: below => sentence text "failed in a nested chain" :: cause.story below

end RootCause

/-- The error says what happened at the end of the path, and on the way there. -/
structure ChainError.Tells (e : ChainError) (path : List String) (cause : RootCause) : Prop where
  /-- Its messages are the story. -/
  messages : e.message :: e.causes = cause.story path
  /-- Only the failure of code is rendered. -/
  details : e.details? = cause.failure?.map Failure.rendered

namespace Registry

/-- The code of the only definition that is for the step is called on the world `t`. It comes to the
verdict, and leaves the world `t'`. -/
inductive Invokes (r : Registry W σ ν) (step : Step) (t : W × σ) (verdict : Verdict StepReturn)
    (t' : W × σ) : Prop
  | intro {d : StepDefinition W σ ν} {captures : List String} {entries : List (Entry ν)}
    (hone : r.matchingSteps step.text = [d])
    (hcaptures : d.pattern.captures step.text = some captures)
    (hcode : r.RunsCode d captures step.argument t verdict t' entries)

/-- The step does not succeed on the world `t`, for this cause and not for one of a
step that it asks for. -/
inductive FailsBy (r : Registry W σ ν) (step : Step) (t : W × σ) : RootCause → Prop
  /-- No definition is for it. -/
  | undefined (h : r.matchingSteps step.text = []) : FailsBy r step t .undefined
  /-- Several are. -/
  | ambiguous (h : 2 ≤ (r.matchingSteps step.text).length) :
    FailsBy r step t (.ambiguous ((r.matchingSteps step.text).map fun d => d.pattern.source))
  /-- One is, but the arguments for it cannot be transformed. -/
  | untransformed {d : StepDefinition W σ ν} {captures : List String} {e : TransformError}
    (hone : r.matchingSteps step.text = [d])
    (hcaptures : d.pattern.captures step.text = some captures)
    (harguments : (r.transformArguments captures step.argument t).1 = .error e) :
    FailsBy r step t (.ofTransformError e)
  /-- Its code fails with the signal. -/
  | pending {f : Failure} {p : Pending} {t' : W × σ} (hcode : r.Invokes step t (.failed f) t')
    (hp : f.pending = some p) : FailsBy r step t (.pending p.message)
  /-- Its code fails otherwise, or panics. -/
  | failed {verdict : Verdict StepReturn} {f : Failure} {t' : W × σ}
    (hcode : r.Invokes step t verdict t') (hf : verdict.guarded = .error f)
    (hp : f.pending = none) : FailsBy r step t (.failed f)

/-- All steps of a chain on the world `t` succeed, and so do those that they ask for; `t'` is the
world that is left. -/
inductive Completes (r : Registry W σ ν) : List Step → W × σ → W × σ → Prop
  | nil (t : W × σ) : Completes r [] t t
  | completed {step : Step} {rest : List Step} {t t₁ t' : W × σ}
    (hcode : r.Invokes step t (.done .completed) t₁) (hrest : Completes r rest t₁ t') :
    Completes r (step :: rest) t t'
  | chained {step : Step} {rest steps : List Step} {t t₁ t₂ t' : W × σ}
    (hcode : r.Invokes step t (.done (.chained steps)) t₁) (hchain : Completes r steps t₁ t₂)
    (hrest : Completes r rest t₂ t') : Completes r (step :: rest) t t'

/-- A chain on the world `t` breaks. The path has the texts of the steps on the way down to the
one that breaks it. -/
inductive Breaks (r : Registry W σ ν) : List Step → W × σ → List String → RootCause → Prop
  /-- The first step breaks it. -/
  | here {step : Step} {rest : List Step} {t : W × σ} {cause : RootCause}
    (hstep : r.FailsBy step t cause) :
    Breaks r (step :: rest) t [step.text] cause
  /-- A step breaks it that the first one asks for. -/
  | nested {step : Step} {rest steps : List Step} {t t₁ : W × σ} {path : List String}
    {cause : RootCause} (hcode : r.Invokes step t (.done (.chained steps)) t₁)
    (hchain : Breaks r steps t₁ path cause) :
    Breaks r (step :: rest) t (step.text :: path) cause
  /-- Some steps succeed, and those after them break it. -/
  | later {passed rest : List Step} {t t₁ : W × σ} {path : List String} {cause : RootCause}
    (hpassed : r.Completes passed t t₁) (hrest : Breaks r rest t₁ path cause) :
    Breaks r (passed ++ rest) t path cause

end Registry

/-! ## Errors of single steps -/

namespace ChainError

/-- The error for a step that broke the chain. -/
def ofRoot (text : String) : RootCause → ChainError
  | .undefined => .undefined text
  | .ambiguous sources => .ambiguous text sources
  | .pending message => .pending text message
  | .failed f => .failed text f
  | .ambiguousArgument value sources => .transform text (.ambiguous value sources)
  | .failedArgument source value f => .transform text (.failed source value f)

/-- The error for a step that broke the chain says what happened to it. -/
theorem ofRoot_tells (text : String) (cause : RootCause) :
    (ofRoot text cause).Tells [text] cause := by
  cases cause with
  | pending message => cases message <;> exact ⟨rfl, rfl⟩
  | _ => exact ⟨rfl, rfl⟩

/-- The error for a step that asked for another one says one thing more. -/
theorem Tells.nested {e : ChainError} {path : List String} {cause : RootCause}
    (h : e.Tells path cause) (text : String) :
    (ChainError.nested text e).Tells (text :: path) cause where
  messages := by
    cases path with
    | nil => exact absurd h.messages (List.cons_ne_nil _ _)
    | cons next path => exact congrArg (_ :: ·) h.messages
  details := h.details

end ChainError

namespace Registry

variable {r : Registry W σ ν} {step : Step} {steps rest : List Step} {t t₁ t₂ t' : W × σ}
  {path : List String} {cause : RootCause} {verdict : Verdict StepReturn}

/-! ## Single steps -/

/-- The only definition is found together with what it captures. -/
theorem resolve_of_captures {text : String} {d : StepDefinition W σ ν} {captures : List String}
    (hone : r.matchingSteps text = [d]) (hcaptures : d.pattern.captures text = some captures) :
    r.resolve text = .unique d captures := by
  obtain ⟨found, hfound, hresolve⟩ := resolve_of_one hone
  rwa [Option.some.inj (hfound.symm.trans hcaptures)] at hresolve

/-- A step whose code is called goes on from there in a chain. -/
theorem Invokes.runChained (h : r.Invokes step t verdict t₁) (depth : Nat) : ∃ before,
    r.runChained (depth + 1) step t =
      ((r.chainedAfter depth step (verdict.guarded.mapError .failure) t₁).1,
        (r.chainedAfter depth step (verdict.guarded.mapError .failure) t₁).2.1,
        before ++ (r.chainedAfter depth step (verdict.guarded.mapError .failure) t₁).2.2) := by
  obtain ⟨hone, hcaptures, harguments, hcode⟩ := h
  exact ⟨_, runChained_of_call (resolve_of_captures hone hcaptures)
    (callStep_of_ok harguments hcode) depth⟩

/-- A step whose code completes succeeds in a chain. -/
theorem Invokes.runChained_completed (h : r.Invokes step t (.done .completed) t₁) (depth : Nat) :
    (r.runChained (depth + 1) step t).1 = .ok () ∧ (r.runChained (depth + 1) step t).2.1 = t₁ := by
  obtain ⟨before, hrun⟩ := h.runChained depth
  rw [hrun]
  exact ⟨rfl, rfl⟩

/-- A step whose code asks for steps ends as these do. -/
theorem Invokes.runChained_chained (h : r.Invokes step t (.done (.chained steps)) t₁)
    (depth : Nat) :
    (r.runChained (depth + 1) step t).1 =
      (runEach (r.runChained depth) steps t₁).1.mapError (.nested step.text) ∧
    (r.runChained (depth + 1) step t).2.1 = (runEach (r.runChained depth) steps t₁).2.1 := by
  obtain ⟨before, hrun⟩ := h.runChained depth
  rw [hrun]
  exact ⟨rfl, rfl⟩

/-- A step that breaks the chain gives the error of its cause. -/
theorem FailsBy.runChained (h : r.FailsBy step t cause) (depth : Nat) :
    (r.runChained (depth + 1) step t).1 = .error (.broken (.ofRoot step.text cause)) := by
  cases h with
  | undefined hnone =>
    have hresolve : r.resolve step.text = .noMatch := by rw [resolve, hnone]
    rw [Registry.runChained, hresolve]
    rfl
  | ambiguous hseveral =>
    rw [Registry.runChained, resolve_of_several hseveral]
    rfl
  | @untransformed d captures e hone hcaptures harguments =>
    rcases hall : r.transformArguments captures step.argument t with ⟨result, t₁, before⟩
    rw [hall] at harguments
    subst harguments
    rw [runChained_of_call (resolve_of_captures hone hcaptures) (callStep_of_error hall)]
    cases e <;> rfl
  | pending hcode hp =>
    obtain ⟨before, hrun⟩ := hcode.runChained depth
    rw [hrun, Verdict.guarded, Except.mapError, chainedAfter, hp]
    rfl
  | failed hcode hf hp =>
    obtain ⟨before, hrun⟩ := hcode.runChained depth
    rw [hrun, hf, Except.mapError, chainedAfter, hp]
    rfl

/-- A step of a chain breaks it, or completes, or asks for steps. -/
theorem failsBy_or_invokes (r : Registry W σ ν) (step : Step) (t : W × σ) :
    (∃ cause, r.FailsBy step t cause) ∨ (∃ t', r.Invokes step t (.done .completed) t') ∨
    ∃ steps t', r.Invokes step t (.done (.chained steps)) t' := by
  rcases hfound : r.matchingSteps step.text with _ | ⟨d, _ | ⟨d', ds⟩⟩
  · exact .inl ⟨_, .undefined hfound⟩
  · obtain ⟨captures, hcaptures, -⟩ := resolve_of_one hfound
    rcases harguments : r.transformArguments captures step.argument t
      with ⟨e | arguments, t₁, before⟩
    · exact .inl ⟨_, .untransformed hfound hcaptures (congrArg Prod.fst harguments)⟩
    · rcases hcode : d.code arguments t₁ with ⟨verdict, t', notes⟩
      have hinvokes : r.Invokes step t verdict t' :=
        .intro hfound hcaptures (.intro harguments hcode)
      match verdict with
      | .done .completed => exact .inr (.inl ⟨t', hinvokes⟩)
      | .done (.chained steps) => exact .inr (.inr ⟨steps, t', hinvokes⟩)
      | .panicked payload => exact .inl ⟨_, .failed hinvokes rfl rfl⟩
      | .failed f =>
        cases hp : f.pending with
        | some p => exact .inl ⟨_, .pending hinvokes hp⟩
        | none => exact .inl ⟨_, .failed hinvokes rfl hp⟩
  · exact .inl ⟨_, .ambiguous (by simp [hfound])⟩

/-! ## Whole chains -/

variable {run : Step → Journaled (W × σ) (Entry ν) (Except ChainStop Unit)}
  {stop : ChainStop} {depth : Nat}

/-- A chain fails with its first step. -/
theorem runEach_cons_error (h : (run step t).1 = .error stop) :
    (runEach run (step :: rest) t).1 = .error stop := by
  rw [runEach, bind_apply, h]
  rfl

/-- A chain whose first step succeeds goes on with the others. -/
theorem runEach_cons_ok (h : (run step t).1 = .ok ()) :
    (runEach run (step :: rest) t).1 = (runEach run rest (run step t).2.1).1 ∧
    (runEach run (step :: rest) t).2.1 = (runEach run rest (run step t).2.1).2.1 := by
  rw [runEach, bind_apply, h]
  exact ⟨rfl, rfl⟩

/-- A chain fails that starts with one that fails. -/
theorem runEach_append_error (h : (runEach run steps t).1 = .error stop) :
    (runEach run (steps ++ rest) t).1 = .error stop := by
  induction steps generalizing t with
  | nil => cases h
  | cons step steps ih =>
    rw [List.cons_append]
    cases hfirst : (run step t).1 with
    | error e' => rw [runEach_cons_error hfirst, ← h, runEach_cons_error hfirst]
    | ok _ =>
      rw [(runEach_cons_ok hfirst).1] at h ⊢
      exact ih h

/-- A chain goes on after one that it starts with and that succeeds. -/
theorem runEach_append_ok (h : (runEach run steps t).1 = .ok ()) :
    (runEach run (steps ++ rest) t).1 = (runEach run rest (runEach run steps t).2.1).1 := by
  induction steps generalizing t with
  | nil => rfl
  | cons step steps ih =>
    rw [List.cons_append]
    cases hfirst : (run step t).1 with
    | error e => cases (runEach_cons_error hfirst).symm.trans h
    | ok _ =>
      rw [(runEach_cons_ok hfirst).1] at h ⊢
      rw [(runEach_cons_ok hfirst).2]
      exact ih h

/-- No step of a whole chain is cut off, so there is room for the first one. -/
theorem exists_depth_of_isWhole (h : IsWhole (runEach (r.runChained depth) (step :: rest) t).1) :
    ∃ below, depth = below + 1 := by
  cases depth with
  | zero => exact absurd (runEach_cons_error rfl) h
  | succ below => exact ⟨below, rfl⟩

/-- A chain whose first step asks for steps that fail fails with the error of these, and
tells one thing more. -/
theorem runEach_cons_nested (hcode : r.Invokes step t (.done (.chained steps)) t₁)
    (hstop : (runEach (r.runChained depth) steps t₁).1 = .error stop) :
    (runEach (r.runChained (depth + 1)) (step :: rest) t).1 = .error (.nested step.text stop) := by
  refine runEach_cons_error ?_
  rw [(hcode.runChained_chained depth).1, hstop]
  rfl

/-- The steps that the first step of a whole chain asks for are a whole chain. -/
theorem isWhole_below (hcode : r.Invokes step t (.done (.chained steps)) t₁)
    (hwhole : IsWhole (runEach (r.runChained (depth + 1)) (step :: rest) t).1) :
    IsWhole (runEach (r.runChained depth) steps t₁).1 :=
  fun hcut => hwhole (runEach_cons_nested hcode hcut)

/-- A whole chain all of whose steps succeed is run to its end. -/
theorem Completes.runEach (h : r.Completes steps t t')
    (hwhole : IsWhole (runEach (r.runChained depth) steps t).1) :
    (runEach (r.runChained depth) steps t).1 = .ok () ∧
    (runEach (r.runChained depth) steps t).2.1 = t' := by
  induction h generalizing depth with
  | nil t => exact ⟨rfl, rfl⟩
  | completed hcode _ ih =>
    obtain ⟨depth, rfl⟩ := exists_depth_of_isWhole hwhole
    obtain ⟨hresult, hworld⟩ := hcode.runChained_completed depth
    rw [(runEach_cons_ok hresult).1, hworld] at hwhole
    rw [(runEach_cons_ok hresult).1, (runEach_cons_ok hresult).2, hworld]
    exact ih hwhole
  | chained hcode _ _ ihchain ihrest =>
    obtain ⟨depth, rfl⟩ := exists_depth_of_isWhole hwhole
    obtain ⟨hchain, hleft⟩ := ihchain (isWhole_below hcode hwhole)
    obtain ⟨hresult, hworld⟩ := hcode.runChained_chained depth
    rw [hchain, Except.mapError] at hresult
    rw [hleft] at hworld
    rw [(runEach_cons_ok hresult).1, hworld] at hwhole
    rw [(runEach_cons_ok hresult).1, (runEach_cons_ok hresult).2, hworld]
    exact ihrest hwhole

/-- A whole chain that breaks gives an error that tells where and why. -/
theorem Breaks.runEach (h : r.Breaks steps t path cause)
    (hwhole : IsWhole (runEach (r.runChained depth) steps t).1) :
    ∃ e, (runEach (r.runChained depth) steps t).1 = .error (.broken e) ∧ e.Tells path cause := by
  induction h generalizing depth with
  | here hstep =>
    obtain ⟨depth, rfl⟩ := exists_depth_of_isWhole hwhole
    exact ⟨_, runEach_cons_error (hstep.runChained depth), ChainError.ofRoot_tells _ _⟩
  | nested hcode _ ih =>
    obtain ⟨depth, rfl⟩ := exists_depth_of_isWhole hwhole
    obtain ⟨e, he, htells⟩ := ih (isWhole_below hcode hwhole)
    exact ⟨_, runEach_cons_nested hcode he, htells.nested _⟩
  | later hpassed _ ih =>
    obtain ⟨hresult, hworld⟩ := hpassed.runEach fun hcut => hwhole (runEach_append_error hcut)
    rw [runEach_append_ok hresult, hworld] at hwhole ⊢
    exact ih hwhole

/-- A chain that is run to its end completes, and one that is broken breaks. -/
theorem runEach_course (r : Registry W σ ν) (depth : Nat) (steps : List Step) (t : W × σ) :
    ((runEach (r.runChained depth) steps t).1 = .ok () →
      r.Completes steps t (runEach (r.runChained depth) steps t).2.1) ∧
    (∀ e, (runEach (r.runChained depth) steps t).1 = .error (.broken e) →
      ∃ path cause, r.Breaks steps t path cause) := by
  -- The outer induction goes down into the chains that steps ask for, the inner
  -- one along the chain.
  induction depth generalizing steps t with
  | zero =>
    cases steps with
    | nil => exact ⟨fun _ => .nil t, nofun⟩
    | cons step rest =>
      have hcut : (runEach (r.runChained 0) (step :: rest) t).1 = .error .cutOff :=
        runEach_cons_error rfl
      exact ⟨fun h => (nomatch hcut.symm.trans h), fun e he => (nomatch hcut.symm.trans he)⟩
  | succ depth ih =>
    induction steps generalizing t with
    | nil => exact ⟨fun _ => .nil t, nofun⟩
    | cons step rest ihrest =>
      rcases r.failsBy_or_invokes step t with ⟨cause, hfails⟩ | ⟨t₁, hcode⟩ | ⟨steps, t₁, hcode⟩
      · have hrun : (runEach (r.runChained (depth + 1)) (step :: rest) t).1 =
            .error (.broken (.ofRoot step.text cause)) :=
          runEach_cons_error (hfails.runChained depth)
        exact ⟨fun h => (nomatch hrun.symm.trans h), fun e _ => ⟨_, _, .here hfails⟩⟩
      · obtain ⟨hresult, hworld⟩ := hcode.runChained_completed depth
        obtain ⟨hcompletes, hbreaks⟩ := ihrest t₁
        rw [(runEach_cons_ok hresult).1, (runEach_cons_ok hresult).2, hworld]
        refine ⟨fun h => .completed hcode (hcompletes h), fun e he => ?_⟩
        obtain ⟨path, cause, hrest⟩ := hbreaks e he
        exact ⟨path, cause, .later (.completed hcode (.nil t₁)) hrest⟩
      · obtain ⟨hresult, hworld⟩ := hcode.runChained_chained depth
        obtain ⟨hcompletes, hbreaks⟩ := ih steps t₁
        cases hchain : (runEach (r.runChained depth) steps t₁).1 with
        | error stop =>
          have hnested : (runEach (r.runChained (depth + 1)) (step :: rest) t).1 =
              .error (.nested step.text stop) :=
            runEach_cons_nested hcode hchain
          refine ⟨fun h => (nomatch hnested.symm.trans h), fun e he => ?_⟩
          cases stop with
          | broken below =>
            obtain ⟨path, cause, hbelow⟩ := hbreaks below hchain
            exact ⟨_, _, .nested hcode hbelow⟩
          | cutOff => cases hnested.symm.trans he
        | ok _ =>
          rw [hchain, Except.mapError] at hresult
          obtain ⟨hrestCompletes, hrestBreaks⟩ := ihrest (runEach (r.runChained depth) steps t₁).2.1
          rw [(runEach_cons_ok hresult).1, (runEach_cons_ok hresult).2, hworld]
          refine ⟨fun h => .chained hcode (hcompletes hchain) (hrestCompletes h), fun e he => ?_⟩
          obtain ⟨path, cause, hrest⟩ := hrestBreaks e he
          exact ⟨path, cause, .later (.chained hcode (hcompletes hchain) (.nil _)) hrest⟩

/-! ### Room for chains -/

/-- A whole chain comes to the same if steps may be nested deeper. -/
theorem runEach_of_le {deeper : Nat} (hle : depth ≤ deeper)
    (h : IsWhole (runEach (r.runChained depth) steps t).1) :
    runEach (r.runChained deeper) steps t = runEach (r.runChained depth) steps t :=
  runEach_of_isWhole (fun step t => r.runChained_of_le hle step t) steps t h

/-- A chain all of whose steps succeed is run to its end if there is room for it. -/
theorem Completes.exists_depth (h : r.Completes steps t t') :
    ∃ depth, (Registry.runEach (r.runChained depth) steps t).1 = .ok () := by
  induction h with
  | nil t => exact ⟨0, rfl⟩
  | completed hcode _ ih =>
    obtain ⟨depth, hrest⟩ := ih
    obtain ⟨hresult, hworld⟩ := hcode.runChained_completed depth
    refine ⟨depth + 1, ?_⟩
    rw [(runEach_cons_ok hresult).1, hworld,
      runEach_of_le (Nat.le_succ depth) (hrest ▸ isWhole_ok), hrest]
  | chained hcode hchain _ ihchain ihrest =>
    obtain ⟨below, hbelow⟩ := ihchain
    obtain ⟨depth, hrest⟩ := ihrest
    have hle : below ≤ max below depth := Nat.le_max_left _ _
    obtain ⟨hresult, hworld⟩ := hcode.runChained_chained (max below depth)
    rw [runEach_of_le hle (hbelow ▸ isWhole_ok)] at hresult hworld
    rw [hbelow, Except.mapError] at hresult
    rw [(hchain.runEach (hbelow ▸ isWhole_ok)).2] at hworld
    refine ⟨max below depth + 1, ?_⟩
    rw [(runEach_cons_ok hresult).1, hworld, runEach_of_le (by omega) (hrest ▸ isWhole_ok), hrest]

/-- A chain that breaks is not cut off if there is room for it. -/
theorem Breaks.exists_depth (h : r.Breaks steps t path cause) :
    ∃ depth e, (Registry.runEach (r.runChained depth) steps t).1 = .error (.broken e) := by
  induction h with
  | here hstep => exact ⟨1, _, runEach_cons_error (hstep.runChained 0)⟩
  | nested hcode _ ih =>
    obtain ⟨depth, e, he⟩ := ih
    exact ⟨depth + 1, _, runEach_cons_nested hcode he⟩
  | later hpassed _ ih =>
    obtain ⟨first, hfirst⟩ := hpassed.exists_depth
    obtain ⟨depth, e, he⟩ := ih
    have hall := runEach_of_le (Nat.le_max_left first depth) (hfirst ▸ isWhole_ok)
    refine ⟨max first depth, e, ?_⟩
    rw [runEach_append_ok (by rw [hall, hfirst]), hall, (hpassed.runEach (hfirst ▸ isWhole_ok)).2,
      runEach_of_le (Nat.le_max_right first depth) (he ▸ isWhole_broken e), he]

/-- So a chain that breaks is whole wherever steps may be nested deep enough. -/
theorem Breaks.exists_isWhole (h : r.Breaks steps t path cause) :
    ∃ depth, ∀ deeper, depth ≤ deeper →
      IsWhole (Registry.runEach (r.runChained deeper) steps t).1 := by
  obtain ⟨depth, e, he⟩ := h.exists_depth
  have hall : IsWhole (Registry.runEach (r.runChained depth) steps t).1 := he ▸ isWhole_broken e
  exact ⟨depth, fun deeper hle => by rwa [runEach_of_le hle hall]⟩

/-- The registry with another bound on how deep steps may be nested. -/
def withLimit (r : Registry W σ ν) (limit : Nat) : Registry W σ ν := { r with chainLimit := limit }

/-- The bound does not matter for arguments. -/
theorem transformArguments_withLimit (r : Registry W σ ν) (limit : Nat) (captures : List String)
    (below : Option StepArgument) :
    (r.withLimit limit).transformArguments captures below =
      r.transformArguments captures below := by
  have hcaptures : (r.withLimit limit).transformCaptures captures =
      r.transformCaptures captures := by
    induction captures with
    | nil => rfl
    | cons capture rest ih =>
      rw [transformCaptures, transformCaptures, ih]
      rfl
  rw [transformArguments, transformArguments, hcaptures]
  cases below with
  | none => rfl
  | some below => cases below <;> rfl

theorem callStep_withLimit (r : Registry W σ ν) (limit : Nat) (d : StepDefinition W σ ν)
    (captures : List String) (below : Option StepArgument) :
    (r.withLimit limit).callStep d captures below = r.callStep d captures below := by
  rw [callStep, callStep, transformArguments_withLimit]

theorem runChained_withLimit (r : Registry W σ ν) (limit depth : Nat) :
    (r.withLimit limit).runChained depth = r.runChained depth := by
  have hresolve : (r.withLimit limit).resolve = r.resolve := rfl
  induction depth with
  | zero => rfl
  | succ depth ih =>
    funext step
    rw [Registry.runChained, Registry.runChained]
    simp only [hresolve, callStep_withLimit, ih]

/-- The bound is the one for chains. -/
theorem runChain_withLimit (r : Registry W σ ν) (limit : Nat) (steps : List Step) :
    (r.withLimit limit).runChain steps = Registry.runEach (r.runChained limit) steps :=
  congrArg (Registry.runEach · steps) (r.runChained_withLimit limit limit)

theorem Invokes.withLimit (h : r.Invokes step t verdict t') (limit : Nat) :
    (r.withLimit limit).Invokes step t verdict t' := by
  obtain ⟨hone, hcaptures, harguments, hcode⟩ := h
  exact .intro hone hcaptures
    (.intro ((congrFun (r.transformArguments_withLimit limit _ _) t).trans harguments) hcode)

/-! ## The step at the top -/

/-- The path of a chain that breaks leads somewhere. -/
theorem Breaks.path_ne_nil (h : r.Breaks steps t path cause) : path ≠ [] := by
  induction h with
  | here _ => exact List.cons_ne_nil _ _
  | nested _ _ _ => exact List.cons_ne_nil _ _
  | later _ _ ih => exact ih

/-- A step whose code asks for steps, as a record tells of it. -/
theorem Invokes.execute (h : r.Invokes step t (.done (.chained steps)) t₁) :
    ((r.execute step).run t).1.outcome = (r.invokedAfter (.ok (.chained steps)) t₁).1.1 ∧
    ((r.execute step).run t).1.error = (r.invokedAfter (.ok (.chained steps)) t₁).1.2 := by
  obtain ⟨hone, hcaptures, harguments, hcode⟩ := h
  rw [run_apply, execute_of_call (resolve_of_captures hone hcaptures)
    (callStep_of_ok harguments hcode)]
  exact ⟨rfl, rfl⟩

/-- The step at the top fails with the error of the chain that its code asks for, and
succeeds if there is none. -/
theorem Invokes.execute_chained (h : r.Invokes step t (.done (.chained steps)) t₁) :
    ((r.runChain steps t₁).1 = .ok () →
      ((r.execute step).run t).1.outcome = .successful ∧ ((r.execute step).run t).1.error = none) ∧
    ∀ e, (r.runChain steps t₁).1 = .error (.broken e) →
      ((r.execute step).run t).1.outcome = .failed ∧
      ((r.execute step).run t).1.error = some (.ofChainError e) := by
  obtain ⟨houtcome, herror⟩ := h.execute
  rw [houtcome, herror, invokedAfter, bind_apply]
  refine ⟨fun hchain => ?_, fun e hchain => ?_⟩
  · rw [hchain]
    exact ⟨rfl, rfl⟩
  · rw [hchain]
    exact ⟨rfl, rfl⟩

/-- A step that asks for a chain fails if the chain breaks, and succeeds otherwise. Its record tells
the whole story: the texts of the steps on the way down to the one that broke the chain, what
happened to that one, and all messages of the failure of its code, which is also rendered, if that
is what happened. This holds for any bound on nesting that does not cut the chain off, and a high
enough one does not if the chain breaks. -/
theorem execute_tellsStory {parent : Step}
    (hasks : r.Invokes parent t (.done (.chained steps)) t₁) :
    (∀ path cause, r.Breaks steps t₁ path cause →
      ∃ depth, ∀ limit, depth ≤ limit → IsWhole ((r.withLimit limit).runChain steps t₁).1) ∧
    ∀ limit, IsWhole ((r.withLimit limit).runChain steps t₁).1 →
      let report := (((r.withLimit limit).execute parent).run t).1
      (report.outcome = .failed ↔ ∃ path cause, r.Breaks steps t₁ path cause) ∧
      (report.outcome ≠ .failed → report.outcome = .successful ∧ report.error = none) ∧
      ∀ path cause, r.Breaks steps t₁ path cause → path ≠ [] ∧ ∃ message causes,
        report.error = some (.failed message causes (cause.failure?.map Failure.rendered)) ∧
        message :: causes = cause.story path := by
  refine ⟨fun path cause hbreaks => ?_, fun limit hwhole => ?_⟩
  · simp only [runChain_withLimit]
    exact hbreaks.exists_isWhole
  intro report
  obtain ⟨hsuccess, hfailure⟩ := (hasks.withLimit limit).execute_chained
  obtain ⟨-, hcourse⟩ := r.runEach_course limit steps t₁
  rw [runChain_withLimit] at hwhole hsuccess hfailure
  cases hchain : (Registry.runEach (r.runChained limit) steps t₁).1 with
  | ok _ =>
    obtain ⟨houtcome, herror⟩ := hsuccess hchain
    have hnever : ∀ path cause, ¬ r.Breaks steps t₁ path cause := fun path cause hbreaks => by
      obtain ⟨e, he, -⟩ := hbreaks.runEach hwhole
      cases hchain.symm.trans he
    refine ⟨?_, fun _ => ⟨houtcome, herror⟩,
      fun path cause hbreaks => absurd hbreaks (hnever path cause)⟩
    change report.outcome = _ at houtcome
    rw [houtcome]
    refine iff_of_false (by decide) ?_
    rintro ⟨path, cause, hbreaks⟩
    exact hnever path cause hbreaks
  | error stop =>
    obtain ⟨e, rfl⟩ := IsWhole.exists_broken (hchain ▸ hwhole)
    obtain ⟨houtcome, herror⟩ := hfailure e hchain
    refine ⟨iff_of_true houtcome (hcourse e hchain), fun hne => absurd houtcome hne,
      fun path cause hbreaks => ⟨hbreaks.path_ne_nil, ?_⟩⟩
    obtain ⟨e', he', htells⟩ := hbreaks.runEach hwhole
    obtain rfl := ChainStop.broken.inj (Except.error.inj (hchain.symm.trans he'))
    refine ⟨e.message, e.causes, ?_, htells.messages⟩
    change report.error = _ at herror
    rw [herror, ← htells.details]
    rfl

/-! ### A chain in a chain -/

/-- A registry of steps whose texts are one letter each. -/
def letters (definitions : List (Char × StepCode Nat Unit Unit)) : Registry Nat Unit Unit where
  steps := definitions.map fun d => letterDefinition d.1 d.2
  chainLimit := 2

theorem matchingSteps_letters (definitions : List (Char × StepCode Nat Unit Unit)) (c : Char) :
    (letters definitions).matchingSteps (letterStep c).text =
      (definitions.filter fun d => c == d.1).map fun d => letterDefinition d.1 d.2 := by
  have hmatch : (fun d : StepDefinition Nat Unit Unit => d.pattern.isMatch (letterStep c).text) ∘
      (fun d : Char × StepCode Nat Unit Unit => letterDefinition d.1 d.2) = fun d => c == d.1 := by
    funext d
    exact isMatch_letterDefinition d.1 c d.2
  rw [matchingSteps, letters, List.filter_map, hmatch]

/-- A step of one letter calls the code of its definition. -/
theorem invokes_letters {definitions : List (Char × StepCode Nat Unit Unit)} {c : Char}
    {code : StepCode Nat Unit Unit} {verdict : Verdict StepReturn} {t t' : Nat × Unit}
    {notes : List Unit} (hone : definitions.filter (fun d => c == d.1) = [(c, code)])
    (hcode : code ⟨[]⟩ t = (verdict, t', notes)) :
    (letters definitions).Invokes (letterStep c) t verdict t' := by
  have hmatching : (letters definitions).matchingSteps (letterStep c).text =
      [letterDefinition c code] := by
    rw [matchingSteps_letters, hone]
    rfl
  exact .intro hmatching (captures_letterDefinition c code) (.intro rfl hcode)

/-- Code that asks for steps of one letter each. -/
def asking (cs : List Char) : StepCode Nat Unit Unit :=
  fun _ => return .done (.chained (cs.map letterStep))

/-- Why a ship is lost. -/
def shipwreck : Failure := { message := "ship lost", causes := ["storm", "low pressure"] }

/-- A step that asks for one that counts and for one that asks for one that fails. -/
def voyage : Registry Nat Unit Unit := letters
  [('v', asking ['c', 's']), ('c', counting.code), ('s', asking ['w']),
    ('w', fun _ => return .failed shipwreck)]

/-- The record of the step at the top tells of the steps on the way down, and of the
whole failure there. -/
theorem voyage_tellsStory :
    voyage.Invokes (letterStep 'v') (0, ()) (.done (.chained (['c', 's'].map letterStep))) (0, ()) ∧
    IsWhole (voyage.runChain (['c', 's'].map letterStep) (0, ())).1 ∧
    ((voyage.execute (letterStep 'v')).run (0, ())).1.error = some (.failed
      "chained step 's' failed in a nested chain"
        ["chained step 'w' failed", "ship lost", "storm", "low pressure"]
      (some "report[ship lost <- storm <- low pressure]")) := by
  have htop : voyage.Invokes (letterStep 'v') (0, ())
      (.done (.chained (['c', 's'].map letterStep))) (0, ()) :=
    invokes_letters rfl rfl
  have hcount : voyage.Invokes (letterStep 'c') (0, ()) (.done .completed) (1, ()) :=
    invokes_letters rfl rfl
  have hsail : voyage.Invokes (letterStep 's') (1, ())
      (.done (.chained [letterStep 'w'])) (1, ()) :=
    invokes_letters rfl rfl
  have hfails : voyage.Invokes (letterStep 'w') (1, ()) (.failed shipwreck) (1, ()) :=
    invokes_letters rfl rfl
  have hwreck : voyage.FailsBy (letterStep 'w') (1, ()) (.failed shipwreck) :=
    .failed hfails rfl rfl
  have hbreaks : voyage.Breaks (['c', 's'].map letterStep) (0, ()) ["s", "w"] (.failed shipwreck) :=
    .later (.completed hcount (.nil _)) (.nested hsail (.here hwreck))
  have hwhole : IsWhole (voyage.runChain (['c', 's'].map letterStep) (0, ())).1 := by
    have hresult : (voyage.runChain (['c', 's'].map letterStep) (0, ())).1 =
        .error (.broken (.nested "s" (.failed "w" shipwreck))) := by
      obtain ⟨hok, hworld⟩ := hcount.runChained_completed 1
      refine (runEach_cons_ok hok).1.trans ?_
      rw [hworld]
      exact runEach_cons_nested hsail (runEach_cons_error (hwreck.runChained 0))
    rw [hresult]
    exact isWhole_broken _
  refine ⟨htop, hwhole, ?_⟩
  obtain ⟨-, -, htells⟩ := (execute_tellsStory htop).2 2 hwhole
  obtain ⟨-, message, causes, herror, hstory⟩ := htells _ _ hbreaks
  have hexpected : (RootCause.failed shipwreck).story ["s", "w"] =
      ["chained step 's' failed in a nested chain", "chained step 'w' failed", "ship lost", "storm",
        "low pressure"] := by decide +kernel
  obtain ⟨rfl, rfl⟩ := List.cons.inj (hstory.trans hexpected)
  exact herror

end Registry

end Rehearsal
