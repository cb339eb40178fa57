import Rehearsal.Proofs.Pattern.Placeholders
import Rehearsal.Run.Step

/-!
# Chains of steps

The steps that a step asks for, next to the same steps run by themselves. A chain is the run of its
steps one after the other up to the first that does not succeed, and its error says of that step
what the record of the step says. This holds of every chain that is not cut off for being nested too
deeply; how deep it could have been nested then makes no difference.
-/

namespace Rehearsal

open Journaled

variable {W σ ν : Type}

namespace ChainError

/-- How the step ends when it is run by itself. -/
def outcome : ChainError → Outcome
  | .undefined _ => .undefined
  | .ambiguous _ _ => .ambiguous
  | .pending _ _ => .pending
  | .transform _ _ | .failed _ _ | .nested _ _ => .failed

/-- Why the step does not succeed when it is run by itself, as its record keeps it. -/
def detail? : ChainError → Option ErrorDetail
  | .undefined _ => none
  | .ambiguous _ patterns => some (.ambiguous patterns)
  | .pending _ message => some (.pending message)
  | .transform _ e => some (.ofTransformError e)
  | .failed _ f => some (.ofFailure f)
  | .nested _ e => some (.ofChainError e)

/-- No error tells of a step that succeeds. -/
theorem outcome_ne_successful (e : ChainError) : e.outcome ≠ .successful := by
  cases e <;> exact nofun

end ChainError

namespace Registry

/-- The chain came to an end of its own, and was not cut off. -/
def IsWhole (result : Except ChainStop Unit) : Prop := result ≠ .error .cutOff

/-- A chain that succeeds is whole. -/
theorem isWhole_ok : IsWhole (.ok ()) := nofun

/-- So is one that a step breaks. -/
theorem isWhole_broken (e : ChainError) : IsWhole (.error (.broken e)) := nofun

/-- A whole chain that does not succeed is broken by one of its steps. -/
theorem IsWhole.exists_broken {stop : ChainStop} (h : IsWhole (.error stop)) :
    ∃ e, stop = .broken e := by
  cases stop with
  | broken e => exact ⟨e, rfl⟩
  | cutOff => exact absurd rfl h

/-- The chain of a step is as whole as the step. -/
theorem IsWhole.of_nested {text : String} {result : Except ChainStop Unit}
    (h : IsWhole (result.mapError (.nested text))) : IsWhole result := by
  rintro rfl
  exact h rfl

/-! ## After the call of a step -/

/-- What becomes of a chained step when its code has been called. -/
def chainedAfter (r : Registry W σ ν) (depth : Nat) (step : Step) :
    Except CallError StepReturn → Journaled (W × σ) (Entry ν) (Except ChainStop Unit)
  | .error (.transform e) => pure (.error (.broken (.transform step.text e)))
  | .error (.failure f) =>
    match f.pending with
    | some p => pure (.error (.broken (.pending step.text p.message)))
    | none => pure (.error (.broken (.failed step.text f)))
  | .ok .completed => pure (.ok ())
  | .ok (.chained steps) => do
    let result ← runEach (r.runChained depth) steps
    return result.mapError (.nested step.text)

/-- How a step ends that is run by itself when its code has been called, and why if
it does not succeed. -/
def invokedAfter (r : Registry W σ ν) :
    Except CallError StepReturn → Journaled (W × σ) (Entry ν) (Outcome × Option ErrorDetail)
  | .error (.transform e) => pure (.failed, some (.ofTransformError e))
  | .error (.failure f) =>
    match f.pending with
    | some p => pure (.pending, some (.pending p.message))
    | none => pure (.failed, some (.ofFailure f))
  | .ok .completed => pure (.successful, none)
  | .ok (.chained steps) => do
    match ← r.runChain steps with
    | .ok () => return (.successful, none)
    | .error e => return (.failed, some e.detail)

variable {r : Registry W σ ν} {step : Step} {definition : StepDefinition W σ ν}
  {captures : List String} {t t₁ : W × σ} {called : Except CallError StepReturn}
  {before : List (Entry ν)}

/-- A chained step calls its code and goes on from there. -/
theorem runChained_of_call (hresolve : r.resolve step.text = .unique definition captures)
    (hcall : r.callStep definition captures step.argument t = (called, t₁, before)) (depth : Nat) :
    r.runChained (depth + 1) step t =
      ((r.chainedAfter depth step called t₁).1, (r.chainedAfter depth step called t₁).2.1,
        before ++ (r.chainedAfter depth step called t₁).2.2) := by
  have heq : r.runChained (depth + 1) step =
      r.callStep definition captures step.argument >>= r.chainedAfter depth step := by
    rw [runChained, hresolve]
    rfl
  rw [heq, bind_apply, hcall]

/-- A step that is run by itself calls its code and goes on from there. -/
theorem execute_of_call (hresolve : r.resolve step.text = .unique definition captures)
    (hcall : r.callStep definition captures step.argument t = (called, t₁, before)) :
    r.execute step t =
      ({ keyword := step.keyword, text := step.text, outcome := (r.invokedAfter called t₁).1.1
         error := (r.invokedAfter called t₁).1.2, arguments := captures
         pattern := some definition.pattern.source },
       (r.invokedAfter called t₁).2.1, before ++ (r.invokedAfter called t₁).2.2) := by
  have heq : r.invoke definition captures step.argument =
      r.callStep definition captures step.argument >>= r.invokedAfter := rfl
  rw [execute, hresolve]
  dsimp only
  rw [bind_apply, heq, bind_apply, hcall, pure_apply, List.append_nil]

/-! ## Depth -/

/-- Steps in order come to the same by two ways of running a step that agree where
the first is whole. -/
theorem runEach_of_isWhole {run run' : Step → Journaled (W × σ) (Entry ν) (Except ChainStop Unit)}
    (hrun : ∀ step t, IsWhole (run step t).1 → run' step t = run step t) (steps : List Step)
    (t : W × σ) (h : IsWhole (runEach run steps t).1) :
    runEach run' steps t = runEach run steps t := by
  induction steps generalizing t with
  | nil => rfl
  | cons step rest ih =>
    have hfirst := hrun step t
    rw [runEach, bind_apply] at h ⊢
    rw [runEach, bind_apply]
    rcases hstep : run step t with ⟨result, t₁, before⟩
    rw [hstep] at h hfirst
    cases result with
    | error e => rw [hfirst h]
    | ok _ =>
      rw [hfirst isWhole_ok]
      dsimp only at h ⊢
      rw [ih t₁ h]

/-- A chained step that is whole comes to the same if steps may be nested deeper. -/
theorem runChained_succ (r : Registry W σ ν) (depth : Nat) (step : Step) (t : W × σ)
    (h : IsWhole (r.runChained depth step t).1) :
    r.runChained (depth + 1) step t = r.runChained depth step t := by
  -- The induction is on the depth that is enough.
  induction depth generalizing step t with
  | zero => exact absurd rfl h
  | succ depth ih =>
    cases hresolve : r.resolve step.text with
    | noMatch => rw [runChained, runChained, hresolve]
    | ambiguous ds => rw [runChained, runChained, hresolve]
    | unique definition captures =>
      rcases hcall : r.callStep definition captures step.argument t with ⟨called, t₁, before⟩
      rw [runChained_of_call hresolve hcall] at h ⊢
      rw [runChained_of_call hresolve hcall]
      suffices hsame : r.chainedAfter (depth + 1) step called t₁ =
          r.chainedAfter depth step called t₁ by
        rw [hsame]
      match called with
      | .error (.transform e) => rfl
      | .error (.failure f) => rfl
      | .ok .completed => rfl
      | .ok (.chained steps) =>
        rw [chainedAfter, bind_apply] at h ⊢
        rw [chainedAfter, bind_apply, runEach_of_isWhole ih steps t₁ h.of_nested]

/-- The same for any greater depth. -/
theorem runChained_of_le (r : Registry W σ ν) {depth depth' : Nat} (hle : depth ≤ depth')
    (step : Step) (t : W × σ) (h : IsWhole (r.runChained depth step t).1) :
    r.runChained depth' step t = r.runChained depth step t := by
  induction hle with
  | refl => rfl
  | step _ ih => rw [r.runChained_succ _ step t (by rwa [ih]), ih]

/-! ## Steps by themselves -/

/-- A step in a chain next to the step run by itself: both succeed, or the error says
what the record says. -/
def Agrees (result : Except ChainStop Unit) (report : StepReport) : Prop :=
  match result with
  | .ok () => report.outcome = .successful
  | .error stop => ∃ e, stop = .broken e ∧ report.outcome = e.outcome ∧ report.error = e.detail?

/-- A chained step that is whole does what the step does by itself, and comes to the same. -/
theorem execute_of_isWhole (r : Registry W σ ν) {depth : Nat} (hdepth : depth ≤ r.chainLimit)
    (step : Step) (t : W × σ) (h : IsWhole (r.runChained depth step t).1) :
    (r.execute step t).2 = (r.runChained depth step t).2 ∧
      Agrees (r.runChained depth step t).1 (r.execute step t).1 := by
  cases depth with
  | zero => exact absurd rfl h
  | succ depth =>
    cases hresolve : r.resolve step.text with
    | noMatch =>
      rw [runChained, execute, preview, hresolve]
      exact ⟨rfl, _, rfl, rfl, rfl⟩
    | ambiguous ds =>
      rw [runChained, execute, preview, hresolve]
      exact ⟨rfl, _, rfl, rfl, rfl⟩
    | unique definition captures =>
      rcases hcall : r.callStep definition captures step.argument t with ⟨called, t₁, before⟩
      rw [runChained_of_call hresolve hcall] at h ⊢
      rw [execute_of_call hresolve hcall]
      match called with
      | .error (.transform e) => exact ⟨rfl, _, rfl, rfl, rfl⟩
      | .error (.failure f) =>
        rw [chainedAfter, invokedAfter]
        cases f.pending <;> exact ⟨rfl, _, rfl, rfl, rfl⟩
      | .ok .completed => exact ⟨rfl, rfl⟩
      | .ok (.chained steps) =>
        rw [chainedAfter, bind_apply] at h ⊢
        -- By itself the step may be nested deeper than in the chain, which makes no difference.
        have hsame : r.runChain steps t₁ = runEach (r.runChained depth) steps t₁ :=
          runEach_of_isWhole (r.runChained_of_le (by omega)) steps t₁ h.of_nested
        rw [invokedAfter, bind_apply, hsame]
        have hbelow := h.of_nested
        cases hresult : (runEach (r.runChained depth) steps t₁).1 with
        | ok _ => exact ⟨rfl, rfl⟩
        | error stop =>
          rw [hresult] at hbelow
          obtain ⟨e, rfl⟩ := hbelow.exists_broken
          exact ⟨rfl, _, rfl, rfl, rfl⟩

/-! ## Chains -/

/-- The first step of a chain and the others, each run by itself. -/
theorem executeEach_cons (r : Registry W σ ν) (step : Step) (rest : List Step) (t : W × σ) :
    forEach r.execute (step :: rest) t =
      ((r.execute step t).1 :: (forEach r.execute rest (r.execute step t).2.1).1,
       (forEach r.execute rest (r.execute step t).2.1).2.1,
       (r.execute step t).2.2 ++ (forEach r.execute rest (r.execute step t).2.1).2.2) :=
  forEach_cons_apply rfl rfl

/-- A whole chain whose first step fails stops there; one whose first step succeeds goes on with the
others, which are a whole chain as well. -/
theorem runEach_cons_of_isWhole (r : Registry W σ ν) {depth : Nat} (hdepth : depth ≤ r.chainLimit)
    (step : Step) (rest : List Step) (t : W × σ)
    (h : IsWhole (runEach (r.runChained depth) (step :: rest) t).1) :
    ((r.execute step t).1.outcome ≠ .successful ∧ ∃ e,
      runEach (r.runChained depth) (step :: rest) t = (.error (.broken e), (r.execute step t).2) ∧
      (r.execute step t).1.outcome = e.outcome ∧ (r.execute step t).1.error = e.detail?) ∨
    ((r.execute step t).1.outcome = .successful ∧
      IsWhole (runEach (r.runChained depth) rest (r.execute step t).2.1).1 ∧
      runEach (r.runChained depth) (step :: rest) t =
        ((runEach (r.runChained depth) rest (r.execute step t).2.1).1,
         (runEach (r.runChained depth) rest (r.execute step t).2.1).2.1,
         (r.execute step t).2.2 ++
           (runEach (r.runChained depth) rest (r.execute step t).2.1).2.2)) := by
  have hstep := r.execute_of_isWhole hdepth step t
  rw [runEach, bind_apply] at h ⊢
  rcases hrun : r.runChained depth step t with ⟨result, t₁, before⟩
  rw [hrun] at h hstep
  cases result with
  | error stop =>
    obtain ⟨hsame, e, rfl, houtcome, herror⟩ := hstep h
    refine .inl ⟨?_, e, ?_, houtcome, herror⟩
    · rw [houtcome]
      exact e.outcome_ne_successful
    · dsimp only
      rw [pure_apply, List.append_nil, hsame]
  | ok _ =>
    obtain ⟨hsame, hagrees⟩ := hstep isWhole_ok
    rw [hsame]
    exact .inr ⟨hagrees, h, rfl⟩

/-- A whole chain all of whose steps succeed by themselves succeeds, and does what these do. -/
theorem runEach_of_successful (r : Registry W σ ν) {depth : Nat} (hdepth : depth ≤ r.chainLimit)
    (steps : List Step) (t : W × σ) (h : IsWhole (runEach (r.runChained depth) steps t).1)
    (hall : ∀ report ∈ (forEach r.execute steps t).1, report.outcome = .successful) :
    runEach (r.runChained depth) steps t = (.ok (), (forEach r.execute steps t).2) := by
  induction steps generalizing t with
  | nil => rfl
  | cons step rest ih =>
    rw [executeEach_cons] at hall ⊢
    obtain ⟨hfirst, hrest⟩ := List.forall_mem_cons.1 hall
    rcases r.runEach_cons_of_isWhole hdepth step rest t h with ⟨hfailed, -⟩ | ⟨-, hwhole, hrun⟩
    · exact absurd hfirst hfailed
    · rw [hrun, ih _ hwhole hrest]

/-- A whole chain stops after the first step that does not succeed by itself: it has done what the
steps up to this one do, and its error says what the record of this step says. -/
theorem runEach_of_failed (r : Registry W σ ν) {depth : Nat} (hdepth : depth ≤ r.chainLimit)
    (steps : List Step) (t : W × σ) (h : IsWhole (runEach (r.runChained depth) steps t).1)
    (passed : List StepReport) (report : StepReport) (rest : List StepReport)
    (hreports : (forEach r.execute steps t).1 = passed ++ report :: rest)
    (hpassed : ∀ p ∈ passed, p.outcome = .successful) (hfailed : report.outcome ≠ .successful) :
    ∃ e, runEach (r.runChained depth) steps t =
        (.error (.broken e), (forEach r.execute (steps.take (passed.length + 1)) t).2) ∧
      report.outcome = e.outcome ∧ report.error = e.detail? := by
  induction steps generalizing t passed with
  | nil => simp at hreports
  | cons step steps ih =>
    rw [executeEach_cons] at hreports
    rw [List.take_succ_cons, executeEach_cons]
    cases passed with
    | nil =>
      obtain ⟨rfl, -⟩ := List.cons.inj hreports
      rcases r.runEach_cons_of_isWhole hdepth step steps t h
        with ⟨-, e, hrun, hagrees⟩ | ⟨hsuccess, -⟩
      · exact ⟨e, by simpa using hrun, hagrees⟩
      · exact absurd hsuccess hfailed
    | cons first passed =>
      obtain ⟨rfl, hrest⟩ := List.cons.inj hreports
      obtain ⟨hfirst, hothers⟩ := List.forall_mem_cons.1 hpassed
      rcases r.runEach_cons_of_isWhole hdepth step steps t h with ⟨hstopped, -⟩ | ⟨-, hwhole, hrun⟩
      · exact absurd hfirst hstopped
      · obtain ⟨e, he, hagrees⟩ := ih _ hwhole passed hrest hothers
        exact ⟨e, by rw [hrun, he]; rfl, hagrees⟩

/-- Of records that are not all of success there is a first. -/
theorem exists_first_failed {reports : List StepReport}
    (h : ¬ ∀ report ∈ reports, report.outcome = .successful) :
    ∃ passed report rest, reports = passed ++ report :: rest ∧
      (∀ p ∈ passed, p.outcome = .successful) ∧ report.outcome ≠ .successful := by
  have hfind : (reports.find? fun report => report.outcome != .successful).isSome := by
    simpa [List.find?_isSome] using h
  obtain ⟨report, hreport⟩ := Option.isSome_iff_exists.1 hfind
  obtain ⟨hfailed, passed, rest, rfl, hpassed⟩ := List.find?_eq_some_iff_append.1 hreport
  exact ⟨passed, report, rest, rfl, by simpa using hpassed, by simpa using hfailed⟩

/-- A chain is the run of its steps by themselves, one after the other, up to the first that
does not succeed: it succeeds exactly if all of them do, with the state that they leave and the
entries that they write; and otherwise it has done what the steps up to the first failure do,
and its error says what the record of that step says. The step that asked for the chain
succeeds or fails with it. -/
theorem runChain_sequential (r : Registry W σ ν) (steps : List Step) (t : W × σ) {depth : Nat}
    (hdepth : depth ≤ r.chainLimit) (hwhole : IsWhole (runEach (r.runChained depth) steps t).1) :
    let chain := (r.runChain steps).run t
    let alone := fun steps => (forEach r.execute steps).run t
    (chain.1 = .ok () ↔ ∀ report ∈ (alone steps).1, report.outcome = .successful) ∧
    (chain.1 = .ok () → chain.2 = (alone steps).2) ∧
    (∀ passed report rest, (alone steps).1 = passed ++ report :: rest →
      (∀ p ∈ passed, p.outcome = .successful) → report.outcome ≠ .successful →
      ∃ e, chain = (.error (.broken e), (alone (steps.take (passed.length + 1))).2) ∧
        report.outcome = e.outcome ∧ report.error = e.detail?) ∧
    (∀ parent definition captures t₀ before, r.resolve parent.text = .unique definition captures →
      r.callStep definition captures parent.argument t₀ = (.ok (.chained steps), t, before) →
      ((r.execute parent).run t₀).2 = (chain.2.1, before ++ chain.2.2) ∧
      ((r.execute parent).run t₀).1.outcome =
        if ∀ report ∈ (alone steps).1,
          report.outcome = .successful then .successful else .failed) := by
  intro chain alone
  have hchain : chain = runEach (r.runChained depth) steps t :=
    runEach_of_isWhole (fun step t => r.runChained_of_le hdepth step t) steps t hwhole
  have hsuccessful := r.runEach_of_successful hdepth steps t hwhole
  have hfailed := r.runEach_of_failed hdepth steps t hwhole
  rw [← hchain] at hwhole hsuccessful hfailed
  have hiff : chain.1 = .ok () ↔ ∀ report ∈ (alone steps).1, report.outcome = .successful := by
    refine ⟨fun hok => ?_, fun hall => by rw [hsuccessful hall]⟩
    refine Decidable.byContradiction fun hnot => ?_
    obtain ⟨passed, report, rest, hreports, hpassed, hreport⟩ := exists_first_failed hnot
    obtain ⟨e, he, -⟩ := hfailed passed report rest hreports hpassed hreport
    rw [he] at hok
    exact nomatch hok
  refine ⟨hiff, fun hok => by rw [hsuccessful (hiff.1 hok)]; rfl, hfailed, ?_⟩
  · intro parent definition captures t₀ before hresolve hcall
    rw [Journaled.run_apply, execute_of_call hresolve hcall, invokedAfter, bind_apply,
      show r.runChain steps t = chain from rfl]
    rcases hresult : chain with ⟨result, t₂, after⟩
    rw [hresult] at hiff
    cases result with
    | ok _ =>
      rw [if_pos (hiff.1 rfl)]
      simp
    | error e =>
      rw [if_neg fun hall => nomatch hiff.2 hall]
      simp

/-- A step whose text is one letter. -/
def letterStep (c : Char) : Step := { keyword := .given, text := .singleton c }

/-- The definition of the steps whose text is one letter. -/
def letterDefinition (c : Char) (code : StepCode Nat Unit Unit) : StepDefinition Nat Unit Unit :=
  ⟨none, ⟨.singleton c, Pattern.written [.literal c], (Pattern.expr [.literal c]).program⟩, code⟩

/-- A step that counts. -/
def counting : StepDefinition Nat Unit Unit := letterDefinition 'c' fun _ => do
  change fun s => (s.1 + 1, s.2)
  return .done .completed

/-- A step that asks for two that count. -/
def doubling : StepDefinition Nat Unit Unit := letterDefinition 'd' fun _ =>
  return .done (.chained [letterStep 'c', letterStep 'c'])

/-- A registry of both. -/
def tally : Registry Nat Unit Unit where
  steps := [counting, doubling]
  chainLimit := 2

theorem isMatch_letterDefinition (c d : Char) (code : StepCode Nat Unit Unit) :
    (letterDefinition c code).pattern.isMatch (.singleton d) = (d == c) := by
  rw [letterDefinition, Pattern.isMatch_program]
  by_cases h : d = c <;> simp [Pattern.readings, h]

theorem captures_letterDefinition (c : Char) (code : StepCode Nat Unit Unit) :
    (letterDefinition c code).pattern.captures (.singleton c) = some [] := by
  rw [letterDefinition, Pattern.captures_program]
  simp [Pattern.readings]

/-- What the registry has for a letter. -/
theorem resolve_tally (c : Char) : tally.resolve (letterStep c).text =
    if c = 'c' then .unique counting [] else if c = 'd' then .unique doubling [] else .noMatch := by
  have hcounting : counting.pattern.isMatch (.singleton c) = (c == 'c') :=
    isMatch_letterDefinition ..
  have hdoubling : doubling.pattern.isMatch (.singleton c) = (c == 'd') :=
    isMatch_letterDefinition ..
  have hsteps : tally.matchingSteps (letterStep c).text =
      [counting, doubling].filter (·.pattern.isMatch (.singleton c)) := rfl
  rw [List.filter_cons, hcounting, List.filter_cons, hdoubling, List.filter_nil] at hsteps
  rw [resolve, hsteps]
  by_cases hc : c = 'c'
  · subst hc
    have hcaptures : counting.pattern.captures (letterStep 'c').text = some [] :=
      captures_letterDefinition ..
    simp [hcaptures]
  by_cases hd : c = 'd'
  · subst hd
    have hcaptures : doubling.pattern.captures (letterStep 'd').text = some [] :=
      captures_letterDefinition ..
    simp [hcaptures]
  · simp [hc, hd]

/-- A registry with the same steps has the same for a text. -/
theorem resolve_of_steps {r : Registry Nat Unit Unit} (hsteps : r.steps = tally.steps)
    (text : String) :
    r.resolve text = tally.resolve text := by
  rw [resolve, resolve, matchingSteps, matchingSteps, hsteps]

theorem runChained_counting {r : Registry Nat Unit Unit} (hsteps : r.steps = tally.steps)
    (depth : Nat) (t : Nat × Unit) :
    r.runChained (depth + 1) (letterStep 'c') t =
      (.ok (), (t.1 + 1, t.2), [.called (.step "c")]) := by
  rw [runChained_of_call ((resolve_of_steps hsteps _).trans (resolve_tally 'c')) rfl]
  rfl

/-- What is left and written by the two steps that a doubling step asks for. -/
theorem runEach_counting {r : Registry Nat Unit Unit} (hsteps : r.steps = tally.steps) (depth : Nat)
    (t : Nat × Unit) :
    runEach (r.runChained (depth + 1)) [letterStep 'c', letterStep 'c'] t =
      (.ok (), (t.1 + 2, t.2), ["c", "c"].map (.called <| .step ·)) := by
  simp [runEach, bind_apply, runChained_counting hsteps]

theorem callStep_doubling (r : Registry Nat Unit Unit) (t : Nat × Unit) :
    r.callStep doubling [] none t =
      (.ok (.chained [letterStep 'c', letterStep 'c']), t, [.called (.step "d")]) := rfl

theorem runChained_doubling (depth : Nat) (t : Nat × Unit) :
    tally.runChained (depth + 2) (letterStep 'd') t =
    (.ok (), (t.1 + 2, t.2), ["d", "c", "c"].map (.called <| .step ·)) := by
  rw [runChained_of_call (resolve_tally 'd') (tally.callStep_doubling t), chainedAfter, bind_apply,
    runEach_counting rfl]
  rfl

theorem runChained_other (depth : Nat) (t : Nat × Unit) :
    tally.runChained (depth + 1) (letterStep 'u') t =
      (.error (.broken (.undefined "u")), t, []) := by
  rw [runChained, resolve_tally]
  rfl

/-- Steps of which the third has no definition. -/
def tallySteps : List Step := ['d', 'c', 'u', 'c'].map letterStep

/-- A chain at work: it counts to three and stops at the step without a definition, as the
steps by themselves do. -/
theorem tally_sequential :
    2 ≤ tally.chainLimit ∧ IsWhole (runEach (tally.runChained 2) tallySteps (0, ())).1 ∧
    ∃ e, (tally.runChain tallySteps).run (0, ()) =
      (.error (.broken e), ((forEach tally.execute (tallySteps.take 3)).run (0, ())).2) ∧
        e.outcome = .undefined := by
  have hlimit : 2 ≤ tally.chainLimit := Nat.le_refl 2
  have hchained : (runEach (tally.runChained 2) tallySteps (0, ())).1 =
      .error (.broken (.undefined "u")) := by
    simp [tallySteps, runEach, bind_apply, runChained_doubling,
      runChained_counting rfl, runChained_other]
  have hwhole : IsWhole (runEach (tally.runChained 2) tallySteps (0, ())).1 := by
    rw [hchained]
    exact isWhole_broken _
  have hcounting : ∀ t, (tally.execute (letterStep 'c') t).1.outcome = .successful := fun t => by
    have h := tally.execute_of_isWhole hlimit (letterStep 'c') t
    rw [runChained_counting rfl] at h
    exact (h isWhole_ok).2
  have hdoubling : ∀ t, (tally.execute (letterStep 'd') t).1.outcome = .successful := fun t => by
    have h := tally.execute_of_isWhole hlimit (letterStep 'd') t
    rw [runChained_doubling] at h
    exact (h isWhole_ok).2
  have hother : ∀ t, (tally.execute (letterStep 'u') t).1.outcome = .undefined := fun t => by
    rw [execute, preview, resolve_tally]
    rfl
  have hreports : ∃ t₁ t₂ rest, ((forEach tally.execute tallySteps).run (0, ())).1 =
      [(tally.execute (letterStep 'd') (0, ())).1, (tally.execute (letterStep 'c') t₁).1] ++
        (tally.execute (letterStep 'u') t₂).1 :: rest := ⟨_, _, _, rfl⟩
  obtain ⟨_, t₂, _, hreports⟩ := hreports
  obtain ⟨-, -, hfailed, -⟩ := tally.runChain_sequential tallySteps (0, ()) hlimit hwhole
  obtain ⟨e, he, houtcome, -⟩ :=
    hfailed _ _ _ hreports (by simp [hdoubling, hcounting]) (by rw [hother]; decide)
  exact ⟨hlimit, hwhole, e, he, houtcome.symm.trans (hother t₂)⟩

end Registry

end Rehearsal
