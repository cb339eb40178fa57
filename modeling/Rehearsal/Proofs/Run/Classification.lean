import Rehearsal.Proofs.Registry.Built
import Rehearsal.Proofs.Run.Chain
import Rehearsal.Proofs.Run.StepCalls

/-!
# Outcomes of steps

What the definitions that are for a step make of it. With none or with several nothing happens. With
exactly one the step ends as its own code does: signals of others, of transforms or of steps that it
asks for, are failures.
-/

namespace Rehearsal

open Journaled

variable {W σ ν : Type}

/-- The error in the record of a step is of the kind that the outcome calls for. -/
structure ErrorFits (outcome : Outcome) (error : Option ErrorDetail) : Prop where
  /-- There is none for a step that succeeded, has no definition or was not run. -/
  absent : error = none ↔ outcome = .successful ∨ outcome = .undefined ∨ outcome = .skipped
  /-- A pending step has the signal. -/
  pending : (∃ message, error = some (.pending message)) ↔ outcome = .pending
  /-- An ambiguous step has the patterns. -/
  ambiguous : (∃ patterns, error = some (.ambiguous patterns)) ↔ outcome = .ambiguous
  /-- A failed step has the failure. -/
  failed : (∃ message causes details, error = some (.failed message causes details)) ↔
    outcome = .failed

namespace Registry

/-- The code of the definition `d` is called once, on the world that the transformation of its
arguments leaves, and comes to the verdict; `t'` is the world that is left then. -/
inductive RunsCode (r : Registry W σ ν) (d : StepDefinition W σ ν) (captures : List String)
    (below : Option StepArgument) (t : W × σ) (verdict : Verdict StepReturn) (t' : W × σ) :
    List (Entry ν) → Prop
  | intro {arguments : Arguments} {t₁ : W × σ} {before : List (Entry ν)} {notes : List ν}
    (harguments : r.transformArguments captures below t = (.ok arguments, t₁, before))
    (hcode : d.code arguments t₁ = (verdict, t', notes)) :
    RunsCode r d captures below t verdict t'
      (before ++ Entry.ofCall (.step d.pattern.source) notes verdict.guarded)

/-- How a step with the definition `d` ends on the world `t`: the outcome and the error in its
record, the world that is left, and the entries. -/
inductive Ends (r : Registry W σ ν) (d : StepDefinition W σ ν) (captures : List String)
    (below : Option StepArgument) (t : W × σ) :
    Outcome → Option ErrorDetail → W × σ → List (Entry ν) → Prop
  /-- With arguments that cannot be transformed it fails, and its code is not called. -/
  | untransformed {e : TransformError} {t' : W × σ} {entries : List (Entry ν)}
    (harguments : r.transformArguments captures below t = (.error e, t', entries))
    (hcalls : ∀ source, .step source ∉ calls entries) :
    Ends r d captures below t .failed (some (.ofTransformError e)) t' entries
  /-- When its code completes, it succeeds. -/
  | completed {t' : W × σ} {entries : List (Entry ν)}
    (hcode : r.RunsCode d captures below t (.done .completed) t' entries) :
    Ends r d captures below t .successful none t' entries
  /-- When its code fails with the signal, it is pending. -/
  | pending {t' : W × σ} {entries : List (Entry ν)} {f : Failure} {p : Pending}
    (hcode : r.RunsCode d captures below t (.failed f) t' entries) (hp : f.pending = some p) :
    Ends r d captures below t .pending (some (.pending p.message)) t' entries
  /-- When its code fails otherwise, it fails. -/
  | failed {t' : W × σ} {entries : List (Entry ν)} {f : Failure}
    (hcode : r.RunsCode d captures below t (.failed f) t' entries) (hp : f.pending = none) :
    Ends r d captures below t .failed
      (some (.failed f.message f.causes (some f.rendered))) t' entries
  /-- When its code panics, it fails. -/
  | panicked {t' : W × σ} {entries : List (Entry ν)} {payload : Option String}
    (hcode : r.RunsCode d captures below t (.panicked payload) t' entries) :
    Ends r d captures below t .failed
      (some (.failed ("panicked: " ++ payload.getD "non-string panic payload") []
        (some (Failure.ofPanic payload).rendered))) t' entries
  /-- When the steps that its code asks for succeed, it succeeds. -/
  | chained {t₁ t' : W × σ} {before after : List (Entry ν)} {steps : List Step}
    (hcode : r.RunsCode d captures below t (.done (.chained steps)) t₁ before)
    (hchain : r.runChain steps t₁ = (.ok (), t', after)) :
    Ends r d captures below t .successful none t' (before ++ after)
  /-- When one of them does not, it fails. -/
  | chainFailed {t₁ t' : W × σ} {before after : List (Entry ν)} {steps : List Step} {e : ChainError}
    (hcode : r.RunsCode d captures below t (.done (.chained steps)) t₁ before)
    (hchain : r.runChain steps t₁ = (.error (.broken e), t', after)) :
    Ends r d captures below t .failed (some (.ofChainError e)) t' (before ++ after)
  /-- A chain that does not end is cut off, and stands for a step that is never done. -/
  | chainCutOff {t₁ t' : W × σ} {before after : List (Entry ν)} {steps : List Step}
    (hcode : r.RunsCode d captures below t (.done (.chained steps)) t₁ before)
    (hchain : r.runChain steps t₁ = (.error .cutOff, t', after)) :
    Ends r d captures below t .failed (some ChainStop.cutOff.detail) t' (before ++ after)

/-- The record `report` of a step that was run on the world `t` tells what the definitions make of
it that are for it; `t'` is the world that is left. -/
structure Classifies (r : Registry W σ ν) (step : Step) (t : W × σ) (report : StepReport)
    (t' : W × σ) (entries : List (Entry ν)) : Prop where
  /-- The record is of the keyword of the step. -/
  keyword : report.keyword = step.keyword
  /-- The record is of the text of the step. -/
  text : report.text = step.text
  /-- The step is undefined if no definition is for it. -/
  undefined : report.outcome = .undefined ↔ r.matchingSteps step.text = []
  /-- Then there is nothing to tell of it, and nothing happens. -/
  ofNone : r.matchingSteps step.text = [] →
    report.error = none ∧ report.pattern = none ∧ report.arguments = [] ∧ t' = t ∧ entries = []
  /-- It is ambiguous if several are. -/
  ambiguous : report.outcome = .ambiguous ↔ 2 ≤ (r.matchingSteps step.text).length
  /-- Then these are listed in the order of registration, no source twice, and nothing happens. -/
  ofSeveral : 2 ≤ (r.matchingSteps step.text).length →
    report.error = some (.ambiguous ((r.matchingSteps step.text).map fun d => d.pattern.source)) ∧
      ((r.matchingSteps step.text).map fun d => d.pattern.source).Nodup ∧
      ((r.matchingSteps step.text).map fun d => d.pattern.source).Sublist
        (r.steps.map fun d => d.pattern.source) ∧
      report.pattern = none ∧ report.arguments = [] ∧ t' = t ∧ entries = []
  /-- If exactly one is, its match is told, and the step ends as its code does. -/
  ofOne : ∀ d, r.matchingSteps step.text = [d] →
    ∃ captures, d.pattern.captures step.text = some captures ∧
    report.pattern = some d.pattern.source ∧ report.arguments = captures ∧
    r.Ends d captures step.argument t report.outcome report.error t' entries
  /-- It is pending only by a signal of this code. -/
  pending : report.outcome = .pending ↔ ∃ d captures f t₁ before, r.matchingSteps step.text = [d] ∧
    d.pattern.captures step.text = some captures ∧
    r.RunsCode d captures step.argument t (.failed f) t₁ before ∧
    f.pending.isSome = true

variable {r : Registry W σ ν} {d : StepDefinition W σ ν} {captures : List String}
  {below : Option StepArgument} {t t₁ t₂ : W × σ} {before : List (Entry ν)}

/-- A failure with the signal makes a step pending. -/
theorem invokedAfter_of_pending {f : Failure} {p : Pending} (h : f.pending = some p) :
    r.invokedAfter (.error (.failure f)) = pure (.pending, some (.pending p.message)) := by
  rw [invokedAfter, h]

/-- Any other failure makes it fail. -/
theorem invokedAfter_of_failure {f : Failure} (h : f.pending = none) :
    r.invokedAfter (.error (.failure f)) = pure (.failed, some (.ofFailure f)) := by
  rw [invokedAfter, h]

/-- A step whose code is called ends as the code does, or as the steps do that it asks for. -/
theorem RunsCode.ends {verdict : Verdict StepReturn}
    (h : r.RunsCode d captures below t verdict t₁ before) :
    r.Ends d captures below t (r.invokedAfter (verdict.guarded.mapError .failure) t₁).1.1
      (r.invokedAfter (verdict.guarded.mapError .failure) t₁).1.2
      (r.invokedAfter (verdict.guarded.mapError .failure) t₁).2.1
      (before ++ (r.invokedAfter (verdict.guarded.mapError .failure) t₁).2.2) := by
  match verdict with
  | .done .completed =>
    rw [Verdict.guarded, Except.mapError, invokedAfter, pure_apply, List.append_nil]
    exact .completed h
  | .done (.chained steps) =>
    rw [Verdict.guarded, Except.mapError, invokedAfter, bind_apply]
    rcases hchain : r.runChain steps t₁ with ⟨(e | _) | _, t₂, after⟩
    all_goals
      dsimp only
      rw [pure_apply, List.append_nil]
    · exact .chainFailed h hchain
    · exact .chainCutOff h hchain
    · exact .chained h hchain
  | .failed f =>
    rw [Verdict.guarded, Except.mapError]
    cases hp : f.pending with
    | none =>
      rw [invokedAfter_of_failure hp, pure_apply, List.append_nil]
      exact .failed h hp
    | some p =>
      rw [invokedAfter_of_pending hp, pure_apply, List.append_nil]
      exact .pending h hp
  | .panicked payload =>
    rw [Verdict.guarded, Except.mapError, invokedAfter_of_failure rfl, pure_apply, List.append_nil]
    exact .panicked h

/-- A step that has one definition ends in one of these ways. -/
theorem execute_ends {step : Step} (hresolve : r.resolve step.text = .unique d captures)
    (t : W × σ) :
    ∃ outcome error, (r.execute step t).1 =
        { keyword := step.keyword, text := step.text, outcome, error, arguments := captures
          pattern := some d.pattern.source } ∧
      r.Ends d captures step.argument t outcome error (r.execute step t).2.1
        (r.execute step t).2.2 := by
  rcases harguments : r.transformArguments captures step.argument t with ⟨result, t₁, before⟩
  cases result with
  | error e =>
    have hcalls := r.transformArguments_isTransform captures step.argument t
    rw [harguments] at hcalls
    rw [execute_of_call hresolve (callStep_of_error harguments)]
    refine ⟨_, _, rfl, ?_⟩
    rw [invokedAfter, pure_apply, List.append_nil]
    exact .untransformed harguments fun source hmem => Bool.false_ne_true (hcalls _ hmem)
  | ok arguments =>
    rcases hcode : d.code arguments t₁ with ⟨verdict, t₂, notes⟩
    rw [execute_of_call hresolve (callStep_of_ok harguments hcode)]
    exact ⟨_, _, rfl, (RunsCode.intro harguments hcode).ends⟩

/-- The only definition that is for a text is found. -/
theorem resolve_of_one {text : String} (h : r.matchingSteps text = [d]) :
    ∃ captures, d.pattern.captures text = some captures ∧ r.resolve text = .unique d captures := by
  have hmem : d ∈ r.matchingSteps text := h ▸ List.mem_singleton_self d
  obtain ⟨captures, hcaptures, -⟩ := Pattern.exists_captures (List.mem_filter.1 hmem).2
  exact ⟨captures, hcaptures, by rw [resolve, h]; simp [hcaptures]⟩

/-- Several are found together. -/
theorem resolve_of_several {text : String} (h : 2 ≤ (r.matchingSteps text).length) :
    r.resolve text = .ambiguous (r.matchingSteps text) := by
  rw [resolve]
  split
  · next hnone => simp [hnone] at h
  · next hone => simp [hone] at h
  · rfl

variable {outcome : Outcome} {error : Option ErrorDetail} {t' : W × σ} {entries : List (Entry ν)}

/-- A step with a definition is neither undefined nor ambiguous. -/
theorem Ends.outcome_eq (h : r.Ends d captures below t outcome error t' entries) :
    outcome = .successful ∨ outcome = .failed ∨ outcome = .pending := by
  cases h <;> simp

theorem Ends.errorFits (h : r.Ends d captures below t outcome error t' entries) :
    ErrorFits outcome error := by
  cases h <;>
    constructor <;> simp [ErrorDetail.ofTransformError, ErrorDetail.ofChainError, ChainStop.detail]

/-- The code comes to one verdict. -/
theorem RunsCode.verdict_eq {verdict verdict' : Verdict StepReturn} {after : List (Entry ν)}
    (h : r.RunsCode d captures below t verdict t₁ before)
    (h' : r.RunsCode d captures below t verdict' t₂ after) :
    verdict = verdict' := by
  obtain ⟨harguments, hcode⟩ := h
  obtain ⟨harguments', hcode'⟩ := h'
  simp only [harguments, Prod.mk.injEq, Except.ok.injEq] at harguments'
  obtain ⟨rfl, rfl, -⟩ := harguments'
  exact (Prod.mk.inj (hcode.symm.trans hcode')).1

/-- The code is not called without arguments. -/
theorem RunsCode.arguments_ne_error {verdict : Verdict StepReturn} {e : TransformError}
    (h : r.RunsCode d captures below t verdict t₁ before) :
    (r.transformArguments captures below t).1 ≠ .error e := by
  obtain ⟨harguments, -⟩ := h
  rw [harguments]
  exact nofun

/-- Only a signal of its own code makes a step pending. -/
theorem Ends.pending_iff (h : r.Ends d captures below t outcome error t' entries) :
    outcome = .pending ↔ ∃ f t₁ before, r.RunsCode d captures below t (.failed f) t₁ before ∧
    f.pending.isSome = true := by
  constructor
  · rintro rfl
    cases h with
    | pending hcode hp => exact ⟨_, _, _, hcode, Option.isSome_of_eq_some hp⟩
  · rintro ⟨f, t₁, before, hcode, hp⟩
    cases h with
    | untransformed harguments _ =>
      exact absurd (congrArg Prod.fst harguments) hcode.arguments_ne_error
    | completed hcode' => cases hcode.verdict_eq hcode'
    | pending _ _ => rfl
    | failed hcode' hnone =>
      cases hcode.verdict_eq hcode'
      rw [hnone] at hp
      cases hp
    | panicked hcode' => cases hcode.verdict_eq hcode'
    | chained hcode' _ => cases hcode.verdict_eq hcode'
    | chainFailed hcode' _ => cases hcode.verdict_eq hcode'
    | chainCutOff hcode' _ => cases hcode.verdict_eq hcode'

/-- A step without definition does nothing, and its record is that of looking it up. -/
theorem execute_of_none {step : Step} (h : r.matchingSteps step.text = []) (t : W × σ) :
    r.execute step t = ({ StepReport.skipped step with outcome := .undefined }, t, []) := by
  have hresolve : r.resolve step.text = .noMatch := by rw [resolve, h]
  rw [execute, preview, hresolve]
  rfl

theorem execute_of_several {step : Step} (h : 2 ≤ (r.matchingSteps step.text).length) (t : W × σ) :
    r.execute step t = ({ StepReport.skipped step with
      outcome := .ambiguous
      error := some (.ambiguous ((r.matchingSteps step.text).map fun d => d.pattern.source)) },
      t, []) := by
  rw [execute, preview, resolve_of_several h]
  rfl

/-- The record of a step that is looked up only has the error that its outcome calls for. -/
theorem preview_errorFits (r : Registry W σ ν) (step : Step) :
    ErrorFits (r.preview step).outcome (r.preview step).error := by
  rw [preview]
  cases r.resolve step.text <;> constructor <;> simp [StepReport.skipped]

theorem classifies_of_none {step : Step} (h : r.matchingSteps step.text = []) (t : W × σ) :
    r.Classifies step t { StepReport.skipped step with outcome := .undefined } t [] where
  keyword := rfl
  text := rfl
  undefined := iff_of_true rfl h
  ofNone _ := ⟨rfl, rfl, rfl, rfl, rfl⟩
  ambiguous := by simp [h]
  ofSeveral hseveral := by simp [h] at hseveral
  ofOne d hone := by simp [h] at hone
  pending := by simp [h]

theorem classifies_of_several {step : Step} (hdistinct : r.Distinct)
    (h : 2 ≤ (r.matchingSteps step.text).length) (t : W × σ) :
    r.Classifies step t { StepReport.skipped step with
      outcome := .ambiguous
      error := some (.ambiguous ((r.matchingSteps step.text).map fun d => d.pattern.source)) }
      t [] where
  keyword := rfl
  text := rfl
  undefined := iff_of_false nofun fun hnone => by simp [hnone] at h
  ofNone hnone := by simp [hnone] at h
  ambiguous := iff_of_true rfl h
  ofSeveral _ := ⟨rfl, hdistinct.matchingSteps step.text, List.filter_sublist.map _, rfl,
    rfl, rfl, rfl⟩
  ofOne d hone := by simp [hone] at h
  pending := iff_of_false nofun fun ⟨d, _, _, _, _, hone, _⟩ => by simp [hone] at h

theorem classifies_of_one {step : Step} (h : r.matchingSteps step.text = [d])
    (hcaptures : d.pattern.captures step.text = some captures)
    (hends : r.Ends d captures step.argument t outcome error t' entries) :
    r.Classifies step t
      { keyword := step.keyword, text := step.text, outcome, error, arguments := captures
        pattern := some d.pattern.source } t' entries where
  keyword := rfl
  text := rfl
  undefined := by rcases hends.outcome_eq with rfl | rfl | rfl <;> simp [h]
  ofNone hnone := by simp [h] at hnone
  ambiguous := by rcases hends.outcome_eq with rfl | rfl | rfl <;> simp [h]
  ofSeveral hseveral := by simp [h] at hseveral
  ofOne d' hone := by
    obtain ⟨rfl, -⟩ := List.cons.inj (h.symm.trans hone)
    exact ⟨captures, hcaptures, rfl, rfl, hends⟩
  pending := by
    rw [hends.pending_iff]
    constructor
    · rintro ⟨f, t₁, before, hcode⟩
      exact ⟨d, captures, f, t₁, before, h, hcaptures, hcode⟩
    · rintro ⟨d', captures', f, t₁, before, hone, hcaptures', hcode⟩
      obtain ⟨rfl, -⟩ := List.cons.inj (h.symm.trans hone)
      obtain rfl := Option.some.inj (hcaptures.symm.trans hcaptures')
      exact ⟨f, t₁, before, hcode⟩

/-- The record of a step that is run tells exactly what its definitions make of it, and has the
error that its outcome calls for; so has the record of a step that is looked up only. -/
theorem execute_classifies (h : r.Built) (step : Step) (t : W × σ) :
    r.Classifies step t (r.execute step t).1 (r.execute step t).2.1 (r.execute step t).2.2 ∧
    ErrorFits (r.execute step t).1.outcome (r.execute step t).1.error ∧
    ErrorFits (r.preview step).outcome (r.preview step).error := by
  rw [← and_assoc]
  refine ⟨?_, r.preview_errorFits step⟩
  rcases hfound : r.matchingSteps step.text with _ | ⟨d, _ | ⟨d', ds⟩⟩
  · rw [execute_of_none hfound]
    exact ⟨classifies_of_none hfound t, by constructor <;> simp [StepReport.skipped]⟩
  · obtain ⟨captures, hcaptures, hresolve⟩ := resolve_of_one hfound
    obtain ⟨outcome, error, hreport, hends⟩ := execute_ends hresolve t
    rw [hreport]
    exact ⟨classifies_of_one hfound hcaptures hends, hends.errorFits⟩
  · have hseveral : 2 ≤ (r.matchingSteps step.text).length := by simp [hfound]
    rw [execute_of_several hseveral]
    exact ⟨classifies_of_several h.distinct hseveral t, by constructor <;> simp⟩

/-- A sentence about what is shipped. -/
def shipment : List Pattern.Piece := "ship ".toList.map .literal ++ [.placeholder "goods" none]

/-- A step that is still to be written, which its code says with a word of its own. -/
def shipmentStep : StepDefinition Unit Unit Unit where
  keyword := none
  pattern := ⟨"ship \x7bgoods\x7d", Pattern.written shipment, (Pattern.expr shipment).program⟩
  code _ := pure (.failed (.wrap "no harbour" (.ofPending ⟨some "later"⟩)))

/-- A registry with this step. -/
def shipmentRegistry : Registry Unit Unit Unit := { steps := [shipmentStep] }

theorem compile_shipment : Pattern.compile "ship \x7bgoods\x7d" = .ok shipmentStep.pattern := by
  have hpieces : Pattern.pieces "ship \x7bgoods\x7d".toList = .ok shipment := by decide +kernel
  rw [Pattern.compile_of_pieces (by decide) hpieces]
  exact if_pos (Regex.Expr.fits_of_room rfl (by decide +kernel))

theorem built_shipmentRegistry : shipmentRegistry.Built := by
  have hadd : addStep {} none "ship \x7bgoods\x7d" shipmentStep.code = .ok shipmentRegistry := by
    rw [addStep, claim, compile_shipment]
    rfl
  exact .step (.empty 1000000) hadd

theorem isMatch_shipment : shipmentStep.pattern.isMatch "ship apples" = true := by
  have hreadings : Pattern.readings shipment "ship apples".toList = [["apples".toList]] := by
    decide +kernel
  rw [shipmentStep, Pattern.isMatch_program, hreadings]
  rfl

theorem captures_shipment : shipmentStep.pattern.captures "ship apples" = some ["apples"] := by
  have hreadings : Pattern.readings shipment "ship apples".toList = [["apples".toList]] := by
    decide +kernel
  rw [shipmentStep, Pattern.captures_program, hreadings]
  rfl

theorem shipment_classifies : shipmentRegistry.Built ∧
    (shipmentRegistry.execute ⟨.given, "ship apples", none⟩ ((), ())).1.outcome = .pending := by
  refine ⟨built_shipmentRegistry, ?_⟩
  have hone : shipmentRegistry.matchingSteps "ship apples" = [shipmentStep] :=
    List.filter_cons_of_pos isMatch_shipment
  obtain ⟨hclassifies, -⟩ :=
    execute_classifies built_shipmentRegistry ⟨.given, "ship apples", none⟩ ((), ())
  exact hclassifies.pending.2
    ⟨shipmentStep, ["apples"], _, _, _, hone, captures_shipment, .intro rfl rfl, rfl⟩

end Registry

end Rehearsal
