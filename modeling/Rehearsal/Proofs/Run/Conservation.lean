import Rehearsal.Proofs.Run.Brackets
import Rehearsal.Proofs.Run.Faults

/-!
# Conservation of faults in whole runs

The records of scenarios are put together to those of features and these to the record of a run; on
each level the hooks around what is put together add their own failures. So the record of a run
keeps each fault of the run once, where it happened, and a run with a fault is fatal.
-/

namespace Rehearsal

open Journaled

variable {W σ ν α β : Type}

/-! ## Records of parts in order -/

/-- Records of items in order, together with the marks of the items, one item after the other. -/
inductive RecordedInOrder (Part : α → β → List Mark → Prop) : List α → List β → List Mark → Prop
  | nil : RecordedInOrder Part [] [] []
  | cons {a b items records before after} :
      Part a b before → RecordedInOrder Part items records after →
      RecordedInOrder Part (a :: items) (b :: records) (before ++ after)

/-- Computations for items in order give the records of the items in order. -/
theorem forEach_recordedInOrder {f : α → Journaled σ (Entry ν) β} (Part : α → β → List Mark → Prop)
    (items : List α) (h : ∀ a, (f a).Ensures fun b entries => Part a b (marks entries)) :
    (forEach f items).Ensures fun records entries =>
      RecordedInOrder Part items records (marks entries) := by
  refine Ensures.forEach (R := fun items records entries =>
    RecordedInOrder Part items records (marks entries))
    items (fun a _ => h a) .nil ?_
  intro a b before rest records after hbefore hafter
  rw [marks_append]
  exact .cons hbefore hafter

namespace RecordedInOrder

variable {Part : α → β → List Mark → Prop} {items : List α} {records : List β} {ms : List Mark}

/-- The faults that the records keep are those of all marks if each record
keeps those of its own. -/
theorem faults_perm {kept : β → List Fault} (h : RecordedInOrder Part items records ms)
    (hpart : ∀ a b m, Part a b m → (faults m).Perm (kept b)) :
    (faults ms).Perm (records.flatMap kept) := by
  induction h with
  | nil => exact .refl _
  | cons hfirst _ ih =>
    rw [faults_append, List.flatMap_cons]
    exact (hpart _ _ _ hfirst).append ih

/-- Each record is of an item. -/
theorem exists_of_mem (h : RecordedInOrder Part items records ms) {b : β} (hb : b ∈ records) :
    ∃ a ∈ items, ∃ m, Part a b m := by
  induction h with
  | nil => cases hb
  | @cons a b' items records before after hfirst _ ih =>
    rcases List.mem_cons.1 hb with rfl | hb
    · exact ⟨a, List.mem_cons_self, before, hfirst⟩
    · obtain ⟨a', ha', m, hm⟩ := ih hb
      exact ⟨a', List.mem_cons_of_mem _ ha', m, hm⟩

end RecordedInOrder

namespace Runner

/-! ## Features -/

/-- The boundaries around a feature. -/
structure AroundFeature (feature : String) (context : HookContext) : Prop where
  /-- The hooks see the feature. -/
  feature : context.feature = some feature
  /-- There is no scenario yet. -/
  scenario : context.scenario = none
  /-- The boundary is one of a feature. -/
  scope : context.scope ∈ [HookScope.beforeFeature, .afterFeature]

/-- The record of a feature keeps the faults of its marks: those of the hooks around the feature by
itself, those in between with the scenarios. -/
structure FeatureKeeps (r : Runner W σ ν) (feature : Feature) (report : FeatureReport)
    (ms : List Mark) :
    Prop where
  /-- The record is of the feature. -/
  name : report.name = feature.name
  /-- The marks of the hooks around the feature enclose those of its scenarios. -/
  parts : ∃ before inner after, ms = before ++ inner ++ after ∧
    Keeps (AroundFeature feature.name) (report.hookFailures.map HookFailure.fault)
      (before ++ after) ∧
    RecordedInOrder (ScenarioKeeps feature.name) (r.selected feature) report.scenarios inner

/-- The hooks of a boundary of a feature give their failures. -/
theorem fireAroundFeature_keeps (r : Runner W σ ν) (feature : Feature) (run : Bool)
    {scope : HookScope} (hscope : scope ∈ [HookScope.beforeFeature, .afterFeature]) :
    (r.fireAroundFeature feature run scope).Ensures fun failures entries =>
      Keeps (AroundFeature feature.name) (failures.map HookFailure.fault) (marks entries) := by
  cases run with
  | false => exact Ensures.pure .nil
  | true =>
    refine (r.fireOutside_keeps _).mono fun failures entries h => h.mono ?_
    rintro context rfl
    exact ⟨rfl, rfl, hscope⟩

/-- What becomes of a feature: it is recorded if one of its scenarios is selected, and its
record keeps all faults. -/
def FeatureSettled (r : Runner W σ ν) (feature : Feature) (result : Option FeatureReport)
    (ms : List Mark) :
    Prop :=
  match result with
  | none => r.hasSelected feature = false ∧ ms = []
  | some report => r.hasSelected feature = true ∧ r.FeatureKeeps feature report ms

/-- A feature that is run is settled, also if the run is blocked. -/
theorem featureReport_settled (r : Runner W σ ν) (hlive : r.dryRun = false) (feature : Feature)
    (suiteBlocked : Bool) :
    (r.featureReport feature suiteBlocked).Ensures fun result entries =>
      r.FeatureSettled feature result (marks entries) := by
  cases hselected : r.hasSelected feature with
  | false =>
    rw [r.featureReport_of_not_selected hselected]
    exact Ensures.pure ⟨hselected, rfl⟩
  | true =>
    rw [r.featureReport_of_selected hselected]
    refine (r.tell_marks _).bind fun _ first hfirst => ?_
    refine (r.fireAroundFeature_keeps feature _ (by simp)).bind fun before opening hopening => ?_
    have hscenarios := forEach_recordedInOrder (ScenarioKeeps feature.name) (r.selected feature)
      fun scenario => r.scenarioReport_keeps hlive feature.name scenario
        (suiteBlocked || !before.isEmpty)
    refine hscenarios.bind fun reports between hbetween => ?_
    refine (r.fireAroundFeature_keeps feature _ (by simp)).bind fun after closing hclosing => ?_
    refine (r.tell_marks _).bind fun _ last hlast => Ensures.pure ⟨hselected, rfl, ?_⟩
    refine ⟨marks opening, marks between, marks closing, ?_, ?_, hbetween⟩
    · simp only [marks_append, hfirst, hlast, List.nil_append, List.append_nil, List.append_assoc]
    · rw [List.map_append]
      exact hopening.append hclosing

/-- What is kept around and inside is kept of the whole. -/
theorem faults_perm_of_enclosing {At : HookContext → Prop} {own within : List Fault}
    {before inner after : List Mark} (hown : Keeps At own (before ++ after))
    (hinner : (faults inner).Perm within) :
    (faults (before ++ inner ++ after)).Perm (own ++ within) := by
  have hown := hown.perm
  rw [faults_append] at hown
  rw [faults_append, faults_append, List.append_assoc]
  refine (List.Perm.append_left _ List.perm_append_comm).trans ?_
  rw [← List.append_assoc]
  exact hown.append hinner

/-- Taken together, the record of a feature keeps all faults of its marks. -/
theorem FeatureKeeps.faults_perm {r : Runner W σ ν} {feature : Feature} {report : FeatureReport}
    {ms : List Mark} (h : r.FeatureKeeps feature report ms) : (faults ms).Perm report.faults := by
  obtain ⟨before, inner, after, rfl, hown, hscenarios⟩ := h.parts
  exact faults_perm_of_enclosing hown
    (hscenarios.faults_perm fun _ _ _ hscenario => hscenario.keeps.perm)

/-! ## Whole runs -/

/-- The boundaries around a run. -/
structure AroundSuite (context : HookContext) : Prop where
  /-- There is no feature yet. -/
  feature : context.feature = none
  /-- There is no scenario yet. -/
  scenario : context.scenario = none
  /-- The boundary is one of the run. -/
  scope : context.scope ∈ [HookScope.beforeSuite, .afterSuite]

/-- The record of a run keeps the faults of its marks: those of the hooks around the run by itself,
those in between with the features of which a scenario is selected. -/
def SuiteKeeps (r : Runner W σ ν) (features : List Feature) (report : SuiteReport)
    (ms : List Mark) : Prop :=
  ∃ before inner after, ms = before ++ inner ++ after ∧
    Keeps AroundSuite (report.hookFailures.map HookFailure.fault) (before ++ after) ∧
    RecordedInOrder r.FeatureKeeps (features.filter r.hasSelected) report.features inner

/-- Features without a record leave no marks, so that they may be left out. -/
theorem recordedInOrder_of_settled {r : Runner W σ ν} {features : List Feature}
    {results : List (Option FeatureReport)} {ms : List Mark}
    (h : RecordedInOrder r.FeatureSettled features results ms) :
    RecordedInOrder r.FeatureKeeps (features.filter r.hasSelected) (results.filterMap id) ms := by
  induction h with
  | nil => exact .nil
  | @cons feature result features results before after hfirst _ ih =>
    cases result with
    | none =>
      obtain ⟨hleft, rfl⟩ := hfirst
      rw [List.filter_cons_of_neg (by simp [hleft]), List.nil_append]
      exact ih
    | some report =>
      rw [List.filter_cons_of_pos hfirst.1]
      exact .cons hfirst.2 ih

/-- The hooks of a boundary of the run give their failures. -/
theorem fireAroundSuite_keeps (r : Runner W σ ν) {scope : HookScope}
    (hscope : scope ∈ [HookScope.beforeSuite, .afterSuite]) :
    (r.fireAroundSuite scope).Ensures fun failures entries =>
      Keeps AroundSuite (failures.map HookFailure.fault) (marks entries) := by
  unfold fireAroundSuite
  split
  · exact Ensures.pure .nil
  · refine (r.fireOutside_keeps _).mono fun failures entries h => h.mono ?_
    rintro context rfl
    exact ⟨rfl, rfl, hscope⟩

/-- A run keeps all its faults, and its record counts the steps of all features. -/
theorem run_keeps (r : Runner W σ ν) (hlive : r.dryRun = false) (features : List Feature) :
    (r.run features).Ensures fun report entries => r.SuiteKeeps features report (marks entries) ∧
      report = .ofFeatures report.features report.hookFailures r.strict := by
  rw [r.run_bracketed]
  refine (r.tell_marks _).bind fun _ first hfirst => ?_
  refine (r.fireAroundSuite_keeps (by simp)).bind fun before opening hopening => ?_
  have hfeatures := forEach_recordedInOrder r.FeatureSettled features
    fun feature => r.featureReport_settled hlive feature (!before.isEmpty)
  refine hfeatures.bind fun results between hbetween => ?_
  refine (r.fireAroundSuite_keeps (by simp)).bind fun after closing hclosing => ?_
  refine (r.tell_marks _).bind fun _ last hlast => Ensures.pure ⟨?_, rfl⟩
  refine ⟨marks opening, marks between, marks closing, ?_, ?_, recordedInOrder_of_settled hbetween⟩
  · simp only [marks_append, hfirst, hlast, List.nil_append, List.append_nil, List.append_assoc]
  · rw [SuiteReport.ofFeatures, List.map_append]
    exact hopening.append hclosing

/-- Taken together, the record of a run keeps all faults of its marks. -/
theorem SuiteKeeps.faults_perm {r : Runner W σ ν} {features : List Feature} {report : SuiteReport}
    {ms : List Mark} (h : r.SuiteKeeps features report ms) : (faults ms).Perm report.faults := by
  obtain ⟨before, inner, after, rfl, hown, hfeatures⟩ := h
  exact faults_perm_of_enclosing hown
    (hfeatures.faults_perm fun _ _ _ hfeature => hfeature.faults_perm)

/-- A record that keeps a fault is fatal: the fault is in a list of failures, or
it made a step fail. -/
theorem SuiteKeeps.hasFatal {r : Runner W σ ν} {features : List Feature} {report : SuiteReport}
    {ms : List Mark} (h : r.SuiteKeeps features report ms)
    (hcounts : report = .ofFeatures report.features report.hookFailures r.strict)
    (hfaulty : report.faults ≠ []) (strict : Bool) : report.hasFatal strict = true := by
  obtain ⟨fault, hfault⟩ := List.exists_mem_of_ne_nil _ hfaulty
  have hlisted : ∀ {failures : List HookFailure}, fault ∈ failures.map HookFailure.fault →
      failures ≠ [] := by
    rintro failures hmem rfl
    cases hmem
  rcases List.mem_append.1 hfault with hown | hinner
  · exact SuiteReport.hasFatal_of_hookFailures strict (hlisted hown)
  obtain ⟨feature, hfeature, hfault⟩ := List.mem_flatMap.1 hinner
  rcases List.mem_append.1 hfault with hown | hinner
  · exact SuiteReport.hasFatal_of_feature strict hfeature (hlisted hown)
  obtain ⟨scenario, hscenario, hfault⟩ := List.mem_flatMap.1 hinner
  rcases List.mem_append.1 hfault with hown | hinner
  · exact SuiteReport.hasFatal_of_scenario strict hfeature hscenario (hlisted hown)
  -- A step keeps the fault, so the step failed and is counted as such.
  obtain ⟨step, hstep, hfault⟩ := List.mem_flatMap.1 hinner
  obtain ⟨_, _, _, _, _, hfeatures⟩ := h
  obtain ⟨_, -, _, hkeeps⟩ := hfeatures.exists_of_mem hfeature
  obtain ⟨_, _, _, _, _, hscenarios⟩ := hkeeps.parts
  obtain ⟨_, -, _, hkeeps⟩ := hscenarios.exists_of_mem hscenario
  have hfailed := hkeeps.failed step hstep (List.ne_nil_of_mem hfault)
  rw [hcounts]
  exact SuiteReport.hasFatal_of_step hfeature hscenario hstep (by rw [hfailed]; rfl)

/-- No fault of a run is lost and none is kept twice: its record keeps those of the hooks
around the run with the run, those of the hooks around a feature with the feature, and all
others with the scenario in which they happened. A run with a fault ends with the exit code
one, whether or not it is strict. -/
theorem run_keepsFaults (r : Runner W σ ν) (hlive : r.dryRun = false) (features : List Feature)
    (s : σ) :
    (faults (marks ((r.run features).run s).2.2)).Perm ((r.run features).run s).1.faults ∧
    r.SuiteKeeps features ((r.run features).run s).1 (marks ((r.run features).run s).2.2) ∧
    (faults (marks ((r.run features).run s).2.2) ≠ [] →
      ((r.run features).run s).1.exitCode = 1 ∧
      ∀ strict, ((r.run features).run s).1.hasFatal strict = true) := by
  obtain ⟨hkeeps, hcounts⟩ := r.run_keeps hlive features s
  refine ⟨hkeeps.faults_perm, hkeeps, fun hfaulty => ?_⟩
  have hfatal := hkeeps.hasFatal hcounts fun hnone => hfaulty <| by
    have hperm := hkeeps.faults_perm
    rw [hnone] at hperm
    exact hperm.eq_nil
  exact ⟨if_pos (hfatal _), hfatal⟩

/-- A runner whose hooks around steps fail, and those after everything else. -/
def faulty : Runner Unit Unit Unit where
  registry := {
    hooks := [HookScope.beforeStep, .afterStep, .afterScenario, .afterFeature,
      .afterSuite].map fun scope =>
      ⟨scope, none, fun _ => pure (.failed { message := "broken" })⟩ }
  newWorld := (pure (.done ()) : Journaled Unit Unit (Verdict Unit))

/-- Conservation at work: the step keeps the fault before it and leaves the one after
it to its scenario. -/
theorem faulty_keepsFaults :
    faulty.dryRun = false ∧
    (faults (marks ((faulty.run [shortFeature]).run ()).2.2)).Perm
      ((faulty.run [shortFeature]).run ()).1.faults ∧
    faults (marks ((faulty.run [shortFeature]).run ()).2.2) =
      [(.beforeStep, "broken"), (.afterStep, "broken"), (.afterScenario, "broken"),
        (.afterFeature, "broken"),
       (.afterSuite, "broken")] ∧
    ((faulty.run [shortFeature]).run ()).1.hookFailures = [⟨.afterSuite, "broken", []⟩] ∧
    ((faulty.run [shortFeature]).run ()).1.exitCode = 1 := by
  obtain ⟨hperm, -, hfatal⟩ := faulty.run_keepsFaults rfl [shortFeature] ()
  have hfaults : faults (marks ((faulty.run [shortFeature]).run ()).2.2) =
      [(.beforeStep, "broken"), (.afterStep, "broken"), (.afterScenario, "broken"),
        (.afterFeature, "broken"),
       (.afterSuite, "broken")] := by rfl
  exact ⟨rfl, hperm, hfaults, by rfl, (hfatal (hfaults ▸ List.cons_ne_nil _ _)).1⟩

end Runner

end Rehearsal
