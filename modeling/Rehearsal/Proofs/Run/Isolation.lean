import Mathlib.Data.List.Flatten
import Rehearsal.Proofs.Run.Narration
import Rehearsal.Proofs.Run.Records
import Rehearsal.Proofs.Run.SelfContained

/-!
# Isolation

In a self-contained test suite nothing flows from one scenario to the next but whether a hook before
them has failed. So the record of a run is put together of the records that its features leave when
they are run alone, and the record of a feature of those that its scenarios leave when they are run
alone, as far as they are run at all.
-/

namespace Rehearsal

open Journaled

variable {W σ ν ε α β : Type}

/-! ## Parts of a list -/

/-- What is made of the items that are kept is made of each of them alone. -/
theorem map_filter_eq_flatMap (p : α → Bool) (g : α → β) (items : List α) :
    (items.filter p).map g = items.flatMap fun a => ([a].filter p).map g := by
  induction items with
  | nil => rfl
  | cons a rest ih =>
    have hsplit : (a :: rest).filter p = [a].filter p ++ rest.filter p :=
      List.filter_append [a] rest
    rw [hsplit, List.map_append, ih, List.flatMap_cons]

/-- Of fewer items, or of items in another order, no more is made. -/
theorem subperm_flatMap (f : α → List β) {items items' : List α} (h : items.Subperm items') :
    (items.flatMap f).Subperm (items'.flatMap f) := by
  obtain ⟨middle, hperm, hsublist⟩ := h
  exact ⟨middle.flatMap f, hperm.flatMap_right f, hsublist.flatMap f⟩

/-! ## What parts give anywhere -/

/-- A constant computation gives what it gives from any one state. -/
theorem Journaled.Constant.ensures {m : Journaled σ ε α} (hm : m.Constant) (s : σ) :
    m.Ensures fun a _ => a = (m s).1 := fun s' => hm.value s' s

/-- Computations for items in order, each of which gives what `g` says, give what
`g` says of each item. -/
theorem Journaled.Ensures.forEach_map {f : α → Journaled σ ε β} {g : α → β} (items : List α)
    (h : ∀ a, (f a).Ensures fun b _ => b = g a) :
    (forEach f items).Ensures fun bs _ => bs = items.map g := by
  refine Ensures.forEach (R := fun items bs _ => bs = items.map g) items (fun a _ => h a) rfl ?_
  intro a b _ rest bs _ hb hbs
  rw [hb, hbs, List.map_cons]

/-! ## Failures before a feature -/

/-- Neither before the run nor before the feature a hook has failed, as the records of both tell. -/
structure FeatureReport.Unblocked (report : FeatureReport) (suite : SuiteReport) : Prop where
  /-- No hook before the run has failed. -/
  suite : ∀ failure ∈ suite.hookFailures, failure.scope ≠ .beforeSuite
  /-- No hook before the feature has failed. -/
  feature : ∀ failure ∈ report.hookFailures, failure.scope ≠ .beforeFeature

/-- Failures of a scope of which there are none are none. -/
theorem AllOf.eq_nil {scope : HookScope} {failures : List HookFailure} (h : AllOf scope failures)
    (hnone : ∀ failure ∈ failures, failure.scope ≠ scope) : failures = [] :=
  List.eq_nil_iff_forall_not_mem.2 fun failure hmem => hnone failure hmem (h failure hmem)

namespace Runner

variable {r : Runner W σ ν}

/-- The failures of the hooks around a feature, run in the given surroundings. -/
def failuresAround (r : Runner W σ ν) (s : σ) (feature : Feature) (suiteBlocked : Bool)
    (scope : HookScope) :
    List HookFailure :=
  (r.fireAroundFeature feature (!suiteBlocked && !r.dryRun) scope s).1

/-- The record of a scenario of a feature, run in the given surroundings after the hooks
before the feature. -/
def scenarioIn (r : Runner W σ ν) (s : σ) (feature : Feature) (suiteBlocked : Bool)
    (scenario : Scenario) :
    ScenarioReport :=
  (r.scenarioReport feature.name scenario
    (suiteBlocked || !(r.failuresAround s feature suiteBlocked .beforeFeature).isEmpty) s).1

/-- The record of a feature each part of which is run in the given surroundings. -/
def featureIn (r : Runner W σ ν) (s : σ) (suiteBlocked : Bool)
    (feature : Feature) : FeatureReport :=
  { name := feature.name
    tags := feature.tags
    scenarios := (r.selected feature).map (r.scenarioIn s feature suiteBlocked)
    hookFailures := r.failuresAround s feature suiteBlocked .beforeFeature ++
      r.failuresAround s feature suiteBlocked .afterFeature }

/-- Whether the hooks before the run, run in the given surroundings, block it. -/
def blockedIn (r : Runner W σ ν) (s : σ) : Bool := !(r.fireAroundSuite .beforeSuite s).1.isEmpty

namespace SelfContained

/-- A feature of which a scenario is selected gives the record of its parts,
wherever these are run. -/
theorem featureReport_value (hr : r.SelfContained) (s : σ) (feature : Feature)
    (suiteBlocked : Bool) :
    (r.featureReport feature suiteBlocked).Ensures fun result _ =>
      result = if r.hasSelected feature then some (r.featureIn s suiteBlocked feature)
        else none := by
  cases hselected : r.hasSelected feature with
  | false =>
    rw [r.featureReport_of_not_selected hselected]
    exact Ensures.pure rfl
  | true =>
    rw [r.featureReport_of_selected hselected]
    refine (Ensures.any _).bind fun _ _ _ => ?_
    refine ((hr.fireAroundFeature feature _ rfl).ensures s).bind fun before _ hbefore => ?_
    have hscenarios := Ensures.forEach_map (r.selected feature) fun scenario =>
      (hr.holdsOfParts.scenarioReport feature.name scenario
        (suiteBlocked || !before.isEmpty)).ensures s
    refine hscenarios.bind fun reports _ hreports => ?_
    refine ((hr.fireAroundFeature feature _ rfl).ensures s).bind fun after _ hafter => ?_
    refine (Ensures.any _).bind fun _ _ _ => Ensures.pure ?_
    subst hbefore hreports hafter
    rfl

/-- A run gives the record of its parts, wherever these are run. -/
theorem run_value (hr : r.SelfContained) (s : σ) (features : List Feature) :
    (r.run features).Ensures fun report _ =>
      report = .ofFeatures ((features.filter r.hasSelected).map (r.featureIn s (r.blockedIn s)))
        ((r.fireAroundSuite .beforeSuite s).1 ++ (r.fireAroundSuite .afterSuite s).1) r.strict := by
  rw [r.run_bracketed]
  refine (Ensures.any _).bind fun _ _ _ => ?_
  refine ((hr.fireAroundSuite .beforeSuite).ensures s).bind fun before _ hbefore => ?_
  subst hbefore
  have hfeatures := Ensures.forEach_map features fun feature =>
    hr.featureReport_value s feature (r.blockedIn s)
  refine hfeatures.bind fun results _ hresults => ?_
  refine ((hr.fireAroundSuite .afterSuite).ensures s).bind fun after _ hafter => ?_
  refine (Ensures.any _).bind fun _ _ _ => Ensures.pure ?_
  subst hresults hafter
  rw [r.filterMap_selected]

end SelfContained

/-! ## Blocked features -/

/-- All failures of hooks around the run that are found are of the scope. -/
theorem fireAroundSuite_allOf (r : Runner W σ ν) (scope : HookScope) (s : σ) :
    AllOf scope (r.fireAroundSuite scope s).1 := by
  obtain ⟨_, -, -, hscope⟩ := r.fireAroundSuite_tells scope s
  exact hscope

/-- So are those around a feature. -/
theorem failuresAround_allOf (r : Runner W σ ν) (s : σ) (feature : Feature) (suiteBlocked : Bool)
    (scope : HookScope) :
    AllOf scope (r.failuresAround s feature suiteBlocked scope) := by
  obtain ⟨_, -, -, hscope⟩ := r.fireAroundFeature_tells feature (!suiteBlocked && !r.dryRun) scope s
  exact hscope

/-- In a feature that is not blocked, scenarios are run as they are run alone. -/
theorem scenarioIn_of_unblocked {s : σ} {feature : Feature} {suite : SuiteReport}
    (hsuite : ∀ failure ∈ (r.fireAroundSuite .beforeSuite s).1, failure ∈ suite.hookFailures)
    (h : (r.featureIn s (r.blockedIn s) feature).Unblocked suite) (scenario : Scenario) :
    r.scenarioIn s feature (r.blockedIn s) scenario =
      ((r.runScenario feature.name scenario).run s).1 := by
  have hbefore : (r.fireAroundSuite .beforeSuite s).1 = [] :=
    (r.fireAroundSuite_allOf .beforeSuite s).eq_nil fun failure hmem =>
      h.suite failure (hsuite failure hmem)
  have hblocked : r.blockedIn s = false := by
    rw [blockedIn, hbefore, List.isEmpty_nil, Bool.not_true]
  have hfeature : r.failuresAround s feature (r.blockedIn s) .beforeFeature = [] :=
    (r.failuresAround_allOf s feature _ .beforeFeature).eq_nil fun failure hmem =>
      h.feature failure (List.mem_append_left _ hmem)
  rw [scenarioIn, hfeature, hblocked]
  rfl

/-! ## Runs alone -/

/-- The records that a feature leaves when it is run alone: one, or none if no
scenario of it is selected. -/
def recordsAlone (r : Runner W σ ν) (s : σ) (feature : Feature) : List FeatureReport :=
  ((r.runFeature feature).run s).1.features

/-- The records that the scenarios of a feature leave when it is run alone. -/
def scenariosAlone (r : Runner W σ ν) (s : σ) (feature : Feature) : List ScenarioReport :=
  (r.recordsAlone s feature).flatMap FeatureReport.scenarios

/-- The scenarios of a feature are selected one definition after the other. -/
theorem selected_eq_flatMap (r : Runner W σ ν) (feature : Feature) :
    r.selected feature = feature.definitions.flatMap fun definition =>
      r.selected { feature with definitions := [definition] } := by
  simp only [selected, Feature.scenarios, List.map_flatMap, List.filter_flatMap, List.flatMap_cons,
    List.flatMap_nil, List.append_nil]
  rfl

namespace SelfContained

/-- Run alone, a feature leaves the record of its parts. -/
theorem recordsAlone_eq (hr : r.SelfContained) (s : σ) (feature : Feature) :
    r.recordsAlone s feature =
      ([feature].filter r.hasSelected).map (r.featureIn s (r.blockedIn s)) := by
  have hrun := hr.run_value s [feature] s
  rw [recordsAlone, Journaled.run_apply, runFeature, hrun]
  rfl

/-- Run alone, a feature leaves the records of its scenarios, which do not depend on each other. -/
theorem scenariosAlone_eq (hr : r.SelfContained) (s : σ) (feature : Feature) :
    r.scenariosAlone s feature =
      (r.selected feature).map (r.scenarioIn s feature (r.blockedIn s)) := by
  rw [scenariosAlone, hr.recordsAlone_eq]
  cases hselected : r.hasSelected feature with
  | false =>
    have hnone : r.selected feature = [] := by simpa [hasSelected] using hselected
    rw [hnone, List.filter_cons_of_neg (by simp [hselected])]
    rfl
  | true =>
    rw [List.filter_cons_of_pos hselected, List.filter_nil, List.map_singleton,
      List.flatMap_singleton]
    rfl

end SelfContained

/-- Scenarios are isolated from each other, and features, too, if the code of a test suite depends
on its worlds only. From whatever surroundings, a run records for each feature what it leaves when
it is run alone, and for each scenario of a feature that is not blocked what the scenario gives when
it is run alone. With fewer features, or in another order, there are as many of the same records,
and the same failures of hooks around the run. A feature that is run alone leaves the records that
its definitions leave one by one; with fewer of them, or in another order, there are as many of the
same records, and the same failures of hooks around the feature. -/
theorem run_isolates (r : Runner W σ ν) (hself : r.SelfContained) (features : List Feature)
    (s s' : σ) :
    let report := ((r.run features).run s).1
    report.features = features.flatMap (r.recordsAlone s') ∧
    List.Forall₂ (fun feature record => record.Unblocked report →
      record.scenarios = (r.selected feature).map fun scenario =>
        ((r.runScenario feature.name scenario).run s').1)
      (features.filter r.hasSelected) report.features ∧
    (∀ others, ((r.run others).run s').1.hookFailures = report.hookFailures ∧
      (others.Subperm features → ((r.run others).run s').1.features.Subperm report.features)) ∧
    ∀ feature : Feature,
      r.scenariosAlone s' feature = (feature.definitions.flatMap fun definition =>
        r.scenariosAlone s' { feature with definitions := [definition] }) ∧
      ∀ definitions,
        (∀ record ∈ r.recordsAlone s' feature,
          ∀ record' ∈ r.recordsAlone s' { feature with definitions },
            record'.hookFailures = record.hookFailures) ∧
        (definitions.Subperm feature.definitions →
          (r.scenariosAlone s' { feature with definitions }).Subperm
          (r.scenariosAlone s' feature)) := by
  intro report
  have hrun : ∀ list s, ((r.run list).run s).1 =
      .ofFeatures ((list.filter r.hasSelected).map (r.featureIn s' (r.blockedIn s')))
        ((r.fireAroundSuite .beforeSuite s').1 ++ (r.fireAroundSuite .afterSuite s').1) r.strict :=
    fun list => hself.run_value s' list
  have hfeatures : ∀ list s, ((r.run list).run s).1.features =
      list.flatMap (r.recordsAlone s') := by
    intro list s
    have halone : r.recordsAlone s' = fun feature =>
        ([feature].filter r.hasSelected).map (r.featureIn s' (r.blockedIn s')) :=
      funext (hself.recordsAlone_eq s')
    rw [hrun, halone, SuiteReport.ofFeatures, map_filter_eq_flatMap]
  have hdefinitions : ∀ feature : Feature,
      r.scenariosAlone s' feature = feature.definitions.flatMap fun definition =>
        r.scenariosAlone s' { feature with definitions := [definition] } := by
    intro feature
    simp only [hself.scenariosAlone_eq]
    rw [r.selected_eq_flatMap, List.map_flatMap]
    rfl
  refine ⟨hfeatures features s, ?_, fun others => ⟨?_, fun hothers => ?_⟩,
    fun feature => ⟨hdefinitions feature, ?_⟩⟩
  · have hreport : report = _ := hrun features s
    rw [show report.features = _ from congrArg SuiteReport.features hreport, SuiteReport.ofFeatures,
      List.forall₂_map_right_iff, List.forall₂_same]
    intro feature _ hunblocked
    refine List.map_congr_left fun scenario _ => ?_
    refine scenarioIn_of_unblocked (fun failure hmem => ?_) hunblocked scenario
    rw [hreport]
    exact List.mem_append_left _ hmem
  · rw [hrun others s', show report = _ from hrun features s]
    rfl
  · rw [hfeatures others s', show report.features = _ from hfeatures features s]
    exact subperm_flatMap _ hothers
  · intro definitions
    refine ⟨fun record hrecord record' hrecord' => ?_, fun hfewer => ?_⟩
    · rw [hself.recordsAlone_eq] at hrecord hrecord'
      obtain ⟨alone, halone, rfl⟩ := List.mem_map.1 hrecord
      obtain ⟨alone', halone', rfl⟩ := List.mem_map.1 hrecord'
      obtain rfl := List.mem_singleton.1 (List.mem_filter.1 halone).1
      obtain rfl := List.mem_singleton.1 (List.mem_filter.1 halone').1
      rfl
    · rw [hdefinitions feature, hdefinitions { feature with definitions }]
      exact subperm_flatMap _ hfewer

/-- A runner with a hook before scenarios that spoils the world and does not stand a
world that is spoilt. -/
def spoiling : Runner Bool Unit Unit where
  registry := { hooks := [⟨.beforeScenario, none, fun _ s =>
    (if s.1 = some true then .failed { message := "spoilt" } else .done (),
      (some true, s.2), [])⟩] }
  newWorld := (pure (.done false) : Journaled Unit Unit (Verdict Bool))

/-- The hook looks at the world only. -/
theorem spoiling_selfContained : spoiling.SelfContained where
  registry := {
    step := nofun
    transform := nofun
    tableTransform := nofun
    hook := fun h hmem context s s' hworld => by
      obtain rfl := List.mem_singleton.1 hmem
      have hworld : s.1 = s'.1 := hworld
      exact ⟨by simp only [hworld], rfl, rfl⟩ }
  newWorld := .pure _

/-- The world of the first scenario is spoilt, but not that of the second: both are
recorded as they are alone. -/
theorem spoiling_isolates :
    spoiling.SelfContained ∧
    ((spoiling.run [shortFeature, shortFeature]).run ()).1.features =
      spoiling.recordsAlone () shortFeature ++ spoiling.recordsAlone () shortFeature ∧
    (spoiling.recordsAlone () shortFeature).map FeatureReport.scenarios =
      [[((spoiling.runScenario "short" shortScenario).run ()).1]] ∧
    ((spoiling.runScenario "short" shortScenario).run ()).1.hookFailures = [] := by
  have h := spoiling.run_isolates spoiling_selfContained [shortFeature, shortFeature] () ()
  refine ⟨spoiling_selfContained, ?_, rfl, rfl⟩
  rw [h.1, List.flatMap_cons, List.flatMap_singleton]

end Runner

end Rehearsal
