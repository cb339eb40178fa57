import Rehearsal.Proofs.Model.Flattening
import Rehearsal.Proofs.Run.Actions

/-!
# Selection beforehand

A runner flattens features and selects scenarios as it goes on. Both can be done before the run: a
runner without a filter then does the same on features that have the selected scenarios as plain
ones. So scenarios that are not selected have no part in a run, and a feature that is left without a
scenario is counted when the run starts and is not seen again.
-/

namespace Rehearsal

open Journaled

variable {W σ ν ε α β : Type}

/-- Items for which nothing is given, and nothing done, may be left out. -/
theorem Journaled.filterMap_forEach_filter {f : α → Journaled σ ε (Option β)} (p : α → Bool)
    (hnone : ∀ a, p a = false → f a = pure none) (items : List α) :
    List.filterMap id <$> forEach f (items.filter p) = List.filterMap id <$> forEach f items := by
  induction items with
  | nil => rfl
  | cons a rest ih =>
    -- What the rest gives is asked for in the same way, whether the first item stays or not.
    have hrest : List.filterMap id <$> forEach f (a :: rest) = (do
        let b ← f a
        let bs ← List.filterMap id <$> forEach f rest
        return List.filterMap id [b] ++ bs) := by
      rw [forEach_cons]
      simp only [map_eq_pure_bind, bind_assoc, pure_bind, ← List.filterMap_append,
        List.singleton_append]
    cases hp : p a with
    | true =>
      rw [List.filter_cons_of_pos hp, hrest, ← ih, forEach_cons]
      simp only [map_eq_pure_bind, bind_assoc, pure_bind, ← List.filterMap_append,
        List.singleton_append]
    | false =>
      rw [List.filter_cons_of_neg (by simp [hp]), hrest, ih, hnone a hp, pure_bind]
      exact (bind_pure _).symm

namespace Runner

/-! ## Features -/

/-- The runner that selects every scenario. -/
def unfiltered (r : Runner W σ ν) : Runner W σ ν := { r with filter := none }

/-- The feature with the scenarios that the runner selects, flattened, and without a background. -/
def preselected (r : Runner W σ ν) (feature : Feature) : Feature :=
  feature.withScenarios (r.selected feature)

/-- Without a filter a runner does the same for what it selects. -/
theorem unfiltered_actsLike (r : Runner W σ ν) : r.unfiltered.ActsLike r := ⟨rfl, rfl, rfl, rfl⟩

/-- What has been selected beforehand is what is selected. -/
theorem selected_preselected (r : Runner W σ ν) (feature : Feature) :
    r.unfiltered.selected (r.preselected feature) = r.selected feature := by
  have hall : ∀ scenario, r.unfiltered.selects scenario = true := fun _ => rfl
  have hscenarios : (r.preselected feature).scenarios = r.selected feature :=
    Feature.scenarios_withScenarios fun s hs => (List.mem_filter.1 hs).1
  rw [selected, hscenarios, List.filter_eq_self]
  exact fun scenario _ => hall scenario

/-- A feature is run in the same way if its scenarios have been selected beforehand. -/
theorem featureReport_preselected (r : Runner W σ ν) (feature : Feature) (suiteBlocked : Bool) :
    r.unfiltered.featureReport (r.preselected feature) suiteBlocked =
      r.featureReport feature suiteBlocked := by
  have hacts := r.unfiltered_actsLike
  have hselected := r.selected_preselected feature
  have hsame : r.unfiltered.hasSelected (r.preselected feature) = r.hasSelected feature := by
    rw [hasSelected, hselected, hasSelected]
  have hhooks : ∀ run scope, r.unfiltered.fireAroundFeature (r.preselected feature) run scope =
      r.fireAroundFeature feature run scope :=
        fun run scope => hacts.fireAroundFeature feature run scope
  cases hnone : r.hasSelected feature with
  | false =>
    rw [r.featureReport_of_not_selected hnone, featureReport_of_not_selected _ (hsame.trans hnone)]
  | true =>
    rw [r.featureReport_of_selected hnone,
      featureReport_of_selected _ (hsame.trans hnone), hselected]
    simp only [hacts.tell, hhooks, hacts.dryRun, hacts.scenarioReport rfl]
    rfl

/-! ## Runs -/

/-- The records of features one after the other. -/
def recordFeatures (r : Runner W σ ν) (features : List Feature) (suiteBlocked : Bool) :
    Journaled σ (Entry ν) (List FeatureReport) :=
  List.filterMap id <$> forEach (fun feature => r.featureReport feature suiteBlocked) features

/-- What a run does after its observers have been told of its start. -/
def runStarted (r : Runner W σ ν) (features : List Feature) :
    Journaled σ (Entry ν) SuiteReport := do
  let before ← r.fireAroundSuite .beforeSuite
  let reports ← r.recordFeatures features (!before.isEmpty)
  let after ← r.fireAroundSuite .afterSuite
  let report := SuiteReport.ofFeatures reports (before ++ after) r.strict
  r.tell (.suiteFinished report.counts)
  return report

/-- A run starts and goes on. -/
theorem run_eq_runStarted (r : Runner W σ ν) (features : List Feature) :
    r.run features = (do
      r.tell (.suiteStarted features.length)
      r.runStarted features) := by
  simp only [r.run_bracketed, runStarted, recordFeatures, bind_map_left]

/-- The records are the same if the scenarios have been selected beforehand. -/
theorem recordFeatures_preselected (r : Runner W σ ν) (features : List Feature)
    (suiteBlocked : Bool) :
    r.unfiltered.recordFeatures (features.map r.preselected) suiteBlocked =
      r.recordFeatures features suiteBlocked := by
  have hsame : forEach (fun feature => r.unfiltered.featureReport feature suiteBlocked)
      (features.map r.preselected) =
      forEach (fun feature => r.featureReport feature suiteBlocked) features := by
    induction features with
    | nil => rw [List.map_nil, forEach_nil, forEach_nil]
    | cons feature rest ih =>
      rw [List.map_cons, forEach_cons, forEach_cons, r.featureReport_preselected, ih]
  rw [recordFeatures, hsame, recordFeatures]

/-- Features of which no scenario is selected leave no record, and nothing is done for them. -/
theorem recordFeatures_filter (r : Runner W σ ν) (features : List Feature) (suiteBlocked : Bool) :
    r.recordFeatures (features.filter r.hasSelected) suiteBlocked =
      r.recordFeatures features suiteBlocked :=
  filterMap_forEach_filter r.hasSelected
    (fun _ hnone => r.featureReport_of_not_selected hnone suiteBlocked) features

/-- Selection and flattening can be done before a run. A runner without a filter does the same, from
every state of the surroundings, on features that have the selected scenarios, flattened, as plain
ones, and no background: it gives the same record, leaves the same surroundings and writes the same
journal, with each call of code and each event. Of the features of which no scenario is selected the
run knows no more than that they are counted when it starts: what it does from then on it does for
the others alone, and for these with the selected scenarios alone. -/
theorem run_preselected (r : Runner W σ ν) (features : List Feature) :
    r.run features = r.unfiltered.run (features.map r.preselected) ∧
    r.run features = (do
      r.tell (.suiteStarted features.length)
      r.unfiltered.runStarted ((features.filter r.hasSelected).map r.preselected)) := by
  have hacts := r.unfiltered_actsLike
  have hstarted : ∀ list : List Feature, r.unfiltered.runStarted (list.map r.preselected) =
      r.runStarted list := by
    intro list
    simp only [runStarted, hacts.fireAroundSuite, r.recordFeatures_preselected, hacts.tell]
    rfl
  have hfiltered : r.runStarted (features.filter r.hasSelected) = r.runStarted features := by
    simp only [runStarted, r.recordFeatures_filter]
  refine ⟨?_, ?_⟩
  · rw [r.run_eq_runStarted, run_eq_runStarted, hstarted, hacts.tell, List.length_map]
  · rw [r.run_eq_runStarted, hstarted, hfiltered]

end Runner

end Rehearsal
