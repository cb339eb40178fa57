import Rehearsal.Proofs.Report.Counting

/-!
# What makes a record fatal

A counter is positive exactly if something has been counted, however the counts are added up; so a
step with a fatal outcome makes the record of the run fatal, wherever it is.
-/

namespace Rehearsal

namespace OutcomeCounts

/-- The counter of an outcome is positive if the outcome has been counted: no
clamp makes it zero. -/
theorem ofList_pos (outcomes : List Outcome) (o : Outcome) :
    0 < ((ofList outcomes).get o).value ↔ o ∈ outcomes := by
  have hlimit : 0 < Tally.limit := by decide
  rw [get_ofList, ← List.count_pos_iff]
  change 0 < min Tally.limit (outcomes.count o) ↔ _
  omega

/-- A fatal outcome that has been counted makes counts fatal. -/
theorem hasFatal_of_pos {c : OutcomeCounts} {o : Outcome} {strict : Bool}
    (hpos : 0 < (c.get o).value) (hfatal : o.isFatal strict = true) : c.hasFatal strict = true := by
  cases o with
  | failed => simp [hasFatal, show 0 < c.failed.value from hpos]
  | ambiguous => simp [hasFatal, show 0 < c.ambiguous.value from hpos]
  | undefined =>
    obtain rfl : strict = true := hfatal
    simp [hasFatal, show 0 < c.undefined.value from hpos]
  | pending =>
    obtain rfl : strict = true := hfatal
    simp [hasFatal, show 0 < c.pending.value from hpos]
  | successful => cases hfatal
  | skipped => cases hfatal

end OutcomeCounts

namespace SuiteReport

/-- A step that ends fatally makes the record of the run fatal. -/
theorem hasFatal_of_step {features : List FeatureReport} {hookFailures : List HookFailure}
    {strict strict' : Bool} {feature : FeatureReport} (hfeature : feature ∈ features)
    {scenario : ScenarioReport} (hscenario : scenario ∈ feature.scenarios) {step : StepReport}
    (hstep : step ∈ scenario.steps) (hfatal : step.outcome.isFatal strict' = true) :
    (ofFeatures features hookFailures strict).hasFatal strict' = true := by
  have hcounts : 0 < ((ofFeatures features hookFailures strict).counts.get step.outcome).value := by
    rw [counts_ofFeatures, OutcomeCounts.ofList_pos]
    refine List.mem_map_of_mem (List.mem_flatMap.2 ⟨feature, hfeature, ?_⟩)
    exact List.mem_flatMap.2 ⟨scenario, hscenario, hstep⟩
  rw [hasFatal, OutcomeCounts.hasFatal_of_pos hcounts hfatal, Bool.true_or, Bool.true_or]

/-- A failure of a hook around the run makes its record fatal. -/
theorem hasFatal_of_hookFailures {report : SuiteReport} (strict : Bool)
    (h : report.hookFailures ≠ []) :
    report.hasFatal strict = true := by
  simp [hasFatal, h]

/-- A failure of a hook around a feature makes the record of the run fatal. -/
theorem hasFatal_of_feature {report : SuiteReport} (strict : Bool) {feature : FeatureReport}
    (hfeature : feature ∈ report.features) (h : feature.hookFailures ≠ []) :
    report.hasFatal strict = true := by
  have hany : (report.features.any fun f =>
      !f.hookFailures.isEmpty || f.scenarios.any fun s => !s.hookFailures.isEmpty) = true :=
    List.any_eq_true.2 ⟨feature, hfeature, by simp [h]⟩
  rw [hasFatal, hany, Bool.or_true]

/-- A failure of a hook that the record of a scenario keeps makes the record of the run fatal. -/
theorem hasFatal_of_scenario {report : SuiteReport} (strict : Bool) {feature : FeatureReport}
    (hfeature : feature ∈ report.features) {scenario : ScenarioReport}
    (hscenario : scenario ∈ feature.scenarios) (h : scenario.hookFailures ≠ []) :
    report.hasFatal strict = true := by
  have hinner : (feature.scenarios.any fun s => !s.hookFailures.isEmpty) = true :=
    List.any_eq_true.2 ⟨scenario, hscenario, by simp [h]⟩
  have hany : (report.features.any fun f =>
      !f.hookFailures.isEmpty || f.scenarios.any fun s => !s.hookFailures.isEmpty) = true :=
    List.any_eq_true.2 ⟨feature, hfeature, by rw [hinner, Bool.or_true]⟩
  rw [hasFatal, hany, Bool.or_true]

end SuiteReport

end Rehearsal
