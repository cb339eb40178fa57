import Mathlib.Logic.Basic
import Rehearsal.Proofs.Report.Fatal

/-!
# Verdicts on records

A record is judged on every level: counts by what has been counted, a scenario by its counts and its
failures of hooks, a feature by its scenarios, a run by its counts and by the failures of hooks on
all levels. These verdicts agree: a run is fatal exactly if something fatal is recorded somewhere,
and what is drawn from that, the exit code and the numbers of failures, agrees too.
-/

namespace Rehearsal

/-- What is fatal in a lenient run is fatal in a strict one. -/
theorem Outcome.isFatal_of_lenient {o : Outcome} (h : o.isFatal false = true) :
    o.isFatal true = true := by
  cases o <;> first | rfl | cases h

namespace OutcomeCounts

/-- Counts are fatal exactly if an outcome has been counted that is. -/
theorem hasFatal_iff {c : OutcomeCounts} {strict : Bool} :
    c.hasFatal strict = true ↔ ∃ o : Outcome, o.isFatal strict = true ∧ 0 < (c.get o).value := by
  refine ⟨fun h => ?_, fun ⟨o, hfatal, hpos⟩ => hasFatal_of_pos hpos hfatal⟩
  simp only [hasFatal, Bool.or_eq_true, Bool.and_eq_true, decide_eq_true_eq] at h
  rcases h with (hfailed | hambiguous) | ⟨rfl, hundefined | hpending⟩
  · exact ⟨.failed, rfl, hfailed⟩
  · exact ⟨.ambiguous, rfl, hambiguous⟩
  · exact ⟨.undefined, rfl, hundefined⟩
  · exact ⟨.pending, rfl, hpending⟩

/-- The counts of outcomes are fatal exactly if one of the outcomes is. -/
theorem ofList_hasFatal_iff {outcomes : List Outcome} {strict : Bool} :
    (ofList outcomes).hasFatal strict = true ↔ ∃ o ∈ outcomes, o.isFatal strict = true := by
  rw [hasFatal_iff]
  refine exists_congr fun o => ?_
  rw [ofList_pos, and_comm]

end OutcomeCounts

/-- A scenario failed exactly if its record keeps a failure of a hook or one of its
steps ended fatally. -/
theorem ScenarioReport.isFailed_iff {report : ScenarioReport} {strict : Bool} :
    report.isFailed strict = true ↔
      report.hookFailures ≠ [] ∨ ∃ step ∈ report.steps, step.outcome.isFatal strict = true := by
  rw [isFailed, Bool.or_eq_true, counts, OutcomeCounts.ofList_hasFatal_iff]
  refine or_congr (by simp) ?_
  simp only [List.mem_map, exists_exists_and_eq_and]

/-- A feature failed exactly if a hook around it or one of its scenarios failed. -/
theorem FeatureReport.isFailed_iff {report : FeatureReport} {strict : Bool} :
    report.isFailed strict = true ↔
      report.hookFailures ≠ [] ∨
      ∃ scenario ∈ report.scenarios, scenario.isFailed strict = true := by
  rw [isFailed, Bool.or_eq_true, List.any_eq_true]
  exact or_congr_left (by simp)

namespace SuiteReport

/-- A run is fatal exactly if its counts are or there is a failure of a hook on some level. -/
theorem hasFatal_iff {report : SuiteReport} {strict : Bool} :
    report.hasFatal strict = true ↔
      report.counts.hasFatal strict = true ∨ report.hookFailures ≠ [] ∨
        ∃ feature ∈ report.features, feature.hookFailures ≠ [] ∨
          ∃ scenario ∈ feature.scenarios, scenario.hookFailures ≠ [] := by
  simp [hasFatal, or_assoc]

/-- The counts of a run are fatal exactly if a step of it ended fatally. -/
theorem ofFeatures_counts_hasFatal_iff {features : List FeatureReport}
    {hookFailures : List HookFailure} {strict strict' : Bool} :
    (ofFeatures features hookFailures strict).counts.hasFatal strict' = true ↔
      ∃ feature ∈ features, ∃ scenario ∈ feature.scenarios, ∃ step ∈ scenario.steps,
        step.outcome.isFatal strict' = true := by
  rw [counts_ofFeatures, OutcomeCounts.ofList_hasFatal_iff]
  simp only [steps, FeatureReport.steps, ofFeatures, List.mem_map, List.mem_flatMap]
  constructor
  · rintro ⟨_, ⟨step, ⟨feature, hfeature, scenario, hscenario, hstep⟩, rfl⟩, hfatal⟩
    exact ⟨feature, hfeature, scenario, hscenario, step, hstep, hfatal⟩
  · rintro ⟨feature, hfeature, scenario, hscenario, step, hstep, hfatal⟩
    exact ⟨_, ⟨step, ⟨feature, hfeature, scenario, hscenario, hstep⟩, rfl⟩, hfatal⟩

/-- The record of a run is fatal exactly if a hook around the run or one of its features failed. -/
theorem ofFeatures_hasFatal_iff {features : List FeatureReport} {hookFailures : List HookFailure}
    {strict strict' : Bool} :
    (ofFeatures features hookFailures strict).hasFatal strict' = true ↔
      hookFailures ≠ [] ∨ ∃ feature ∈ features, feature.isFailed strict' = true := by
  rw [hasFatal_iff, ofFeatures_counts_hasFatal_iff]
  simp only [FeatureReport.isFailed_iff, ScenarioReport.isFailed_iff]
  constructor
  · rintro (⟨feature, hfeature, scenario, hscenario, hstep⟩ | hown |
      ⟨feature, hfeature, hhook | ⟨scenario, hscenario, hhook⟩⟩)
    · exact .inr ⟨feature, hfeature, .inr ⟨scenario, hscenario, .inr hstep⟩⟩
    · exact .inl hown
    · exact .inr ⟨feature, hfeature, .inl hhook⟩
    · exact .inr ⟨feature, hfeature, .inr ⟨scenario, hscenario, .inl hhook⟩⟩
  · rintro (hown | ⟨feature, hfeature, hhook | ⟨scenario, hscenario, hhook | hstep⟩⟩)
    · exact .inr (.inl hown)
    · exact .inr (.inr ⟨feature, hfeature, .inl hhook⟩)
    · exact .inr (.inr ⟨feature, hfeature, .inr ⟨scenario, hscenario, hhook⟩⟩)
    · exact .inl ⟨feature, hfeature, scenario, hscenario, hstep⟩

/-- The exit code is zero exactly if nothing fatal happened. -/
theorem exitCode_eq_zero_iff {report : SuiteReport} :
    report.exitCode = 0 ↔ ¬ report.hasFatal report.strict = true := by
  rw [exitCode]
  split <;> simp_all

/-- No feature is counted as failed exactly if none failed. -/
theorem failedFeatureCount_eq_zero_iff {report : SuiteReport} :
    report.failedFeatureCount = 0 ↔
      ¬ ∃ feature ∈ report.features, feature.isFailed report.strict = true := by
  rw [failedFeatureCount, List.countP_eq_zero]
  simp only [not_exists, not_and]

/-- A scenario that failed makes its feature fail. -/
theorem failedFeatureCount_pos {report : SuiteReport} (h : 0 < report.failedScenarioCount) :
    0 < report.failedFeatureCount := by
  obtain ⟨scenario, hscenario, hfailed⟩ := List.countP_pos_iff.1 h
  obtain ⟨feature, hfeature, hscenario⟩ := List.mem_flatMap.1 hscenario
  refine List.countP_pos_iff.2 ⟨feature, hfeature, ?_⟩
  exact FeatureReport.isFailed_iff.2 (.inr ⟨scenario, hscenario, hfailed⟩)

end SuiteReport

/-- The outcome of a run is success exactly if its exit code is zero. -/
theorem SuiteOutcome.ofReport_eq_success_iff {report : SuiteReport} :
    ofReport report = .success ↔ report.exitCode = 0 := by
  rw [ofReport]
  split <;> simp_all

/-- The verdicts on the record of a run agree, whatever features it is made of. It is fatal, under
either strictness, exactly if a hook around the run or a feature failed; that is, if a hook around
the run or a feature or a scenario failed; that is, if the failure of a hook is recorded on any
level or a step ended fatally. The exit code, zero or one, is zero exactly if no feature is counted
as failed and no hook around the run failed, and then the outcome of the run is success. Where
scenarios are counted as failed, so are features, and strictness only adds to what is fatal. -/
theorem SuiteReport.ofFeatures_verdicts (features : List FeatureReport)
    (hookFailures : List HookFailure) (strict : Bool) :
    let report := ofFeatures features hookFailures strict
    (∀ s, report.hasFatal s = true ↔
      hookFailures ≠ [] ∨ ∃ feature ∈ features, feature.isFailed s = true) ∧
    (∀ s, report.hasFatal s = true ↔
      hookFailures ≠ [] ∨ ∃ feature ∈ features, feature.hookFailures ≠ [] ∨
        ∃ scenario ∈ feature.scenarios, scenario.isFailed s = true) ∧
    (∀ s, report.hasFatal s = true ↔
      hookFailures ≠ [] ∨ ∃ feature ∈ features, feature.hookFailures ≠ [] ∨
        ∃ scenario ∈ feature.scenarios, scenario.hookFailures ≠ [] ∨
          ∃ step ∈ scenario.steps, step.outcome.isFatal s = true) ∧
    (report.exitCode = 0 ∨ report.exitCode = 1) ∧
    (report.exitCode = 0 ↔ report.failedFeatureCount = 0 ∧ hookFailures = []) ∧
    (SuiteOutcome.ofReport report = .success ↔ report.exitCode = 0) ∧
    (0 < report.failedScenarioCount → 0 < report.failedFeatureCount) ∧
    (report.hasFatal false = true → report.hasFatal true = true) := by
  intro report
  have hfeatures : ∀ s, report.hasFatal s = true ↔
      hookFailures ≠ [] ∨ ∃ feature ∈ features, feature.isFailed s = true :=
    fun s => ofFeatures_hasFatal_iff
  have hsteps : ∀ s, report.hasFatal s = true ↔
      hookFailures ≠ [] ∨ ∃ feature ∈ features, feature.hookFailures ≠ [] ∨
        ∃ scenario ∈ feature.scenarios, scenario.hookFailures ≠ [] ∨
          ∃ step ∈ scenario.steps, step.outcome.isFatal s = true := by
    simpa only [FeatureReport.isFailed_iff, ScenarioReport.isFailed_iff] using hfeatures
  refine ⟨hfeatures, ?_, hsteps, ?_, ?_, SuiteOutcome.ofReport_eq_success_iff,
    failedFeatureCount_pos, ?_⟩
  · simpa only [FeatureReport.isFailed_iff] using hfeatures
  · rw [exitCode]
    split
    · exact .inr rfl
    · exact .inl rfl
  · rw [exitCode_eq_zero_iff, hfeatures, failedFeatureCount_eq_zero_iff, not_or, not_not, and_comm]
    rfl
  · -- A step that is fatal in a lenient run is so in a strict one, and hooks fail in both.
    rw [hsteps, hsteps]
    refine Or.imp_right fun ⟨feature, hfeature, hin⟩ => ⟨feature, hfeature, hin.imp_right ?_⟩
    refine fun ⟨scenario, hscenario, hin⟩ => ⟨scenario, hscenario, hin.imp_right ?_⟩
    exact fun ⟨step, hstep, hfatal⟩ => ⟨step, hstep, Outcome.isFatal_of_lenient hfatal⟩

end Rehearsal
