import Rehearsal.Report

/-!
# What counters hold

Counters that stay at their greatest number hold, however the counting goes on, the exact number
that has been counted or the greatest number if that is less. So counts that are added up are the
counts of all outcomes taken together, and their total is the number of these.
-/

namespace Rehearsal

namespace Tally

/-- Counters that hold the same number are the same. -/
theorem ext_value {a b : Tally} (h : a.value = b.value) : a = b := by
  cases a
  cases b
  cases h
  rfl

/-- A counter holds what it holds. -/
@[simp] theorem ofNat_value (a : Tally) : ofNat a.value = a :=
  ext_value (Nat.min_eq_right (Nat.le_of_lt_succ a.value_lt))

/-- Adding counters is adding the numbers that have been counted. -/
@[simp] theorem ofNat_add (m n : Nat) : ofNat m + ofNat n = ofNat (m + n) := by
  refine ext_value ?_
  change min limit (min limit m + min limit n) = min limit (m + n)
  omega

/-- Counting one more is counting one more of what has been counted. -/
@[simp] theorem next_ofNat (n : Nat) : (ofNat n).next = ofNat (n + 1) := by
  refine ext_value ?_
  change min limit (min limit n + 1) = min limit (n + 1)
  omega

end Tally

namespace OutcomeCounts

/-- Counts with the same counters are the same. -/
theorem ext_get {c d : OutcomeCounts} (h : ∀ o, c.get o = d.get o) : c = d := by
  cases c
  cases d
  rw [mk.injEq]
  exact ⟨h .successful, h .failed, h .pending, h .undefined, h .ambiguous, h .skipped⟩

/-- Counters start at zero. -/
@[simp] theorem get_empty (o : Outcome) : ({} : OutcomeCounts).get o = .ofNat 0 := by
  cases o <;> rfl

/-- A counter goes on from what it holds. -/
theorem get_foldl_record {c : OutcomeCounts} {o : Outcome} {n : Nat} (h : c.get o = .ofNat n)
    (outcomes : List Outcome) :
    (outcomes.foldl record c).get o = .ofNat (n + outcomes.count o) := by
  induction outcomes generalizing c n with
  | nil => exact h
  | cons first rest ih =>
    rw [List.foldl_cons]
    by_cases hfirst : first = o
    · have hnext : (c.record first).get o = .ofNat (n + 1) := by
        rw [record, get_ofFn, if_pos hfirst.symm, h, Tally.next_ofNat]
      rw [ih hnext, hfirst, List.count_cons_self, Nat.add_assoc, Nat.add_comm 1]
    · have hsame : (c.record first).get o = .ofNat n := by
        rw [record, get_ofFn, if_neg (Ne.symm hfirst), h]
      rw [ih hsame, List.count_cons_of_ne hfirst]

/-- Each counter holds how often its outcome has been counted. -/
theorem get_ofList (outcomes : List Outcome) (o : Outcome) :
    (ofList outcomes).get o = .ofNat (outcomes.count o) := by
  rw [ofList, get_foldl_record (get_empty o), Nat.zero_add]

/-- Merged counts are the counts of both lists of outcomes taken together. -/
theorem merge_ofList (before after : List Outcome) :
    (ofList before).merge (ofList after) = ofList (before ++ after) := by
  refine ext_get fun o => ?_
  rw [merge, get_ofFn, get_ofList, get_ofList, get_ofList, Tally.ofNat_add, List.count_append]

/-- Counts that are added up are the counts of all outcomes, one list after the other. -/
theorem foldl_merge_ofList {α : Type} (f : α → List Outcome) (items : List α)
    (before : List Outcome) :
    items.foldl (fun counts a => counts.merge (ofList (f a))) (ofList before) =
      ofList (before ++ items.flatMap f) := by
  induction items generalizing before with
  | nil => rw [List.foldl_nil, List.flatMap_nil, List.append_nil]
  | cons first rest ih =>
    rw [List.foldl_cons, merge_ofList, ih, List.flatMap_cons, List.append_assoc]

/-- The total of counts is the number of outcomes that have been counted. -/
theorem total_ofList (outcomes : List Outcome) :
    (ofList outcomes).total = .ofNat outcomes.length := by
  have hlength : outcomes.count .successful + outcomes.count .failed + outcomes.count .pending +
      outcomes.count .undefined + outcomes.count .ambiguous + outcomes.count .skipped =
        outcomes.length := by
    induction outcomes with
    | nil => rfl
    | cons first rest ih =>
      rw [List.length_cons, ← ih]
      cases first <;> simp <;> omega
  simp [total, Outcome.all, get_ofList, hlength]

end OutcomeCounts

/-! ## All steps of a record -/

/-- The records of all steps of a feature, in order. -/
def FeatureReport.steps (report : FeatureReport) : List StepReport :=
  report.scenarios.flatMap ScenarioReport.steps

/-- The records of all steps of a run, in order. -/
def SuiteReport.steps (report : SuiteReport) : List StepReport :=
  report.features.flatMap FeatureReport.steps

/-- The counts of a feature are those of all its steps. -/
theorem FeatureReport.counts_eq (report : FeatureReport) :
    report.counts = .ofList (report.steps.map StepReport.outcome) := by
  rw [counts, steps, List.map_flatMap]

/-- The counts of a run are those of all its steps. -/
theorem SuiteReport.counts_ofFeatures (features : List FeatureReport)
    (hookFailures : List HookFailure) (strict : Bool) :
    (ofFeatures features hookFailures strict).counts =
      .ofList ((ofFeatures features hookFailures strict).steps.map StepReport.outcome) := by
  simp only [ofFeatures, FeatureReport.counts_eq, steps, List.map_flatMap]
  exact OutcomeCounts.foldl_merge_ofList
    (fun feature => feature.steps.map StepReport.outcome) features []

end Rehearsal
