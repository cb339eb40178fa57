import Rehearsal.Proofs.Report.Verdict

/-!
# Merged counts

Counts are merged counter by counter, and a counter that has reached the greatest number stays
there. So one clamp of the exact sum is all that many of them come to: merging is commutative and
associative, counting more steps is merging their counts, and the counts of a run do not depend on
how its steps are grouped into scenarios and features, nor on the order of these. No clamp makes a
counter zero, so what is fatal stays fatal.
-/

namespace Rehearsal

namespace Tally

/-- Adding counters is one clamp of the sum. -/
theorem value_add (a b : Tally) : (a + b).value = min limit (a.value + b.value) := rfl

protected theorem add_comm (a b : Tally) : a + b = b + a :=
  ext_value (by rw [value_add, value_add, Nat.add_comm])

protected theorem add_assoc (a b c : Tally) : a + b + c = a + (b + c) := by
  rw [← ofNat_value a, ← ofNat_value b, ← ofNat_value c]
  simp only [ofNat_add, Nat.add_assoc]

theorem ofNat_add_right (n : Nat) (a : Tally) : ofNat n + a = ofNat (n + a.value) := by
  rw [← ofNat_add, ofNat_value]

end Tally

namespace OutcomeCounts

@[simp] theorem get_merge (c d : OutcomeCounts) (o : Outcome) :
    (c.merge d).get o = c.get o + d.get o := get_ofFn _ o

/-- Merging does not depend on which counts come first. -/
theorem merge_comm (c d : OutcomeCounts) : c.merge d = d.merge c :=
  ext_get fun o => by rw [get_merge, get_merge, Tally.add_comm]

/-- Nor on which are merged first. -/
theorem merge_assoc (c d e : OutcomeCounts) : (c.merge d).merge e = c.merge (d.merge e) :=
  ext_get fun o => by simp only [get_merge, Tally.add_assoc]

/-- Counting on from counts is merging them with what is counted. -/
theorem foldl_record_eq_merge (c : OutcomeCounts) (outcomes : List Outcome) :
    outcomes.foldl record c = c.merge (ofList outcomes) := by
  refine ext_get fun o => ?_
  rw [get_foldl_record (Tally.ofNat_value _).symm, get_merge, get_ofList, ← Tally.ofNat_add,
    Tally.ofNat_value]

/-- The total is one clamp of the sum of all counters. -/
theorem total_eq (c : OutcomeCounts) :
    c.total = .ofNat (c.successful.value + c.failed.value + c.pending.value +
    c.undefined.value + c.ambiguous.value + c.skipped.value) := by
  simp only [total, Outcome.all, List.map_cons, List.map_nil, List.foldl_cons, List.foldl_nil, get,
    Tally.ofNat_add_right, Nat.zero_add]

/-- Counts do not depend on the order of what is counted. -/
theorem ofList_eq_of_perm {outcomes outcomes' : List Outcome} (h : outcomes.Perm outcomes') :
    ofList outcomes = ofList outcomes' :=
  ext_get fun o => by rw [get_ofList, get_ofList, h.count_eq]

/-- The counts after some more steps. -/
def countOn (c : OutcomeCounts) (steps : List StepReport) : OutcomeCounts :=
  (steps.map StepReport.outcome).foldl record c

theorem countOn_append (c : OutcomeCounts) (before after : List StepReport) :
    c.countOn (before ++ after) = (c.countOn before).merge (countOn {} after) := by
  rw [countOn, List.map_append, List.foldl_append, foldl_record_eq_merge]
  rfl

theorem value_get_countOn (c : OutcomeCounts) (steps : List StepReport) (o : Outcome) :
    ((c.countOn steps).get o).value =
      min Tally.limit ((c.get o).value + steps.countP fun step => step.outcome = o) := by
  rw [countOn, get_foldl_record (Tally.ofNat_value _).symm, List.count, List.countP_map]
  rfl

end OutcomeCounts

/-- The counts of a run are those of its steps, in whatever order and however they are grouped. -/
theorem SuiteReport.counts_eq_of_perm {features features' : List FeatureReport}
    (h : ((features.flatMap FeatureReport.steps).map StepReport.outcome).Perm
      ((features'.flatMap FeatureReport.steps).map StepReport.outcome))
    (hookFailures hookFailures' : List HookFailure) (strict strict' : Bool) :
    (ofFeatures features hookFailures strict).counts =
      (ofFeatures features' hookFailures' strict').counts := by
  rw [counts_ofFeatures, counts_ofFeatures]
  exact OutcomeCounts.ofList_eq_of_perm h

/-- Counting goes over into merging when steps are taken together, from whatever the counters hold;
merging is commutative and associative. Each counter and the total are one clamp of the exact number
at the greatest one, and a clamp hides nothing: counts are fatal exactly if an outcome has been
counted that is. So the counts of a run are the same for all records whose steps have the same
outcomes, in whatever order and grouped in whatever way. -/
theorem OutcomeCounts.countOn_homomorphism :
    (∀ (c : OutcomeCounts) (xs ys : List StepReport),
      c.countOn (xs ++ ys) = (c.countOn xs).merge (countOn {} ys)) ∧
    (∀ c d : OutcomeCounts, c.merge d = d.merge c) ∧
    (∀ c d e : OutcomeCounts, (c.merge d).merge e = c.merge (d.merge e)) ∧
    (∀ (c : OutcomeCounts) (xs : List StepReport) (o : Outcome),
      ((c.countOn xs).get o).value =
        min Tally.limit ((c.get o).value + xs.countP fun step => step.outcome = o)) ∧
    (∀ (c d : OutcomeCounts) (o : Outcome),
      ((c.merge d).get o).value = min Tally.limit ((c.get o).value + (d.get o).value)) ∧
    (∀ c : OutcomeCounts, c.total.value =
      min Tally.limit (c.successful.value + c.failed.value + c.pending.value +
      c.undefined.value + c.ambiguous.value + c.skipped.value)) ∧
    (∀ (c : OutcomeCounts) (strict : Bool),
      c.hasFatal strict = true ↔ ∃ o : Outcome, o.isFatal strict = true ∧ 0 < (c.get o).value) ∧
    ∀ (features features' : List FeatureReport) (hookFailures hookFailures' : List HookFailure)
    (strict strict' : Bool),
      ((features.flatMap FeatureReport.steps).map StepReport.outcome).Perm
        ((features'.flatMap FeatureReport.steps).map StepReport.outcome) →
      (SuiteReport.ofFeatures features hookFailures strict).counts =
        (SuiteReport.ofFeatures features' hookFailures' strict').counts := by
  refine ⟨countOn_append, merge_comm, merge_assoc, value_get_countOn, fun c d o => ?_, fun c => ?_,
    fun _ _ => hasFatal_iff, fun _ _ hooks hooks' strict strict' h => ?_⟩
  · rw [get_merge, Tally.value_add]
  · rw [total_eq]
    rfl
  · exact SuiteReport.counts_eq_of_perm h hooks hooks' strict strict'

/-- Two scenarios of one feature, and the same steps in two features of one scenario each. -/
theorem OutcomeCounts.regrouped_homomorphism :
    let step (o : Outcome) : StepReport := { keyword := .given, text := "a step", outcome := o }
    let scenario (outcomes : List Outcome) : ScenarioReport :=
      ⟨"s", .empty, .aborted, outcomes.map step, []⟩
    let together : List FeatureReport :=
      [⟨"f", .empty, [scenario [.successful, .failed], scenario [.undefined, .skipped]], []⟩]
    let apart : List FeatureReport :=
      [⟨"g", .empty, [scenario [.skipped, .undefined]], []⟩,
        ⟨"h", .empty, [scenario [.failed, .successful]], []⟩]
    ((together.flatMap FeatureReport.steps).map StepReport.outcome).Perm
        ((apart.flatMap FeatureReport.steps).map StepReport.outcome) ∧
      (SuiteReport.ofFeatures together [] false).counts =
        (SuiteReport.ofFeatures apart [] true).counts := by
  intro step scenario together apart
  have hsteps : ((together.flatMap FeatureReport.steps).map StepReport.outcome).Perm
      ((apart.flatMap FeatureReport.steps).map StepReport.outcome) := by decide
  exact ⟨hsteps, countOn_homomorphism.2.2.2.2.2.2.2 _ _ _ _ _ _ hsteps⟩

/-- A failure is not lost where the counters are full already. -/
example :
    (({ successful := .ofNat Tally.limit, failed := .ofNat Tally.limit } : OutcomeCounts).countOn
    [{ keyword := .given, text := "a step", outcome := .failed }]).hasFatal false = true := by
  decide

end Rehearsal
