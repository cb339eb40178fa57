import Rehearsal.Model.Feature
import Rehearsal.Proofs.Tag.Set

/-!
# Flattening beforehand

A flattened scenario has the background and the tags of its feature already. Put back as a plain
scenario into a feature of the same tags without a background, it inherits its tags once more,
which changes nothing.
-/

namespace Rehearsal.Feature

/-- The feature with the given scenarios in place of its own, all of them plain, and
without a background. -/
def withScenarios (f : Feature) (scenarios : List Scenario) : Feature :=
  { name := f.name, tags := f.tags, background := [], definitions := scenarios.map .scenario }

variable {f : Feature} {scenarios : List Scenario}

/-- A flattened scenario has inherited all that there is to inherit. -/
theorem inherit_withScenarios {s : Scenario} (h : s ∈ f.scenarios) :
    (f.withScenarios scenarios).inherit s = s := by
  obtain ⟨plain, -, rfl⟩ := List.mem_map.1 h
  have htags : f.tags.union (f.tags.union plain.tags) = f.tags.union plain.tags :=
    TagSet.union_union _ _
  simp only [inherit, withScenarios, htags, List.nil_append]

/-- Flattened scenarios that are put back are what the feature is flattened to. -/
theorem scenarios_withScenarios (h : ∀ s ∈ scenarios, s ∈ f.scenarios) :
    (f.withScenarios scenarios).scenarios = scenarios := by
  have hplain : (f.withScenarios scenarios).definitions.flatMap ScenarioDefinition.expand =
      scenarios := by
    simp [withScenarios, List.flatMap_map, ScenarioDefinition.expand]
  have hsame : ∀ s ∈ scenarios, (f.withScenarios scenarios).inherit s = id s := fun s hs =>
    inherit_withScenarios (h s hs)
  rw [Feature.scenarios, hplain, List.map_congr_left hsame, List.map_id]

end Rehearsal.Feature
