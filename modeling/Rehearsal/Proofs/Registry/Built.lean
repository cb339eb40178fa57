import Mathlib.Data.List.Nodup
import Rehearsal.Proofs.Except
import Rehearsal.Registry

/-!
# How registries come about

A registry holds what registrations have left in it. Each that succeeds adds one definition of its
kind, under a source that no other definition of the kind has.
-/

namespace Rehearsal.Registry

variable {W σ ν : Type} {r r' : Registry W σ ν}

/-- A pattern keeps the source that it was compiled from. -/
theorem source_of_compile {source : String} {p : Pattern} (h : Pattern.compile source = .ok p) :
    p.source = source := by
  rw [Pattern.compile] at h
  split at h <;> split at h
  · split at h
    · exact (Except.ok.inj h) ▸ rfl
    · cases h
  · cases h
  · split at h
    · exact (Except.ok.inj h) ▸ rfl
    · cases h
  · cases h

/-- A source is taken for a kind if it is a pattern and no definition of the kind has it. -/
theorem claim_eq_ok_iff {kind : DefinitionKind} {sources : List String} {source : String}
    {p : Pattern} :
    claim kind sources source = .ok p ↔ Pattern.compile source = .ok p ∧ source ∉ sources := by
  rw [claim]
  cases Pattern.compile source with
  | error e => exact iff_of_false nofun fun h => nomatch h.1
  | ok q =>
    by_cases hmem : source ∈ sources <;> simp [hmem]

/-- The registry holds what registrations have left in it, in this order. -/
inductive Built : Registry W σ ν → Prop
  | empty (chainLimit : Nat) : Built { chainLimit }
  | step {r r' : Registry W σ ν} {keyword : Option Keyword} {source : String}
    {code : StepCode W σ ν} (h : Built r) (hadd : r.addStep keyword source code = .ok r') : Built r'
  | transform {r r' : Registry W σ ν} {source : String} {code : TransformCode W σ ν} (h : Built r)
    (hadd : r.addTransform source code = .ok r') : Built r'
  | tableTransform {r r' : Registry W σ ν} {source : String}
    {code : TableTransformCode W σ ν} (h : Built r)
    (hadd : r.addTableTransform source code = .ok r') : Built r'
  | hook {r : Registry W σ ν} (scope : HookScope) (filter : Option TagFilter)
    (code : HookCode W σ ν) (h : Built r) :
    Built (r.addHook scope filter code)

/-- The definitions of each kind have different sources. -/
structure Distinct (r : Registry W σ ν) : Prop where
  /-- Steps have. -/
  steps : (r.steps.map fun d => d.pattern.source).Nodup
  /-- Transforms of captures have. -/
  transforms : (r.transforms.map fun d => d.pattern.source).Nodup
  /-- Transforms of tables have. -/
  tableTransforms : (r.tableTransforms.map fun d => d.pattern.source).Nodup

/-- A source that is taken differs from those that are there. -/
theorem nodup_of_claim {kind : DefinitionKind} {sources : List String} {source : String}
    {p : Pattern} (h : claim kind sources source = .ok p) (hsources : sources.Nodup) :
    (sources ++ [p.source]).Nodup := by
  obtain ⟨hcompile, hnew⟩ := claim_eq_ok_iff.1 h
  rw [source_of_compile hcompile]
  exact List.concat_eq_append ▸ hsources.concat hnew

theorem Built.distinct (h : r.Built) : r.Distinct := by
  induction h with
  | empty chainLimit => exact ⟨.nil, .nil, .nil⟩
  | step _ hadd ih =>
    obtain ⟨p, hp, rfl⟩ := exists_of_map hadd
    exact ⟨List.map_append ▸ nodup_of_claim hp ih.steps, ih.transforms, ih.tableTransforms⟩
  | transform _ hadd ih =>
    obtain ⟨p, hp, rfl⟩ := exists_of_map hadd
    exact ⟨ih.steps, List.map_append ▸ nodup_of_claim hp ih.transforms, ih.tableTransforms⟩
  | tableTransform _ hadd ih =>
    obtain ⟨p, hp, rfl⟩ := exists_of_map hadd
    exact ⟨ih.steps, ih.transforms, List.map_append ▸ nodup_of_claim hp ih.tableTransforms⟩
  | hook scope filter code _ ih => exact ⟨ih.steps, ih.transforms, ih.tableTransforms⟩

/-- The sources of the steps that are for a text are different, and stand in the
order of registration. -/
theorem Distinct.matchingSteps (h : r.Distinct) (text : String) :
    ((r.matchingSteps text).map fun d => d.pattern.source).Nodup :=
  h.steps.sublist (List.filter_sublist.map _)

end Rehearsal.Registry
