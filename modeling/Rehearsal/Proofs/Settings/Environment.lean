import Rehearsal.Proofs.Settings.Overlay
import Rehearsal.Settings.Environment

/-!
# What the environment says

The layer of the environment has at the path of each variable what the variable is read as, if it is
set, and nothing otherwise, whatever the other variables are; and it is in the way of no setting.
This holds for all variables whose paths do not lead through each other.
-/

namespace Rehearsal

open Json

/-- Neither path leads through the end of the other. -/
def Apart (path other : List String) : Prop := ¬ path <+: other ∧ ¬ other <+: path

instance (path other : List String) : Decidable (Apart path other) :=
  inferInstanceAs (Decidable (¬ path <+: other ∧ ¬ other <+: path))

/-- Paths that lie apart from the same name on lie apart. -/
theorem Apart.of_cons {name : String} {path other : List String}
    (h : Apart (name :: path) (name :: other)) :
    Apart path other :=
  ⟨fun hprefix => h.1 (List.cons_prefix_cons.2 ⟨rfl, hprefix⟩),
   fun hprefix => h.2 (List.cons_prefix_cons.2 ⟨rfl, hprefix⟩)⟩

namespace Variable

/-! ## One variable -/

/-- What a variable is read as is a single value. -/
theorem leaf_of_read {v : Variable} {text : String} {value : Json} (h : v.read text = .ok value) :
    value.IsLeaf ∧ value.Distinct := by
  unfold read at h
  split at h
  · cases h
    exact ⟨nofun, .string text⟩
  · split at h
    · cases h
      exact ⟨nofun, .bool _⟩
    · cases h
  · split at h
    · cases h
      exact ⟨nofun, .integer _⟩
    · cases h

/-- The only field of an object is the one found. -/
theorem lookup_nested (name : String) (path : List String) (value : Json) (other : String) :
    (nested (name :: path) value).fields.lookup other = if other =
      name then some (nested path value) else none := by
  by_cases h : other = name
  · simp [nested, h]
  · have hne : (other == name) = false := by simpa using h
    simp [nested, List.lookup_cons, h, hne]

theorem distinct_nested {value : Json} (h : value.Distinct) (path : List String) :
    (nested path value).Distinct := by
  induction path with
  | nil => exact h
  | cons name path ih => exact .object (List.nodup_singleton name) (List.forall_mem_singleton.2 ih)

/-- The value is at the end of its path. -/
theorem at?_nested (path : List String) (value : Json) :
    (nested path value).at? path = some value := by
  induction path with
  | nil => rfl
  | cons name path ih => rw [at?_cons, lookup_nested, if_pos rfl, Option.bind_some, ih]

/-- Nothing is at the end of another path. -/
theorem at?_nested_of_apart {path other : List String} (h : Apart path other) (value : Json) :
    (nested path value).at? other = none := by
  induction path generalizing other with
  | nil => exact absurd List.nil_prefix h.1
  | cons name path ih =>
    cases other with
    | nil => exact absurd List.nil_prefix h.2
    | cons first other =>
      rw [at?_cons, lookup_nested]
      by_cases hname : first = name
      · subst hname
        rw [if_pos rfl, Option.bind_some, ih h.of_cons]
      · rw [if_neg hname, Option.bind_none]

/-- The value is in the way neither of its own path nor of one that lies apart. -/
theorem not_blocks_nested {path other : List String} (h : path = other ∨ Apart path other)
    (value : Json) :
    ¬ (nested path value).Blocks other := by
  induction path generalizing other with
  | nil =>
    rcases h with rfl | h
    · exact id
    · exact absurd List.nil_prefix h.1
  | cons name path ih =>
    cases other with
    | nil => exact id
    | cons first other =>
      rintro ⟨inner, hinner, hblocks⟩
      have hlookup := lookup_nested name path value first
      by_cases hname : first = name
      · subst hname
        rw [if_pos rfl] at hlookup
        cases hinner.symm.trans hlookup
        have hrest : path = other ∨ Apart path other := by
          rcases h with heq | hapart
          · exact .inl (List.cons.inj heq).2
          · exact .inr hapart.of_cons
        exact ih hrest hblocks
      · rw [if_neg hname] at hlookup
        cases hinner.symm.trans hlookup

end Variable

namespace Environment

/-! ## All variables -/

/-- The variables lay their values over a document, one after the other. -/
inductive Lays (env : Environment) : Json → List Variable → Json → Prop
  | nil {layer} : Lays env layer [] layer
  | unset {below v rest layer} : env v.name = none → Lays env below rest layer →
      Lays env below (v :: rest) layer
  | set {below v rest layer text value} : env v.name = some text → v.read text = .ok value →
      Lays env (below.over (Variable.nested v.path value)) rest layer →
      Lays env below (v :: rest) layer

variable {env : Environment} {below layer : Json} {vars : List Variable}

/-- What variables lay over a document is laid over it one after the other. -/
theorem lays_of_layOver (h : env.layOver below vars = .ok layer) : Lays env below vars layer := by
  induction vars generalizing below with
  | nil =>
    cases h
    exact .nil
  | cons v rest ih =>
    unfold layOver at h
    cases hset : env v.name with
    | none =>
      rw [hset] at h
      exact .unset hset (ih h)
    | some text =>
      rw [hset] at h
      dsimp only at h
      cases hread : v.read text with
      | error e =>
        rw [hread] at h
        cases h
      | ok value =>
        rw [hread] at h
        exact .set hset hread (ih h)

namespace Lays

/-- No name is repeated. -/
theorem distinct (h : Lays env below vars layer) (hbelow : below.Distinct) : layer.Distinct := by
  induction h with
  | nil => exact hbelow
  | unset _ _ ih => exact ih hbelow
  | set _ hread _ ih =>
    exact ih ((Variable.distinct_nested (Variable.leaf_of_read hread).2 _).over hbelow)

/-- An object stays one if the variables lead somewhere. -/
theorem isLayer (h : Lays env below vars layer) (hpaths : ∀ v ∈ vars, v.path ≠ [])
    (hbelow : Settings.isLayer below = true) : Settings.isLayer layer = true := by
  induction h with
  | nil => exact hbelow
  | unset _ _ ih => exact ih (fun v hv => hpaths v (List.mem_cons_of_mem _ hv)) hbelow
  | @set _ v _ _ _ _ _ _ _ ih =>
    refine ih (fun v hv => hpaths v (List.mem_cons_of_mem _ hv)) ?_
    cases hpath : v.path with
    | nil => exact absurd hpath (hpaths v List.mem_cons_self)
    | cons name path => rfl

/-- A path that lies apart from all variables is left alone. -/
theorem at?_of_apart {path : List String} (h : Lays env below vars layer)
    (hapart : ∀ v ∈ vars, Apart v.path path) : layer.at? path = below.at? path := by
  induction h with
  | nil => rfl
  | unset _ _ ih => exact ih fun v hv => hapart v (List.mem_cons_of_mem _ hv)
  | @set below v _ _ _ value _ hread _ ih =>
    have hv : Apart v.path path := hapart v List.mem_cons_self
    have hnested := Variable.distinct_nested (Variable.leaf_of_read hread).2 v.path
    rw [ih fun v hv => hapart v (List.mem_cons_of_mem _ hv)]
    exact (hnested.at?_over_of_none (Variable.at?_nested_of_apart hv value) below).1
      (Variable.not_blocks_nested (.inr hv) value)

/-- Nothing comes into the way of paths to variables or apart from them. -/
theorem not_blocks {path : List String} (h : Lays env below vars layer)
    (hpaths : ∀ v ∈ vars, v.path = path ∨ Apart v.path path) (hbelow : ¬ below.Blocks path) :
    ¬ layer.Blocks path := by
  induction h with
  | nil => exact hbelow
  | unset _ _ ih => exact ih (fun v hv => hpaths v (List.mem_cons_of_mem _ hv)) hbelow
  | @set _ v _ _ _ value _ hread _ ih =>
    have hnested := Variable.distinct_nested (Variable.leaf_of_read hread).2 v.path
    exact ih (fun v hv => hpaths v (List.mem_cons_of_mem _ hv))
      (hnested.not_blocks_over
        (Variable.not_blocks_nested (hpaths v List.mem_cons_self) value) hbelow)

/-- At the path of a variable is what it is read as, if it is set, and otherwise
what was there before. -/
theorem at?_path (h : Lays env below vars layer)
    (hapart : vars.Pairwise fun v u => Apart u.path v.path) {v : Variable} (hv : v ∈ vars) :
    match env v.name with
    | some text => ∃ value, v.read text = .ok value ∧ layer.at? v.path = some value
    | none => layer.at? v.path = below.at? v.path := by
  induction h with
  | nil => cases hv
  | unset hunset hrest ih =>
    obtain ⟨hfirst, hothers⟩ := List.pairwise_cons.1 hapart
    rcases List.mem_cons.1 hv with rfl | hv
    · rw [hunset]
      exact hrest.at?_of_apart hfirst
    · exact ih hothers hv
  | @set below u _ _ _ value hset hread hrest ih =>
    obtain ⟨hfirst, hothers⟩ := List.pairwise_cons.1 hapart
    obtain ⟨hleaf, hdistinct⟩ := Variable.leaf_of_read hread
    have hnested := Variable.distinct_nested hdistinct u.path
    rcases List.mem_cons.1 hv with rfl | hv
    · rw [hset]
      refine ⟨value, hread, ?_⟩
      rw [hrest.at?_of_apart hfirst, hnested.at?_over_of_some (Variable.at?_nested v.path value),
        hleaf.over_eq]
    · -- What this variable is read as is in the way of no other one.
      have hu : Apart u.path v.path := by
        have := hfirst v hv
        exact ⟨this.2, this.1⟩
      have hkept := (hnested.at?_over_of_none (Variable.at?_nested_of_apart hu value) below).1
        (Variable.not_blocks_nested (.inr hu) value)
      rw [← hkept]
      exact ih hothers hv

end Lays

/-- The layer of the environment, path by path: each variable decides about its own path only. -/
structure Says (env : Environment) (layer : Json) : Prop where
  /-- It is an object. -/
  isLayer : Settings.isLayer layer = true
  /-- No name is repeated in it. -/
  distinct : layer.Distinct
  /-- It has what the variables that are set are read as, and nothing else. -/
  at?_path : ∀ v ∈ Variable.all, match env v.name with
    | some text => ∃ value, v.read text = .ok value ∧ layer.at? v.path = some value
    | none => layer.at? v.path = none
  /-- It is in the way of no setting. -/
  not_blocks : ∀ v ∈ Variable.all, ¬ layer.Blocks v.path

/-- The paths of the variables lie apart. -/
theorem apart_all : Variable.all.Pairwise fun v u => Apart u.path v.path := by decide

/-- The environment says what its variables say. -/
theorem says_of_layer (h : env.layer = .ok layer) : Says env layer := by
  have hlays : Lays env (.object []) Variable.all layer := lays_of_layOver h
  refine ⟨hlays.isLayer (by decide) rfl, hlays.distinct (.object List.nodup_nil nofun),
    fun v hv => ?_, fun v hv => ?_⟩
  · have hpath := hlays.at?_path apart_all hv
    have hempty : (Json.object []).at? v.path = none := by
      have hpaths : ∀ v ∈ Variable.all, v.path ≠ [] := by decide
      cases hpath : v.path with
      | nil => exact absurd hpath (hpaths v hv)
      | cons name path => rfl
    rwa [hempty] at hpath
  · have hpaths : ∀ v ∈ Variable.all, ∀ u ∈ Variable.all, u.path = v.path ∨
        Apart u.path v.path := by decide
    exact hlays.not_blocks (hpaths v hv) (not_blocks_empty v.path)

end Environment

end Rehearsal
