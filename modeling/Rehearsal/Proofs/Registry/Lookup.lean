import Rehearsal.Proofs.Pattern.Written
import Rehearsal.Proofs.Pattern.WholeText
import Rehearsal.Proofs.Registry.Registration
import Rehearsal.Proofs.Regex.Sets
import Rehearsal.Proofs.Run.Classification

/-!
# Lookup by sets

A built registry matches a text against all patterns of a kind at once and finds the definitions
by the places of their patterns. As long as a set tells the places of exactly the expressions
that match, this finds what trying one definition after the other finds. So what is for a text
depends on the definitions that match it and on nothing else: not on keywords, and not on
definitions that do not match.
-/

namespace Rehearsal

open Registry

variable {W σ ν δ : Type}

/-! ## Sets and patterns -/

/-- The regular expression of a pattern reads back as what its program is made of. -/
theorem Pattern.parse_of_compile {source : String} {p : Pattern}
    (h : Pattern.compile source = .ok p) :
    ∃ e, Regex.parse p.regex.toList = .ok e ∧ p.program = e.program := by
  by_cases hsource : source.toList.head? = some '^'
  · obtain ⟨e, he, rfl⟩ := compile_eq_ok_of_caret hsource h
    exact ⟨e, he, rfl⟩
  · obtain ⟨ps, -, rfl⟩ := compile_eq_ok hsource h
    exact ⟨expr ps, parse_written ps, rfl⟩

/-- It matches what the pattern matches. -/
theorem Pattern.matches_regex_iff {source text : String} {p : Pattern}
    (h : Pattern.compile source = .ok p) :
    Regex.Matches p.regex text ↔ p.isMatch text = true := by
  obtain ⟨e, he, hprogram⟩ := parse_of_compile h
  rw [isMatch, find, hprogram]
  simp [Regex.Matches, he]

namespace Registry

variable {m : Regex.SetMatcher}

/-- Definitions that are found by the places of their patterns are those whose patterns match. -/
theorem select_eq_filter (hm : m.Lawful) {kind : DefinitionKind} {pattern : δ → Pattern}
    {definitions : List δ} {set : m.Prepared}
    (hset : patternSet m kind (definitions.map pattern) = .ok set)
    (hcompiled : ∀ d ∈ definitions, ∃ source, Pattern.compile source = .ok (pattern d))
    (text : String) :
    select m set definitions text = definitions.filter fun d => (pattern d).isMatch text := by
  have hprepare : m.prepare ((definitions.map pattern).map Pattern.regex) = .ok set :=
    mapError_ok_iff.1 hset
  refine Regex.filterMap_places (hm.increasing hprepare text) fun place => ?_
  rw [hm.mem_places hprepare]
  simp only [List.getElem?_map, Option.map_map, Option.map_eq_some_iff]
  constructor
  · rintro ⟨_, ⟨d, hd, rfl⟩, hmatch⟩
    obtain ⟨source, hcompile⟩ := hcompiled d (List.mem_of_getElem? hd)
    exact ⟨d, hd, (Pattern.matches_regex_iff hcompile).1 hmatch⟩
  · rintro ⟨d, hd, hmatch⟩
    obtain ⟨source, hcompile⟩ := hcompiled d (List.mem_of_getElem? hd)
    exact ⟨_, ⟨d, hd, rfl⟩, (Pattern.matches_regex_iff hcompile).2 hmatch⟩

/-! ## What is for a text -/

variable {r : Registry W σ ν} {text : String} {d : StepDefinition W σ ν} {captures : List String}
  {ds : List (StepDefinition W σ ν)}

theorem resolve_eq_noMatch_iff : r.resolve text = .noMatch ↔ r.matchingSteps text = [] := by
  rcases hfound : r.matchingSteps text with _ | ⟨d, _ | ⟨d', ds⟩⟩
  · simp [resolve, hfound]
  · obtain ⟨captures, -, hresolve⟩ := resolve_of_one hfound
    simp [hresolve]
  · simp [resolve, hfound]

theorem resolve_eq_unique_iff : r.resolve text = .unique d captures ↔
    r.matchingSteps text = [d] ∧ d.pattern.captures text = some captures := by
  rcases hfound : r.matchingSteps text with _ | ⟨d', _ | ⟨d', ds⟩⟩
  · simp [resolve, hfound]
  · obtain ⟨captures', hcaptures, hresolve⟩ := resolve_of_one hfound
    rw [hresolve]
    simp only [Resolution.unique.injEq, List.cons.injEq, and_true]
    constructor
    · rintro ⟨rfl, rfl⟩
      exact ⟨rfl, hcaptures⟩
    · rintro ⟨rfl, h⟩
      exact ⟨rfl, Option.some.inj (hcaptures.symm.trans h)⟩
  · simp [resolve, hfound]

theorem resolve_eq_ambiguous_iff :
    r.resolve text = .ambiguous ds ↔ r.matchingSteps text = ds ∧ 2 ≤ ds.length := by
  constructor
  · intro h
    have hseveral : 2 ≤ (r.matchingSteps text).length := by
      rcases hfound : r.matchingSteps text with _ | ⟨d, _ | ⟨d', others⟩⟩
      · rw [resolve_eq_noMatch_iff.2 hfound] at h
        cases h
      · obtain ⟨captures, -, hresolve⟩ := resolve_of_one hfound
        rw [hresolve] at h
        cases h
      · simp
    rw [resolve_of_several hseveral] at h
    exact ⟨Resolution.ambiguous.inj h, Resolution.ambiguous.inj h ▸ hseveral⟩
  · rintro ⟨rfl, hseveral⟩
    exact resolve_of_several hseveral

/-- One more definition that matches comes after the others. -/
theorem resolve_of_append {r' : Registry W σ ν}
    (h : r'.matchingSteps text = r.matchingSteps text ++ [d]) :
    (r.resolve text = .noMatch →
      ∃ captures, d.pattern.captures text = some captures ∧ r'.resolve text = .unique d captures) ∧
    (∀ first captures, r.resolve text = .unique first captures →
      r'.resolve text = .ambiguous [first, d]) ∧
    ∀ ds, r.resolve text = .ambiguous ds → r'.resolve text = .ambiguous (ds ++ [d]) := by
  refine ⟨fun hnone => ?_, fun first captures hunique => ?_, fun ds hambiguous => ?_⟩
  · rw [resolve_eq_noMatch_iff.1 hnone] at h
    obtain ⟨captures, hcaptures, hresolve⟩ := resolve_of_one h
    exact ⟨captures, hcaptures, hresolve⟩
  · rw [(resolve_eq_unique_iff.1 hunique).1] at h
    exact resolve_eq_ambiguous_iff.2 ⟨h, by simp⟩
  · obtain ⟨hds, hlength⟩ := resolve_eq_ambiguous_iff.1 hambiguous
    rw [hds] at h
    exact resolve_eq_ambiguous_iff.2 ⟨h, by simp; omega⟩

/-- What is for a text, in a registry whose sets tell the definitions that match. -/
theorem Indexed.matchStep_eq {r : Indexed m W σ ν}
    (h : r.matchingSteps text = r.registry.matchingSteps text) :
    r.matchStep text = r.registry.resolve text := by
  rw [matchStep, h]
  rcases hfound : r.registry.matchingSteps text with _ | ⟨d, _ | ⟨d', ds⟩⟩
  · rw [resolve_eq_noMatch_iff.2 hfound]
    rfl
  · obtain ⟨captures, hcaptures, hresolve⟩ := resolve_of_one hfound
    simp [hresolve, hcaptures]
  · rw [resolve_eq_ambiguous_iff.2 ⟨hfound, by simp⟩]
    simp

/-- A step is run in the same way whatever its keyword is, which its record only repeats. -/
theorem execute_keyword (r : Registry W σ ν) (step : Step) (keyword : Keyword) (t : W × σ) :
    r.execute { step with keyword } t =
      ({ (r.execute step t).1 with keyword }, (r.execute step t).2.1, (r.execute step t).2.2) := by
  rw [execute, execute]
  cases hresolve : r.resolve step.text with
  | noMatch => simp [preview, hresolve, StepReport.skipped]
  | ambiguous ds => simp [preview, hresolve, StepReport.skipped]
  | unique d captures => simp [Journaled.bind_apply]

end Registry

/-! ## Keywords -/

/-- The definition without a keyword. -/
def StepDefinition.unkeyed (d : StepDefinition W σ ν) : StepDefinition W σ ν :=
  { d with keyword := none }

/-- What is for a text, without keywords. -/
def Resolution.unkeyed : Resolution W σ ν → Resolution W σ ν
  | .noMatch => .noMatch
  | .unique d captures => .unique d.unkeyed captures
  | .ambiguous ds => .ambiguous (ds.map StepDefinition.unkeyed)

/-- The registration without a keyword. -/
def Registration.unkeyed : Registration W σ ν → Registration W σ ν
  | .step _ source code => .step none source code
  | registration => registration

namespace Registry

/-- The builder with its steps without keywords. -/
def Builder.unkeyed (b : Builder W σ ν) : Builder W σ ν :=
  { b with steps := { b.steps with definitions := b.steps.definitions.map StepDefinition.unkeyed } }

/-- Registering does not look at keywords. -/
theorem Builder.register_unkeyed (b : Builder W σ ν) (registration : Registration W σ ν) :
    b.unkeyed.register registration.unkeyed =
      ((b.register registration).1, (b.register registration).2.unkeyed) := by
  cases registration with
  | step keyword source code =>
    rw [Registration.unkeyed, register, register, compiling, compiling]
    cases Pattern.compile source with
    | error e => rfl
    | ok p =>
      simp only [registerStep, Shelf.register_eq, unkeyed]
      by_cases htaken : p.source ∈ b.steps.sources <;> simp [htaken, StepDefinition.unkeyed]
  | transform source code | tableTransform source code =>
    simp only [Registration.unkeyed, register, compiling]
    cases Pattern.compile source <;> rfl
  | hook scope filter code => rfl

theorem Builder.registerAll_unkeyed (b : Builder W σ ν)
    (registrations : List (Registration W σ ν)) :
    b.unkeyed.registerAll (registrations.map Registration.unkeyed) =
      ((b.registerAll registrations).1, (b.registerAll registrations).2.unkeyed) := by
  induction registrations generalizing b with
  | nil => rfl
  | cons registration rest ih =>
    rw [List.map_cons, registerAll_cons, registerAll_cons, register_unkeyed, ih]

variable {m : Regex.SetMatcher}

/-- The sets of a registry are of patterns, which keywords are no part of. -/
theorem patternSets_unkeyed (b : Builder W σ ν) :
    patternSets m b.unkeyed.registry = patternSets m b.registry := by
  have hpatterns : b.unkeyed.registry.steps.map StepDefinition.pattern =
      b.registry.steps.map StepDefinition.pattern := List.map_map
  rw [patternSets, patternSets, hpatterns]
  rfl

/-- Definitions that differ in keywords only match alike. -/
theorem matchingSteps_unkeyed {r r' : Registry W σ ν}
    (h : r'.steps.map StepDefinition.unkeyed = r.steps.map StepDefinition.unkeyed) (text : String) :
    (r'.matchingSteps text).map StepDefinition.unkeyed =
      (r.matchingSteps text).map StepDefinition.unkeyed := by
  have hfilter : ∀ r : Registry W σ ν, (r.matchingSteps text).map StepDefinition.unkeyed =
      (r.steps.map StepDefinition.unkeyed).filter fun d => d.pattern.isMatch text := fun r => by
    rw [List.filter_map, matchingSteps]
    rfl
  rw [hfilter, hfilter, h]

/-- What is for a text, keywords aside, depends on the definitions that match it, keywords aside. -/
theorem resolve_unkeyed {r r' : Registry W σ ν} {text : String}
    (h : (r'.matchingSteps text).map StepDefinition.unkeyed =
      (r.matchingSteps text).map StepDefinition.unkeyed) :
    (r'.resolve text).unkeyed = (r.resolve text).unkeyed := by
  rcases hfound : r.matchingSteps text with _ | ⟨d, _ | ⟨d', ds⟩⟩
  · rw [hfound, List.map_nil, List.map_eq_nil_iff] at h
    rw [resolve_eq_noMatch_iff.2 hfound, resolve_eq_noMatch_iff.2 h]
  · rw [hfound, List.map_singleton, List.map_eq_singleton_iff] at h
    obtain ⟨d', hfound', hd⟩ := h
    obtain ⟨captures, hcaptures, hresolve⟩ := resolve_of_one hfound
    have hpattern : d'.unkeyed.pattern = d.unkeyed.pattern := congrArg StepDefinition.pattern hd
    change d'.pattern = d.pattern at hpattern
    rw [hresolve, resolve_eq_unique_iff.2 ⟨hfound', hpattern ▸ hcaptures⟩, Resolution.unkeyed,
      Resolution.unkeyed, hd]
  · have hlength := congrArg List.length h
    rw [List.length_map, List.length_map, hfound] at hlength
    rw [resolve_of_several (r := r) (by simp [hfound]),
      resolve_of_several (r := r') (by simp [hlength]), Resolution.unkeyed, Resolution.unkeyed, h]

/-! ## Built registries -/

namespace Builder

variable {b : Builder W σ ν}

theorem accepted_append (b : Builder W σ ν) (registrations more : List (Registration W σ ν)) :
    b.accepted (registrations ++ more) =
      b.accepted registrations ++ (b.registerAll registrations).2.accepted more := by
  induction registrations generalizing b with
  | nil => rfl
  | cons registration rest ih =>
    cases hresult : (b.register registration).1 with
    | error e =>
      rw [List.cons_append, accepted_cons_of_error hresult, accepted_cons_of_error hresult, ih,
        registerAll_cons]
    | ok _ =>
      rw [List.cons_append, accepted_cons_of_ok hresult, accepted_cons_of_ok hresult, ih,
        registerAll_cons, List.cons_append]

theorem acceptedOf_append (registrations more : List (Registration W σ ν)) :
    acceptedOf (registrations ++ more) =
      acceptedOf registrations ++ (ofRegistrations registrations).accepted more :=
  accepted_append _ _ _

end Builder

/-- The step definitions of registrations whose patterns match a text, in order. -/
def matchingAmong (registrations : List (Registration W σ ν)) (text : String) :
    List (StepDefinition W σ ν) :=
  (registrations.filterMap Registration.step?).filter fun d => d.pattern.isMatch text

theorem matchingAmong_append (registrations more : List (Registration W σ ν)) (text : String) :
    matchingAmong (registrations ++ more) text =
      matchingAmong registrations text ++ matchingAmong more text := by
  rw [matchingAmong, List.filterMap_append, List.filter_append]
  rfl

theorem matchingAmong_step {source text : String} {p : Pattern}
    (hcompile : Pattern.compile source = .ok p) (hmatch : p.isMatch text = true)
    (keyword : Option Keyword) (code : StepCode W σ ν) :
    matchingAmong [.step keyword source code] text = [⟨keyword, p, code⟩] := by
  have hstep : (Registration.step keyword source code : Registration W σ ν).step? =
      some ⟨keyword, p, code⟩ := by
    rw [Registration.step?, hcompile]
    rfl
  rw [matchingAmong, List.filterMap_cons_some hstep, List.filterMap_nil]
  exact List.filter_eq_self.2 fun d hd => by rw [List.mem_singleton.1 hd]; exact hmatch

/-- A built registry finds the definitions that match, of those that have been
registered with success. -/
structure Indexed.Finds (r : Indexed m W σ ν) (accepted : List (Registration W σ ν)) : Prop where
  /-- Those for a text are its step definitions that match. -/
  steps : ∀ text, r.registry.matchingSteps text = matchingAmong accepted text
  /-- And are found by their places. -/
  matchStep : ∀ text, r.matchStep text = r.registry.resolve text
  /-- So are the transforms of captures. -/
  transforms : ∀ capture, r.matchingTransforms capture = r.registry.matchingTransforms capture
  /-- And those of tables. -/
  tableTransforms : ∀ signature, r.matchingTableTransforms signature =
    r.registry.matchingTableTransforms signature

/-- What further registrations bring comes after what is there. -/
theorem Indexed.Finds.matchingSteps_append {registrations more : List (Registration W σ ν)}
    {r r' : Indexed m W σ ν} (h : r.Finds (Builder.acceptedOf registrations))
    (h' : r'.Finds (Builder.acceptedOf (registrations ++ more))) (text : String) :
    r'.registry.matchingSteps text =
      r.registry.matchingSteps text ++
        matchingAmong ((Builder.ofRegistrations registrations).accepted more) text := by
  rw [h'.steps, Builder.acceptedOf_append, matchingAmong_append, h.steps]

/-- The sets of a registry are made of the patterns of its kinds. -/
theorem patternSet_of_patternSets {r : Registry W σ ν} {sets : PatternSets m}
    (h : patternSets m r = .ok sets) :
    patternSet m .step (r.steps.map StepDefinition.pattern) = .ok sets.steps ∧
      patternSet m .transform (r.transforms.map TransformDefinition.pattern) = .ok sets.transforms ∧
      patternSet m .tableTransform (r.tableTransforms.map TableTransformDefinition.pattern) =
        .ok sets.tableTransforms := by
  obtain ⟨steps, hsteps, h⟩ := ok_of_bind h
  obtain ⟨transforms, htransforms, h⟩ := ok_of_bind h
  obtain ⟨tableTransforms, htables, h⟩ := ok_of_bind h
  obtain rfl := Except.ok.inj h
  exact ⟨hsteps, htransforms, htables⟩

/-- What is registered has been compiled. -/
theorem exists_source_of_map {source : String} {f : Pattern → δ} {pattern : δ → Pattern} {d : δ}
    (hpattern : ∀ p, pattern (f p) = p) (h : (Pattern.compile source).toOption.map f = some d) :
    ∃ source, Pattern.compile source = .ok (pattern d) := by
  cases hcompile : Pattern.compile source with
  | error e =>
    rw [hcompile] at h
    cases h
  | ok p =>
    rw [hcompile] at h
    obtain rfl := Option.some.inj h
    exact ⟨source, by rw [hpattern, hcompile]⟩

/-- The patterns of a registry have been compiled. -/
structure Compiled (r : Registry W σ ν) : Prop where
  /-- Those of the steps. -/
  steps : ∀ d ∈ r.steps, ∃ source, Pattern.compile source = .ok d.pattern
  /-- Those of the transforms of captures. -/
  transforms : ∀ d ∈ r.transforms, ∃ source, Pattern.compile source = .ok d.pattern
  /-- Those of the transforms of tables. -/
  tableTransforms : ∀ d ∈ r.tableTransforms, ∃ source, Pattern.compile source = .ok d.pattern

theorem Holds.compiled {r : Registry W σ ν} {registrations : List (Registration W σ ν)}
    (h : r.Holds registrations) :
    r.Compiled where
  steps d hd := by
    obtain ⟨registration, -, hregistration⟩ := List.mem_filterMap.1 (h.steps ▸ hd)
    cases registration with
    | step => exact exists_source_of_map (fun _ => rfl) hregistration
    | _ => cases hregistration
  transforms d hd := by
    obtain ⟨registration, -, hregistration⟩ := List.mem_filterMap.1 (h.transforms ▸ hd)
    cases registration with
    | transform => exact exists_source_of_map (fun _ => rfl) hregistration
    | _ => cases hregistration
  tableTransforms d hd := by
    obtain ⟨registration, -, hregistration⟩ := List.mem_filterMap.1 (h.tableTransforms ▸ hd)
    cases registration with
    | tableTransform => exact exists_source_of_map (fun _ => rfl) hregistration
    | _ => cases hregistration

/-- What a builder builds holds the registrations that have succeeded. -/
theorem Builder.ofRegistrations_holds (registrations : List (Registration W σ ν)) :
    (Builder.ofRegistrations registrations).registry.Holds (Builder.acceptedOf registrations) :=
  have ⟨hconsistent, hbuilt⟩ := Builder.ofRegistrations_consistent registrations
  hconsistent.holds hbuilt

/-- A registry that is built finds what matches. -/
theorem finds_of_build (hm : m.Lawful) {registrations : List (Registration W σ ν)}
    {r : Indexed m W σ ν} (h : (Builder.ofRegistrations registrations).build m = .ok r) :
    r.Finds (Builder.acceptedOf registrations) := by
  have hholds := Builder.ofRegistrations_holds registrations
  obtain ⟨sets, hsets, rfl⟩ := exists_of_map h
  obtain ⟨hsteps, htransforms, htables⟩ := patternSet_of_patternSets hsets
  exact {
    steps := fun text => by rw [matchingSteps, hholds.steps, matchingAmong]
    matchStep := fun text =>
      Indexed.matchStep_eq (select_eq_filter hm hsteps hholds.compiled.steps text)
    transforms := select_eq_filter hm htransforms hholds.compiled.transforms
    tableTransforms := select_eq_filter hm htables hholds.compiled.tableTransforms }

/-- Sets of compiled patterns that are matched one after the other consist of their programs. -/
theorem patternSet_oneByOne {kind : DefinitionKind} {pattern : δ → Pattern} {definitions : List δ}
    (hcompiled : ∀ d ∈ definitions, ∃ source, Pattern.compile source = .ok (pattern d)) :
    patternSet .oneByOne kind (definitions.map pattern) =
      .ok (definitions.map fun d => (pattern d).program) := by
  have hprograms : ((definitions.map pattern).map Pattern.regex).mapM
      (fun written => (Regex.parse written.toList).map Regex.Expr.program) =
      .ok (definitions.map fun d => (pattern d).program) := by
    rw [mapM_ok_iff, List.forall₂_map_left_iff, List.forall₂_map_left_iff,
      List.forall₂_map_right_iff, List.forall₂_same]
    intro d hd
    obtain ⟨source, hcompile⟩ := hcompiled d hd
    obtain ⟨e, he, hprogram⟩ := Pattern.parse_of_compile hcompile
    rw [he, hprogram]
    rfl
  exact mapError_ok_iff.2 (mapError_ok_iff.2 hprograms)

/-- Whatever has been registered, there are such sets of it. -/
theorem Builder.exists_build_oneByOne (registrations : List (Registration W σ ν)) :
    ∃ r, (Builder.ofRegistrations registrations).build .oneByOne = .ok r := by
  have hcompiled := (Builder.ofRegistrations_holds registrations).compiled
  rw [build, patternSets, patternSet_oneByOne hcompiled.steps,
    patternSet_oneByOne hcompiled.transforms, patternSet_oneByOne hcompiled.tableTransforms]
  exact ⟨_, rfl⟩

/-- Keywords do not matter for building. -/
theorem exists_build_of_unkeyed {registrations others : List (Registration W σ ν)}
    {r : Indexed m W σ ν} (h : (Builder.ofRegistrations registrations).build m = .ok r)
    (hothers : others.map Registration.unkeyed = registrations.map Registration.unkeyed) :
    ∃ r', (Builder.ofRegistrations others).build m = .ok r' ∧
      r'.registry.steps.map StepDefinition.unkeyed =
        r.registry.steps.map StepDefinition.unkeyed := by
  have hsame : (Builder.ofRegistrations others).unkeyed =
      (Builder.ofRegistrations registrations).unkeyed := by
    have hregistrations := Builder.registerAll_unkeyed ({} : Builder W σ ν) registrations
    rw [← hothers, Builder.registerAll_unkeyed] at hregistrations
    exact (Prod.mk.inj hregistrations).2
  obtain ⟨sets, hsets, rfl⟩ := exists_of_map h
  refine ⟨⟨(Builder.ofRegistrations others).registry, sets⟩, ?_, ?_⟩
  · rw [Builder.build, ← patternSets_unkeyed, hsame, patternSets_unkeyed, hsets]
    rfl
  · exact congrArg (fun b => b.steps.definitions) hsame

/-- What is for a text follows from the definitions that have been registered with
success and match it. -/
structure FollowsMatches (m : Regex.SetMatcher) (registrations : List (Registration W σ ν))
    (r : Indexed m W σ ν) :
    Prop where
  /-- There is no definition for it if none matches. -/
  noMatch : ∀ text, r.matchStep text = .noMatch ↔
    matchingAmong (Builder.acceptedOf registrations) text = []
  /-- If a single one does, it is this one, with what its pattern captures. -/
  unique : ∀ text d captures, r.matchStep text = .unique d captures ↔
    matchingAmong (Builder.acceptedOf registrations) text = [d] ∧
    d.pattern.captures text = some captures
  /-- What matches also captures. -/
  captured : ∀ text, ∀ d ∈ matchingAmong (Builder.acceptedOf registrations) text,
    ∃ captures, d.pattern.captures text = some captures
  /-- If several do, they are these, in the order of registration. -/
  ambiguous : ∀ text ds, r.matchStep text = .ambiguous ds ↔
    matchingAmong (Builder.acceptedOf registrations) text = ds ∧ 2 ≤ ds.length
  /-- That is what trying the definitions one after the other comes to. -/
  resolved : ∀ text, r.matchStep text = r.registry.resolve text
  /-- The keywords of definitions do not matter. -/
  keywords : ∀ others : List (Registration W σ ν),
    others.map Registration.unkeyed = registrations.map Registration.unkeyed →
    ∃ r', (Builder.ofRegistrations others).build m = .ok r' ∧
      ∀ text, (r'.matchStep text).unkeyed = (r.matchStep text).unkeyed
  /-- Nor does that of the step. -/
  spoken : ∀ (step : Step) keyword t, r.registry.execute { step with keyword } t =
    ({ (r.registry.execute step t).1 with keyword }, (r.registry.execute step t).2.1,
      (r.registry.execute step t).2.2)
  /-- Further definitions that do not match change nothing. -/
  further : ∀ (more : List (Registration W σ ν)) r',
    (Builder.ofRegistrations (registrations ++ more)).build m = .ok r' →
    ∀ text, matchingAmong ((Builder.ofRegistrations registrations).accepted more) text = [] →
      r'.matchStep text = r.matchStep text
  /-- One more that matches comes after the others. -/
  oneMore : ∀ keyword source code r' p,
    ((Builder.ofRegistrations registrations).register (.step keyword source code)).1 = .ok () →
    (Builder.ofRegistrations (registrations ++ [.step keyword source code])).build m = .ok r' →
    Pattern.compile source = .ok p → ∀ text, p.isMatch text = true →
      (r.matchStep text = .noMatch →
        ∃ captures, p.captures text = some captures ∧
          r'.matchStep text = .unique ⟨keyword, p, code⟩ captures) ∧
      (∀ d captures, r.matchStep text = .unique d captures →
        r'.matchStep text = .ambiguous [d, ⟨keyword, p, code⟩]) ∧
      ∀ ds, r.matchStep text = .ambiguous ds →
        r'.matchStep text = .ambiguous (ds ++ [⟨keyword, p, code⟩])

/-- A built registry finds for a text what the definitions that match it call for. -/
theorem build_followsMatches (hm : m.Lawful) {registrations : List (Registration W σ ν)}
    {r : Indexed m W σ ν} (h : (Builder.ofRegistrations registrations).build m = .ok r) :
    FollowsMatches m registrations r := by
  have hfinds := finds_of_build hm h
  refine {
    noMatch := fun text => by rw [hfinds.matchStep, resolve_eq_noMatch_iff, hfinds.steps]
    unique := fun text d captures => by rw [hfinds.matchStep, resolve_eq_unique_iff, hfinds.steps]
    captured := fun text d hd => ?_
    ambiguous := fun text ds => by rw [hfinds.matchStep, resolve_eq_ambiguous_iff, hfinds.steps]
    resolved := hfinds.matchStep
    keywords := fun others hothers => ?_
    spoken := r.registry.execute_keyword
    further := fun more r' h' text hnone => ?_
    oneMore := fun keyword source code r' p haccepted h' hcompile text hmatch => ?_ }
  · obtain ⟨captures, hcaptures, -⟩ := Pattern.exists_captures (List.mem_filter.1 hd).2
    exact ⟨captures, hcaptures⟩
  · obtain ⟨r', h', hsteps⟩ := exists_build_of_unkeyed h hothers
    refine ⟨r', h', fun text => ?_⟩
    rw [(finds_of_build hm h').matchStep, hfinds.matchStep]
    exact resolve_unkeyed (matchingSteps_unkeyed hsteps text)
  · have hfinds' := finds_of_build hm h'
    have hsteps := hfinds.matchingSteps_append hfinds' text
    rw [hnone, List.append_nil] at hsteps
    rw [hfinds'.matchStep, hfinds.matchStep, resolve, hsteps, resolve]
  · have hfinds' := finds_of_build hm h'
    have hsteps := hfinds.matchingSteps_append hfinds' text
    rw [Builder.accepted_cons_of_ok haccepted] at hsteps
    rw [hfinds'.matchStep, hfinds.matchStep]
    exact resolve_of_append (hsteps.trans
      (congrArg _ (matchingAmong_step hcompile hmatch keyword code)))

/-- What shipments are of, by another name. -/
def cargo : List Pattern.Piece := "ship ".toList.map .literal ++ [.placeholder "cargo" none]

/-- A step for the same sentences as `shipmentStep`. -/
def cargoStep : StepDefinition Unit Unit Unit where
  keyword := some .given
  pattern := ⟨"ship \x7bcargo\x7d", Pattern.written cargo, (Pattern.expr cargo).program⟩
  code := shipmentStep.code

theorem compile_cargo : Pattern.compile "ship \x7bcargo\x7d" = .ok cargoStep.pattern := by
  have hpieces : Pattern.pieces "ship \x7bcargo\x7d".toList = .ok cargo := by decide +kernel
  rw [Pattern.compile_of_pieces (by decide) hpieces]
  exact if_pos (Regex.Expr.fits_of_room rfl (by decide +kernel))

theorem isMatch_cargo : cargoStep.pattern.isMatch "ship apples" = true := by
  have hreadings : Pattern.readings cargo "ship apples".toList = [["apples".toList]] := by
    decide +kernel
  rw [cargoStep, Pattern.isMatch_program, hreadings]
  rfl

/-- What registers `shipmentStep`. -/
def registerShipment : Registration Unit Unit Unit :=
  .step none "ship \x7bgoods\x7d" shipmentStep.code

/-- What registers `cargoStep`. -/
def registerCargo : Registration Unit Unit Unit :=
  .step (some .given) "ship \x7bcargo\x7d" cargoStep.code

/-- With one of the steps a shipment is unique, with both it is ambiguous. -/
theorem shipments_followMatches :
    ∃ r r',
      (Builder.ofRegistrations [registerShipment]).build .oneByOne = .ok r ∧
      (Builder.ofRegistrations [registerShipment, registerCargo]).build .oneByOne = .ok r' ∧
      r.matchStep "ship apples" = .unique shipmentStep ["apples"] ∧
      r'.matchStep "ship apples" = .ambiguous [shipmentStep, cargoStep] := by
  obtain ⟨r, h⟩ := Builder.exists_build_oneByOne [registerShipment]
  obtain ⟨r', h'⟩ := Builder.exists_build_oneByOne [registerShipment, registerCargo]
  have hfollows := build_followsMatches Regex.SetMatcher.oneByOne_lawful h
  have hshipment : ({} : Builder Unit Unit Unit).register registerShipment =
      (.ok (), { steps := ⟨[shipmentStep], ["ship \x7bgoods\x7d"]⟩ }) := by
    rw [registerShipment, Builder.register, Builder.compiling, compile_shipment]
    rfl
  have hcargo : ((Builder.ofRegistrations [registerShipment]).register
      registerCargo).1 = .ok () := by
    rw [Builder.ofRegistrations, Builder.registerAll_cons, hshipment, registerCargo,
      Builder.register, Builder.compiling, compile_cargo]
    rfl
  have hone : matchingAmong (Builder.acceptedOf [registerShipment]) "ship apples" =
      [shipmentStep] := by
    rw [Builder.acceptedOf, Builder.accepted_cons_of_ok (congrArg Prod.fst hshipment)]
    exact matchingAmong_step compile_shipment isMatch_shipment none shipmentStep.code
  have hunique := (hfollows.unique "ship apples" shipmentStep ["apples"]).2
    ⟨hone, captures_shipment⟩
  have hambiguous := (hfollows.oneMore (some .given) _ _ r' _ hcargo h' compile_cargo _
    isMatch_cargo).2.1 _ _ hunique
  exact ⟨r, r', h, h', hunique, hambiguous⟩

end Registry

end Rehearsal
