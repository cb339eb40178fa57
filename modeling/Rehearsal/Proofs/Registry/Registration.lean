import Rehearsal.Proofs.Registry.Built
import Rehearsal.Registry.Builder

/-!
# What registrations leave

A registration of a pattern fails if its source is no pattern, or else if an earlier registration of
its kind has succeeded with the same source; it leaves the builder as it was then, so that it has no
part in what follows. The others are what the registry is built of, in their order. The sources that
the builder keeps beside the definitions are those of the definitions, and registering with it is
registering in the registry itself.
-/

namespace Rehearsal

open Registry

variable {W σ ν δ : Type}

/-- A source that is taken is refused, and nothing changes; any other is taken, and its
definition comes last. -/
theorem Shelf.register_eq (s : Shelf δ) (kind : DefinitionKind) (pattern : Pattern) (d : δ) :
    s.register kind pattern d =
      if pattern.source ∈ s.sources then (.error (.duplicatePattern kind pattern.source), s)
      else (.ok (), ⟨s.definitions ++ [d], pattern.source :: s.sources⟩) := by
  rw [Shelf.register, Shelf.claim]
  by_cases htaken : pattern.source ∈ s.sources
  · simp [htaken]
  · simp [htaken]

namespace Registration

/-- The kind and the source that a registration is for. Hooks have none. -/
def claims? : Registration W σ ν → Option (DefinitionKind × String)
  | .step _ source _ => some (.step, source)
  | .transform source _ => some (.transform, source)
  | .tableTransform source _ => some (.tableTransform, source)
  | .hook _ _ _ => none

/-- The step definition that is registered. -/
def step? : Registration W σ ν → Option (StepDefinition W σ ν)
  | .step keyword source code =>
    (Pattern.compile source).toOption.map fun pattern => ⟨keyword, pattern, code⟩
  | _ => none

/-- The transform of captures that is registered. -/
def transform? : Registration W σ ν → Option (TransformDefinition W σ ν)
  | .transform source code => (Pattern.compile source).toOption.map fun pattern => ⟨pattern, code⟩
  | _ => none

/-- The transform of tables that is registered. -/
def tableTransform? : Registration W σ ν → Option (TableTransformDefinition W σ ν)
  | .tableTransform source code =>
    (Pattern.compile source).toOption.map fun pattern => ⟨pattern, code⟩
  | _ => none

/-- The hook that is registered. -/
def hook? : Registration W σ ν → Option (HookDefinition W σ ν)
  | .hook scope filter code => some ⟨scope, filter, code⟩
  | _ => none

end Registration

/-- The sources of the patterns of a kind. -/
def Registry.sourcesOf (r : Registry W σ ν) : DefinitionKind → List String
  | .step => r.steps.map fun d => d.pattern.source
  | .transform => r.transforms.map fun d => d.pattern.source
  | .tableTransform => r.tableTransforms.map fun d => d.pattern.source

/-- Registers a definition in a registry. -/
def Registry.add? (r : Registry W σ ν) :
    Registration W σ ν → Except RegistrationError (Registry W σ ν)
  | .step keyword source code => r.addStep keyword source code
  | .transform source code => r.addTransform source code
  | .tableTransform source code => r.addTableTransform source code
  | .hook scope filter code => .ok (r.addHook scope filter code)

/-- The registry holds what has been registered with success, in order, and no
source twice for a kind. -/
structure Registry.Holds (r : Registry W σ ν)
    (registrations : List (Registration W σ ν)) : Prop where
  /-- The step definitions. -/
  steps : r.steps = registrations.filterMap Registration.step?
  /-- The transforms of captures. -/
  transforms : r.transforms = registrations.filterMap Registration.transform?
  /-- The transforms of tables. -/
  tableTransforms : r.tableTransforms = registrations.filterMap Registration.tableTransform?
  /-- The hooks. -/
  hooks : r.hooks = registrations.filterMap Registration.hook?
  /-- Those of one scope. -/
  hooksOf : ∀ scope, r.hooksOf scope = (registrations.filterMap Registration.hook?).filter fun h =>
    h.scope = scope
  /-- The sources of a kind differ. -/
  distinct : r.Distinct

namespace Registry.Builder

/-- The sources that are taken for a kind. -/
def sourcesOf (b : Builder W σ ν) : DefinitionKind → List String
  | .step => b.steps.sources
  | .transform => b.transforms.sources
  | .tableTransform => b.tableTransforms.sources

/-- The registrations with which a builder goes on, of those that are tried one after the other. -/
def accepted (b : Builder W σ ν) (registrations : List (Registration W σ ν)) :
    List (Registration W σ ν) :=
  (registrations.zip (b.registerAll registrations).1).filterMap fun (registration, result) =>
    match result with
    | .ok () => some registration
    | .error _ => none

/-- What registering a definition with the builder `b` can come to, with the
builder that is left. -/
inductive Registers (b : Builder W σ ν) :
    Registration W σ ν → Except RegistrationError Unit → Builder W σ ν → Prop
  /-- The source is no pattern. -/
  | invalid {registration : Registration W σ ν} {kind : DefinitionKind} {source : String}
    {e : PatternError} (hclaims : registration.claims? = some (kind, source))
    (hcompile : Pattern.compile source = .error e) :
    Registers b registration (.error (.invalidPattern source e)) b
  /-- It is one, but it is taken. -/
  | duplicate {registration : Registration W σ ν} {kind : DefinitionKind}
    {source : String} {p : Pattern} (hclaims : registration.claims? = some (kind, source))
    (hcompile : Pattern.compile source = .ok p) (htaken : source ∈ b.sourcesOf kind) :
    Registers b registration (.error (.duplicatePattern kind source)) b
  | step {keyword : Option Keyword} {source : String} {code : StepCode W σ ν} {p : Pattern}
    (hcompile : Pattern.compile source = .ok p) (hnew : source ∉ b.sourcesOf .step) :
    Registers b (.step keyword source code) (.ok ())
      { b with steps := ⟨b.steps.definitions ++ [⟨keyword, p, code⟩], source :: b.steps.sources⟩ }
  | transform {source : String} {code : TransformCode W σ ν} {p : Pattern}
    (hcompile : Pattern.compile source = .ok p) (hnew : source ∉ b.sourcesOf .transform) :
    Registers b (.transform source code) (.ok ())
      { b with transforms := ⟨b.transforms.definitions ++ [⟨p, code⟩],
        source :: b.transforms.sources⟩ }
  | tableTransform {source : String} {code : TableTransformCode W σ ν} {p : Pattern}
    (hcompile : Pattern.compile source = .ok p) (hnew : source ∉ b.sourcesOf .tableTransform) :
    Registers b (.tableTransform source code) (.ok ())
      { b with tableTransforms := ⟨b.tableTransforms.definitions ++ [⟨p, code⟩],
        source :: b.tableTransforms.sources⟩ }
  | hook (scope : HookScope) (filter : Option TagFilter) (code : HookCode W σ ν) :
    Registers b (.hook scope filter code) (.ok ())
      { b with hooks := b.hooks ++ [⟨scope, filter, code⟩] }

variable {b b' : Builder W σ ν} {registration : Registration W σ ν}
  {registrations : List (Registration W σ ν)} {result : Except RegistrationError Unit}

/-- A source that is no pattern is refused before anything else. -/
theorem registers_compiling {kind : DefinitionKind} {source : String}
    {next : Pattern → Except RegistrationError Unit × Builder W σ ν}
    (hclaims : registration.claims? = some (kind, source))
    (hnext : ∀ p, Pattern.compile source = .ok p → p.source = source →
      b.Registers registration (next p).1 (next p).2) :
    b.Registers registration (b.compiling source next).1 (b.compiling source next).2 := by
  rw [compiling]
  cases hcompile : Pattern.compile source with
  | error e => exact .invalid hclaims hcompile
  | ok p => exact hnext p hcompile (source_of_compile hcompile)

/-- Registering comes to one of these. -/
theorem register_registers (b : Builder W σ ν) (registration : Registration W σ ν) :
    b.Registers registration (b.register registration).1 (b.register registration).2 := by
  cases registration with
  | step keyword source code =>
    refine registers_compiling rfl fun p hcompile hsource => ?_
    subst hsource
    rw [registerStep, Shelf.register_eq]
    by_cases htaken : p.source ∈ b.steps.sources
    · rw [if_pos htaken]
      exact .duplicate rfl hcompile htaken
    · rw [if_neg htaken]
      exact .step hcompile htaken
  | transform source code =>
    refine registers_compiling rfl fun p hcompile hsource => ?_
    subst hsource
    rw [registerTransform, Shelf.register_eq]
    by_cases htaken : p.source ∈ b.transforms.sources
    · rw [if_pos htaken]
      exact .duplicate rfl hcompile htaken
    · rw [if_neg htaken]
      exact .transform hcompile htaken
  | tableTransform source code =>
    refine registers_compiling rfl fun p hcompile hsource => ?_
    subst hsource
    rw [registerTableTransform, Shelf.register_eq]
    by_cases htaken : p.source ∈ b.tableTransforms.sources
    · rw [if_pos htaken]
      exact .duplicate rfl hcompile htaken
    · rw [if_neg htaken]
      exact .tableTransform hcompile htaken
  | hook scope filter code => exact .hook scope filter code

/-! ## Invariants -/

/-- The builder holds what has been registered with success, and keeps the sources of that. -/
structure Consistent (b : Builder W σ ν) (registrations : List (Registration W σ ν)) : Prop where
  /-- The step definitions. -/
  steps : b.steps.definitions = registrations.filterMap Registration.step?
  /-- The transforms of captures. -/
  transforms : b.transforms.definitions = registrations.filterMap Registration.transform?
  /-- The transforms of tables. -/
  tableTransforms : b.tableTransforms.definitions =
    registrations.filterMap Registration.tableTransform?
  /-- The hooks. -/
  hooks : b.hooks = registrations.filterMap Registration.hook?
  /-- The sources that are taken are those that registrations are for. -/
  taken : ∀ kind source, source ∈ b.sourcesOf kind ↔
    ∃ registration ∈ registrations, registration.claims? = some (kind, source)
  /-- And those of the definitions. -/
  tied : ∀ kind source, source ∈ b.sourcesOf kind ↔ source ∈ b.registry.sourcesOf kind

/-- What refuses a registration, and that it leaves the builder as it was. -/
theorem Registers.refused {e : RegistrationError}
    (h : b.Registers registration (.error e) b') : b' = b := by
  cases h <;> rfl

/-- Registering with the builder is registering in its registry. -/
theorem Registers.add?_eq (h : b.Registers registration result b')
    (htied : ∀ kind source, source ∈ b.sourcesOf kind ↔ source ∈ b.registry.sourcesOf kind) :
    b.registry.add? registration = result.map fun _ => b'.registry := by
  have hnew : ∀ {kind source p}, Pattern.compile source = .ok p → source ∉ b.sourcesOf kind →
      Registry.claim kind (b.registry.sourcesOf kind) source = .ok p := fun hcompile hnew =>
    claim_eq_ok_iff.2 ⟨hcompile, fun hmem => hnew ((htied _ _).2 hmem)⟩
  -- A source that cannot be claimed is the only reason why a registration is refused.
  have hrefused : ∀ {kind source e}, registration.claims? = some (kind, source) →
      Registry.claim kind (b.registry.sourcesOf kind) source = .error e →
        b.registry.add? registration = .error e := by
    intro kind source e hclaims hclaim
    cases registration with
    | step | transform | tableTransform =>
      cases hclaims
      exact congrArg (Except.map _) hclaim
    | hook => cases hclaims
  cases h with
  | invalid hclaims hcompile => exact hrefused hclaims (by rw [Registry.claim, hcompile])
  | duplicate hclaims hcompile htaken =>
    refine hrefused hclaims ?_
    rw [Registry.claim, hcompile]
    exact if_pos (List.contains_iff_mem.2 ((htied _ _).1 htaken))
  | step hcompile hfree => exact congrArg (Except.map _) (hnew hcompile hfree)
  | transform hcompile hfree => exact congrArg (Except.map _) (hnew hcompile hfree)
  | tableTransform hcompile hfree => exact congrArg (Except.map _) (hnew hcompile hfree)
  | hook scope filter code => rfl

/-- What a registration that succeeds puts to what the builder holds. -/
structure Extends (b : Builder W σ ν) (registration : Registration W σ ν)
    (b' : Builder W σ ν) : Prop where
  /-- A step definition, if it is of one. -/
  steps : b'.steps.definitions = b.steps.definitions ++ registration.step?.toList
  /-- A transform of captures. -/
  transforms : b'.transforms.definitions =
    b.transforms.definitions ++ registration.transform?.toList
  /-- A transform of tables. -/
  tableTransforms : b'.tableTransforms.definitions =
    b.tableTransforms.definitions ++ registration.tableTransform?.toList
  /-- A hook. -/
  hooks : b'.hooks = b.hooks ++ registration.hook?.toList
  /-- And its source. -/
  taken : ∀ kind source, source ∈ b'.sourcesOf kind ↔
    source ∈ b.sourcesOf kind ∨ registration.claims? = some (kind, source)
  /-- Which its definition has too. -/
  tied : ∀ kind source, source ∈ b'.registry.sourcesOf kind ↔
    source ∈ b.registry.sourcesOf kind ∨ registration.claims? = some (kind, source)

theorem Registers.extends (h : b.Registers registration (.ok ()) b') :
    b.Extends registration b' := by
  have hcons : ∀ {x y : String} {xs : List String}, x ∈ y :: xs ↔ x ∈ xs ∨ y = x :=
    fun {x y xs} => by
    rw [List.mem_cons, or_comm, eq_comm]
  cases h with
  | step hcompile _ =>
    obtain rfl := source_of_compile hcompile
    refine ⟨by simp [Registration.step?, hcompile, Except.toOption], ?_, ?_, ?_, ?_, ?_⟩
    iterate 3 exact (List.append_nil _).symm
    · rintro (_ | _ | _) source <;> simp [sourcesOf, Registration.claims?, hcons]
    · rintro (_ | _ | _) source <;>
        simp [Registry.sourcesOf, registry, Registration.claims?, eq_comm]
  | transform hcompile _ =>
    obtain rfl := source_of_compile hcompile
    refine ⟨?_, by simp [Registration.transform?, hcompile, Except.toOption], ?_, ?_, ?_, ?_⟩
    iterate 3 exact (List.append_nil _).symm
    · rintro (_ | _ | _) source <;> simp [sourcesOf, Registration.claims?, hcons]
    · rintro (_ | _ | _) source <;>
        simp [Registry.sourcesOf, registry, Registration.claims?, eq_comm]
  | tableTransform hcompile _ =>
    obtain rfl := source_of_compile hcompile
    refine ⟨?_, ?_, by simp [Registration.tableTransform?, hcompile, Except.toOption], ?_, ?_, ?_⟩
    iterate 3 exact (List.append_nil _).symm
    · rintro (_ | _ | _) source <;> simp [sourcesOf, Registration.claims?, hcons]
    · rintro (_ | _ | _) source <;>
        simp [Registry.sourcesOf, registry, Registration.claims?, eq_comm]
  | hook scope filter code =>
    refine ⟨?_, ?_, ?_, rfl, ?_, ?_⟩
    iterate 3 exact (List.append_nil _).symm
    · rintro (_ | _ | _) source <;> simp [sourcesOf, Registration.claims?]
    · rintro (_ | _ | _) source <;> simp [Registry.sourcesOf, registry, Registration.claims?]

/-- A registration that succeeds is one more that the builder holds. -/
theorem Consistent.extends (hb : b.Consistent registrations) (h : b.Extends registration b') :
    b'.Consistent (registrations ++ [registration]) := by
  have hlast : ∀ {δ : Type} (f : Registration W σ ν → Option δ),
      (registrations ++ [registration]).filterMap f =
        registrations.filterMap f ++ (f registration).toList := by
    intro δ f
    rw [List.filterMap_append]
    cases hf : f registration <;> simp [hf]
  refine ⟨?_, ?_, ?_, ?_, fun kind source => ?_, fun kind source => ?_⟩
  · rw [h.steps, hb.steps, hlast]
  · rw [h.transforms, hb.transforms, hlast]
  · rw [h.tableTransforms, hb.tableTransforms, hlast]
  · rw [h.hooks, hb.hooks, hlast]
  · rw [h.taken, hb.taken]
    simp [or_and_right, exists_or]
  · rw [h.taken, h.tied, hb.tied]

/-- A registry in which a definition is registered has come about by registrations. -/
theorem built_of_add? {r r' : Registry W σ ν} (h : r.Built)
    (hadd : r.add? registration = .ok r') : r'.Built := by
  cases registration with
  | step => exact .step h hadd
  | transform => exact .transform h hadd
  | tableTransform => exact .tableTransform h hadd
  | hook scope filter code => exact Except.ok.inj hadd ▸ .hook scope filter code h

/-! ## Registrations one after the other -/

theorem registerAll_cons (b : Builder W σ ν) (registration : Registration W σ ν)
    (rest : List (Registration W σ ν)) :
    b.registerAll (registration :: rest) =
      ((b.register registration).1 :: ((b.register registration).2.registerAll rest).1,
        ((b.register registration).2.registerAll rest).2) := rfl

/-- A registration that succeeds is the first of those that do. -/
theorem accepted_cons_of_ok (h : (b.register registration).1 = .ok ())
    (rest : List (Registration W σ ν)) :
    b.accepted (registration :: rest) =
      registration :: (b.register registration).2.accepted rest := by
  rw [accepted, registerAll_cons, h]
  rfl

/-- One that fails is none of them. -/
theorem accepted_cons_of_error {e : RegistrationError} (h : (b.register registration).1 = .error e)
    (rest : List (Registration W σ ν)) :
    b.accepted (registration :: rest) = (b.register registration).2.accepted rest := by
  rw [accepted, registerAll_cons, h]
  rfl

/-- What one registration after the other leaves is what those leave that succeed. -/
theorem Consistent.registerAll (hb : b.Consistent registrations) (hbuilt : b.registry.Built)
    (rest : List (Registration W σ ν)) :
    (b.registerAll rest).2.Consistent (registrations ++ b.accepted rest) ∧
    (b.registerAll rest).2.registry.Built := by
  induction rest generalizing b registrations with
  | nil => exact ⟨(List.append_nil registrations).symm ▸ hb, hbuilt⟩
  | cons registration rest ih =>
    have h := b.register_registers registration
    cases hresult : (b.register registration).1 with
    | error e =>
      rw [hresult] at h
      rw [accepted_cons_of_error hresult, registerAll_cons, h.refused]
      exact ih hb hbuilt
    | ok _ =>
      rw [hresult] at h
      have hadd := h.add?_eq hb.tied
      rw [accepted_cons_of_ok hresult, registerAll_cons, List.append_cons]
      exact ih (hb.extends h.extends) (built_of_add? hbuilt hadd)

/-- The builder without definitions holds nothing. -/
theorem consistent_empty : ({} : Builder W σ ν).Consistent [] where
  steps := rfl
  transforms := rfl
  tableTransforms := rfl
  hooks := rfl
  taken kind source := by cases kind <;> simp [sourcesOf]
  tied kind source := by cases kind <;> simp [sourcesOf, Registry.sourcesOf, registry]

/-- The result of a registration, by what it is for. -/
theorem register_result (b : Builder W σ ν) (registration : Registration W σ ν) :
    (b.register registration).1 =
      match registration.claims? with
      | none => .ok ()
      | some (kind, source) =>
        match Pattern.compile source with
        | .error e => .error (.invalidPattern source e)
        | .ok _ =>
          if source ∈ b.sourcesOf kind then .error (.duplicatePattern kind source) else .ok () := by
  have h := b.register_registers registration
  generalize (b.register registration).1 = result at h ⊢
  generalize (b.register registration).2 = b' at h
  cases h with
  | invalid hclaims hcompile => simp [hclaims, hcompile]
  | duplicate hclaims hcompile htaken => simp [hclaims, hcompile, htaken]
  | step hcompile hnew => simp [Registration.claims?, hcompile, hnew]
  | transform hcompile hnew => simp [Registration.claims?, hcompile, hnew]
  | tableTransform hcompile hnew => simp [Registration.claims?, hcompile, hnew]
  | hook scope filter code => rfl

theorem register_eq_ok_iff : (b.register registration).1 = .ok () ↔
    ∀ kind source, registration.claims? = some (kind, source) →
      (∃ p, Pattern.compile source = .ok p) ∧ source ∉ b.sourcesOf kind := by
  rw [register_result]
  rcases registration.claims? with _ | ⟨kind, source⟩
  · simp
  cases hcompile : Pattern.compile source with
  | error e => simp [hcompile]
  | ok p => by_cases htaken : source ∈ b.sourcesOf kind <;> simp [hcompile, htaken]

theorem register_eq_invalid_iff {source : String} {e : PatternError} :
    (b.register registration).1 = .error (.invalidPattern source e) ↔
      (∃ kind, registration.claims? = some (kind, source)) ∧ Pattern.compile source = .error e := by
  rw [register_result]
  rcases registration.claims? with _ | ⟨kind, source'⟩
  · simp
  dsimp only
  cases hcompile : Pattern.compile source' with
  | error e' =>
    simp only [Except.error.injEq, RegistrationError.invalidPattern.injEq, Option.some.injEq,
      Prod.mk.injEq, exists_eq_left']
    constructor <;> rintro ⟨rfl, h⟩
    · exact ⟨rfl, h ▸ hcompile⟩
    · exact ⟨rfl, Except.error.inj (hcompile.symm.trans h)⟩
  | ok p =>
    have hnone : ¬ (source' = source ∧ Pattern.compile source = .error e) := by
      rintro ⟨rfl, h⟩
      cases hcompile.symm.trans h
    by_cases htaken : source' ∈ b.sourcesOf kind <;> simpa [htaken] using hnone

theorem register_eq_duplicate_iff {kind : DefinitionKind} {source : String} :
    (b.register registration).1 = .error (.duplicatePattern kind source) ↔
      registration.claims? = some (kind, source) ∧ (∃ p, Pattern.compile source = .ok p) ∧
        source ∈ b.sourcesOf kind := by
  rw [register_result]
  rcases registration.claims? with _ | ⟨kind', source'⟩
  · simp
  dsimp only
  cases hcompile : Pattern.compile source' with
  | error e =>
    refine iff_of_false nofun ?_
    rintro ⟨hclaims, ⟨p, hp⟩, -⟩
    cases hclaims
    cases hcompile.symm.trans hp
  | ok p =>
    by_cases htaken : source' ∈ b.sourcesOf kind'
    · simp only [if_pos htaken]
      constructor
      · intro h
        cases h
        exact ⟨rfl, ⟨p, hcompile⟩, htaken⟩
      · rintro ⟨hclaims, -, -⟩
        cases hclaims
        rfl
    · simp only [if_neg htaken]
      refine iff_of_false nofun ?_
      rintro ⟨hclaims, -, hmem⟩
      cases hclaims
      exact htaken hmem

/-! ## What a builder keeps -/

/-- What has been registered with success decides what a further registration comes to, and is what
a registry is built of. -/
structure KeepsAccepted (accepted : List (Registration W σ ν)) (b : Builder W σ ν) : Prop where
  /-- A registration succeeds if its source is a pattern that no earlier one of its kind has
  been accepted with. -/
  succeeds : ∀ registration, (b.register registration).1 = .ok () ↔
    ∀ kind source, registration.claims? = some (kind, source) →
      (∃ p, Pattern.compile source = .ok p) ∧
      ∀ earlier ∈ accepted, earlier.claims? ≠ some (kind, source)
  /-- A source that is no pattern is told as such, taken or not. -/
  invalid : ∀ registration source e,
    (b.register registration).1 = .error (.invalidPattern source e) ↔
    (∃ kind, registration.claims? = some (kind, source)) ∧ Pattern.compile source = .error e
  /-- A source is told to be taken if an earlier registration of the kind has
  been accepted with it. -/
  duplicate : ∀ registration kind source,
    (b.register registration).1 = .error (.duplicatePattern kind source) ↔
    registration.claims? = some (kind, source) ∧ (∃ p, Pattern.compile source = .ok p) ∧
      ∃ earlier ∈ accepted, earlier.claims? = some (kind, source)
  /-- A registration that fails leaves the builder as it was. -/
  unchanged : ∀ registration e, (b.register registration).1 = .error e →
    (b.register registration).2 = b
  /-- So it has no part in what follows. -/
  forgotten : ∀ registration e more, (b.register registration).1 = .error e →
    b.registerAll (registration :: more) =
      (.error e :: (b.registerAll more).1, (b.registerAll more).2)
  /-- Hooks are always accepted. -/
  hook : ∀ scope filter code, (b.register (.hook scope filter code)).1 = .ok ()
  /-- Registering with the builder is registering in its registry. -/
  registry : ∀ registration, b.registry.add? registration =
    (b.register registration).1.map fun _ => (b.register registration).2.registry
  /-- What is built holds what has been accepted. -/
  built : ∀ (m : Regex.SetMatcher) (r : Indexed m W σ ν), b.build m = .ok r →
    r.registry.Holds accepted

/-- A registry that is built is that of the definitions. -/
theorem registry_of_build {m : Regex.SetMatcher} {r : Indexed m W σ ν} (h : b.build m = .ok r) :
    r.registry = b.registry := by
  obtain ⟨sets, -, rfl⟩ := exists_of_map h
  rfl

theorem Consistent.holds (hb : b.Consistent registrations) (hbuilt : b.registry.Built) :
    b.registry.Holds registrations where
  steps := hb.steps
  transforms := hb.transforms
  tableTransforms := hb.tableTransforms
  hooks := hb.hooks
  hooksOf _ := hb.hooks ▸ rfl
  distinct := hbuilt.distinct

/-- The registrations that succeed, of those that are tried one after the other
with a new builder. -/
abbrev acceptedOf (registrations : List (Registration W σ ν)) : List (Registration W σ ν) :=
  ({} : Builder W σ ν).accepted registrations

/-- The builder that they leave. -/
abbrev ofRegistrations (registrations : List (Registration W σ ν)) : Builder W σ ν :=
  (({} : Builder W σ ν).registerAll registrations).2

/-- The registrations that succeed are what the builder holds. -/
theorem ofRegistrations_consistent (registrations : List (Registration W σ ν)) :
    (ofRegistrations registrations).Consistent (acceptedOf registrations) ∧
      (ofRegistrations registrations).registry.Built :=
  consistent_empty.registerAll (.empty 1000000) registrations

/-- However definitions are registered one after the other, exactly the registrations
that succeed count. -/
theorem registerAll_keepsAccepted (registrations : List (Registration W σ ν)) :
    KeepsAccepted (acceptedOf registrations) (ofRegistrations registrations) := by
  obtain ⟨hconsistent, hbuilt⟩ := ofRegistrations_consistent registrations
  generalize acceptedOf registrations = accepted at hconsistent ⊢
  generalize ofRegistrations registrations = b at hconsistent hbuilt ⊢
  have hunchanged : ∀ registration e, (b.register registration).1 = .error e →
      (b.register registration).2 = b := by
    intro registration e he
    have h := b.register_registers registration
    rw [he] at h
    exact h.refused
  exact {
    succeeds := fun registration => by simp [register_eq_ok_iff, hconsistent.taken]
    invalid := fun registration source e => register_eq_invalid_iff
    duplicate := fun registration kind source => by
      rw [register_eq_duplicate_iff, hconsistent.taken]
    unchanged := hunchanged
    forgotten := fun registration e more he => by
      rw [registerAll_cons, he, hunchanged registration e he]
    hook := fun _ _ _ => rfl
    registry := fun registration => (b.register_registers registration).add?_eq hconsistent.tied
    built := fun m r hr => registry_of_build hr ▸ hconsistent.holds hbuilt }

end Registry.Builder

end Rehearsal
