import Rehearsal.Proofs.Settings.Flaws
import Rehearsal.Proofs.Unicode.Trim
import Rehearsal.Suite

/-!
# Settings that a run can go by

Settings are looked at in three places: when they are loaded, when they are checked, and when a
runner is made of them. These agree: loaded settings pass the check, and every runner that is made
of settings that pass the check goes by them as they are, so that nothing but the definitions of a
suite can prevent its run. Settings that have not been loaded make a runner if their tag filter can
be read; it has one worker if they have none.
-/

namespace Rehearsal

namespace Settings

/-- The tag filter, if there is one, can be read. -/
def Filterable (s : Settings) : Prop :=
  ∀ tags, s.tags = some tags → ∃ filter, TagFilter.parse tags = .ok filter

/-! ## Checked settings -/

theorem exists_unfilterable_iff {s : Settings} :
    (∃ e, s.unfilterable e) ↔ ∃ tags e, s.tags = some tags ∧ TagFilter.parse tags = .error e :=
  ⟨fun ⟨_, tags, e, htags, hparse, _⟩ => ⟨tags, e, htags, hparse⟩,
   fun ⟨tags, e, htags, hparse⟩ => ⟨_, tags, e, htags, hparse, rfl⟩⟩

/-- The check fails if the tag filter cannot be read or there are no workers. -/
theorem exists_validate_error_iff {s : Settings} : (∃ e, s.validate = .error e) ↔
    (∃ tags e, s.tags = some tags ∧ TagFilter.parse tags = .error e) ∨ s.execution.workers = 0 := by
  have hworkless : (∃ e, s.workless e) ↔ s.execution.workers = 0 :=
    ⟨fun ⟨_, h, _⟩ => h, fun h => ⟨_, h, rfl⟩⟩
  rw [exists_congr (failsFirst_validate s), exists_firstFlaw_iff]
  simp only [List.mem_cons, List.not_mem_nil, or_false, exists_eq_or_imp, exists_eq_left,
    exists_unfilterable_iff, hworkless]

/-- Settings that pass the check have a tag filter that can be read, if they
have one, and a worker. -/
theorem of_validate {s : Settings} (h : s.validate = .ok ()) :
    s.Filterable ∧ 1 ≤ s.execution.workers := by
  have hpasses : ¬ ∃ e, s.validate = .error e := fun ⟨e, he⟩ => nomatch h.symm.trans he
  rw [exists_validate_error_iff, not_or] at hpasses
  refine ⟨fun tags htags => ?_, Nat.one_le_iff_ne_zero.2 hpasses.2⟩
  cases hparse : TagFilter.parse tags with
  | ok filter => exact ⟨filter, rfl⟩
  | error e => exact absurd ⟨tags, e, htags, hparse⟩ hpasses.1

/-- A tag filter that is left without the blanks around it has none around it, and is not blank. -/
theorem trimmed_of_normalized {s : Settings} {tags : String} (h : s.normalized.tags = some tags) :
    trimmed tags = tags ∧ tags ≠ "" := by
  obtain ⟨hmap, hne⟩ := Option.filter_eq_some_iff.1 h
  obtain ⟨written, -, rfl⟩ := Option.map_eq_some_iff.1 hmap
  refine ⟨?_, by simpa using hne⟩
  unfold trimmed
  rw [String.toList_ofList, trim_trim]

end Settings

/-! ## Runners -/

namespace Runner

variable {W σ ν : Type} {registry : Registry W σ ν} {newWorld : WorldCode W σ ν} {s : Settings}

/-- A runner with given definitions goes by settings as they are. -/
structure GoesBy (r : Runner W σ ν) (registry : Registry W σ ν) (newWorld : WorldCode W σ ν)
    (s : Settings) : Prop where
  /-- It has the definitions. -/
  registry : r.registry = registry
  /-- It makes worlds by the code. -/
  newWorld : r.newWorld = newWorld
  /-- It is strict if the settings are. -/
  strict : r.strict = s.execution.strict
  /-- It only looks steps up if the settings say so. -/
  dryRun : r.dryRun = s.execution.dryRun
  /-- It runs as many features at once. -/
  workers : r.workers = s.execution.workers
  /-- It has the filter that is written in the settings, if there is one. -/
  filter : Option.Rel (fun tags filter => TagFilter.parse tags = .ok filter) s.tags r.filter
  /-- Nobody is told of anything. -/
  observers : r.observers = []

/-- Making a runner fails if there is a tag filter that cannot be read, and says why. -/
theorem ofSettings_error_iff {e : TagFilterError} :
    ofSettings registry newWorld s = .error e ↔
      ∃ tags, s.tags = some tags ∧ TagFilter.parse tags = .error e := by
  unfold ofSettings
  cases s.tags with
  | none => exact iff_of_false nofun nofun
  | some tags =>
    simp only [Option.some.injEq, exists_eq_left']
    change (some <$> TagFilter.parse tags) >>= _ = _ ↔ _
    cases TagFilter.parse tags with
    | ok filter => exact iff_of_false nofun nofun
    | error e' =>
      exact ⟨fun h => congrArg _ (Except.error.inj h), fun h => congrArg _ (Except.error.inj h)⟩

/-- A runner can be made of settings with a worker and a filter that can be
read, and goes by them. -/
theorem exists_goesBy (hfilter : s.Filterable) (hworkers : 1 ≤ s.execution.workers) :
    ∃ r, ofSettings registry newWorld s = .ok r ∧ r.GoesBy registry newWorld s := by
  obtain ⟨filter, hread, hfilter⟩ : ∃ filter, s.tags.mapM TagFilter.parse = .ok filter ∧
      Option.Rel (fun tags filter => TagFilter.parse tags = .ok filter) s.tags filter := by
    unfold Settings.Filterable at hfilter
    cases htags : s.tags with
    | none => exact ⟨none, rfl, .none⟩
    | some tags =>
      obtain ⟨filter, hparse⟩ := hfilter tags htags
      refine ⟨some filter, ?_, .some hparse⟩
      rw [Option.mapM_some, hparse]
      rfl
  unfold ofSettings
  rw [hread]
  exact ⟨_, rfl, rfl, rfl, rfl, rfl, Nat.max_eq_left hworkers, hfilter, rfl⟩

end Runner

/-! ## Suites -/

namespace Suite

variable {W σ ν : Type}

/-- A suite runs if a runner can be made for it. -/
theorem exists_run_of_ok {s : Suite W σ ν} {r : Runner W σ ν}
    (h : Runner.ofSettings s.registry s.newWorld s.settings = .ok r) (state : σ) :
    ∃ record, (s.run.run state).1 = .ok record := by
  have hrunner : s.runner = .ok (s.observers.foldl Runner.withObserver r) := by rw [runner, h]
  rw [run, hrunner]
  exact ⟨_, rfl⟩

end Suite

namespace SuitePlan

variable {W σ ν : Type} {m : Regex.SetMatcher}

/-- A suite with usable settings fails to run only if its definitions do not make a registry. -/
theorem run_error_iff {p : SuitePlan W σ ν}
    (h : ∀ registry : Registry W σ ν, ∃ r, Runner.ofSettings registry p.newWorld p.settings = .ok r)
    (state : σ) (e : SuiteError) :
    ((p.run m).run state).1 = .error e ↔
      ∃ e', p.definitions.build m = .error e' ∧ e = .registration e' := by
  unfold run suite
  cases hbuild : p.definitions.build m with
  | error e' =>
    constructor
    · exact fun herror => ⟨e', rfl, (Except.error.inj herror).symm⟩
    · rintro ⟨_, heq, rfl⟩
      exact congrArg _ (congrArg _ (Except.error.inj heq))
  | ok built =>
    refine iff_of_false (fun herror => ?_) nofun
    obtain ⟨r, hr⟩ := h built.registry
    let suite : Suite W σ ν := ⟨built.registry, p.newWorld, p.settings, p.features, p.observers⟩
    obtain ⟨record, hrecord⟩ := suite.exists_run_of_ok hr state
    exact nomatch hrecord.symm.trans herror

end SuitePlan

namespace Settings

/-- Loaded settings pass the check, and their tag filter has no blanks around it. -/
theorem of_load {places : FilePlaces} {env : Environment} {explicit : Option String} {s : Settings}
    (h : load places env explicit = .ok s) :
    s.validate = .ok () ∧ ∀ tags, s.tags = some tags → trimmed tags = tags ∧ tags ≠ "" := by
  obtain ⟨_, -, -, hvalidate⟩ := ofLayers_of_load h
  obtain ⟨_, read, -, -, rfl⟩ := ofJson?_of_load h
  exact ⟨hvalidate, fun _ htags => trimmed_of_normalized htags⟩

/-- Settings that have been loaded can be used: their tag filter is neither blank nor surrounded by
blanks and can be read, there is a worker, they pass the check, any runner that is made of them goes
by them as they are, and a suite with them runs unless its registry cannot be built. Of other
settings a runner can be made unless their tag filter cannot be read, and they pass the check unless
that is so or there are no workers. -/
theorem load_usable :
    (∀ places env explicit s, load places env explicit = .ok s →
      (∀ tags, s.tags = some tags →
        trimmed tags = tags ∧ tags ≠ "" ∧ ∃ filter, TagFilter.parse tags = .ok filter) ∧
      1 ≤ s.execution.workers ∧ s.validate = .ok () ∧
      ∀ W σ ν : Type,
        (∀ (registry : Registry W σ ν) (newWorld : WorldCode W σ ν),
          ∃ r, Runner.ofSettings registry newWorld s = .ok r ∧ r.GoesBy registry newWorld s) ∧
        ∀ (m : Regex.SetMatcher) (p : SuitePlan W σ ν) (state : σ) (e : SuiteError),
          p.settings = s →
          (((p.run m).run state).1 = .error e ↔
            ∃ e', p.definitions.build m = .error e' ∧ e = .registration e')) ∧
    ∀ s : Settings,
      (∀ (W σ ν : Type) (registry : Registry W σ ν) (newWorld : WorldCode W σ ν)
        (e : TagFilterError),
        Runner.ofSettings registry newWorld s = .error e ↔
          ∃ tags, s.tags = some tags ∧ TagFilter.parse tags = .error e) ∧
      ((∃ e, s.validate = .error e) ↔
        (∃ tags e, s.tags = some tags ∧ TagFilter.parse tags = .error e) ∨
        s.execution.workers = 0) := by
  refine ⟨fun places env explicit s hload => ?_,
    fun s => ⟨fun _ _ _ _ _ _ => Runner.ofSettings_error_iff, exists_validate_error_iff⟩⟩
  obtain ⟨hvalidate, htrimmed⟩ := of_load hload
  obtain ⟨hfilter, hworkers⟩ := of_validate hvalidate
  have hrunner : ∀ (W σ ν : Type) (registry : Registry W σ ν) (newWorld : WorldCode W σ ν),
      ∃ r, Runner.ofSettings registry newWorld s = .ok r ∧ r.GoesBy registry newWorld s :=
    fun _ _ _ _ _ => Runner.exists_goesBy hfilter hworkers
  refine ⟨fun tags htags => ?_, hworkers, hvalidate,
    fun W σ ν => ⟨hrunner W σ ν, fun m p state e hp => ?_⟩⟩
  · obtain ⟨hbare, hne⟩ := htrimmed tags htags
    exact ⟨hbare, hne, hfilter tags htags⟩
  · refine SuitePlan.run_error_iff (fun registry => ?_) state e
    obtain ⟨r, hr, -⟩ := hrunner W σ ν registry p.newWorld
    exact ⟨r, hp ▸ hr⟩

/-- The settings of a file with a tag filter. -/
def slowOnly : Settings :=
  { tags := some "@slow", execution := { strict := true, dryRun := false, workers := 2 } }

/-- Code that makes a world without content. -/
def emptyWorld : WorldCode Unit Unit Unit := fun state => (.done (), state, [])

/-- A runner without definitions goes by them. -/
theorem load_slowOnly :
    load filtered (fun _ => none) none = .ok slowOnly ∧
    (∃ filter, TagFilter.parse "@slow" = .ok filter) ∧
    ∃ r, Runner.ofSettings ({} : Registry Unit Unit Unit) emptyWorld slowOnly = .ok r ∧
      r.GoesBy {} emptyWorld slowOnly := by
  have hload : load filtered (fun _ => none) none = .ok slowOnly := by decide +kernel
  obtain ⟨htags, -, -, hruns⟩ := load_usable.1 filtered (fun _ => none) none slowOnly hload
  exact ⟨hload, (htags "@slow" rfl).2.2, (hruns Unit Unit Unit).1 {} emptyWorld⟩

end Settings

end Rehearsal
