import Rehearsal.Proofs.Scalar.Literals
import Rehearsal.Proofs.Settings.Resolution

/-!
# Why settings are not loaded

Several things can be wrong at once when settings are loaded. They have a fixed order: the file that
is named, the content of the file, the variables one after the other, the layers as a whole, the tag
filter and the number of workers. The first of them that is wrong is told, whatever is wrong after
it and whatever higher layers say, and settings are loaded if nothing is wrong.
-/

namespace Rehearsal

/-! ## The first flaw

A flaw is given by the errors that tell of it; it does not apply if there is none.
-/

section Flaws

variable {ε α β : Type} {e : ε} {flaw : ε → Prop} {flaws before after : List (ε → Prop)}

/-- The error tells of the first of the flaws that applies. -/
inductive FirstFlaw : List (ε → Prop) → ε → Prop
  | here {flaw : ε → Prop} {rest e} : flaw e → FirstFlaw (flaw :: rest) e
  | later {flaw : ε → Prop} {rest e} : (∀ e', ¬ flaw e') → FirstFlaw rest e →
      FirstFlaw (flaw :: rest) e

/-- The computation fails with the first of the flaws that applies, and only so. -/
def FailsFirst (x : Except ε α) (flaws : List (ε → Prop)) : Prop :=
  ∀ e, x = .error e ↔ FirstFlaw flaws e

theorem firstFlaw_cons_iff :
    FirstFlaw (flaw :: flaws) e ↔ flaw e ∨ (∀ e', ¬ flaw e') ∧ FirstFlaw flaws e := by
  constructor
  · intro h
    cases h with
    | here h => exact .inl h
    | later hnone h => exact .inr ⟨hnone, h⟩
  · rintro (h | ⟨hnone, h⟩)
    · exact .here h
    · exact .later hnone h

/-- A first flaw is among the flaws, and there is one if any applies. -/
theorem exists_firstFlaw_iff : (∃ e, FirstFlaw flaws e) ↔ ∃ flaw ∈ flaws, ∃ e, flaw e := by
  induction flaws with
  | nil => exact iff_of_false (fun ⟨_, h⟩ => nomatch h) nofun
  | cons flaw rest ih =>
    rw [List.exists_mem_cons_iff, ← ih]
    constructor
    · rintro ⟨e, h⟩
      cases h with
      | here h => exact .inl ⟨e, h⟩
      | later _ h => exact .inr ⟨e, h⟩
    · rintro (⟨e, h⟩ | ⟨e, h⟩)
      · exact ⟨e, .here h⟩
      · by_cases hflaw : ∃ e', flaw e'
        · exact hflaw.imp fun _ h => .here h
        · exact ⟨e, .later (not_exists.1 hflaw) h⟩

/-- Of two lists of flaws the second one matters only if no flaw of the first one applies. -/
theorem firstFlaw_append_iff : FirstFlaw (before ++ after) e ↔
    FirstFlaw before e ∨ (∀ e', ¬ FirstFlaw before e') ∧ FirstFlaw after e := by
  induction before with
  | nil => exact ⟨fun h => .inr ⟨nofun, h⟩, fun h => h.elim nofun And.right⟩
  | cons flaw rest ih =>
    rw [List.cons_append, firstFlaw_cons_iff, ih, firstFlaw_cons_iff]
    constructor
    · rintro (h | ⟨hnone, h | ⟨hrest, h⟩⟩)
      · exact .inl (.inl h)
      · exact .inl (.inr ⟨hnone, h⟩)
      · exact .inr ⟨fun e' he' => (firstFlaw_cons_iff.1 he').elim (hnone e') fun he' =>
          hrest e' he'.2, h⟩
    · rintro ((h | ⟨hnone, h⟩) | ⟨hall, h⟩)
      · exact .inl h
      · exact .inr ⟨hnone, .inl h⟩
      · have hnone : ∀ e', ¬ flaw e' := fun e' he' => hall e' (.here he')
        exact .inr ⟨hnone, .inr ⟨fun e' he' => hall e' (.later hnone he'), h⟩⟩

namespace FailsFirst

/-- What succeeds has no flaws. -/
theorem ok (a : α) : FailsFirst (.ok a : Except ε α) [] := fun _ => iff_of_false nofun nofun

/-- One flaw is told by each of its errors. -/
theorem of_single {x : Except ε α} (h : ∀ e, x = .error e ↔ flaw e) : FailsFirst x [flaw] :=
  fun e => by
  rw [h, firstFlaw_cons_iff]
  exact ⟨.inl, fun h => h.elim id fun h => nomatch h.2⟩

/-- A flaw that does not apply does not matter. -/
theorem cons_iff_of_not {x : Except ε α} (hnone : ∀ e, ¬ flaw e) :
    FailsFirst x (flaw :: flaws) ↔ FailsFirst x flaws := by
  refine forall_congr' fun e => iff_congr Iff.rfl ?_
  rw [firstFlaw_cons_iff]
  exact ⟨fun h => h.elim (absurd · (hnone e)) And.right, fun h => .inr ⟨hnone, h⟩⟩

/-- What is done after something that has flaws of its own has its flaws after those. -/
theorem bind {x : Except ε α} {f : α → Except ε β} (hx : FailsFirst x before)
    (hf : ∀ a, x = .ok a → FailsFirst (f a) after) : FailsFirst (x >>= f) (before ++ after) :=
  fun e => by
  rw [firstFlaw_append_iff, ← hx e]
  cases x with
  | error e' =>
    have hfirst : FirstFlaw before e' := (hx e').1 rfl
    exact ⟨fun h => .inl (congrArg Except.error (Except.error.inj h)),
      fun h => h.elim (fun h => congrArg Except.error (Except.error.inj h)) fun h =>
        absurd hfirst (h.1 e')⟩
  | ok a =>
    have hnone : ∀ e', ¬ FirstFlaw before e' := fun e' h => nomatch (hx e').2 h
    exact (hf a rfl e).trans ⟨fun h => .inr ⟨hnone, h⟩, fun h => h.elim nofun And.right⟩

/-- A computation succeeds if none of its flaws applies. -/
theorem exists_ok_iff {x : Except ε α} (h : FailsFirst x flaws) :
    (∃ a, x = .ok a) ↔ ∀ flaw ∈ flaws, ∀ e, ¬ flaw e := by
  have hfails : (∃ e, x = .error e) ↔ ∃ flaw ∈ flaws, ∃ e, flaw e :=
    (exists_congr h).trans exists_firstFlaw_iff
  have hok : (∃ a, x = .ok a) ↔ ¬ ∃ e, x = .error e := by
    cases x with
    | error e => exact iff_of_false nofun (not_not_intro ⟨e, rfl⟩)
    | ok a => exact iff_of_true ⟨a, rfl⟩ nofun
  rw [hok, hfails]
  simp only [not_exists, not_and]

end FailsFirst

end Flaws

/-! ## The file -/

namespace FilePlaces

variable {places : FilePlaces} {env : Environment} {explicit : Option String} {path : String}
  {item : FileItem}

/-- The path of the file is given, or else in the variable for it. -/
def Named (env : Environment) (explicit : Option String) (path : String) : Prop :=
  explicit = some path ∨ explicit = none ∧ env Variable.filePath = some path

/-- What settings are to be read from, with its path: what the path that is named leads to, or the
first thing in the usual places if none is named. -/
inductive Picks (places : FilePlaces) (env : Environment) (explicit : Option String) :
    String → FileItem → Prop
  | named {path : String} {item : FileItem} :
      Named env explicit path → places.find? path = some item →
      Picks places env explicit path item
  | found {before after : List (FileTree × List String)} {tree : FileTree} {path : List String}
      {item : FileItem} :
      (∀ path, ¬ Named env explicit path) →
      places.candidates = before ++ (tree, path) :: after →
      (∀ candidate ∈ before, candidate.1.item? candidate.2 = none) → tree.item? path = some item →
      Picks places env explicit ("/".intercalate path) item

/-- The file that is named does not exist. -/
def missing (places : FilePlaces) (env : Environment) (explicit : Option String)
    (e : SettingsError) : Prop :=
  ∃ path, Named env explicit path ∧ places.find? path = none ∧ e = .fileNotFound path

/-- What settings are to be read from cannot be read, or its text is no document. -/
def spoiled (places : FilePlaces) (env : Environment) (explicit : Option String)
    (e : SettingsError) : Prop :=
  ∃ path item, Picks places env explicit path item ∧
    ((∀ text, item ≠ .file text) ∧ e = .unreadable path ∨
      ∃ text, item = .file text ∧ Toml.parse? text = none ∧ e = .malformed path)

theorem named_iff : Named env explicit path ↔ (explicit <|> env Variable.filePath) = some path := by
  cases explicit <;> simp [Named]

/-- What is chosen is what is named or found. -/
theorem chosen_eq_some_iff :
    places.chosen env explicit = .ok (some (path, item)) ↔ Picks places env explicit path item := by
  unfold chosen
  split
  · next named hnamed =>
    have hunique : ∀ {path}, Named env explicit path → path = named := fun h =>
      Option.some.inj ((named_iff.1 h).symm.trans hnamed)
    split
    · next found hfound =>
      constructor
      · intro h
        cases h
        exact .named (named_iff.2 hnamed) hfound
      · intro h
        cases h with
        | named hpath hitem =>
          obtain rfl := hunique hpath
          rw [Option.some.inj (hitem.symm.trans hfound)]
        | found hnone => exact absurd (named_iff.2 hnamed) (hnone named)
    · next hfound =>
      refine iff_of_false nofun fun h => ?_
      cases h with
      | named hpath hitem =>
        obtain rfl := hunique hpath
        exact absurd (hitem.symm.trans hfound) nofun
      | found hnone => exact absurd (named_iff.2 hnamed) (hnone named)
  · next hnamed =>
    have hnone : ∀ path, ¬ Named env explicit path :=
      fun path h => nomatch hnamed.symm.trans (named_iff.1 h)
    rw [Except.ok.injEq, List.findSome?_eq_some_iff]
    constructor
    · rintro ⟨before, ⟨tree, parts⟩, after, hcandidates, hitem, hbefore⟩
      obtain ⟨found, hfound, heq⟩ := Option.map_eq_some_iff.1 hitem
      cases heq
      exact .found hnone hcandidates
        (fun candidate h => Option.map_eq_none_iff.1 (hbefore candidate h)) hfound
    · intro h
      cases h with
      | named hpath => exact absurd hpath (hnone _)
      | found _ hcandidates hbefore hitem =>
        refine ⟨_, _, _, hcandidates, ?_, fun candidate h => ?_⟩
        · dsimp only
          rw [hitem]
          rfl
        · dsimp only
          rw [hbefore candidate h]
          rfl

/-- Choosing fails for a file that is named and does not exist. -/
theorem failsFirst_chosen :
    FailsFirst (places.chosen env explicit) [missing places env explicit] := by
  refine .of_single fun e => ?_
  unfold chosen missing
  simp only [named_iff]
  split
  · next named hnamed =>
    rw [hnamed]
    split
    · next hfound => simp [hfound]
    · next hfound => simp [hfound, eq_comm]
  · next hnamed => simp [hnamed]

/-- Reading what has been chosen fails if it is spoiled. -/
theorem failsFirst_layer (h : places.chosen env explicit = .ok (some (path, item))) :
    FailsFirst (layer path item) [spoiled places env explicit] := by
  refine .of_single fun e => ?_
  have hpicks : ∀ path' item', Picks places env explicit path' item' ↔ path = path' ∧
      item = item' := by
    intro path' item'
    rw [← chosen_eq_some_iff, h]
    simp
  unfold spoiled
  simp only [hpicks]
  cases item with
  | file text =>
    unfold layer
    dsimp only
    split
    · next hparse => simp [hparse]
    · next hparse => simp [hparse, eq_comm]
  | unreadable => simp [layer, eq_comm]
  | directory => simp [layer, eq_comm]

/-- Nothing is spoiled if there is nothing to read. -/
theorem not_spoiled (h : places.chosen env explicit = .ok none) (e : SettingsError) :
    ¬ spoiled places env explicit e := by
  rintro ⟨path, item, hpicks, -⟩
  rw [chosen_eq_some_iff.2 hpicks] at h
  cases h

end FilePlaces

/-! ## The environment -/

/-- The text is a truth value. -/
def IsTruthValue (text : String) : Prop := text = "true" ∨ text = "false"

/-- The text is a number with 64 bits: digits from zero to nine, which may follow a plus. -/
def IsCount (text : String) : Prop :=
  ∃ sign digits, text = String.ofList (sign ++ digits) ∧ (sign = [] ∨ sign = ['+']) ∧ digits ≠ [] ∧
    (∀ c ∈ digits, c.isDigit = true) ∧ Nat.ofDigitChars 10 digits 0 < UInt64.size

theorem readBoolean_eq_none_iff {text : String} :
    readBoolean text = none ↔ ¬ IsTruthValue text := by
  unfold readBoolean IsTruthValue
  split <;> simp_all

/-- A number with 64 bits and without minus is read of a count, and of nothing else. -/
theorem exists_read_unsigned64_iff {text : String} :
    (∃ n, IntegerType.unsigned64.read text = .ok n) ↔ IsCount text := by
  have hunsigned : IntegerType.unsigned64.signed = false := rfl
  have hgreatest : IntegerType.unsigned64.greatest = (UInt64.size : Int) - 1 := by decide
  have hfit : ∀ value : Nat, (∃ n, IntegerType.unsigned64.fit value = .ok n) ↔
      value < UInt64.size := by
    intro value
    rw [IntegerType.exists_fit_iff, hgreatest]
    omega
  simp only [IntegerType.read_ok_iff, hunsigned, Bool.false_eq_true, and_false, or_false, IsCount]
  constructor
  · rintro ⟨n, sign, digits, htext, hsign, hne, hdigits, h⟩
    rw [integerValue_append hsign hdigits] at h
    exact ⟨sign, digits, htext, hsign, hne, hdigits, (hfit _).1 ⟨n, h⟩⟩
  · rintro ⟨sign, digits, htext, hsign, hne, hdigits, h⟩
    obtain ⟨n, hn⟩ := (hfit _).2 h
    rw [← integerValue_append hsign hdigits] at hn
    exact ⟨n, sign, digits, htext, hsign, hne, hdigits, hn⟩

namespace Environment

variable {env : Environment} {v : Variable}

/-- A variable is set to a text that cannot be read. -/
def unread (env : Environment) (v : Variable) (e : SettingsError) : Prop :=
  ∃ text, env v.name = some text ∧ v.read text = .error e

/-- A variable is set to a text that, without the blanks around it, is not of the
kind that is expected. -/
def garbled (env : Environment) (name expected : String) (IsOfKind : String → Prop)
    (e : SettingsError) : Prop :=
  ∃ text, env name = some text ∧ ¬ IsOfKind (trimmed text) ∧
    e = .invalidValue name ("expected " ++ expected ++ ", got '" ++ text ++ "'")

/-- Texts that are laid over a document fail with the first that cannot be read. -/
theorem failsFirst_layOver (vars : List Variable) (below : Json) :
    FailsFirst (env.layOver below vars) (vars.map env.unread) := by
  induction vars generalizing below with
  | nil => exact .ok below
  | cons v rest ih =>
    rw [List.map_cons, layOver]
    cases hset : env v.name with
    | none =>
      refine (FailsFirst.cons_iff_of_not ?_).2 (ih below)
      rintro e ⟨text, htext, -⟩
      cases hset.symm.trans htext
    | some text =>
      have hread : FailsFirst (v.read text) [env.unread v] := .of_single fun e =>
        ⟨fun h => ⟨text, hset, h⟩, fun ⟨_, htext, h⟩ => Option.some.inj (hset.symm.trans htext) ▸ h⟩
      exact hread.bind fun value _ => ih _

theorem not_unread_text (hkind : v.kind = .text) (e : SettingsError) : ¬ env.unread v e := by
  rintro ⟨text, -, h⟩
  rw [Variable.read, hkind] at h
  cases h

theorem unread_boolean (hkind : v.kind = .boolean) :
    env.unread v = env.garbled v.name "bool (true/false)" IsTruthValue := by
  funext e
  refine propext (exists_congr fun text => and_congr_right fun _ => ?_)
  rw [Variable.read, hkind, ← readBoolean_eq_none_iff]
  dsimp only
  split
  · next h => simp [h]
  · next h => simp [h, Variable.invalid, eq_comm]

theorem unread_count (hkind : v.kind = .count) :
    env.unread v = env.garbled v.name "unsigned integer" IsCount := by
  funext e
  refine propext (exists_congr fun text => and_congr_right fun _ => ?_)
  rw [Variable.read, hkind, ← exists_read_unsigned64_iff]
  dsimp only
  split
  · next h => simp [h]
  · next h => simp [h, Variable.invalid, eq_comm]

/-- The layer of the environment fails with the first variable that is not of its kind. A tag filter
may be any text here. -/
theorem failsFirst_layer : FailsFirst env.layer
    [env.garbled "STEPWRIGHT_EXECUTION_STRICT" "bool (true/false)" IsTruthValue,
     env.garbled "STEPWRIGHT_EXECUTION_DRY_RUN" "bool (true/false)" IsTruthValue,
     env.garbled "STEPWRIGHT_EXECUTION_WORKERS" "unsigned integer" IsCount] := by
  have hall : FailsFirst (env.layOver (.object []) Variable.all) (Variable.all.map env.unread) :=
    failsFirst_layOver _ _
  simp only [Variable.all, List.map_cons, List.map_nil] at hall
  rw [FailsFirst.cons_iff_of_not (not_unread_text rfl), unread_boolean rfl, unread_boolean rfl,
    unread_count rfl] at hall
  exact hall

/-- The layer of the environment depends on nothing but the variables of settings. -/
theorem layOver_congr {env' : Environment} {vars : List Variable}
    (h : ∀ v ∈ vars, env v.name = env' v.name) (below : Json) :
    env.layOver below vars = env'.layOver below vars := by
  induction vars generalizing below with
  | nil => rfl
  | cons v rest ih =>
    have hrest := fun v hv => h v (List.mem_cons_of_mem _ hv)
    rw [layOver, layOver, h v List.mem_cons_self, ih hrest]
    simp only [ih hrest]

end Environment

/-! ## Settings -/

namespace Settings

variable {places : FilePlaces} {env : Environment} {explicit : Option String}

/-- What the defaults, the file and the environment amount to. -/
def Merged (places : FilePlaces) (env : Environment) (explicit : Option String)
    (tree : Json) : Prop :=
  ∃ environment, env.layer = .ok environment ∧
    tree = document (places.document? env explicit) environment

/-- The settings that this is read as, field by field (`ofJson?_object_iff`), without blanks
around the tag filter. -/
def MergedAs (places : FilePlaces) (env : Environment) (explicit : Option String)
    (s : Settings) : Prop :=
  ∃ tree read, Merged places env explicit tree ∧ ofJson? tree = some read ∧ s = read.normalized

/-- It cannot be read as settings: a field that is there is not of its type
(`ofJson?_object_iff`). -/
def illFormed (places : FilePlaces) (env : Environment) (explicit : Option String)
    (e : SettingsError) : Prop :=
  (∃ tree, Merged places env explicit tree ∧ ofJson? tree = none) ∧ e = .layers

/-- The tag filter cannot be read. -/
def unfilterable (s : Settings) (e : SettingsError) : Prop :=
  ∃ tags e', s.tags = some tags ∧ TagFilter.parse tags = .error e' ∧
    e = .invalidValue "tags" e'.message

/-- There are no workers. -/
def workless (s : Settings) (e : SettingsError) : Prop :=
  s.execution.workers = 0 ∧ e = .invalidValue "execution.workers" "must be at least 1"

/-- What can be wrong when settings are loaded, in the order in which it is told. -/
def flaws (places : FilePlaces) (env : Environment) (explicit : Option String) :
    List (SettingsError → Prop) :=
  [FilePlaces.missing places env explicit,
   FilePlaces.spoiled places env explicit,
   env.garbled "STEPWRIGHT_EXECUTION_STRICT" "bool (true/false)" IsTruthValue,
   env.garbled "STEPWRIGHT_EXECUTION_DRY_RUN" "bool (true/false)" IsTruthValue,
   env.garbled "STEPWRIGHT_EXECUTION_WORKERS" "unsigned integer" IsCount,
   illFormed places env explicit,
   fun e => ∃ s, MergedAs places env explicit s ∧ s.unfilterable e,
   fun e => ∃ s, MergedAs places env explicit s ∧ s.workless e]

/-- Checking settings fails with a tag filter that cannot be read. -/
theorem validate_of_unfilterable {s : Settings} {e : SettingsError} (h : s.unfilterable e) :
    s.validate = .error e := by
  obtain ⟨tags, e', htags, hparse, rfl⟩ := h
  rw [validate, htags]
  dsimp only
  rw [hparse]
  rfl

/-- Otherwise it depends on the number of workers. -/
theorem validate_of_filterable {s : Settings} (h : ∀ e, ¬ s.unfilterable e) :
    s.validate = if s.execution.workers =
      0 then .error (.invalidValue "execution.workers" "must be at least 1")
      else .ok () := by
  rw [validate]
  cases htags : s.tags with
  | none => rfl
  | some tags =>
    dsimp only
    cases hparse : TagFilter.parse tags with
    | ok filter => rfl
    | error e => exact absurd ⟨tags, e, htags, hparse, rfl⟩ (h _)

/-- Checking settings fails with the tag filter, and then with the number of workers. -/
theorem failsFirst_validate (s : Settings) :
    FailsFirst s.validate [s.unfilterable, s.workless] := by
  by_cases hfilter : ∃ e, s.unfilterable e
  · obtain ⟨e, he⟩ := hfilter
    have hvalidate := validate_of_unfilterable he
    intro e'
    constructor
    · intro h
      exact .here (Except.error.inj (hvalidate.symm.trans h) ▸ he)
    · intro h
      cases h with
      | here he' => exact validate_of_unfilterable he'
      | later hnone => exact absurd he (hnone e)
  · have hnone := not_exists.1 hfilter
    refine (FailsFirst.cons_iff_of_not hnone).2 (.of_single fun e => ?_)
    rw [validate_of_filterable hnone]
    unfold workless
    split
    · next h => simp [h, eq_comm]
    · next h => simp [h]

section Layers

variable {environment : Json} (henvironment : env.layer = .ok environment)

include henvironment

theorem merged_iff {tree : Json} :
    Merged places env explicit tree ↔
      tree = document (places.document? env explicit) environment := by
  constructor
  · rintro ⟨environment', henvironment', htree⟩
    rw [Except.ok.inj (henvironment.symm.trans henvironment')]
    exact htree
  · exact fun htree => ⟨environment, henvironment, htree⟩

/-- Layers are put together as what they amount to is read. -/
theorem ofLayers_eq :
    ofLayers (toJson {} :: ((places.document? env explicit).toList ++ [environment])) =
    (ofJson? (document (places.document? env explicit) environment)).elim (.error .layers)
      fun s => .ok s.normalized := by
  have hfile : ∀ file ∈ places.document? env explicit, ∃ fields, file = .object fields :=
    fun file hmem => (FilePlaces.distinct_of_document? hmem).2
  obtain ⟨hlayers, hcombined⟩ :=
    combined_document hfile (Environment.says_of_layer henvironment).isLayer
  rw [ofLayers, if_pos hlayers, hcombined]
  cases ofJson? (document (places.document? env explicit) environment) <;> rfl

/-- Putting layers together fails if what they amount to cannot be read. -/
theorem failsFirst_ofLayers :
    FailsFirst (ofLayers (toJson {} :: ((places.document? env explicit).toList ++ [environment])))
      [illFormed places env explicit] := by
  refine .of_single fun e => ?_
  unfold illFormed
  simp only [merged_iff henvironment, exists_eq_left]
  rw [ofLayers_eq henvironment]
  cases ofJson? (document (places.document? env explicit) environment) <;> simp [eq_comm]

/-- It succeeds with what is read. -/
theorem mergedAs_iff {s s' : Settings}
    (hs : ofLayers (toJson {} ::
      ((places.document? env explicit).toList ++ [environment])) = .ok s) :
    MergedAs places env explicit s' ↔ s' = s := by
  unfold MergedAs
  simp only [merged_iff henvironment, exists_and_left, exists_eq_left]
  rw [ofLayers_eq henvironment] at hs
  cases hread : ofJson? (document (places.document? env explicit) environment) with
  | none =>
    rw [hread] at hs
    cases hs
  | some read =>
    rw [hread] at hs
    have hread' : read.normalized = s := Except.ok.inj hs
    simp [hread']

end Layers

/-- The rest of loading, once the file has been read, fails with what is wrong after the file. -/
theorem failsFirst_checked (layers : List Json)
    (hlayers : layers = toJson {} :: (places.document? env explicit).toList) :
    FailsFirst (do
      let environment ← env.layer
      let settings ← ofLayers (layers ++ [environment])
      settings.validate
      return settings) ((flaws places env explicit).drop 2) := by
  subst hlayers
  refine Environment.failsFirst_layer.bind fun environment henvironment => ?_
  refine (failsFirst_ofLayers henvironment).bind fun s hs => ?_
  have hvalidate : FailsFirst (s.validate >>= fun _ => pure s) [s.unfilterable, s.workless] :=
    (failsFirst_validate s).bind fun _ _ => .ok s
  simp only [mergedAs_iff henvironment hs, exists_eq_left]
  exact hvalidate

/-- Loading settings fails with the first thing that is wrong. -/
theorem failsFirst_load : FailsFirst (load places env explicit) (flaws places env explicit) := by
  refine FilePlaces.failsFirst_chosen.bind fun choice hchosen => ?_
  cases choice with
  | none =>
    refine (FailsFirst.cons_iff_of_not (FilePlaces.not_spoiled hchosen)).2 ?_
    refine failsFirst_checked [toJson {}] ?_
    rw [FilePlaces.document?, hchosen]
    rfl
  | some chosen =>
    refine (FilePlaces.failsFirst_layer hchosen).bind fun file hfile => ?_
    refine failsFirst_checked [toJson {}, file] ?_
    rw [FilePlaces.document?, hchosen]
    dsimp only
    rw [hfile]
    rfl

/-- The first thing that is wrong is told, in the order of the flaws, and settings are loaded if and
only if nothing is wrong. A variable that names a file does not matter if a path is given. -/
theorem load_error_iff_firstFlaw (places : FilePlaces) (env : Environment)
    (explicit : Option String) :
    (∀ e, load places env explicit = .error e ↔ FirstFlaw (flaws places env explicit) e) ∧
    ((∃ s, load places env explicit = .ok s) ↔ ∀ flaw ∈ flaws places env explicit, ∀ e, ¬ flaw e) ∧
    ∀ path named, load places
      (fun name => if name = Variable.filePath then named else env name) (some path) =
      load places env (some path) := by
  refine ⟨failsFirst_load, failsFirst_load.exists_ok_iff, fun path named => ?_⟩
  have hlayer : Environment.layer
      (fun name => if name = Variable.filePath then named else env name) = env.layer := by
    refine Environment.layOver_congr (fun v hv => if_neg ?_) _
    revert v
    decide
  rw [load, load, hlayer]
  rfl

/-- Of a file that is no document and a variable that is no truth value, the file is told. -/
example : load { working := { entries := [([".stepwright.toml"], .file "tags")] } }
    (fun name => if name = "STEPWRIGHT_EXECUTION_STRICT" then some "maybe" else none) none =
      .error (.malformed ".stepwright.toml") := by decide +kernel

/-- A file that is a document need not be one of settings. -/
example : load { working := { entries := [([".stepwright.toml"], .file "execution = true")] } }
    (fun _ => none) none = .error .layers := by decide +kernel

/-- Of a tag filter that cannot be read and no workers, the filter is told. -/
example : load { working := { entries := [([".stepwright.toml"], .file "execution.workers = 0")] } }
    (fun name => if name = "STEPWRIGHT_TAGS" then some "@a and" else none) none =
      .error (.invalidValue "tags" "invalid tag 'a and' in tag filter '@a and'") := by
        decide +kernel

example : load { working := { entries := [([".stepwright.toml"], .file "execution.workers = 0")] } }
    (fun _ => none) none = .error (.invalidValue "execution.workers" "must be at least 1") := by
      decide +kernel

end Settings

end Rehearsal
