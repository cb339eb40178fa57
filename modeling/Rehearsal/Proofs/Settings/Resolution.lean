import Rehearsal.Proofs.Except
import Rehearsal.Proofs.Settings.Environment
import Rehearsal.Proofs.Toml.Names
import Rehearsal.Settings.Load

/-!
# Where settings come from

Loaded settings come each from its own variable, or else from its own place in the file, or else
from its default, whatever the other settings come from. Only then are blanks around the tag filter
removed; so a variable that is set to blanks leaves no filter, even if the file has one.
-/

namespace Rehearsal

open Json

/-! ## The file -/

namespace FilePlaces

/-- The content of the file that settings are read from, if there is a file that can be read. -/
def document? (places : FilePlaces) (env : Environment) (explicit : Option String) : Option Json :=
  match places.chosen env explicit with
  | .ok (some (path, item)) => (layer path item).toOption
  | _ => none

/-- What that file has at a path of names. -/
def inFile? (places : FilePlaces) (env : Environment) (explicit : Option String)
    (path : List String) : Option Json :=
  (places.document? env explicit).bind fun document => document.at? path

/-- The content of a file is an object that repeats no name. -/
theorem distinct_of_document? {places : FilePlaces} {env : Environment} {explicit : Option String}
    {document : Json} (h : places.document? env explicit = some document) :
    document.Distinct ∧ ∃ fields, document = .object fields := by
  unfold document? at h
  split at h
  · next path item hchosen =>
    cases item with
    | directory => cases h
    | unreadable => cases h
    | file text =>
      unfold layer at h
      dsimp only at h
      split at h
      · next value hparse =>
        cases h
        exact Toml.distinct_of_parse hparse
      · cases h
  · cases h

end FilePlaces

namespace Settings

/-! ## Reading settings -/

/-- The number of workers that a value stands for. -/
def workersOf? (v : Json) : Option Nat := v.natBelow? UInt64.size

/-- Settings are read field by field, and an object is read as settings if its fields
are of their types. -/
theorem ofJson?_object_iff {fields : List (String × Json)} {s : Settings} :
    ofJson? (.object fields) = some s ↔
      Json.optional tagsOf? none (fields.lookup "tags") = some s.tags ∧
      Json.optional ExecutionSettings.ofJson? {} (fields.lookup "execution") =
        some s.execution := by
  constructor
  · intro h
    obtain ⟨tags, htags, h⟩ := Option.bind_eq_some_iff.1 h
    obtain ⟨execution, hexecution, h⟩ := Option.bind_eq_some_iff.1 h
    cases h
    exact ⟨htags, hexecution⟩
  · rintro ⟨htags, hexecution⟩
    exact Option.bind_eq_some_iff.2
      ⟨s.tags, htags, Option.bind_eq_some_iff.2 ⟨s.execution, hexecution, rfl⟩⟩

/-- So are execution settings, from anything but a list, which gives them by their positions. -/
theorem fields_of_execution {v : Json} {s : ExecutionSettings} (hlist : ∀ items, v ≠ .array items)
    (h : ExecutionSettings.ofJson? v = some s) :
    Json.optional Json.bool? false (v.fields.lookup "strict") = some s.strict ∧
    Json.optional Json.bool? false (v.fields.lookup "dry_run") = some s.dryRun ∧
    Json.optional workersOf? 4 (v.fields.lookup "workers") = some s.workers := by
  obtain ⟨_, hfield, h⟩ := Option.bind_eq_some_iff.1 h
  cases v with
  | object fields =>
    cases hfield
    obtain ⟨strict, hstrict, h⟩ := Option.bind_eq_some_iff.1 h
    obtain ⟨dryRun, hdryRun, h⟩ := Option.bind_eq_some_iff.1 h
    obtain ⟨workers, hworkers, h⟩ := Option.bind_eq_some_iff.1 h
    cases h
    exact ⟨hstrict, hdryRun, hworkers⟩
  | array items => exact absurd rfl (hlist items)
  | _ => cases hfield

/-- Settings of an object are read along their paths. -/
theorem paths_of_ofJson? {fields : List (String × Json)} {s : Settings}
    (hlist : ∀ items, (Json.object fields).at? ["execution"] ≠ some (.array items))
    (h : ofJson? (.object fields) = some s) :
    Json.optional tagsOf? none ((Json.object fields).at? ["tags"]) = some s.tags ∧
    Json.optional Json.bool? false ((Json.object fields).at? ["execution", "strict"]) =
      some s.execution.strict ∧
    Json.optional Json.bool? false ((Json.object fields).at? ["execution", "dry_run"]) =
      some s.execution.dryRun ∧
    Json.optional workersOf? 4 ((Json.object fields).at? ["execution", "workers"]) =
      some s.execution.workers := by
  have hinner : ∀ name, (Json.object fields).at? ["execution", name] =
      (fields.lookup "execution").bind fun v => v.fields.lookup name := fun name => by
    simp only [at?_cons _ "execution", at?_singleton, fields_object]
  obtain ⟨htags, hexecution⟩ := ofJson?_object_iff.1 h
  rw [at?_singleton] at hlist ⊢
  rw [hinner, hinner, hinner]
  refine ⟨htags, ?_⟩
  rw [fields_object] at hlist
  cases hfound : fields.lookup "execution" with
  | none =>
    rw [hfound] at hexecution
    rw [← Option.some.inj hexecution]
    exact ⟨rfl, rfl, rfl⟩
  | some v =>
    rw [hfound] at hexecution hlist
    exact fields_of_execution (fun items hv => hlist items (congrArg some hv)) hexecution

/-! ## Layers of settings -/

/-- Layers without fields do not matter, as long as there is an object below. -/
theorem foldl_over_filter (layers : List Json) (hlayers : ∀ layer ∈ layers, isLayer layer = true)
    (below : List (String × Json)) :
    (layers.filter fun layer => !layer.fields.isEmpty).foldl Json.over (.object below) =
      layers.foldl Json.over (.object below) := by
  induction layers generalizing below with
  | nil => rfl
  | cons layer rest ih =>
    have hrest := fun l hl => hlayers l (List.mem_cons_of_mem layer hl)
    cases layer with
    | object fields =>
      cases fields with
      | nil =>
        rw [List.filter_cons_of_neg (by decide), List.foldl_cons, over_empty]
        exact ih hrest below
      | cons field fields =>
        rw [List.filter_cons_of_pos rfl, List.foldl_cons, List.foldl_cons]
        exact ih hrest _
    | _ => exact Bool.noConfusion (hlayers _ List.mem_cons_self)

/-- The layers over the defaults are laid over them one after the other. -/
theorem combined_defaults (layers : List Json) (hlayers : ∀ layer ∈ layers, isLayer layer = true) :
    combined (toJson {} :: layers) = layers.foldl Json.over (toJson {}) := by
  have hdefaults : Json.null.over (toJson {}) = toJson {} := rfl
  unfold combined
  rw [List.filter_cons_of_pos rfl, List.foldl_cons, hdefaults]
  exact foldl_over_filter layers hlayers _

/-- The document of settings from a file, if there is one, and the environment. -/
def document (file? : Option Json) (environment : Json) : Json :=
  (file?.elim (toJson {}) (toJson {}).over).over environment

/-- The document is what the defaults, the file and the environment amount to as layers. -/
theorem combined_document {file? : Option Json} {environment : Json}
    (hfile : ∀ file ∈ file?, ∃ fields, file = .object fields)
    (henvironment : isLayer environment = true) :
    (toJson {} :: (file?.toList ++ [environment])).all isLayer = true ∧
    combined (toJson {} :: (file?.toList ++ [environment])) = document file? environment := by
  have hobjects : ∀ layer ∈ file?.toList ++ [environment], isLayer layer = true := by
    intro layer hlayer
    rcases List.mem_append.1 hlayer with hlayer | hlayer
    · obtain ⟨fields, rfl⟩ := hfile layer (Option.mem_toList.1 hlayer)
      rfl
    · rw [List.mem_singleton.1 hlayer]
      exact henvironment
  refine ⟨List.all_eq_true.2 (List.forall_mem_cons.2 ⟨rfl, hobjects⟩), ?_⟩
  rw [combined_defaults _ hobjects, List.foldl_append]
  cases file? <;> rfl

/-- Settings of layers are read from what these amount to. -/
theorem ofJson?_of_layers {layers : List Json} {s : Settings} (h : ofLayers layers = .ok s) :
    ∃ read, ofJson? (combined layers) = some read ∧ s = read.normalized := by
  unfold ofLayers at h
  split at h
  · split at h
    · next read hread =>
      cases h
      exact ⟨read, hread, rfl⟩
    · cases h
  · cases h

/-- Loaded settings are the settings of layers, the highest of which the environment makes,
and have been checked. -/
theorem ofLayers_of_checked {env : Environment} (layers : List Json) {s : Settings}
    (h : (do
      let environment ← env.layer
      let settings ← ofLayers (layers ++ [environment])
      settings.validate
      return settings) = .ok s) :
    ∃ environment, env.layer = .ok environment ∧ ofLayers (layers ++ [environment]) = .ok s ∧
      s.validate = .ok () := by
  obtain ⟨environment, henvironment, h⟩ := ok_of_bind h
  obtain ⟨settings, hsettings, h⟩ := ok_of_bind h
  obtain ⟨_, hvalidate, h⟩ := ok_of_bind h
  cases h
  exact ⟨environment, henvironment, hsettings, hvalidate⟩

/-- The layers are the defaults, the file, if there is one, and the environment. -/
theorem ofLayers_of_load {places : FilePlaces} {env : Environment} {explicit : Option String}
    {s : Settings} (h : load places env explicit = .ok s) :
    ∃ environment, env.layer = .ok environment ∧
      ofLayers (toJson {} :: ((places.document? env explicit).toList ++ [environment])) = .ok s ∧
      s.validate = .ok () := by
  obtain ⟨choice, hchosen, h⟩ := ok_of_bind h
  unfold FilePlaces.document?
  rw [hchosen]
  cases choice with
  | none => exact ofLayers_of_checked [toJson {}] h
  | some chosen =>
    obtain ⟨document, hdocument, h⟩ := ok_of_bind h
    dsimp only
    rw [hdocument]
    exact ofLayers_of_checked [toJson {}, document] h

/-- Loaded settings are read from the document of the three of them. -/
theorem ofJson?_of_load {places : FilePlaces} {env : Environment} {explicit : Option String}
    {s : Settings} (h : load places env explicit = .ok s) :
    ∃ environment read, env.Says environment ∧
      ofJson? (document (places.document? env explicit) environment) = some read ∧
      s = read.normalized := by
  obtain ⟨environment, henvironment, hlayers, -⟩ := ofLayers_of_load h
  have hsaid := Environment.says_of_layer henvironment
  obtain ⟨read, hread, hs⟩ := ofJson?_of_layers hlayers
  refine ⟨environment, read, hsaid, ?_, hs⟩
  have hfile : ∀ file ∈ places.document? env explicit, ∃ fields, file = .object fields :=
    fun file hmem => (FilePlaces.distinct_of_document? hmem).2
  rw [← (combined_document hfile hsaid.isLayer).2]
  exact hread

/-! ## Settings from three sources -/

/-- A value comes from the text of a variable, if it is set, or else from what a file has for it, if
it has anything, or else it is the default. -/
inductive Resolved {α : Type} (text? : Option String) (parse : String → Option α)
    (found? : Option Json) (read : Json → Option α) (default : α) : α → Prop
  | ofText {text : String} {value : α} : text? = some text → parse text = some value →
      Resolved text? parse found? read default value
  | ofFile {found : Json} {value : α} : text? = none → found? = some found →
      read found = some value →
      Resolved text? parse found? read default value
  | ofDefault : text? = none → found? = none → Resolved text? parse found? read default default

/-- A variable that is set decides. -/
theorem Resolved.eq_of_text {α : Type} {text? : Option String} {parse : String → Option α}
    {found? : Option Json} {read : Json → Option α} {default value : α}
    (h : Resolved text? parse found? read default value) {text : String}
    (htext : text? = some text) : parse text = some value := by
  cases h with
  | ofText hset hparse =>
    rw [htext] at hset
    rw [Option.some.inj hset]
    exact hparse
  | ofFile hunset => exact absurd (htext.symm.trans hunset) nofun
  | ofDefault hunset => exact absurd (htext.symm.trans hunset) nofun

/-! ### Values of one kind -/

theorem tagsOf?_over (below above : Json) : tagsOf? (below.over above) = tagsOf? above := by
  cases above <;> rfl

theorem bool?_over (below above : Json) : (below.over above).bool? = above.bool? := by
  cases above <;> rfl

theorem workersOf?_over (below above : Json) :
    workersOf? (below.over above) = workersOf? above := by
  cases above <;> rfl

/-- A variable with a text gives that text as filter. -/
theorem tags_of_read {v : Variable} (hkind : v.kind = .text) {text : String} {json : Json}
    {tags : Option String} (h : v.read text = .ok json) (htags : tagsOf? json = some tags) :
    some (some text) = some tags := by
  unfold Variable.read at h
  rw [hkind] at h
  cases h
  exact htags

/-- A variable with a truth value gives the one in its text. -/
theorem boolean_of_read {v : Variable} (hkind : v.kind = .boolean) {text : String} {json : Json}
    {b : Bool} (h : v.read text = .ok json) (hb : json.bool? = some b) :
    readBoolean (trimmed text) = some b := by
  unfold Variable.read at h
  rw [hkind] at h
  dsimp only at h
  split at h
  · next value hvalue =>
    cases h
    exact hvalue.trans hb
  · cases h

/-- A variable with a number gives the one in its text. -/
theorem count_of_read {v : Variable} (hkind : v.kind = .count) {text : String} {json : Json}
    {n : Nat} (h : v.read text = .ok json) (hn : workersOf? json = some n) :
    (IntegerType.unsigned64.read (trimmed text)).toOption.map Int.toNat = some n := by
  unfold Variable.read at h
  rw [hkind] at h
  dsimp only at h
  split at h
  · next value hvalue =>
    cases h
    rw [hvalue]
    unfold workersOf? natBelow? at hn
    split at hn
    · next k heq =>
      cases heq
      split at hn
      · exact hn
      · cases hn
    · cases hn
  · cases h

/-! ### What is in the way -/

/-- A list laid over a value is that list, and nothing else amounts to it. -/
theorem eq_array_of_over {below above : Json} {items : List Json}
    (h : below.over above = .array items) :
    above = .array items := by
  cases above with
  | array _ => exact h
  | _ => cases h

/-- An object is in the way of none of its own fields. -/
theorem not_blocks_singleton {v : Json} {name : String} (h : isLayer v = true) :
    ¬ v.Blocks [name] := by
  cases v with
  | object fields => exact fun ⟨_, _, hblocks⟩ => hblocks
  | _ => exact Bool.noConfusion h

section Sources

variable {file? : Option Json} {environment : Json} {env : Environment}

/-- The document of settings lays the environment over what is below it, without being in
the way of settings. -/
theorem at?_document (file? : Option Json) (hsaid : env.Says environment) {v : Variable}
    (hv : v ∈ Variable.all) :
    match env v.name with
    | some text => ∃ value below : Json, v.read text = .ok value ∧
        (document file? environment).at? v.path = some (below.over value)
    | none =>
      (document file? environment).at? v.path =
        (file?.elim (toJson {}) (toJson {}).over).at? v.path := by
  have hpath := hsaid.at?_path v hv
  cases hset : env v.name with
  | some text =>
    rw [hset] at hpath
    obtain ⟨value, hread, hat⟩ := hpath
    exact ⟨value, _, hread, hsaid.distinct.at?_over_of_some hat _⟩
  | none =>
    rw [hset] at hpath
    exact (hsaid.distinct.at?_over_of_none hpath _).1 (hsaid.not_blocks v hv)

/-- A setting that is read from the document comes from one of the three sources, if values that are
laid over others are read as they are. -/
theorem resolved_of_read {α : Type} {parse : String → Option α} {read : Json → Option α}
    {default value : α} {initial : Json} (hfile : ∀ file ∈ file?, file.Distinct)
    (hsaid : env.Says environment) {v : Variable} (hv : v ∈ Variable.all)
    (hover : ∀ below above : Json, read (below.over above) = read above)
    (hparse : ∀ text json, v.read text = .ok json → read json = some value →
      parse text = some value)
    (hinitial : (toJson {}).at? v.path = some initial) (hdefault : read initial = some default)
    (h : Json.optional read default ((document file? environment).at? v.path) = some value) :
    Resolved (env v.name) parse (file?.bind fun file => file.at? v.path) read default value := by
  have hdocument := at?_document file? hsaid hv
  cases hset : env v.name with
  | some text =>
    rw [hset] at hdocument
    obtain ⟨json, below, hread, hat⟩ := hdocument
    rw [hat] at h
    exact .ofText rfl (hparse text json hread ((hover below json).symm.trans h))
  | none =>
    rw [hset] at hdocument
    rw [hdocument] at h
    cases hfound : file? with
    | none =>
      rw [hfound, Option.elim_none, hinitial] at h
      rw [← Option.some.inj (hdefault.symm.trans h)]
      exact .ofDefault rfl rfl
    | some file =>
      rw [hfound, Option.elim_some] at h
      have hdistinct := hfile file hfound
      cases hat : file.at? v.path with
      | some found =>
        rw [hdistinct.at?_over_of_some hat] at h
        exact .ofFile rfl hat ((hover _ found).symm.trans h)
      | none =>
        -- Even something in the way leaves no value, so it does not matter whether there is.
        have hvalue : default = value := by
          by_cases hblocks : file.Blocks v.path
          · rw [(hdistinct.at?_over_of_none hat _).2 hblocks] at h
            exact Option.some.inj h
          · rw [(hdistinct.at?_over_of_none hat _).1 hblocks, hinitial] at h
            exact Option.some.inj (hdefault.symm.trans h)
        rw [← hvalue]
        exact .ofDefault rfl hat

/-- There is no list of execution settings in the document if there is none in the file. -/
theorem at?_execution_ne_array
    (hfile : ∀ file ∈ file?, file.Distinct ∧ ∃ fields, file = .object fields)
    (hsaid : env.Says environment)
    (hlist : ∀ items, (file?.bind fun file => file.at? ["execution"]) ≠ some (.array items))
    (items : List Json) :
    (document file? environment).at? ["execution"] ≠ some (.array items) := by
  intro hdocument
  cases habove : environment.at? ["execution"] with
  | some above =>
    rw [document, hsaid.distinct.at?_over_of_some habove] at hdocument
    have harray : above = .array items := eq_array_of_over (Option.some.inj hdocument)
    -- A list would be in the way of the settings that the variables are for.
    refine hsaid.not_blocks ⟨"STEPWRIGHT_EXECUTION_STRICT", ["execution", "strict"], .boolean⟩
      (by decide) ?_
    rw [at?_singleton, harray] at habove
    exact blocks_cons_of_lookup habove trivial
  | none =>
    have hopen : ¬ environment.Blocks ["execution"] := not_blocks_singleton hsaid.isLayer
    rw [document, (hsaid.distinct.at?_over_of_none habove _).1 hopen] at hdocument
    cases hfound : file? with
    | none =>
      rw [hfound] at hdocument
      cases hdocument
    | some file =>
      rw [hfound, Option.elim_some] at hdocument
      obtain ⟨hdistinct, fields, rfl⟩ := hfile file hfound
      cases hat : (Json.object fields).at? ["execution"] with
      | some found =>
        rw [hdistinct.at?_over_of_some hat] at hdocument
        have harray : found = .array items := eq_array_of_over (Option.some.inj hdocument)
        refine hlist items ?_
        rw [hfound, Option.bind_some, hat, harray]
      | none =>
        rw [(hdistinct.at?_over_of_none hat _).1 (not_blocks_singleton rfl)] at hdocument
        cases hdocument

end Sources

/-- Each loaded setting comes from its variable, or else from the file, or else it is the default,
whatever the others come from; then blanks around the tag filter are removed, and a blank one counts
as none, so that a variable set to blanks hides a filter of the file. Of the types in the file one
matters: `execution` must not be a list, since a list is read by positions and not by names. -/
theorem load_resolved {places : FilePlaces} {env : Environment} {explicit : Option String}
    {s : Settings} (h : load places env explicit = .ok s)
    (hlist : ∀ items, places.inFile? env explicit ["execution"] ≠ some (.array items)) :
    (∃ tags, Resolved (env "STEPWRIGHT_TAGS") (fun text => some (some text))
      (places.inFile? env explicit ["tags"])
        tagsOf? none tags ∧ s.tags = (tags.map trimmed).filter fun text => text != "") ∧
    (∀ text, env "STEPWRIGHT_TAGS" = some text → trimmed text = "" → s.tags = none) ∧
    Resolved (env "STEPWRIGHT_EXECUTION_STRICT") (fun text => readBoolean (trimmed text))
      (places.inFile? env explicit ["execution", "strict"]) Json.bool? false s.execution.strict ∧
    Resolved (env "STEPWRIGHT_EXECUTION_DRY_RUN") (fun text => readBoolean (trimmed text))
      (places.inFile? env explicit ["execution", "dry_run"]) Json.bool? false s.execution.dryRun ∧
    Resolved (env "STEPWRIGHT_EXECUTION_WORKERS")
      (fun text => (IntegerType.unsigned64.read (trimmed text)).toOption.map Int.toNat)
      (places.inFile? env explicit ["execution", "workers"]) workersOf? 4 s.execution.workers := by
  obtain ⟨environment, read, hsaid, hread, rfl⟩ := ofJson?_of_load h
  have hfile : ∀ file ∈ places.document? env explicit, file.Distinct ∧
      ∃ fields, file = .object fields :=
    fun file hmem => FilePlaces.distinct_of_document? hmem
  have hdistinct := fun file hmem => (hfile file hmem).1
  have hnone := at?_execution_ne_array hfile hsaid hlist
  obtain ⟨fields, hfields⟩ : ∃ fields, document (places.document? env explicit) environment =
    .object fields := by
    have hlayer := hsaid.isLayer
    cases environment with
    | object fields => exact ⟨_, rfl⟩
    | _ => exact Bool.noConfusion hlayer
  rw [hfields] at hread hnone
  obtain ⟨htags, hstrict, hdryRun, hworkers⟩ := paths_of_ofJson? hnone hread
  rw [← hfields] at htags hstrict hdryRun hworkers
  have htagsResolved := resolved_of_read hdistinct hsaid
    (v := ⟨"STEPWRIGHT_TAGS", ["tags"], .text⟩) (by decide)
    tagsOf?_over (fun _ _ hjson hvalue => tags_of_read rfl hjson hvalue) rfl rfl htags
  refine ⟨⟨read.tags, htagsResolved, rfl⟩, fun text hset hblank => ?_, ?_, ?_, ?_⟩
  · have htext : some text = read.tags := Option.some.inj (htagsResolved.eq_of_text hset)
    have hnormalized : read.normalized.tags = (read.tags.map trimmed).filter fun text =>
        text != "" := rfl
    rw [hnormalized, ← htext, Option.map_some, hblank]
    rfl
  · exact resolved_of_read hdistinct hsaid
      (v := ⟨"STEPWRIGHT_EXECUTION_STRICT", ["execution", "strict"], .boolean⟩)
      (by decide) bool?_over
      (fun _ _ hjson hvalue => boolean_of_read rfl hjson hvalue) rfl rfl hstrict
  · exact resolved_of_read hdistinct hsaid
      (v := ⟨"STEPWRIGHT_EXECUTION_DRY_RUN", ["execution", "dry_run"], .boolean⟩)
      (by decide) bool?_over
      (fun _ _ hjson hvalue => boolean_of_read rfl hjson hvalue) rfl rfl hdryRun
  · exact resolved_of_read hdistinct hsaid
      (v := ⟨"STEPWRIGHT_EXECUTION_WORKERS", ["execution", "workers"], .count⟩) (by decide)
      workersOf?_over
      (fun _ _ hjson hvalue => count_of_read rfl hjson hvalue) rfl rfl hworkers

/-! ### A tag filter that is hidden -/

/-- A file with a tag filter and two execution settings. -/
def filtered : FilePlaces where
  working := { entries := [([".stepwright.toml"],
    .file "tags = \"@slow\"\nother = 1\n[execution]\nstrict = true\nworkers = 2\n")] }

/-- A blank tag filter and another execution setting. -/
def blankFilter : Environment
  | "STEPWRIGHT_TAGS" => some " "
  | "STEPWRIGHT_EXECUTION_DRY_RUN" => some "true"
  | _ => none

/-- The settings of the two without the filter. -/
def unfiltered : Settings :=
  { tags := none, execution := { strict := true, dryRun := true, workers := 2 } }

/-- The blank filter hides the one of the file, and nothing hides the number of workers there. -/
theorem load_blankFilter :
    load filtered blankFilter none = .ok unfiltered ∧
    (∀ items, filtered.inFile? blankFilter none ["execution"] ≠ some (.array items)) ∧
    unfiltered.tags = none ∧
    Resolved (blankFilter "STEPWRIGHT_EXECUTION_WORKERS")
      (fun text => (IntegerType.unsigned64.read (trimmed text)).toOption.map Int.toNat)
      (filtered.inFile? blankFilter none ["execution", "workers"]) workersOf? 4
        unfiltered.execution.workers := by
  have hload : load filtered blankFilter none = .ok unfiltered := by decide +kernel
  have hlist : ∀ items, filtered.inFile? blankFilter none ["execution"] ≠ some (.array items) := by
    have hlayer : (filtered.inFile? blankFilter none ["execution"]).all isLayer = true := by
      decide +kernel
    intro items hitems
    rw [hitems] at hlayer
    exact Bool.noConfusion hlayer
  have hresolved := load_resolved hload hlist
  have hset : blankFilter "STEPWRIGHT_TAGS" = some " " := by decide +kernel
  exact ⟨hload, hlist, hresolved.2.1 " " hset (by decide +kernel), hresolved.2.2.2.2⟩

end Settings

end Rehearsal
