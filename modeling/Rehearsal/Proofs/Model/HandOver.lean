import Rehearsal.Proofs.Json.Distinct
import Rehearsal.Proofs.Json.Telling
import Rehearsal.Proofs.Tag.Normal

/-!
# Handing over features

What a feature is written as and what it is read from meet in a relation between features and
documents (`ToldBy`): a document tells a feature if the fields of its objects do, where an object
may have other fields too, and may leave out tags, a background and an argument that there are none
of. The document that a feature is written as tells that feature, but for tags that sets do not keep
as they are; and a feature is read from any document that tells it. So a feature is read from its
own document exactly if its tags have no leading at sign and no blanks around them.
-/

namespace Rehearsal

/-! ## Documents that tell something -/

/-- A set of tags is told by a list of tags, in any form. -/
inductive TagSet.ToldBy : TagSet → Json → Prop
  | strings (given : List String) : ToldBy (.ofList given) (.ofStrings given)

/-- An argument is told by an object that names its kind. -/
inductive StepArgument.ToldBy : StepArgument → Json → Prop
  | table {t : Table} {fields : List (String × Json)}
      (hkind : fields.lookup "kind" = some (.string "table"))
      (hvalue : fields.lookup "value" = some t.toJson) : ToldBy (.table t) (.object fields)
  | text {s : String} {fields : List (String × Json)}
      (hkind : fields.lookup "kind" = some (.string "text"))
      (hvalue : fields.lookup "value" = some (.string s)) : ToldBy (.text s) (.object fields)

/-- The fields of an object tell a step. -/
structure Step.ToldByFields (step : Step) (fields : List (String × Json)) : Prop where
  /-- The keyword is named. -/
  keyword : fields.lookup "keyword" = some step.keyword.toJson
  /-- The text is given. -/
  text : fields.lookup "text" = some (.string step.text)
  /-- The argument may be left out or null. -/
  argument : OptionalToldBy (NullableToldBy StepArgument.ToldBy) none step.argument
    (fields.lookup "argument")

/-- A step is told by an object. -/
inductive Step.ToldBy : Step → Json → Prop
  | object {step : Step} {fields : List (String × Json)} (h : step.ToldByFields fields) :
      ToldBy step (.object fields)

/-- The fields that scenarios and outlines both have. -/
structure CommonFields (name : String) (tags : TagSet) (steps : List Step)
    (fields : List (String × Json)) : Prop where
  /-- The name is given. -/
  name : fields.lookup "name" = some (.string name)
  /-- The tags may be left out. -/
  tags : OptionalToldBy TagSet.ToldBy .empty tags (fields.lookup "tags")
  /-- The steps are listed. -/
  steps : ∃ document, fields.lookup "steps" = some document ∧ ListToldBy Step.ToldBy steps document

/-- The fields of an object tell an outline. -/
structure Outline.ToldByFields (o : Outline) (fields : List (String × Json)) : Prop
    extends CommonFields o.name o.tags o.steps fields where
  /-- The examples are given. -/
  examples : fields.lookup "examples" = some o.examples.toJson

/-- A scenario definition is told by an object that also names its type. -/
inductive ScenarioDefinition.ToldBy : ScenarioDefinition → Json → Prop
  | scenario {s : Scenario} {fields : List (String × Json)}
      (htype : fields.lookup "type" = some (.string "scenario"))
      (h : CommonFields s.name s.tags s.steps fields) :
      ToldBy (.scenario s) (.object fields)
  | outline {o : Outline} {fields : List (String × Json)}
      (htype : fields.lookup "type" = some (.string "outline")) (h : o.ToldByFields fields) :
      ToldBy (.outline o) (.object fields)

/-- The fields of an object tell a feature. -/
structure Feature.ToldByFields (f : Feature) (fields : List (String × Json)) : Prop where
  /-- The name is given. -/
  name : fields.lookup "name" = some (.string f.name)
  /-- The tags may be left out. -/
  tags : OptionalToldBy TagSet.ToldBy .empty f.tags (fields.lookup "tags")
  /-- The background may be left out. -/
  background : OptionalToldBy (ListToldBy Step.ToldBy) [] f.background (fields.lookup "background")
  /-- The scenarios and outlines are listed. -/
  definitions : ∃ document, fields.lookup "scenarios" = some document ∧
    ListToldBy ScenarioDefinition.ToldBy f.definitions document

/-- A feature is told by an object. -/
inductive Feature.ToldBy : Feature → Json → Prop
  | object {f : Feature} {fields : List (String × Json)} (h : f.ToldByFields fields) :
      ToldBy f (.object fields)

/-! ## Reading what a document tells -/

/-- A table is read as it is written. -/
theorem Table.ofJson?_toJson (t : Table) : Table.ofJson? t.toJson = some t := by
  have hrows : Reads (Json.list? Json.string?) fun row document => document = .ofStrings row := by
    rintro row _ rfl
    exact list?_ofStrings row
  have hread : t.toJson.list? (Json.list? Json.string?) = some t.rows := by
    refine hrows.list _ _ (.array ?_)
    rw [List.forall₂_map_right_iff, List.forall₂_same]
    exact fun _ _ => rfl
  rw [Table.ofJson?, hread]
  rfl

/-- So is a keyword. -/
theorem Keyword.ofJson?_toJson (lenient : Bool) (k : Keyword) :
    Keyword.ofJson? lenient k.toJson = some k := by
  cases k <;> decide +revert

theorem TagSet.reads : Reads TagSet.ofJson? TagSet.ToldBy := by
  rintro _ _ ⟨given⟩
  exact TagSet.ofJson?_ofStrings given

theorem StepArgument.reads (lenient : Bool) :
    Reads (StepArgument.ofJson? lenient) StepArgument.ToldBy := by
  rintro _ _ (⟨hkind, hvalue⟩ | ⟨hkind, hvalue⟩)
  · simp [StepArgument.ofJson?, Json.record?, Json.required, hkind, hvalue, Json.name?,
      Table.ofJson?_toJson]
  · simp [StepArgument.ofJson?, Json.record?, Json.required, hkind, hvalue,
      Json.name?, Json.string?]

theorem Step.reads (lenient : Bool) : Reads (Step.ofJson? lenient) Step.ToldBy := by
  rintro step _ ⟨h⟩
  have hargument := (StepArgument.reads lenient).nullable.optional h.argument
  simp [Step.ofJson?, Json.record?, Json.required, h.keyword, h.text, hargument,
    Keyword.ofJson?_toJson, Json.string?]

theorem CommonFields.ofJson?_eq (lenient : Bool) {s : Scenario} {fields : List (String × Json)}
    (h : CommonFields s.name s.tags s.steps fields) :
    Scenario.ofJson? lenient (.object fields) = some s := by
  obtain ⟨document, hfield, htold⟩ := h.steps
  have htags := TagSet.reads.optional h.tags
  have hsteps := (Step.reads lenient).list _ _ htold
  simp [Scenario.ofJson?, Json.record?, Json.required, h.name, htags, hfield, hsteps, Json.string?]

theorem Outline.ToldByFields.ofJson?_eq (lenient : Bool) {o : Outline}
    {fields : List (String × Json)} (h : o.ToldByFields fields) :
    Outline.ofJson? lenient (.object fields) = some o := by
  obtain ⟨document, hfield, htold⟩ := h.steps
  have htags := TagSet.reads.optional h.tags
  have hsteps := (Step.reads lenient).list _ _ htold
  simp [Outline.ofJson?, Json.record?, Json.required, h.name, htags, hfield, hsteps,
    h.examples, Json.string?, Table.ofJson?_toJson]

/-- The type is none of the fields that scenarios and outlines have. -/
theorem CommonFields.without_type {name : String} {tags : TagSet} {steps : List Step}
    {fields : List (String × Json)} (h : CommonFields name tags steps fields) :
    CommonFields name tags steps (fields.filter fun field => field.1 != "type") := by
  obtain ⟨hname, htags, hsteps⟩ := h
  constructor
  · rwa [lookup_filter_ne (by decide)]
  · rwa [lookup_filter_ne (by decide)]
  · rwa [lookup_filter_ne (by decide)]

/-- Nor are the examples the type. -/
theorem Outline.ToldByFields.without_type {o : Outline} {fields : List (String × Json)}
    (h : o.ToldByFields fields) :
    o.ToldByFields (fields.filter fun field => field.1 != "type") := by
  refine ⟨h.toCommonFields.without_type, ?_⟩
  rw [lookup_filter_ne (by decide)]
  exact h.examples

theorem ScenarioDefinition.reads : Reads ScenarioDefinition.ofJson? ScenarioDefinition.ToldBy := by
  rintro _ _ (⟨htype, h⟩ | ⟨htype, h⟩)
  · have hread := h.without_type.ofJson?_eq true
    simp [ScenarioDefinition.ofJson?, Json.tagged?, htype, Json.string?, hread]
  · have hread := h.without_type.ofJson?_eq true
    simp [ScenarioDefinition.ofJson?, Json.tagged?, htype, Json.string?, hread]

/-- A feature is read from each document that tells it. -/
theorem Feature.reads : Reads Feature.ofJson? Feature.ToldBy := by
  rintro f _ ⟨h⟩
  obtain ⟨document, hfield, htold⟩ := h.definitions
  have htags := TagSet.reads.optional h.tags
  have hbackground := (Step.reads false).list.optional h.background
  have hdefinitions := ScenarioDefinition.reads.list _ _ htold
  simp [Feature.ofJson?, Json.record?, Json.required, h.name, htags, hbackground, hfield,
    hdefinitions, Json.string?]

/-! ## What a feature is written as -/

/-- The set that is read from the document of a set of tags. -/
def TagSet.reread (s : TagSet) : TagSet := .ofList s.toList

/-- The tags of a scenario or of an outline. -/
def ScenarioDefinition.tags : ScenarioDefinition → TagSet
  | .scenario s => s.tags
  | .outline o => o.tags

/-- The definition with the tags that are read from its document. -/
def ScenarioDefinition.reread : ScenarioDefinition → ScenarioDefinition
  | .scenario s => .scenario { s with tags := s.tags.reread }
  | .outline o => .outline { o with tags := o.tags.reread }

/-- The feature with the tags that are read from its document. -/
def Feature.reread (f : Feature) : Feature :=
  { f with tags := f.tags.reread, definitions := f.definitions.map ScenarioDefinition.reread }

theorem TagSet.reread_toldBy (s : TagSet) : s.reread.ToldBy s.toJson := .strings s.toList

theorem StepArgument.toldBy_toJson (argument : StepArgument) : argument.ToldBy argument.toJson := by
  cases argument with
  | table t => exact .table rfl rfl
  | text s => exact .text rfl rfl

theorem Step.toldBy_toJson (step : Step) : step.ToldBy step.toJson := by
  obtain ⟨keyword, text, argument⟩ := step
  refine .object ⟨rfl, rfl, ?_⟩
  cases argument with
  | none => exact .leftOut
  | some argument =>
    refine .told (.told argument.toldBy_toJson ?_)
    cases argument <;> exact nofun

theorem Step.listToldBy_listToJson (steps : List Step) :
    ListToldBy Step.ToldBy steps (listToJson steps) := by
  refine .array ?_
  rw [List.forall₂_map_right_iff, List.forall₂_same]
  exact fun step _ => step.toldBy_toJson

theorem ScenarioDefinition.reread_toldBy (d : ScenarioDefinition) : d.reread.ToldBy d.toJson := by
  cases d with
  | scenario s =>
    exact .scenario rfl ⟨rfl, .told s.tags.reread_toldBy, _, rfl,
      Step.listToldBy_listToJson s.steps⟩
  | outline o =>
    exact .outline rfl
      ⟨⟨rfl, .told o.tags.reread_toldBy, _, rfl, Step.listToldBy_listToJson o.steps⟩, rfl⟩

/-- The document that a feature is written as tells the feature, with the tags as they are read. -/
theorem Feature.reread_toldBy (f : Feature) : f.reread.ToldBy f.toJson := by
  refine .object ⟨rfl, .told f.tags.reread_toldBy, .told (Step.listToldBy_listToJson f.background),
    _, rfl, .array ?_⟩
  rw [reread, List.forall₂_map_left_iff, List.forall₂_map_right_iff, List.forall₂_same]
  exact fun d _ => d.reread_toldBy

/-- So the document that a feature is written as is always read. -/
theorem Feature.ofJson?_toJson (f : Feature) : Feature.ofJson? f.toJson = some f.reread :=
  Feature.reads _ _ f.reread_toldBy

/-! ## What is read again -/

/-- No tag of the set has a leading at sign or blanks around it. -/
def TagSet.Plain (s : TagSet) : Prop := ∀ t ∈ s.toList, Bare t.toList ∧ '@' ∉ t.toList.head?

/-- The tags of a feature and of its scenarios and outlines are of this form. -/
structure Feature.PlainTags (f : Feature) : Prop where
  /-- The tags of the feature itself. -/
  own : f.tags.Plain
  /-- The tags of each scenario and outline. -/
  definitions : ∀ d ∈ f.definitions, d.tags.Plain

theorem TagSet.reread_eq_self_iff {s : TagSet} : s.reread = s ↔ s.Plain := by
  have hread : TagSet.ofJson? s.toJson = some s.reread := TagSet.ofJson?_ofStrings s.toList
  rw [← Option.some_inj, ← hread, TagSet.ofJson?_toJson_iff]
  exact forall₂_congr fun _ _ => normalTag_eq_self_iff

theorem ScenarioDefinition.reread_eq_self_iff {d : ScenarioDefinition} :
    d.reread = d ↔ d.tags.Plain := by
  rcases d with ⟨name, tags, steps⟩ | ⟨name, tags, steps, examples⟩ <;>
    simp [reread, ScenarioDefinition.tags, TagSet.reread_eq_self_iff]

/-- A feature is read as it is exactly if its tags are of this form. -/
theorem Feature.reread_eq_self_iff {f : Feature} : f.reread = f ↔ f.PlainTags := by
  have hdefinitions : f.definitions.map ScenarioDefinition.reread = f.definitions ↔
      ∀ d ∈ f.definitions, d.reread = id d := by
    rw [← List.map_inj_left, List.map_id]
  have hfields : f.reread = f ↔
      f.tags.reread = f.tags ∧ f.definitions.map ScenarioDefinition.reread = f.definitions := by
    obtain ⟨name, tags, background, definitions⟩ := f
    simp [reread]
  rw [hfields, hdefinitions, TagSet.reread_eq_self_iff]
  simp only [id_eq, ScenarioDefinition.reread_eq_self_iff]
  exact ⟨fun ⟨hown, hdefinitions⟩ => ⟨hown, hdefinitions⟩,
    fun ⟨hown, hdefinitions⟩ => ⟨hown, hdefinitions⟩⟩

/-! ## Documents without repeated names -/

theorem Table.distinct_toJson (t : Table) : t.toJson.Distinct :=
  .array (List.forall_mem_map.2 fun row _ => Json.distinct_ofStrings row)

theorem StepArgument.distinct_toJson (argument : StepArgument) : argument.toJson.Distinct := by
  cases argument with
  | table t =>
    refine .object (show List.Nodup ["kind", "value"] by decide) ?_
    simp [Json.Distinct.string, t.distinct_toJson]
  | text s =>
    refine .object (show List.Nodup ["kind", "value"] by decide) ?_
    simp [Json.Distinct.string]

theorem Step.distinct_toJson (step : Step) : step.toJson.Distinct := by
  obtain ⟨keyword, text, argument⟩ := step
  cases argument with
  | none =>
    refine .object (show List.Nodup ["keyword", "text"] by decide) ?_
    simp [Keyword.toJson, Json.Distinct.string]
  | some argument =>
    refine .object (show List.Nodup ["keyword", "text", "argument"] by decide) ?_
    simp [Keyword.toJson, Json.Distinct.string, argument.distinct_toJson]

theorem Step.distinct_listToJson (steps : List Step) : (listToJson steps).Distinct :=
  .array (List.forall_mem_map.2 fun step _ => step.distinct_toJson)

theorem ScenarioDefinition.distinct_toJson (d : ScenarioDefinition) : d.toJson.Distinct := by
  cases d with
  | scenario s =>
    refine .object (show List.Nodup ["type", "name", "tags", "steps"] by decide) ?_
    simp [Scenario.fields, TagSet.toJson, Json.Distinct.string, Json.distinct_ofStrings,
      Step.distinct_listToJson]
  | outline o =>
    refine .object (show List.Nodup ["type", "name", "tags", "steps", "examples"] by decide) ?_
    simp [Outline.fields, TagSet.toJson, Json.Distinct.string, Json.distinct_ofStrings,
      Step.distinct_listToJson, o.examples.distinct_toJson]

/-- No object in the document of a feature repeats a name. -/
theorem Feature.distinct_toJson (f : Feature) : f.toJson.Distinct := by
  have hdefinitions : (Json.array (f.definitions.map ScenarioDefinition.toJson)).Distinct :=
    .array (List.forall_mem_map.2 fun d _ => d.distinct_toJson)
  refine .object (show List.Nodup ["name", "tags", "background", "scenarios"] by decide) ?_
  simp [TagSet.toJson, Json.Distinct.string, Json.distinct_ofStrings,
    Step.distinct_listToJson, hdefinitions]

/-! ## The round trip -/

/-- The document that a feature is written as repeats no name in an object. If the tags have no
leading at sign and no blanks around them, it tells the feature; then, and only then, the feature is
read from it as it is. Features are also read from documents that leave out what there is none of
and have foreign fields. And from whatever document a feature with such tags is read, it is written
as a document from which the same feature is read, with the same scenarios. -/
theorem Feature.handOver_roundTrip :
    (∀ f : Feature, f.toJson.Distinct ∧ (f.PlainTags → f.ToldBy f.toJson) ∧
      (Feature.ofJson? f.toJson = some f ↔ f.PlainTags)) ∧
    (∀ (f : Feature) (document : Json), f.ToldBy document → Feature.ofJson? document = some f) ∧
    ∀ (f : Feature) (document : Json), Feature.ofJson? document = some f → f.PlainTags →
      Feature.ofJson? f.toJson = some f ∧
      (Feature.ofJson? f.toJson).map Feature.scenarios = some f.scenarios := by
  have hread : ∀ f : Feature, Feature.ofJson? f.toJson = some f ↔ f.PlainTags := by
    intro f
    rw [f.ofJson?_toJson, Option.some_inj]
    exact Feature.reread_eq_self_iff
  refine ⟨fun f => ⟨f.distinct_toJson, fun htags => ?_, hread f⟩, Feature.reads,
    fun f _ _ htags => ?_⟩
  · have htold := f.reread_toldBy
    rwa [Feature.reread_eq_self_iff.2 htags] at htold
  · have hsame := (hread f).2 htags
    exact ⟨hsame, by rw [hsame, Option.map_some]⟩

/-- A document of one scenario, with an at sign at the tag of the feature, a null for an argument
and a foreign field. -/
def additionDocument : Json :=
  .object
    [("name", .string "Arithmetic"), ("tags", .ofStrings ["@math"]), ("line", .integer 3),
      ("scenarios", .array
        [.object
          [("type", .string "scenario"), ("name", .string "Addition"),
            ("steps", .array
              [.object [("keyword", .string "given"), ("text", .string "the number 2"),
                ("argument", .null)], .object
                  [("keyword", .string "then"), ("text", .string "the totals are"),
                  ("argument", .object [("kind", .string "table"),
                    ("value", .array [.ofStrings ["total"], .ofStrings ["2"]])])]])]])]

/-- The feature that it tells. -/
def additionFeature : Feature :=
  { name := "Arithmetic"
    tags := .ofList ["@math"]
    definitions := [.scenario
      { name := "Addition"
        steps := [{ keyword := .given, text := "the number 2" },
          { keyword := .then, text := "the totals are",
            argument := some (.table ⟨[["total"], ["2"]]⟩) }] }] }

/-- Written again, the document has the tag without its sign and no foreign field, and the
same feature is read. -/
theorem additionDocument_roundTrip :
    Feature.ofJson? additionDocument = some additionFeature ∧ additionFeature.PlainTags ∧
      Feature.ofJson? additionFeature.toJson = some additionFeature ∧
      (Feature.ofJson? additionFeature.toJson).map Feature.scenarios =
        some additionFeature.scenarios := by
  have htold : additionFeature.ToldBy additionDocument := by
    refine .object ⟨rfl, .told (.strings ["@math"]), .leftOut, _, rfl,
      .array (.cons (.scenario rfl ?_) .nil)⟩
    have hfirst : OptionalToldBy (NullableToldBy StepArgument.ToldBy) none none (some .null) :=
      .told .null
    refine ⟨rfl, .leftOut, _, rfl,
      .array (.cons (.object ⟨rfl, rfl, hfirst⟩) (.cons (.object ⟨rfl, rfl, ?_⟩) .nil))⟩
    exact .told (.told (.table rfl rfl) nofun)
  have hread : Feature.ofJson? additionDocument = some additionFeature :=
    Feature.handOver_roundTrip.2.1 _ _ htold
  have htags : additionFeature.PlainTags := by
    refine Feature.reread_eq_self_iff.1 ?_
    decide +kernel
  exact ⟨hread, htags, Feature.handOver_roundTrip.2.2 _ _ hread htags⟩

end Rehearsal
