import Mathlib.Data.List.Forall2
import Mathlib.Data.List.Nodup
import Mathlib.Data.Option.Defs
import Rehearsal.Proofs.Model.Flattening
import Rehearsal.Proofs.Model.Substitution

/-!
# Expansion

A feature is flattened definition by definition: a plain scenario gives itself, an outline gives one
scenario for each row of its examples. Each of them has the tags of the feature beside its own and
starts with the background of the feature, in which nothing is substituted.
-/

namespace Rehearsal

namespace Outline

/-- The values of the columns that the headers and a row have both. -/
def BindsRow (headers row : List String) (bindings : Bindings) : Prop :=
  ∀ (column : Nat) (header cell : String),
    bindings[column]? = some (header, cell) ↔
      headers[column]? = some header ∧ row[column]? = some cell

/-- The text is the template with the values of columns in place of their tokens. -/
structure Substitutes (bindings : Bindings) (template text : String) : Prop where
  /-- It is what is computed. -/
  computed : text = substitute bindings template
  /-- From left to right, each token is replaced by its value and all else is kept. -/
  replaced : Replaced bindings template.toList text.toList

/-- An argument is of the same kind and of the same shape, and its texts are substituted. -/
inductive SubstitutesArgument (bindings : Bindings) : StepArgument → StepArgument → Prop
  | table {t t' : Table} (h : List.Forall₂ (List.Forall₂ (Substitutes bindings)) t.rows t'.rows) :
    SubstitutesArgument bindings (.table t) (.table t')
  | text {template text : String} (h : Substitutes bindings template text) :
    SubstitutesArgument bindings (.text template) (.text text)

/-- A step of the same keyword, in whose text and argument the values of columns are substituted. -/
structure SubstitutesStep (bindings : Bindings) (template step : Step) : Prop where
  /-- The keyword stays. -/
  keyword : step.keyword = template.keyword
  /-- The text is substituted. -/
  text : Substitutes bindings template.text step.text
  /-- So is the argument, if there is one. -/
  argument : Option.Rel (SubstitutesArgument bindings) template.argument step.argument

/-- The `number`-th scenario of an outline, for one row of its examples. -/
structure Instantiates (o : Outline) (number : Nat) (row : List String) (s : Scenario) : Prop where
  /-- The name tells the number. -/
  name : s.name = o.name ++ " (example " ++ toString number ++ ")"
  /-- The tags are those of the outline. -/
  tags : s.tags = o.tags
  /-- The steps are those of the outline, in order, with the values of the row. -/
  steps : ∃ bindings, BindsRow o.examples.headers row bindings ∧
    List.Forall₂ (SubstitutesStep bindings) o.steps s.steps

/-- The headers beside a row bind the columns that both have. -/
theorem bindsRow_zip (headers row : List String) : BindsRow headers row (headers.zip row) :=
  fun _ _ _ => List.getElem?_zip_eq_some

theorem substitute_substitutes (bindings : Bindings) (template : String) :
    Substitutes bindings template (substitute bindings template) := by
  refine ⟨rfl, ?_⟩
  rw [substitute, String.toList_ofList]
  exact replaced_substituteFrom bindings template.toList

theorem substituteArgument_substitutes (bindings : Bindings) (argument : StepArgument) :
    SubstitutesArgument bindings argument (substituteArgument bindings argument) := by
  cases argument with
  | table t =>
    refine .table ?_
    rw [Table.map, List.forall₂_map_right_iff, List.forall₂_same]
    intro row _
    rw [List.forall₂_map_right_iff, List.forall₂_same]
    exact fun cell _ => substitute_substitutes bindings cell
  | text s => exact .text (substitute_substitutes bindings s)

theorem substituteStep_substitutes (bindings : Bindings) (step : Step) :
    SubstitutesStep bindings step (substituteStep bindings step) := by
  refine ⟨rfl, substitute_substitutes bindings step.text, ?_⟩
  rw [substituteStep]
  cases step.argument with
  | none => exact .none
  | some argument => exact .some (substituteArgument_substitutes bindings argument)

theorem instantiate_instantiates (o : Outline) (number : Nat) (row : List String) :
    Instantiates o number row (o.instantiate number row) := by
  refine ⟨rfl, rfl, o.examples.headers.zip row, bindsRow_zip _ _, ?_⟩
  rw [instantiate, List.forall₂_map_right_iff, List.forall₂_same]
  exact fun step _ => substituteStep_substitutes _ step

@[simp] theorem length_expand (o : Outline) : o.expand.length = o.examples.body.length := by
  rw [expand, List.length_map, List.length_zipIdx]

theorem getElem?_expand (o : Outline) (i : Nat) :
    o.expand[i]? = o.examples.body[i]?.map (o.instantiate (i + 1)) := by
  rw [expand, List.getElem?_map, List.getElem?_zipIdx, Option.map_map, Nat.zero_add]
  rfl

/-- Names that tell different numbers are different. -/
theorem instantiate_name_inj {o : Outline} {m n : Nat} {row row' : List String}
    (h : (o.instantiate m row).name = (o.instantiate n row').name) : m = n := by
  have hnumber : toString m = toString n := by simpa [instantiate, String.append_assoc] using h
  have hdigits : Nat.toDigits 10 m = Nat.toDigits 10 n := by
    rw [← Nat.toList_repr, ← Nat.toList_repr]
    exact congrArg String.toList hnumber
  simpa using congrArg (Nat.ofDigitChars 10 · 0) hdigits

/-- The scenarios of one outline have different names. -/
theorem nodup_name_expand (o : Outline) : (o.expand.map Scenario.name).Nodup := by
  rw [List.nodup_iff_pairwise_ne, List.pairwise_iff_getElem]
  intro i j _ _ hlt heq
  have hnumber : i + 1 = j + 1 := instantiate_name_inj (by simpa [expand] using heq)
  omega

end Outline

namespace Feature

/-- The scenario `s` as a feature has it: it goes by its own name, has the tags of the feature too,
and starts with the background. -/
structure Inherits (f : Feature) (own s : Scenario) : Prop where
  /-- The name is its own. -/
  name : s.name = own.name
  /-- The tags are those of the feature and its own. -/
  tags : ∀ tag, tag ∈ s.tags.toList ↔ tag ∈ f.tags.toList ∨ tag ∈ own.tags.toList
  /-- The steps are those of the background, as they are, and its own. -/
  steps : s.steps = f.background ++ own.steps

/-- The scenarios that one definition of a feature gives. -/
inductive Gives (f : Feature) : ScenarioDefinition → List Scenario → Prop
  /-- A plain scenario gives itself. -/
  | scenario {own s : Scenario} (h : f.Inherits own s) : Gives f (.scenario own) [s]
  /-- An outline gives a scenario for each row of its examples after the headers, counted from one,
  and no two of one name. -/
  | outline {o : Outline} {block : List Scenario}
    (hlength : block.length = o.examples.rows.length - 1)
    (hrows : ∀ (i : Nat) row, o.examples.rows[i + 1]? = some row →
      ∃ own s, o.Instantiates (i + 1) row own ∧ f.Inherits own s ∧ block[i]? = some s)
    (hnames : (block.map Scenario.name).Nodup) : Gives f (.outline o) block

theorem inherit_inherits (f : Feature) (own : Scenario) : f.Inherits own (f.inherit own) :=
  ⟨rfl, fun _ => TagSet.mem_union, rfl⟩

theorem expand_gives (f : Feature) (d : ScenarioDefinition) :
    f.Gives d (d.expand.map f.inherit) := by
  cases d with
  | scenario own => exact .scenario (f.inherit_inherits own)
  | outline o =>
    rw [ScenarioDefinition.expand]
    refine .outline (by simp [Table.body]) (fun i row hrow => ?_) ?_
    · refine ⟨o.instantiate (i + 1) row, _, o.instantiate_instantiates _ row,
        f.inherit_inherits _, ?_⟩
      rw [List.getElem?_map, o.getElem?_expand, Table.body, List.getElem?_tail, hrow]
      rfl
    · rw [List.map_map]
      exact o.nodup_name_expand

/-- A feature is flattened to what its definitions give, in their order; what is flattened stays as
it is when it is put back as plain scenarios, beside the same tags and without a background. -/
theorem scenarios_flattened (f : Feature) :
    (∃ blocks, f.scenarios = blocks.flatten ∧ List.Forall₂ f.Gives f.definitions blocks) ∧
      (f.withScenarios f.scenarios).scenarios = f.scenarios := by
  refine ⟨⟨f.definitions.map fun d => d.expand.map f.inherit, ?_, ?_⟩,
    scenarios_withScenarios fun _ => id⟩
  · rw [scenarios, List.map_flatMap, List.flatMap_def]
  · rw [List.forall₂_map_right_iff, List.forall₂_same]
    exact fun d _ => f.expand_gives d

end Feature

end Rehearsal
