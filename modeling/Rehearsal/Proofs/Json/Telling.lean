import Mathlib.Data.List.Forall2
import Rehearsal.Model.Document

/-!
# What documents tell

A relation between values and documents says which document tells which value. Such relations are
put together as documents are: of lists, of fields that may be left out, and of values that may be
null. A reader that reads what is told for the parts does so for the whole.
-/

namespace Rehearsal

variable {α : Type}

/-- A document that is a list tells a list, item by item. -/
inductive ListToldBy (ToldBy : α → Json → Prop) : List α → Json → Prop
  | array {values : List α} {items : List Json} (h : List.Forall₂ ToldBy values items) :
      ListToldBy ToldBy values (.array items)

/-- A field that may be left out tells `absent` when it is. -/
inductive OptionalToldBy (ToldBy : α → Json → Prop) (absent : α) : α → Option Json → Prop
  | leftOut : OptionalToldBy ToldBy absent absent none
  | told {value : α} {document : Json} (h : ToldBy value document) :
      OptionalToldBy ToldBy absent value (some document)

/-- A value that may be null. -/
inductive NullableToldBy (ToldBy : α → Json → Prop) : Option α → Json → Prop
  | null : NullableToldBy ToldBy none .null
  | told {value : α} {document : Json} (h : ToldBy value document) (hnull : document ≠ .null) :
      NullableToldBy ToldBy (some value) document

/-- A reader reads out of each document what it tells. -/
def Reads (read : Json → Option α) (ToldBy : α → Json → Prop) : Prop :=
  ∀ value document, ToldBy value document → read document = some value

section
variable {read : Json → Option α} {ToldBy : α → Json → Prop}

/-- Then it does so for lists. -/
theorem Reads.list (h : Reads read ToldBy) : Reads (Json.list? read) (ListToldBy ToldBy) := by
  rintro values _ ⟨hitems⟩
  change List.mapM read _ = some values
  induction hitems with
  | nil => rfl
  | cons hitem _ ih =>
    rw [List.mapM_cons, h _ _ hitem, ih]
    rfl

/-- For fields that may be left out. -/
theorem Reads.optional (h : Reads read ToldBy) {absent value : α} {field : Option Json}
    (hfield : OptionalToldBy ToldBy absent value field) :
    Json.optional read absent field = some value := by
  cases hfield with
  | leftOut => rfl
  | told htold => exact h _ _ htold

/-- And for values that may be null. -/
theorem Reads.nullable (h : Reads read ToldBy) :
    Reads (Json.nullable read) (NullableToldBy ToldBy) := by
  rintro _ document (_ | ⟨htold, hnull⟩)
  · rfl
  · rw [Json.nullable, h _ _ htold]
    · rfl
    · exact hnull

end

/-- A list of texts is read as it is. -/
theorem list?_ofStrings (texts : List String) :
    (Json.ofStrings texts).list? Json.string? = some texts := by
  have htexts : Reads Json.string? fun text document => document = .string text := by
    rintro text _ rfl
    rfl
  refine htexts.list _ _ (.array ?_)
  rw [List.forall₂_map_right_iff, List.forall₂_same]
  exact fun _ _ => rfl

/-- Taking out the fields of one name leaves those of others. -/
theorem lookup_filter_ne {name tag : String} (hne : name ≠ tag) (fields : List (String × Json)) :
    (fields.filter fun field => field.1 != tag).lookup name = fields.lookup name := by
  induction fields with
  | nil => rfl
  | cons field rest ih =>
    obtain ⟨other, value⟩ := field
    by_cases htag : other = tag
    · subst htag
      rw [List.filter_cons_of_neg (by simp), ih, List.lookup_cons, beq_false_of_ne hne]
    · rw [List.filter_cons_of_pos (by simpa using htag), List.lookup_cons, List.lookup_cons, ih]

end Rehearsal
