import Rehearsal.Json

/-!
# Objects without repeated names

In objects fields are found by their names, so a name means one value only where it is not repeated.
`Json.Distinct` says this of a value and of all that is in it.
-/

namespace Rehearsal

/-- Different names. -/
def DistinctNames {α : Type} (fields : List (String × α)) : Prop := (fields.map Prod.fst).Nodup

/-- The first of several fields with different names is not repeated. -/
theorem DistinctNames.lookup_eq_none {α : Type} {name : String} {value : α}
    {rest : List (String × α)} (h : DistinctNames ((name, value) :: rest)) :
    rest.lookup name = none := by
  rw [List.lookup_eq_none_iff]
  intro field hfield
  rw [DistinctNames, List.map_cons, List.nodup_cons] at h
  have hne : name ≠ field.1 := fun heq => h.1 (List.mem_map.2 ⟨field, hfield, heq.symm⟩)
  simpa using hne

/-- The others have different names, too. -/
theorem DistinctNames.tail {α : Type} {field : String × α} {rest : List (String × α)}
    (h : DistinctNames (field :: rest)) : DistinctNames rest := (List.nodup_cons.1 h).2

/-- What is found under a name is in a field. -/
theorem mem_of_lookup {α : Type} {name : String} {value : α} {fields : List (String × α)}
    (h : fields.lookup name = some value) : (name, value) ∈ fields := by
  obtain ⟨before, after, rfl, -⟩ := List.lookup_eq_some_iff.1 h
  exact List.mem_append_right _ List.mem_cons_self

/-- No object in the value repeats the name of a field. -/
inductive Json.Distinct : Json → Prop
  | null : Distinct .null
  | bool (b : Bool) : Distinct (.bool b)
  | integer (n : Int) : Distinct (.integer n)
  | decimal (digits exponent : Int) : Distinct (.decimal digits exponent)
  | string (s : String) : Distinct (.string s)
  | array {items : List Json} : (∀ item ∈ items, item.Distinct) → Distinct (.array items)
  | object {fields : List (String × Json)} :
      DistinctNames fields → (∀ field ∈ fields, field.2.Distinct) →
      Distinct (.object fields)

/-- No list of texts does. -/
theorem Json.distinct_ofStrings (texts : List String) : (Json.ofStrings texts).Distinct :=
  .array (List.forall_mem_map.2 fun text _ => .string text)

end Rehearsal
