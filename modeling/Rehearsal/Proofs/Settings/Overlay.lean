import Mathlib.Data.List.Nodup
import Rehearsal.Proofs.Json.Distinct
import Rehearsal.Settings.Layers

/-!
# Values laid over values

What is found along a path of names in a value that was laid over another one: what the upper value
has there, or else what the lower one has, unless the upper value has something that is no object on
the way. So the upper value decides path by path, and its objects hide nothing of the lower value
that they do not name themselves.
-/

namespace Rehearsal.Json

/-! ## Paths -/

/-- The value at the end of a path of names. -/
def at? : Json → List String → Option Json
  | v, [] => some v
  | v, name :: path => (v.fields.lookup name).bind fun inner => inner.at? path

/-- Something that is no object is on the way along the path, before its end. -/
def Blocks : Json → List String → Prop
  | _, [] => False
  | .object fields, name :: path => ∃ inner, fields.lookup name = some inner ∧ inner.Blocks path
  | _, _ :: _ => True

/-- The value is no object. -/
def IsLeaf (v : Json) : Prop := ∀ fields, v ≠ .object fields

theorem at?_cons (v : Json) (name : String) (path : List String) :
    v.at? (name :: path) = (v.fields.lookup name).bind fun inner => inner.at? path := rfl

/-- At a path of one name is the field of that name. -/
theorem at?_singleton (v : Json) (name : String) : v.at? [name] = v.fields.lookup name := by
  rw [at?_cons]
  exact Option.bind_fun_some _

@[simp] theorem fields_object (fields : List (String × Json)) :
    (Json.object fields).fields = fields := rfl

/-- A value is an object or a leaf. -/
theorem isLeaf_or_object (v : Json) : v.IsLeaf ∨ ∃ fields, v = .object fields := by
  cases v with
  | object fields => exact .inr ⟨fields, rfl⟩
  | _ => exact .inl nofun

/-- A leaf blocks every path that goes on. -/
theorem IsLeaf.blocks {v : Json} (h : v.IsLeaf) (name : String) (path : List String) :
    v.Blocks (name :: path) := by
  cases v with
  | object fields => exact absurd rfl (h fields)
  | _ => trivial

/-- What is in the way further on is in the way. -/
theorem blocks_cons_of_lookup {v inner : Json} {name : String} {path : List String}
    (hlookup : v.fields.lookup name = some inner) (h : inner.Blocks path) :
    v.Blocks (name :: path) := by
  cases v with
  | object fields => exact ⟨inner, hlookup, h⟩
  | _ => trivial

/-- An object without fields is in the way of nothing. -/
theorem not_blocks_empty (path : List String) : ¬ (object []).Blocks path := by
  cases path with
  | nil => exact id
  | cons name path => exact fun ⟨_, hinner, _⟩ => nomatch hinner

/-- A leaf replaces what it is laid over. -/
theorem IsLeaf.over_eq {v : Json} (h : v.IsLeaf) (below : Json) : below.over v = v := by
  cases v with
  | object fields => exact absurd rfl (h fields)
  | _ => rfl

/-! ## Fields -/

/-- A field is found by its name, and those of other names as before. -/
theorem lookup_putField (name : String) (value : Option Json → Json)
    (fields : List (String × Json)) (n : String) :
    (putField name value fields).lookup n =
      if n = name then some (value (fields.lookup name)) else fields.lookup n := by
  induction fields with
  | nil =>
    by_cases hn : n = name
    · simp [putField, hn]
    · have hne : (n == name) = false := by simpa using hn
      simp [putField, List.lookup_cons, hn, hne]
  | cons field rest ih =>
    obtain ⟨m, v⟩ := field
    by_cases hm : m = name
    · subst hm
      by_cases hn : n = m
      · simp [putField, hn]
      · have hne : (n == m) = false := by simpa using hn
        simp [putField, List.lookup_cons, hn, hne]
    · have hname : (name == m) = false := by simpa using Ne.symm hm
      by_cases hn : n = m
      · subst hn
        simp [putField, hm]
      · have hne : (n == m) = false := by simpa using hn
        simp only [putField, if_neg hm, List.lookup_cons, hne, hname, ih]

/-- What is found under a name in fields laid over fields. -/
theorem lookup_overFields {fields : List (String × Json)} (h : DistinctNames fields)
    (below : List (String × Json)) (n : String) :
    (over.overFields below fields).lookup n =
      match fields.lookup n with
      | some v => some (((below.lookup n).getD (.object [])).over v)
      | none => below.lookup n := by
  induction fields generalizing below with
  | nil => rfl
  | cons field rest ih =>
    obtain ⟨name, value⟩ := field
    rw [over.overFields, ih h.tail, lookup_putField]
    by_cases hn : n = name
    · subst hn
      rw [h.lookup_eq_none, List.lookup_cons_self]
      dsimp only
      rw [if_pos rfl]
      -- What is missing counts as null, which has no fields, as an object without fields has none.
      cases below.lookup n with
      | some v => rfl
      | none => cases value <;> rfl
    · have hne : (n == name) = false := by simpa using hn
      rw [if_neg hn, List.lookup_cons, hne]

/-- An object without fields changes nothing. -/
theorem over_empty (below : List (String × Json)) :
    (object below).over (object []) = object below := rfl

/-! ## Paths in laid values -/

/-- The fields of an object with different names decide one by one. -/
theorem at?_over_cons {fields : List (String × Json)} (h : DistinctNames fields) (below : Json)
    (name : String) (path : List String) :
    (below.over (.object fields)).at? (name :: path) =
      match fields.lookup name with
      | some inner => (((below.fields.lookup name).getD (.object [])).over inner).at? path
      | none => below.at? (name :: path) := by
  have hover : (below.over (.object fields)).at? (name :: path) =
      ((over.overFields below.fields fields).lookup name).bind fun inner => inner.at? path := rfl
  rw [hover, lookup_overFields h]
  cases fields.lookup name <;> rfl

/-- Where nothing is found below, one may look into an object without fields. -/
theorem at?_getD_lookup (below : Json) (name : String) (path : List String) :
    (((below.fields.lookup name).getD (.object [])).at? path).getD (.object []) =
      (below.at? (name :: path)).getD (.object []) := by
  rw [at?_cons]
  cases below.fields.lookup name with
  | some v => rfl
  | none => cases path <;> rfl

/-- One may do so even to know whether something is found, if the path goes on. -/
theorem at?_getD_lookup_of_ne_nil (below : Json) (name : String) {path : List String}
    (h : path ≠ []) :
    ((below.fields.lookup name).getD (.object [])).at? path = below.at? (name :: path) := by
  rw [at?_cons]
  cases below.fields.lookup name with
  | some v => rfl
  | none =>
    cases path with
    | nil => exact absurd rfl h
    | cons _ _ => rfl

/-- What the upper value has at the end of a path is laid over what the lower one has there. -/
theorem Distinct.at?_over_of_some {above v : Json} {path : List String} (h : above.Distinct)
    (hv : above.at? path = some v) (below : Json) :
    (below.over above).at? path = some (((below.at? path).getD (.object [])).over v) := by
  induction path generalizing below above with
  | nil =>
    cases hv
    rfl
  | cons name path ih =>
    rw [at?_cons] at hv
    cases h with
    | object hnames hfields =>
      obtain ⟨inner, hlookup, hinner⟩ := Option.bind_eq_some_iff.1 hv
      rw [fields_object] at hlookup
      rw [at?_over_cons hnames, hlookup]
      dsimp only
      rw [ih (hfields _ (mem_of_lookup hlookup)) hinner, at?_getD_lookup]
    | _ => cases hv

/-- Where the upper value has nothing, the lower one decides, unless something in the
upper one is in the way. -/
theorem Distinct.at?_over_of_none {above : Json} {path : List String} (h : above.Distinct)
    (hnone : above.at? path = none) (below : Json) :
    (¬ above.Blocks path → (below.over above).at? path = below.at? path) ∧
    (above.Blocks path → (below.over above).at? path = none) := by
  -- Along the path, until the upper value has no field of the name, or is no object at all.
  induction path generalizing below above with
  | nil => cases hnone
  | cons name path ih =>
    rcases above.isLeaf_or_object with hleaf | ⟨fields, rfl⟩
    · rw [hleaf.over_eq]
      exact ⟨fun hopen => absurd (hleaf.blocks name path) hopen, fun _ => hnone⟩
    · cases h with
      | object hnames hfields =>
        rw [at?_over_cons hnames]
        cases hlookup : fields.lookup name with
        | none =>
          refine ⟨fun _ => rfl, fun ⟨inner, hinner, _⟩ => ?_⟩
          rw [hlookup] at hinner
          cases hinner
        | some inner =>
          have hrest : inner.at? path = none := by
            rwa [at?_cons, fields_object, hlookup] at hnone
          have hne : path ≠ [] := by
            rintro rfl
            cases hrest
          obtain ⟨hopen, hblocks⟩ := ih (hfields _ (mem_of_lookup hlookup)) hrest
            ((below.fields.lookup name).getD (.object []))
          rw [at?_getD_lookup_of_ne_nil below name hne] at hopen
          refine ⟨fun hnot => hopen fun hinner => hnot ⟨inner, hlookup, hinner⟩,
            fun ⟨other, hother, hinner⟩ => ?_⟩
          rw [hlookup] at hother
          cases hother
          exact hblocks hinner

/-- Where neither value is in the way of a path, their overlay is not. -/
theorem Distinct.not_blocks_over {above below : Json} {path : List String} (h : above.Distinct)
    (habove : ¬ above.Blocks path) (hbelow : ¬ below.Blocks path) :
    ¬ (below.over above).Blocks path := by
  induction path generalizing below above with
  | nil => exact id
  | cons name path ih =>
    rcases above.isLeaf_or_object with hleaf | ⟨fields, rfl⟩
    · exact absurd (hleaf.blocks name path) habove
    · cases h with
      | object hnames hfields =>
        rintro ⟨inner, hlookup, hblocks⟩
        rw [lookup_overFields hnames] at hlookup
        cases hinner : fields.lookup name with
        | none =>
          rw [hinner] at hlookup
          exact hbelow (blocks_cons_of_lookup hlookup hblocks)
        | some v =>
          -- What is laid over the field of the lower value, or over nothing if there is none.
          rw [hinner] at hlookup
          cases hlookup
          refine ih (hfields _ (mem_of_lookup hinner)) (fun hv => habove ⟨v, hinner, hv⟩)
            (fun hv => ?_) hblocks
          cases hunder : below.fields.lookup name with
          | some u =>
            rw [hunder] at hv
            exact hbelow (blocks_cons_of_lookup hunder hv)
          | none =>
            rw [hunder] at hv
            exact not_blocks_empty path hv

/-! ## Names in laid values -/

/-- A field that is given a value is the one of that name; the others are as before. -/
theorem mem_putField {name : String} {value : Option Json → Json} {fields : List (String × Json)}
    {field : String × Json} (h : field ∈ putField name value fields) :
    field ∈ fields ∨ field = (name, value (fields.lookup name)) := by
  induction fields with
  | nil => exact .inr (List.mem_singleton.1 h)
  | cons first rest ih =>
    obtain ⟨n, v⟩ := first
    unfold putField at h
    split at h
    · next hn =>
      subst hn
      rcases List.mem_cons.1 h with rfl | h
      · exact .inr (by rw [List.lookup_cons_self])
      · exact .inl (List.mem_cons_of_mem _ h)
    · next hn =>
      have hne : (name == n) = false := by simpa using Ne.symm hn
      rw [List.lookup_cons, hne]
      rcases List.mem_cons.1 h with rfl | h
      · exact .inl List.mem_cons_self
      · exact (ih h).imp (List.mem_cons_of_mem _) id

/-- Giving a field a value repeats no name. -/
theorem distinctNames_putField {name : String} {value : Option Json → Json}
    {fields : List (String × Json)} (h : DistinctNames fields) :
    DistinctNames (putField name value fields) := by
  induction fields with
  | nil => exact List.nodup_singleton _
  | cons first rest ih =>
    obtain ⟨n, v⟩ := first
    unfold putField
    split
    · exact h
    · next hn =>
      refine List.nodup_cons.2 ⟨fun hmem => ?_, ih h.tail⟩
      obtain ⟨field, hfield, hname⟩ := List.mem_map.1 hmem
      rcases mem_putField hfield with hrest | rfl
      · exact (List.nodup_cons.1 h).1 (List.mem_map.2 ⟨field, hrest, hname⟩)
      · exact hn hname.symm

/-- What is found in an object with distinct names has distinct names, too. -/
theorem Distinct.getD_lookup {below : List (String × Json)}
    (h : ∀ field ∈ below, field.2.Distinct) (name : String) :
    ((below.lookup name).getD .null).Distinct := by
  cases hlookup : below.lookup name with
  | none => exact .null
  | some v => exact h _ (mem_of_lookup hlookup)

/-- An overlay of values without repeated names repeats none. -/
theorem Distinct.over {above below : Json} (habove : above.Distinct) (hbelow : below.Distinct) :
    (below.over above).Distinct := by
  induction habove generalizing below with
  | @object fields hnames hfields ih =>
    -- The fields are laid over those below one after the other.
    have hunder : DistinctNames below.fields ∧ ∀ field ∈ below.fields, field.2.Distinct := by
      cases hbelow with
      | object hnames hfields => exact ⟨hnames, hfields⟩
      | _ => exact ⟨List.nodup_nil, nofun⟩
    have hover : ∀ under : List (String × Json), DistinctNames under →
        (∀ field ∈ under, field.2.Distinct) →
        DistinctNames (over.overFields under fields) ∧ ∀ field ∈ over.overFields under fields,
          field.2.Distinct := by
      clear hunder hnames hfields
      induction fields with
      | nil => exact fun under hnames hfields => ⟨hnames, hfields⟩
      | cons field rest ihrest =>
        obtain ⟨name, value⟩ := field
        intro under hnames hfields
        refine ihrest (fun field hfield => ih field (List.mem_cons_of_mem _ hfield)) _
          (distinctNames_putField hnames) fun field hfield => ?_
        rcases mem_putField hfield with hmem | rfl
        · exact hfields field hmem
        · exact ih _ List.mem_cons_self (.getD_lookup hfields name)
    exact .object (hover _ hunder.1 hunder.2).1 (hover _ hunder.1 hunder.2).2
  | null => exact .null
  | bool b => exact .bool b
  | integer n => exact .integer n
  | decimal digits exponent => exact .decimal digits exponent
  | string s => exact .string s
  | array hitems _ => exact .array hitems

end Rehearsal.Json
