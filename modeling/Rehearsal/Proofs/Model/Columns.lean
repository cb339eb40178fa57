import Rehearsal.Proofs.Json.Distinct
import Rehearsal.Proofs.Model.Expansion
import Rehearsal.Proofs.Model.Substitution

/-!
# Columns of one name

Headers may repeat a name, and rows may have more or fewer cells than there are headers. A row of a
table is read in two ways: where an outline is expanded, the cells replace tokens, and where a table
is read by its headers, they are the values of names. Both look only at columns that the headers and
the row have. Of several with one name the first counts for tokens and the last for names, so the
readings agree exactly where these two cells are equal.
-/

namespace Rehearsal

/-! ## Columns -/

/-- The headers and the row have a column at this place, with this name and this cell. -/
structure ColumnAt (headers row : List String) (place : Nat) (name cell : String) : Prop where
  /-- The name is the header. -/
  header : headers[place]? = some name
  /-- The row goes that far. -/
  cell : row[place]? = some cell

/-- The cell of the first column of this name that headers and row have. -/
def FirstCell (headers row : List String) (name cell : String) : Prop :=
  ∃ place, ColumnAt headers row place name cell ∧
    ∀ earlier < place, ∀ other, ¬ ColumnAt headers row earlier name other

/-- The cell of the last column of this name that headers and row have. -/
def LastCell (headers row : List String) (name cell : String) : Prop :=
  ∃ place, ColumnAt headers row place name cell ∧
    ∀ later > place, ∀ other, ¬ ColumnAt headers row later name other

variable {headers row : List String} {name cell : String} {place : Nat}

theorem columnAt_iff :
    ColumnAt headers row place name cell ↔ (headers.zip row)[place]? = some (name, cell) := by
  rw [List.getElem?_zip_eq_some]
  exact ⟨fun h => ⟨h.header, h.cell⟩, fun h => ⟨h.1, h.2⟩⟩

/-- Where a name is looked up, its first value is found. -/
theorem lookup_eq_some_iff_first {bindings : Bindings} : bindings.lookup name = some cell ↔
    ∃ place : Nat, bindings[place]? = some (name, cell) ∧
      ∀ earlier < place, ∀ other, bindings[earlier]? ≠ some (name, other) := by
  induction bindings with
  | nil => simp
  | cons binding rest ih =>
    obtain ⟨header, value⟩ := binding
    -- The first column is the place, or all places lie one further than among the other columns.
    by_cases hname : name = header
    · subst hname
      rw [List.lookup_cons_self]
      constructor
      · rintro ⟨⟩
        exact ⟨0, rfl, fun earlier hearlier => absurd hearlier (Nat.not_lt_zero earlier)⟩
      · rintro ⟨_ | place, hplace, hfirst⟩
        · cases hplace
          rfl
        · exact absurd rfl (hfirst 0 (Nat.succ_pos place) value)
    · rw [List.lookup_cons, beq_false_of_ne hname, ih]
      constructor
      · rintro ⟨place, hplace, hfirst⟩
        refine ⟨place + 1, hplace, ?_⟩
        rintro (_ | earlier) hearlier other hother
        · cases hother
          exact hname rfl
        · exact hfirst earlier (Nat.lt_of_succ_lt_succ hearlier) other hother
      · rintro ⟨_ | place, hplace, hfirst⟩
        · cases hplace
          exact absurd rfl hname
        · exact ⟨place, hplace, fun earlier hearlier =>
            hfirst (earlier + 1) (Nat.succ_lt_succ hearlier)⟩

/-- And its last value where the bindings are gone through from behind. -/
theorem lookup_reverse_eq_some_iff_last {bindings : Bindings} :
    bindings.reverse.lookup name = some cell ↔
    ∃ place : Nat, bindings[place]? = some (name, cell) ∧
      ∀ later > place, ∀ other, bindings[later]? ≠ some (name, other) := by
  rw [lookup_eq_some_iff_first]
  constructor
  · rintro ⟨place, hplace, hfirst⟩
    have hlt : place < bindings.length := by
      simpa using (List.getElem?_eq_some_iff.1 hplace).1
    rw [List.getElem?_reverse hlt] at hplace
    refine ⟨_, hplace, fun later hlater other hother => ?_⟩
    have hwithin := (List.getElem?_eq_some_iff.1 hother).1
    refine hfirst (bindings.length - 1 - later) (by omega) other ?_
    rw [List.getElem?_reverse (by omega),
      show bindings.length - 1 - (bindings.length - 1 - later) = later by omega]
    exact hother
  · rintro ⟨place, hplace, hlast⟩
    have hlt := (List.getElem?_eq_some_iff.1 hplace).1
    refine ⟨bindings.length - 1 - place, ?_, fun earlier hearlier other hother => ?_⟩
    · rw [List.getElem?_reverse (by omega),
        show bindings.length - 1 - (bindings.length - 1 - place) = place by omega]
      exact hplace
    · rw [List.getElem?_reverse (by omega)] at hother
      exact hlast _ (by omega) other hother

theorem lookup_zip_iff :
    (headers.zip row).lookup name = some cell ↔ FirstCell headers row name cell := by
  rw [lookup_eq_some_iff_first, FirstCell]
  simp only [columnAt_iff, ne_eq]

/-! ## Rows by their headers -/

/-- A name that is given a value has that value, and the others have theirs. -/
theorem Entries.lookup_put (key value : String) (entries : Entries) :
    (entries.put key value).lookup name = ((key, value) :: entries).lookup name := by
  induction entries with
  | nil => rfl
  | cons entry rest ih =>
    obtain ⟨k, v⟩ := entry
    rw [put]
    split
    · rfl
    · split
      · next hkey =>
        subst hkey
        rw [List.lookup_cons, List.lookup_cons, List.lookup_cons]
        cases name == key <;> rfl
      · next hkey =>
        -- The name is at most one of the two keys.
        rw [List.lookup_cons, ih, List.lookup_cons, List.lookup_cons, List.lookup_cons]
        by_cases hname : name = k
        · subst hname
          rw [beq_self_eq_true, beq_false_of_ne (Ne.symm hkey)]
        · rw [beq_false_of_ne hname]

/-- Giving a value adds no other name. -/
theorem Entries.mem_put {key value : String} {entries : Entries} {entry : String × String}
    (h : entry ∈ entries.put key value) : entry.1 = key ∨ entry ∈ entries := by
  induction entries with
  | nil => exact .inl (congrArg Prod.fst (List.mem_singleton.1 h))
  | cons first rest ih =>
    obtain ⟨k, v⟩ := first
    rw [put] at h
    split at h
    · exact (List.mem_cons.1 h).imp (congrArg Prod.fst) id
    · split at h
      · exact (List.mem_cons.1 h).imp (congrArg Prod.fst) (List.mem_cons_of_mem _)
      · rcases List.mem_cons.1 h with rfl | h
        · exact .inr List.mem_cons_self
        · exact (ih h).imp_right (List.mem_cons_of_mem _)

/-- The names stay in order, without repetition, when one is given a value. -/
theorem Entries.pairwise_put {key value : String} {entries : Entries}
    (h : entries.Pairwise (·.1 < ·.1)) :
    (entries.put key value).Pairwise (·.1 < ·.1) := by
  induction entries with
  | nil => exact List.pairwise_singleton _ _
  | cons entry rest ih =>
    obtain ⟨k, v⟩ := entry
    obtain ⟨hbefore, hrest⟩ := List.pairwise_cons.1 h
    rw [put]
    split
    · next hlt =>
      refine List.pairwise_cons.2 ⟨fun entry hentry => ?_, h⟩
      rcases List.mem_cons.1 hentry with rfl | hentry
      · exact hlt
      · exact String.lt_trans hlt (hbefore entry hentry)
    · next hnotLt =>
      split
      · next hkey => exact List.pairwise_cons.2 ⟨hkey ▸ hbefore, hrest⟩
      · next hne =>
        refine List.pairwise_cons.2 ⟨fun entry hentry => ?_, ih hrest⟩
        rcases mem_put hentry with hkey | hentry
        · rw [hkey]
          exact Decidable.byContradiction fun hnotGt =>
            hne (String.le_antisymm (String.not_lt.1 hnotGt) (String.not_lt.1 hnotLt))
        · exact hbefore entry hentry

/-- Names that are given values one after the other have the last of their values, or
what they had before. -/
theorem lookup_foldl_put (cells : Bindings) (entries : Entries) :
    (cells.foldl (fun entries cell => entries.put cell.1 cell.2) entries).lookup name =
      (cells.reverse ++ entries).lookup name := by
  induction cells generalizing entries with
  | nil => rfl
  | cons cell rest ih =>
    rw [List.foldl_cons, ih, List.lookup_append, Entries.lookup_put, ← List.lookup_append,
      List.reverse_cons, List.append_assoc, List.singleton_append]

theorem pairwise_entriesOf (headers row : List String) :
    (Table.entriesOf headers row).Pairwise (·.1 < ·.1) := by
  suffices h : ∀ (cells : Bindings) (entries : Entries), entries.Pairwise (·.1 < ·.1) →
      (cells.foldl (fun entries cell => entries.put cell.1 cell.2) entries).Pairwise
      (·.1 < ·.1) from h _ _ .nil
  intro cells
  induction cells with
  | nil => exact fun _ h => h
  | cons cell rest ih => exact fun entries h => ih _ (Entries.pairwise_put h)

/-- Where names are in order, a name has the value that is found for it. -/
theorem mem_iff_lookup {entries : Entries} (h : entries.Pairwise (·.1 < ·.1)) :
    (name, cell) ∈ entries ↔ entries.lookup name = some cell := by
  refine ⟨fun hmem => ?_, mem_of_lookup⟩
  induction entries with
  | nil => cases hmem
  | cons entry rest ih =>
    obtain ⟨k, v⟩ := entry
    obtain ⟨hbefore, hrest⟩ := List.pairwise_cons.1 h
    rcases List.mem_cons.1 hmem with heq | hmem
    · obtain ⟨rfl, rfl⟩ := Prod.mk.inj heq
      exact List.lookup_cons_self
    · have hne : name ≠ k := fun heq => String.lt_irrefl k (heq ▸ hbefore _ hmem)
      rw [List.lookup_cons, beq_false_of_ne hne]
      exact ih hrest hmem

/-- In a row by its headers a name has the last cell. -/
theorem lookup_entriesOf_iff :
    (Table.entriesOf headers row).lookup name = some cell ↔ LastCell headers row name cell := by
  rw [Table.entriesOf, lookup_foldl_put, List.append_nil, lookup_reverse_eq_some_iff_last, LastCell]
  simp only [columnAt_iff, ne_eq]

/-- Some cell is the first of its name exactly if some cell is the last. -/
theorem exists_firstCell_iff :
    (∃ cell, FirstCell headers row name cell) ↔ ∃ cell, LastCell headers row name cell := by
  simp only [← lookup_zip_iff, ← lookup_entriesOf_iff, ← Option.isSome_iff_exists, Table.entriesOf,
    lookup_foldl_put, List.append_nil, List.lookup_isSome_iff, List.mem_reverse]

/-- Under headers that are not repeated the first cell of a name is the last. -/
theorem firstCell_iff_lastCell (hheaders : headers.Nodup) :
    FirstCell headers row name cell ↔ LastCell headers row name cell := by
  -- Two columns of one name are the same.
  have hsame : ∀ {place place' cell cell'}, ColumnAt headers row place name cell →
      ColumnAt headers row place' name cell' → place = place' := by
    intro place place' cell cell' h h'
    have hlt := (List.getElem?_eq_some_iff.1 h.header).1
    exact (List.getElem?_inj hlt hheaders).1 (h.header.trans h'.header.symm)
  constructor
  · rintro ⟨place, hplace, -⟩
    exact ⟨place, hplace, fun later hlater other hother =>
      absurd (hsame hplace hother) (Nat.ne_of_lt hlater)⟩
  · rintro ⟨place, hplace, -⟩
    exact ⟨place, hplace, fun earlier hearlier other hother =>
      absurd (hsame hother hplace) (Nat.ne_of_lt hearlier)⟩

namespace Outline

/-! ## Tokens in templates -/

/-- There are no angle brackets in the name. -/
structure Unbracketed (name : String) : Prop where
  /-- No opening bracket. -/
  notOpened : '<' ∉ name.toList
  /-- No closing bracket. -/
  notClosed : '>' ∉ name.toList

/-- Wherever it stands in a template, the name in angle brackets is a token, and the
value is put for it. -/
structure Replaces (bindings : Bindings) (name value : String) : Prop where
  /-- It is a token. -/
  token : ∀ before after : String,
    TokenAt bindings (before ++ "<" ++ name ++ ">" ++ after).toList before.toList.length name.toList
  /-- The value is put for it, and what stands around it is substituted by itself. -/
  value : ∀ before after : String, substitute bindings (before ++ "<" ++ name ++ ">" ++ after) =
    substitute bindings before ++ value ++ substitute bindings after

variable {bindings : Bindings} {value : String}

/-- What stands before an opening bracket is substituted by itself. -/
theorem substituteFrom_append_open (state : Option (List Char)) (before rest : List Char) :
    substituteFrom bindings state (before ++ '<' :: rest) =
      substituteFrom bindings state before ++ substituteFrom bindings none ('<' :: rest) := by
  generalize htail : substituteFrom bindings none ('<' :: rest) = tail
  induction before generalizing state with
  | nil =>
    cases state with
    | none => exact htail
    | some read => simp [← htail, substituteFrom]
  | cons c before ih =>
    cases state with
    | none =>
      rw [List.cons_append, substituteFrom, substituteFrom]
      split
      · exact ih _
      · rw [ih, List.cons_append]
    | some read =>
      rw [List.cons_append, substituteFrom, substituteFrom]
      split
      · rw [ih, List.append_assoc]
      · split
        · cases bindings.lookup (.ofList read.reverse) with
          | none => simp [ih]
          | some value => simp [ih]
        · exact ih _

/-- A name that is bound is replaced by its value. -/
theorem replaces_of_lookup (hname : Unbracketed name) (h : bindings.lookup name = some value) :
    Replaces bindings name value := by
  have hvalue : bindings.lookup (.ofList name.toList) = some value := by rwa [String.ofList_toList]
  refine ⟨fun before after => ?_, fun before after => ?_⟩
  · have htoken : TokenAt bindings ('<' :: (name.toList ++ '>' :: after.toList)) 0 name.toList :=
      tokenAt_cons hname.notOpened hname.notClosed (firstValue_iff.2 hvalue) after.toList
    have hrest : (before ++ "<" ++ name ++ ">" ++ after).toList.drop before.toList.length =
        '<' :: (name.toList ++ '>' :: after.toList) := by simp
    rw [← hrest, tokenAt_drop] at htoken
    exact htoken
  · simp [← String.toList_inj, substitute, substituteFrom_append_open,
      substituteFrom_token hname.notOpened hname.notClosed hvalue]

/-- A name that is not bound stays, brackets and all. -/
theorem substitute_of_lookup_eq_none (hname : Unbracketed name) (h : bindings.lookup name = none)
    (before after : String) : substitute bindings (before ++ "<" ++ name ++ ">" ++ after) =
      substitute bindings before ++ ("<" ++ name ++ ">") ++ substitute bindings after := by
  simp [← String.toList_inj, substitute, substituteFrom_append_open, substituteFrom,
    substituteFrom_name hname.notOpened hname.notClosed, h]

/-- The value that is put for a token is that of its name. -/
theorem replaces_iff (hname : Unbracketed name) :
    Replaces bindings name value ↔ bindings.lookup name = some value := by
  refine ⟨fun h => ?_, replaces_of_lookup hname⟩
  obtain ⟨own, hown⟩ := (h.token "" "").exists_value
  have hlookup : bindings.lookup name = some own := by
    have := firstValue_iff.1 hown
    rwa [String.ofList_toList] at this
  have heq := (h.value "" "").symm.trans ((replaces_of_lookup hname hlookup).value "" "")
  rw [hlookup]
  simpa [← String.toList_inj] using heq.symm

/-! ## Both readings of a row -/

/-- How a row is read by `bindings`, the values that are put for tokens, and how by `entries`,
the values of names. -/
structure RowReadings (headers row : List String) (bindings : Bindings)
    (entries : Entries) : Prop where
  /-- For the token of a name the first cell is put. -/
  first : ∀ name, Unbracketed name →
    ∀ cell, Replaces bindings name cell ↔ FirstCell headers row name cell
  /-- By the headers a name has the last cell. -/
  last : ∀ name cell, (name, cell) ∈ entries ↔ LastCell headers row name cell
  /-- The names are in order, and none is repeated. -/
  ordered : entries.Pairwise (·.1 < ·.1)
  /-- The names are those whose tokens are replaced. -/
  names : ∀ name, Unbracketed name →
    (name ∈ entries.map Prod.fst ↔ ∃ cell, Replaces bindings name cell)
  /-- Others stay in templates as they are, brackets and all. -/
  others : ∀ name, Unbracketed name → name ∉ entries.map Prod.fst → ∀ before after : String,
    substitute bindings (before ++ "<" ++ name ++ ">" ++ after) =
      substitute bindings before ++ ("<" ++ name ++ ">") ++ substitute bindings after
  /-- The readings agree exactly if the first and the last cell of each name are equal. -/
  agree : (∀ name, Unbracketed name →
    ∀ cell, Replaces bindings name cell ↔ (name, cell) ∈ entries) ↔
    ∀ name, Unbracketed name → ∀ first last, FirstCell headers row name first →
      LastCell headers row name last →
      first = last
  /-- So they agree under headers that are not repeated. -/
  agree_of_nodup : headers.Nodup →
    ∀ name, Unbracketed name → ∀ cell, Replaces bindings name cell ↔ (name, cell) ∈ entries

/-- The first cell of a name is the last one whatever it is, if these are equal. -/
theorem firstCell_iff_lastCell_iff :
    (∀ cell, FirstCell headers row name cell ↔ LastCell headers row name cell) ↔
    ∀ first last, FirstCell headers row name first → LastCell headers row name last →
      first = last := by
  constructor
  · intro h first last hfirst hlast
    rw [← lookup_entriesOf_iff] at hlast
    exact Option.some.inj ((lookup_entriesOf_iff.2 ((h first).1 hfirst)).symm.trans hlast)
  · intro h cell
    constructor
    · intro hfirst
      obtain ⟨last, hlast⟩ := exists_firstCell_iff.1 ⟨cell, hfirst⟩
      exact h cell last hfirst hlast ▸ hlast
    · intro hlast
      obtain ⟨first, hfirst⟩ := exists_firstCell_iff.2 ⟨cell, hlast⟩
      exact h first cell hfirst hlast ▸ hfirst

theorem rowReadings_entriesOf (headers row : List String) :
    RowReadings headers row (headers.zip row) (Table.entriesOf headers row) := by
  have hordered := pairwise_entriesOf headers row
  have hfirst : ∀ name, Unbracketed name → ∀ cell,
      Replaces (headers.zip row) name cell ↔ FirstCell headers row name cell :=
    fun name hname cell => (replaces_iff hname).trans lookup_zip_iff
  have hlast : ∀ name cell, (name, cell) ∈ Table.entriesOf headers row ↔
      LastCell headers row name cell :=
    fun name cell => (mem_iff_lookup hordered).trans lookup_entriesOf_iff
  have hnames : ∀ name, name ∈ (Table.entriesOf headers row).map Prod.fst ↔ ∃ cell,
      FirstCell headers row name cell := by
    intro name
    rw [exists_firstCell_iff]
    simp [← hlast]
  refine {
    first := hfirst
    last := hlast
    ordered := hordered
    names := fun name hname =>
      (hnames name).trans (exists_congr fun cell => (hfirst name hname cell).symm)
    others := fun name hname hother => ?_
    agree := ?_
    agree_of_nodup := fun hheaders name hname cell => ?_ }
  · refine substitute_of_lookup_eq_none hname
      (Option.eq_none_iff_forall_ne_some.2 fun cell hcell => ?_)
    exact hother ((hnames name).2 ⟨cell, lookup_zip_iff.1 hcell⟩)
  · refine forall₂_congr fun name hname => ?_
    simp only [hfirst name hname, hlast]
    exact firstCell_iff_lastCell_iff
  · rw [hfirst name hname, hlast]
    exact firstCell_iff_lastCell hheaders

/-- For each row of its examples an outline gives a scenario, with values put for tokens, and the
examples give the row by its headers. The token of a name, written without brackets in it, stands
for the cell of the first column of that name that headers and row have, and the row by its headers
has the cell of the last one. -/
theorem exists_rowReadings (o : Outline) {i : Nat} {row : List String}
    (hrow : o.examples.body[i]? = some row) :
    ∃ s bindings entries, o.expand[i]? = some s ∧
      List.Forall₂ (SubstitutesStep bindings) o.steps s.steps ∧
      o.examples.hashes[i]? = some entries ∧
      RowReadings o.examples.headers row bindings entries := by
  refine ⟨o.instantiate (i + 1) row, _, _, ?_, ?_, ?_, rowReadings_entriesOf o.examples.headers row⟩
  · rw [getElem?_expand, hrow, Option.map_some]
  · rw [instantiate, List.forall₂_map_right_iff, List.forall₂_same]
    exact fun step _ => substituteStep_substitutes _ step
  · rw [Table.hashes, List.getElem?_map, hrow, Option.map_some]

/-- A row that is shorter than its headers, of which two have one name. -/
theorem repeatedHeader_rowReadings :
    let o : Outline := { name := "o", steps := [⟨.given, "<a>, <b> and <c>", none⟩],
                         examples := ⟨[["a", "b", "a", "c"], ["1", "2", "3"]]⟩ }
    o.examples.body[0]? = some ["1", "2", "3"] ∧
      ∃ s bindings entries, o.expand[0]? = some s ∧
        List.Forall₂ (SubstitutesStep bindings) o.steps s.steps ∧
        o.examples.hashes[0]? = some entries ∧
          RowReadings o.examples.headers ["1", "2", "3"] bindings entries := by
  intro o
  have hrow : o.examples.body[0]? = some ["1", "2", "3"] := rfl
  exact ⟨hrow, exists_rowReadings o hrow⟩

/-- Its token stands for the first of the two cells, and by its headers it has the second. -/
example :
    substitute (["a", "b", "a", "c"].zip ["1", "2", "3"]) "<a>, <b> and <c>" = "1, 2 and <c>" ∧
    Table.entriesOf ["a", "b", "a", "c"] ["1", "2", "3"] = [("a", "3"), ("b", "2")] := by
  decide +kernel

end Outline

end Rehearsal
