import Mathlib.Data.List.Nodup
import Rehearsal.Proofs.Json.Distinct
import Rehearsal.Toml

/-!
# Names in TOML documents

A key that is there already is never given a second value, so no table of a document that can be
read repeats a name, and neither does an object that the document amounts to.
-/

namespace Rehearsal.Toml

open Json

/-! ## Tables -/

/-- No table of a part of a document repeats a name. -/
inductive Node.Distinct : Node → Prop
  | value {v : Json} : v.Distinct → (Node.value v).Distinct
  | table {origin : Origin} {branches : Branches} : DistinctNames branches →
      (∀ branch ∈ branches, branch.2.Distinct) → (Node.table origin branches).Distinct
  | tables {last : Branches} {earlier : List Json} :
      DistinctNames last → (∀ branch ∈ last, branch.2.Distinct) →
      (∀ v ∈ earlier, v.Distinct) → (Node.tables last earlier).Distinct

/-- The same of the content of a table. -/
structure Branches.Distinct (branches : Branches) : Prop where
  /-- Its names are different. -/
  names : DistinctNames branches
  /-- So are those further down. -/
  nodes : ∀ branch ∈ branches, branch.2.Distinct

namespace Node.Distinct

variable {origin : Origin} {branches changed final : Branches} {earlier : List Json}

/-- A table repeats no name if its content does not. -/
theorem of_content (h : branches.Distinct) : (Node.table origin branches).Distinct :=
  .table h.names h.nodes

theorem content (h : (Node.table origin branches).Distinct) : branches.Distinct := by
  cases h with
  | table hnames hnodes => exact ⟨hnames, hnodes⟩

/-- The last table of a list repeats no name. -/
theorem last (h : (Node.tables final earlier).Distinct) : final.Distinct := by
  cases h with
  | tables hnames hnodes _ => exact ⟨hnames, hnodes⟩

/-- The last table of a list may become any that repeats no name. -/
theorem with_last (h : (Node.tables final earlier).Distinct) (hchanged : changed.Distinct) :
    (Node.tables changed earlier).Distinct := by
  cases h with
  | tables _ _ hearlier => exact .tables hchanged.names hchanged.nodes hearlier

end Node.Distinct

/-- The fields of a table, one by one. -/
theorem Node.toJson_fields_eq (branches : Branches) :
    Node.toJson.fields branches = branches.map fun branch => (branch.1, branch.2.toJson) := by
  induction branches with
  | nil => rfl
  | cons branch rest ih =>
    rw [List.map_cons, ← ih]
    rfl

/-- An object of fields that are parts of a document without repeated names repeats none. -/
theorem distinct_object_fields {branches : Branches} (hnames : DistinctNames branches)
    (hnodes : ∀ branch ∈ branches, branch.2.toJson.Distinct) :
    (Json.object (Node.toJson.fields branches)).Distinct := by
  rw [Node.toJson_fields_eq]
  refine .object ?_ fun field hfield => ?_
  · rw [DistinctNames, List.map_map]
    exact hnames
  · obtain ⟨branch, hbranch, rfl⟩ := List.mem_map.1 hfield
    exact hnodes branch hbranch

/-- Parts of a document without repeated names amount to values without repeated names. -/
theorem Node.Distinct.toJson {node : Node} (h : node.Distinct) : node.toJson.Distinct := by
  induction h with
  | value hv => exact hv
  | table hnames _ ih => exact distinct_object_fields hnames ih
  | tables hnames _ hearlier ih =>
    refine .array fun item hitem => ?_
    rcases List.mem_append.1 hitem with hitem | hitem
    · exact hearlier item (List.mem_reverse.1 hitem)
    · rw [List.mem_singleton.1 hitem]
      exact distinct_object_fields hnames ih

namespace Branches

theorem distinct_nil : Branches.Distinct [] := ⟨List.nodup_nil, nofun⟩

/-- So do tables. -/
theorem Distinct.toJson {branches : Branches} (h : branches.Distinct) :
    branches.toJson.Distinct := by
  have htable : (Node.table .explicit branches).Distinct := .table h.names h.nodes
  exact htable.toJson

/-- The first branch of a table repeats no name, nor do the others. -/
theorem Distinct.of_cons {branch : String × Node} {rest : Branches}
    (h : Branches.Distinct (branch :: rest)) :
    branch.2.Distinct ∧ rest.Distinct :=
  ⟨h.nodes branch List.mem_cons_self, h.names.tail,
    fun b hb => h.nodes b (List.mem_cons_of_mem _ hb)⟩

/-- A change of what a key leads to keeps the other names, and adds the key only
if it is not there. -/
theorem mem_names_alter {key : String} {change : Option Node → Option Node}
    {branches altered : Branches} (h : branches.alter key change = some altered) {name : String}
    (hname : name ∈ altered.map Prod.fst) :
    name = key ∨ name ∈ branches.map Prod.fst := by
  induction branches generalizing altered with
  | nil =>
    obtain ⟨node, -, rfl⟩ := Option.map_eq_some_iff.1 h
    exact .inl (List.mem_singleton.1 hname)
  | cons branch rest ih =>
    obtain ⟨k, node⟩ := branch
    unfold alter at h
    split at h
    · obtain ⟨_, -, rfl⟩ := Option.map_eq_some_iff.1 h
      exact .inr hname
    · obtain ⟨_, hrest, rfl⟩ := Option.map_eq_some_iff.1 h
      rcases List.mem_cons.1 hname with rfl | hname
      · exact .inr List.mem_cons_self
      · exact (ih hrest hname).imp id (List.mem_cons_of_mem _)

/-- A change that repeats no name where there was none repeated. -/
def Keeps (change : Branches → Option Branches) : Prop :=
  ∀ branches altered, branches.Distinct → change branches = some altered → altered.Distinct

/-- Changing what a key leads to repeats no name if the change itself does not. -/
theorem keeps_alter (key : String) {change : Option Node → Option Node}
    (hchange : ∀ old new, (∀ node ∈ old, node.Distinct) → change old = some new → new.Distinct) :
    Keeps (alter key change) := by
  intro branches altered h halter
  induction branches generalizing altered with
  | nil =>
    obtain ⟨node, hnode, rfl⟩ := Option.map_eq_some_iff.1 halter
    exact ⟨List.nodup_singleton _, List.forall_mem_singleton.2 (hchange none node nofun hnode)⟩
  | cons branch rest ih =>
    obtain ⟨k, node⟩ := branch
    obtain ⟨hnode, hrest⟩ := h.of_cons
    unfold alter at halter
    split at halter
    · obtain ⟨new, hnew, rfl⟩ := Option.map_eq_some_iff.1 halter
      have hdistinct : new.Distinct :=
        hchange (some node) new (fun _ hn => by cases hn; exact hnode) hnew
      exact ⟨h.names, List.forall_mem_cons.2 ⟨hdistinct, hrest.nodes⟩⟩
    · next hne =>
      obtain ⟨others, hothers, rfl⟩ := Option.map_eq_some_iff.1 halter
      have hdistinct := ih others hrest hothers
      refine ⟨List.nodup_cons.2 ⟨fun hmem => ?_, hdistinct.names⟩,
        List.forall_mem_cons.2 ⟨hnode, hdistinct.nodes⟩⟩
      rcases mem_names_alter hothers hmem with hkey | hmem
      · exact hne hkey
      · exact (List.nodup_cons.1 h.names).1 hmem

/-- So does changing the table at the end of a path. -/
theorem keeps_alterAt {change : Branches → Option Branches} (hchange : Keeps change)
    (path : List String) :
    Keeps (alterAt change path) := by
  induction path with
  | nil => exact hchange
  | cons key path ih =>
    refine keeps_alter key fun old new hold hnew => ?_
    split at hnew
    · obtain ⟨inner, hinner, rfl⟩ := Option.map_eq_some_iff.1 hnew
      exact .of_content (ih _ _ distinct_nil hinner)
    · obtain ⟨inner, hinner, rfl⟩ := Option.map_eq_some_iff.1 hnew
      exact .of_content (ih _ _ (hold _ rfl).content hinner)
    · obtain ⟨inner, hinner, rfl⟩ := Option.map_eq_some_iff.1 hnew
      exact (hold _ rfl).with_last (ih _ _ (hold _ rfl).last hinner)
    · cases hnew

/-- So does changing what the last key of a path leads to. -/
theorem keeps_alterLast {change : Option Node → Option Node}
    (hchange : ∀ old new, (∀ node ∈ old, node.Distinct) → change old = some new → new.Distinct)
    (path : List String) :
    Keeps fun branches => path.getLast?.bind fun key =>
      branches.alterAt (alter key change) path.dropLast := by
  intro branches opened h hopen
  obtain ⟨key, -, hopen⟩ := Option.bind_eq_some_iff.1 hopen
  exact keeps_alterAt (keeps_alter key hchange) _ branches opened h hopen

/-- Opening the table of a header repeats no name. -/
theorem keeps_openTable (path : List String) : Keeps (openTable path) := by
  refine keeps_alterLast (fun old new hold hnew => ?_) path
  split at hnew
  · cases hnew
    exact .of_content distinct_nil
  · cases hnew
    exact .of_content (hold _ rfl).content
  · cases hnew

/-- Adding a table to a list repeats no name. -/
theorem keeps_openElement (path : List String) : Keeps (openElement path) := by
  refine keeps_alterLast (fun old new hold hnew => ?_) path
  split at hnew
  · cases hnew
    exact .tables List.nodup_nil nofun nofun
  · cases hnew
    cases hold _ rfl with
    | tables hnames hnodes hearlier =>
      exact .tables List.nodup_nil
        nofun (List.forall_mem_cons.2 ⟨Distinct.toJson ⟨hnames, hnodes⟩, hearlier⟩)
  · cases hnew

/-- Adding a value repeats no name. -/
theorem keeps_define {v : Json} (hv : v.Distinct) (path : List String) : Keeps (define v path) := by
  induction path with
  | nil => exact fun _ _ _ h => nomatch h
  | cons key path ih =>
    cases path with
    | nil =>
      refine keeps_alter key fun old new _ hnew => ?_
      split at hnew
      · cases hnew
        exact .value hv
      · cases hnew
    | cons next path =>
      refine keeps_alter key fun old new hold hnew => ?_
      split at hnew
      · obtain ⟨inner, hdefine, rfl⟩ := Option.map_eq_some_iff.1 hnew
        exact .of_content (ih _ _ distinct_nil hdefine)
      · obtain ⟨inner, hdefine, rfl⟩ := Option.map_eq_some_iff.1 hnew
        exact .of_content (ih _ _ (hold _ rfl).content hdefine)
      · split at hnew
        · cases hnew
        · obtain ⟨inner, hdefine, rfl⟩ := Option.map_eq_some_iff.1 hnew
          exact .of_content (ih _ _ (hold _ rfl).content hdefine)
      · split at hnew
        · cases hnew
        · obtain ⟨inner, hdefine, rfl⟩ := Option.map_eq_some_iff.1 hnew
          exact (hold _ rfl).with_last (ih _ _ (hold _ rfl).last hdefine)
      · cases hnew

end Branches

/-! ## Values -/

/-- Only values without repeated names are read. -/
def ReadsDistinct (item : List Char → Option (Json × List Char)) : Prop :=
  ∀ text v rest, item text = some (v, rest) → v.Distinct

/-- An integer is read as one. -/
theorem distinct_of_inRange {n : Int} {v : Json} (h : inRange? n = some v) : v.Distinct := by
  unfold inRange? at h
  split at h
  · cases h
    exact .integer n
  · cases h

theorem distinct_of_integer {text : List Char} {v : Json}
    (h : integer? text = some v) : v.Distinct := by
  unfold integer? at h
  split at h
  all_goals
    obtain ⟨n, -, hrange⟩ := Option.bind_eq_some_iff.1 h
    exact distinct_of_inRange hrange

/-- A floating-point number is read as a number or as no value. -/
theorem distinct_of_floating {text : List Char} {v : Json}
    (h : floating? text = some v) : v.Distinct := by
  have hnumber : ∀ {isInfinite : Prop} [Decidable isInfinite] {digits power : Int},
      (if isInfinite then none else some (Json.decimal digits power)) = some v → v.Distinct := by
    intro isInfinite _ digits power h
    split at h
    · cases h
    · cases h
      exact .decimal digits power
  unfold floating? at h
  dsimp only at h
  split at h
  · cases h
    exact .null
  · split at h
    · cases h
    · obtain ⟨whole, -, h⟩ := Option.bind_eq_some_iff.1 h
      -- What follows is the same whether there are a fraction and an exponent or not.
      split at h
      all_goals
        obtain ⟨fraction, -, h⟩ := Option.bind_eq_some_iff.1 h
        split at h
      all_goals
        obtain ⟨power, -, h⟩ := Option.bind_eq_some_iff.1 h
        exact hnumber h

/-- A moment is read as an object of one field, any other word as a single value. -/
theorem distinct_of_word {text : List Char} {v : Json} (h : word? text = some v) : v.Distinct := by
  unfold word? at h
  split at h
  · cases h
    exact .bool true
  · split at h
    · cases h
      exact .bool false
    · split at h
      · cases h
        exact .object (List.nodup_singleton _) (List.forall_mem_singleton.2 (.string _))
      · cases hinteger : integer? text with
        | some n =>
          rw [hinteger] at h
          exact distinct_of_integer (hinteger.trans h)
        | none =>
          rw [hinteger] at h
          exact distinct_of_floating h

theorem readsDistinct_leaf : ReadsDistinct leaf := by
  intro text v rest h
  have hquoted : ∀ {read : Option (List Char × List Char)},
      (read.map fun parts => (Json.string (.ofList parts.1), parts.2)) = some (v, rest) →
        v.Distinct := by
    intro read h
    obtain ⟨_, -, heq⟩ := Option.map_eq_some_iff.1 h
    cases heq
    exact .string _
  unfold leaf at h
  split at h
  · exact hquoted h
  · exact hquoted h
  · obtain ⟨_, hword, heq⟩ := Option.map_eq_some_iff.1 h
    cases heq
    exact distinct_of_word hword

/-- A list repeats no name if its items do not. -/
theorem distinct_of_listItems {item : List Char → Option (Json × List Char)}
    (hitem : ReadsDistinct item) {fuel : Nat} {text rest : List Char} {items : List Json}
    (h : listItems item fuel text = some (items, rest)) :
    ∀ v ∈ items, v.Distinct := by
  induction fuel generalizing text items with
  | zero => cases h
  | succ fuel ih =>
    unfold listItems at h
    split at h
    · cases h
      exact nofun
    · obtain ⟨⟨v, after⟩, hv, h⟩ := Option.bind_eq_some_iff.1 h
      have hfirst : v.Distinct := hitem _ _ _ hv
      dsimp only at h
      split at h
      · obtain ⟨⟨vs, _⟩, hvs, heq⟩ := Option.bind_eq_some_iff.1 h
        cases heq
        exact List.forall_mem_cons.2 ⟨hfirst, ih hvs⟩
      · cases h
        exact List.forall_mem_singleton.2 hfirst
      · cases h

/-- A pair repeats no name of the table. -/
theorem distinct_of_pair {item : List Char → Option (Json × List Char)} (hitem : ReadsDistinct item)
    {branches more : Branches} {text rest : List Char} (hbranches : branches.Distinct)
    (h : pair item branches text = some (more, rest)) : more.Distinct := by
  obtain ⟨⟨path, afterKey⟩, -, h⟩ := Option.bind_eq_some_iff.1 h
  obtain ⟨afterSign, -, h⟩ := Option.bind_eq_some_iff.1 h
  obtain ⟨⟨v, afterValue⟩, hv, h⟩ := Option.bind_eq_some_iff.1 h
  obtain ⟨defined, hdefine, heq⟩ := Option.bind_eq_some_iff.1 h
  cases heq
  exact Branches.keeps_define (hitem _ _ _ hv) path _ _ hbranches hdefine

/-- Nor do all pairs of a table in braces. -/
theorem distinct_of_tablePairs {item : List Char → Option (Json × List Char)}
    (hitem : ReadsDistinct item) {fuel : Nat} {branches more : Branches} {text rest : List Char}
    (hbranches : branches.Distinct) (h : tablePairs item fuel branches text = some (more, rest)) :
    more.Distinct := by
  induction fuel generalizing text branches with
  | zero => cases h
  | succ fuel ih =>
    unfold tablePairs at h
    split at h
    · cases h
      exact hbranches
    · obtain ⟨⟨defined, after⟩, hpair, h⟩ := Option.bind_eq_some_iff.1 h
      have hdefined : defined.Distinct := distinct_of_pair hitem hbranches hpair
      dsimp only at h
      split at h
      · exact ih hdefined h
      · cases h
        exact hdefined
      · cases h

/-- No value that is read repeats a name, however deep it is. -/
theorem readsDistinct_value (depth : Nat) : ReadsDistinct (value depth) := by
  induction depth with
  | zero => exact readsDistinct_leaf
  | succ depth ih =>
    intro text v rest h
    unfold value at h
    split at h
    · obtain ⟨_, hitems, heq⟩ := Option.map_eq_some_iff.1 h
      cases heq
      exact .array (distinct_of_listItems ih hitems)
    · obtain ⟨_, hpairs, heq⟩ := Option.map_eq_some_iff.1 h
      cases heq
      exact (distinct_of_tablePairs ih Branches.distinct_nil hpairs).toJson
    · exact readsDistinct_leaf _ _ _ h

/-! ## Documents -/

/-- Reading line after line repeats no name. -/
theorem distinct_of_lines {fuel : Nat} {header : List String} {branches read : Branches}
    {text : List Char} (hbranches : branches.Distinct)
    (h : lines fuel header branches text = some read) : read.Distinct := by
  induction fuel generalizing header branches text with
  | zero => cases h
  | succ fuel ih =>
    unfold lines at h
    split at h
    · cases h
      exact hbranches
    · obtain ⟨⟨path, _⟩, -, h⟩ := Option.bind_eq_some_iff.1 h
      obtain ⟨opened, hopen, h⟩ := Option.bind_eq_some_iff.1 h
      obtain ⟨_, -, h⟩ := Option.bind_eq_some_iff.1 h
      obtain ⟨_, -, h⟩ := Option.bind_eq_some_iff.1 h
      exact ih (Branches.keeps_openElement path _ _ hbranches hopen) h
    · obtain ⟨⟨path, _⟩, -, h⟩ := Option.bind_eq_some_iff.1 h
      obtain ⟨opened, hopen, h⟩ := Option.bind_eq_some_iff.1 h
      obtain ⟨_, -, h⟩ := Option.bind_eq_some_iff.1 h
      exact ih (Branches.keeps_openTable path _ _ hbranches hopen) h
    · obtain ⟨⟨path, _⟩, -, h⟩ := Option.bind_eq_some_iff.1 h
      obtain ⟨_, -, h⟩ := Option.bind_eq_some_iff.1 h
      obtain ⟨⟨v, _⟩, hv, h⟩ := Option.bind_eq_some_iff.1 h
      obtain ⟨defined, hdefine, h⟩ := Option.bind_eq_some_iff.1 h
      obtain ⟨_, -, h⟩ := Option.bind_eq_some_iff.1 h
      have hkeeps := Branches.keeps_alterAt
        (Branches.keeps_define (readsDistinct_value _ _ _ _ hv) path) header
      exact ih (hkeeps _ _ hbranches hdefine) h

/-- A document amounts to an object, and no name is repeated in it. -/
theorem distinct_of_parse {document : String} {v : Json} (h : parse? document = some v) :
    v.Distinct ∧ ∃ fields, v = .object fields := by
  obtain ⟨branches, hlines, rfl⟩ := Option.map_eq_some_iff.1 h
  exact ⟨(distinct_of_lines Branches.distinct_nil hlines).toJson, _, rfl⟩

end Rehearsal.Toml
