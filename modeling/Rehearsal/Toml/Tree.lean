import Rehearsal.Json

/-!
# Tables of a TOML document

A document builds up a tree of tables, line by line. How a table came about decides what may
still be added to it: a header may give a table its content once, keys with points may go on
with tables that such keys began, and a doubled header adds an element to a list of tables. A
value is never changed.
-/

namespace Rehearsal.Toml

/-- How a table came about. -/
inductive Origin
  /-- On the way to a table with a header. -/
  | implicit
  /-- By a key with points. -/
  | dotted
  /-- By its header. -/
  | explicit
  deriving DecidableEq, Repr

/-- A part of a document. -/
inductive Node
  /-- A value that is complete. -/
  | value (v : Json)
  /-- A table. -/
  | table (origin : Origin) (branches : List (String × Node))
  /-- A list of tables of which the last one may still grow; the earlier ones are
  given last one first. -/
  | tables (last : List (String × Node)) (earlier : List Json)
  deriving Inhabited

/-- What a table consists of. -/
abbrev Branches := List (String × Node)

/-- The value that a part of a document amounts to. -/
def Node.toJson : Node → Json
  | .value v => v
  | .table _ branches => .object (fields branches)
  | .tables last earlier => .array (earlier.reverse ++ [.object (fields last)])
where
  /-- The fields of a table. -/
  fields : List (String × Node) → List (String × Json)
    | [] => []
    | (key, node) :: rest => (key, node.toJson) :: fields rest

/-- The value that a table amounts to. -/
def Branches.toJson (branches : Branches) : Json := (Node.table .explicit branches).toJson

/-- Changes what a key leads to, or adds the key. -/
def Branches.alter (key : String) (change : Option Node → Option Node) : Branches → Option Branches
  | [] => (change none).map fun node => [(key, node)]
  | (k, node) :: rest =>
    if k = key then (change (some node)).map fun node => (k, node) :: rest
    else (Branches.alter key change rest).map fun rest => (k, node) :: rest

/-- Changes the table that a path of keys leads to, from `branches` on. The path goes through the
last tables of lists, and tables that are not there yet are made on the way. -/
def Branches.alterAt (change : Branches → Option Branches) :
    List String → Branches → Option Branches
  | [], branches => change branches
  | key :: path, branches =>
    branches.alter key fun
      | none => (Branches.alterAt change path []).map (.table .implicit)
      | some (.table origin inner) => (Branches.alterAt change path inner).map (.table origin)
      | some (.tables last earlier) =>
        (Branches.alterAt change path last).map fun last => .tables last earlier
      | some (.value _) => none

/-- Opens the table of a header. -/
def Branches.openTable (path : List String) (branches : Branches) : Option Branches := do
  let key ← path.getLast?
  branches.alterAt
    (fun inner => inner.alter key fun
      | none => some (.table .explicit [])
      | some (.table .implicit content) => some (.table .explicit content)
      | some _ => none)
    path.dropLast

/-- Adds a table to the list of a doubled header. -/
def Branches.openElement (path : List String) (branches : Branches) : Option Branches := do
  let key ← path.getLast?
  branches.alterAt
    (fun inner => inner.alter key fun
      | none => some (.tables [] [])
      | some (.tables last earlier) => some (.tables [] (Branches.toJson last :: earlier))
      | some _ => none)
    path.dropLast

/-- Adds a value under a key in a table. The points of the key lead through tables that keys with
points began, and on the way to one of those also through tables that lie on the way to a header and
through the last tables of lists. -/
def Branches.define (v : Json) : List String → Branches → Option Branches
  | [], _ => none
  | [key], branches => branches.alter key fun
    | none => some (.value v)
    | some _ => none
  | key :: next :: path, branches =>
    branches.alter key fun
      | none => (Branches.define v (next :: path) []).map (.table .dotted)
      | some (.table .dotted inner) => (Branches.define v (next :: path) inner).map (.table .dotted)
      | some (.table .implicit inner) =>
        if path.isEmpty then none else (Branches.define v (next :: path) inner).map
          (.table .implicit)
      | some (.tables last earlier) =>
        if path.isEmpty then none
        else (Branches.define v (next :: path) last).map fun last => .tables last earlier
      | some _ => none

end Rehearsal.Toml
