/-!
# Tables

A table belongs to a step as its argument, or to an outline as its examples. Its first row holds the
headers of its columns. Rows need not be equally long.
-/

namespace Rehearsal

/-- Rows of cells, the first of which holds the headers. -/
structure Table where
  /-- All rows, headers included. -/
  rows : List (List String)
  deriving DecidableEq, Repr, Inhabited

/-- Texts with a value each, in order of the texts and without repetition. -/
abbrev Entries := List (String × String)

/-- Gives `key` the value `value`, in place of an earlier one. -/
def Entries.put (key value : String) : Entries → Entries
  | [] => [(key, value)]
  | (k, v) :: rest =>
    if key < k then (key, value) :: (k, v) :: rest
    else if key = k then (key, value) :: rest
    else (k, v) :: Entries.put key value rest

namespace Table

/-- The headers, none for a table without rows. -/
def headers (t : Table) : List String := t.rows.headD []

/-- The rows after the headers. -/
def body (t : Table) : List (List String) := t.rows.tail

/-- The cells of a row by the header of their column. Of several columns with one header the last counts;
cells without a header and headers without a cell are left out. -/
def entriesOf (headers row : List String) : Entries :=
  (headers.zip row).foldl (fun entries cell => entries.put cell.1 cell.2) []

/-- Each row of the body by its headers. -/
def hashes (t : Table) : List Entries := t.body.map (entriesOf t.headers)

/-- The text that table transforms are matched against. -/
def signature (t : Table) : String := "table:" ++ ",".intercalate t.headers

/-- Whether the table has no rows. -/
def isEmpty (t : Table) : Bool := t.rows.isEmpty

/-- The table with `f` applied to each cell. -/
def map (f : String → String) (t : Table) : Table := ⟨t.rows.map fun row => row.map f⟩

end Table

end Rehearsal
