/-!
# File trees

What matters of a file system to whoever looks for a file: which paths lead to directories and which
to files with texts. A path is followed from a directory, part by part; a part that is empty or a
point stays where it is, and two points go up, both only from directories. Of what is above the
starting directory only the directories on the way up are known.
-/

namespace Rehearsal

/-- What a path leads to. -/
inductive FileItem
  /-- A file with the given text. -/
  | file (text : String)
  /-- A file that may not be read, or whose content is no text. -/
  | unreadable
  /-- A directory. -/
  | directory
  deriving DecidableEq, Repr

/-- Files and directories below a directory. -/
structure FileTree where
  /-- The paths of files, and of directories that may be empty, part by part. -/
  entries : List (List String × FileItem) := []
  deriving Inhabited

namespace FileTree

/-- What is at a path of plain names. -/
def item? (t : FileTree) (path : List String) : Option FileItem :=
  match t.entries.lookup path with
  | some item => some item
  | none =>
    if path.isEmpty || t.entries.any fun entry =>
      path.isPrefixOf entry.1 then some .directory else none

/-- Whether a part of a path leads down. -/
def leadsDown (part : String) : Bool := !(part == "" || part == "." || part == "..")

/-- What is at the end of the parts of a path that starts where `place` leads. -/
def follow (t : FileTree) (place : List String) : List String → Option FileItem
  | [] => t.item? place
  | part :: rest =>
    if part = "" ∨ part = "." then
      if t.item? place = some .directory then t.follow place rest else none
    else if part = ".." then
      if t.item? place ≠ some .directory then none
      else if place ≠ [] then t.follow place.dropLast rest
      else if rest.any leadsDown then none
      else some .directory
    else t.follow (place ++ [part]) rest

/-- What a written path leads to in the directory. The empty path leads nowhere, and so does one
that does not start below the directory. -/
def find? (t : FileTree) (path : String) : Option FileItem :=
  match path.splitOn "/" with
  | "" :: _ => none
  | parts => t.follow [] parts

end FileTree

end Rehearsal
