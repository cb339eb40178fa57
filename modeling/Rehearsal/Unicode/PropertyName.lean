import Rehearsal.Unicode.AgeTable
import Rehearsal.Unicode.Segment
import Rehearsal.Unicode.SharedTable

/-!
# Properties by name

The look-up of a property by the name that a regular expression gives it. Names are compared without
regard to case, blanks, underscores and hyphens. A name alone is a binary property, a general
category or a script; with a value it asks for the characters that have the value.
-/

namespace Rehearsal.Unicode

/-- A property name in small letters, without separators, foreign characters and a leading `is`. -/
def normalName (name : List Char) : String :=
  let small := name.map Char.toLower
  let plain (cs : List Char) : List Char :=
    cs.filter fun c => c.toNat < 0x80 && c != ' ' && c != '_' && c != '-'
  match small with
  | 'i' :: 's' :: rest =>
    match plain rest with
    | ['c'] => "isc"
    | other => .ofList other
  | other => .ofList (plain other)

/-- What is listed under `name`. -/
def lookUp (entries : List (List String × α)) (name : String) : Option α :=
  (entries.find? fun entry => entry.1.contains name).map Prod.snd

/-! ## Values of properties -/

/-- The characters of the script of the given name. -/
def scriptNamed? (name : String) : Option CharSet := (lookUp ScriptTable.scripts name).map .ofRuns

/-- The characters that the script of the given name uses: its own, but for those that other scripts
are listed for, and the shared ones that it is listed for. -/
def usedByScript? (name : String) : Option CharSet := do
  let (names, runs) ← ScriptTable.scripts.find? fun entry => entry.1.contains name
  let isListed (users : List String) : Bool := users.any names.contains
  let others := SharedTable.shared.filter fun entry => !isListed entry.2
  let shared := SharedTable.shared.filter fun entry => isListed entry.2
  return ((CharSet.ofRuns runs).diff (unionOfRuns (others.map Prod.fst))).union
    (unionOfRuns (shared.map Prod.fst))

/-- The names of a version. -/
def versionNames (major minor : Nat) : List String :=
  [toString major ++ "." ++ toString minor, "v" ++ toString major ++ toString minor]

/-- The characters that the version of the given name has, new ones and old ones. -/
def assignedBy? (name : String) : Option CharSet := do
  let isNamed : Nat × Nat × List (Nat × Nat × Nat) → Bool := fun (major, minor, _) =>
    (versionNames major minor).contains name
  let earlier := AgeTable.versions.takeWhile fun version => !isNamed version
  let (_, _, runs) ← AgeTable.versions.find? isNamed
  return unionOfRuns (runs :: earlier.map fun version => version.2.2)

/-! ## Look-up -/

/-- The set named by a property without value: a binary property, a general category or a script. -/
def propertyNamed (name : List Char) : Option CharSet :=
  let name := normalName name
  lookUp binaryProperties name <|> lookUp categories name <|> scriptNamed? name

/-- The set named by a property with a value. -/
def propertyValueNamed (property value : List Char) : Option CharSet :=
  let value := normalName value
  match normalName property with
  | "gc" | "generalcategory" => lookUp categories value
  | "sc" | "script" => scriptNamed? value
  | "scx" | "scriptextensions" => usedByScript? value
  | "age" => assignedBy? value
  | "gcb" | "graphemeclusterbreak" => lookUp clusterClasses value
  | "wb" | "wordbreak" => lookUp wordClasses value
  | "sb" | "sentencebreak" => lookUp sentenceClasses value
  | _ => none

end Rehearsal.Unicode
