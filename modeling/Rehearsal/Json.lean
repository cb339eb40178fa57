/-!
# JSON values

The values in which features are handed over and settings are merged, the reading of records out of
them, and their compact written form.
-/

namespace Rehearsal

/-- A JSON value. -/
inductive Json
  /-- No value. -/
  | null
  /-- A truth value. -/
  | bool (b : Bool)
  /-- A number written without fraction and exponent. -/
  | integer (n : Int)
  /-- Any other number, `digits` times ten to the power `exponent`. -/
  | decimal (digits exponent : Int)
  /-- A text. -/
  | string (s : String)
  /-- A list of values. -/
  | array (items : List Json)
  /-- Values by their names, which are not repeated. -/
  | object (fields : List (String × Json))
  deriving BEq, Repr, Inhabited

namespace Json

/-- The text that the value is. -/
def string? : Json → Option String
  | .string s => some s
  | _ => none

/-- The truth value that the value is. -/
def bool? : Json → Option Bool
  | .bool b => some b
  | _ => none

/-- The natural number below `bound` that the value is. -/
def natBelow? (bound : Nat) : Json → Option Nat
  | .integer (.ofNat n) => if n < bound then some n else none
  | _ => none

/-- The list that the value is, each item read by `read`. -/
def list? (read : Json → Option α) : Json → Option (List α)
  | .array items => items.mapM read
  | _ => none

/-- A list of texts as a value. -/
def ofStrings (texts : List String) : Json := .array (texts.map .string)

/-- The fields of a record. A record is written as an object, where fields are found by name and
foreign ones do not matter, or as the list of its fields in the order of `names`. -/
def record? (names : List String) : Json → Option (String → Option Json)
  | .object fields => some fun name => fields.lookup name
  | .array items =>
    if items.length ≤ names.length then some fun name => (names.zip items).lookup name else none
  | _ => none

/-- Reads a field that must be there. -/
def required (read : Json → Option α) (field : Option Json) : Option α := field.bind read

/-- Reads a field that has the value `absent` when it is not there. -/
def optional (read : Json → Option α) (absent : α) : Option Json → Option α
  | none => some absent
  | some value => read value

/-! ## Written form -/

/-- How one character is written between quotes. -/
def writtenChar (c : Char) : String :=
  match c with
  | '"' => "\\\""
  | '\\' => "\\\\"
  | '\x08' => "\\b"
  | '\t' => "\\t"
  | '\n' => "\\n"
  | '\x0c' => "\\f"
  | '\r' => "\\r"
  | c =>
    if c.toNat < 0x20 then
      "\\u00" ++ (if c.toNat < 0x10 then "0" else "") ++ .ofList (Nat.toDigits 16 c.toNat)
    else c.toString

/-- A text as written. -/
def writtenString (s : String) : String := "\"" ++ .join (s.toList.map writtenChar) ++ "\""

/-- The value as written, without blanks. -/
def written : Json → String
  | .null => "null"
  | .bool b => if b then "true" else "false"
  | .integer n => toString n
  | .decimal digits exponent => toString digits ++ "e" ++ toString exponent
  | .string s => writtenString s
  | .array items => "[" ++ ",".intercalate (writtenItems items) ++ "]"
  | .object fields => "\x7b" ++ ",".intercalate (writtenFields fields) ++ "\x7d"
where
  /-- The items of a list as written. -/
  writtenItems : List Json → List String
    | [] => []
    | item :: rest => item.written :: writtenItems rest
  /-- The fields of an object as written. -/
  writtenFields : List (String × Json) → List String
    | [] => []
    | (name, value) :: rest => (writtenString name ++ ":" ++ value.written) :: writtenFields rest

end Json

end Rehearsal
