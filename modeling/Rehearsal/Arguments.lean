import Rehearsal.Model.Table
import Rehearsal.Scalar
import Rehearsal.Text.Quoted

/-!
# Arguments of steps

What the code of a step is called with: the captures of its pattern in order, then the table or text
below the step. A capture or table that a transform was for carries the value of the transform
beside its text. Taking a value out of an argument leaves the text behind, so it can be taken once.
-/

namespace Rehearsal

/-- The types of the values of arguments. -/
inductive ValueType
  | text | integer | list | boolean | table
  /-- Any other type, known by an identity of its own and by its name. -/
  | other (identity : Nat) (name : String)
  deriving DecidableEq, Repr

namespace ValueType

/-- The values of a type. Values of other types are only handed on, as the bytes that they are. -/
abbrev Carrier : ValueType → Type
  | .text => String
  | .integer => Int
  | .list => List String
  | .boolean => Bool
  | .table => Table
  | .other _ _ => List UInt8

/-- The name of a type in messages. -/
def name : ValueType → String
  | .text => textTypeName
  | .integer => "i64"
  | .list => "alloc::vec::Vec<alloc::string::String>"
  | .boolean => "bool"
  | .table => "stepwright::model::table::Table"
  | .other _ name => name

end ValueType

/-- A value together with its type. -/
structure Value where
  /-- The type. -/
  type : ValueType
  /-- The value. -/
  content : type.Carrier

/-- The value as one of the type `t`, if it is one. -/
def Value.as? (v : Value) (t : ValueType) : Option t.Carrier :=
  if h : v.type = t then some (h ▸ v.content) else none

/-- A value is of its own type. -/
@[simp] theorem Value.as?_type (v : Value) : v.as? v.type = some v.content := by simp [Value.as?]

/-- One argument of a step. -/
inductive Argument
  /-- A capture as it is. -/
  | captured (raw : String)
  /-- What a transform made of a capture or of the signature of a table. -/
  | transformed (raw : String) (value : Value)
  /-- The table below the step. -/
  | table (t : Table)
  /-- The text below the step. -/
  | text (raw : String)

namespace Argument

/-- The text that the argument stands for; a table has none. -/
def raw? : Argument → Option String
  | .captured raw | .transformed raw _ | .text raw => some raw
  | .table _ => none

/-- What the argument holds. -/
def value : Argument → Value
  | .captured raw | .text raw => ⟨.text, raw⟩
  | .transformed _ v => v
  | .table t => ⟨.table, t⟩

/-- What is left of the argument when its value is taken. -/
def remnant (a : Argument) : Argument := .captured (a.raw?.getD "")

/-- What comes out of the argument when it is replaced. -/
def released : Argument → Value
  | .captured raw | .text raw => ⟨.text, raw⟩
  | .transformed _ v => v
  | .table t => ⟨.table, t⟩

/-- The table that the argument is. -/
def table? : Argument → Option Table
  | .table t => some t
  | _ => none

/-- The text below the step that the argument is. -/
def text? : Argument → Option String
  | .text raw => some raw
  | _ => none

/-- The description of an argument. -/
def describe : Argument → String
  | .captured raw => "Captured(" ++ quoted raw ++ ")"
  | .transformed raw _ => "Transformed \x7b raw: " ++ quoted raw ++ ", .. \x7d"
  | .table t =>
    "Table(Table \x7b rows: " ++
      bracketed (t.rows.map fun row => bracketed (row.map quoted)) ++ " \x7d)"
  | .text raw => "Text(" ++ quoted raw ++ ")"

end Argument

/-- Why an argument cannot be had as wanted. -/
inductive ArgumentError
  /-- There are not so many arguments. -/
  | missing (index : Nat)
  /-- The argument holds a value of another type. -/
  | mismatch (index : Nat) (wanted : ValueType)
  /-- The argument has no text that could be read. -/
  | noText (index : Nat)
  /-- The text of the argument is not one of the type. -/
  | unreadable (index : Nat) (raw : String) (wanted : ScalarType) (e : ScalarError)
  deriving DecidableEq, Repr

/-- The wording of an error. -/
def ArgumentError.message : ArgumentError → String
  | .missing index => "step has no argument at position " ++ toString index
  | .mismatch index wanted => "argument " ++ toString index ++ " does not hold a " ++ wanted.name
  | .noText index => "argument " ++ toString index ++ " has no text to parse"
  | .unreadable index raw wanted e =>
    "argument " ++ toString index ++ " ('" ++ raw ++ "') is not a valid " ++ wanted.name ++ ": " ++
      e.message

/-- The arguments of a step, in order. -/
structure Arguments where
  /-- The arguments. -/
  toList : List Argument

namespace Arguments

/-- The number of arguments. -/
def size (args : Arguments) : Nat := args.toList.length

/-- Whether there is no argument. -/
def isEmpty (args : Arguments) : Bool := args.toList.isEmpty

/-- The argument at an index. -/
def at? (args : Arguments) (index : Nat) : Except ArgumentError Argument :=
  match args.toList[index]? with
  | some a => .ok a
  | none => .error (.missing index)

/-- The text of the argument at an index. -/
def raw? (args : Arguments) (index : Nat) : Option String := args.toList[index]?.bind Argument.raw?

/-- The value of the argument at an index, which must be of the type `t`. -/
def get (args : Arguments) (t : ValueType) (index : Nat) : Except ArgumentError t.Carrier := do
  let a ← args.at? index
  match a.value.as? t with
  | some content => .ok content
  | none => .error (.mismatch index t)

/-- The text to be read of the argument at an index, which must have one. -/
def textAt (args : Arguments) (index : Nat) : Except ArgumentError String := do
  let a ← args.at? index
  match a.raw? with
  | none => .error (.noText index)
  | some raw => .ok raw

/-- The text of the argument at an index, read as a value of the type `t`. -/
def parse (args : Arguments) (t : ScalarType) (index : Nat) : Except ArgumentError Scalar := do
  let raw ← args.textAt index
  (t.read raw).mapError (.unreadable index raw t)

/-- Replaces the argument at an index, if its value is of the type `t`, by what is left without the
value. Only what comes out then is taken as a value of the type. Beside the result there are the
arguments as they are left, whether that succeeds or not. -/
def take (args : Arguments) (t : ValueType) (index : Nat) :
    Except ArgumentError t.Carrier × Arguments :=
  match args.at? index with
  | .error e => (.error e, args)
  | .ok a =>
    if a.value.type = t then
      let replaced : Arguments := ⟨args.toList.set index a.remnant⟩
      match a.released.as? t with
      | some content => (.ok content, replaced)
      | none => (.error (.mismatch index t), replaced)
    else (.error (.mismatch index t), args)

/-- The table below the step, unless a transform was for it. -/
def table? (args : Arguments) : Option Table := args.toList.reverse.findSome? Argument.table?

/-- The text below the step. -/
def text? (args : Arguments) : Option String := args.toList.reverse.findSome? Argument.text?

end Arguments

end Rehearsal
