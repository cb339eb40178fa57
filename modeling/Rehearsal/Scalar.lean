import Rehearsal.Scalar.Floating

/-!
# Values in texts

The simple types that the text of an argument can be read as, and what is said when it cannot.
-/

namespace Rehearsal

/-- A simple type. -/
inductive ScalarType
  /-- Integers of a fixed width. -/
  | integer (t : IntegerType)
  /-- Truth values. -/
  | boolean
  /-- Characters. -/
  | character
  /-- Floating-point numbers. -/
  | floating (t : FloatingType)
  /-- Texts, as which every text can be read. -/
  | text
  deriving DecidableEq, Repr

/-- A value of a simple type. -/
inductive Scalar
  /-- An integer. -/
  | integer (n : Int)
  /-- A truth value. -/
  | boolean (b : Bool)
  /-- A character. -/
  | character (c : Char)
  /-- A floating-point number. -/
  | floating (t : FloatingType) (x : Floating)
  /-- A text. -/
  | text (s : String)
  deriving DecidableEq, Repr

/-- Why a text cannot be read as a value of a type. -/
inductive ScalarError
  /-- It is no integer of the type. -/
  | integer (e : IntegerError)
  /-- It is no truth value. -/
  | notBoolean
  /-- It is empty, where a character is wanted. -/
  | noCharacter
  /-- It is more than one character. -/
  | manyCharacters
  /-- It is no floating-point number. -/
  | floating (e : FloatingError)
  deriving DecidableEq, Repr

/-- The wording of an error. -/
def ScalarError.message : ScalarError → String
  | .integer e => e.message
  | .notBoolean => "provided string was not `true` or `false`"
  | .noCharacter => "cannot parse char from empty string"
  | .manyCharacters => "too many characters in string"
  | .floating e => e.message

/-- The name that stands for texts as a type. -/
def textTypeName : String := "alloc::string::String"

/-- Reads a truth value. -/
def readBoolean (text : String) : Option Bool :=
  match text with
  | "true" => some true
  | "false" => some false
  | _ => none

namespace ScalarType

/-- The name of the type. -/
def name : ScalarType → String
  | .integer t => t.name
  | .boolean => "bool"
  | .character => "char"
  | .floating t => t.name
  | .text => textTypeName

/-- All types but that of texts. -/
def narrow : List ScalarType :=
  IntegerType.all.map .integer ++ [.boolean, .character, .floating .single, .floating .double]

/-- The type of the given name; that of texts for a name of no other. -/
def named (name : String) : ScalarType := (narrow.find? fun t => t.name == name).getD .text

/-- Reads a value of the type. -/
def read (t : ScalarType) (text : String) : Except ScalarError Scalar :=
  match t with
  | .integer t => (t.read text).map .integer |>.mapError .integer
  | .boolean => match readBoolean text with
    | some b => .ok (.boolean b)
    | none => .error .notBoolean
  | .character => match text.toList with
    | [] => .error .noCharacter
    | [c] => .ok (.character c)
    | _ => .error .manyCharacters
  | .floating t => (t.read text).map (.floating t) |>.mapError .floating
  | .text => .ok (.text text)

end ScalarType

/-- The natural number in `width` small hexadecimal digits. -/
def hexadecimal (width n : Nat) : String :=
  let digits := Nat.toDigits 16 n
  .ofList (.replicate (width - digits.length) '0' ++ digits)

/-- The bits of a number of a format in hexadecimal digits. -/
def Floating.written (t : FloatingType) : Floating → String
  | .nan => "nan"
  | .bits b => hexadecimal ((t.exponentBits + t.precision) / 4) b

/-- The value as text: of a floating-point number the bits. -/
def Scalar.written : Scalar → String
  | .integer n => toString n
  | .boolean b => if b then "true" else "false"
  | .character c => c.toString
  | .floating t x => x.written t
  | .text s => s

end Rehearsal
