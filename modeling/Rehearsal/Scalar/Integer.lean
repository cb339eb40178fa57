/-!
# Integers in texts

Reading integers of a fixed width: an optional sign, where a minus needs a signed type, and
digits from zero to nine. The digits are read from left to right and the first thing that is
wrong decides the error.
-/

namespace Rehearsal

/-- A type of integers of a fixed width. -/
structure IntegerType where
  /-- The name. -/
  name : String
  /-- Whether there are negative integers. -/
  signed : Bool
  /-- The width in bits. -/
  width : Nat
  deriving DecidableEq, Repr

/-- Why a text is not an integer of a type. -/
inductive IntegerError
  /-- The text is empty. -/
  | empty
  /-- A character is not a digit, or no digit follows the sign. -/
  | notDigit
  /-- The integer is above the greatest of the type. -/
  | tooLarge
  /-- The integer is below the least of the type. -/
  | tooSmall
  deriving DecidableEq, Repr

/-- The wording of an error. -/
def IntegerError.message : IntegerError → String
  | .empty => "cannot parse integer from empty string"
  | .notDigit => "invalid digit found in string"
  | .tooLarge => "number too large to fit in target type"
  | .tooSmall => "number too small to fit in target type"

/-- The value of a digit from zero to nine. -/
def decimalDigit? (c : Char) : Option Nat := if c.isDigit then some (c.toNat - '0'.toNat) else none

namespace IntegerType

/-- The least integer of the type. -/
def least (t : IntegerType) : Int := if t.signed then -(Nat.pow 2 (t.width - 1) : Nat) else 0

/-- The greatest integer of the type. -/
def greatest (t : IntegerType) : Int :=
  (Nat.pow 2 (if t.signed then t.width - 1 else t.width) : Nat) - 1

/-- The types whose names patterns and arguments know. -/
def all : List IntegerType :=
  [⟨"u8", false, 8⟩, ⟨"u16", false, 16⟩, ⟨"u32", false, 32⟩, ⟨"u64", false, 64⟩,
    ⟨"u128", false, 128⟩,
   ⟨"usize", false, 64⟩, ⟨"i8", true, 8⟩, ⟨"i16", true, 16⟩, ⟨"i32", true, 32⟩, ⟨"i64", true, 64⟩,
   ⟨"i128", true, 128⟩, ⟨"isize", true, 64⟩]

/-- The signed type with 64 bits. -/
def signed64 : IntegerType := ⟨"i64", true, 64⟩

/-- The type with 64 bits and without sign. -/
def unsigned64 : IntegerType := ⟨"u64", false, 64⟩

/-- The type with 32 bits and without sign. -/
def unsigned32 : IntegerType := ⟨"u32", false, 32⟩

/-- Reads digits after those that make `value`, all of one sign. -/
def readDigits (t : IntegerType) (negative : Bool) (value : Int) :
    List Char → Except IntegerError Int
  | [] => .ok value
  | c :: rest =>
    match decimalDigit? c with
    | none => .error .notDigit
    | some digit =>
      if negative then
        let next := value * 10 - digit
        if next < t.least then .error .tooSmall else t.readDigits negative next rest
      else
        let next := value * 10 + digit
        if t.greatest < next then .error .tooLarge else t.readDigits negative next rest

/-- Reads an integer. -/
def read (t : IntegerType) (text : String) : Except IntegerError Int :=
  match text.toList with
  | [] => .error .empty
  | ['+'] | ['-'] => .error .notDigit
  | '+' :: digits => t.readDigits false 0 digits
  | '-' :: digits => if t.signed then t.readDigits true 0 digits else .error .notDigit
  | digits => t.readDigits false 0 digits

end IntegerType

end Rehearsal
