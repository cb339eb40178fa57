import Rehearsal.Scalar.Integer

/-!
# Floating-point numbers in texts

A decimal literal stands for an exact number; reading it gives the nearest number of a
binary format, of two equally near ones the one with an even significand. All arithmetic
is on natural numbers.
-/

namespace Rehearsal

/-- A binary format of floating-point numbers. -/
structure FloatingType where
  /-- The name. -/
  name : String
  /-- The number of bits of a significand, the leading one included. -/
  precision : Nat
  /-- The number of bits of an exponent. -/
  exponentBits : Nat
  deriving DecidableEq, Repr

/-- What a literal stands for, its sign aside. -/
inductive Magnitude
  /-- No number. -/
  | nan
  /-- More than every number. -/
  | infinite
  /-- `digits` times ten to the power `exponent`. -/
  | finite (digits : Nat) (exponent : Int)
  deriving DecidableEq, Repr

/-- A number of a binary format. -/
inductive Floating
  /-- No number. -/
  | nan
  /-- The number with the given bits: sign, exponent and significand. -/
  | bits (b : Nat)
  deriving DecidableEq, Repr

/-- Why a text is not a floating-point number. -/
inductive FloatingError
  /-- The text is empty. -/
  | empty
  /-- The text is no literal. -/
  | notLiteral
  deriving DecidableEq, Repr

/-- The wording of an error. -/
def FloatingError.message : FloatingError → String
  | .empty => "cannot parse float from empty string"
  | .notLiteral => "invalid float literal"

/-! ## Literals -/

/-- The digits that a text starts with, as a number that continues `value`; how many there are; and
the rest of the text. -/
def takeDigits (value : Nat) : List Char → Nat × Nat × List Char
  | [] => (value, 0, [])
  | c :: rest =>
    match decimalDigit? c with
    | none => (value, 0, c :: rest)
    | some digit =>
      let (total, count, rest) := takeDigits (value * 10 + digit) rest
      (total, count + 1, rest)

/-- The bound from which on further digits of an exponent do not count. -/
def exponentBound : Nat := 0x10000

/-- The value of the digits of an exponent. -/
def exponentValue? : Nat → List Char → Option Nat
  | value, [] => some value
  | value, c :: rest =>
    match decimalDigit? c with
    | none => none
    | some digit =>
      exponentValue? (if value < exponentBound then value * 10 + digit else value) rest

/-- Reads what may follow the digits of a literal: nothing, or an exponent. -/
def exponent? : List Char → Option Int
  | [] => some 0
  | e :: rest =>
    if e = 'e' ∨ e = 'E' then
      match rest with
      | [] | ['+'] | ['-'] => none
      | '-' :: digits => (exponentValue? 0 digits).map fun n => -(n : Int)
      | '+' :: digits => (exponentValue? 0 digits).map Int.ofNat
      | digits => (exponentValue? 0 digits).map Int.ofNat
    else none

/-- Reads a decimal literal without sign: digits with at most one point among
them, then an exponent. -/
def decimal? (text : List Char) : Option Magnitude :=
  let (whole, wholeCount, rest) := takeDigits 0 text
  let (digits, fractionCount, rest) := match rest with
    | '.' :: rest => takeDigits whole rest
    | rest => (whole, 0, rest)
  if wholeCount + fractionCount = 0 then none
  else (exponent? rest).map fun exponent => .finite digits (exponent - fractionCount)

/-- Reads a literal without sign. The words for special values are read in any case of letters. -/
def Magnitude.parse? (text : List Char) : Option Magnitude :=
  match String.ofList (text.map Char.toLower) with
  | "nan" => some .nan
  | "inf" | "infinity" => some .infinite
  | _ => decimal? text

/-! ## Rounding -/

/-- The quotient rounded to the nearest natural number, ties to the even one. -/
def roundedQuotient (num den : Nat) : Nat :=
  let quotient := num / den
  let rest := 2 * (num % den)
  if den < rest ∨ (rest = den ∧ quotient % 2 = 1) then quotient + 1 else quotient

namespace FloatingType

/-- The format with 32 bits. -/
def single : FloatingType := ⟨"f32", 24, 8⟩

/-- The format with 64 bits. -/
def double : FloatingType := ⟨"f64", 53, 11⟩

/-- The power of two that the least significand bit of the smallest numbers stands for. -/
def leastExponent (t : FloatingType) : Int :=
  3 - (Nat.pow 2 (t.exponentBits - 1) : Nat) - t.precision

/-- The bits of infinity. -/
def infinityBits (t : FloatingType) : Nat :=
  (Nat.pow 2 t.exponentBits - 1) * Nat.pow 2 (t.precision - 1)

/-- The bit of the sign. -/
def signBit (t : FloatingType) : Nat := Nat.pow 2 (t.exponentBits + t.precision - 1)

/-- The bits of the number nearest to the positive quotient. A significand that is rounded up to the
next power of two carries into the exponent, which stands above it. -/
def nearestBits (t : FloatingType) (num den : Nat) : Nat :=
  let magnitude : Int := num.log2 - den.log2
  let below (q : Int) : Bool :=
    if q < 0 then num * Nat.pow 2 (-q).toNat < den else num < den * Nat.pow 2 q.toNat
  let unit : Int := if below magnitude then magnitude - t.precision else magnitude + 1 - t.precision
  let unit := max t.leastExponent unit
  let significand :=
    if unit < 0 then roundedQuotient (num * Nat.pow 2 (-unit).toNat) den
    else roundedQuotient num (den * Nat.pow 2 unit.toNat)
  min t.infinityBits ((unit - t.leastExponent).toNat * Nat.pow 2 (t.precision - 1) + significand)

/-- The bits of the number nearest to `digits` times ten to the power `exponent`. What is far out of
the range of the format is not computed. -/
def nearest (t : FloatingType) (digits : Nat) (exponent : Int) : Nat :=
  let size : Int := (Nat.toDigits 10 digits).length + exponent
  let bound : Int := (Nat.pow 2 t.exponentBits : Nat) + t.precision
  if digits = 0 ∨ size < -bound then 0
  else if bound < size then t.infinityBits
  else if exponent < 0 then t.nearestBits digits (Nat.pow 10 (-exponent).toNat)
  else t.nearestBits (digits * Nat.pow 10 exponent.toNat) 1

/-- The number of the format that is nearest to a literal. -/
def encode (t : FloatingType) (negative : Bool) : Magnitude → Floating
  | .nan => .nan
  | .infinite => .bits (signed t.infinityBits)
  | .finite digits exponent => .bits (signed (t.nearest digits exponent))
where
  /-- The bits with those of the sign. -/
  signed (b : Nat) : Nat := if negative then t.signBit + b else b

/-- Reads a number of the format. -/
def read (t : FloatingType) (text : String) : Except FloatingError Floating :=
  let found (negative : Bool) (literal : List Char) : Except FloatingError Floating :=
    match Magnitude.parse? literal with
    | some magnitude => .ok (t.encode negative magnitude)
    | none => .error .notLiteral
  match text.toList with
  | [] => .error .empty
  | '-' :: literal => found true literal
  | '+' :: literal => found false literal
  | literal => found false literal

end FloatingType

end Rehearsal
