import Rehearsal.Scalar.Floating
import Rehearsal.Toml.Moment
import Rehearsal.Toml.Text
import Rehearsal.Toml.Tree

/-!
# TOML documents

Reading TOML 1.1 documents as values. Integers have 64 bits, with a sign or without. Floating-point
numbers must be finite or written as infinite; what is written as infinite or as no number is read
as no value. A date or time is read as a record that holds its text.
-/

namespace Rehearsal.Toml

/-! ## Numbers -/

/-- Digits without the underscores between them; an underscore stands between two digits. -/
def ungrouped? (isDigit : Char → Bool) : List Char → Option (List Char)
  | [] => none
  | [c] => if isDigit c then some [c] else none
  | c :: '_' :: rest =>
    if isDigit c then (ungrouped? isDigit rest).map fun digits => c :: digits else none
  | c :: rest => if isDigit c then (ungrouped? isDigit rest).map fun digits => c :: digits else none

/-- The number that digits in base `base` make. -/
def natOfDigits (base : Nat) (digits : List Char) : Nat :=
  digits.foldl (fun n c => n * base + (hexDigit? c).getD 0) 0

/-- Reads a number in base `base`. -/
def natInBase? (base : Nat) (text : List Char) : Option Nat :=
  (ungrouped? (fun c => (hexDigit? c).any (· < base)) text).map (natOfDigits base)

/-- The digits of a whole number, which has no needless zero in front. -/
def wholeDigits? (text : List Char) : Option (List Char) :=
  match ungrouped? Char.isDigit text with
  | some ('0' :: _ :: _) => none
  | digits => digits

/-- Whether a number without sign is negative, and the number without it. -/
def splitSign : List Char → Bool × List Char
  | '-' :: rest => (true, rest)
  | '+' :: rest => (false, rest)
  | text => (false, text)

/-- The integer, if it has 64 bits, with a sign or without. -/
def inRange? (n : Int) : Option Json :=
  if IntegerType.signed64.least ≤ n ∧
    n ≤ IntegerType.unsigned64.greatest then some (.integer n) else none

/-- Reads an integer. -/
def integer? : List Char → Option Json
  | '0' :: 'x' :: digits => (natInBase? 16 digits).bind fun n => inRange? n
  | '0' :: 'o' :: digits => (natInBase? 8 digits).bind fun n => inRange? n
  | '0' :: 'b' :: digits => (natInBase? 2 digits).bind fun n => inRange? n
  | text => do
    let (negative, text) := splitSign text
    let n : Int := natOfDigits 10 (← wholeDigits? text)
    inRange? (if negative then -n else n)

/-- The part of a text before the first character for which `isMark` holds,
and the part after it. -/
def splitAtFirst (isMark : Char → Bool) : List Char → List Char × Option (List Char)
  | [] => ([], none)
  | c :: rest =>
    if isMark c then ([], some rest)
    else
      let (before, after) := splitAtFirst isMark rest
      (c :: before, after)

/-- Reads the exponent of a number. -/
def exponentOf? (text : List Char) : Option Int := do
  let (negative, digits) := splitSign text
  let n : Int := natOfDigits 10 (← ungrouped? Char.isDigit digits)
  return if negative then -n else n

/-- Reads a floating-point number, of which the exponent or the digits after the point may be
missing, but not both. -/
def floating? (text : List Char) : Option Json := do
  let (negative, text) := splitSign text
  if text = ['i', 'n', 'f'] ∨ text = ['n', 'a', 'n'] then return .null
  let (mantissa, exponent) := splitAtFirst (fun c => c == 'e' || c == 'E') text
  let (whole, fraction) := splitAtFirst (fun c => c == '.') mantissa
  if exponent.isNone ∧ fraction.isNone then none
  let wholeDigits ← wholeDigits? whole
  let fractionDigits ← match fraction with
    | none => some []
    | some digits => ungrouped? Char.isDigit digits
  let power ← match exponent with
    | none => some 0
    | some digits => exponentOf? digits
  let digits := natOfDigits 10 (wholeDigits ++ fractionDigits)
  let power := power - fractionDigits.length
  if FloatingType.double.nearest digits power = FloatingType.double.infinityBits then none
  else some (.decimal (if negative then -digits else digits) power)

/-! ## Values -/

/-- The name of the field that holds the text of a date or time. -/
def momentField : String := "$__toml_private_datetime"

/-- Reads a value that is one word. -/
def word? (text : List Char) : Option Json :=
  if text = "true".toList then some (.bool true)
  else if text = "false".toList then some (.bool false)
  else if isMoment text then some (.object [(momentField, .string (.ofList text))])
  else integer? text <|> floating? text

/-- Whether a character ends a word. -/
def endsWord (c : Char) : Bool :=
  isSpace c || c == '\n' || c == '\r' || c == ',' || c == ']' || c == '\x7d' || c == '#'

/-- Splits the word from the start of a text. A date goes on after one blank if a digit follows. -/
def splitWord (text : List Char) : List Char × List Char :=
  let first := text.takeWhile fun c => !endsWord c
  let rest := text.dropWhile fun c => !endsWord c
  match date? first, rest with
  | some [], ' ' :: c :: more =>
    if c.isDigit then
      (first ++ ' ' :: (c :: more).takeWhile fun c => !endsWord c,
        (c :: more).dropWhile fun c => !endsWord c)
    else (first, rest)
  | _, _ => (first, rest)

/-- How deep lists and tables may be nested in a value, and how many parts a key may have. -/
def nestingLimit : Nat := 80

/-- Reads the items of a list up to its end, at most `fuel`, each by `item`. -/
def listItems (item : List Char → Option (Json × List Char)) :
    (fuel : Nat) → List Char → Option (List Json × List Char)
  | 0, _ => none
  | fuel + 1, text =>
    match skipLines (text.length + 1) text with
    | ']' :: rest => some ([], rest)
    | start => do
      let (v, rest) ← item start
      match skipLines (rest.length + 1) rest with
      | ',' :: rest =>
        let (vs, rest) ← listItems item fuel rest
        some (v :: vs, rest)
      | ']' :: rest => some ([v], rest)
      | _ => none

/-- Reads a key and the value that follows it, the value by `item`, and puts the value into the
table. Lines may end around the sign between them. -/
def pair (item : List Char → Option (Json × List Char)) (branches : Branches) (text : List Char) :
    Option (Branches × List Char) := do
  let (path, rest) ← key nestingLimit text
  let rest ← after? '=' (skipLines (rest.length + 1) rest)
  let (v, rest) ← item (skipLines (rest.length + 1) rest)
  some (← branches.define v path, rest)

/-- Reads the pairs of a table in braces up to its end, at most `fuel`. -/
def tablePairs (item : List Char → Option (Json × List Char)) :
    (fuel : Nat) → Branches → List Char → Option (Branches × List Char)
  | 0, _, _ => none
  | fuel + 1, branches, text =>
    match skipLines (text.length + 1) text with
    | '\x7d' :: rest => some (branches, rest)
    | start => do
      let (branches, rest) ← pair item branches start
      match skipLines (rest.length + 1) rest with
      | ',' :: rest => tablePairs item fuel branches rest
      | '\x7d' :: rest => some (branches, rest)
      | _ => none

/-- Reads a value that is neither a list nor a table. -/
def leaf (text : List Char) : Option (Json × List Char) :=
  match text with
  | '"' :: _ | '\'' :: _ => (quotedText text).map fun (s, rest) => (.string (.ofList s), rest)
  | _ =>
    let (word, rest) := splitWord text
    (word? word).map fun v => (v, rest)

/-- Reads a value in which lists and tables are nested at most `depth` deep. -/
def value : (depth : Nat) → List Char → Option (Json × List Char)
  | 0, text => leaf text
  | depth + 1, text =>
    match text with
    | '[' :: rest =>
      (listItems (value depth) (rest.length + 1) rest).map fun (items, rest) => (.array items, rest)
    | '\x7b' :: rest =>
      (tablePairs (value depth) (rest.length + 1) [] rest).map fun (branches, rest) =>
        (branches.toJson, rest)
    | text => leaf text

/-! ## Documents -/

/-- Reads the path of a header up to its closing bracket. -/
def headerPath (text : List Char) : Option (List String × List Char) := do
  let (path, rest) ← key nestingLimit text
  match rest with
  | ']' :: rest => some (path, rest)
  | _ => none

/-- Reads at most `fuel` lines into the table of the header with the given path. -/
def lines : (fuel : Nat) → (header : List String) → Branches → List Char → Option Branches
  | 0, _, _, _ => none
  | fuel + 1, header, branches, text =>
    match skipLines (text.length + 1) text with
    | [] => some branches
    | '[' :: '[' :: rest => do
      let (path, rest) ← headerPath rest
      let branches ← branches.openElement path
      lines fuel path branches (← endOfLine? (← after? ']' rest))
    | '[' :: rest => do
      let (path, rest) ← headerPath rest
      let branches ← branches.openTable path
      lines fuel path branches (← endOfLine? rest)
    | start => do
      let (path, rest) ← key nestingLimit start
      let (v, rest) ← value nestingLimit (skipSpaces (← after? '=' rest))
      let branches ← branches.alterAt (Branches.define v path) header
      lines fuel header branches (← endOfLine? rest)

/-- The text without the mark of its encoding that it may start with. -/
def skipMark : List Char → List Char
  | '\uFEFF' :: rest => rest
  | text => text

/-- The value of a document, if it is one. -/
def parse? (document : String) : Option Json :=
  let text := skipMark document.toList
  (lines (text.length + 1) [] [] text).map Branches.toJson

end Rehearsal.Toml
