/-!
# Dates and times in TOML

A moment is a date, a time of day, or both with a letter or a blank between them and possibly
the distance from universal time behind. A time of day may do without seconds. Days are
checked against the calendar.
-/

namespace Rehearsal.Toml

/-- The number that so many digits at the start of a text make, and the rest of the text. -/
def digits? : (count : Nat) → List Char → Option (Nat × List Char)
  | 0, text => some (0, text)
  | count + 1, c :: rest =>
    if c.isDigit then (digits? count rest).map fun (n, rest) =>
      ((c.toNat - '0'.toNat) * 10 ^ count + n, rest)
    else none
  | _ + 1, [] => none

/-- The text after the character `c` that it starts with. -/
def after? (c : Char) : List Char → Option (List Char)
  | d :: rest => if c = d then some rest else none
  | [] => none

/-- Whether a year has a day more. -/
def isLeapYear (year : Nat) : Bool := year % 4 == 0 && (year % 100 != 0 || year % 400 == 0)

/-- The number of days of a month; of no month, none. -/
def daysOfMonth (year month : Nat) : Nat :=
  match month with
  | 2 => if isLeapYear year then 29 else 28
  | 4 | 6 | 9 | 11 => 30
  | 1 | 3 | 5 | 7 | 8 | 10 | 12 => 31
  | _ => 0

/-- The text after the date that it starts with. -/
def date? (text : List Char) : Option (List Char) := do
  let (year, text) ← digits? 4 text
  let (month, text) ← digits? 2 (← after? '-' text)
  let (day, text) ← digits? 2 (← after? '-' text)
  if 1 ≤ day ∧ day ≤ daysOfMonth year month then some text else none

/-- The text after the hours and minutes that it starts with. -/
def hourMinute? (text : List Char) : Option (List Char) := do
  let (hour, text) ← digits? 2 text
  let (minute, text) ← digits? 2 (← after? ':' text)
  if hour ≤ 23 ∧ minute ≤ 59 then some text else none

/-- The text after the seconds that it starts with, and after the part of a
second behind a point. -/
def second? (text : List Char) : Option (List Char) := do
  let (second, text) ← digits? 2 text
  if 60 < second then none
  else
    match text with
    | '.' :: c :: rest => if c.isDigit then some (rest.dropWhile Char.isDigit) else none
    | text => some text

/-- The text after the time of day that it starts with. -/
def time? (text : List Char) : Option (List Char) := do
  match ← hourMinute? text with
  | ':' :: rest => second? rest
  | rest => some rest

/-- Whether the text is nothing or a distance from universal time. -/
def isOffset : List Char → Bool
  | [] | ['Z'] | ['z'] => true
  | '+' :: rest | '-' :: rest => hourMinute? rest == some []
  | _ => false

/-- Whether the text is a moment. -/
def isMoment (text : List Char) : Bool :=
  match date? text with
  | none => time? text == some []
  | some [] => true
  | some (joint :: rest) =>
    (joint == 'T' || joint == 't' || joint == ' ') && (time? rest).any isOffset

end Rehearsal.Toml
