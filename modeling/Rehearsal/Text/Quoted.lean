import Rehearsal.Unicode.Recent

/-!
# Quoted text

The quoted form in which texts appear inside the descriptions of values: double quotes around the
text, backslash escapes for the quote, the backslash and the common controls, and the number of
every character that would not be seen on its own.
-/

namespace Rehearsal

/-- The number of a character in braces, in small hexadecimal digits. -/
def numberedEscape (c : Char) : String :=
  "\\u\x7b" ++ .ofList (Nat.toDigits 16 c.toNat) ++ "\x7d"

/-- Whether a character is written as itself: it is a space, or it is shown and does not
change the one before it. -/
def isWrittenPlain (c : Char) : Bool :=
  c == ' ' ||
    (Unicode.shown.contains c && !Unicode.extendingMarks.contains c &&
      !Unicode.defaultIgnorable.contains c)

/-- How one character is written between quotes. -/
def quotedChar (c : Char) : String :=
  match c with
  | '\x00' => "\\0"
  | '\t' => "\\t"
  | '\r' => "\\r"
  | '\n' => "\\n"
  | '"' => "\\\""
  | '\\' => "\\\\"
  | c => if isWrittenPlain c then c.toString else numberedEscape c

/-- The text in quotes. -/
def quoted (text : String) : String :=
  "\"" ++ .join (text.toList.map quotedChar) ++ "\""

/-- The items in brackets with commas between them. -/
def bracketed (items : List String) : String := "[" ++ ", ".intercalate items ++ "]"

/-- The description of an optional value. -/
def describedOption : Option String → String
  | none => "None"
  | some text => "Some(" ++ text ++ ")"

end Rehearsal
