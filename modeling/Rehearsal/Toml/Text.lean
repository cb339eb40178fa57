import Rehearsal.Unicode.CharSet

/-!
# Texts in TOML

What separates the parts of a TOML document, and its quoted texts. A line ends with a line feed that
may follow a carriage return; no other control character but the tab may stand in a document.
-/

namespace Rehearsal.Toml

/-- Whether a character is a blank within a line. -/
def isSpace (c : Char) : Bool := c == ' ' || c == '\t'

/-- Whether a character may stand in comments and texts. -/
def isPlain (c : Char) : Bool := c == '\t' || (0x20 ≤ c.toNat && c.toNat != 0x7F)

/-- The text without the blanks it starts with. -/
def skipSpaces (text : List Char) : List Char := text.dropWhile isSpace

/-- The text after the end of a line that it starts with. -/
def newline? : List Char → Option (List Char)
  | '\n' :: rest | '\r' :: '\n' :: rest => some rest
  | _ => none

/-- The text without the comment that it starts with, if it does; the end of the line stays. -/
def skipComment : List Char → List Char
  | '#' :: rest => rest.dropWhile isPlain
  | text => text

/-- The text after the end of the current line, on which only blanks and a comment may follow. -/
def endOfLine? (text : List Char) : Option (List Char) :=
  match skipComment (skipSpaces text) with
  | [] => some []
  | rest => newline? rest

/-- Skips blanks, comments and ends of lines, at most `fuel` of them. -/
def skipLines : (fuel : Nat) → List Char → List Char
  | 0, text => text
  | fuel + 1, text =>
    match newline? (skipComment (skipSpaces text)) with
    | some rest => skipLines fuel rest
    | none => skipComment (skipSpaces text)

/-! ## Quoted texts -/

/-- The value of a hexadecimal digit. -/
def hexDigit? (c : Char) : Option Nat :=
  if c.isDigit then some (c.toNat - '0'.toNat)
  else if 'a' ≤ c ∧ c ≤ 'f' then some (c.toNat - 'a'.toNat + 10)
  else if 'A' ≤ c ∧ c ≤ 'F' then some (c.toNat - 'A'.toNat + 10)
  else none

/-- The character of the given number in hexadecimal digits. -/
def numbered? (digits : List Char) : Option Char := do
  let values ← digits.mapM hexDigit?
  let n := values.foldl (fun n digit => n * 16 + digit) 0
  if n.isValidChar then some (.ofNat n) else none

/-- The character that a letter after a backslash stands for. -/
def escaped? : Char → Option Char
  | 'b' => some '\x08'
  | 't' => some '\t'
  | 'n' => some '\n'
  | 'f' => some '\x0c'
  | 'r' => some '\r'
  | 'e' => some '\x1b'
  | '"' => some '"'
  | '\\' => some '\\'
  | _ => none

/-- Puts a character before a text that was read. -/
def consText (c : Char) (read : Option (List Char × List Char)) : Option (List Char × List Char) :=
  read.map fun (text, rest) => (c :: text, rest)

/-- Reads a text up to its closing quote, and gives what follows it. -/
def basicText : List Char → Option (List Char × List Char)
  | [] => none
  | '"' :: rest => some ([], rest)
  | '\\' :: 'x' :: a :: b :: rest => do consText (← numbered? [a, b]) (basicText rest)
  | '\\' :: 'u' :: a :: b :: c :: d :: rest => do
    consText (← numbered? [a, b, c, d]) (basicText rest)
  | '\\' :: 'U' :: a :: b :: c :: d :: e :: f :: g :: h :: rest => do
    consText (← numbered? [a, b, c, d, e, f, g, h]) (basicText rest)
  | '\\' :: letter :: rest => do consText (← escaped? letter) (basicText rest)
  | c :: rest => if isPlain c then consText c (basicText rest) else none

/-- Reads a text without escapes up to its closing quote. -/
def literalText : List Char → Option (List Char × List Char)
  | [] => none
  | '\'' :: rest => some ([], rest)
  | c :: rest => if isPlain c then consText c (literalText rest) else none

/-- Whether only blanks follow on the line. -/
def isLineEnd (text : List Char) : Bool := (newline? (skipSpaces text)).isSome

/-- Reads a text over several lines up to its three closing quotes; one or two quotes may stand
before them. Ends of lines stay as they are. After a backslash at the end of a line, blanks and ends
of lines are left out, as long as `skipping`. -/
def basicLines (skipping : Bool) : List Char → Option (List Char × List Char)
  | [] => none
  | '"' :: '"' :: '"' :: '"' :: '"' :: rest => some (['"', '"'], rest)
  | '"' :: '"' :: '"' :: '"' :: rest => some (['"'], rest)
  | '"' :: '"' :: '"' :: rest => some ([], rest)
  | '\r' :: '\n' :: rest =>
    if skipping then basicLines true rest
    else consText '\r' (consText '\n' (basicLines false rest))
  | '\\' :: 'x' :: a :: b :: rest => do consText (← numbered? [a, b]) (basicLines false rest)
  | '\\' :: 'u' :: a :: b :: c :: d :: rest => do
    consText (← numbered? [a, b, c, d]) (basicLines false rest)
  | '\\' :: 'U' :: a :: b :: c :: d :: e :: f :: g :: h :: rest => do
    consText (← numbered? [a, b, c, d, e, f, g, h]) (basicLines false rest)
  | '\\' :: letter :: rest =>
    if isLineEnd (letter :: rest) then basicLines true (letter :: rest)
    else do consText (← escaped? letter) (basicLines false rest)
  | c :: rest =>
    if skipping && (isSpace c || c == '\n') then basicLines true rest
    else if isPlain c || c == '\n' then consText c (basicLines false rest)
    else none

/-- Reads a text over several lines without escapes up to its three closing quotes. -/
def literalLines : List Char → Option (List Char × List Char)
  | [] => none
  | '\'' :: '\'' :: '\'' :: '\'' :: '\'' :: rest => some (['\'', '\''], rest)
  | '\'' :: '\'' :: '\'' :: '\'' :: rest => some (['\''], rest)
  | '\'' :: '\'' :: '\'' :: rest => some ([], rest)
  | '\r' :: '\n' :: rest => consText '\r' (consText '\n' (literalLines rest))
  | c :: rest => if isPlain c || c == '\n' then consText c (literalLines rest) else none

/-- The text without the end of a line that it starts with, if it does. -/
def skipFirstNewline (text : List Char) : List Char := (newline? text).getD text

/-- Reads the quoted text that a text starts with, and gives what follows it. -/
def quotedText : List Char → Option (List Char × List Char)
  | '"' :: '"' :: '"' :: rest => basicLines false (skipFirstNewline rest)
  | '"' :: rest => basicText rest
  | '\'' :: '\'' :: '\'' :: rest => literalLines (skipFirstNewline rest)
  | '\'' :: rest => literalText rest
  | _ => none

/-! ## Keys -/

/-- Whether a character may stand in a key without quotes. -/
def isBareKey (c : Char) : Bool := c.isAlphanum || c == '_' || c == '-'

/-- Reads one part of a key. -/
def keyPart (text : List Char) : Option (String × List Char) :=
  match text with
  | '"' :: rest => (basicText rest).map fun (part, rest) => (.ofList part, rest)
  | '\'' :: rest => (literalText rest).map fun (part, rest) => (.ofList part, rest)
  | _ =>
    let part := text.takeWhile isBareKey
    if part.isEmpty then none else some (.ofList part, text.dropWhile isBareKey)

/-- Reads a key of at most `fuel` parts with points between them. -/
def key : (fuel : Nat) → List Char → Option (List String × List Char)
  | 0, _ => none
  | fuel + 1, text => do
    let (part, rest) ← keyPart (skipSpaces text)
    match skipSpaces rest with
    | '.' :: rest =>
      let (parts, rest) ← key fuel rest
      some (part :: parts, rest)
    | rest => some ([part], rest)

end Rehearsal.Toml
