import Rehearsal.Regex.Parser

/-!
# Placeholder patterns

A placeholder pattern is literal text with named placeholders in braces. A type hint after the
name narrows what a placeholder captures. Doubled braces and backslashes give literal
characters. The pieces of a pattern have a written form as a regular expression and stand for an
expression of the same meaning.
-/

namespace Rehearsal.Pattern

open Rehearsal.Regex

/-- What a placeholder captures. -/
inductive Hint
  /-- An unsigned integer: decimal digits. -/
  | unsigned
  /-- A signed integer: decimal digits after an optional sign. -/
  | signed
  /-- A number with an optional fraction and exponent, or a name of infinity or of no number. -/
  | decimal
  /-- Any text within a line, as short as possible. -/
  | words
  deriving DecidableEq, Repr

/-- The class that a written type hint stands for. -/
def Hint.ofName : Option String → Hint
  | some "u8" | some "u16" | some "u32" | some "u64" | some "u128" | some "usize" => .unsigned
  | some "i8" | some "i16" | some "i32" | some "i64" | some "i128" | some "isize" => .signed
  | some "f32" | some "f64" => .decimal
  | _ => .words

/-- One piece of a placeholder pattern. -/
inductive Piece
  /-- A character that stands for itself. -/
  | literal (c : Char)
  /-- A placeholder with its name and the type hint as written. -/
  | placeholder (name : String) (hint : Option String)
  deriving DecidableEq, Repr

/-- Why a text is not a placeholder pattern. -/
inductive PlaceholderError
  /-- A placeholder does not start with a name. -/
  | nameMissing
  /-- A closing brace closes nothing. -/
  | braceUnmatched
  /-- The placeholder lacks its closing brace. -/
  | unclosed (name : String)
  /-- The name is followed by something else than a hint or the closing brace. -/
  | badCharacter (name : String)
  /-- The type hint is empty or has a blank in it. -/
  | badHint (name : String)
  deriving DecidableEq, Repr

/-- The wording of an error. -/
def PlaceholderError.message : PlaceholderError → String
  | .nameMissing =>
    "placeholder name must start with a letter or '_'; use '\x7b\x7b' for a literal brace"
  | .braceUnmatched => "unmatched '\x7d'; use '\x7d\x7d' for a literal brace"
  | .unclosed name => "missing closing '\x7d' for placeholder '" ++ name ++ "'"
  | .badCharacter name => "invalid character in placeholder '" ++ name ++ "'"
  | .badHint name => "invalid type hint for placeholder '" ++ name ++ "'"

/-! ## Reading -/

/-- Whether `c` may stand in a placeholder name. -/
def isNameCharacter (c : Char) : Bool := c.isAlphanum || c == '_'

/-- Whether `c` may start a placeholder name. -/
def isNameStart (c : Char) : Bool := c.isAlpha || c == '_'

/-- Reads a placeholder after its opening brace. -/
def readPlaceholder (text : List Char) : Except PlaceholderError (Piece × List Char) :=
  let name : String := .ofList (text.takeWhile isNameCharacter)
  if !(text.head?.any isNameStart) then .error .nameMissing
  else
    match text.dropWhile isNameCharacter with
    | [] => .error (.unclosed name)
    | '\x7d' :: rest => .ok (.placeholder name none, rest)
    | ':' :: rest =>
      let hint := rest.takeWhile (· != '\x7d')
      match rest.dropWhile (· != '\x7d') with
      | [] => .error (.unclosed name)
      | _ :: rest =>
        if hint.isEmpty || hint.any isBlank then .error (.badHint name)
        else .ok (.placeholder name (some (.ofList hint)), rest)
    | _ :: _ => .error (.badCharacter name)

/-- Reads the first piece of a text, if there is one. -/
def readPiece? : List Char → Option (Except PlaceholderError (Piece × List Char))
  | [] => none
  | ['\\'] => some (.ok (.literal '\\', []))
  | '\\' :: c :: rest => some (.ok (.literal c, rest))
  | '\x7b' :: '\x7b' :: rest => some (.ok (.literal '\x7b', rest))
  | '\x7d' :: '\x7d' :: rest => some (.ok (.literal '\x7d', rest))
  | '\x7b' :: rest => some (readPlaceholder rest)
  | '\x7d' :: _ => some (.error .braceUnmatched)
  | c :: rest => some (.ok (.literal c, rest))

/-- Reads up to `fuel` pieces. -/
def readPieces : Nat → List Char → Except PlaceholderError (List Piece)
  | 0, _ => .ok []
  | fuel + 1, text =>
    match readPiece? text with
    | none => .ok []
    | some (.error e) => .error e
    | some (.ok (piece, rest)) => (readPieces fuel rest).map (piece :: ·)

/-- The pieces of a placeholder pattern. Every piece takes a character, so there are no more
pieces than characters. -/
def pieces (text : List Char) : Except PlaceholderError (List Piece) := readPieces text.length text

/-! ## Written as regular expressions -/

/-- The regular expression of a class, as written. -/
def Hint.written : Hint → String
  | .unsigned => "\\d+"
  | .signed => "[+-]?\\d+"
  | .decimal =>
    "(?i:(?:[+-]?(?:\\d+\\.\\d*|\\.\\d+|\\d+)(?:[eE][+-]?\\d+)?|nan|inf|infinity))"
  | .words => ".+?"

/-- The regular expression of a piece, as written: a literal with a backslash where it needs one, a
placeholder as a group. -/
def Piece.written : Piece → String
  | .literal c => if isMeta c then .ofList ['\\', c] else .ofList [c]
  | .placeholder _ hint => "(" ++ (Hint.ofName hint).written ++ ")"

/-- The regular expression of a placeholder pattern, as written and anchored at both ends. -/
def written (pieces : List Piece) : String :=
  "^" ++ .join (pieces.map Piece.written) ++ "$"

/-! ## As expressions -/

/-- One digit of any decimal system. -/
def digitExpr : Expr := .set Unicode.decimalDigits false

/-- One digit or more. -/
def digitsExpr : Expr := digitExpr.repeated 1 none true

/-- An optional sign. -/
def signExpr : Expr :=
  (Expr.set (.ofRuns [(0x2B, 0x2B, 1), (0x2D, 0x2D, 1)]) false).repeated 0 (some 1) true

/-- A word in either case. -/
def wordExpr (word : String) : Expr :=
  .sequence (word.toList.map fun c => .set (Unicode.closeUnderCase (.singleton c)) false)

/-- A decimal number, or the name of infinity or of no number. -/
def decimalExpr : Expr :=
  let point : Expr := .set (.singleton '.') false
  let mantissa : Expr := .choice
    [.sequence [digitsExpr, point, digitExpr.repeated 0 none true],
      .sequence [point, digitsExpr], digitsExpr]
  let exponent : Expr := .sequence
    [.set (Unicode.closeUnderCase (.singleton 'e')) false, signExpr, digitsExpr]
  .choice
    [.sequence [signExpr, mantissa, exponent.repeated 0 (some 1) true],
     wordExpr "nan", wordExpr "inf", wordExpr "infinity"]

/-- The expression of a class. -/
def Hint.expr : Hint → Expr
  | .unsigned => digitsExpr
  | .signed => .sequence [signExpr, digitsExpr]
  | .decimal => decimalExpr
  | .words => (Expr.set (CharSet.singleton '\n').complement false).repeated 1 none false

/-- The expressions of pieces, placeholders being numbered on from `index`. -/
def exprs : Nat → List Piece → List Expr
  | _, [] => []
  | index, .literal c :: rest => .set (.singleton c) false :: exprs index rest
  | index, .placeholder _ hint :: rest =>
    .group (index + 1) (Hint.ofName hint).expr :: exprs (index + 1) rest

/-- The expression of a placeholder pattern, anchored at both ends. -/
def expr (pieces : List Piece) : Expr :=
  .sequence (.assert .textStart :: exprs 0 pieces ++ [.assert .textEnd])

end Rehearsal.Pattern
