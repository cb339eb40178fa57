import Rehearsal.Pattern.Placeholder
import Rehearsal.Regex.Footprint
import Rehearsal.Regex.Search
import Rehearsal.Text.Quoted

/-!
# Patterns

A pattern decides which step texts a definition is for and captures parts of them. A source that
starts with a caret is a regular expression; any other source is literal text with placeholders.
Both match whole texts, with letters in the case written.
-/

namespace Rehearsal

/-- A compiled pattern. -/
structure Pattern where
  /-- The pattern as given. -/
  source : String
  /-- The anchored regular expression that it stands for, as written. -/
  regex : String
  /-- The program that matches it. -/
  program : Regex.Program
  deriving Inhabited

/-- Why a source is not a pattern. -/
inductive PatternError
  /-- The source is no placeholder pattern. -/
  | placeholder (e : Pattern.PlaceholderError)
  /-- The placeholder pattern takes too much room. -/
  | placeholderTooLarge
  /-- The source is no regular expression. -/
  | regex (e : Regex.SyntaxError)
  /-- The regular expression takes too much room. -/
  | regexTooLarge
  deriving DecidableEq, Repr

/-- The wording of an error. All errors in regular expressions are worded alike. -/
def PatternError.message : PatternError → String
  | .placeholder e => e.message
  | .placeholderTooLarge =>
    "Compiled regex exceeds size limit of " ++ toString Regex.Footprint.limit ++ " bytes."
  | .regex _ | .regexTooLarge => "<regex>"

namespace Pattern

/-- The regular expression of a source that is one, anchored at both ends. -/
def anchored (source : String) : String := "^(?:" ++ source ++ ")$"

/-- Compiles a source. -/
def compile (source : String) : Except PatternError Pattern :=
  if source.toList.head? == some '^' then
    match Regex.parse (anchored source).toList with
    | .ok e => if e.fits then .ok ⟨source, anchored source, e.program⟩ else .error .regexTooLarge
    | .error e => .error (.regex e)
  else
    match pieces source.toList with
    | .ok found =>
      if (expr found).fits then .ok ⟨source, written found, (expr found).program⟩
      else .error .placeholderTooLarge
    | .error e => .error (.placeholder e)

/-- The leftmost match of the pattern in a text. -/
def find (p : Pattern) (text : String) : Option Regex.Match := p.program.search text.toList.toArray

/-- Whether the pattern matches the text. -/
def isMatch (p : Pattern) (text : String) : Bool := (p.find text).isSome

/-- What the groups of the pattern capture in the text, in order of the groups; a group that took no
part captures the empty text. -/
def captures (p : Pattern) (text : String) : Option (List String) :=
  (p.find text).map fun m => m.captures text.toList.toArray p.program.groups

/-- The description of a pattern. -/
def describe (p : Pattern) : String := "Pattern(" ++ quoted p.source ++ ")"

end Pattern

end Rehearsal
