import Rehearsal.Unicode.Property

/-!
# Regular expressions

The expressions that a pattern is matched by: sets of characters, assertions about a position,
sequences, alternatives in order of preference, numbered groups and repetitions. All flags of the
written form are resolved here, so an expression means the same wherever it stands.
-/

namespace Rehearsal.Regex

/-- A condition on the characters before and after a position. -/
inductive Assertion
  /-- The position is where the text starts. -/
  | textStart
  /-- The position is where the text ends. -/
  | textEnd
  /-- A line starts here; with `crlf`, carriage returns end lines too. -/
  | lineStart (crlf : Bool)
  /-- A line ends here; with `crlf`, carriage returns end lines too. -/
  | lineEnd (crlf : Bool)
  /-- A word starts or ends here. -/
  | boundary (unicode : Bool)
  /-- No word starts or ends here. -/
  | noBoundary (unicode : Bool)
  /-- A word starts here. -/
  | wordStart (unicode : Bool)
  /-- A word ends here. -/
  | wordEnd (unicode : Bool)
  /-- No word character comes before. -/
  | noWordBefore (unicode : Bool)
  /-- No word character comes after. -/
  | noWordAfter (unicode : Bool)
  deriving DecidableEq, Repr

/-- The characters of words in ASCII. -/
def asciiWordCharacters : CharSet :=
  .ofRuns [(0x30, 0x39, 1), (0x41, 0x5A, 1), (0x5F, 0x5F, 1), (0x61, 0x7A, 1)]

/-- Whether the character, if there is one, belongs to a word. -/
def inWord (unicode : Bool) : Option Char → Bool
  | none => false
  | some c => (if unicode then Unicode.wordCharacters else asciiWordCharacters).contains c

/-- Whether the assertion holds between the characters `before` and `after`. -/
def Assertion.holds (before after : Option Char) : Assertion → Bool
  | .textStart => before.isNone
  | .textEnd => after.isNone
  | .lineStart false => before.isNone || before == some '\n'
  | .lineEnd false => after.isNone || after == some '\n'
  | .lineStart true =>
    before.isNone || before == some '\n' || (before == some '\r' && after != some '\n')
  | .lineEnd true =>
    after.isNone || after == some '\r' || (after == some '\n' && before != some '\r')
  | .boundary u => inWord u before != inWord u after
  | .noBoundary u => inWord u before == inWord u after
  | .wordStart u => !inWord u before && inWord u after
  | .wordEnd u => inWord u before && !inWord u after
  | .noWordBefore u => !inWord u before
  | .noWordAfter u => !inWord u after

/-- A regular expression. -/
inductive Expr
  /-- Matches the empty text. -/
  | empty
  /-- Matches one character of a set, `ascii` if the set was written for ASCII characters alone. -/
  | set (s : CharSet) (ascii : Bool)
  /-- Matches the empty text where the assertion holds. -/
  | assert (a : Assertion)
  /-- Matches `e` and then `f`. -/
  | cat (e f : Expr)
  /-- Matches `e` or, failing that, `f`. -/
  | alt (e f : Expr)
  /-- Matches `e` and records what it matched under `index`. -/
  | group (index : Nat) (e : Expr)
  /-- Matches `e` at least `min` and at most `max` times, as often as possible when `greedy`. -/
  | loop (e : Expr) (min : Nat) (max : Option Nat) (greedy : Bool)
  deriving DecidableEq, Repr, Inhabited

namespace Expr

/-- The expressions one after the other. -/
def sequence : List Expr → Expr
  | [] => .empty
  | [e] => e
  | e :: rest => .cat e (sequence rest)

/-- The expressions as alternatives, the first preferred. -/
def choice : List Expr → Expr
  | [] => .set .empty false
  | [e] => e
  | e :: rest => .alt e (choice rest)

/-- Whether the expression can match the empty text. -/
def canBeEmpty : Expr → Bool
  | .empty => true
  | .set _ _ => false
  | .assert _ => true
  | .cat e f => e.canBeEmpty && f.canBeEmpty
  | .alt e f => e.canBeEmpty || f.canBeEmpty
  | .group _ e => e.canBeEmpty
  | .loop e min _ _ => min == 0 || e.canBeEmpty

/-- Whether the expression can match nothing but the empty text. -/
def onlyEmpty : Expr → Bool
  | .empty => true
  | .set _ _ => false
  | .assert _ => true
  | .cat e f => e.onlyEmpty && f.onlyEmpty
  | .alt e f => e.onlyEmpty && f.onlyEmpty
  | .group _ e => e.onlyEmpty
  | .loop e _ _ _ => e.onlyEmpty

/-- The repetition of `e`: no turn at all leaves nothing of `e`, exactly one turn is `e` itself, and
matching the empty text more than once changes nothing. -/
def repeated (e : Expr) (min : Nat) (max : Option Nat) (greedy : Bool) : Expr :=
  let (min, max) :=
    if e.onlyEmpty then (Nat.min min 1, some ((max.map (Nat.min 1)).getD 1)) else (min, max)
  if max == some 0 then .empty
  else if min == 1 && max == some 1 then e
  else .loop e min max greedy

/-- The highest group number, zero if there is no group. -/
def groupCount : Expr → Nat
  | .empty | .set _ _ | .assert _ => 0
  | .cat e f | .alt e f => Nat.max e.groupCount f.groupCount
  | .group index e => Nat.max index e.groupCount
  | .loop e _ _ _ => e.groupCount

/-- Whether every match starts by checking the assertion. -/
def startsWith (a : Assertion) : Expr → Bool
  | .empty | .set _ _ => false
  | .assert b => a == b
  | .cat e f => e.startsWith a || (e.onlyEmpty && f.startsWith a)
  | .alt e f => e.startsWith a && f.startsWith a
  | .group _ e => e.startsWith a
  | .loop e min _ _ => 0 < min && e.startsWith a

/-- Whether every match ends by checking the assertion. -/
def endsWith (a : Assertion) : Expr → Bool
  | .empty | .set _ _ => false
  | .assert b => a == b
  | .cat e f => f.endsWith a || (f.onlyEmpty && e.endsWith a)
  | .alt e f => e.endsWith a && f.endsWith a
  | .group _ e => e.endsWith a
  | .loop e min _ _ => 0 < min && e.endsWith a

/-- Whether there is a set without members in the expression. -/
def hasEmptySet : Expr → Bool
  | .empty | .assert _ => false
  | .set s _ => s.isEmpty
  | .cat e f | .alt e f => e.hasEmptySet || f.hasEmptySet
  | .group _ e => e.hasEmptySet
  | .loop e _ _ _ => e.hasEmptySet

/-- What a concatenation consists of; nothing for the empty expression. -/
def factors : Expr → List Expr
  | .empty => []
  | .cat e f => e.factors ++ f.factors
  | e => [e]

/-- What an expression is a choice of. -/
def branches : Expr → List Expr
  | .alt e f => e.branches ++ f.branches
  | e => [e]

/-- Whether the expression matches one fixed character. -/
def isCharacter : Expr → Bool
  | .set s _ => s.isSingleton
  | _ => false

/-- The number of operators and sets in the expression. -/
def size : Expr → Nat
  | .empty | .set _ _ | .assert _ => 1
  | .cat e f | .alt e f => e.size + f.size + 1
  | .group _ e | .loop e _ _ _ => e.size + 1

end Expr

end Rehearsal.Regex
