import Rehearsal.Regex.Parser
import Rehearsal.Regex.Search

/-!
# Sets of regular expressions

Many expressions can be matched against a text at once. What makes a set of expressions and how it
goes through a text is left open here; a set tells which of its expressions match, by their places.
-/

namespace Rehearsal.Regex

/-- A way of matching many expressions at once. -/
structure SetMatcher where
  /-- Sets of expressions, made ready for matching. -/
  Prepared : Type
  /-- Makes the set of the expressions of a list, as they are written, or says why there is none. -/
  prepare : List String → Except String Prepared
  /-- The places of the expressions of the set that match a text. -/
  places : Prepared → String → List Nat

/-- Matches the expressions of a set one after the other. -/
def SetMatcher.oneByOne : SetMatcher where
  Prepared := List Program
  prepare texts := (texts.mapM fun text => (parse text.toList).map Expr.program).mapError
    fun _ => "<regex>"
  places programs text :=
    (List.range programs.length).filter fun place =>
      programs[place]?.any fun program => (program.search text.toList.toArray).isSome

end Rehearsal.Regex
