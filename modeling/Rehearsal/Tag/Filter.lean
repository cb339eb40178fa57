import Rehearsal.Tag.Set

/-!
# Tag filters

A tag filter is a conjunction of groups, and a group a disjunction of tags that may be negated. In
the written form `&&` joins groups, a comma joins the terms of a group, and a tilde negates a term.
-/

namespace Rehearsal

/-- Why a text is not a tag filter. -/
inductive TagFilterError
  /-- The expression is blank. -/
  | blank
  /-- A term has no tag. -/
  | emptyTerm (expression : String)
  /-- A tag has a character that tags in filters do not have. -/
  | invalidTag (expression tag : String)
  deriving DecidableEq, Repr

/-- The wording of an error. -/
def TagFilterError.message : TagFilterError → String
  | .blank => "tag filter expression is empty"
  | .emptyTerm expression => "empty term in tag filter '" ++ expression ++ "'"
  | .invalidTag expression tag =>
    "invalid tag '" ++ tag ++ "' in tag filter '" ++ expression ++ "'"

/-- A tag that must be there, or must not. -/
structure TagTerm where
  /-- The tag. -/
  tag : String
  /-- Whether the tag must not be there. -/
  negated : Bool
  deriving DecidableEq, Repr

/-- Whether the term holds for a set of tags. -/
def TagTerm.holds (term : TagTerm) (tags : TagSet) : Bool := tags.contains term.tag != term.negated

/-- A condition on sets of tags. -/
structure TagFilter where
  /-- The expression as written, without blanks around it. -/
  source : String
  /-- The groups, each of which must have a term that holds. -/
  groups : List (List TagTerm)
  deriving DecidableEq, Repr

/-- Whether a set of tags meets the filter. -/
def TagFilter.accepts (filter : TagFilter) (tags : TagSet) : Bool :=
  filter.groups.all fun group => group.any fun term => term.holds tags

/-- Adds a character to the first of some texts. -/
def consFirst (c : Char) : List (List Char) → List (List Char)
  | [] => [[c]]
  | part :: parts => (c :: part) :: parts

/-- The parts of a text between doubled ampersands. -/
def splitAtAnd : List Char → List (List Char)
  | [] => [[]]
  | '&' :: '&' :: rest => [] :: splitAtAnd rest
  | c :: rest => consFirst c (splitAtAnd rest)

/-- The parts of a text between commas. -/
def splitAtComma : List Char → List (List Char)
  | [] => [[]]
  | ',' :: rest => [] :: splitAtComma rest
  | c :: rest => consFirst c (splitAtComma rest)

/-- Whether a character may not stand in the tag of a filter. -/
def isForeignToTags (c : Char) : Bool := isBlank c || c == '@' || c == '~' || c == ',' || c == '&'

/-- Reads one term of the filter `expression`. -/
def TagTerm.parse (expression : String) (text : List Char) : Except TagFilterError TagTerm :=
  let (negated, rest) := match trim text with
    | '~' :: rest => (true, trimStart rest)
    | rest => (false, rest)
  let tag := match rest with
    | '@' :: rest => rest
    | rest => rest
  if tag.isEmpty then .error (.emptyTerm expression)
  else if tag.any isForeignToTags then .error (.invalidTag expression (.ofList tag))
  else .ok ⟨.ofList tag, negated⟩

/-- Reads a filter expression. The first bad term decides the error. -/
def TagFilter.parse (text : String) : Except TagFilterError TagFilter :=
  let inner := trim text.toList
  let source : String := .ofList inner
  if inner.isEmpty then .error .blank
  else do
    let groups ← (splitAtAnd inner).mapM fun group =>
      (splitAtComma group).mapM (TagTerm.parse source)
    return ⟨source, groups⟩

end Rehearsal
