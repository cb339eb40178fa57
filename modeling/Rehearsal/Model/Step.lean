import Rehearsal.Model.Table
import Rehearsal.Tag.Set

/-!
# Steps and scenarios

A scenario is a named list of steps with tags. A step has a keyword, which only matters
to readers, the text that definitions are matched against, and possibly a table or a
longer text as its argument.
-/

namespace Rehearsal

/-- The word that a step starts with. -/
inductive Keyword
  | given | when | then | and | but | star
  deriving DecidableEq, Repr, Inhabited

namespace Keyword

/-- All keywords. -/
def all : List Keyword := [.given, .when, .then, .and, .but, .star]

/-- The keyword as features write it. -/
def name : Keyword → String
  | .given => "given"
  | .when => "when"
  | .then => "then"
  | .and => "and"
  | .but => "but"
  | .star => "star"

/-- The keyword as readers see it. -/
def display : Keyword → String
  | .given => "Given"
  | .when => "When"
  | .then => "Then"
  | .and => "And"
  | .but => "But"
  | .star => "*"

/-- The keyword of the given name. -/
def named? (name : String) : Option Keyword := all.find? fun k => k.name == name

/-- The description of a keyword. -/
def describe : Keyword → String
  | .given => "Given"
  | .when => "When"
  | .then => "Then"
  | .and => "And"
  | .but => "But"
  | .star => "Star"

end Keyword

/-- What a step carries below its text. -/
inductive StepArgument
  /-- A table. -/
  | table (t : Table)
  /-- A text. -/
  | text (s : String)
  deriving DecidableEq, Repr

/-- A step. -/
structure Step where
  /-- The word that the step starts with. -/
  keyword : Keyword
  /-- What the step says. -/
  text : String
  /-- The table or text below it. -/
  argument : Option StepArgument := none
  deriving DecidableEq, Repr, Inhabited

/-- A scenario. -/
structure Scenario where
  /-- The name. -/
  name : String
  /-- The tags. -/
  tags : TagSet := .empty
  /-- The steps, in order. -/
  steps : List Step
  deriving DecidableEq, Inhabited

end Rehearsal
