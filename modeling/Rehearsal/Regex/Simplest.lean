import Rehearsal.Regex.Expr

/-!
# Simplest forms

Expressions put one after the other or side by side are written in their simplest form: nothing is
nested that need not be, alternatives that are all characters or all classes are one class, and what
all alternatives start with is written once, before them. The last of these decides which of two
matches is preferred: the common start is settled before any alternative is tried. A set written for
ASCII characters alone is no common start with one written for all characters.
-/

namespace Rehearsal.Regex.Expr

/-- The expressions one after the other. -/
def concatenation (es : List Expr) : Expr := sequence (es.flatMap factors)

/-- The elements of a concatenation; characters side by side are one element, a word. -/
def elements (e : Expr) : List Expr :=
  (e.factors.splitBy fun x y => x.isCharacter && y.isCharacter).map sequence

/-- The elements that both lists start with. -/
def commonStart : List Expr → List Expr → List Expr
  | x :: xs, y :: ys => if x = y then x :: commonStart xs ys else []
  | _, _ => []

/-- The elements that all alternatives start with, none if one of them has but one element. -/
def sharedStart : List (List Expr) → List Expr
  | [] => []
  | parts :: rest =>
    if (parts :: rest).any (·.length < 2) then [] else rest.foldl commonStart parts

/-- The set that the alternatives make up if all are single characters or all are other sets. -/
def mergedSet? (es : List Expr) : Option CharSet :=
  let sets := es.filterMap fun
    | .set s _ => some s
    | _ => none
  if sets.length = es.length && (sets.all CharSet.isSingleton || !sets.any CharSet.isSingleton) then
    some (.unions sets)
  else none

/-- The alternatives in simplest form, where common starts are written once up to `fuel` times. -/
def alternationWithin (fuel : Nat) (es : List Expr) : Expr :=
  let es := es.flatMap branches
  match mergedSet? es with
  | some s => .set s false
  | none =>
    match fuel with
    | 0 => choice es
    | fuel + 1 =>
      let parts := es.map elements
      let start := sharedStart parts
      if start.isEmpty then choice es
      else
        let rests := parts.map fun p => concatenation (p.drop start.length)
        concatenation (start ++ [alternationWithin fuel rests])

/-- The expressions as alternatives, the first preferred. Each common start takes an element off the
first alternative, so there are no more of them than the alternative has parts. -/
def alternation : List Expr → Expr
  | [e] => e
  | es => alternationWithin ((es.map size).headD 0) es

end Rehearsal.Regex.Expr
