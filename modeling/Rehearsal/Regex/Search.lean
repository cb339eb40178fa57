import Std.Data.HashSet
import Rehearsal.Regex.Program

/-!
# Searching a text

A program is searched depth first: the first alternative is followed to its end before the second is
tried. A place of the program is visited at most once at each position of the text, since what
follows depends on nothing else; this bounds the work and ends loops that take nothing.
-/

namespace Rehearsal.Regex

/-- The positions recorded so far, by slot. -/
abbrev Slots := Array (Option Nat)

/-- The pairs of a place and a position that were visited. -/
abbrev Visited := Std.HashSet (Nat × Nat)

/-- The character before a position. -/
def charBefore (text : Array Char) (position : Nat) : Option Char :=
  match position with
  | 0 => none
  | p + 1 => text[p]?

/-- Follows the program from a place and a position. The result is what was recorded when the
program accepted, if it did, and the pairs visited. The fuel bounds the length of a path. -/
def follow (code : Code) (text : Array Char) :
    Nat → Nat → Nat → Slots → Visited → Option (Slots × Nat) × Visited
  | 0, _, _, _, visited => (none, visited)
  | fuel + 1, place, position, slots, visited =>
    if visited.contains (place, position) then (none, visited)
    else
      let visited := visited.insert (place, position)
      match code.getD place .accept with
      | .accept => (some (slots, position), visited)
      | .consume s next =>
        match text[position]? with
        | some c =>
          if s.contains c then follow code text fuel next (position + 1) slots visited
          else (none, visited)
        | none => (none, visited)
      | .split first second =>
        match follow code text fuel first position slots visited with
        | (some found, visited) => (some found, visited)
        | (none, visited) => follow code text fuel second position slots visited
      | .mark slot next =>
        follow code text fuel next position (slots.setIfInBounds slot (some position)) visited
      | .check a next =>
        if a.holds (charBefore text position) text[position]? then
          follow code text fuel next position slots visited
        else (none, visited)

/-- A match: where it starts and ends, and what each slot recorded. -/
structure Match where
  /-- Where the match starts. -/
  start : Nat
  /-- Where the match ends. -/
  stop : Nat
  /-- The recorded positions. -/
  slots : Slots
  deriving DecidableEq, Repr

/-- Looks for a match that starts at one of the next `count` positions from `start` on. -/
def Program.searchFrom (p : Program) (text : Array Char) (fuel : Nat) :
    Nat → Nat → Visited → Option Match
  | 0, _, _ => none
  | count + 1, start, visited =>
    match follow p.code text fuel p.entry start
      (Array.replicate (2 * p.groups + 2) none) visited with
    | (some (slots, stop), _) => some ⟨start, stop, slots⟩
    | (none, visited) => p.searchFrom text fuel count (start + 1) visited

/-- The leftmost match of a program in a text, and of those that start there the preferred one. -/
def Program.search (p : Program) (text : Array Char) : Option Match :=
  let positions := text.size + 1
  p.searchFrom text (p.code.size * positions + 1) positions 0 ∅

/-- The text between two recorded positions, empty if they were not recorded. -/
def between (text : Array Char) (start stop : Option Nat) : String :=
  match start, stop with
  | some a, some b => .ofList (text.extract a b).toList
  | _, _ => ""

/-- What each group of a match recorded, in order of the groups. A group that took no part
recorded the empty text. -/
def Match.captures (m : Match) (text : Array Char) (groups : Nat) : List String :=
  (List.range groups).map fun i =>
    between text ((m.slots[2 * (i + 1)]?).getD none) ((m.slots[2 * (i + 1) + 1]?).getD none)

end Rehearsal.Regex
