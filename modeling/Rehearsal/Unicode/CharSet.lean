/-!
# Sets of characters

A set of characters is a list of inclusive ranges of code points in increasing order, with a
gap after each range. Membership is decided by the code point; the set operations are those
of sets of characters.
-/

namespace Rehearsal

/-- A set of characters. -/
structure CharSet where
  /-- Inclusive ranges of code points, in increasing order and apart from each other. -/
  ranges : List (Nat × Nat)
  deriving DecidableEq, Repr, Inhabited

namespace CharSet

/-- The last code point. -/
def lastCode : Nat := 0x10FFFF

/-- Whether `code` lies in the set. -/
def hasCode (s : CharSet) (code : Nat) : Bool :=
  s.ranges.any fun r => r.1 ≤ code && code ≤ r.2

/-- Whether `c` is a member of the set. -/
def contains (s : CharSet) (c : Char) : Bool := s.hasCode c.toNat

/-- The set without members. -/
def empty : CharSet := ⟨[]⟩

/-- The code points from `first` to `last`. -/
def range (first last : Nat) : CharSet := ⟨[(first, last)]⟩

/-- The set whose only member is `c`. -/
def singleton (c : Char) : CharSet := range c.toNat c.toNat

/-- Every character. -/
def all : CharSet := range 0 lastCode

/-- Adds a range to ordered ranges, joining what it touches. -/
def insertRange (first last : Nat) : List (Nat × Nat) → List (Nat × Nat)
  | [] => [(first, last)]
  | (a, b) :: rest =>
    if last + 1 < a then (first, last) :: (a, b) :: rest
    else if b + 1 < first then (a, b) :: insertRange first last rest
    else insertRange (min a first) (max b last) rest

/-- Adds the code points from `first` to `last`. -/
def insert (s : CharSet) (first last : Nat) : CharSet := ⟨insertRange first last s.ranges⟩

/-- Joins the ranges that touch, of ranges ordered by their first code points. -/
def joinTouching : List (Nat × Nat) → List (Nat × Nat)
  | [] => []
  | r :: rest => join r rest
where
  /-- Goes on with the range `r`. -/
  join (r : Nat × Nat) : List (Nat × Nat) → List (Nat × Nat)
    | [] => [r]
    | next :: rest =>
      if next.1 ≤ r.2 + 1 then join (r.1, max r.2 next.2) rest else r :: join next rest

/-- The members of either set. -/
def union (s t : CharSet) : CharSet := ⟨joinTouching (s.ranges.merge t.ranges fun r q => r.1 ≤ q.1)⟩

/-- The members of any of the sets. -/
def unions (sets : List CharSet) : CharSet :=
  ⟨joinTouching ((sets.flatMap ranges).mergeSort fun r q => r.1 ≤ q.1)⟩

/-- The code point of the next character; no character lies among the surrogates. -/
def codeAfter (code : Nat) : Nat := if code = 0xD7FF then 0xE000 else code + 1

/-- The code point of the character before. -/
def codeBefore (code : Nat) : Nat := if code = 0xE000 then 0xD7FF else code - 1

/-- What lies between ordered ranges after one that ends at `code`. Where nothing but surrogates
separates two ranges, the bounds of the gap between them are in reverse. -/
def gapsAfter (code : Nat) : List (Nat × Nat) → List (Nat × Nat)
  | [] => if code < lastCode then [(codeAfter code, lastCode)] else []
  | (a, b) :: rest => (codeAfter code, codeBefore a) :: gapsAfter b rest

/-- What lies before, between and after ordered ranges. -/
def gaps : List (Nat × Nat) → List (Nat × Nat)
  | [] => [(0, lastCode)]
  | (a, b) :: rest => if 0 < a then (0, codeBefore a) :: gapsAfter b rest else gapsAfter b rest

/-- The characters outside the set. A gap with its bounds in reverse counts as the range
between them, so that the complement has the two characters beside the surrogates if the set
has them in two ranges. -/
def complement (s : CharSet) : CharSet := ⟨(gaps s.ranges).map fun g => (min g.1 g.2, max g.1 g.2)⟩

/-- What ordered ranges have in common. -/
def overlaps : List (Nat × Nat) → List (Nat × Nat) → List (Nat × Nat)
  | [], _ => []
  | _, [] => []
  | (a, b) :: s, (c, d) :: t =>
    let rest := if b < d then overlaps s ((c, d) :: t) else overlaps ((a, b) :: s) t
    if max a c ≤ min b d then (max a c, min b d) :: rest else rest
termination_by s t => s.length + t.length

/-- The members of both sets. -/
def inter (s t : CharSet) : CharSet := ⟨overlaps s.ranges t.ranges⟩

/-- The members of `s` outside `t`. -/
def diff (s t : CharSet) : CharSet :=
  ⟨overlaps s.ranges ((gaps t.ranges).filter fun g => g.1 ≤ g.2)⟩

/-- The members of exactly one of the sets. -/
def symmDiff (s t : CharSet) : CharSet := (s.union t).diff (s.inter t)

/-- Whether the set has no member. -/
def isEmpty (s : CharSet) : Bool := s.ranges.isEmpty

/-- Whether the set has exactly one member. -/
def isSingleton (s : CharSet) : Bool :=
  match s.ranges with
  | [(a, b)] => a == b
  | _ => false

/-- The code points `first`, `first + step`, …, up to `last`. -/
def codesOfRun (first last step : Nat) : List Nat :=
  (List.range ((last - first) / step + 1)).map fun i => first + i * step

/-- The set of the code points in `runs`, each given by first code point, last
code point and step. -/
def ofRuns (runs : List (Nat × Nat × Nat)) : CharSet :=
  runs.foldr
    (fun (first, last, step) s =>
      if step = 1 then s.insert first last
      else (codesOfRun first last step).foldr (fun code u => u.insert code code) s)
    empty

end CharSet

end Rehearsal
