import Std.Data.HashMap
import Rehearsal.Regex.Simplest
import Rehearsal.Unicode.ByteSequence

/-!
# The room that an expression takes

An expression is refused if an automaton for it that reads bytes takes too much room, in one of the
two directions in which a text can be read. The states of the automaton are numbered as they are
made and have room for their arrows, which bear a range of bytes, or for their branches, which bear
none. Equal states of one set of characters are made once as long as a small table remembers them.
The states themselves are not kept, only how many there are and what they take.
-/

namespace Rehearsal.Regex

open Unicode (ByteSequence)

/-- The room taken so far. -/
structure Footprint where
  /-- The number of states, which is the number of the next state. -/
  states : Nat := 0
  /-- The room of the states with their arrows and branches, in bytes. -/
  bytes : Nat := 0
  deriving DecidableEq, Repr

/-- The room that an automaton may take, in bytes. -/
def Footprint.limit : Nat := 10 * 1024 * 1024

/-- A step that takes room, and ends everything once there is none left. -/
abbrev Taking := StateT Footprint Option

/-- Takes room for states, arrows and branches. -/
def take (states arrows branches : Nat) : Taking Unit := fun p =>
  let bytes := p.bytes + 32 * states + 8 * arrows + 4 * branches
  if bytes ≤ Footprint.limit then some ((), ⟨p.states + states, bytes⟩) else none

/-- Makes one state and gives its number. -/
def newState (arrows : Nat) : Taking Nat := do
  let p ← get
  take 1 arrows 0
  return p.states

/-- Takes the same room `n` times. -/
def takeCopies (body : Taking Unit) : Nat → Taking Unit
  | 0 => pure ()
  | n + 1 => do
    body
    takeCopies body n

/-! ## Sets of characters -/

/-- A table of states by what they hold, each place of which remembers the last
state it was given. -/
abbrev StateTable := Std.HashMap UInt64 (List Nat × Nat)

/-- The fingerprint of some numbers: each is mixed in by exclusion, then spread by a prime. -/
def fingerprint (numbers : List Nat) : UInt64 :=
  numbers.foldl (fun h n => (h ^^^ n.toUInt64) * 1099511628211) 14695981039346656037

/-- The number of the state that holds the given numbers: the one remembered or, failing that, a new
one, which takes its place among the `places` of the table. -/
def stateHolding (places : UInt64) (numbers : List Nat) (arrows : Nat) :
    StateT StateTable Taking Nat := do
  let table ← get
  let place := fingerprint numbers % places
  match table[place]? with
  | some (held, state) => if held == numbers then return state
  | none => pure ()
  let state ← newState arrows
  set (table.insert place (numbers, state))
  return state

/-- Makes the states that read one of the products of byte ranges and go on at `target`, for
products of at most the given length: products that start alike share the state that reads on. The
result is the number of the first state. -/
def takeTree (target : Nat) : Nat → List ByteSequence → StateT StateTable Taking Nat
  | 0, _ => return target
  | length + 1, sequences => do
    let arrows ← (sequences.splitBy fun s t => s.head? == t.head?).mapM fun alike => do
      let rests := alike.map List.tail
      let next ← if rests.all List.isEmpty then pure target else takeTree target length rests
      let (first, last) := (alike.head?.bind List.head?).getD (0, 0)
      return [first, last, next]
    stateHolding 10000 arrows.flatten arrows.length

/-- Makes the states that read the product of byte ranges from its end, starting after `state`. -/
def takeBackwards (state : Nat) : ByteSequence → StateT StateTable Taking Nat
  | [] => return state
  | (first, last) :: rest => do
    takeBackwards (← stateHolding 1000 [state, first, last] 0) rest

/-- Takes the room of a set of characters. -/
def takeSet (backward : Bool) (s : CharSet) : Taking Unit :=
  match s.ranges with
  | [(a, b)] =>
    if a == b then take (Unicode.byteCount a) 0 0 else takeRanges [(a, b)]
  | ranges => takeRanges ranges
where
  /-- Takes the room of a set that is not a single character. -/
  takeRanges (ranges : List (Nat × Nat)) : Taking Unit := do
    if ranges.all (·.2 < 0x80) then take 2 ranges.length 0
    else
      let sequences := ranges.flatMap fun r => Unicode.byteSequences r.1 r.2
      if backward then
        take 1 0 0
        let stop ← newState 0
        let _ ← (sequences.forM fun s => do
          let _ ← takeBackwards stop s
          take 0 0 1 : StateT StateTable Taking Unit).run ∅
      else
        let target ← newState 0
        let _ ← (takeTree target 4 sequences).run ∅

/-! ## Words -/

/-- The bytes of a fixed character. -/
def Expr.characterBytes? : Expr → Option (List Nat)
  | .set ⟨[(a, b)]⟩ _ => if a == b then some (Unicode.bytesOfCode a) else none
  | _ => none

/-- The bytes of an expression that is a word. -/
def Expr.wordBytes? (e : Expr) : Option (List Nat) :=
  match e.factors with
  | [] => none
  | factors => (factors.mapM characterBytes?).map List.flatten

/-- The parts of a list between empty words. -/
def splitAtEmpty : List (List Nat) → List (List (List Nat))
  | [] => [[]]
  | word :: rest =>
    match splitAtEmpty rest with
    | part :: parts => if word.isEmpty then [] :: part :: parts else (word :: part) :: parts
    | [] => [[word]]

/-- The words in the order of preference, parted where a word ends. Words that end before any other
goes on part the list once. -/
def wordParts (words : List (List Nat)) : List (List (List Nat)) :=
  let others := words.dropWhile List.isEmpty
  if (words.head?.any List.isEmpty) then [] :: splitAtEmpty others else splitAtEmpty others

/-- Takes the room of a choice of words of at most the given length: words of one part that start
alike share what reads their first byte. -/
def takeWords : Nat → List (List Nat) → Taking Unit
  | 0, _ => pure ()
  | length + 1, words => do
    let parts := wordParts words
    parts.forM fun part => do
      let heads := (part.filterMap List.head?).eraseDups
      heads.forM fun byte => do
        let rests := (part.filter (·.head? == some byte)).map List.tail
        if rests.any (!·.isEmpty) then takeWords length rests
      if !heads.isEmpty then take 1 (if heads.length == 1 then 0 else heads.length) 0
    take 1 0 ((parts.filter (!·.isEmpty)).length + (parts.length - 1))

/-- Takes the room of a choice of words. -/
def takeChoice (words : List (List Nat)) : Taking Unit := do
  take 1 0 0
  takeWords ((words.map List.length).foldl Nat.max 0 + 1) words

/-! ## Expressions -/

/-- Takes the room of a repetition of something that takes the room of `body`. A loop without an
upper bound around what is `never` empty needs but one branching. -/
def takeLoop (body : Taking Unit) (never : Bool) (min : Nat) : Option Nat → Taking Unit
  | none =>
    match min with
    | 0 =>
      if never then do
        take 1 0 0
        body
        take 0 0 2
      else do
        body
        take 3 0 4
    | min + 1 => do
      takeCopies body (min + 1)
      take 1 0 2
  | some max => do
    if min = 0 && max = 1 then
      take 1 0 0
      body
      take 1 0 2
    else
      if min = 0 then take 1 0 0 else takeCopies body min
      if min < max then
        take 1 0 0
        takeCopies (do take 1 0 0; body; take 0 0 2) (max - min)

/-- Takes the room of `body` as one alternative after `before` others of the same choice. The
branching is made once there are two. -/
def takeBranch (before : Nat) (body : Taking Unit) : Taking Unit := do
  body
  match before with
  | 0 => pure ()
  | 1 => take 2 0 2
  | _ => take 0 0 1

/-- Takes the room of an expression, as one alternative after `before` others of the same choice. A
choice of words alone is laid out by their bytes. -/
def Expr.takeRoom (backward : Bool) (before : Nat) : Expr → Taking Unit
  | .empty => takeBranch before (take 1 0 0)
  | .set s _ => takeBranch before (takeSet backward s)
  | .assert _ => takeBranch before (take 1 0 0)
  | .cat e f => takeBranch before do
    if backward then
      f.takeRoom backward 0
      e.takeRoom backward 0
    else
      e.takeRoom backward 0
      f.takeRoom backward 0
  | .alt e f =>
    match if before = 0 then (Expr.alt e f).branches.mapM wordBytes? else none with
    | some words => takeChoice (if backward then words.map List.reverse else words)
    | none => do
      takeBranch before (e.takeRoom backward 0)
      f.takeRoom backward (before + 1)
  | .group _ e => takeBranch before do
    if backward then e.takeRoom backward 0
    else
      take 1 0 0
      e.takeRoom backward 0
      take 1 0 0
  | .loop e min max _ =>
    takeBranch before (takeLoop (e.takeRoom backward 0) (!e.canBeEmpty && !e.hasEmptySet) min max)

/-- Takes the room of an automaton for the whole expression. One that may start anywhere
has a loop in front. -/
def Expr.takeWhole (backward : Bool) (e : Expr) : Taking Unit := do
  let anchored := if backward then e.endsWith .textEnd else e.startsWith .textStart
  if anchored then take 1 0 0 else take 3 1 2
  (Expr.group 0 e).takeRoom backward 0
  take 1 0 0

/-- Whether the automata for the expression have enough room. -/
def Expr.fits (e : Expr) : Bool :=
  ((e.takeWhole false).run {}).isSome && ((e.takeWhole true).run {}).isSome

end Rehearsal.Regex
