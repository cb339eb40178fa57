import Rehearsal.Regex.Expr

/-!
# Programs for matching

An expression is compiled to a list of instructions that name what comes next by its place.
Compilation goes from back to front: the code of an expression is laid out once what
follows it has a place.
-/

namespace Rehearsal.Regex

/-- One instruction of a program. -/
inductive Instruction
  /-- The whole expression has matched. -/
  | accept
  /-- Take one character of the set, then go on at `next`. -/
  | consume (s : CharSet) (next : Nat)
  /-- Go on at `first`, and at `second` if that fails. -/
  | split (first second : Nat)
  /-- Record the position in `slot`, then go on at `next`. -/
  | mark (slot next : Nat)
  /-- Go on at `next` if the assertion holds. -/
  | check (a : Assertion) (next : Nat)
  deriving Repr, Inhabited

/-- The instructions laid out so far. -/
abbrev Code := Array Instruction

/-- Lays out a choice that goes on at `body` or at `next`, in the order that the greed asks for. -/
def choose (greedy : Bool) (body next : Nat) : Instruction :=
  if greedy then .split body next else .split next body

/-- Lays out `n` copies of some code one before the other; the last goes on at `next`. -/
def layCopies (lay : Nat → Code → Nat × Code) : Nat → Nat → Code → Nat × Code
  | 0, next, code => (next, code)
  | n + 1, next, code =>
    let (entry, code) := lay next code
    layCopies lay n entry code

/-- Lays out up to `n` further turns of some code, each of which may be the last. -/
def layOptional (lay : Nat → Code → Nat × Code) (greedy : Bool) (next : Nat) :
    Nat → Nat → Code → Nat × Code
  | 0, entry, code => (entry, code)
  | n + 1, entry, code =>
    let (body, code) := lay entry code
    layOptional lay greedy next n code.size (code.push (choose greedy body next))

/-- Lays out one turn of some code or more. -/
def layPlus (lay : Nat → Code → Nat × Code) (greedy : Bool) (next : Nat)
    (code : Code) : Nat × Code :=
  let place := code.size
  let (body, code) := lay place (code.push .accept)
  (body, code.setIfInBounds place (choose greedy body next))

/-- Lays out the code of an expression that goes on at `next`, and tells where it starts. A loop
whose body can match the empty text is laid out as an optional loop of one turn or more, so that a
turn that takes nothing leaves the loop. -/
def Expr.lay : Expr → Nat → Code → Nat × Code
  | .empty, next, code => (next, code)
  | .set s _, next, code => (code.size, code.push (.consume s next))
  | .assert a, next, code => (code.size, code.push (.check a next))
  | .cat e f, next, code =>
    let (middle, code) := f.lay next code
    e.lay middle code
  | .alt e f, next, code =>
    let (second, code) := f.lay next code
    let (first, code) := e.lay next code
    (code.size, code.push (.split first second))
  | .group index e, next, code =>
    let (body, code) := e.lay code.size (code.push (.mark (2 * index + 1) next))
    (code.size, code.push (.mark (2 * index) body))
  | .loop e min max greedy, next, code =>
    match max with
    | some max =>
      let (entry, code) := layOptional e.lay greedy next (max - min) next code
      layCopies e.lay min entry code
    | none =>
      match min with
      | 0 =>
        if e.canBeEmpty then
          let (body, code) := layPlus e.lay greedy next code
          (code.size, code.push (choose greedy body next))
        else
          let place := code.size
          let (body, code) := e.lay place (code.push .accept)
          (place, code.setIfInBounds place (choose greedy body next))
      | min + 1 =>
        let (entry, code) := layPlus e.lay greedy next code
        layCopies e.lay min entry code

/-- A program with the place of its first instruction and the number of its groups. -/
structure Program where
  /-- The instructions. -/
  code : Code
  /-- Where the program starts. -/
  entry : Nat
  /-- The number of groups. -/
  groups : Nat
  deriving Inhabited

/-- The program that matches an expression. -/
def Expr.program (e : Expr) : Program :=
  let (entry, code) := e.lay 0 #[.accept]
  ⟨code, entry, e.groupCount⟩

end Rehearsal.Regex
