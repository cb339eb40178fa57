import Mathlib.Data.List.Basic
import Rehearsal.Regex.Search

/-!
# What an expression matches

The outcomes of an expression from a spot of a text are the spots at which its matches end, the
preferred one first. They are what an exhaustive search would find without regard to programs
and pairs visited. Loops without an upper bound are unrolled as often as characters are left,
which is enough for `productive` expressions: those in which nothing is repeated without bound
that can match the empty text.
-/

namespace Rehearsal.Regex

/-- How far a match has got: a position of the text, and what was recorded on the way there. -/
structure Spot where
  /-- The position. -/
  position : Nat
  /-- The positions recorded so far. -/
  slots : Slots
  deriving DecidableEq, Repr

namespace Spot

/-- The spot with its position recorded. -/
def mark (slot : Nat) (s : Spot) : Spot :=
  { s with slots := s.slots.setIfInBounds slot (some s.position) }

/-- The spot one character further on. -/
def next (s : Spot) : Spot := { s with position := s.position + 1 }

@[simp] theorem position_mark (slot : Nat) (s : Spot) : (s.mark slot).position = s.position := rfl

@[simp] theorem position_next (s : Spot) : s.next.position = s.position + 1 := rfl

@[simp] theorem slots_next (s : Spot) : s.next.slots = s.slots := rfl

end Spot

/-- Exactly `n` turns of what `body` does. -/
def times {α : Type} (body : α → List α) : Nat → α → List α
  | 0, s => [s]
  | n + 1, s => (times body n s).flatMap body

/-- Up to `n` turns of what `body` does: as many as possible first if `greedy`, else
as few as possible. -/
def upTo {α : Type} (body : α → List α) (greedy : Bool) : Nat → α → List α
  | 0, s => [s]
  | n + 1, s =>
    if greedy then (body s).flatMap (upTo body greedy n) ++ [s]
    else s :: (body s).flatMap (upTo body greedy n)

/-- Any number of turns of what `body` does, each of which is to take a character. -/
def unbounded (text : Array Char) (body : Spot → List Spot) (greedy : Bool)
    (s : Spot) : List Spot :=
  upTo body greedy (text.size - s.position) s

namespace Expr

/-- The spots at which the matches of an expression end that start at a spot, in the
order of preference. -/
def outcomes (text : Array Char) : Expr → Spot → List Spot
  | .empty, s => [s]
  | .set chars _, s => if text[s.position]?.any chars.contains then [s.next] else []
  | .assert a, s => if a.holds (charBefore text s.position) text[s.position]? then [s] else []
  | .cat e f, s => (e.outcomes text s).flatMap (f.outcomes text)
  | .alt e f, s => e.outcomes text s ++ f.outcomes text s
  | .group index e, s => (e.outcomes text (s.mark (2 * index))).map (Spot.mark (2 * index + 1))
  | .loop e min max greedy, s =>
    (times (e.outcomes text) min s).flatMap fun t =>
      match max with
      | some max => upTo (e.outcomes text) greedy (max - min) t
      | none => unbounded text (e.outcomes text) greedy t

/-- Whether nothing is repeated without bound that can match the empty text. -/
def productive : Expr → Bool
  | .empty | .set _ _ | .assert _ => true
  | .cat e f | .alt e f => e.productive && f.productive
  | .group _ e => e.productive
  | .loop e _ max _ => e.productive && (max.isSome || !e.canBeEmpty)

end Expr

/-! ## Matches go forward -/

variable {text : Array Char} {s t o : Spot} {body : Spot → List Spot}

/-- The second spot is reached from the first: it does not lie before it, nor after the text
if it lies after it. -/
structure Spot.Reaches (text : Array Char) (s t : Spot) : Prop where
  /-- No match goes backwards. -/
  le : s.position ≤ t.position
  /-- Only characters of the text are taken. -/
  within : s.position < t.position → t.position ≤ text.size

namespace Spot.Reaches

theorem refl (s : Spot) : s.Reaches text s := ⟨Nat.le_refl _, fun h => absurd h (Nat.lt_irrefl _)⟩

theorem trans (h : s.Reaches text t) (h' : t.Reaches text o) : s.Reaches text o := by
  refine ⟨Nat.le_trans h.le h'.le, fun hlt => ?_⟩
  rcases Nat.lt_or_ge t.position o.position with hmore | hsame
  · exact h'.within hmore
  · exact Nat.le_trans hsame (h.within (by omega))

end Spot.Reaches

/-- An optional turn is left out, or other turns follow it. -/
theorem mem_upTo_succ {α : Type} {body : α → List α} {greedy : Bool} {n : Nat} {a b : α} :
    b ∈ upTo body greedy (n + 1) a ↔ b = a ∨ ∃ t ∈ body a, b ∈ upTo body greedy n t := by
  rw [upTo]
  cases greedy <;> simp [or_comm]

section
variable {α : Type} {body : α → List α} {R : α → α → Prop} (hrefl : ∀ a, R a a)
  (htrans : ∀ a b c, R a b → R b c → R a c) (hbody : ∀ a, ∀ b ∈ body a, R a b)
include hrefl htrans hbody

/-- Turns lead where single turns lead. -/
theorem times_related (n : Nat) : ∀ a, ∀ b ∈ times body n a, R a b := by
  induction n with
  | zero =>
    intro a b hb
    obtain rfl := List.mem_singleton.1 hb
    exact hrefl b
  | succ n ih =>
    intro a b hb
    obtain ⟨c, hc, hb⟩ := List.mem_flatMap.1 hb
    exact htrans a c b (ih a c hc) (hbody c b hb)

/-- Optional turns lead where single turns lead. -/
theorem upTo_related (greedy : Bool) (n : Nat) : ∀ a, ∀ b ∈ upTo body greedy n a, R a b := by
  induction n with
  | zero =>
    intro a b hb
    obtain rfl := List.mem_singleton.1 hb
    exact hrefl b
  | succ n ih =>
    intro a b hb
    rcases mem_upTo_succ.1 hb with rfl | ⟨c, hc, hb⟩
    · exact hrefl b
    · exact htrans a c b (hbody a c hc) (ih c b hb)

end

/-- Turns go forward if each turn does. -/
theorem times_reaches (hbody : ∀ s, ∀ o ∈ body s, s.Reaches text o) (n : Nat) :
    ∀ s, ∀ o ∈ times body n s, s.Reaches text o :=
  times_related (fun s => .refl s) (fun _ _ _ h h' => h.trans h') hbody n

/-- Optional turns go forward if each turn does. -/
theorem upTo_reaches (hbody : ∀ s, ∀ o ∈ body s, s.Reaches text o) (greedy : Bool) (n : Nat) :
    ∀ s, ∀ o ∈ upTo body greedy n s, s.Reaches text o :=
  upTo_related (fun s => .refl s) (fun _ _ _ h h' => h.trans h') hbody greedy n

namespace Expr

/-- A sequence with a last member is the first member before the others. -/
theorem sequence_cons_append (e last : Expr) (es : List Expr) :
    sequence (e :: (es ++ [last])) = .cat e (sequence (es ++ [last])) := by
  cases es <;> rfl

/-- The outcome of one character is the spot after it. -/
theorem mem_outcomes_set {chars : CharSet} {ascii : Bool} :
    o ∈ (set chars ascii).outcomes text s ↔
      text[s.position]?.any chars.contains = true ∧ o = s.next := by
  rw [outcomes]
  split
  · next h => simp [h]
  · next h => simp [h]

/-- An assertion takes nothing. -/
theorem mem_outcomes_assert {a : Assertion} :
    o ∈ (assert a).outcomes text s ↔
      a.holds (charBefore text s.position) text[s.position]? = true ∧ o = s := by
  rw [outcomes]
  split
  · next h => simp [h]
  · next h => simp [h]

/-- Matches go forward. -/
theorem outcomes_reaches (e : Expr) : ∀ s, ∀ o ∈ e.outcomes text s, s.Reaches text o := by
  induction e with
  | empty =>
    intro s o ho
    obtain rfl := List.mem_singleton.1 ho
    exact .refl _
  | set chars ascii =>
    intro s o ho
    obtain ⟨hany, rfl⟩ := mem_outcomes_set.1 ho
    obtain ⟨c, hc, -⟩ := (Option.any_eq_true _ _).1 hany
    exact ⟨Nat.le_succ _, fun _ => (Array.getElem?_eq_some_iff.1 hc).1⟩
  | assert a =>
    intro s o ho
    obtain ⟨-, rfl⟩ := mem_outcomes_assert.1 ho
    exact .refl _
  | cat e f ihe ihf =>
    intro s o ho
    obtain ⟨t, ht, ho⟩ := List.mem_flatMap.1 ho
    exact (ihe s t ht).trans (ihf t o ho)
  | alt e f ihe ihf =>
    intro s o ho
    rcases List.mem_append.1 ho with ho | ho
    · exact ihe s o ho
    · exact ihf s o ho
  | group index e ih =>
    intro s o ho
    obtain ⟨t, ht, rfl⟩ := List.mem_map.1 ho
    exact ⟨(ih _ t ht).le, (ih _ t ht).within⟩
  | loop e min max greedy ih =>
    intro s o ho
    obtain ⟨t, ht, ho⟩ := List.mem_flatMap.1 ho
    refine (times_reaches ih min s t ht).trans ?_
    cases max with
    | some max => exact upTo_reaches ih greedy _ t o ho
    | none => exact upTo_reaches ih greedy _ t o ho

/-- Matches take a character unless the expression can match the empty text. -/
theorem outcomes_lt (e : Expr) (he : e.canBeEmpty = false) :
    ∀ s, ∀ o ∈ e.outcomes text s, s.position < o.position := by
  induction e with
  | empty => cases he
  | assert a => cases he
  | set chars ascii =>
    intro s o ho
    obtain ⟨-, rfl⟩ := mem_outcomes_set.1 ho
    exact Nat.lt_succ_self _
  | cat e f ihe ihf =>
    intro s o ho
    obtain ⟨t, ht, ho⟩ := List.mem_flatMap.1 ho
    rcases Bool.and_eq_false_iff.1 he with he | hf
    · exact Nat.lt_of_lt_of_le (ihe he s t ht) (f.outcomes_reaches t o ho).le
    · exact Nat.lt_of_le_of_lt (e.outcomes_reaches s t ht).le (ihf hf t o ho)
  | alt e f ihe ihf =>
    intro s o ho
    obtain ⟨he, hf⟩ := Bool.or_eq_false_iff.1 he
    rcases List.mem_append.1 ho with ho | ho
    · exact ihe he s o ho
    · exact ihf hf s o ho
  | group index e ih =>
    intro s o ho
    obtain ⟨t, ht, rfl⟩ := List.mem_map.1 ho
    exact ih he (s.mark _) t ht
  | loop e min max greedy ih =>
    intro s o ho
    obtain ⟨hmin, he⟩ := Bool.or_eq_false_iff.1 he
    obtain ⟨t, ht, ho⟩ := List.mem_flatMap.1 ho
    have hrest : t.Reaches text o := by
      cases max with
      | some max => exact upTo_reaches e.outcomes_reaches greedy _ t o ho
      | none => exact upTo_reaches e.outcomes_reaches greedy _ t o ho
    -- There is at least one turn, and the last of those that must be takes a character.
    obtain ⟨n, rfl⟩ : ∃ n, min = n + 1 := Nat.exists_eq_succ_of_ne_zero (by simpa using hmin)
    obtain ⟨u, hu, ht⟩ := List.mem_flatMap.1 ht
    have hfirst := times_reaches e.outcomes_reaches n s u hu
    exact Nat.lt_of_le_of_lt hfirst.le (Nat.lt_of_lt_of_le (ih he u t ht) hrest.le)

end Expr

/-! ## Loops without an upper bound -/

/-- Each turn takes a character of the text. -/
def Advances (text : Array Char) (body : Spot → List Spot) : Prop :=
  ∀ s, ∀ o ∈ body s, s.position < o.position ∧ o.position ≤ text.size

/-- An expression that does not match the empty text takes a character each time. -/
theorem Expr.outcomes_advance (e : Expr) (he : e.canBeEmpty = false) :
    Advances text (e.outcomes text) := by
  intro s o ho
  have hlt := e.outcomes_lt he s o ho
  exact ⟨hlt, (e.outcomes_reaches s o ho).within hlt⟩

/-- Where each turn takes a character, one turn more than there are characters
left changes nothing. -/
theorem upTo_succ_of_le (hbody : Advances text body) (greedy : Bool) {n : Nat}
    (h : text.size - s.position ≤ n) :
    upTo body greedy (n + 1) s = upTo body greedy n s := by
  induction n generalizing s with
  | zero =>
    -- No character is left, so there is no turn.
    have hnone : body s = [] := List.eq_nil_iff_forall_not_mem.2 fun o ho => by
      have := hbody s o ho
      omega
    cases greedy <;> simp [upTo, hnone]
  | succ n ih =>
    have hrest : ∀ o ∈ body s, upTo body greedy (n + 1) o = upTo body greedy n o := by
      intro o ho
      have := hbody s o ho
      exact ih (by omega)
    rw [upTo, upTo, List.flatMap_congr hrest]

/-- Where each turn takes a character, only so many turns matter as there are characters left. -/
theorem upTo_eq_unbounded (hbody : Advances text body) (greedy : Bool) {n : Nat}
    (h : text.size - s.position ≤ n) :
    upTo body greedy n s = unbounded text body greedy s := by
  obtain ⟨more, rfl⟩ := Nat.exists_eq_add_of_le h
  induction more with
  | zero => rfl
  | succ more ih =>
    rw [← Nat.add_assoc, upTo_succ_of_le hbody greedy (by omega)]
    exact ih (by omega)

/-- A loop without an upper bound makes one turn and goes on, or ends. -/
theorem unbounded_eq (hbody : Advances text body) (greedy : Bool) (s : Spot) :
    unbounded text body greedy s =
      if greedy then (body s).flatMap (unbounded text body greedy) ++ [s]
      else s :: (body s).flatMap (unbounded text body greedy) := by
  have hrest : ∀ o ∈ body s, upTo body greedy (text.size - s.position) o =
      unbounded text body greedy o := by
    intro o ho
    have := hbody s o ho
    exact upTo_eq_unbounded hbody greedy (by omega)
  rw [unbounded, ← upTo_succ_of_le hbody greedy (Nat.le_refl _), upTo, List.flatMap_congr hrest]

end Rehearsal.Regex
