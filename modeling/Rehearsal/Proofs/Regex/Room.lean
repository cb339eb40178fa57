import Mathlib.Algebra.GroupWithZero.Nat
import Mathlib.Data.List.SplitBy
import Rehearsal.Regex.Footprint

/-!
# Room enough

An upper bound on the room that an expression without alternatives takes. The tables that make equal
states once only ever save room, so the bound does without them: each state that may be made is
counted. An expression whose bound is within the limit is not refused.
-/

namespace Rehearsal.Regex

open Unicode (ByteSequence)

variable {α β γ : Type} {m n : Nat}

/-! ## Steps -/

/-- The step takes at most `n` bytes, and ends nothing where there is so much room. -/
def TakesAtMost (t : Taking α) (n : Nat) : Prop :=
  ∀ p : Footprint, p.bytes + n ≤ Footprint.limit → ∃ a q, t p = some (a, q) ∧ q.bytes ≤ p.bytes + n

namespace TakesAtMost

theorem pure (a : α) : TakesAtMost (Pure.pure a) 0 := fun p _ => ⟨a, p, rfl, Nat.le_refl _⟩

theorem mono {t : Taking α} (h : TakesAtMost t m) (hle : m ≤ n) : TakesAtMost t n := by
  intro p hp
  obtain ⟨a, q, heq, hq⟩ := h p (by omega)
  exact ⟨a, q, heq, by omega⟩

theorem bind {t : Taking α} {f : α → Taking β} (h : TakesAtMost t m)
    (hf : ∀ a, TakesAtMost (f a) n) :
    TakesAtMost (t >>= f) (m + n) := by
  intro p hp
  obtain ⟨a, q, heq, hq⟩ := h p (by omega)
  obtain ⟨b, r, heq', hr⟩ := hf a q (by omega)
  refine ⟨b, r, ?_, by omega⟩
  change (t p >>= fun x => f x.1 x.2) = _
  rw [heq]
  exact heq'

theorem take (states arrows branches : Nat) :
    TakesAtMost (take states arrows branches) (32 * states + 8 * arrows + 4 * branches) := by
  intro p hp
  refine ⟨(), ⟨p.states + states, p.bytes + 32 * states + 8 * arrows + 4 * branches⟩,
    if_pos (by omega), ?_⟩
  dsimp only
  omega

theorem get : TakesAtMost (get : Taking Footprint) 0 := fun p _ => ⟨p, p, rfl, Nat.le_refl _⟩

theorem newState (arrows : Nat) : TakesAtMost (newState arrows) (32 + 8 * arrows) :=
  (get.bind fun _ => (take 1 arrows 0).bind fun _ => pure _).mono (by omega)

end TakesAtMost

/-- The step takes at most `n` bytes whatever the table remembers. -/
def TabledAtMost (t : StateT StateTable Taking α) (n : Nat) : Prop :=
  ∀ table, TakesAtMost (t.run table) n

namespace TabledAtMost

theorem pure (a : α) : TabledAtMost (Pure.pure a) 0 := fun _ => .pure _

theorem get : TabledAtMost get 0 := fun _ => .pure _

theorem set (table : StateTable) : TabledAtMost (set table) 0 := fun _ => .pure _

theorem lift {t : Taking α} (h : TakesAtMost t n) : TabledAtMost (liftM t) n :=
  fun table => h.bind fun a => .pure (a, table)

theorem mono {t : StateT StateTable Taking α} (h : TabledAtMost t m) (hle : m ≤ n) :
    TabledAtMost t n :=
  fun table => (h table).mono hle

theorem bind {t : StateT StateTable Taking α} {f : α → StateT StateTable Taking β}
    (h : TabledAtMost t m) (hf : ∀ a, TabledAtMost (f a) n) : TabledAtMost (t >>= f) (m + n) :=
  fun table => (h table).bind fun made => hf made.1 made.2

theorem forM {f : α → StateT StateTable Taking PUnit} {cost : α → Nat} {l : List α}
    (h : ∀ a ∈ l, TabledAtMost (f a) (cost a)) : TabledAtMost (l.forM f) (l.map cost).sum := by
  induction l with
  | nil => exact pure _
  | cons a l ih =>
    obtain ⟨ha, hl⟩ := List.forall_mem_cons.1 h
    rw [List.map_cons, List.sum_cons]
    exact ha.bind fun _ => ih hl

/-- Steps over a list, and what goes on with as many results. -/
theorem mapM_bind {f : α → StateT StateTable Taking β} {g : List β → StateT StateTable Taking γ}
    (cost : α → Nat) {l : List α} (h : ∀ a ∈ l, TabledAtMost (f a) (cost a))
    (hg : ∀ results, results.length = l.length → TabledAtMost (g results) n) :
    TabledAtMost (l.mapM f >>= g) ((l.map cost).sum + n) := by
  induction l generalizing g with
  | nil =>
    rw [List.mapM_nil, pure_bind, List.map_nil, List.sum_nil, Nat.zero_add]
    exact hg [] rfl
  | cons a l ih =>
    obtain ⟨ha, hl⟩ := List.forall_mem_cons.1 h
    simp only [List.mapM_cons, bind_assoc, pure_bind]
    rw [List.map_cons, List.sum_cons, Nat.add_assoc]
    exact ha.bind fun b => ih hl fun results hlength => hg (b :: results) (congrArg (· + 1) hlength)

end TabledAtMost

/-! ## Sets of characters -/

theorem stateHolding_tabled (places : UInt64) (numbers : List Nat) (arrows : Nat) :
    TabledAtMost (stateHolding places numbers arrows) (32 + 8 * arrows) := by
  rw [stateHolding]
  refine (TabledAtMost.get.bind fun table => ?_).mono (Nat.le_of_eq (Nat.zero_add _))
  have hnew : ∀ u : PUnit.{1}, TabledAtMost ((fun _ => do
      let state ← newState arrows
      set (table.insert (fingerprint numbers % places) (numbers, state))
      return state) u) (32 + 8 * arrows) := fun _ =>
    ((TabledAtMost.lift (.newState arrows)).bind fun _ => (TabledAtMost.set _).bind fun _ =>
      .pure _).mono (by omega)
  dsimp only
  split
  · split
    · exact (TabledAtMost.pure _).mono (by omega)
    · exact hnew ⟨⟩
  · exact hnew ⟨⟩

theorem takeBackwards_tabled (state : Nat) (sequence : ByteSequence) :
    TabledAtMost (takeBackwards state sequence) (32 * sequence.length) := by
  induction sequence generalizing state with
  | nil => exact .pure _
  | cons bounds rest ih =>
    obtain ⟨first, last⟩ := bounds
    rw [takeBackwards, List.length_cons]
    exact ((stateHolding_tabled 1000 _ 0).bind fun made => ih made).mono (by omega)

/-- What grows with the lengths of parts, and by a fixed amount for each, is
bounded by the whole. -/
theorem sum_cost_le {l : List (List α)} (factor fixed : Nat) (h : ∀ part ∈ l, part ≠ []) :
    (l.map fun part => factor * part.length + fixed).sum ≤ (factor + fixed) * l.flatten.length ∧
      l.length ≤ l.flatten.length := by
  induction l with
  | nil => exact ⟨Nat.zero_le _, Nat.le_refl _⟩
  | cons part l ih =>
    obtain ⟨hpart, hl⟩ := List.forall_mem_cons.1 h
    obtain ⟨hsum, hlength⟩ := ih hl
    have hpos := List.length_pos_iff.2 hpart
    have hfixed := Nat.le_mul_of_pos_right fixed hpos
    simp only [List.map_cons, List.sum_cons, List.flatten_cons, List.length_append,
      List.length_cons, Nat.add_mul, Nat.mul_add] at hsum ⊢
    omega

theorem takeTree_tabled (target length : Nat) (sequences : List ByteSequence) :
    TabledAtMost (takeTree target length sequences) (40 * length * sequences.length + 32) := by
  induction length generalizing sequences with
  | zero => exact (TabledAtMost.pure _).mono (by omega)
  | succ length ih =>
    rw [takeTree]
    let groups := sequences.splitBy fun s t => s.head? == t.head?
    have hflatten : groups.flatten = sequences := List.flatten_splitBy _ _
    have hnonempty : ∀ alike ∈ groups, alike ≠ [] := fun alike h => List.ne_nil_of_mem_splitBy h
    obtain ⟨hsum, hlength⟩ := sum_cost_le (40 * length) 32 hnonempty
    rw [hflatten] at hsum hlength
    refine (TabledAtMost.mapM_bind (fun alike => 40 * length * alike.length + 32)
      (n := 32 + 8 * groups.length) (fun alike _ => ?_) fun arrows harrows => ?_).mono ?_
    · have htree := ih (alike.map List.tail)
      rw [List.length_map] at htree
      dsimp only
      split
      · exact ((TabledAtMost.pure _).bind fun _ => .pure _).mono (by omega)
      · exact htree.bind fun _ => .pure _
    · rw [← harrows]
      exact stateHolding_tabled _ _ _
    · change (groups.map _).sum + _ ≤ _
      simp only [Nat.mul_add, Nat.add_mul, Nat.mul_one] at hsum ⊢
      omega

/-- Room enough for a set of characters. -/
def setRoom (s : CharSet) : Nat :=
  let sequences := s.ranges.flatMap fun r => Unicode.byteSequences r.1 r.2
  128 + 8 * s.ranges.length + 160 * sequences.length +
    (sequences.map fun sequence : ByteSequence => 32 * sequence.length + 4).sum

theorem takeRanges_takes (backward : Bool) (s : CharSet) :
    TakesAtMost (takeSet.takeRanges backward s.ranges) (setRoom s) := by
  rw [takeSet.takeRanges, setRoom]
  split
  · exact (TakesAtMost.take _ _ _).mono (by omega)
  generalize s.ranges.flatMap (fun r => Unicode.byteSequences r.1 r.2) = sequences
  dsimp only
  split
  · have hsequences : ∀ stop, TabledAtMost
        (sequences.forM fun sequence => do
          let _ ← takeBackwards stop sequence
          take 0 0 1)
        (sequences.map fun sequence : ByteSequence => 32 * sequence.length + 4).sum :=
      fun stop => .forM fun sequence _ => (takeBackwards_tabled stop sequence).bind fun _ =>
        TabledAtMost.lift (.take 0 0 1)
    refine ((TakesAtMost.take 1 0 0).bind fun _ => (TakesAtMost.newState 0).bind fun stop =>
      (hsequences stop ∅).bind fun _ => .pure _).mono ?_
    omega
  · refine ((TakesAtMost.newState 0).bind fun target =>
      (takeTree_tabled target 4 sequences ∅).bind fun _ => .pure _).mono ?_
    omega

theorem takeSet_takes (backward : Bool) (s : CharSet) :
    TakesAtMost (takeSet backward s) (setRoom s) := by
  have hbytes : ∀ code, Unicode.byteCount code ≤ 4 := by
    intro code
    rw [Unicode.byteCount]
    split
    · decide
    · split
      · decide
      · split <;> decide
  have hall := takeRanges_takes backward s
  rw [takeSet]
  split
  · next a b hranges =>
    rw [hranges] at hall
    split
    · have := hbytes a
      exact (TakesAtMost.take _ _ _).mono (by rw [setRoom]; omega)
    · exact hall
  · exact hall

/-! ## Expressions -/

theorem takeCopies_takes {body : Taking Unit} (h : TakesAtMost body n) (count : Nat) :
    TakesAtMost (takeCopies body count) (count * n) := by
  induction count with
  | zero => exact (TakesAtMost.pure _).mono (by omega)
  | succ count ih => exact (h.bind fun _ => ih).mono (by rw [Nat.add_mul]; omega)

/-- Room enough for the turns of a repetition of something that takes at most `n` bytes. -/
def loopRoom (n min : Nat) (max : Option Nat) : Nat := (min + max.getD 0 + 1) * (n + 112)

theorem takeLoop_takes {body : Taking Unit} (h : TakesAtMost body n) (never : Bool) (min : Nat)
    (max : Option Nat) :
    TakesAtMost (takeLoop body never min max) (loopRoom n min max) := by
  cases max with
  | none =>
    cases min with
    | zero =>
      rw [takeLoop]
      split
      · exact ((TakesAtMost.take 1 0 0).bind fun _ => h.bind fun _ => .take 0 0 2).mono
          (by simp [loopRoom]; omega)
      · exact (h.bind fun _ => .take 3 0 4).mono (by simp [loopRoom])
    | succ min =>
      exact ((takeCopies_takes h (min + 1)).bind fun _ => .take 1 0 2).mono (by
        simp only [loopRoom, Option.getD_none, Nat.add_mul, Nat.mul_add]
        omega)
  | some max =>
    have hturns : TakesAtMost (takeCopies (do take 1 0 0; body; take 0 0 2) (max - min))
        ((max - min) * (n + 40)) :=
      (takeCopies_takes ((TakesAtMost.take 1 0 0).bind fun _ => h.bind fun _ => .take 0 0 2) _).mono
        (by exact Nat.mul_le_mul_left _ (by omega))
    have hmax : (max - min) * (n + 40) ≤ max * (n + 40) :=
      Nat.mul_le_mul_right _ (Nat.sub_le max min)
    rw [takeLoop]
    split
    · exact ((TakesAtMost.take 1 0 0).bind fun _ => h.bind fun _ => .take 1 0 2).mono (by
        simp only [loopRoom, Option.getD_some, Nat.add_mul, Nat.mul_add]
        omega)
    · have hfirst : TakesAtMost (if min = 0 then take 1 0 0 else takeCopies body min)
          (32 + min * n) := by
        split
        · exact (TakesAtMost.take 1 0 0).mono (by omega)
        · exact (takeCopies_takes h min).mono (by omega)
      have hrest : TakesAtMost (if min < max then do
          take 1 0 0
          takeCopies (do take 1 0 0; body; take 0 0 2) (max - min)
        else Pure.pure ()) (32 + max * (n + 40)) := by
        split
        · exact ((TakesAtMost.take 1 0 0).bind fun _ => hturns).mono (by omega)
        · exact (TakesAtMost.pure _).mono (by omega)
      have hboth := (hfirst.bind fun _ => hrest).mono (n := loopRoom n min (some max)) (by
        simp only [loopRoom, Option.getD_some, Nat.add_mul, Nat.mul_add]
        omega)
      dsimp only
      split
      · next hmin =>
        rw [if_pos hmin] at hboth
        exact hboth
      · next hmin =>
        rw [if_neg hmin] at hboth
        exact hboth

namespace Expr

/-- Whether there are no alternatives in the expression. -/
def linear : Expr → Bool
  | .empty | .set _ _ | .assert _ => true
  | .cat e f => e.linear && f.linear
  | .alt _ _ => false
  | .group _ e | .loop e _ _ _ => e.linear

/-- Room enough for an expression without alternatives. -/
def room : Expr → Nat
  | .empty | .assert _ | .alt _ _ => 32
  | .set s _ => setRoom s
  | .cat e f => e.room + f.room
  | .group _ e => e.room + 64
  | .loop e min max _ => loopRoom e.room min max

theorem takeRoom_takes (e : Expr) (he : e.linear = true) (backward : Bool) :
    TakesAtMost (e.takeRoom backward 0) e.room := by
  have hbranch : ∀ {body : Taking Unit} {n : Nat}, TakesAtMost body n →
      TakesAtMost (takeBranch 0 body) n :=
    fun h => h.bind fun _ => .pure ()
  induction e with
  | empty => exact hbranch (.take 1 0 0)
  | set s ascii => exact hbranch (takeSet_takes backward s)
  | assert a => exact hbranch (.take 1 0 0)
  | alt e f => cases he
  | cat e f ihe ihf =>
    obtain ⟨he, hf⟩ := Bool.and_eq_true_iff.1 he
    refine hbranch ?_
    split
    · exact ((ihf hf).bind fun _ => ihe he).mono (Nat.le_of_eq (Nat.add_comm _ _))
    · exact (ihe he).bind fun _ => ihf hf
  | group index e ih =>
    refine hbranch ?_
    split
    · exact (ih he).mono (Nat.le_add_right _ _)
    · exact ((TakesAtMost.take 1 0 0).bind fun _ => (ih he).bind fun _ => .take 1 0 0).mono
        (by rw [room]; omega)
  | loop e min max greedy ih => exact hbranch (takeLoop_takes (ih he) _ min max)

/-- An expression without alternatives fits if there is room enough for it. -/
theorem fits_of_room {e : Expr} (he : e.linear = true) (hroom : e.room + 208 ≤ Footprint.limit) :
    e.fits = true := by
  have hwhole : ∀ backward, ((e.takeWhole backward).run {}).isSome = true := by
    intro backward
    have hrest : TakesAtMost (do (group 0 e).takeRoom backward 0; take 1 0 0) (e.room + 96) :=
      ((takeRoom_takes (group 0 e) he backward).bind fun _ => .take 1 0 0).mono (by rw [room])
    have hall : TakesAtMost (e.takeWhole backward) (e.room + 208) := by
      rw [takeWhole]
      dsimp only
      generalize (if backward then e.endsWith .textEnd else e.startsWith .textStart) = anchored
      cases anchored
      · exact ((TakesAtMost.take 3 1 2).bind fun _ => hrest).mono (by omega)
      · exact ((TakesAtMost.take 1 0 0).bind fun _ => hrest).mono (by omega)
    obtain ⟨a, q, hrun, -⟩ := hall {} (by simpa using hroom)
    exact Option.isSome_iff_exists.2 ⟨_, hrun⟩
  rw [fits, hwhole, hwhole]
  rfl

end Expr

end Rehearsal.Regex
