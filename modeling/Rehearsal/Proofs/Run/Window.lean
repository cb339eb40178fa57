import Mathlib.Algebra.BigOperators.Group.List.Basic
import Rehearsal.Run.Window

/-!
# Windows of workers under every schedule

What no schedule changes: the results come out in the order of the workers, each worker writes
exactly its own entries and in their order, and the entries of all workers are written once. A
window does not get stuck before all workers are through, and every move brings it closer to that,
so that every schedule ends and every one that goes on while it can takes all workers through.
-/

namespace Rehearsal.Window

variable {ε ρ : Type} {limit : Nat} {w w' : Window ε ρ}

/-! ## Moves -/

/-- What a move does to a window, and what is written by it. -/
inductive Makes (limit : Nat) : Window ε ρ → Move → Window ε ρ → List (Nat × ε) → Prop
  | start {next waiting active collected} : active.length < limit →
      Makes limit ⟨next :: waiting, active, collected⟩ .start
        ⟨waiting, active ++ [next], collected⟩ []
  | advance {entry entries result waiting front back collected} :
      Makes limit ⟨waiting, front ++ ⟨entry :: entries, result⟩ :: back, collected⟩
        (.advance front.length) ⟨waiting, front ++ ⟨entries, result⟩ :: back, collected⟩
          [(collected.length + front.length, entry)]
  | collect {result waiting rest collected} :
      Makes limit ⟨waiting, ⟨[], result⟩ :: rest, collected⟩ .collect
        ⟨waiting, rest, collected ++ [result]⟩ []

/-- The moves that can be made are those of `Makes`. -/
theorem makes_of_step? {move : Move} {log : List (Nat × ε)}
    (h : w.step? limit move = some (w', log)) :
    Makes limit w move w' log := by
  obtain ⟨waiting, active, collected⟩ := w
  cases move with
  | start =>
    cases waiting with
    | nil => simp [step?] at h
    | cons next rest =>
      simp only [step?, Option.ite_none_right_eq_some, Option.some.injEq, Prod.mk.injEq] at h
      obtain ⟨hroom, rfl, rfl⟩ := h
      exact .start hroom
  | advance place =>
    simp only [step?] at h
    split at h
    · next entry entries result hplace =>
      obtain ⟨rfl, rfl⟩ := h
      obtain ⟨hlt, hget⟩ := List.getElem?_eq_some_iff.1 hplace
      -- The worker at the place splits the active workers into those before and those behind it.
      have hlength : (active.take place).length = place := List.length_take_of_le (Nat.le_of_lt hlt)
      have hsplit : active = active.take place ++ ⟨entry :: entries, result⟩ ::
          active.drop (place + 1) := by
        rw [← hget, List.cons_getElem_drop_succ, List.take_append_drop]
      have hmove : Makes limit
          ⟨waiting, active.take place ++ ⟨entry :: entries, result⟩ ::
            active.drop (place + 1), collected⟩
          (.advance (active.take place).length)
          ⟨waiting, active.take place ++ ⟨entries, result⟩ :: active.drop (place + 1), collected⟩
          [(collected.length + (active.take place).length, entry)] := .advance
      rw [hlength, ← hsplit] at hmove
      rw [List.set_eq_take_append_cons_drop, if_pos hlt]
      exact hmove
    · cases h
  | collect =>
    simp only [step?] at h
    split at h
    · next result rest =>
      obtain ⟨rfl, rfl⟩ := h
      exact .collect
    · cases h

/-! ## What a move preserves -/

/-- The workers whose results are not collected, in order. -/
def pending (w : Window ε ρ) : List (Worker ε ρ) := w.active ++ w.waiting

/-- The results in order, those that are collected and those that are to come. -/
def results (w : Window ε ρ) : List ρ := w.collected ++ w.pending.map Worker.result

/-- The entries that each worker is still to write, in the order of the workers. -/
def remaining (w : Window ε ρ) : List (List ε) :=
  List.replicate w.collected.length [] ++ w.pending.map Worker.entries

/-- The number of moves that take all workers through: two for each and one for each entry. -/
def movesLeft (w : Window ε ρ) : Nat :=
  2 * w.waiting.length + w.active.length + (w.pending.flatMap Worker.entries).length

/-- The entries of a log that are written by the worker of the given number. -/
def writtenBy (number : Nat) (log : List (Nat × ε)) : List ε :=
  (log.filter fun written => written.1 == number).map Prod.snd

@[simp] theorem writtenBy_nil (number : Nat) : writtenBy number ([] : List (Nat × ε)) = [] := rfl

@[simp] theorem writtenBy_append (number : Nat) (before after : List (Nat × ε)) :
    writtenBy number (before ++ after) = writtenBy number before ++ writtenBy number after := by
  rw [writtenBy, List.filter_append, List.map_append]
  rfl

namespace Makes

variable {move : Move} {log : List (Nat × ε)}

/-- No move changes the results that come out in the end. -/
theorem results_eq (h : Makes limit w move w' log) : w'.results = w.results := by
  cases h <;> simp [results, pending]

/-- A move is one of those that are left. -/
theorem movesLeft_eq (h : Makes limit w move w' log) : w.movesLeft = w'.movesLeft + 1 := by
  cases h <;> simp [movesLeft, pending] <;> omega

/-- Where one list of several loses its first entry, the others stay as they are. -/
theorem getElem?_advance (front back : List (List ε)) (entry : ε) (entries : List ε)
    (number : Nat) :
    (front ++ (entry :: entries) :: back)[number]?.getD [] =
      writtenBy number [(front.length, entry)] ++ (front ++ entries :: back)[number]?.getD [] := by
  rcases Nat.lt_trichotomy number front.length with h | rfl | h
  · rw [List.getElem?_append_left h, List.getElem?_append_left h]
    simp [writtenBy, Nat.ne_of_gt h]
  · simp [writtenBy]
  · obtain ⟨k, rfl⟩ := Nat.exists_eq_add_of_lt h
    rw [List.getElem?_append_right (by omega), List.getElem?_append_right (by omega)]
    have : front.length + k + 1 - front.length = k + 1 := by omega
    simp [writtenBy, this, Nat.ne_of_lt h]

/-- What a worker is to write is what it writes by the move and what it is to write then. -/
theorem remaining_eq (h : Makes limit w move w' log) (number : Nat) :
    w.remaining[number]?.getD [] = writtenBy number log ++ w'.remaining[number]?.getD [] := by
  cases h with
  | start _ => simp [remaining, pending]
  | @advance entry entries result waiting front back collected =>
    have hone := getElem?_advance (List.replicate collected.length [] ++ front.map Worker.entries)
      (back.map Worker.entries ++ waiting.map Worker.entries) entry entries number
    simpa [remaining, pending] using hone
  | collect => simp [remaining, pending, List.replicate_succ']

/-- The entries that are to be written are those that the move writes and those
to be written then. -/
theorem perm (h : Makes limit w move w' log) :
    List.Perm w.remaining.flatten (log.map Prod.snd ++ w'.remaining.flatten) := by
  cases h with
  | start _ => simp [remaining, pending]
  | advance => simp [remaining, pending]
  | collect => simp [remaining, pending]

end Makes

/-! ## Schedules -/

/-- What moves in order do to a window, and what is written by them. -/
inductive MakesAll (limit : Nat) : Window ε ρ → List Move → Window ε ρ → List (Nat × ε) → Prop
  | nil {w : Window ε ρ} : MakesAll limit w [] w []
  | cons {w w₁ w' : Window ε ρ} {move rest before after} : Makes limit w move w₁ before →
      MakesAll limit w₁ rest w' after → MakesAll limit w (move :: rest) w' (before ++ after)

/-- Where moves can be made, the first one can be made and the others after it. -/
theorem exists_of_steps?_cons {move : Move} {rest : List Move} {log : List (Nat × ε)}
    (h : w.steps? limit (move :: rest) = some (w', log)) :
    ∃ w₁ before after, w.step? limit move = some (w₁, before) ∧
      w₁.steps? limit rest = some (w', after) ∧
      before ++ after = log := by
  simp only [steps?, Option.bind_eq_bind, Option.bind_eq_some_iff] at h
  obtain ⟨⟨w₁, before⟩, hfirst, ⟨w₂, after⟩, hrest, heq⟩ := h
  obtain ⟨rfl, rfl⟩ := heq
  exact ⟨w₁, before, after, hfirst, hrest, rfl⟩

/-- The schedules that can be made are those of `MakesAll`. -/
theorem makesAll_of_steps? {schedule : List Move} {log : List (Nat × ε)}
    (h : w.steps? limit schedule = some (w', log)) : MakesAll limit w schedule w' log := by
  induction schedule generalizing w log with
  | nil =>
    obtain ⟨rfl, rfl⟩ := h
    exact .nil
  | cons move rest ih =>
    obtain ⟨w₁, before, after, hfirst, hrest, rfl⟩ := exists_of_steps?_cons h
    exact .cons (makes_of_step? hfirst) (ih hrest)

/-- Moves can be made one after the other if the first ones can and then the others. -/
theorem steps?_append {schedule more : List Move} {log : List (Nat × ε)}
    (h : w.steps? limit schedule = some (w', log)) :
    w.steps? limit (schedule ++ more) = (w'.steps? limit more).map fun (w, after) =>
      (w, log ++ after) := by
  induction schedule generalizing w log with
  | nil =>
    obtain ⟨rfl, rfl⟩ := h
    simp
  | cons move rest ih =>
    obtain ⟨w₁, before, after, hfirst, hrest, rfl⟩ := exists_of_steps?_cons h
    simp only [List.cons_append, steps?, hfirst, Option.bind_eq_bind, Option.bind_some, ih hrest]
    cases w'.steps? limit more <;> simp

namespace MakesAll

variable {schedule : List Move} {log : List (Nat × ε)}

theorem results_eq (h : MakesAll limit w schedule w' log) : w'.results = w.results := by
  induction h with
  | nil => rfl
  | cons hfirst _ ih => rw [ih, hfirst.results_eq]

theorem movesLeft_eq (h : MakesAll limit w schedule w' log) :
    w.movesLeft = w'.movesLeft + schedule.length := by
  induction h with
  | nil => rfl
  | cons hfirst _ ih =>
    rw [hfirst.movesLeft_eq, ih, List.length_cons]
    omega

theorem remaining_eq (h : MakesAll limit w schedule w' log) (number : Nat) :
    w.remaining[number]?.getD [] = writtenBy number log ++ w'.remaining[number]?.getD [] := by
  induction h with
  | nil => rfl
  | cons hfirst _ ih => rw [hfirst.remaining_eq, ih, writtenBy_append, List.append_assoc]

theorem perm (h : MakesAll limit w schedule w' log) :
    List.Perm w.remaining.flatten (log.map Prod.snd ++ w'.remaining.flatten) := by
  induction h with
  | nil => exact .refl _
  | cons hfirst _ ih =>
    rw [List.map_append, List.append_assoc]
    exact hfirst.perm.trans (ih.append_left _)

end MakesAll

/-! ## The end -/

/-- Unless all workers are through, a move can be made. -/
theorem exists_move (hlimit : 0 < limit) (h : w.isDone = false) :
    ∃ move w' log, w.step? limit move = some (w', log) := by
  obtain ⟨waiting, active, collected⟩ := w
  match active, waiting with
  | ⟨[], result⟩ :: rest, waiting => exact ⟨.collect, _, _, rfl⟩
  | ⟨entry :: entries, result⟩ :: rest, waiting => exact ⟨.advance 0, _, _, rfl⟩
  | [], next :: rest => exact ⟨.start, _, _, if_pos hlimit⟩
  | [], [] => simp [isDone] at h

/-- Where no move can be made, all workers are through. -/
theorem isDone_of_stuck (hlimit : 0 < limit) (hstuck : ∀ move, w.step? limit move = none) :
    w.isDone = true := by
  cases hdone : w.isDone with
  | true => rfl
  | false =>
    obtain ⟨move, w', log, hmove⟩ := exists_move hlimit hdone
    rw [hstuck move] at hmove
    cases hmove

/-- When all workers are through, no move can be made. -/
theorem step?_of_isDone (h : w.isDone = true) (move : Move) : w.step? limit move = none := by
  obtain ⟨waiting, active, collected⟩ := w
  simp only [isDone, Bool.and_eq_true, List.isEmpty_iff] at h
  obtain ⟨rfl, rfl⟩ := h
  cases move <;> rfl

/-- The schedule can be made, and no move can be made after it. -/
def Exhausts (limit : Nat) (workers : List (Worker ε ρ)) (schedule : List Move) : Prop :=
  ∃ w log, steps? limit { waiting := workers } schedule = some (w, log) ∧
    ∀ move, w.step? limit move = none

/-- The schedule can be made. -/
def Allows (limit : Nat) (workers : List (Worker ε ρ)) (schedule : List Move) : Prop :=
  ∃ w log, steps? limit { waiting := workers } schedule = some (w, log)

variable {workers : List (Worker ε ρ)} {schedule : List Move}

/-- Run in turn, the workers are taken through. -/
theorem inTurn_exhausts (hlimit : 0 < limit) (workers : List (Worker ε ρ)) :
    Exhausts limit workers (inTurn workers) :=
  ⟨_, _, steps?_inTurn hlimit workers [], step?_of_isDone rfl⟩

/-- A schedule that can be made is not longer than all workers need. -/
theorem Allows.length_le (h : Allows limit workers schedule) :
    schedule.length ≤ 2 * workers.length + (workers.flatMap Worker.entries).length := by
  obtain ⟨w, log, hsteps⟩ := h
  have := (makesAll_of_steps? hsteps).movesLeft_eq
  simp only [movesLeft, pending, List.length_nil, List.nil_append, Nat.add_zero] at this
  omega

/-- From each window moves can be made until no more can. -/
theorem exists_steps?_stuck (hlimit : 0 < limit) (w : Window ε ρ) :
    ∃ schedule w' log, w.steps? limit schedule = some (w', log) ∧
      ∀ move, w'.step? limit move = none := by
  -- Each move is one of finitely many that are left.
  induction hn : w.movesLeft generalizing w with
  | zero =>
    refine ⟨[], w, [], rfl, fun move => ?_⟩
    cases hmove : w.step? limit move with
    | none => rfl
    | some made => have := (makes_of_step? hmove).movesLeft_eq; omega
  | succ n ih =>
    cases hdone : w.isDone with
    | true => exact ⟨[], w, [], rfl, step?_of_isDone hdone⟩
    | false =>
      obtain ⟨move, w₁, before, hmove⟩ := exists_move hlimit hdone
      have hleft : w₁.movesLeft = n := by
        have := (makes_of_step? hmove).movesLeft_eq
        omega
      obtain ⟨schedule, w', after, hsteps, hstuck⟩ := ih w₁ hleft
      exact ⟨move :: schedule, w', before ++ after, by simp [steps?, hmove, hsteps], hstuck⟩

/-- Every schedule that can be made can be continued until no move can be made. -/
theorem Allows.exists_exhausts (hlimit : 0 < limit) (h : Allows limit workers schedule) :
    ∃ more, Exhausts limit workers (schedule ++ more) := by
  obtain ⟨w, log, hsteps⟩ := h
  obtain ⟨more, w', after, hmore, hstuck⟩ := exists_steps?_stuck hlimit w
  exact ⟨more, w', log ++ after, by rw [steps?_append hsteps, hmore]; rfl, hstuck⟩

/-- A schedule after which no move can be made takes all workers through: the results are those of
the workers in order, each worker has written its entries in order, and nothing else is written. -/
theorem Exhausts.arrange? (hlimit : 0 < limit) (h : Exhausts limit workers schedule) :
    ∃ log, Window.arrange? limit workers schedule = some (workers.map Worker.result, log) ∧
      (∀ number, writtenBy number log = (workers.map Worker.entries)[number]?.getD []) ∧
      List.Perm (workers.flatMap Worker.entries) (log.map Prod.snd) := by
  obtain ⟨w, log, hsteps, hstuck⟩ := h
  have hdone : w.isDone = true := isDone_of_stuck hlimit hstuck
  have hmade := makesAll_of_steps? hsteps
  obtain ⟨waiting, active, collected⟩ := w
  obtain ⟨rfl, rfl⟩ : waiting = [] ∧ active = [] := by simpa [isDone] using hdone
  have hresults := hmade.results_eq
  have hperm := hmade.perm
  simp only [results, remaining, pending, List.append_nil, List.nil_append, List.map_nil,
    List.length_nil, List.replicate_zero, List.flatten_replicate_nil,
      ← List.flatMap_def] at hresults hperm
  refine ⟨log, ?_, fun number => ?_, hperm⟩
  · simp [Window.arrange?, hsteps, isDone, hresults]
  · have hremaining := hmade.remaining_eq number
    have hnone : (List.replicate collected.length ([] : List ε))[number]?.getD [] = [] := by
      rw [List.getElem?_replicate]
      split <;> rfl
    simpa [remaining, pending, hnone] using hremaining.symm

end Rehearsal.Window
