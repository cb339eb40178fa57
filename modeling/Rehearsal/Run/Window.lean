/-!
# Windows of workers

Workers are started in order and their results are collected in order, with at most so many
between the two at any time. In between they write their entries independently of each other,
so the entries of different workers may be mixed in many ways, while the results come out in
the order of the workers.
-/

namespace Rehearsal

/-- A worker: the entries that it writes from start to end, and its result. -/
structure Worker (ε ρ : Type) where
  /-- The entries. -/
  entries : List ε
  /-- The result. -/
  result : ρ

/-- Workers on their way. -/
structure Window (ε ρ : Type) where
  /-- The workers that are still to be started. -/
  waiting : List (Worker ε ρ)
  /-- The workers that are started but not collected, with the entries that they
  are still to write. -/
  active : List (Worker ε ρ) := []
  /-- The results that are collected. -/
  collected : List ρ := []

/-- What can happen next. -/
inductive Move
  /-- The next worker is started. -/
  | start
  /-- The active worker at the given place writes its next entry. -/
  | advance (place : Nat)
  /-- The result of the first active worker is collected. -/
  | collect
  deriving DecidableEq, Repr

namespace Window

variable {ε ρ : Type}

/-- The window after a move, and the entry, if one is written, with the number of the worker that
writes it; nothing for a move that cannot be made. A worker can only be started while fewer than
`limit` are active, and its result only be collected when it has written all its entries. -/
def step? (limit : Nat) (w : Window ε ρ) : Move → Option (Window ε ρ × List (Nat × ε))
  | .start =>
    match w.waiting with
    | [] => none
    | next :: rest =>
      if w.active.length < limit then some
        ({ w with waiting := rest, active := w.active ++ [next] }, [])
      else none
  | .advance place =>
    match w.active[place]? with
    | some ⟨entry :: entries, result⟩ =>
      some ({ w with active := w.active.set place ⟨entries, result⟩ },
        [(w.collected.length + place, entry)])
    | _ => none
  | .collect =>
    match w.active with
    | ⟨[], result⟩ :: rest =>
      some ({ w with active := rest, collected := w.collected ++ [result] }, [])
    | _ => none

/-- The window and the entries written after moves in order. -/
def steps? (limit : Nat) (w : Window ε ρ) : List Move → Option (Window ε ρ × List (Nat × ε))
  | [] => some (w, [])
  | move :: rest => do
    let (w, before) ← w.step? limit move
    let (w, after) ← w.steps? limit rest
    return (w, before ++ after)

/-- Whether all results are collected. -/
def isDone (w : Window ε ρ) : Bool := w.waiting.isEmpty && w.active.isEmpty

/-- The moves that run the workers one after the other. -/
def inTurn (workers : List (Worker ε ρ)) : List Move :=
  workers.flatMap fun w => .start :: (List.replicate w.entries.length (.advance 0) ++ [.collect])

/-- The entries of workers that follow each other, the first of which has the given number. -/
def numbered (first : Nat) (workers : List (Worker ε ρ)) : List (Nat × ε) :=
  (workers.zipIdx first).flatMap fun (w, number) => w.entries.map fun entry => (number, entry)

/-- The results of workers, in order, and the entries as they come when the moves of a schedule are
made; nothing unless the schedule takes all workers through. -/
def arrange? (limit : Nat) (workers : List (Worker ε ρ)) (schedule : List Move) :
    Option (List ρ × List (Nat × ε)) :=
  match steps? limit { waiting := workers } schedule with
  | some (w, entries) => if w.isDone then some (w.collected, entries) else none
  | none => none

/-- Without their numbers the entries are those of the workers. -/
@[simp] theorem map_snd_numbered (first : Nat) (workers : List (Worker ε ρ)) :
    (numbered first workers).map Prod.snd = workers.flatMap Worker.entries := by
  induction workers generalizing first with
  | nil => rfl
  | cons w rest ih =>
    simp only [numbered, List.zipIdx_cons, List.flatMap_cons, List.map_append, List.map_map,
      Function.comp_def, List.map_id'] at ih ⊢
    rw [ih]

/-- One worker goes through in turn, whatever is collected already. -/
theorem steps?_advance_all (limit : Nat) (waiting rest : List (Worker ε ρ)) (entries : List ε)
    (result : ρ) (collected : List ρ) (moves : List Move) :
    steps? limit ⟨waiting, ⟨entries, result⟩ :: rest, collected⟩
        (List.replicate entries.length (.advance 0) ++ moves) =
      (steps? limit ⟨waiting, ⟨[], result⟩ :: rest, collected⟩ moves).map fun (w, after) =>
        (w, entries.map (fun entry => (collected.length, entry)) ++ after) := by
  induction entries with
  | nil => simp
  | cons entry entries ih =>
    simp only [List.length_cons, List.replicate_succ, List.cons_append, steps?, step?]
    simp only [List.getElem?_cons_zero, List.set_cons_zero, Option.bind_eq_bind,
      Option.bind_some, ih]
    cases steps? limit ⟨waiting, ⟨[], result⟩ :: rest, collected⟩ moves <;> rfl

/-- Run in turn, the workers all go through, and their entries follow each other. -/
theorem steps?_inTurn {limit : Nat} (h : 0 < limit) (workers : List (Worker ε ρ))
    (collected : List ρ) :
    steps? limit ⟨workers, [], collected⟩ (inTurn workers) =
      some (⟨[], [], collected ++ workers.map Worker.result⟩,
        numbered collected.length workers) := by
  induction workers generalizing collected with
  | nil => simp [inTurn, steps?, numbered]
  | cons w rest ih =>
    obtain ⟨entries, result⟩ := w
    simp only [inTurn, List.flatMap_cons, List.cons_append, List.append_assoc, steps?, step?]
    simp only [List.length_nil, h, if_true, List.nil_append, Option.bind_eq_bind, Option.bind_some]
    rw [steps?_advance_all]
    simp only [steps?, step?, Option.bind_eq_bind, Option.bind_some, List.nil_append]
    have := ih (collected ++ [result])
    simp only [inTurn] at this
    simp [this, numbered]

/-- Run in turn, the workers give their results in order, and their entries follow each other. -/
theorem arrange?_inTurn {limit : Nat} (h : 0 < limit) (workers : List (Worker ε ρ)) :
    arrange? limit workers (inTurn workers) =
      some (workers.map Worker.result, numbered 0 workers) := by
  simp [arrange?, steps?_inTurn h, isDone]

end Window

end Rehearsal
