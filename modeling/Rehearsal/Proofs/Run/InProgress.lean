import Rehearsal.Proofs.Run.Window

/-!
# Workers in progress

The workers that have been started are the first ones, and of these the first ones have ended; those
between are in progress. No moves ever bring more of them than the limit into progress, so a worker
is started only after all workers that are a whole limit or more before it have ended, however long
they take. Every worker is started once, in order.
-/

namespace Rehearsal.Window

variable {ε ρ : Type} {limit : Nat} {workers : List (Worker ε ρ)} {w w' : Window ε ρ}

/-- How many workers have been started. -/
def started (w : Window ε ρ) : Nat := w.collected.length + w.active.length

/-- The worker of the given number has been started. -/
def HasStarted (w : Window ε ρ) (number : Nat) : Prop := number < w.started

/-- The worker of the given number has ended, and its result is collected. -/
def HasEnded (w : Window ε ρ) (number : Nat) : Prop := number < w.collected.length

instance (w : Window ε ρ) (number : Nat) : Decidable (w.HasEnded number) :=
  inferInstanceAs (Decidable (number < w.collected.length))

/-- The numbers of the workers that have been started and have not ended. -/
def inProgress (w : Window ε ρ) : List Nat :=
  (List.range w.started).filter fun number => ¬ w.HasEnded number

/-- The workers in progress are those that are active. -/
theorem length_inProgress (w : Window ε ρ) : w.inProgress.length = w.active.length := by
  have hended : (List.range w.collected.length).filter (fun number => ¬ w.HasEnded number) = [] :=
    List.filter_eq_nil_iff.2 fun number hnumber => by simpa [HasEnded] using hnumber
  have hactive : ((List.range w.active.length).map (w.collected.length + ·)).filter
      (fun number => ¬ w.HasEnded number) =
        (List.range w.active.length).map (w.collected.length + ·) := by
    refine List.filter_eq_self.2 fun number hnumber => ?_
    obtain ⟨place, -, rfl⟩ := List.mem_map.1 hnumber
    simp [HasEnded]
  rw [inProgress, started, List.range_add, List.filter_append, hended, hactive]
  simp

/-! ## Starts -/

/-- The worker that a move starts, with its number. -/
def startedBy (w : Window ε ρ) : Move → List (Worker ε ρ × Nat)
  | .start => w.waiting.head?.toList.map fun worker => (worker, w.started)
  | _ => []

/-- The workers that moves in order start, with their numbers. -/
def starts (limit : Nat) (w : Window ε ρ) : List Move → List (Worker ε ρ × Nat)
  | [] => []
  | move :: rest =>
    match w.step? limit move with
    | some (next, _) => w.startedBy move ++ next.starts limit rest
    | none => []

namespace Makes

variable {move : Move} {log : List (Nat × ε)}

/-- The worker that a move starts is the first of those that are waiting. -/
theorem startedBy_append (h : Makes limit w move w' log) :
    w.startedBy move ++ w'.waiting.zipIdx w'.started = w.waiting.zipIdx w.started := by
  cases h with
  | start _ => simp [startedBy, started, Nat.add_assoc]
  | advance => simp [startedBy, started]
  | collect => simp [startedBy, started, Nat.add_assoc, Nat.add_comm]

/-- Where a move starts a worker, one worker more has been started. -/
theorem started_eq (h : Makes limit w move w' log) :
    w'.started = w.started + (w.startedBy move).length := by
  cases h <;> simp [startedBy, started] <;> omega

/-- A worker is started only when fewer than the limit are active, and no other move makes
more workers active. -/
theorem length_active_le (h : Makes limit w move w' log) (hle : w.active.length ≤ limit) :
    w'.active.length ≤ limit := by
  cases h with
  | start hroom => simpa using Nat.succ_le_of_lt hroom
  | advance => simpa using hle
  | collect =>
    rw [List.length_cons] at hle
    exact Nat.le_of_succ_le hle

end Makes

/-- The workers that moves start are, before those that are still waiting, all that were waiting. -/
theorem starts_append {schedule : List Move} {log : List (Nat × ε)}
    (h : w.steps? limit schedule = some (w', log)) :
    w.starts limit schedule ++ w'.waiting.zipIdx w'.started = w.waiting.zipIdx w.started ∧
    w'.started = w.started + (w.starts limit schedule).length := by
  induction schedule generalizing w log with
  | nil =>
    obtain ⟨rfl, rfl⟩ := h
    exact ⟨rfl, rfl⟩
  | cons move rest ih =>
    obtain ⟨w₁, before, after, hfirst, hrest, rfl⟩ := exists_of_steps?_cons h
    have hmove := makes_of_step? hfirst
    obtain ⟨happend, hstarted⟩ := ih hrest
    have hstarts : w.starts limit (move :: rest) = w.startedBy move ++ w₁.starts limit rest := by
      rw [starts, hfirst]
    rw [hstarts, List.append_assoc, happend, hmove.startedBy_append, hstarted, hmove.started_eq,
      List.length_append, Nat.add_assoc]
    exact ⟨rfl, rfl⟩

/-- No moves make more workers active than the limit. -/
theorem MakesAll.length_active_le {schedule : List Move} {log : List (Nat × ε)}
    (h : MakesAll limit w schedule w' log) (hle : w.active.length ≤ limit) :
    w'.active.length ≤ limit := by
  induction h with
  | nil => exact hle
  | cons hfirst _ ih => exact ih (hfirst.length_active_le hle)

/-! ## From the start -/

/-- How far workers are after moves from the start, and what has been written until then. -/
structure Reaches (limit : Nat) (workers : List (Worker ε ρ)) (schedule : List Move)
    (w : Window ε ρ) (log : List (Nat × ε)) : Prop where
  /-- No more workers than the limit are in progress. -/
  inProgress_le : w.inProgress.length ≤ limit
  /-- Where a worker has been started, all workers that are a whole limit or more
  before it have ended. -/
  ended : ∀ number, w.HasStarted number → ∀ earlier, earlier + limit ≤ number → w.HasEnded earlier
  /-- A worker that has ended has written all its entries. -/
  writtenBy : ∀ number, w.HasEnded number →
    writtenBy number log = (workers.map Worker.entries)[number]?.getD []
  /-- The workers that have been started are the first ones, each of which was started once. -/
  starts : starts limit { waiting := workers } schedule = workers.zipIdx.take w.started

/-- Workers that have ended write nothing more. -/
theorem remaining_of_hasEnded {number : Nat} (h : w.HasEnded number) :
    w.remaining[number]?.getD [] = [] := by
  have hlt : number < (List.replicate w.collected.length ([] : List ε)).length := by
    rwa [List.length_replicate]
  rw [remaining, List.getElem?_append_left hlt, List.getElem?_replicate]
  split <;> rfl

/-- Whatever moves are made from the start, the limit is kept. -/
theorem steps?_reaches {schedule : List Move} {log : List (Nat × ε)}
    (h : steps? limit { waiting := workers } schedule = some (w, log)) :
    Reaches limit workers schedule w log := by
  have hactive : w.active.length ≤ limit :=
    (makesAll_of_steps? h).length_active_le (Nat.zero_le limit)
  obtain ⟨happend, hstarted⟩ := starts_append h
  refine ⟨w.length_inProgress ▸ hactive, fun number hnumber earlier hearlier => ?_,
    fun number hnumber => ?_, ?_⟩
  · unfold HasStarted started at hnumber
    unfold HasEnded
    omega
  · have hremaining := (makesAll_of_steps? h).remaining_eq number
    rw [remaining_of_hasEnded hnumber, List.append_nil] at hremaining
    rw [← hremaining]
    rfl
  · have hlength : w.started = (Window.starts limit { waiting := workers } schedule).length := by
      simpa [started] using hstarted
    have hall : workers.zipIdx =
        Window.starts limit { waiting := workers } schedule ++ w.waiting.zipIdx w.started :=
      happend.symm
    rw [hall, hlength, List.take_left]

/-- When no move can be made any more, every worker has been started, once and in order. -/
theorem Exhausts.starts_eq {schedule : List Move} (hlimit : 0 < limit)
    (h : Exhausts limit workers schedule) :
    starts limit { waiting := workers } schedule = workers.zipIdx := by
  obtain ⟨w, log, hsteps, hstuck⟩ := h
  have hdone : w.isDone = true := isDone_of_stuck hlimit hstuck
  have hwaiting : w.waiting = [] := by
    rw [isDone, Bool.and_eq_true] at hdone
    exact List.isEmpty_iff.1 hdone.1
  have happend := (starts_append hsteps).1
  rw [hwaiting, List.zipIdx_nil, List.append_nil] at happend
  exact happend

end Rehearsal.Window
