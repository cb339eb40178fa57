/-!
# Journaled computations

Computations that change a state and write entries into a journal. Entries of consecutive
computations follow each other.
-/

namespace Rehearsal

/-- A computation over a state `σ` that writes entries `ε` and gives an `α`. -/
def Journaled (σ ε α : Type) : Type := σ → α × σ × List ε

namespace Journaled

variable {σ τ ε δ α β : Type}

/-- Entries one after the other. Nothing is copied where nothing follows. -/
def joined : List ε → List ε → List ε
  | before, [] => before
  | before, after => before ++ after

/-- Joining is appending. -/
@[simp] theorem joined_eq (before after : List ε) : joined before after = before ++ after := by
  cases after <;> simp [joined]

instance : Monad (Journaled σ ε) where
  pure a := fun s => (a, s, [])
  bind m f := fun s =>
    let (a, s, before) := m s
    let (b, s, after) := f a s
    (b, s, joined before after)

/-- Giving a value leaves the state and writes nothing. -/
@[simp] theorem pure_apply (a : α) (s : σ) : (pure a : Journaled σ ε α) s = (a, s, []) := rfl

/-- The second computation starts from the state that the first one leaves. -/
theorem bind_apply (m : Journaled σ ε α) (f : α → Journaled σ ε β) (s : σ) :
    (m >>= f) s =
      ((f (m s).1 (m s).2.1).1, (f (m s).1 (m s).2.1).2.1,
        (m s).2.2 ++ (f (m s).1 (m s).2.1).2.2) := by
  simp [bind]

instance : LawfulMonad (Journaled σ ε) :=
  LawfulMonad.mk' _
    (fun m => by funext s; simp [Functor.map, Function.comp])
    (fun a f => by funext s; simp [bind_apply])
    (fun m f g => by funext s; simp [bind_apply, List.append_assoc])

/-- Runs a computation. -/
def run (m : Journaled σ ε α) (s : σ) : α × σ × List ε := m s

/-- Writes an entry. -/
def write (entry : ε) : Journaled σ ε Unit := fun s => ((), s, [entry])

/-- The state. -/
def state : Journaled σ ε σ := fun s => (s, s, [])

/-- Changes the state. -/
def change (f : σ → σ) : Journaled σ ε Unit := fun s => ((), f s, [])

/-- The computation with its entries renamed. -/
def mapEntries (f : ε → δ) (m : Journaled σ ε α) : Journaled σ δ α := fun s =>
  let (a, s, entries) := m s
  (a, s, entries.map f)

/-- Runs a computation on a second state as well, which starts as `t` and is given back. -/
def within (t : τ) (m : Journaled (τ × σ) ε α) : Journaled σ ε (α × τ) := fun s =>
  let (a, (t, s), entries) := m (t, s)
  ((a, t), s, entries)

/-- Runs a computation on another view of the state. -/
def through (view : σ → τ) (back : σ → τ → σ) (m : Journaled τ ε α) : Journaled σ ε α := fun s =>
  let (a, t, entries) := m (view s)
  (a, back s t, entries)

/-- Runs a computation beside a part of the state that it does not know. -/
def beside (m : Journaled σ ε α) : Journaled (τ × σ) ε α :=
  m.through Prod.snd fun s after => (s.1, after)

/-- Runs a computation for each item in order and collects what they give. -/
def forEach (f : α → Journaled σ ε β) : List α → Journaled σ ε (List β)
  | [] => pure []
  | a :: rest => do
    let b ← f a
    let bs ← forEach f rest
    return b :: bs

/-! ## What the operations do -/

@[simp] theorem run_apply (m : Journaled σ ε α) (s : σ) : m.run s = m s := rfl

@[simp] theorem write_apply (entry : ε) (s : σ) : write entry s = ((), s, [entry]) := rfl

@[simp] theorem state_apply (s : σ) : (state : Journaled σ ε σ) s = (s, s, []) := rfl

@[simp] theorem change_apply (f : σ → σ) (s : σ) :
    (change f : Journaled σ ε Unit) s = ((), f s, []) := rfl

@[simp] theorem mapEntries_apply (f : ε → δ) (m : Journaled σ ε α) (s : σ) :
    m.mapEntries f s = ((m s).1, (m s).2.1, (m s).2.2.map f) := rfl

@[simp] theorem within_apply (t : τ) (m : Journaled (τ × σ) ε α) (s : σ) :
    m.within t s = (((m (t, s)).1, (m (t, s)).2.1.1), (m (t, s)).2.1.2, (m (t, s)).2.2) := rfl

@[simp] theorem through_apply (view : σ → τ) (back : σ → τ → σ) (m : Journaled τ ε α) (s : σ) :
    m.through view back s = ((m (view s)).1, back s (m (view s)).2.1, (m (view s)).2.2) := rfl

@[simp] theorem beside_apply (m : Journaled σ ε α) (s : τ × σ) :
    m.beside s = ((m s.2).1, (s.1, (m s.2).2.1), (m s.2).2.2) := rfl

/-- Changing only the value changes neither the state that is left nor the entries. -/
@[simp] theorem map_apply (f : α → β) (m : Journaled σ ε α) (s : σ) :
    (f <$> m) s = (f (m s).1, (m s).2.1, (m s).2.2) := by
  rw [← bind_pure_comp, bind_apply]
  simp

@[simp] theorem forEach_nil (f : α → Journaled σ ε β) : forEach f [] = pure [] := rfl

theorem forEach_cons (f : α → Journaled σ ε β) (a : α) (rest : List α) :
    forEach f (a :: rest) = (do
      let b ← f a
      let bs ← forEach f rest
      return b :: bs) := rfl

/-- What the first item leads to and what the others lead to from there on, put together. -/
theorem forEach_cons_apply {f : α → Journaled σ ε β} {a : α} {rest : List α} {s s₁ s₂ : σ} {b : β}
    {bs : List β} {before after : List ε} (hfirst : f a s = (b, s₁, before))
    (hrest : forEach f rest s₁ = (bs, s₂, after)) :
    forEach f (a :: rest) s = (b :: bs, s₂, before ++ after) := by
  rw [forEach_cons, bind_apply, hfirst]
  dsimp only
  rw [bind_apply, hrest, pure_apply, List.append_nil]

end Journaled

end Rehearsal
