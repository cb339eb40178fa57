import Rehearsal.Journaled

/-!
# What computations depend on

`m.DependsOn view` says that of the state only the view matters to `m`: from states of one view it
gives the same value, writes the same entries and leaves states of one view. The rules follow the
structure of computations. A computation that is `Constant` does not depend on the state at all, and
then the order in which such computations are run, or the state from which each of them is, makes no
difference to what each gives and writes.
-/

namespace Rehearsal.Journaled

variable {σ τ κ ι ε δ α β : Type}

/-- What two runs of a computation have in common that look the same through a view. -/
structure Alike (view : σ → κ) (run run' : α × σ × List ε) : Prop where
  /-- The values are the same. -/
  value : run.1 = run'.1
  /-- The states that are left have the same view. -/
  state : view run.2.1 = view run'.2.1
  /-- The entries are the same. -/
  entries : run.2.2 = run'.2.2

/-- Of the state only the view matters to the computation. -/
def DependsOn (view : σ → κ) (m : Journaled σ ε α) : Prop :=
  ∀ s s', view s = view s' → Alike view (m s) (m s')

namespace DependsOn

variable {view : σ → κ} {m : Journaled σ ε α}

protected theorem pure (a : α) : (pure a : Journaled σ ε α).DependsOn view :=
  fun _ _ h => ⟨rfl, h, rfl⟩

protected theorem bind {f : α → Journaled σ ε β} (hm : m.DependsOn view)
    (hf : ∀ a, (f a).DependsOn view) :
    (m >>= f).DependsOn view := by
  intro s s' h
  obtain ⟨hvalue, hstate, hentries⟩ := hm s s' h
  obtain ⟨hvalue', hstate', hentries'⟩ := hf (m s).1 _ _ hstate
  rw [bind_apply, bind_apply, ← hvalue]
  exact ⟨hvalue', hstate', by rw [hentries, hentries']⟩

protected theorem write (entry : ε) : (write entry : Journaled σ ε Unit).DependsOn view :=
  fun _ _ h => ⟨rfl, h, rfl⟩

protected theorem mapEntries {f : ε → δ} (hm : m.DependsOn view) :
    (m.mapEntries f).DependsOn view := by
  intro s s' h
  obtain ⟨hvalue, hstate, hentries⟩ := hm s s' h
  exact ⟨hvalue, hstate, congrArg (List.map f) hentries⟩

/-- On another view of the state it is enough that what is seen of the state through both decides,
and that putting the part back keeps this so. -/
protected theorem through {seen : τ → ι} {part : σ → τ} {back : σ → τ → σ} {m : Journaled τ ε α}
    (hm : m.DependsOn seen) (hpart : ∀ s s', view s = view s' → seen (part s) = seen (part s'))
    (hback : ∀ s s' t t', view s = view s' → seen t = seen t' →
      view (back s t) = view (back s' t')) :
    (m.through part back).DependsOn view := by
  intro s s' h
  obtain ⟨hvalue, hstate, hentries⟩ := hm _ _ (hpart s s' h)
  exact ⟨hvalue, hback _ _ _ _ h hstate, hentries⟩

end DependsOn

/-! ## Constant computations -/

/-- The state does not matter to the computation. -/
def Constant (m : Journaled σ ε α) : Prop := m.DependsOn fun _ => ()

namespace Constant

variable {m : Journaled σ ε α}

/-- From any two states a constant computation gives the same. -/
theorem value (hm : m.Constant) (s s' : σ) : (m s).1 = (m s').1 := (hm s s' rfl).value

/-- From any two states a constant computation writes the same. -/
theorem entries (hm : m.Constant) (s s' : σ) : (m s).2.2 = (m s').2.2 := (hm s s' rfl).entries

protected theorem change (f : σ → σ) : (change f : Journaled σ ε Unit).Constant :=
  fun _ _ _ => ⟨rfl, rfl, rfl⟩

/-- Beside a part of the state, a constant computation depends on that part only:
it is left as it is. -/
protected theorem beside (hm : m.Constant) :
    (m.beside : Journaled (τ × σ) ε α).DependsOn Prod.fst :=
  DependsOn.through hm (fun _ _ _ => rfl) fun _ _ _ _ h _ => h

/-- A second state of its own makes constant what depends on nothing else. -/
protected theorem within {t : τ} {m : Journaled (τ × σ) ε α} (hm : m.DependsOn Prod.fst) :
    (m.within t).Constant := by
  intro s s' _
  obtain ⟨hvalue, hstate, hentries⟩ := hm (t, s) (t, s') rfl
  exact ⟨Prod.ext hvalue hstate, rfl, hentries⟩

/-- Constant computations in order give what each of them gives from any state. -/
theorem forEach_value {f : α → Journaled σ ε β} (hf : ∀ a, (f a).Constant) (items : List α)
    (s s' : σ) :
    (forEach f items s).1 = items.map fun a => (f a s').1 := by
  induction items generalizing s with
  | nil => rfl
  | cons a rest ih => rw [forEach_cons_apply rfl rfl, ih, List.map_cons, (hf a).value s s']

end Constant

/-! ## Entries item by item -/

/-- The entries of computations in order, those for each item apart. -/
def pieces (f : α → Journaled σ ε β) : List α → σ → List (List ε)
  | [], _ => []
  | a :: rest, s => (f a s).2.2 :: pieces f rest (f a s).2.1

/-- The entries of computations in order are those for the items. -/
theorem forEach_entries (f : α → Journaled σ ε β) (items : List α) (s : σ) :
    (forEach f items s).2.2 = (pieces f items s).flatten := by
  induction items generalizing s with
  | nil => rfl
  | cons a rest ih => rw [forEach_cons_apply rfl rfl, ih, pieces, List.flatten_cons]

/-- Constant computations write for each item what they write from any state. -/
theorem Constant.pieces {f : α → Journaled σ ε β} (hf : ∀ a, (f a).Constant) (items : List α)
    (s s' : σ) :
    pieces f items s = items.map fun a => (f a s').2.2 := by
  induction items generalizing s with
  | nil => rfl
  | cons a rest ih => rw [Journaled.pieces, ih, List.map_cons, (hf a).entries s s']

end Rehearsal.Journaled
