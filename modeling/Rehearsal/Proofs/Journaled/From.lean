import Rehearsal.Proofs.Journaled.Ensures

/-!
# Computations from one state

`m.From s P` says that `m`, started in the state `s`, gives a value, writes entries and leaves a
state which together meet `P`. Where `Ensures` forgets the states, `From.bind` hands the state that
the first computation leaves to the second one.
-/

namespace Rehearsal.Journaled

variable {σ τ ε α β : Type}

/-- From the state `s`, the value, the entries and the state that is left meet `P`. -/
def From (m : Journaled σ ε α) (s : σ) (P : α → List ε → σ → Prop) : Prop :=
  P (m s).1 (m s).2.2 (m s).2.1

namespace From

variable {m : Journaled σ ε α} {s : σ} {P Q : α → List ε → σ → Prop}

/-- What is met may be weakened. -/
theorem mono (h : m.From s P) (hPQ : ∀ a entries s', P a entries s' → Q a entries s') :
    m.From s Q := hPQ _ _ _ h

protected theorem pure {a : α} (h : P a [] s) : (pure a : Journaled σ ε α).From s P := h

/-- The second computation starts where the first one ends, and is judged on all entries. -/
protected theorem bind {f : α → Journaled σ ε β} {R : β → List ε → σ → Prop} (hm : m.From s P)
    (hf : ∀ a before t, P a before t → (f a).From t fun b after s' => R b (before ++ after) s') :
    (m >>= f).From s R := by
  unfold From
  rw [bind_apply]
  exact hf _ _ _ hm

protected theorem within {t : τ} {m : Journaled (τ × σ) ε α} {P : α × τ → List ε → σ → Prop}
    (hm : m.From (t, s) fun a entries u => P (a, u.1) entries u.2) : (m.within t).From s P := hm

protected theorem through {view : σ → τ} {back : σ → τ → σ} {m : Journaled τ ε α}
    (hm : m.From (view s) fun a entries t => P a entries (back s t)) :
    (m.through view back).From s P := hm

protected theorem beside {t : τ} {P : α → List ε → τ × σ → Prop}
    (hm : m.From s fun a entries s' => P a entries (t, s')) :
    (m.beside : Journaled (τ × σ) ε α).From (t, s) P := hm

end From

end Rehearsal.Journaled
