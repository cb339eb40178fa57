import Rehearsal.Journaled

/-!
# What computations ensure

`m.Ensures P` says that `m` gives a value and writes entries which together meet `P`, whatever state
it starts from. The rules below follow the structure of computations: `Ensures.bind` hands what the
first computation ensures to the second one, whose entries come after. `m.Writes p` is the special
case that all entries meet `p`.
-/

namespace Rehearsal.Journaled

variable {σ τ ε δ α β : Type}

/-- From every state, the value and the entries of the computation meet `P`. -/
def Ensures (m : Journaled σ ε α) (P : α → List ε → Prop) : Prop := ∀ s, P (m s).1 (m s).2.2

namespace Ensures

variable {m : Journaled σ ε α} {P Q : α → List ε → Prop}

/-- What is ensured may be weakened. -/
theorem mono (h : m.Ensures P) (hPQ : ∀ a entries, P a entries → Q a entries) : m.Ensures Q :=
  fun s => hPQ _ _ (h s)

/-- Nothing in particular is ensured by every computation. -/
theorem any (m : Journaled σ ε α) : m.Ensures fun _ _ => True := fun _ => trivial

protected theorem pure {a : α} (h : P a []) : (pure a : Journaled σ ε α).Ensures P := fun _ => h

/-- The second computation is judged on all entries, those of the first one included. -/
protected theorem bind {f : α → Journaled σ ε β} {R : β → List ε → Prop} (hm : m.Ensures P)
    (hf : ∀ a before, P a before → (f a).Ensures fun b after => R b (before ++ after)) :
    (m >>= f).Ensures R := by
  intro s
  rw [bind_apply]
  exact hf _ _ (hm s) _

/-- What is written first comes before the entries of the rest. -/
theorem write_bind {entry : ε} {f : Unit → Journaled σ ε β} {R : β → List ε → Prop}
    (hf : (f ()).Ensures fun b after => R b (entry :: after)) : (write entry >>= f).Ensures R := by
  intro s
  rw [bind_apply]
  exact hf s

/-- A change of the state writes nothing. -/
theorem change_bind {g : σ → σ} {f : Unit → Journaled σ ε β} {R : β → List ε → Prop}
    (hf : (f ()).Ensures R) : (change g >>= f).Ensures R := by
  intro s
  rw [bind_apply]
  exact hf (g s)

protected theorem mapEntries {f : ε → δ} {P : α → List δ → Prop}
    (hm : m.Ensures fun a entries => P a (entries.map f)) : (m.mapEntries f).Ensures P := hm

protected theorem within {t : τ} {m : Journaled (τ × σ) ε α} {P : α × τ → List ε → Prop}
    (hm : m.Ensures fun a entries => ∀ t, P (a, t) entries) : (m.within t).Ensures P :=
  fun s => hm (t, s) _

protected theorem through {view : σ → τ} {back : σ → τ → σ} {m : Journaled τ ε α}
    (hm : m.Ensures P) : (m.through view back).Ensures P := fun s => hm (view s)

protected theorem beside (hm : m.Ensures P) : (m.beside : Journaled (τ × σ) ε α).Ensures P :=
  hm.through

/-- Computations for items in order ensure what is put together of the items, their
values and their entries. -/
protected theorem forEach {f : α → Journaled σ ε β} {P : α → β → List ε → Prop}
    {R : List α → List β → List ε → Prop} (items : List α) (hf : ∀ a ∈ items, (f a).Ensures (P a))
    (hnil : R [] [] [])
    (hcons : ∀ a b before rest bs after, P a b before → R rest bs after →
      R (a :: rest) (b :: bs) (before ++ after)) : (forEach f items).Ensures (R items) := by
  induction items with
  | nil => exact Ensures.pure hnil
  | cons a rest ih =>
    rw [forEach_cons]
    have hrest := ih fun a ha => hf a (List.mem_cons_of_mem _ ha)
    refine (hf a List.mem_cons_self).bind fun b before hb => hrest.bind fun bs after hbs =>
      Ensures.pure ?_
    rw [List.append_nil]
    exact hcons a b before rest bs after hb hbs

end Ensures

/-! ## Entries one by one -/

/-- All entries that the computation writes meet `p`. -/
def Writes (m : Journaled σ ε α) (p : ε → Prop) : Prop :=
  m.Ensures fun _ entries => ∀ e ∈ entries, p e

namespace Writes

variable {m : Journaled σ ε α} {p : ε → Prop}

protected theorem pure {a : α} : (pure a : Journaled σ ε α).Writes p := Ensures.pure (by simp)

protected theorem bind {f : α → Journaled σ ε β} (hm : m.Writes p) (hf : ∀ a, (f a).Writes p) :
    (m >>= f).Writes p := by
  refine Ensures.bind hm fun a before hbefore => (hf a).mono fun b after hafter e he => ?_
  rcases List.mem_append.1 he with he | he
  · exact hbefore e he
  · exact hafter e he

protected theorem forEach {f : α → Journaled σ ε β} {items : List α}
    (h : ∀ a ∈ items, (f a).Writes p) :
    (forEach f items).Writes p := by
  refine Ensures.forEach (R := fun _ _ entries => ∀ e ∈ entries, p e) items h
    (List.forall_mem_nil _) ?_
  intro _ _ before _ _ after hbefore hafter
  exact List.forall_mem_append.2 ⟨hbefore, hafter⟩

end Writes

end Rehearsal.Journaled
