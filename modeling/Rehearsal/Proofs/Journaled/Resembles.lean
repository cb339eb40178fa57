import Mathlib.Data.List.Forall2
import Rehearsal.Proofs.Journaled.DependsOn

/-!
# Computations next to each other

`m.Resembles V E m'` says that, from whatever states the two start, what `m` gives stands to what
`m'` gives as `V` says, and that the entries of `m` stand to those of `m'` as `E` says, one by one.
So the states may come apart as the two go on: a constant computation resembles itself, and the
rules follow the structure of computations.
-/

namespace Rehearsal.Journaled

variable {σ ε α α' β β' : Type}

/-- From any two states the values are related by `V` and the entries, one by one, by `E`. -/
def Resembles (V : α → α' → Prop) (E : ε → ε → Prop) (m : Journaled σ ε α)
    (m' : Journaled σ ε α') : Prop :=
  ∀ s s', V (m s).1 (m' s').1 ∧ List.Forall₂ E (m s).2.2 (m' s').2.2

namespace Resembles

variable {V : α → α' → Prop} {V' : β → β' → Prop} {E : ε → ε → Prop}

protected theorem pure {a : α} {a' : α'} (h : V a a') :
    Resembles V E (pure a : Journaled σ ε α) (pure a') := fun _ _ => ⟨h, .nil⟩

protected theorem bind {m : Journaled σ ε α} {m' : Journaled σ ε α'} {f : α → Journaled σ ε β}
    {f' : α' → Journaled σ ε β'} (hm : Resembles V E m m')
    (hf : ∀ a a', V a a' → Resembles V' E (f a) (f' a')) :
    Resembles V' E (m >>= f) (m' >>= f') := by
  intro s s'
  rw [bind_apply, bind_apply]
  obtain ⟨hvalue, hentries⟩ := hm s s'
  obtain ⟨hvalue', hentries'⟩ := hf _ _ hvalue (m s).2.1 (m' s').2.1
  exact ⟨hvalue', List.rel_append hentries hentries'⟩

/-- Computations for the same items resemble each other if they do item by item. -/
protected theorem forEach {f f' : α → Journaled σ ε β} (items : List α)
    (h : ∀ a, Resembles Eq E (f a) (f' a)) :
    Resembles Eq E (forEach f items) (forEach f' items) := by
  induction items with
  | nil => exact Resembles.pure rfl
  | cons a rest ih =>
    rw [forEach_cons, forEach_cons]
    refine (h a).bind fun b b' hb => ih.bind fun bs bs' hbs => Resembles.pure ?_
    rw [hb, hbs]

/-- A constant computation resembles itself. -/
theorem of_constant {m : Journaled σ ε α} (hm : m.Constant) (hE : ∀ e, E e e) :
    Resembles Eq E m m := by
  intro s s'
  rw [hm.value s s', hm.entries s s']
  exact ⟨rfl, List.forall₂_same.2 fun e _ => hE e⟩

end Resembles

end Rehearsal.Journaled
