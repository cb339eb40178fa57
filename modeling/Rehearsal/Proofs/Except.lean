import Mathlib.Data.List.Forall2

/-!
# Computations that may fail

A computation that may fail is put together from others. If it succeeds, these have succeeded, and
what it gives is made of what they give. If it goes through several in order, the first of them that
fails decides the error.
-/

namespace Rehearsal

variable {ε ε' α β γ : Type}

/-! ## One after another -/

/-- A computation that succeeds after another one succeeds with what that gives. -/
theorem ok_of_bind {x : Except ε α} {f : α → Except ε β} {b : β} (h : x >>= f = .ok b) :
    ∃ a, x = .ok a ∧ f a = .ok b := by
  cases x with
  | error e => cases h
  | ok a => exact ⟨a, rfl, h⟩

/-- What a function makes of a result is made of one. -/
theorem exists_of_map {x : Except ε α} {f : α → β} {b : β} (h : x.map f = .ok b) :
    ∃ a, x = .ok a ∧ f a = b := by
  cases x with
  | error e => cases h
  | ok a => exact ⟨a, rfl, Except.ok.inj h⟩

/-- Telling failures in other words gives no results. -/
theorem mapError_ok_iff {x : Except ε α} {f : ε → ε'} {a : α} :
    x.mapError f = .ok a ↔ x = .ok a := by
  cases x with
  | error e => exact iff_of_false nofun nofun
  | ok b =>
    exact ⟨fun h => congrArg Except.ok (Except.ok.inj h),
      fun h => congrArg Except.ok (Except.ok.inj h)⟩

/-! ## All in order -/

/-- All are read if each is. -/
theorem mapM_ok_iff {read : α → Except ε β} {items : List α} {values : List β} :
    items.mapM read = .ok values ↔
      List.Forall₂ (fun item value => read item = .ok value) items values := by
  constructor
  · intro h
    induction items generalizing values with
    | nil => exact Except.ok.inj h ▸ .nil
    | cons item rest ih =>
      rw [List.mapM_cons] at h
      obtain ⟨value, hvalue, h⟩ := ok_of_bind h
      obtain ⟨others, hothers, h⟩ := ok_of_bind h
      obtain rfl := Except.ok.inj h
      exact .cons hvalue (ih hothers)
  · intro h
    induction h with
    | nil => rfl
    | cons hvalue _ ih =>
      rw [List.mapM_cons, hvalue, ih]
      rfl

/-- An error is that of the first item, or of the others if it is read. -/
theorem mapM_cons_error_iff {read : α → Except ε β} {item : α} {rest : List α} {error : ε} :
    (item :: rest).mapM read = .error error ↔
      read item = .error error ∨ (∃ value, read item = .ok value) ∧
      rest.mapM read = .error error := by
  rw [List.mapM_cons]
  cases hitem : read item with
  | error first => simp [bind, Except.bind]
  | ok value => cases hrest : rest.mapM read <;> simp [bind, Except.bind, pure, Except.pure]

/-- The first that cannot be read decides the error. -/
theorem mapM_error_iff {read : α → Except ε β} {items : List α} {error : ε} :
    items.mapM read = .error error ↔ ∃ before bad after, items = before ++ bad :: after ∧
      (∀ item ∈ before, ∃ value, read item = .ok value) ∧ read bad = .error error := by
  induction items with
  | nil => simp [pure, Except.pure]
  | cons item rest ih =>
    rw [mapM_cons_error_iff, ih]
    constructor
    · rintro (hitem | ⟨hitem, before, bad, after, rfl, hbefore, hbad⟩)
      · exact ⟨[], item, rest, rfl, nofun, hitem⟩
      · exact ⟨item :: before, bad, after, rfl, List.forall_mem_cons.2 ⟨hitem, hbefore⟩, hbad⟩
    · rintro ⟨before, bad, after, hitems, hbefore, hbad⟩
      cases before with
      | nil =>
        obtain ⟨rfl, -⟩ := List.cons.inj hitems
        exact .inl hbad
      | cons first before =>
        obtain ⟨rfl, rfl⟩ := List.cons.inj hitems
        obtain ⟨hitem, hrest⟩ := List.forall_mem_cons.1 hbefore
        exact .inr ⟨hitem, before, bad, after, rfl, hrest, hbad⟩

/-- Reading lists of parts one after the other is reading all their parts. -/
theorem mapM_flatMap (read : β → Except ε γ) (parts : α → List β) (items : List α) :
    (items.flatMap parts).mapM read =
      (items.mapM fun item => (parts item).mapM read).map List.flatten := by
  induction items with
  | nil => rfl
  | cons item rest ih =>
    rw [List.flatMap_cons, List.mapM_append, List.mapM_cons, ih]
    cases (parts item).mapM read with
    | error _ => rfl
    | ok values => cases (rest.mapM fun item => (parts item).mapM read) <;> rfl

/-! ## Results that are there -/

/-- Values are put together to all of them. -/
theorem mapM_id_ok (values : List α) :
    (values.map (Except.ok : α → Except ε α)).mapM id = .ok values := by
  rw [mapM_ok_iff, List.forall₂_map_left_iff, List.forall₂_same]
  exact fun _ _ => rfl

/-- Results that can be put together are values. -/
theorem mapM_id_eq_ok {results : List (Except ε α)} {values : List α}
    (h : results.mapM id = .ok values) :
    results = values.map .ok := by
  rw [← List.forall₂_eq_eq_eq, List.forall₂_map_right_iff]
  exact mapM_ok_iff.1 h

/-- Of results that are put together, the first error is the result. -/
theorem mapM_id_eq_error {results : List (Except ε α)} {first : Nat} {e : ε}
    (hfirst : results[first]? = some (.error e))
    (hbefore : ∀ number < first, ∃ value, results[number]? = some (.ok value)) :
    results.mapM id = .error e := by
  obtain ⟨hlt, hget⟩ := List.getElem?_eq_some_iff.1 hfirst
  have hsplit : results = results.take first ++ .error e :: results.drop (first + 1) := by
    rw [← hget, ← List.drop_eq_getElem_cons hlt, List.take_append_drop]
  refine mapM_error_iff.2 ⟨_, _, _, hsplit, fun result hresult => ?_, rfl⟩
  obtain ⟨number, hnumber, rfl⟩ := List.mem_take_iff_getElem.1 hresult
  obtain ⟨value, hvalue⟩ := hbefore number (Nat.lt_of_lt_of_le hnumber (Nat.min_le_left _ _))
  exact ⟨value, (List.getElem?_eq_some_iff.1 hvalue).2⟩

end Rehearsal
