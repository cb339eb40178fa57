import Mathlib.Data.List.Sort
import Rehearsal.Proofs.Except
import Rehearsal.Regex.Set

/-!
# What sets promise

A set is asked for the places of its expressions that match a text. If it tells exactly these, in
order, then what is kept in a second list at the same places is found in the order of that list.
-/

namespace Rehearsal.Regex

/-- An expression, as it is written, matches a text. -/
def Matches (written text : String) : Prop :=
  ∃ e, parse written.toList = .ok e ∧ (e.program.search text.toList.toArray).isSome = true

/-- Sets tell the places of exactly those of their expressions that match, from
the first to the last. -/
structure SetMatcher.Lawful (m : SetMatcher) : Prop where
  /-- No place is told twice, or after a later one. -/
  increasing : ∀ {written : List String} {set : m.Prepared}, m.prepare written = .ok set →
    ∀ text, (m.places set text).Pairwise (· < ·)
  /-- The places are those of expressions that match. -/
  mem_places : ∀ {written : List String} {set : m.Prepared}, m.prepare written = .ok set →
    ∀ text place, place ∈ m.places set text ↔ ∃ w, written[place]? = some w ∧ Matches w text

variable {α : Type}

/-- Items that are looked up by the places of those with a property, in order, are the
items with the property. -/
theorem filterMap_places {items : List α} {p : α → Bool} {places : List Nat}
    (hincreasing : places.Pairwise (· < ·))
    (hplaces : ∀ place, place ∈ places ↔ ∃ a, items[place]? = some a ∧ p a = true) :
    places.filterMap (fun place => items[place]?) = items.filter p := by
  let kept := items.zipIdx.filter fun x => p x.1
  have hkept : ∀ x ∈ kept, items[x.2]? = some x.1 := fun x hx =>
    List.mem_zipIdx_iff_getElem?.1 (List.mem_filter.1 hx).1
  have hsame : places = kept.map Prod.snd := by
    refine hincreasing.eq_of_mem_iff (.sublist (List.filter_sublist.map _) ?_) fun place => ?_
    · rw [List.zipIdx_map_snd]
      exact List.pairwise_lt_range'
    · rw [hplaces]
      simp [kept, List.mem_zipIdx_iff_getElem?]
  calc
    places.filterMap (fun place => items[place]?)
      = kept.filterMap fun x => items[x.2]? := by rw [hsame, List.filterMap_map]; rfl
    _ = kept.filterMap (some ∘ Prod.fst) := List.filterMap_congr hkept
    _ = items.filter p := by
      have hfst := List.filter_map (f := Prod.fst) (p := p) (l := items.zipIdx)
      rw [List.zipIdx_map_fst] at hfst
      rw [List.filterMap_eq_map, hfst]
      rfl

/-- Lists that belong together do so at each place. -/
theorem rel_getElem? {β : Type} {R : α → β → Prop} {items : List α} {values : List β}
    (h : List.Forall₂ R items values) (place : Nat) :
    Option.Rel R items[place]? values[place]? := by
  induction h generalizing place with
  | nil => exact .none
  | cons hfirst _ ih =>
    cases place with
    | zero => exact .some hfirst
    | succ place => exact ih place

namespace SetMatcher

/-- A set that is matched one after the other consists of the programs of its expressions. -/
theorem oneByOne_prepare {written : List String} {programs : List Program}
    (h : oneByOne.prepare written = .ok programs) :
    List.Forall₂ (fun w program => (parse w.toList).map Expr.program = .ok program) written
      programs := by
  change (written.mapM fun w => (parse w.toList).map Expr.program).mapError _ = _ at h
  exact mapM_ok_iff.1 (mapError_ok_iff.1 h)

/-- It tells the places of the programs that find something. -/
theorem mem_oneByOne_places {programs : List Program} {text : String} {place : Nat} :
    place ∈ oneByOne.places programs text ↔
      ∃ program, programs[place]? = some program ∧
        (program.search text.toList.toArray).isSome = true := by
  change place ∈ (List.range programs.length).filter _ ↔ _
  rw [List.mem_filter, Option.any_eq_true, List.mem_range]
  refine and_iff_right_of_imp ?_
  rintro ⟨program, hprogram, -⟩
  exact (List.getElem?_eq_some_iff.1 hprogram).1

/-- So it is lawful. -/
theorem oneByOne_lawful : oneByOne.Lawful where
  increasing _ _ := List.pairwise_lt_range.sublist List.filter_sublist
  mem_places {written} (programs : List Program) h text place := by
    have hplace := rel_getElem? (oneByOne_prepare h) place
    rw [mem_oneByOne_places]
    generalize written[place]? = first, programs[place]? = second at hplace ⊢
    cases hplace with
    | none => simp
    | @some w program hprogram =>
      cases hparse : parse w.toList with
      | error e => simp [hparse, Except.map] at hprogram
      | ok e =>
        rw [hparse] at hprogram
        obtain rfl := Except.ok.inj hprogram
        simp [Matches, hparse]

end SetMatcher

end Rehearsal.Regex
