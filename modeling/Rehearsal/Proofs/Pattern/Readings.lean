import Rehearsal.Proofs.Pattern.Classes
import Mathlib.Data.List.Flatten
import Mathlib.Data.List.Forall2

/-!
# Readings of a text

A placeholder pattern reads a text as what its pieces make of parts, one part for each placeholder.
There may be several such decompositions; `readings` lists them all, the preferred one first, where
the first placeholder decides before the second. The outcomes of the expression of a pattern are its
readings, each with the places of its parts on record.
-/

namespace Rehearsal.Pattern

open Rehearsal.Regex

/-! ## Decompositions -/

/-- The hints of the placeholders, in order. -/
def hints : List Piece → List Hint
  | [] => []
  | .literal _ :: rest => hints rest
  | .placeholder _ hint :: rest => Hint.ofName hint :: hints rest

/-- The text that the pieces make with `parts` in the place of the placeholders. -/
def fill : List Piece → List (List Char) → List Char
  | [], _ => []
  | .literal c :: rest, parts => c :: fill rest parts
  | .placeholder _ _ :: rest, part :: parts => part ++ fill rest parts
  | .placeholder _ _ :: rest, [] => fill rest []

/-- The text is what the pieces make with `parts` in the place of the placeholders, each part one
that its placeholder may capture. -/
structure Decomposes (ps : List Piece) (text : List Char) (parts : List (List Char)) : Prop where
  /-- There is one part for each placeholder, of its class. -/
  admits : List.Forall₂ Hint.Admits (hints ps) parts
  /-- The parts make up the text. -/
  fill_eq : fill ps parts = text

/-- The first of two lists of parts is preferred: the first placeholder with different
parts prefers its part. -/
inductive PreferredTo : List Hint → List (List Char) → List (List Char) → Prop
  | first {hint : Hint} {more : List Hint} {part part' : List Char}
    {parts parts' : List (List Char)} (h : hint.Prefers part part') :
    PreferredTo (hint :: more) (part :: parts) (part' :: parts')
  | later {hint : Hint} {more : List Hint} {part : List Char} {parts parts' : List (List Char)}
    (h : PreferredTo more parts parts') :
    PreferredTo (hint :: more) (part :: parts) (part :: parts')

variable {ps : List Piece} {parts parts' : List (List Char)} {rest r w : List Char}

theorem decomposes_nil : Decomposes [] rest parts ↔ rest = [] ∧ parts = [] := by
  constructor
  · rintro ⟨hadmits, rfl⟩
    exact ⟨rfl, List.forall₂_nil_left_iff.1 hadmits⟩
  · rintro ⟨rfl, rfl⟩
    exact ⟨.nil, rfl⟩

theorem decomposes_literal {c : Char} :
    Decomposes (.literal c :: ps) rest parts ↔
      ∃ more, c :: more = rest ∧ Decomposes ps more parts := by
  constructor
  · rintro ⟨hadmits, rfl⟩
    exact ⟨_, rfl, hadmits, rfl⟩
  · rintro ⟨_, rfl, hadmits, rfl⟩
    exact ⟨hadmits, rfl⟩

theorem decomposes_placeholder {name : String} {hint : Option String} :
    Decomposes (.placeholder name hint :: ps) rest parts ↔
      ∃ part more parts', (Hint.ofName hint).Admits part ∧ part ++ more = rest ∧
        Decomposes ps more parts' ∧
        part :: parts' = parts := by
  constructor
  · rintro ⟨hadmits, rfl⟩
    obtain ⟨part, parts', hpart, hparts, rfl⟩ := List.forall₂_cons_left_iff.1 hadmits
    exact ⟨part, _, parts', hpart, rfl, ⟨hparts, rfl⟩, rfl⟩
  · rintro ⟨part, _, parts', hpart, rfl, ⟨hparts, rfl⟩, rfl⟩
    exact ⟨.cons hpart hparts, rfl⟩

/-- A pattern with words for all its placeholders prefers lengths that come first in the
lexicographic order. -/
theorem PreferredTo.lex_length {all : List Hint} (h : PreferredTo all parts parts')
    (hwords : ∀ hint ∈ all, hint = .words) :
    List.Lex (· < ·) (parts.map List.length) (parts'.map List.length) := by
  induction h with
  | first h =>
    obtain rfl := hwords _ List.mem_cons_self
    exact .rel h
  | later h ih => exact .cons (ih fun hint hmem => hwords hint (List.mem_cons_of_mem _ hmem))

/-! ## All readings -/

/-- What is taken of a text when `left` of it remains. -/
def taken (rest left : List Char) : List Char := rest.take (rest.length - left.length)

theorem taken_append (w r : List Char) : taken (w ++ r) r = w := by
  rw [taken, List.length_append, Nat.add_sub_cancel, List.take_left]

theorem taken_append_of_suffix (h : r <:+ rest) : taken rest r ++ r = rest := by
  obtain ⟨w, rfl⟩ := h
  rw [taken_append]

/-- All decompositions of a text, in the order of preference. -/
def readings : List Piece → List Char → List (List (List Char))
  | [], rest => if rest = [] then [[]] else []
  | .literal c :: ps, rest => if rest.head? = some c then readings ps rest.tail else []
  | .placeholder _ hint :: ps, rest =>
    ((Hint.ofName hint).expr.remainders rest).flatMap fun left =>
      (readings ps left).map (taken rest left :: ·)

/-- The readings of a text are its decompositions. -/
theorem mem_readings : parts ∈ readings ps rest ↔ Decomposes ps rest parts := by
  induction ps generalizing rest parts with
  | nil =>
    rw [readings, decomposes_nil]
    split <;> simp [*]
  | cons piece ps ih =>
    cases piece with
    | literal c =>
      rw [readings, decomposes_literal]
      cases rest with
      | nil => simp
      | cons d rest =>
        by_cases hd : d = c
        · simp [hd, ih]
        · simp [hd, Ne.symm hd]
    | placeholder name hint =>
      simp only [readings, decomposes_placeholder, List.mem_flatMap, List.mem_map, ih]
      constructor
      · rintro ⟨left, hleft, parts', hparts', rfl⟩
        obtain ⟨part, hpart, rfl⟩ := ((Hint.ofName hint).denotes rest left).1 hleft
        exact ⟨part, left, parts', hpart, rfl, hparts', by rw [taken_append]⟩
      · rintro ⟨part, left, parts', hpart, rfl, hparts', rfl⟩
        exact ⟨left, ((Hint.ofName hint).denotes _ left).2 ⟨part, hpart, rfl⟩, parts', hparts',
          by rw [taken_append]⟩

/-- Readings are listed in the order of preference. -/
theorem pairwise_readings (ps : List Piece) (rest : List Char) :
    (readings ps rest).Pairwise (PreferredTo (hints ps)) := by
  induction ps generalizing rest with
  | nil =>
    rw [readings]
    split
    · exact List.pairwise_singleton _ _
    · exact .nil
  | cons piece ps ih =>
    cases piece with
    | literal c =>
      rw [readings]
      split
      · exact ih rest.tail
      · exact .nil
    | placeholder name hint =>
      rw [readings, hints, List.pairwise_flatMap]
      have hsuffix := (Hint.ofName hint).expr.remainders_suffix rest
      refine ⟨fun left _ => List.pairwise_map.2 ((ih left).imp .later), ?_⟩
      -- Readings with different first parts are ordered by them.
      refine ((Hint.ofName hint).prefers rest).imp_of_mem fun {left left'} hleft hleft'
        hprefers => ?_
      have hpart := hprefers _ _ (taken_append_of_suffix (hsuffix left hleft))
        (taken_append_of_suffix (hsuffix left' hleft'))
      intro parts hparts parts' hparts'
      obtain ⟨_, -, rfl⟩ := List.mem_map.1 hparts
      obtain ⟨_, -, rfl⟩ := List.mem_map.1 hparts'
      exact .first hpart

/-! ## Readings and outcomes -/

/-- What the `count` groups after the first `index` ones have on record. -/
def recorded (text : Array Char) (slots : Slots) (index count : Nat) : List String :=
  (List.range count).map fun i =>
    between text ((slots[2 * (index + i + 1)]?).getD none)
      ((slots[2 * (index + i + 1) + 1]?).getD none)

/-- The spot is where a match ends that has put `parts` on record for the groups after the first
`index` ones, having started with `slots`. -/
structure EndsWith (text : Array Char) (index : Nat) (slots : Slots) (parts : List (List Char))
    (s : Spot) :
    Prop where
  /-- The match ends where the text ends. -/
  position_eq : s.position = text.size
  /-- What other groups have on record is kept. -/
  kept : ∀ i < 2 * (index + 1), s.slots[i]? = slots[i]?
  /-- The parts are on record. -/
  recorded_eq : recorded text s.slots index parts.length = parts.map String.ofList

/-- The record of a first group and of those after it. -/
theorem recorded_succ (text : Array Char) (slots : Slots) (index count : Nat) :
    recorded text slots index (count + 1) =
      between text ((slots[2 * (index + 1)]?).getD none)
        ((slots[2 * (index + 1) + 1]?).getD none) ::
        recorded text slots (index + 1) count := by
  rw [recorded, recorded, List.range_succ_eq_map, List.map_cons, List.map_map]
  refine congrArg _ (List.map_congr_left fun i _ => ?_)
  simp only [Function.comp_apply, Nat.succ_eq_add_one, Nat.add_right_comm index 1 i, Nat.add_assoc]

/-- What a group has on record after a match of its expression is what was taken. -/
theorem between_taken {text : Array Char} (hrest : rest <:+ text.toList) (hr : r <:+ rest) :
    between text (some (text.size - rest.length)) (some (text.size - r.length)) =
      String.ofList (taken rest r) := by
  obtain ⟨before, hbefore⟩ := hrest
  obtain ⟨part, rfl⟩ := hr
  have hsize : text.size = before.length + (part.length + r.length) := by
    rw [← Array.length_toList, ← hbefore, List.length_append, List.length_append]
  have hstop : before.length + (part.length + r.length) - r.length - before.length =
      part.length := by omega
  rw [between, taken_append, Array.toList_extract, ← hbefore, hsize, List.length_append]
  simp [List.extract, hstop]

/-- The slots after a match of the group after the first `index` ones, which took what is
before `left` of `rest`. -/
def recordGroup (text : Array Char) (slots : Slots) (index : Nat) (rest left : List Char) : Slots :=
  (slots.setIfInBounds (2 * (index + 1)) (some (text.size - rest.length))).setIfInBounds
  (2 * (index + 1) + 1)
    (some (text.size - left.length))

section
variable {text : Array Char} {slots : Slots} {index : Nat}

theorem size_recordGroup : (recordGroup text slots index rest r).size = slots.size := by
  rw [recordGroup, Array.size_setIfInBounds, Array.size_setIfInBounds]

/-- The groups before it keep what they have on record. -/
theorem getElem?_recordGroup_of_lt {i : Nat} (hi : i < 2 * (index + 1)) :
    (recordGroup text slots index rest r)[i]? = slots[i]? := by
  rw [recordGroup, Array.getElem?_setIfInBounds_ne (by omega),
    Array.getElem?_setIfInBounds_ne (by omega)]

/-- The group has on record what was taken. -/
theorem between_recordGroup (hslots : 2 * (index + 1) + 1 < slots.size)
    (hrest : rest <:+ text.toList) (hr : r <:+ rest) :
    between text (((recordGroup text slots index rest r)[2 * (index + 1)]?).getD none)
      (((recordGroup text slots index rest r)[2 * (index + 1) + 1]?).getD none) =
        String.ofList (taken rest r) := by
  have hbegin : (recordGroup text slots index rest r)[2 * (index + 1)]? =
      some (some (text.size - rest.length)) := by
    rw [recordGroup, Array.getElem?_setIfInBounds_ne (by omega),
      Array.getElem?_setIfInBounds_self_of_lt (by omega)]
  have hend : (recordGroup text slots index rest r)[2 * (index + 1) + 1]? =
      some (some (text.size - r.length)) :=
    Array.getElem?_setIfInBounds_self_of_lt (by rw [Array.size_setIfInBounds]; exact hslots)
  rw [hbegin, hend, Option.getD_some, Option.getD_some, between_taken hrest hr]

/-- A group takes what its expression takes and puts it on record. -/
theorem Hint.outcomes_group (hint : Hint) (hrest : rest <:+ text.toList) :
    (Expr.group (index + 1) hint.expr).outcomes text (spotBefore text slots rest) =
      (hint.expr.remainders rest).map fun left =>
        spotBefore text (recordGroup text slots index rest left) left := by
  rw [Expr.outcomes]
  change List.map _ (Expr.outcomes text _
    (spotBefore text (slots.setIfInBounds (2 * (index + 1)) _) rest)) = _
  rw [Expr.outcomes_spotBefore _ hint.plain_and_productive.1 hrest, List.map_map]
  rfl

/-- After a group has matched, what it took comes before what is put on record from there on. -/
theorem EndsWith.cons {parts : List (List Char)} {s : Spot}
    (h : EndsWith text (index + 1) (recordGroup text slots index rest r) parts s)
    (hslots : 2 * (index + 1) + 1 < slots.size) (hrest : rest <:+ text.toList) (hr : r <:+ rest) :
    EndsWith text index slots (taken rest r :: parts) s := by
  refine ⟨h.position_eq, fun i hi => ?_, ?_⟩
  · rw [h.kept i (by omega), getElem?_recordGroup_of_lt hi]
  · rw [List.length_cons, recorded_succ, h.kept _ (by omega), h.kept _ (by omega),
      between_recordGroup hslots hrest hr, h.recorded_eq, List.map_cons]

end

/-- Lists made alike from the members of a list correspond if what each member gives does. -/
theorem forall₂_flatMap {α β γ : Type} {R : β → γ → Prop} {l : List α} {f : α → List β}
    {g : α → List γ} (h : ∀ a ∈ l, List.Forall₂ R (f a) (g a)) :
    List.Forall₂ R (l.flatMap f) (l.flatMap g) := by
  induction l with
  | nil => exact .nil
  | cons a l ih =>
    obtain ⟨ha, hl⟩ := List.forall_mem_cons.1 h
    exact List.rel_append ha (ih hl)

/-- The outcomes of the pieces from a place of the text are the readings of what is ahead. -/
theorem outcomes_pieces {text : Array Char} {index : Nat} {slots : Slots}
    (hrest : rest <:+ text.toList) (hslots : 2 * (index + (hints ps).length + 1) ≤ slots.size) :
    List.Forall₂ (EndsWith text index slots) (readings ps rest)
      ((Expr.sequence (exprs index ps ++ [.assert .textEnd])).outcomes text
        (spotBefore text slots rest)) := by
  induction ps generalizing index slots rest with
  | nil =>
    have hend : (Expr.assert .textEnd).outcomes text (spotBefore text slots rest) =
        if rest = [] then [spotBefore text slots rest] else [] := by
      rw [Expr.outcomes, getElem?_spotBefore slots hrest]
      cases rest <;> rfl
    rw [readings]
    change List.Forall₂ _ _ ((Expr.assert .textEnd).outcomes _ _)
    rw [hend]
    split
    · next hnil =>
      subst hnil
      exact .cons ⟨rfl, fun _ _ => rfl, rfl⟩ .nil
    · exact .nil
  | cons piece ps ih =>
    cases piece with
    | literal c =>
      rw [exprs, List.cons_append, Expr.sequence_cons_append, Expr.outcomes,
        Expr.outcomes_spotBefore slots rfl hrest, List.flatMap_map]
      cases rest with
      | nil => exact .nil
      | cons d rest =>
        have hmore := (List.suffix_cons d rest).trans hrest
        by_cases hd : d = c
        · simpa [readings, Expr.remainders, contains_singleton, hd] using ih hmore hslots
        · simp [readings, Expr.remainders, contains_singleton, hd]
    | placeholder name hint =>
      rw [hints, List.length_cons] at hslots
      rw [exprs, List.cons_append, Expr.sequence_cons_append, Expr.outcomes,
        Hint.outcomes_group _ hrest, List.flatMap_map, readings]
      refine forall₂_flatMap fun left hleft => ?_
      have hsuffix := (Hint.ofName hint).expr.remainders_suffix rest left hleft
      have hbounds : 2 * (index + 1 + (hints ps).length + 1) ≤
          (recordGroup text slots index rest left).size := by
        rw [size_recordGroup]
        omega
      rw [List.forall₂_map_left_iff]
      exact (ih (hsuffix.trans hrest) hbounds).imp fun parts s hs =>
        hs.cons (by omega) hrest hsuffix

end Rehearsal.Pattern
