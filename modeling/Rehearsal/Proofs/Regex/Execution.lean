import Rehearsal.Proofs.Regex.Layout

/-!
# What the code of an expression does

The code of a productive expression does what the outcomes of the expression say: the search from
its start ends as the search from the place that follows does at the first outcome from which that
one succeeds. This is shown along the construction of the code. It makes the program of an
expression find the preferred outcome.
-/

namespace Rehearsal.Regex

variable {α β : Type} {code code' whole : Code} {text : Array Char} {entry middle next : Nat}

/-! ## Candidates -/

/-- What the first candidate leads to that leads to anything, or nothing if none does. -/
inductive FirstOf (Leads : α → Option β → Prop) : List α → Option β → Prop
  | nil : FirstOf Leads [] none
  | found {a rest b} : Leads a (some b) → FirstOf Leads (a :: rest) (some b)
  | later {a rest r} : Leads a none → FirstOf Leads rest r → FirstOf Leads (a :: rest) r

namespace FirstOf

variable {Leads Leads' : α → Option β → Prop} {candidates others : List α} {r : Option β}

/-- What the candidates lead to may be seen as what else they lead to. -/
theorem mono (h : FirstOf Leads candidates r)
    (himp : ∀ a ∈ candidates, ∀ r, Leads a r → Leads' a r) :
    FirstOf Leads' candidates r := by
  induction h with
  | nil => exact .nil
  | found ha => exact .found (himp _ List.mem_cons_self _ ha)
  | later ha _ ih =>
    exact .later (himp _ List.mem_cons_self _ ha) (ih fun a h => himp a (List.mem_cons_of_mem _ h))

/-- A single candidate. -/
theorem of_singleton {a : α} (h : FirstOf Leads [a] r) : Leads a r := by
  cases h with
  | found ha => exact ha
  | later ha hnil =>
    cases hnil
    exact ha

/-- Of two lists of candidates, the second matters if the first leads to nothing. -/
theorem of_append (h : FirstOf Leads (candidates ++ others) r) :
    (∃ b, r = some b ∧ FirstOf Leads candidates (some b)) ∨
    FirstOf Leads candidates none ∧ FirstOf Leads others r := by
  induction candidates with
  | nil => exact .inr ⟨.nil, h⟩
  | cons a rest ih =>
    cases h with
    | found ha => exact .inl ⟨_, rfl, .found ha⟩
    | later ha hrest =>
      rcases ih hrest with ⟨b, rfl, hb⟩ | ⟨hnone, hothers⟩
      · exact .inl ⟨b, rfl, .later ha hb⟩
      · exact .inr ⟨.later ha hnone, hothers⟩

/-- Candidates that are made from other candidates in order. -/
theorem of_flatMap {γ : Type} {makers : List γ} {f : γ → List α}
    (h : FirstOf Leads (makers.flatMap f) r) :
    FirstOf (fun c => FirstOf Leads (f c)) makers r := by
  induction makers with
  | nil =>
    cases h
    exact .nil
  | cons c rest ih =>
    rw [List.flatMap_cons] at h
    rcases h.of_append with ⟨b, rfl, hb⟩ | ⟨hnone, hrest⟩
    · exact .found hb
    · exact .later hnone (ih hrest)

end FirstOf

/-! ## Pieces of code -/

/-- The search from a place and a spot ends with `r`. -/
def Leads (code : Code) (text : Array Char) (place : Nat) (s : Spot) (r : Option Spot) : Prop :=
  ∃ n, Tries code text n place s r

/-- The code that starts at `entry` does what `outs` says and goes on at `next`. -/
def Does (code : Code) (text : Array Char) (entry next : Nat) (outs : Spot → List Spot) : Prop :=
  ∀ s r, FirstOf (Leads code text next) (outs s) r → Leads code text entry s r

namespace Does

variable {outs further : Spot → List Spot}

/-- No code at all leaves the spot as it is. -/
theorem refl (code : Code) (text : Array Char) (next : Nat) :
    Does code text next next fun s => [s] :=
  fun _ _ h => h.of_singleton

/-- Code that is followed by other code. -/
theorem trans (h : Does code text entry middle outs) (h' : Does code text middle next further) :
    Does code text entry next fun s => (outs s).flatMap further :=
  fun s r hfirst => h s r (hfirst.of_flatMap.mono fun _ _ _ ht => h' _ _ ht)

/-- An alternative is tried once the one before it has failed. -/
theorem split {first second place : Nat} (hcode : code[place]? = some (.split first second))
    (h : Does code text first next outs) (h' : Does code text second next further) :
    Does code text place next fun s => outs s ++ further s := by
  intro s r hfirst
  rcases hfirst.of_append with ⟨t, rfl, ht⟩ | ⟨hnone, hr⟩
  · obtain ⟨n, hn⟩ := h s _ ht
    exact ⟨n + 1, .first hcode hn⟩
  · obtain ⟨n, hn⟩ := h s _ hnone
    obtain ⟨m, hm⟩ := h' s _ hr
    exact ⟨n.max m + 1, .second hcode (hn.mono (Nat.le_max_left n m))
      (hm.mono (Nat.le_max_right n m))⟩

/-- A choice between code and none. -/
theorem choice {greedy : Bool} {body place : Nat}
    (hcode : code[place]? = some (choose greedy body next)) (h : Does code text body next outs) :
    Does code text place next fun s => if greedy then outs s ++ [s] else s :: outs s := by
  cases greedy with
  | true => exact .split hcode h (.refl code text next)
  | false => exact .split hcode (.refl code text next) h

/-- A mark before code. -/
theorem mark {slot place : Nat} (hcode : code[place]? = some (.mark slot entry))
    (h : Does code text entry next outs) :
    Does code text place next fun s => outs (s.mark slot) := by
  intro s r hfirst
  obtain ⟨n, hn⟩ := h _ r hfirst
  exact ⟨n + 1, .mark hcode hn⟩

/-- An instruction that takes a character of a set, if there is one. -/
theorem take {chars : CharSet} {place : Nat} (hcode : code[place]? = some (.consume chars next)) :
    Does code text place next fun s =>
      if text[s.position]?.any chars.contains then [s.next] else [] := by
  intro s r hfirst
  dsimp only at hfirst
  split at hfirst
  · next hany =>
    obtain ⟨n, hn⟩ := hfirst.of_singleton
    exact ⟨n + 1, .take hcode hany hn⟩
  · next hany =>
    cases hfirst
    exact ⟨1, .refuse hcode (Bool.eq_false_iff.2 hany)⟩

/-- An instruction that looks at the characters around a position. -/
theorem check {a : Assertion} {place : Nat} (hcode : code[place]? = some (.check a next)) :
    Does code text place next fun s =>
      if a.holds (charBefore text s.position) text[s.position]? then [s] else [] := by
  intro s r hfirst
  dsimp only at hfirst
  split at hfirst
  · next hholds =>
    obtain ⟨n, hn⟩ := hfirst.of_singleton
    exact ⟨n + 1, .pass hcode hholds hn⟩
  · next hholds =>
    cases hfirst
    exact ⟨1, .fail hcode (Bool.eq_false_iff.2 hholds)⟩

/-- A loop that is left at `next`, if each turn takes a character. The induction is on
the characters left. -/
theorem loop {greedy : Bool} {body place : Nat}
    (hcode : code[place]? = some (choose greedy body next)) (h : Does code text body place outs)
    (houts : Advances text outs) :
    Does code text place next (unbounded text outs greedy) := by
  intro s
  induction hleft : text.size - s.position using Nat.strongRecOn generalizing s with
  | ind left ih =>
  intro r hfirst
  have hturns : ∀ r, FirstOf (Leads code text next)
      ((outs s).flatMap (unbounded text outs greedy)) r →
      Leads code text body s r := by
    refine fun r hturn => h s r (hturn.of_flatMap.mono fun o ho r' ho' => ?_)
    have := houts s o ho
    exact ih (text.size - o.position) (by omega) o rfl r' ho'
  rw [unbounded_eq houts] at hfirst
  cases greedy with
  | true =>
    rcases hfirst.of_append with ⟨t, rfl, ht⟩ | ⟨hnone, hr⟩
    · obtain ⟨n, hn⟩ := hturns _ ht
      exact ⟨n + 1, .first hcode hn⟩
    · obtain ⟨n, hn⟩ := hturns _ hnone
      obtain ⟨m, hm⟩ := hr.of_singleton
      exact ⟨n.max m + 1, .second hcode (hn.mono (Nat.le_max_left n m))
        (hm.mono (Nat.le_max_right n m))⟩
  | false =>
    cases hfirst with
    | found hs =>
      obtain ⟨n, hn⟩ := hs
      exact ⟨n + 1, .first hcode hn⟩
    | later hs hr =>
      obtain ⟨n, hn⟩ := hs
      obtain ⟨m, hm⟩ := hturns _ hr
      exact ⟨n.max m + 1, .second hcode (hn.mono (Nat.le_max_left n m))
        (hm.mono (Nat.le_max_right n m))⟩

end Does

/-! ## Expressions -/

/-- From the place `first` on, the whole code is the given one as far as that goes. -/
def Includes (whole code : Code) (first : Nat) : Prop :=
  ∀ i, first ≤ i → i < code.size → whole[i]? = code[i]?

namespace Includes

variable {first first' : Nat}

theorem of_le (h : Includes whole code first) (hle : first ≤ first') : Includes whole code first' :=
  fun i hi => h i (Nat.le_trans hle hi)

/-- What has more added to it is included as well. -/
theorem of_kept (h : Includes whole code' first) (hkept : Kept code code') :
    Includes whole code first :=
  fun i hi hsize => (h i hi (Nat.lt_of_lt_of_le hsize hkept.size_le)).trans (hkept.kept i hsize)

/-- The last instruction of code that is included. -/
theorem getElem?_push {instruction : Instruction} (h : Includes whole (code.push instruction) first)
    (hfirst : first ≤ code.size) : whole[code.size]? = some instruction := by
  rw [h _ hfirst (by simp), Array.getElem?_push_size]

end Includes

/-- The way to lay out code leads to code that does what `outs` says. -/
def LaysOut (text : Array Char) (lay : Nat → Code → Nat × Code) (outs : Spot → List Spot) : Prop :=
  ∀ next code whole, Includes whole (lay next code).2 code.size →
    Does whole text (lay next code).1 next outs

section
variable {lay : Nat → Code → Nat × Code} {outs : Spot → List Spot}
  (hlay : ∀ next code, Laid code next (lay next code).1 (lay next code).2)
  (houts : LaysOut text lay outs)
include hlay houts

/-- Copies do exactly so many turns. -/
theorem layCopies_does (n : Nat) : LaysOut text (layCopies lay n) (times outs n) := by
  intro next code whole hwhole
  induction n generalizing next code with
  | zero => exact .refl whole text next
  | succ n ih =>
    have hlast := hlay next code
    have hcopies := layCopies_laid hlay n (lay next code).1 (lay next code).2
    exact (ih _ _ (hwhole.of_le hlast.size_le)).trans (houts _ _ _ (hwhole.of_kept hcopies.toKept))

/-- Each optional turn is one turn more than those that may follow it. -/
theorem layOptional_does (greedy : Bool) (n m : Nat)
    (h : Does whole text entry next (upTo outs greedy m))
    (hwhole : Includes whole (layOptional lay greedy next n entry code).2 code.size) :
    Does whole text (layOptional lay greedy next n entry code).1
      next (upTo outs greedy (n + m)) := by
  induction n generalizing m entry code with
  | zero =>
    rw [Nat.zero_add]
    exact h
  | succ n ih =>
    have hbody := hlay entry code
    have hrest := layOptional_kept hlay greedy next n (lay entry code).2.size
      ((lay entry code).2.push (choose greedy (lay entry code).1 next))
    have hpushed := hwhole.of_kept hrest
    have hturn := houts entry code whole (hpushed.of_kept (.push _ _))
    have hchoice := Does.choice (hpushed.getElem?_push hbody.size_le) (hturn.trans h)
    rw [Nat.add_right_comm]
    refine ih (m + 1) hchoice (hwhole.of_le ?_)
    rw [Array.size_push]
    exact Nat.le_succ_of_le hbody.size_le

/-- A loop whose choice is laid out first does any number of turns. -/
theorem layLoop_does (greedy : Bool) (next : Nat) (code : Code) (hforward : Advances text outs)
    (hwhole : Includes whole (layPlus lay greedy next code).2 code.size) :
    Does whole text code.size next (unbounded text outs greedy) ∧
    Does whole text (layPlus lay greedy next code).1 code.size outs := by
  have hbody := hlay code.size (code.push .accept)
  have hsize := hbody.size_le
  rw [Array.size_push] at hsize
  have hchoice : whole[code.size]? =
      some (choose greedy (lay code.size (code.push .accept)).1 next) := by
    rw [hwhole _ (Nat.le_refl _) (by simp only [layPlus, Array.size_setIfInBounds]; omega)]
    exact Array.getElem?_setIfInBounds_self_of_lt hsize
  have hincludes : Includes whole (lay code.size (code.push .accept)).2
      (code.push .accept).size := by
    intro i hi hlt
    rw [Array.size_push] at hi
    rw [hwhole i (by omega) (by simp only [layPlus, Array.size_setIfInBounds]; omega)]
    exact Array.getElem?_setIfInBounds_ne (by omega)
  have hturn := houts _ _ whole hincludes
  exact ⟨.loop hchoice hturn hforward, hturn⟩

/-- Turns that must be made, followed by some more that may be. -/
theorem layCopies_layOptional_does (greedy : Bool) (min more next : Nat) (code : Code)
    (hwhole : Includes whole (layCopies lay min (layOptional lay greedy next more next code).1
      (layOptional lay greedy next more next code).2).2 code.size) :
    Does whole text (layCopies lay min (layOptional lay greedy next more next code).1
      (layOptional lay greedy next more next code).2).1 next
      fun s => (times outs min s).flatMap (upTo outs greedy more) := by
  have hoptional := layOptional_laid hlay greedy more (.refl code next)
  have hcopies := layCopies_laid hlay min (layOptional lay greedy next more next code).1
    (layOptional lay greedy next more next code).2
  exact (layCopies_does hlay houts min _ _ whole (hwhole.of_le hoptional.size_le)).trans
    (layOptional_does hlay houts greedy more 0 (.refl whole text next)
      (hwhole.of_kept hcopies.toKept))

/-- Turns that must be made, one at least, followed by any number of them. The last one that must be
made is the one that leads to the choice. -/
theorem layCopies_layPlus_does (greedy : Bool) (min next : Nat) (code : Code)
    (hforward : Advances text outs)
    (hwhole : Includes whole
      (layCopies lay min (layPlus lay greedy next code).1
        (layPlus lay greedy next code).2).2 code.size) :
    Does whole text (layCopies lay min (layPlus lay greedy next code).1
      (layPlus lay greedy next code).2).1 next
      fun s => (times outs (min + 1) s).flatMap (unbounded text outs greedy) := by
  have hplus := layPlus_laid hlay greedy next code
  have hcopies := layCopies_laid hlay min (layPlus lay greedy next code).1
    (layPlus lay greedy next code).2
  obtain ⟨hloop, hlast⟩ :=
    layLoop_does hlay houts greedy next code hforward (hwhole.of_kept hcopies.toKept)
  exact ((layCopies_does hlay houts min _ _ whole (hwhole.of_le hplus.size_le)).trans
    hlast).trans hloop

end

/-- The code of a productive expression does what the outcomes of the expression say. -/
theorem Expr.lay_does (e : Expr) (he : e.productive = true) :
    LaysOut text e.lay (e.outcomes text) := by
  induction e with
  | empty => exact fun next code whole _ => .refl whole text next
  | set chars ascii =>
    exact fun next code whole hwhole => .take (hwhole.getElem?_push (Nat.le_refl _))
  | assert a => exact fun next code whole hwhole => .check (hwhole.getElem?_push (Nat.le_refl _))
  | cat e f ihe ihf =>
    intro next code whole hwhole
    obtain ⟨he, hf⟩ := Bool.and_eq_true_iff.1 he
    have hsize := (f.lay_laid next code).size_le
    have hmore := e.lay_laid (f.lay next code).1 (f.lay next code).2
    exact (ihe he _ _ whole (hwhole.of_le hsize)).trans
      (ihf hf next code whole (hwhole.of_kept hmore.toKept))
  | alt e f ihe ihf =>
    intro next code whole hwhole
    obtain ⟨he, hf⟩ := Bool.and_eq_true_iff.1 he
    have hsize := (f.lay_laid next code).size_le
    have hmore := e.lay_laid next (f.lay next code).2
    have hboth := hwhole.of_kept (.push _ _)
    refine .split (hwhole.getElem?_push (Nat.le_trans hsize hmore.size_le)) ?_ ?_
    · exact ihe he next _ whole (hboth.of_le hsize)
    · exact ihf hf next code whole (hboth.of_kept hmore.toKept)
  | group index e ih =>
    intro next code whole hwhole
    have hlast := Kept.push code (.mark (2 * index + 1) next)
    have hbody := e.lay_laid code.size (code.push (.mark (2 * index + 1) next))
    have hwhole' := hwhole.of_kept (.push _ _)
    have hclose : Does whole text code.size next fun s => [s.mark (2 * index + 1)] :=
      (Does.refl whole text next).mark
      ((hwhole'.of_kept hbody.toKept).getElem?_push (Nat.le_refl _))
    have hinside := (ih he _ _ whole (hwhole'.of_le hlast.size_le)).trans hclose
    have hopen := hwhole.getElem?_push (Nat.le_trans hlast.size_le hbody.size_le)
    intro s r hfirst
    rw [outcomes, List.map_eq_flatMap] at hfirst
    exact hinside.mark hopen s r hfirst
  | loop e min max greedy ih =>
    intro next code whole hwhole
    obtain ⟨hbody, hmax⟩ := Bool.and_eq_true_iff.1 he
    cases max with
    | some max =>
      exact layCopies_layOptional_does e.lay_laid (ih hbody) greedy min (max - min) next code hwhole
    | none =>
      have hnonempty : e.canBeEmpty = false := by simpa using hmax
      have hforward : Advances text (e.outcomes text) := e.outcomes_advance hnonempty
      cases min with
      | zero =>
        simp only [lay, hnonempty, Bool.false_eq_true, ↓reduceIte] at hwhole ⊢
        intro s r hfirst
        refine (layLoop_does e.lay_laid (ih hbody) greedy next code hforward hwhole).1 s r ?_
        rwa [outcomes, times, List.flatMap_singleton] at hfirst
      | succ min =>
        exact layCopies_layPlus_does e.lay_laid (ih hbody) greedy min next code hforward hwhole

/-- The program of a productive expression finds the preferred outcome from the first position from
which the expression has one. -/
theorem Expr.search_program (e : Expr) (he : e.productive = true) (text : Array Char) :
    e.program.search text = (List.range (text.size + 1)).findSome? fun start =>
      (e.outcomes text ⟨start, e.program.blank⟩).head?.map (Program.matchAt start) := by
  obtain ⟨hclosed, hentry⟩ := e.program_closed
  refine e.program.search_eq hclosed hentry _ fun start _ => ?_
  have hlaid := e.lay_laid 0 #[.accept]
  -- At the place that follows, the program accepts whatever it has come to.
  have haccept : ∀ s, Leads e.program.code text 0 s (some s) := fun s =>
    ⟨1, .accept ((hlaid.kept 0 (by simp)).trans (by simp))⟩
  have hfirst : ∀ outs : List Spot, FirstOf (Leads e.program.code text 0) outs outs.head? := by
    intro outs
    cases outs with
    | nil => exact .nil
    | cons t rest => exact .found (haccept t)
  exact e.lay_does he 0 #[.accept] e.program.code (fun _ _ _ => rfl) _ _ (hfirst _)

/-- A productive expression after the start of the text is matched from there alone. -/
theorem Expr.search_textStart (e : Expr) (he : e.productive = true) (text : Array Char) :
    (cat (.assert .textStart) e).program.search text =
      (e.outcomes text ⟨0, (cat (.assert .textStart) e).program.blank⟩).head?.map
        (Program.matchAt 0) := by
  have hfirst : ∀ slots, (cat (.assert .textStart) e).outcomes text ⟨0, slots⟩ =
      e.outcomes text ⟨0, slots⟩ := by
    intro slots
    simp [outcomes, Assertion.holds, charBefore]
  have hlater : ∀ start slots, start < text.size →
      (cat (.assert .textStart) e).outcomes text ⟨start + 1, slots⟩ = [] := by
    intro start slots hstart
    simp [outcomes, Assertion.holds, charBefore, hstart]
  rw [search_program _ (by simpa [productive] using he), List.range_succ_eq_map,
    List.findSome?_cons, hfirst]
  cases (e.outcomes text ⟨0, (cat (.assert .textStart) e).program.blank⟩).head? with
  | some s => rfl
  | none =>
    refine List.findSome?_eq_none_iff.2 fun start hstart => ?_
    obtain ⟨before, hbefore, rfl⟩ := List.mem_map.1 hstart
    rw [Nat.succ_eq_add_one, hlater before _ (List.mem_range.1 hbefore)]
    rfl

end Rehearsal.Regex
