import Rehearsal.Proofs.Regex.Outcomes

/-!
# Plain expressions

What a plain expression, one without groups and assertions, matches depends on the characters
ahead alone. Its outcomes are described by what is left of the text after a match: the remainders,
the preferred one first.
-/

namespace Rehearsal.Regex

variable {α β : Type} {e f : Expr} {rest rest' : List Char}

namespace Expr

/-- Whether there are neither groups nor assertions in the expression. -/
def plain : Expr → Bool
  | .empty | .set _ _ => true
  | .assert _ | .group _ _ => false
  | .cat e f | .alt e f => e.plain && f.plain
  | .loop e _ _ _ => e.plain

/-- What is left of a text after the matches of a plain expression at its start, in the
order of preference. -/
def remainders : Expr → List Char → List (List Char)
  | .empty, rest => [rest]
  | .set _ _, [] => []
  | .set chars _, c :: rest => if chars.contains c then [rest] else []
  | .assert _, _ | .group _ _, _ => []
  | .cat e f, rest => (e.remainders rest).flatMap f.remainders
  | .alt e f, rest => e.remainders rest ++ f.remainders rest
  | .loop e min max greedy, rest =>
    (times e.remainders min rest).flatMap fun left =>
      match max with
      | some max => upTo e.remainders greedy (max - min) left
      | none => upTo e.remainders greedy left.length left

theorem remainders_set_cons (chars : CharSet) (ascii : Bool) (c : Char) (rest : List Char) :
    (Expr.set chars ascii).remainders (c :: rest) = if chars.contains c then [rest] else [] := rfl

theorem remainders_cat (e f : Expr) (rest : List Char) :
    (Expr.cat e f).remainders rest = (e.remainders rest).flatMap f.remainders := rfl

theorem remainders_alt (e f : Expr) (rest : List Char) :
    (Expr.alt e f).remainders rest = e.remainders rest ++ f.remainders rest := rfl

theorem remainders_loop_some (e : Expr) (min max : Nat) (greedy : Bool) (rest : List Char) :
    (Expr.loop e min (some max) greedy).remainders rest =
      (times e.remainders min rest).flatMap (upTo e.remainders greedy (max - min)) := rfl

theorem remainders_loop_none (e : Expr) (min : Nat) (greedy : Bool) (rest : List Char) :
    (Expr.loop e min none greedy).remainders rest =
      (times e.remainders min rest).flatMap fun left => upTo e.remainders greedy left.length left :=
  rfl

end Expr

/-! ## Remainders and outcomes -/

/-- The spot of a text from which `rest` is ahead. -/
def spotBefore (text : Array Char) (slots : Slots) (rest : List Char) : Spot :=
  ⟨text.size - rest.length, slots⟩

/-- The next character is the first of those ahead. -/
theorem getElem?_spotBefore {text : Array Char} (slots : Slots) (h : rest <:+ text.toList) :
    text[(spotBefore text slots rest).position]? = rest.head? := by
  obtain ⟨before, hbefore⟩ := h
  have hsize : text.size = before.length + rest.length := by
    rw [← Array.length_toList, ← hbefore, List.length_append]
  rw [spotBefore, hsize, Nat.add_sub_cancel, ← Array.getElem?_toList, ← hbefore,
    List.getElem?_append_right (Nat.le_refl _), Nat.sub_self, List.head?_eq_getElem?]

/-- After the next character, what comes after it is ahead. -/
theorem next_spotBefore {text : Array Char} {slots : Slots} {c : Char}
    (h : c :: rest <:+ text.toList) :
    (spotBefore text slots (c :: rest)).next = spotBefore text slots rest := by
  have hsize := Nat.le_trans h.length_le (Nat.le_of_eq Array.length_toList)
  rw [List.length_cons] at hsize
  simp only [spotBefore, Spot.next, List.length_cons, Spot.mk.injEq, and_true]
  omega

section
variable {body : α → List α} {body' : β → List β} {view : α → β} {Inv : α → Prop}
  (hbody : ∀ a, Inv a → body' (view a) = (body a).map view)
  (hinv : ∀ a, Inv a → ∀ b ∈ body a, Inv b)
include hbody hinv

/-- Turns that correspond lead to what corresponds. -/
theorem times_map (n : Nat) {a : α} (ha : Inv a) :
    times body' n (view a) = (times body n a).map view ∧ ∀ b ∈ times body n a, Inv b := by
  induction n with
  | zero => exact ⟨rfl, fun b hb => List.mem_singleton.1 hb ▸ ha⟩
  | succ n ih =>
    refine ⟨?_, fun b hb => ?_⟩
    · rw [times, times, ih.1, List.flatMap_map, List.map_flatMap]
      exact List.flatMap_congr fun b hb => hbody b (ih.2 b hb)
    · obtain ⟨c, hc, hb⟩ := List.mem_flatMap.1 hb
      exact hinv c (ih.2 c hc) b hb

/-- Optional turns that correspond lead to what corresponds. -/
theorem upTo_map (greedy : Bool) (n : Nat) {a : α} (ha : Inv a) :
    upTo body' greedy n (view a) = (upTo body greedy n a).map view ∧
    ∀ b ∈ upTo body greedy n a, Inv b := by
  induction n generalizing a with
  | zero => exact ⟨rfl, fun b hb => List.mem_singleton.1 hb ▸ ha⟩
  | succ n ih =>
    refine ⟨?_, fun b hb => ?_⟩
    · have hturns : (body' (view a)).flatMap (upTo body' greedy n) =
          ((body a).flatMap (upTo body greedy n)).map view := by
        rw [hbody a ha, List.flatMap_map, List.map_flatMap]
        exact List.flatMap_congr fun b hb => (ih (hinv a ha b hb)).1
      rw [upTo, upTo, hturns]
      split
      · rw [List.map_append, List.map_singleton]
      · rw [List.map_cons]
    · rcases mem_upTo_succ.1 hb with rfl | ⟨c, hc, hb⟩
      · exact ha
      · exact (ih (hinv a ha c hc)).2 b hb

end

namespace Expr

/-- Every remainder is the end of the text. -/
theorem remainders_suffix (e : Expr) : ∀ rest, ∀ r ∈ e.remainders rest, r <:+ rest := by
  -- What holds of one turn of a loop holds of several, since an end of an end is an end.
  have hrefl : ∀ a : List Char, a <:+ a := List.suffix_refl
  have htrans : ∀ a b c : List Char, b <:+ a → c <:+ b → c <:+ a := fun _ _ _ h h' => h'.trans h
  induction e with
  | empty =>
    intro rest r hr
    obtain rfl := List.mem_singleton.1 hr
    exact List.suffix_refl r
  | set chars ascii =>
    intro rest r hr
    cases rest with
    | nil => cases hr
    | cons c rest =>
      rw [remainders_set_cons] at hr
      split at hr
      · obtain rfl := List.mem_singleton.1 hr
        exact List.suffix_cons c r
      · cases hr
  | assert a => exact fun _ _ hr => absurd hr List.not_mem_nil
  | group index e ih => exact fun _ _ hr => absurd hr List.not_mem_nil
  | cat e f ihe ihf =>
    intro rest r hr
    obtain ⟨middle, hmiddle, hr⟩ := List.mem_flatMap.1 hr
    exact (ihf middle r hr).trans (ihe rest middle hmiddle)
  | alt e f ihe ihf =>
    intro rest r hr
    rcases List.mem_append.1 hr with hr | hr
    · exact ihe rest r hr
    · exact ihf rest r hr
  | loop e min max greedy ih =>
    intro rest r hr
    obtain ⟨left, hleft, hr⟩ := List.mem_flatMap.1 hr
    refine htrans _ _ _ (times_related (R := fun a b => b <:+ a) hrefl htrans ih min rest
      left hleft) ?_
    cases max with
    | some max => exact upTo_related (R := fun a b => b <:+ a) hrefl htrans ih greedy _ left r hr
    | none => exact upTo_related (R := fun a b => b <:+ a) hrefl htrans ih greedy _ left r hr

/-- The outcomes of a plain expression are the spots before its remainders. -/
theorem outcomes_spotBefore {text : Array Char} (slots : Slots) (he : e.plain = true)
    (h : rest <:+ text.toList) :
    e.outcomes text (spotBefore text slots rest) =
      (e.remainders rest).map (spotBefore text slots) := by
  induction e generalizing rest with
  | empty => rfl
  | set chars ascii =>
    rw [outcomes, getElem?_spotBefore slots h]
    cases rest with
    | nil => rfl
    | cons c rest =>
      rw [remainders_set_cons, List.head?_cons, Option.any_some, next_spotBefore h]
      split <;> rfl
  | assert a => cases he
  | group index e ih => cases he
  | cat e f ihe ihf =>
    obtain ⟨he, hf⟩ := Bool.and_eq_true_iff.1 he
    rw [outcomes, remainders_cat, ihe he h, List.flatMap_map, List.map_flatMap]
    exact List.flatMap_congr fun r hr => ihf hf ((e.remainders_suffix rest r hr).trans h)
  | alt e f ihe ihf =>
    obtain ⟨he, hf⟩ := Bool.and_eq_true_iff.1 he
    rw [outcomes, remainders_alt, ihe he h, ihf hf h, List.map_append]
  | loop e min max greedy ih =>
    have hbody : ∀ r, r <:+ text.toList →
        e.outcomes text (spotBefore text slots r) = (e.remainders r).map (spotBefore text slots) :=
      fun r hr => ih he hr
    have hinv : ∀ r, r <:+ text.toList → ∀ b ∈ e.remainders r, b <:+ text.toList :=
      fun r hr b hb => (e.remainders_suffix r b hb).trans hr
    obtain ⟨htimes, hleft⟩ := times_map hbody hinv min h
    rw [outcomes, remainders, htimes, List.flatMap_map, List.map_flatMap]
    refine List.flatMap_congr fun left hmem => ?_
    cases max with
    | some max => exact (upTo_map hbody hinv greedy _ (hleft left hmem)).1
    | none =>
      -- As many turns may be made as there are characters ahead of the spot, which are those left.
      have hsize := Nat.le_trans (hleft left hmem).length_le (Nat.le_of_eq Array.length_toList)
      have hahead : text.size - (spotBefore text slots left).position = left.length := by
        simp only [spotBefore]
        omega
      dsimp only
      rw [unbounded, hahead]
      exact (upTo_map hbody hinv greedy _ (hleft left hmem)).1

end Expr

end Rehearsal.Regex
