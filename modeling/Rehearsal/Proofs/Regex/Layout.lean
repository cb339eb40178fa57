import Rehearsal.Proofs.Regex.Tries

/-!
# The layout of code

Code that is laid out keeps what was there, goes on only within itself or at the place that
follows, and never accepts by itself: `Laid`. This is shown along the construction of the
code, from the instructions to copies, options and loops. So the instructions of a program go
on at instructions of it.
-/

namespace Rehearsal.Regex

variable {code code' : Code} {entry middle next : Nat}

/-! ## What is laid out -/

/-- Instructions were only added. -/
structure Kept (code code' : Code) : Prop where
  /-- Nothing is taken away. -/
  size_le : code.size ≤ code'.size
  /-- What was there is kept. -/
  kept : ∀ i < code.size, code'[i]? = code[i]?

namespace Kept

theorem refl (code : Code) : Kept code code := ⟨Nat.le_refl _, fun _ _ => rfl⟩

theorem trans {code₁ : Code} (h : Kept code code₁) (h' : Kept code₁ code') : Kept code code' :=
  ⟨Nat.le_trans h.size_le h'.size_le,
    fun i hi => by rw [h'.kept i (Nat.lt_of_lt_of_le hi h.size_le), h.kept i hi]⟩

theorem push (code : Code) (instruction : Instruction) : Kept code (code.push instruction) := by
  refine ⟨by simp, fun i hi => ?_⟩
  rw [Array.getElem?_push_lt hi, Array.getElem?_eq_getElem]

end Kept

/-- Code that was laid out after `code`, starts at `entry` and goes on at `next`. -/
structure Laid (code : Code) (next entry : Nat) (code' : Code) : Prop extends Kept code code' where
  /-- The code starts with an instruction of its own, unless it has none. -/
  entry : entry = next ∨ code.size ≤ entry ∧ entry < code'.size
  /-- No new instruction accepts, and each goes on at a new one or at `next`. -/
  targets : ∀ (i : Nat) (instruction : Instruction), code.size ≤ i → code'[i]? = some instruction →
    instruction ≠ .accept ∧ ∀ target ∈ instruction.targets, target = next ∨
      code.size ≤ target ∧ target < code'.size

namespace Laid

/-- To lay out nothing is to start at what follows. -/
theorem refl (code : Code) (next : Nat) : Laid code next next code := by
  refine ⟨.refl code, .inl rfl, fun i instruction hi hcode => ?_⟩
  rw [Array.getElem?_eq_none hi] at hcode
  cases hcode

/-- More may be laid out that goes on at what follows or at what is already laid out. -/
theorem trans {next' : Nat} {code₁ : Code} (h : Laid code next middle code₁)
    (h' : Laid code₁ next' entry code')
    (hnext : next' = next ∨ code.size ≤ next' ∧ next' < code₁.size) :
    Laid code next entry code' := by
  have hsize := h.size_le
  have hsize' := h'.size_le
  refine ⟨h.toKept.trans h'.toKept, ?_, fun i instruction hi hcode => ?_⟩
  · rcases h'.entry with rfl | hentry <;> omega
  · rcases Nat.lt_or_ge i code₁.size with hlt | hge
    · rw [h'.kept i hlt] at hcode
      obtain ⟨haccept, htargets⟩ := h.targets i instruction hi hcode
      refine ⟨haccept, fun target htarget => ?_⟩
      have := htargets target htarget
      omega
    · obtain ⟨haccept, htargets⟩ := h'.targets i instruction hge hcode
      refine ⟨haccept, fun target htarget => ?_⟩
      rcases htargets target htarget with rfl | hnew <;> omega

/-- One more instruction may be laid out and started with. -/
theorem push {instruction : Instruction} (h : Laid code next entry code')
    (haccept : instruction ≠ .accept)
    (htargets : ∀ target ∈ instruction.targets, target = next ∨
      code.size ≤ target ∧ target < code'.size) :
    Laid code next code'.size (code'.push instruction) := by
  have hsize := h.size_le
  refine ⟨h.toKept.trans (.push code' instruction), .inr (by simp; omega),
    fun i other hi hcode => ?_⟩
  rw [Array.getElem?_push] at hcode
  split at hcode
  · obtain rfl := Option.some.inj hcode
    refine ⟨haccept, fun target htarget => ?_⟩
    have := htargets target htarget
    simp only [Array.size_push]
    omega
  · obtain ⟨haccept', htargets'⟩ := h.targets i other hi hcode
    refine ⟨haccept', fun target htarget => ?_⟩
    have := htargets' target htarget
    simp only [Array.size_push]
    omega

end Laid

/-- A choice goes on at the body or at what follows. -/
theorem choose_ne_accept (greedy : Bool) (body next : Nat) : choose greedy body next ≠ .accept := by
  cases greedy <;> simp [choose]

theorem mem_targets_choose {greedy : Bool} {body next target : Nat} :
    target ∈ (choose greedy body next).targets ↔ target = body ∨ target = next := by
  cases greedy <;> simp [choose, Instruction.targets, or_comm]

/-- A body that goes on at a choice before it, which repeats or leaves it, makes a loop. -/
theorem Laid.loop {greedy : Bool} {body : Nat} {code₁ : Code}
    (h : Laid (code.push .accept) code.size body code₁) :
    Laid code next code.size (code₁.setIfInBounds code.size (choose greedy body next)) ∧
    Laid code next body (code₁.setIfInBounds code.size (choose greedy body next)) := by
  have hsize := h.size_le
  rw [Array.size_push] at hsize
  have hbody := h.entry
  rw [Array.size_push] at hbody
  -- The choice stands where the body was told to go on; all other instructions
  -- are those of the body.
  have htargets : ∀ (i : Nat) (instruction : Instruction), code.size ≤ i →
      (code₁.setIfInBounds code.size (choose greedy body next))[i]? = some instruction →
      instruction ≠ .accept ∧ ∀ target ∈ instruction.targets, target = next ∨
        code.size ≤ target ∧ target <
          (code₁.setIfInBounds code.size (choose greedy body next)).size := by
    intro i instruction hi hcode
    rw [Array.size_setIfInBounds]
    rw [Array.getElem?_setIfInBounds] at hcode
    split at hcode
    · rw [if_pos (by omega)] at hcode
      obtain rfl := Option.some.inj hcode
      refine ⟨choose_ne_accept _ _ _, fun target htarget => ?_⟩
      have := mem_targets_choose.1 htarget
      omega
    · obtain ⟨haccept, htargets⟩ := h.targets i instruction (by rw [Array.size_push]; omega) hcode
      refine ⟨haccept, fun target htarget => ?_⟩
      have := htargets target htarget
      rw [Array.size_push] at this
      omega
  have hkept : Kept code (code₁.setIfInBounds code.size (choose greedy body next)) := by
    refine ⟨by rw [Array.size_setIfInBounds]; omega, fun i hi => ?_⟩
    rw [Array.getElem?_setIfInBounds_ne (by omega),
      ((Kept.push code .accept).trans h.toKept).kept i hi]
  refine ⟨⟨hkept, ?_, htargets⟩, ⟨hkept, ?_, htargets⟩⟩
  all_goals rw [Array.size_setIfInBounds]; omega

section
variable {lay : Nat → Code → Nat × Code}
  (hlay : ∀ next code, Laid code next (lay next code).1 (lay next code).2)
include hlay

/-- Copies one before the other are laid out after the first of them. -/
theorem layCopies_laid (n next : Nat) (code : Code) :
    Laid code next (layCopies lay n next code).1 (layCopies lay n next code).2 := by
  induction n generalizing next code with
  | zero => exact .refl _ _
  | succ n ih =>
    have hlast := hlay next code
    exact hlast.trans (ih _ _) hlast.entry

/-- Optional turns are laid out after those that may follow them. -/
theorem layOptional_laid (greedy : Bool) (n : Nat) (h : Laid code next entry code') :
    Laid code next (layOptional lay greedy next n entry code').1
      (layOptional lay greedy next n entry code').2 := by
  induction n generalizing entry code' with
  | zero => exact h
  | succ n ih =>
    have hbody := h.trans (hlay entry code') h.entry
    refine ih (hbody.push (choose_ne_accept _ _ _) fun target htarget => ?_)
    rcases mem_targets_choose.1 htarget with rfl | rfl
    · exact hbody.entry
    · exact .inl rfl

/-- Nothing is taken away for optional turns. -/
theorem layOptional_kept (greedy : Bool) (next n entry : Nat) (code : Code) :
    Kept code (layOptional lay greedy next n entry code).2 := by
  induction n generalizing entry code with
  | zero => exact .refl code
  | succ n ih => exact ((hlay entry code).toKept.trans (.push _ _)).trans (ih _ _)

/-- One turn or more is a loop that is entered at its body. -/
theorem layPlus_laid (greedy : Bool) (next : Nat) (code : Code) :
    Laid code next (layPlus lay greedy next code).1 (layPlus lay greedy next code).2 :=
  (hlay code.size (code.push .accept)).loop.2

end

/-- Every expression is laid out. -/
theorem Expr.lay_laid (e : Expr) (next : Nat) (code : Code) :
    Laid code next (e.lay next code).1 (e.lay next code).2 := by
  induction e generalizing next code with
  | empty => exact .refl _ _
  | set chars ascii => exact (Laid.refl code next).push (by simp) (by simp [Instruction.targets])
  | assert a => exact (Laid.refl code next).push (by simp) (by simp [Instruction.targets])
  | cat e f ihe ihf =>
    have hf := ihf next code
    exact hf.trans (ihe _ _) hf.entry
  | alt e f ihe ihf =>
    have hf := ihf next code
    have he := ihe next (f.lay next code).2
    have hboth := hf.trans he (.inl rfl)
    refine hboth.push (by simp) fun target htarget => ?_
    -- A branch starts at `next` or within the code that was laid out for it.
    have hsize := hf.size_le
    have hsize' := he.size_le
    have hentry := hf.entry
    have hentry' := he.entry
    simp only [Instruction.targets, List.mem_cons, List.not_mem_nil, or_false] at htarget
    omega
  | group index e ih =>
    have hlast : Laid code next code.size (code.push (.mark (2 * index + 1) next)) :=
      (Laid.refl code next).push (by simp) (by simp [Instruction.targets])
    have hbody := hlast.trans (ih code.size (code.push (.mark (2 * index + 1) next))) hlast.entry
    refine hbody.push (by simp) fun target htarget => ?_
    rw [Instruction.targets, List.mem_singleton] at htarget
    exact htarget ▸ hbody.entry
  | loop e min max greedy ih =>
    cases max with
    | some max =>
      have hoptional := layOptional_laid ih greedy (max - min) (.refl code next)
      exact hoptional.trans (layCopies_laid ih min _ _) hoptional.entry
    | none =>
      cases min with
      | succ min =>
        have hplus := layPlus_laid ih greedy next code
        exact hplus.trans (layCopies_laid ih min _ _) hplus.entry
      | zero =>
        by_cases hempty : e.canBeEmpty = true
        · simp only [lay, hempty, ↓reduceIte]
          have hplus := layPlus_laid ih greedy next code
          refine hplus.push (choose_ne_accept _ _ _) fun target htarget => ?_
          rcases mem_targets_choose.1 htarget with rfl | rfl
          · exact hplus.entry
          · exact .inl rfl
        · simp only [lay, hempty, Bool.false_eq_true, ↓reduceIte]
          exact (ih code.size (code.push .accept)).loop.1

/-- A program goes on at instructions only. -/
theorem Expr.program_closed (e : Expr) :
    Closed e.program.code ∧ e.program.entry < e.program.code.size := by
  have hlaid := e.lay_laid 0 #[.accept]
  have hsize : 1 ≤ (e.lay 0 #[.accept]).2.size := hlaid.size_le
  constructor
  · intro place instruction hcode target htarget
    change target < (e.lay 0 #[.accept]).2.size
    change (e.lay 0 #[.accept]).2[place]? = some instruction at hcode
    rcases Nat.eq_zero_or_pos place with rfl | hpos
    · rw [hlaid.kept 0 (by simp)] at hcode
      obtain rfl : Instruction.accept = instruction := by simpa using hcode
      cases htarget
    · have := (hlaid.targets place instruction hpos hcode).2 target htarget
      omega
  · change (e.lay 0 #[.accept]).1 < (e.lay 0 #[.accept]).2.size
    have := hlaid.entry
    omega

end Rehearsal.Regex
