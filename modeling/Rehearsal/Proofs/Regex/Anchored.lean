import Rehearsal.Proofs.Regex.Layout

/-!
# Anchored expressions

An expression that checks the start of the text first and the end of the text last matches whole
texts only, whatever lies between the two, loops that take nothing included. The reason is the
layout of its program: the only instruction that accepts is reached through the check of the end
alone, and the check of the start is where every search starts.
-/

namespace Rehearsal.Regex

variable {code : Code} {text : Array Char}

/-! ## Moves of a search -/

/-- What every move of a search keeps. -/
structure KeptByMoves (code : Code) (text : Array Char) (Inv : Nat → Nat → Prop) : Prop where
  take : ∀ {place position chars next}, code[place]? = some (.consume chars next) →
    position < text.size →
    Inv place position → Inv next (position + 1)
  split : ∀ {place position first second}, code[place]? = some (.split first second) →
    Inv place position →
    Inv first position ∧ Inv second position
  mark : ∀ {place position slot next}, code[place]? = some (.mark slot next) → Inv place position →
    Inv next position
  check : ∀ {place position a next}, code[place]? = some (.check a next) →
    a.holds (charBefore text position) text[position]? = true → Inv place position →
    Inv next position

/-- An instruction that is not the default one stands in the code. -/
theorem getElem?_of_getD {place : Nat} {instruction : Instruction}
    (h : code.getD place .accept = instruction) (hne : instruction ≠ .accept) :
    code[place]? = some instruction := by
  rw [Array.getD_eq_getD_getElem?] at h
  cases hcode : code[place]? with
  | none =>
    rw [hcode] at h
    exact absurd h.symm hne
  | some found =>
    rw [hcode] at h
    exact congrArg some h

/-- What every move keeps holds where a search accepts. -/
theorem follow_accepts {Inv : Nat → Nat → Prop} (hkept : KeptByMoves code text Inv) (fuel : Nat)
    {place position : Nat} {slots : Slots} {visited : Visited} (h : Inv place position)
    {found : Slots × Nat}
    (hfound : (follow code text fuel place position slots visited).1 = some found) :
    ∃ last, code.getD last .accept = .accept ∧ Inv last found.2 := by
  induction fuel generalizing place position slots visited with
  | zero => cases hfound
  | succ fuel ih =>
    rw [follow] at hfound
    split at hfound
    · cases hfound
    dsimp only at hfound
    split at hfound
    · next hcode =>
      obtain rfl := Option.some.inj hfound
      exact ⟨place, hcode, h⟩
    · next chars next hcode =>
      have hcode := getElem?_of_getD hcode (by simp)
      split at hfound
      · next c hc =>
        split at hfound
        · exact ih (hkept.take hcode (Array.getElem?_eq_some_iff.1 hc).1 h) hfound
        · cases hfound
      · cases hfound
    · next first second hcode =>
      -- Whichever way succeeds, the invariant holds at its start.
      obtain ⟨hfirst, hsecond⟩ := hkept.split (getElem?_of_getD hcode (by simp)) h
      split at hfound
      · next result tried hresult =>
        have hresult : (follow code text fuel first position slots
            (visited.insert (place, position))).1 =
            some found := by
          rw [hresult]
          exact hfound
        exact ih hfirst hresult
      · exact ih hsecond hfound
    · next slot next hcode => exact ih (hkept.mark (getElem?_of_getD hcode (by simp)) h) hfound
    · next a next hcode =>
      split at hfound
      · next hholds => exact ih (hkept.check (getElem?_of_getD hcode (by simp)) hholds h) hfound
      · cases hfound

/-- What every move keeps, and what holds at all starts, holds where a match of the program ends. -/
theorem Program.search_accepts (p : Program) {m : Match} (h : p.search text = some m)
    {Inv : Nat → Nat → Nat → Prop} (hkept : ∀ start, KeptByMoves p.code text (Inv start))
    (hstart : ∀ start ≤ text.size, Inv start p.entry start) :
    ∃ last, p.code.getD last .accept = .accept ∧ Inv m.start last m.stop := by
  suffices hfrom : ∀ (fuel count start : Nat) (visited : Visited), start + count = text.size + 1 →
      p.searchFrom text fuel count start visited = some m →
      ∃ last, p.code.getD last .accept = .accept ∧ Inv m.start last m.stop from
    hfrom _ _ 0 ∅ (Nat.zero_add _) h
  intro fuel count
  induction count with
  | zero =>
    intro _ _ _ h
    cases h
  | succ count ih =>
    intro start visited hcount h
    rw [searchFrom] at h
    split at h
    · next slots stop tried hfollow =>
      obtain rfl := Option.some.inj h
      exact follow_accepts (hkept start) fuel (hstart start (by omega)) (congrArg Prod.fst hfollow)
    · exact ih (start + 1) _ (by omega) h

/-! ## The layout of anchored expressions -/

/-- The last check of a sequence is laid out first, and what comes before it
goes on at that check. -/
theorem Expr.lay_sequence_append (es : List Expr) (a : Assertion) (next : Nat) (code : Code) :
    Laid (code.push (.check a next)) code.size ((sequence (es ++ [.assert a])).lay next code).1
      ((sequence (es ++ [.assert a])).lay next code).2 := by
  induction es with
  | nil => exact .refl _ _
  | cons e es ih =>
    rw [List.cons_append, sequence_cons_append]
    exact ih.trans (e.lay_laid _ _) ih.entry

/-- The code of an anchored expression: after the check of the start, which is its last instruction,
nothing but the check of the end accepts. -/
structure AnchoredCode (code : Code) (entry : Nat) : Prop where
  /-- The first instruction to be run checks the start. -/
  start : ∃ middle, code[entry]? = some (.check .textStart middle) ∧ 0 < middle ∧ middle < entry
  /-- Where the program accepts. -/
  accept : ∀ place ≤ entry, code.getD place .accept = .accept → place = 0
  /-- The instructions in between go on in between, the check of the end apart. -/
  inside : ∀ place < entry, ∀ instruction, code[place]? = some instruction →
    instruction = .check .textEnd 0 ∨ ∀ target ∈ instruction.targets, 0 < target ∧ target < entry

/-- An expression between the start and the end of the text has such code. -/
theorem Expr.program_anchored (es : List Expr) :
    AnchoredCode (sequence (.assert .textStart :: es ++ [.assert .textEnd])).program.code
      (sequence (.assert .textStart :: es ++ [.assert .textEnd])).program.entry := by
  rw [List.cons_append, sequence_cons_append]
  have hlaid : Laid #[.accept, .check .textEnd 0] 1
      ((sequence (es ++ [.assert .textEnd])).lay 0 #[.accept]).1
      ((sequence (es ++ [.assert .textEnd])).lay 0 #[.accept]).2 :=
    lay_sequence_append es .textEnd 0 #[.accept]
  simp only [program, lay]
  generalize (sequence (es ++ [.assert .textEnd])).lay 0 #[.accept] = laid at hlaid ⊢
  obtain ⟨middle, code⟩ := laid
  dsimp only at hlaid ⊢
  have hsize : 2 ≤ code.size := hlaid.size_le
  have hmiddle := hlaid.entry
  have hsecond : code[1]? = some (.check .textEnd 0) := hlaid.kept 1 (by decide)
  have hinside : ∀ {place}, 2 ≤ place → ∀ instruction, code[place]? = some instruction →
      instruction ≠ .accept ∧ ∀ target ∈ instruction.targets, target = 1 ∨
        2 ≤ target ∧ target < code.size :=
    fun hplace instruction => hlaid.targets _ instruction hplace
  have hpushed : ∀ place < code.size, (code.push (.check .textStart middle))[place]? =
      code[place]? :=
    (Kept.push code _).kept
  have hlast : (code.push (.check .textStart middle))[code.size]? =
      some (.check .textStart middle) :=
    Array.getElem?_push_size
  refine ⟨⟨middle, hlast, ?_⟩, fun place hplace haccept => ?_,
    fun place hplace instruction hcode => ?_⟩
  · have : middle = 1 ∨ 2 ≤ middle ∧ middle < code.size := hmiddle
    omega
  · -- Between the first place and the last, no instruction accepts, nor do the two checks.
    by_contra hpos
    rw [Array.getD_eq_getD_getElem?] at haccept
    rcases Nat.lt_or_eq_of_le hplace with hlt | rfl
    · rw [hpushed place hlt] at haccept
      rcases Nat.lt_or_ge 1 place with htwo | hone
      · have hget := Array.getElem?_eq_getElem hlt
        rw [hget, Option.getD_some] at haccept
        exact (hinside htwo _ hget).1 haccept
      · obtain rfl : place = 1 := by omega
        rw [hsecond] at haccept
        cases haccept
    · rw [hlast] at haccept
      cases haccept
  · rw [hpushed place hplace] at hcode
    rcases Nat.lt_or_ge 1 place with htwo | hone
    · refine .inr fun target htarget => ?_
      have := (hinside htwo _ hcode).2 target htarget
      omega
    · rcases Nat.le_one_iff_eq_zero_or_eq_one.1 hone with rfl | rfl
      · have hfirst : code[0]? = some .accept := hlaid.kept 0 (by decide)
        obtain rfl := Option.some.inj (hfirst.symm.trans hcode)
        exact .inr (by simp [Instruction.targets])
      · exact .inl (Option.some.inj (hcode.symm.trans hsecond))

/-- How far a search of anchored code from `start` may have come: it is still to check the start, or
it has started at the first position, and it accepts at the end only. -/
def WithinAnchors (text : Array Char) (entry start place position : Nat) : Prop :=
  position ≤ text.size ∧
    (place = entry ∧ position = start ∨
      start = 0 ∧ place < entry ∧ (place = 0 → position = text.size))

/-- Nothing but the first position has no character before it. -/
theorem eq_zero_of_textStart {position : Nat} (hposition : position ≤ text.size)
    (h : Assertion.textStart.holds (charBefore text position) text[position]? = true) :
    position = 0 := by
  cases position with
  | zero => rfl
  | succ position =>
    have hbefore : text[position]?.isNone = true := h
    rw [Option.isNone_iff_eq_none, Array.getElem?_eq_none_iff] at hbefore
    omega

/-- Anchored code stays within its anchors. -/
theorem AnchoredCode.keptByMoves {entry start : Nat} (hcode : AnchoredCode code entry) :
    KeptByMoves code text (WithinAnchors text entry start) := by
  obtain ⟨middle, hstart, hmiddle⟩ := hcode.start
  -- Once the start is checked, what is not the check of the end goes on in between.
  have hgoes : ∀ {place position instruction}, code[place]? = some instruction →
      (∀ a next, instruction ≠ .check a next) → WithinAnchors text entry start place position →
      start = 0 ∧ ∀ target ∈ instruction.targets, 0 < target ∧ target < entry := by
    intro place position instruction hinstruction hne hinv
    rcases hinv.2 with ⟨rfl, -⟩ | ⟨hzero, hlt, -⟩
    · exact absurd (Option.some.inj (hinstruction.symm.trans hstart)) (hne _ _)
    · exact ⟨hzero, (hcode.inside place hlt _ hinstruction).resolve_left (hne _ _)⟩
  have hwithin : ∀ {target position}, start = 0 → 0 < target ∧ target < entry →
      position ≤ text.size →
      WithinAnchors text entry start target position :=
    fun hzero htarget hposition => ⟨hposition, .inr ⟨hzero, htarget.2, fun h => by omega⟩⟩
  refine ⟨?_, ?_, ?_, ?_⟩
  · intro place position chars next hinstruction hposition hinv
    obtain ⟨hzero, htargets⟩ := hgoes hinstruction (by simp) hinv
    exact hwithin hzero (htargets next (by simp [Instruction.targets])) hposition
  · intro place position first second hinstruction hinv
    obtain ⟨hzero, htargets⟩ := hgoes hinstruction (by simp) hinv
    exact ⟨hwithin hzero (htargets first (by simp [Instruction.targets])) hinv.1,
      hwithin hzero (htargets second (by simp [Instruction.targets])) hinv.1⟩
  · intro place position slot next hinstruction hinv
    obtain ⟨hzero, htargets⟩ := hgoes hinstruction (by simp) hinv
    exact hwithin hzero (htargets next (by simp [Instruction.targets])) hinv.1
  · intro place position a next hinstruction hholds hinv
    rcases hinv.2 with ⟨rfl, rfl⟩ | ⟨hzero, hlt, -⟩
    · obtain ⟨rfl, rfl⟩ := Instruction.check.inj (Option.some.inj (hinstruction.symm.trans hstart))
      exact hwithin (eq_zero_of_textStart hinv.1 hholds) hmiddle hinv.1
    · rcases hcode.inside place hlt _ hinstruction with heq | htargets
      · obtain ⟨rfl, rfl⟩ := Instruction.check.inj heq
        have hafter : text[position]?.isNone = true := hholds
        rw [Option.isNone_iff_eq_none, Array.getElem?_eq_none_iff] at hafter
        exact ⟨hinv.1, .inr ⟨hzero, by omega, fun _ => Nat.le_antisymm hinv.1 hafter⟩⟩
      · exact hwithin hzero (htargets next (by simp [Instruction.targets])) hinv.1

/-- A match of an expression between the start and the end of the text is of the whole text. -/
theorem Expr.search_anchored (es : List Expr) {m : Match}
    (h : (sequence (.assert .textStart :: es ++ [.assert .textEnd])).program.search text = some m) :
    m.start = 0 ∧ m.stop = text.size := by
  have hcode := program_anchored es
  generalize (sequence (.assert .textStart :: es ++ [.assert .textEnd])).program = p at h hcode
  obtain ⟨last, haccept, hposition, hinv⟩ := p.search_accepts h (fun start => hcode.keptByMoves)
    fun start hstart => ⟨hstart, .inl ⟨rfl, rfl⟩⟩
  obtain ⟨middle, hstart, hmiddle⟩ := hcode.start
  rcases hinv with ⟨rfl, -⟩ | ⟨hzero, hlt, hend⟩
  · have := hcode.accept _ (Nat.le_refl _) haccept
    omega
  · exact ⟨hzero, hend (hcode.accept last (Nat.le_of_lt hlt) haccept)⟩

end Rehearsal.Regex
