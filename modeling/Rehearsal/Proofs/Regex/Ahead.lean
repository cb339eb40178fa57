import Mathlib.Data.List.TakeDrop
import Rehearsal.Regex.Parser

/-!
# Reading with more text ahead

Whether a text is read by itself or with a closing parenthesis and a dollar sign after it makes no
difference to what is read, as long as reading stops before the parenthesis. One thing may go beyond
it: a comment that nothing ends takes the rest of the text, whatever the rest is. So two texts are
compared of which the second one goes on with the closing or is the same as the first. Every reader
keeps them so, and if it reads something from the first it reads the same from the second.
-/

namespace Rehearsal.Regex

variable {α β γ δ : Type} {a b : List Char} {f : Flags}

/-! ## Texts with more after them -/

/-- What closes an enclosed expression. -/
def closing : List Char := [')', '$']

/-- The second text is the first one with the closing after it, or just the first one. -/
def Ahead (a b : List Char) : Prop := b = a ++ closing ∨ b = a

namespace Ahead

theorem cons (c : Char) (h : Ahead a b) : Ahead (c :: a) (c :: b) :=
  h.imp (congrArg (c :: ·)) (congrArg (c :: ·))

/-- Either there is something left of both texts, and it starts alike, or there is
nothing left of the first. -/
theorem cases (h : Ahead a b) :
    (∃ c a' b', a = c :: a' ∧ b = c :: b' ∧ Ahead a' b') ∨ a = [] ∧ (b = closing ∨ b = []) := by
  cases a with
  | nil => exact .inr ⟨rfl, h⟩
  | cons c a =>
    left
    rcases h with rfl | rfl
    · exact ⟨c, a, a ++ closing, rfl, rfl, .inl rfl⟩
    · exact ⟨c, a, a, rfl, rfl, .inr rfl⟩

theorem length_le (h : Ahead a b) : a.length ≤ b.length := by
  rcases h with rfl | rfl
  · simp
  · exact Nat.le_refl _

theorem dropWhile {p : Char → Bool} (hp : p ')' = false) (h : Ahead a b) :
    Ahead (a.dropWhile p) (b.dropWhile p) := by
  rcases h with rfl | rfl
  · rw [List.dropWhile_append]
    split
    · next hnil =>
      left
      rw [List.isEmpty_iff.1 hnil]
      simp [closing, hp]
    · exact .inl rfl
  · exact .inr rfl

/-- No closing parenthesis is skipped, except in a comment. -/
theorem skipBlanks (inComment : Bool) (h : Ahead a b) :
    Ahead (skipBlanks inComment a) (skipBlanks inComment b) := by
  rcases h with rfl | rfl
  · induction a generalizing inComment with
    | nil =>
      -- A comment takes the closing.
      cases inComment
      · exact .inl (by decide +kernel)
      · exact .inr (by decide +kernel)
    | cons c a ih =>
      rw [List.cons_append, Regex.skipBlanks, Regex.skipBlanks]
      split
      · exact ih _
      · split
        · exact ih _
        · split
          · exact ih _
          · exact .inl rfl
  · exact .inr rfl

theorem skip (f : Flags) (h : Ahead a b) : Ahead (f.skip a) (f.skip b) := by
  rw [Flags.skip, Flags.skip]
  split
  · exact h.skipBlanks false
  · exact h

end Ahead

/-! ## Readings with more after them -/

/-- If the first reading succeeds, so does the second, with a related result. -/
def Succeeds (R : α → β → Prop) (r : Except SyntaxError α) (r' : Except SyntaxError β) : Prop :=
  ∀ x, r = .ok x → ∃ x', r' = .ok x' ∧ R x x'

/-- The first components are equal and the second ones related. -/
def Beside (R : β → β → Prop) (x x' : α × β) : Prop := x.1 = x'.1 ∧ R x.2 x'.2

/-- Pairs that are beside each other share their first component. -/
theorem Beside.exists_eq {R : β → β → Prop} {x x' : α × β} (h : Beside R x x') :
    ∃ first second second', x = (first, second) ∧ x' = (first, second') ∧ R second second' := by
  obtain ⟨first, second⟩ := x
  obtain ⟨first', second'⟩ := x'
  obtain ⟨rfl, hsecond⟩ := h
  exact ⟨first, second, second', rfl, rfl, hsecond⟩

namespace Succeeds

variable {R : α → β → Prop} {S : γ → δ → Prop}

theorem ok {x : α} {x' : β} (h : R x x') : Succeeds R (.ok x) (.ok x') := fun _ heq =>
  ⟨x', rfl, Except.ok.inj heq ▸ h⟩

theorem error {e : SyntaxError} {r' : Except SyntaxError β} : Succeeds R (.error e) r' := nofun

theorem bind {r : Except SyntaxError α} {r' : Except SyntaxError β} {f : α → Except SyntaxError γ}
    {f' : β → Except SyntaxError δ} (h : Succeeds R r r')
    (hf : ∀ x x', R x x' → Succeeds S (f x) (f' x')) :
    Succeeds S (r >>= f) (r' >>= f') := by
  intro z hz
  cases hr : r with
  | error e =>
    rw [hr] at hz
    cases hz
  | ok x =>
    rw [hr] at hz
    obtain ⟨x', hx', hR⟩ := h x hr
    rw [hx']
    exact hf x x' hR z hz

/-- The same may depend on the first component, where the second ones are related. -/
theorem bindBeside {R : γ → γ → Prop} {S : δ → δ → Prop} {r r' : Except SyntaxError (α × γ)}
    {f f' : α × γ → Except SyntaxError δ} (h : Succeeds (Beside R) r r')
    (hf : ∀ a {x x'}, R x x' → Succeeds S (f (a, x)) (f' (a, x'))) :
    Succeeds S (r >>= f) (r' >>= f') := by
  refine h.bind fun x x' hbeside => ?_
  obtain ⟨first, second, second', rfl, rfl, hsecond⟩ := hbeside.exists_eq
  exact hf first hsecond

/-- What is read may be put in another form. -/
theorem mapFirst {R : γ → γ → Prop} {g : α → β} {r r' : Except SyntaxError (α × γ)}
    (h : Succeeds (Beside R) r r') :
    Succeeds (Beside R) (do let (x, rest) ← r; .ok (g x, rest))
      (do let (x, rest) ← r'; .ok (g x, rest)) :=
  h.bindBeside fun _ _ _ hrest => .ok ⟨rfl, hrest⟩

/-- What follows the same reading may depend on what it gives. -/
theorem bindSame {S : γ → δ → Prop} (r : Except SyntaxError α) {f : α → Except SyntaxError γ}
    {f' : α → Except SyntaxError δ} (hf : ∀ x, Succeeds S (f x) (f' x)) :
    Succeeds S (r >>= f) (r >>= f') := by
  cases r with
  | error e => exact .error
  | ok x => exact hf x

/-- The same may be given with related texts. -/
theorem withRest {R : γ → γ → Prop} (r : Except SyntaxError α) (g : α → β) {x x' : γ} (h : R x x') :
    Succeeds (Beside R) (do let s ← r; .ok (g s, x)) (do let s ← r; .ok (g s, x')) :=
  bindSame r fun _ => .ok ⟨rfl, h⟩

end Succeeds

/-! ## Escapes -/

theorem readHexDigits_succeeds (f : Flags) (n acc : Nat) (h : Ahead a b) :
    Succeeds (Beside Ahead) (readHexDigits f n acc a) (readHexDigits f n acc b) := by
  induction n generalizing acc a b with
  | zero => exact .ok ⟨rfl, h⟩
  | succ n ih =>
    rcases h.cases with ⟨c, a, b, rfl, rfl, hrest⟩ | ⟨rfl, -⟩
    · rw [readHexDigits, readHexDigits]
      cases hexValue? c with
      | none => exact .error
      | some v => exact ih _ (hrest.skip f)
    · exact .error

theorem readBraced_succeeds (f : Flags) {n n' : Nat} (hle : n ≤ n') (acc : List Char)
    (h : Ahead a b) :
    Succeeds (Beside Ahead) (readBraced f n acc a) (readBraced f n' acc b) := by
  induction n generalizing n' acc a b with
  | zero => exact .error
  | succ n ih =>
    obtain ⟨m, rfl⟩ := Nat.exists_eq_add_of_le' hle
    rw [← Nat.add_assoc, readBraced, readBraced]
    rcases (h.skip f).cases with ⟨c, a', b', ha, hb, hrest⟩ | ⟨ha, -⟩
    · rw [ha, hb]
      by_cases hc : c = '}'
      · subst hc
        exact .ok ⟨rfl, hrest⟩
      · simp only
        exact ih (by omega) _ hrest
    · rw [ha]
      exact .error

/-- A number is made a character alike. -/
theorem charOfCode?_succeeds (code : Nat) (fixed : Bool) (h : Ahead a b) :
    Succeeds (Beside (Beside Ahead))
      (match charOfCode? code with
      | some c => .ok (c, fixed, a)
      | none => .error .hexInvalid)
      (match charOfCode? code with
      | some c => .ok (c, fixed, b)
      | none => .error .hexInvalid) := by
  cases charOfCode? code with
  | none => exact .error
  | some c => exact .ok ⟨rfl, rfl, h⟩

theorem readHex_succeeds (f : Flags) (digits : Nat) (h : Ahead a b) :
    Succeeds (Beside (Beside Ahead)) (readHex f digits a) (readHex f digits b) := by
  rw [readHex, readHex]
  have hskip := h.skip f
  rcases hskip.cases with ⟨c, a', b', ha, hb, hrest⟩ | ⟨ha, -⟩
  · rw [ha, hb] at hskip ⊢
    by_cases hc : c = '{'
    · subst hc
      refine (readBraced_succeeds f (Nat.succ_le_succ hrest.length_le) [] hrest).bind ?_
      rintro ⟨body, rest⟩ ⟨_, rest'⟩ ⟨rfl, hafter⟩
      dsimp only
      split
      · exact .error
      · cases body.mapM hexValue? with
        | none => exact .error
        | some values => exact charOfCode?_succeeds _ _ (hafter.skip f)
    · simp only [List.cons.injEq, hc, false_and, false_imp_iff, implies_true]
      refine (readHexDigits_succeeds f digits 0 hskip).bind ?_
      rintro ⟨code, rest⟩ ⟨_, rest'⟩ ⟨rfl, hafter⟩
      exact charOfCode?_succeeds _ _ hafter
  · rw [ha]
    exact .error

theorem readName_succeeds (first : Bool) (acc : List Char) (h : Ahead a b) :
    Succeeds (Beside Ahead) (readName first acc a) (readName first acc b) := by
  induction a generalizing first acc b with
  | nil => exact .error
  | cons c a ih =>
    obtain ⟨_, _, b, heq, rfl, hrest⟩ | ⟨hnil, -⟩ := h.cases
    · obtain ⟨rfl, rfl⟩ := List.cons.inj heq
      rw [readName, readName]
      split
      · split
        · exact .error
        · exact .ok ⟨rfl, hrest⟩
      · split
        · exact ih _ _ hrest
        · exact .error
    · cases hnil

/-- A property is given alike once it is looked up. -/
theorem propertySet_succeeds (f : Flags) (found : Option CharSet) (negated : Bool) (h : Ahead a b) :
    Succeeds (Beside Ahead)
      (match found with
      | some s => do
        let s ← f.negate negated (f.fold s)
        .ok (s, a)
      | none => .error .propertyUnknown)
      (match found with
      | some s => do
        let s ← f.negate negated (f.fold s)
        .ok (s, b)
      | none => .error .propertyUnknown) := by
  cases found with
  | none => exact .error
  | some s => exact .withRest _ id h

theorem readProperty_succeeds (f : Flags) (negated : Bool) (h : Ahead a b) :
    Succeeds (Beside Ahead) (readProperty f negated a) (readProperty f negated b) := by
  rw [readProperty, readProperty]
  rcases (h.skip f).cases with ⟨c, a', b', ha, hb, hrest⟩ | ⟨ha, -⟩
  · rw [ha, hb]
    by_cases hescape : c = '\\'
    · subst hescape
      exact .error
    by_cases hopen : c = '{'
    · subst hopen
      refine (readBraced_succeeds f (Nat.succ_le_succ hrest.length_le) [] hrest).bind ?_
      rintro ⟨name, rest⟩ ⟨_, rest'⟩ ⟨rfl, hafter⟩
      dsimp only
      split
      · exact .error
      exact propertySet_succeeds f _ _ hafter
    · simp only
      refine Succeeds.bind (R := Beside Ahead) (.ok ⟨rfl, hrest.skip f⟩) ?_
      rintro ⟨name, rest⟩ ⟨_, rest'⟩ ⟨rfl, hafter⟩
      dsimp only
      split
      · exact .error
      exact propertySet_succeeds f _ _ hafter
  · rw [ha]
    exact .error

/-- What may be skipped is not longer than the text. -/
theorem length_skip_le (f : Flags) (text : List Char) : (f.skip text).length ≤ text.length := by
  have hblanks : ∀ inComment, (skipBlanks inComment text).length ≤ text.length := by
    induction text with
    | nil => exact fun _ => Nat.le_refl _
    | cons c text ih =>
      intro inComment
      rw [skipBlanks]
      split
      · exact Nat.le_succ_of_le (ih _)
      · split
        · exact Nat.le_succ_of_le (ih _)
        · split
          · exact Nat.le_succ_of_le (ih _)
          · exact Nat.le_refl _
  rw [Flags.skip]
  split
  · exact hblanks false
  · exact Nat.le_refl _

/-- A reader that goes on from character to character as long as the characters are of some kind,
and gives what it has come to. It stops before the closing if a parenthesis is not of the kind. -/
theorem scan_ahead {σ ρ : Type} (f : Flags) (next : σ → Char → Option σ)
    {g : Nat → σ → List Char → ρ} {result : σ → List Char → ρ} {R : ρ → ρ → Prop}
    (hzero : ∀ s text, g 0 s text = result s text) (hnil : ∀ n s, g (n + 1) s [] = result s [])
    (hcons : ∀ n s c rest, g (n + 1) s (c :: rest) =
      ((next s c).map fun s => g n s (f.skip rest)).getD (result s (c :: rest)))
    (hresult : ∀ s {a b}, Ahead a b → R (result s a) (result s b))
    (hclosing : ∀ s, next s ')' = none) {n n' : Nat} (hle : n ≤ n') (s : σ) (h : Ahead a b)
    (hlength : a.length ≤ n) : R (g n s a) (g n' s b) := by
  -- Where the first text has ended, the reader of the second one goes no further.
  have hstop : ∀ n s {b}, b = closing ∨ b = [] → g n s b = result s b := by
    intro n s b hb
    cases n with
    | zero => exact hzero s b
    | succ n =>
      rcases hb with rfl | rfl
      · rw [closing, hcons, hclosing]
        rfl
      · exact hnil n s
  induction n generalizing n' s a b with
  | zero =>
    obtain rfl := List.eq_nil_of_length_eq_zero (Nat.le_zero.1 hlength)
    rw [hzero, hstop n' s h]
    exact hresult s h
  | succ n ih =>
    obtain ⟨m, rfl⟩ := Nat.exists_eq_add_of_le' hle
    rcases h.cases with ⟨c, a', b', rfl, rfl, hrest⟩ | ⟨rfl, hb⟩
    · rw [hcons, ← Nat.add_assoc, hcons]
      cases next s c with
      | none => exact hresult s h
      | some s' =>
        have := length_skip_le f a'
        rw [List.length_cons] at hlength
        exact ih (by omega) s' (hrest.skip f) (by omega)
    · rw [hnil, hstop _ s hb]
      exact hresult s h

/-- A name in braces is the same. -/
theorem collect_ahead (f : Flags) (isNamePart : Char → Bool) (hp : isNamePart ')' = false)
    {n n' : Nat} (hle : n ≤ n') (acc : List Char) (h : Ahead a b) (hlength : a.length ≤ n) :
    Beside Ahead (readBoundary.collect f isNamePart n acc a)
      (readBoundary.collect f isNamePart n' acc b) := by
  refine scan_ahead f (fun acc c => if isNamePart c then some (c :: acc) else none) (fun _ _ => rfl)
    (fun _ _ => rfl) (fun n acc c rest => ?_) (fun acc {a b} hab => ⟨rfl, hab⟩)
    (fun acc => by rw [hp]; rfl) hle acc h hlength
  rw [readBoundary.collect.eq_def]
  dsimp only
  split <;> rfl

theorem readBoundary_succeeds (f : Flags) (h : Ahead a b) :
    Succeeds (Beside Ahead) (readBoundary f a) (readBoundary f b) := by
  have hplain : Succeeds (Beside Ahead) (.ok (Assertion.boundary f.unicode, a))
      (.ok (Assertion.boundary f.unicode, b)) := .ok ⟨rfl, h⟩
  rw [readBoundary.eq_def, readBoundary.eq_def]
  dsimp only
  rcases h.cases with ⟨c, a', b', rfl, rfl, hrest⟩ | ⟨rfl, rfl | rfl⟩
  · by_cases hc : c = '{'
    · subst hc
      simp only
      have hskip := hrest.skip f
      rcases hskip.cases with ⟨d, a'', b'', ha, hb, hmore⟩ | ⟨ha, -⟩
      · rw [ha, hb]
        dsimp only
        split
        · exact hplain
        · have hcollect := collect_ahead f (fun c => c.isAlpha || c == '-') (by decide)
            (Nat.succ_le_succ hmore.length_le) [] (hmore.cons d) (Nat.le_refl _)
          obtain ⟨name, rest, rest', hfound, hfound', hafter⟩ := hcollect.exists_eq
          rw [hfound, hfound']
          rcases hafter.cases with ⟨e, after, after', rfl, rfl, hlast⟩ | ⟨rfl, -⟩
          · by_cases he : e = '}'
            · subst he
              simp only
              cases specialBoundary? f.unicode (.ofList name) with
              | none => exact .error
              | some found => exact .ok ⟨rfl, hlast⟩
            · simp only [Prod.mk.injEq, List.cons.injEq, he, false_and, and_false,
                false_imp_iff, implies_true]
              exact .error
          · exact .error
      · rw [ha]
        exact .error
    · simp only [List.cons.injEq, hc, false_and, false_imp_iff, implies_true]
      exact hplain
  · exact hplain
  · exact hplain

/-- A character by its number is read alike. -/
theorem readHexAtom_succeeds (f : Flags) (digits : Nat) (h : Ahead a b) :
    Succeeds (Beside Ahead)
      (do
        let (value, twoDigits, rest) ← readHex f digits a
        .ok (Atom.literal value twoDigits, rest))
      (do
        let (value, twoDigits, rest) ← readHex f digits b
        .ok (Atom.literal value twoDigits, rest)) := by
  refine (readHex_succeeds f digits h).bind ?_
  rintro ⟨value, twoDigits, rest⟩ ⟨_, _, rest'⟩ ⟨rfl, rfl, hrest⟩
  exact .ok ⟨rfl, hrest⟩

theorem readEscape_succeeds (f : Flags) (h : Ahead a b) :
    Succeeds (Beside Ahead) (readEscape f a) (readEscape f b) := by
  rcases h.cases with ⟨c, a, b, rfl, rfl, hrest⟩ | ⟨rfl, -⟩
  · rw [readEscape.eq_def, readEscape.eq_def]
    dsimp only
    split
    · exact .error
    split
    · exact .ok ⟨rfl, hrest⟩
    split
    · exact readHexAtom_succeeds f 2 hrest
    · exact readHexAtom_succeeds f 4 hrest
    · exact readHexAtom_succeeds f 8 hrest
    -- Other letters are followed by a property, a boundary or nothing.
    all_goals first
      | exact .ok ⟨rfl, hrest⟩
      | exact (readProperty_succeeds f _ hrest).mapFirst
      | exact .withRest _ Atom.set hrest
      | exact (readBoundary_succeeds f hrest).mapFirst
      | exact .error
  · exact .error

/-! ## Classes -/

/-- What is before the first colon is the same, unless there is no colon. -/
theorem span_ahead (h : Ahead a b) :
    (a.span (· != ':')).2 = [] ∧ (b.span (· != ':')).2 = [] ∨
      (a.span (· != ':')).1 = (b.span (· != ':')).1 ∧
      Ahead (a.span (· != ':')).2 (b.span (· != ':')).2 := by
  simp only [List.span_eq_takeWhile_dropWhile]
  rcases h with rfl | rfl
  · by_cases hnil : a.dropWhile (· != ':') = []
    · left
      rw [List.dropWhile_append, hnil]
      exact ⟨rfl, by decide⟩
    · right
      have hall : ¬ (a.takeWhile (· != ':')).length = a.length := by
        intro hlength
        have := congrArg List.length (List.takeWhile_append_dropWhile (p := (· != ':')) (l := a))
        rw [List.length_append] at this
        exact hnil (List.eq_nil_of_length_eq_zero (by omega))
      rw [List.dropWhile_append, if_neg (by simpa using hnil), List.takeWhile_append, if_neg hall]
      exact ⟨rfl, .inl rfl⟩
  · exact .inr ⟨rfl, .inr rfl⟩

/-- The name of a class and what closes it are read alike, or neither time. -/
theorem asciiClassName_ahead (negated : Bool) (h : Ahead a b) :
    Option.Rel (Beside (Beside Ahead))
      (do
        let (name, after) := a.span (· != ':')
        let ':' :: ']' :: after := after | none
        let s ← asciiClass? (.ofList name)
        return (s, negated, after))
      (do
        let (name, after) := b.span (· != ':')
        let ':' :: ']' :: after := after | none
        let s ← asciiClass? (.ofList name)
        return (s, negated, after)) := by
  have hspan := span_ahead h
  revert hspan
  generalize a.span (· != ':') = x
  generalize b.span (· != ':') = y
  obtain ⟨name, after⟩ := x
  obtain ⟨name', after'⟩ := y
  rintro (⟨rfl, rfl⟩ | ⟨rfl, hafter⟩)
  · exact .none
  dsimp only at hafter ⊢
  rcases hafter.cases with ⟨c, after, after', rfl, rfl, hmore⟩ | ⟨rfl, rfl | rfl⟩
  · by_cases hc : c = ':'
    · subst hc
      rcases hmore.cases with ⟨d, after, after', rfl, rfl, hlast⟩ | ⟨rfl, rfl | rfl⟩
      · by_cases hd : d = ']'
        · subst hd
          simp only
          cases asciiClass? (.ofList name) with
          | none => exact .none
          | some s => exact .some ⟨rfl, rfl, hlast⟩
        · simp only [List.cons.injEq, hd, false_and, and_false, false_imp_iff, implies_true]
          exact .none
      · exact .none
      · exact .none
    · simp only [List.cons.injEq, hc, false_and, false_imp_iff, implies_true]
      exact .none
  · exact .none
  · exact .none

theorem readAsciiClass?_ahead (h : Ahead a b) :
    Option.Rel (Beside (Beside Ahead)) (readAsciiClass? a) (readAsciiClass? b) := by
  rw [readAsciiClass?.eq_def, readAsciiClass?.eq_def]
  rcases h.cases with ⟨c, a, b, rfl, rfl, hrest⟩ | ⟨rfl, rfl | rfl⟩
  · by_cases hc : c = ':'
    · subst hc
      rcases hrest.cases with ⟨d, a', b', rfl, rfl, hmore⟩ | ⟨rfl, rfl | rfl⟩
      · by_cases hd : d = '^'
        · subst hd
          exact asciiClassName_ahead true hmore
        · simp only [List.cons.injEq, hd, false_and, false_imp_iff, implies_true]
          exact asciiClassName_ahead false hrest
      · exact asciiClassName_ahead false hrest
      · exact asciiClassName_ahead false hrest
    · simp only [List.cons.injEq, hc, false_and, false_imp_iff, implies_true]
      exact .none
  · exact .none
  · exact .none

theorem readClassAtom_succeeds (f : Flags) (h : Ahead a b) :
    Succeeds (Beside Ahead) (readClassAtom f a) (readClassAtom f b) := by
  rw [readClassAtom.eq_def, readClassAtom.eq_def]
  rcases h.cases with ⟨c, a, b, rfl, rfl, hrest⟩ | ⟨rfl, -⟩
  · by_cases hc : c = '\\'
    · subst hc
      exact readEscape_succeeds f hrest
    · simp only
      exact .ok ⟨rfl, hrest⟩
  · exact .error

/-- What is after the blanks and the mark of a comment that may come first. -/
def Flags.afterMark (f : Flags) (text : List Char) : List Char :=
  if !f.verbose then text
  else
    match text.dropWhile isBlank with
    | '#' :: rest => rest.dropWhile isBlank
    | rest => rest

theorem afterHyphen_eq_some {c : Char} (hblank : isBlank c = false) (hmark : c ≠ '#')
    (text : List Char) :
    f.afterHyphen text = some c ↔ (f.afterMark text).head? = some c := by
  have hfirst : text.head? = some c → (text.dropWhile isBlank).head? = some c := by
    intro hhead
    obtain ⟨rest, rfl⟩ := List.head?_eq_some_iff.1 hhead
    simp [hblank]
  rw [Flags.afterHyphen, Flags.afterMark]
  split
  · rfl
  · revert hfirst
    cases text.dropWhile isBlank with
    | nil => exact fun hfirst => by simpa using hfirst
    | cons d rest =>
      intro hfirst
      by_cases hd : d = '#'
      · subst hd
        have hnot : text.head? ≠ some c := fun hhead => hmark (Option.some.inj (hfirst hhead)).symm
        simp only
        cases rest.dropWhile isBlank with
        | nil => simpa using hnot
        | cons d rest => exact Iff.rfl
      · simp only [List.cons.injEq, hd, false_and, false_imp_iff, implies_true]
        exact Iff.rfl

theorem afterMark_ahead (f : Flags) (h : Ahead a b) : Ahead (f.afterMark a) (f.afterMark b) := by
  have hparenthesis : isBlank ')' = false := by decide +kernel
  rw [Flags.afterMark, Flags.afterMark]
  split
  · exact h
  · have hdrop := h.dropWhile hparenthesis
    rcases hdrop.cases with ⟨c, a', b', ha, hb, hrest⟩ | ⟨ha, hb | hb⟩
    · rw [ha, hb] at hdrop ⊢
      by_cases hc : c = '#'
      · subst hc
        exact hrest.dropWhile hparenthesis
      · simp only [List.cons.injEq, hc, false_and, false_imp_iff, implies_true]
        exact hdrop
    · rw [ha, hb] at hdrop ⊢
      exact hdrop
    · rw [ha, hb] at hdrop ⊢
      exact hdrop

/-- Whether a hyphen makes a range does not depend on the closing. -/
theorem afterHyphen_ahead (f : Flags) (h : Ahead a b) {c : Char} (hc : c = ']' ∨ c = '-') :
    f.afterHyphen a = some c ↔ f.afterHyphen b = some c := by
  have hblank : isBlank c = false := by rcases hc with rfl | rfl <;> decide +kernel
  have hmark : c ≠ '#' ∧ c ≠ ')' := by rcases hc with rfl | rfl <;> decide
  rw [afterHyphen_eq_some hblank hmark.1, afterHyphen_eq_some hblank hmark.1]
  rcases (afterMark_ahead f h).cases with ⟨d, a', b', ha, hb, -⟩ | ⟨ha, hb | hb⟩
  · rw [ha, hb, List.head?_cons, List.head?_cons]
  · rw [ha, hb]
    simpa [closing] using hmark.2.symm
  · rw [ha, hb]

theorem readClassRange_succeeds (f : Flags) (h : Ahead a b) :
    Succeeds (Beside Ahead) (readClassRange f a) (readClassRange f b) := by
  rw [readClassRange, readClassRange]
  refine (readClassAtom_succeeds f h).bind ?_
  rintro ⟨first, rest⟩ ⟨_, rest'⟩ ⟨rfl, hrest⟩
  dsimp only
  have hskip := hrest.skip f
  rcases hskip.cases with ⟨c, a', b', ha, hb, hmore⟩ | ⟨ha, -⟩
  · rw [ha, hb] at hskip ⊢
    by_cases hc : c = '-'
    · subst hc
      simp only [beq_iff_eq, Bool.or_eq_true, afterHyphen_ahead f hmore (.inl rfl),
        afterHyphen_ahead f hmore (.inr rfl)]
      split
      · exact .withRest _ id hskip
      · refine (readClassAtom_succeeds f (hmore.skip f)).bind ?_
        rintro ⟨last, rest⟩ ⟨_, rest'⟩ ⟨rfl, hafter⟩
        dsimp only
        split
        · refine .bindSame _ fun _ => .bindSame _ fun _ => ?_
          split
          · exact .ok ⟨rfl, hafter⟩
          · exact .error
        · exact .error
    · simp only [List.cons.injEq, hc, false_and, false_imp_iff, implies_true]
      exact .withRest _ id hskip
  · rw [ha]
    exact .error

theorem readLeadingHyphens_ahead (f : Flags) {n n' : Nat} (hle : n ≤ n') (u : ClassUnion)
    (h : Ahead a b) (hlength : a.length ≤ n) :
    Beside Ahead (readLeadingHyphens f n u a) (readLeadingHyphens f n' u b) := by
  refine scan_ahead f (fun u c => if c = '-' then some (u.add (.singleton '-') 0) else none)
    (fun _ _ => rfl) (fun _ _ => rfl) (fun n u c rest => ?_) (fun u {a b} hab => ⟨rfl, hab⟩)
    (fun _ => rfl) hle u h hlength
  by_cases hc : c = '-'
  · subst hc
    rfl
  · rw [readLeadingHyphens.eq_def, if_neg hc]
    simp only [List.cons.injEq, hc, false_and, false_imp_iff, implies_true]
    rfl

/-- The first items of a class are the same. -/
theorem firstItems_ahead (f : Flags) (negated : Bool) (h : Ahead a b) :
    Beside (Beside Ahead)
      (let (u, rest) := readLeadingHyphens f a.length {} a
       match u.count, rest with
       | 0, ']' :: rest => (negated, u.add (.singleton ']') 0, f.skip rest)
       | _, rest => (negated, u, rest))
      (let (u, rest) := readLeadingHyphens f b.length {} b
       match u.count, rest with
       | 0, ']' :: rest => (negated, u.add (.singleton ']') 0, f.skip rest)
       | _, rest => (negated, u, rest)) := by
  have hhyphens := readLeadingHyphens_ahead f h.length_le {} h (Nat.le_refl _)
  obtain ⟨items, rest, rest', hitems, hitems', hrest⟩ := hhyphens.exists_eq
  rw [hitems, hitems']
  dsimp only
  cases items.count with
  | succ n => exact ⟨rfl, rfl, hrest⟩
  | zero =>
    rcases hrest.cases with ⟨c, rest, rest', rfl, rfl, hmore⟩ | ⟨rfl, rfl | rfl⟩
    · by_cases hc : c = ']'
      · subst hc
        exact ⟨rfl, rfl, hmore.skip f⟩
      · simp only [List.cons.injEq, hc, false_and, false_imp_iff, implies_true]
        exact ⟨rfl, rfl, hrest⟩
    · exact ⟨rfl, rfl, hrest⟩
    · exact ⟨rfl, rfl, hrest⟩

/-- The start of a class is the same. -/
theorem readClassStart_ahead (f : Flags) (h : Ahead a b) :
    Beside (Beside Ahead) (readClassStart f a) (readClassStart f b) := by
  rw [readClassStart.eq_def, readClassStart.eq_def]
  have hskip := h.skip f
  rcases hskip.cases with ⟨c, a', b', ha, hb, hmore⟩ | ⟨ha, hb | hb⟩
  · rw [ha, hb] at hskip ⊢
    by_cases hc : c = '^'
    · subst hc
      exact firstItems_ahead f true (hmore.skip f)
    · simp only [List.cons.injEq, hc, false_and, false_imp_iff, implies_true]
      exact firstItems_ahead f false hskip
  · rw [ha, hb] at hskip ⊢
    exact firstItems_ahead f false hskip
  · rw [ha, hb] at hskip ⊢
    exact firstItems_ahead f false hskip

theorem readClassItems_succeeds (f : Flags) {n n' : Nat} (hle : n ≤ n') (negated : Bool)
    (waiting : WaitingOperation) (u : ClassUnion) (h : Ahead a b) :
    Succeeds (Beside (Beside Ahead)) (readClassItems f n negated waiting u a)
      (readClassItems f n' negated waiting u b) := by
  induction n generalizing n' negated waiting u a b with
  | zero => exact .error
  | succ n ih =>
    obtain ⟨m, rfl⟩ := Nat.exists_eq_add_of_le' hle
    have hle : n ≤ m + n := by omega
    rw [← Nat.add_assoc, readClassItems.eq_def, readClassItems.eq_def]
    dsimp only
    have hskip := h.skip f
    rcases hskip.cases with ⟨c, a', b', ha, hb, hrest⟩ | ⟨ha, -⟩
    · rw [ha, hb] at hskip ⊢
      have hmember : ∀ s {rest rest'}, Ahead rest rest' → Succeeds (Beside (Beside Ahead))
          (readClassItems f n negated waiting (u.add s 0) rest)
          (readClassItems f (m + n) negated waiting (u.add s 0) rest') :=
        fun s => ih hle negated waiting (u.add s 0)
      by_cases hclose : c = ']'
      · subst hclose
        exact .bindSame _ fun s => .ok ⟨rfl, rfl, hrest⟩
      by_cases hopen : c = '['
      · subst hopen
        simp only
        have hnamed := readAsciiClass?_ahead hrest
        generalize readAsciiClass? a' = named, readAsciiClass? b' = named' at hnamed ⊢
        cases hnamed with
        | some hfound =>
          obtain ⟨s, found, found', rfl, rfl, hinverse⟩ := hfound.exists_eq
          obtain ⟨inverse, rest, rest', rfl, rfl, hafter⟩ := hinverse.exists_eq
          exact .bindSame _ fun s => ih hle _ _ _ hafter
        | none =>
          obtain ⟨inverse, start, start', hstart, hstart', hinner⟩ :=
            (readClassStart_ahead f hrest).exists_eq
          obtain ⟨inner, rest, rest', rfl, rfl, hafter⟩ := hinner.exists_eq
          rw [hstart, hstart']
          refine (ih hle _ _ _ hafter).bind ?_
          rintro ⟨s, depth, rest⟩ ⟨_, _, rest'⟩ ⟨rfl, rfl, hlast⟩
          exact ih hle _ _ _ hlast
      -- Each of the three operations is a doubled character.
      rcases hrest.cases with ⟨d, a'', b'', rfl, rfl, hmore⟩ | ⟨rfl, rfl | rfl⟩
      · by_cases hand : c = '&' ∧ d = '&'
        · obtain ⟨rfl, rfl⟩ := hand
          exact ih hle _ _ _ hmore
        by_cases hminus : c = '-' ∧ d = '-'
        · obtain ⟨rfl, rfl⟩ := hminus
          exact ih hle _ _ _ hmore
        by_cases htilde : c = '~' ∧ d = '~'
        · obtain ⟨rfl, rfl⟩ := htilde
          exact ih hle _ _ _ hmore
        simp only [List.cons.injEq, hclose, hopen, ← and_assoc, hand, hminus, htilde, false_and,
          false_imp_iff, implies_true]
        exact (readClassRange_succeeds f hskip).bindBeside hmember
      · simp only [List.cons.injEq, hclose, hopen, closing, Char.reduceEq, false_and, and_false,
          false_imp_iff, implies_true]
        exact (readClassRange_succeeds f hskip).bindBeside hmember
      · simp only [List.cons.injEq, hclose, hopen, false_and, false_imp_iff, implies_true]
        exact (readClassRange_succeeds f hskip).bindBeside hmember
    · rw [ha]
      exact .error

theorem readClass_succeeds (f : Flags) (h : Ahead a b) :
    Succeeds (Beside (Beside Ahead)) (readClass f a) (readClass f b) := by
  obtain ⟨negated, start, start', hstart, hstart', hinner⟩ := (readClassStart_ahead f h).exists_eq
  obtain ⟨u, rest, rest', rfl, rfl, hrest⟩ := hinner.exists_eq
  rw [readClass, readClass, hstart, hstart']
  exact readClassItems_succeeds f (Nat.succ_le_succ hrest.length_le) _ _ _ hrest

end Rehearsal.Regex
