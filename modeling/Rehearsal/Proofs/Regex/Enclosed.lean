import Rehearsal.Proofs.Regex.Ahead

/-!
# Reading enclosed expressions

What can be read by itself is read to the same expression between parentheses, unless a comment at
its end takes the closing parenthesis.
-/

namespace Rehearsal.Regex

variable {a b : List Char} {f : Flags}

/-! ## Repetitions -/

theorem digits_ahead (f : Flags) {n n' : Nat} (hle : n ≤ n') (acc : Option Nat) (h : Ahead a b)
    (hlength : a.length ≤ n) :
    Beside Ahead (readCount.digits f n acc a) (readCount.digits f n' acc b) := by
  refine scan_ahead f
    (fun acc c => if c.isDigit then some (some (acc.getD 0 * 10 + (c.toNat - '0'.toNat))) else none)
    (fun _ _ => rfl) (fun _ _ => rfl) (fun n acc c rest => ?_) (fun acc {a b} hab => ⟨rfl, hab⟩)
    (fun _ => rfl) hle acc h hlength
  rw [readCount.digits.eq_def]
  dsimp only
  split <;> rfl

theorem blanks_ahead (f : Flags) {n n' : Nat} (hle : n ≤ n') (h : Ahead a b)
    (hlength : a.length ≤ n) :
    Ahead (readCount.blanks f n a) (readCount.blanks f n' b) := by
  have hparenthesis : isBlank ')' = false := by decide +kernel
  refine scan_ahead (g := fun n (_ : Unit) => readCount.blanks f n) f
    (fun _ c => if isBlank c then some () else none) (fun _ _ => rfl) (fun _ _ => rfl)
    (fun n _ c rest => ?_) (fun _ {a b} hab => hab) (fun _ => by rw [hparenthesis]; rfl)
    hle () h hlength
  rw [readCount.blanks.eq_def]
  dsimp only
  split <;> rfl

theorem readCount_succeeds (f : Flags) (h : Ahead a b) :
    Succeeds (Beside Ahead) (readCount f a) (readCount f b) := by
  have hdigits := digits_ahead f h.length_le none (h.dropWhile (p := isBlank) (by decide +kernel))
    (List.dropWhile_sublist isBlank).length_le
  obtain ⟨count, rest, rest', hcount, hcount', hrest⟩ := hdigits.exists_eq
  rw [readCount, readCount, hcount, hcount']
  have hblanks := blanks_ahead f hrest.length_le hrest (Nat.le_refl _)
  cases count with
  | none => exact .ok ⟨rfl, hblanks⟩
  | some n =>
    dsimp only
    split
    · exact .ok ⟨rfl, hblanks⟩
    · exact .error

/-- The mark of the other greed is there both times or neither time. -/
theorem greedMark_ahead (f : Flags) (h : Ahead a b) : Beside Ahead
    (match f.skip a with
    | '?' :: rest => (true, rest)
    | rest => (false, rest))
    (match f.skip b with
    | '?' :: rest => (true, rest)
    | rest => (false, rest)) := by
  have hskip := h.skip f
  rcases hskip.cases with ⟨c, a', b', ha, hb, hrest⟩ | ⟨ha, hb | hb⟩
  · rw [ha, hb] at hskip ⊢
    by_cases hc : c = '?'
    · subst hc
      exact ⟨rfl, hrest⟩
    · simp only [List.cons.injEq, hc, false_and, false_imp_iff, implies_true]
      exact ⟨rfl, hskip⟩
  · rw [ha, hb] at hskip ⊢
    exact ⟨rfl, hskip⟩
  · rw [ha, hb] at hskip ⊢
    exact ⟨rfl, hskip⟩

/-- What closes the bounds of a repetition is read alike. -/
theorem closeBounds_succeeds (f : Flags) (min : Nat) (max : Option Nat) (h : Ahead a b) :
    Succeeds (Beside (Beside (Beside Ahead)))
      (match a with
      | '\x7d' :: rest =>
        let (marked, rest) := match f.skip rest with
          | '?' :: rest => (true, rest)
          | rest => (false, rest)
        if max.all (min ≤ ·) then .ok (min, max, marked, rest) else .error .repetitionReversed
      | _ => .error .repetitionUnclosed)
      (match b with
      | '\x7d' :: rest =>
        let (marked, rest) := match f.skip rest with
          | '?' :: rest => (true, rest)
          | rest => (false, rest)
        if max.all (min ≤ ·) then .ok (min, max, marked, rest) else .error .repetitionReversed
      | _ => .error .repetitionUnclosed) := by
  rcases h.cases with ⟨c, a, b, rfl, rfl, hrest⟩ | ⟨rfl, -⟩
  · by_cases hc : c = '\x7d'
    · subst hc
      simp only
      split
      · exact .ok ⟨rfl, rfl, greedMark_ahead f hrest⟩
      · exact .error
    · simp only [List.cons.injEq, hc, false_and, false_imp_iff, implies_true]
      exact .error
  · exact .error

theorem readBounds_succeeds (f : Flags) (h : Ahead a b) :
    Succeeds (Beside (Beside (Beside Ahead))) (readBounds f a) (readBounds f b) := by
  rw [readBounds, readBounds]
  refine (readCount_succeeds f (h.skip f)).bind ?_
  rintro ⟨low, rest⟩ ⟨_, rest'⟩ ⟨rfl, hrest⟩
  dsimp only at hrest ⊢
  rcases hrest.cases with ⟨c, a, b, rfl, rfl, hmore⟩ | ⟨rfl, -⟩
  · by_cases hc : c = ','
    · subst hc
      simp only
      have hskip := hmore.skip f
      rcases hskip.cases with ⟨d, a', b', ha, hb, hlast⟩ | ⟨ha, -⟩
      · rw [ha, hb] at hskip ⊢
        cases low with
        | none => exact .error
        | some min =>
          -- With nothing after the comma, there is no upper bound.
          by_cases hd : d = '\x7d'
          · subst hd
            exact closeBounds_succeeds f min none hskip
          · simp only [List.cons.injEq, hd, false_and, false_imp_iff, implies_true]
            refine (readCount_succeeds f hskip).bind ?_
            rintro ⟨high, rest⟩ ⟨_, rest'⟩ ⟨rfl, hafter⟩
            cases high with
            | none => exact .error
            | some max => exact closeBounds_succeeds f min (some max) hafter
      · rw [ha]
        cases low <;> exact .error
    · simp only [List.cons.injEq, hc, false_and, false_imp_iff, implies_true]
      cases low with
      | none => exact .error
      | some n => exact closeBounds_succeeds f n (some n) hrest
  · exact .error

/-! ## Groups and flags -/

theorem readFlags_succeeds (f : Flags) (on : Bool) (seen : List Char) (h : Ahead a b) :
    Succeeds (Beside (Beside (Beside Ahead))) (readFlags f on seen a) (readFlags f on seen b) := by
  induction a generalizing f on seen b with
  | nil => exact .error
  | cons c a ih =>
    obtain ⟨_, _, b, heq, rfl, hrest⟩ | ⟨hnil, -⟩ := h.cases
    · obtain ⟨rfl, rfl⟩ := List.cons.inj heq
      rw [readFlags, readFlags]
      split
      · split
        · exact .error
        · exact .ok ⟨rfl, rfl, rfl, hrest⟩
      · split
        · split
          · exact .error
          · exact ih _ _ _ hrest
        · cases f.set? on c with
          | none => exact .error
          | some changed =>
            dsimp only
            split
            · exact .error
            · exact ih _ _ _ hrest
    · cases hnil

/-- The same groups and names, and more text after what is left. -/
def Reading.Ahead (r r' : Reading) : Prop :=
  r.groups = r'.groups ∧ r.names = r'.names ∧ Regex.Ahead r.rest r'.rest

section
variable {r r' : Reading} (hr : r.Ahead r') (h : Ahead a b)
include hr h

/-- A group with a name is opened alike. -/
theorem openNamed_succeeds : Succeeds (Beside Reading.Ahead)
    (do
      let (name, rest) ← readName true [] a
      if r.names.contains name then .error .groupNameDuplicate
      else .ok (Opening.recording, (⟨rest, r.groups + 1, name :: r.names⟩ : Reading)))
    (do
      let (name, rest) ← readName true [] b
      if r'.names.contains name then .error .groupNameDuplicate
      else .ok (Opening.recording, (⟨rest, r'.groups + 1, name :: r'.names⟩ : Reading))) := by
  refine (readName_succeeds true [] h).bind ?_
  rintro ⟨name, rest⟩ ⟨_, rest'⟩ ⟨rfl, hrest⟩
  rw [← hr.1, ← hr.2.1]
  dsimp only
  split
  · exact .error
  · exact .ok ⟨rfl, rfl, rfl, hrest⟩

/-- Flags, and a group with flags, are opened alike. -/
theorem openFlags_succeeds (f : Flags) : Succeeds (Beside Reading.Ahead)
    (do
      let (inner, any, last, rest) ← readFlags f true [] a
      if last == ':' then .ok (Opening.plain inner, { r with rest })
      else if any then .ok (.flags inner, { r with rest })
      else .error .repetitionMissing)
    (do
      let (inner, any, last, rest) ← readFlags f true [] b
      if last == ':' then .ok (Opening.plain inner, { r' with rest })
      else if any then .ok (.flags inner, { r' with rest })
      else .error .repetitionMissing) := by
  refine (readFlags_succeeds f true [] h).bind ?_
  rintro ⟨inner, any, last, rest⟩ ⟨_, _, _, rest'⟩ ⟨rfl, rfl, rfl, hrest⟩
  dsimp only
  split
  · exact .ok ⟨rfl, hr.1, hr.2.1, hrest⟩
  split
  · exact .ok ⟨rfl, hr.1, hr.2.1, hrest⟩
  · exact .error

theorem readOpening_succeeds (f : Flags) :
    Succeeds (Beside Reading.Ahead) (readOpening f r a) (readOpening f r' b) := by
  rw [readOpening.eq_def, readOpening.eq_def]
  dsimp only
  have hskip := h.skip f
  rcases hskip.cases with ⟨c, a', b', ha, hb, hmore⟩ | ⟨ha, hb | hb⟩
  · rw [ha, hb] at hskip ⊢
    by_cases hc : c = '?'
    · subst hc
      rcases hmore.cases with ⟨d, a'', b'', rfl, rfl, hlast⟩ | ⟨rfl, -⟩
      · by_cases hlook : d = '=' ∨ d = '!'
        · rcases hlook with rfl | rfl <;> exact .error
        obtain ⟨hequal, hnot⟩ := not_or.1 hlook
        by_cases hname : d = '<'
        · subst hname
          rcases hlast.cases with ⟨e, u, v, rfl, rfl, -⟩ | ⟨rfl, -⟩
          · by_cases hbehind : e = '=' ∨ e = '!'
            · rcases hbehind with rfl | rfl <;> exact .error
            obtain ⟨hequal, hnot⟩ := not_or.1 hbehind
            simp only [List.cons.injEq, hequal, hnot, false_and, false_imp_iff, implies_true]
            exact openNamed_succeeds hr hlast
          · exact .error
        by_cases hp : d = 'P'
        · subst hp
          -- Without the angle bracket, the letter is read as a flag.
          rcases hlast.cases with ⟨e, u, v, rfl, rfl, hname⟩ | ⟨rfl, rfl | rfl⟩
          · by_cases he : e = '<'
            · subst he
              exact openNamed_succeeds hr hname
            · simp only [List.cons.injEq, he, false_and, and_false, false_imp_iff, implies_true,
                Char.reduceEq]
              exact openFlags_succeeds hr hmore f
          · exact openFlags_succeeds hr hmore f
          · exact openFlags_succeeds hr hmore f
        simp only [List.cons.injEq, hequal, hnot, hname, hp, false_and, false_imp_iff, implies_true]
        exact openFlags_succeeds hr hmore f
      · exact .error
    · simp only [List.cons.injEq, hc, false_and, false_imp_iff, implies_true]
      exact .ok ⟨rfl, congrArg (· + 1) hr.1, hr.2.1, hskip⟩
  · rw [ha, hb] at hskip ⊢
    exact .ok ⟨rfl, congrArg (· + 1) hr.1, hr.2.1, hskip⟩
  · rw [ha, hb] at hskip ⊢
    exact .ok ⟨rfl, congrArg (· + 1) hr.1, hr.2.1, hskip⟩

end

/-! ## What groups are read to -/

section
variable {fuel : Nat} {f inner f' : Flags} {parts : List Part} {e : Expr} {depth : Nat}
  {r inside after : Reading} {text rest : List Char}

/-- A group that records nothing is read by reading what is inside. -/
theorem readParts_plain (htext : f.skip r.rest = '(' :: text)
    (hopening : readOpening f r text = .ok (.plain inner, inside))
    (hinside : readAlternatives fuel inner [] inside = .ok (e, depth, f', after))
    (hafter : after.rest = ')' :: rest) :
    readParts (fuel + 1) f parts r =
      readParts fuel f (.expr e (depth + 1) :: parts) { after with rest } := by
  rw [readParts, htext]
  simp only [hopening, bind, Except.bind, hinside, hafter, id_eq]

/-- A group needs a closing parenthesis. -/
theorem readParts_unclosed (htext : f.skip r.rest = '(' :: text)
    (hopening : readOpening f r text = .ok (.plain inner, inside))
    (hinside : readAlternatives fuel inner [] inside = .ok (e, depth, f', after))
    (hafter : after.rest = []) :
    readParts (fuel + 1) f parts r = .error .groupUnclosed := by
  rw [readParts, htext]
  simp only [hopening, bind, Except.bind, hinside, hafter]

/-- A group that records what it matches is read by reading what is inside. -/
theorem readParts_recording (htext : f.skip r.rest = '(' :: text)
    (hopening : readOpening f r text = .ok (.recording, inside))
    (hinside : readAlternatives fuel f [] inside = .ok (e, depth, f', after))
    (hafter : after.rest = ')' :: rest) :
    readParts (fuel + 1) f parts r =
      readParts fuel f (.expr (.group inside.groups e) (depth + 1) :: parts)
        { after with rest } := by
  rw [readParts, htext]
  simp only [hopening, bind, Except.bind, hinside, hafter]

/-- An alternative is read by reading its parts. -/
theorem readAlternatives_of_parts {before : List (Expr × Nat)}
    (hparts : readParts fuel f [] r = .ok (parts, f', after)) :
    readAlternatives (fuel + 1) f before r =
      let branch := (Expr.concatenation (parts.reverse.map Part.expression),
        joinedDepth (parts.map Part.depth))
      match after.rest with
      | '|' :: rest => readAlternatives fuel f' (branch :: before) { after with rest }
      | _ =>
        let branches := (branch :: before).reverse
        .ok (Expr.alternation (branches.map Prod.fst), joinedDepth (branches.map Prod.snd),
          f', after) := by
  rw [readAlternatives, hparts]
  rfl

/-- Something with one part stands for that part. -/
theorem readAlternatives_of_part (hparts : readParts fuel f [] r = .ok ([.expr e depth], f', after))
    (hafter : after.rest = ')' :: rest) :
    readAlternatives (fuel + 1) f [] r = .ok (.concatenation [e], depth, f', after) := by
  rw [readAlternatives_of_parts hparts, hafter]
  rfl

end

/-! ## Expressions -/

/-- What reading an expression with more text after it means, up to a depth of nesting. -/
structure ReadsAhead (n : Nat) : Prop where
  alternatives : ∀ {n' : Nat} (f : Flags) (done : List (Expr × Nat)) {r r' : Reading},
    n ≤ n' → r.Ahead r' →
    Succeeds (Beside (Beside (Beside Reading.Ahead))) (readAlternatives n f done r)
      (readAlternatives n' f done r')
  parts : ∀ {n' : Nat} (f : Flags) (before : List Part) {r r' : Reading}, n ≤ n' → r.Ahead r' →
    Succeeds (Beside (Beside Reading.Ahead)) (readParts n f before r) (readParts n' f before r')

namespace ReadsAhead

variable {n n' : Nat} {r r' : Reading}

theorem alternatives_succ (h : ReadsAhead n) (f : Flags) (done : List (Expr × Nat)) (hle : n ≤ n')
    (hr : r.Ahead r') :
    Succeeds (Beside (Beside (Beside Reading.Ahead))) (readAlternatives (n + 1) f done r)
      (readAlternatives (n' + 1) f done r') := by
  rw [readAlternatives, readAlternatives]
  refine (h.parts f [] hle hr).bind ?_
  rintro ⟨parts, f, r⟩ ⟨_, _, r'⟩ ⟨rfl, rfl, hr⟩
  dsimp only at hr ⊢
  obtain ⟨rest, groups, names⟩ := r
  obtain ⟨rest', groups', names'⟩ := r'
  obtain ⟨rfl, rfl, hrest⟩ := hr
  dsimp only at hrest ⊢
  rcases hrest.cases with ⟨c, a, b, rfl, rfl, hmore⟩ | ⟨rfl, rfl | rfl⟩
  · by_cases hc : c = '|'
    · subst hc
      exact h.alternatives f _ hle ⟨rfl, rfl, hmore⟩
    · simp only [List.cons.injEq, hc, false_and, false_imp_iff, implies_true]
      exact .ok ⟨rfl, rfl, rfl, rfl, rfl, hrest⟩
  · exact .ok ⟨rfl, rfl, rfl, rfl, rfl, hrest⟩
  · exact .ok ⟨rfl, rfl, rfl, rfl, rfl, hrest⟩

/-- A group is read alike, since its own parenthesis closes it. -/
theorem group (h : ReadsAhead n) (f : Flags) (wrap : Expr → Expr) (inner : Flags)
    (parts : List Part) (hle : n ≤ n') (hr : r.Ahead r') :
    Succeeds (Beside (Beside Reading.Ahead))
      (do
        let (e, depth, _, after) ← readAlternatives n inner [] r
        match after.rest with
        | ')' :: rest => readParts n f (.expr (wrap e) (depth + 1) :: parts) { after with rest }
        | _ => .error .groupUnclosed)
      (do
        let (e, depth, _, after) ← readAlternatives n' inner [] r'
        match after.rest with
        | ')' :: rest => readParts n' f (.expr (wrap e) (depth + 1) :: parts) { after with rest }
        | _ => .error .groupUnclosed) := by
  refine (h.alternatives inner [] hle hr).bind ?_
  rintro ⟨e, depth, last, after⟩ ⟨_, _, _, after'⟩ ⟨rfl, rfl, rfl, hafter⟩
  dsimp only at hafter ⊢
  obtain ⟨hgroups, hnames, hrest⟩ := hafter
  rcases hrest.cases with ⟨c, a, b, ha, hb, hmore⟩ | ⟨ha, -⟩
  · rw [ha, hb]
    by_cases hc : c = ')'
    · subst hc
      exact h.parts f _ hle ⟨hgroups, hnames, hmore⟩
    · simp only [List.cons.injEq, hc, false_and, false_imp_iff, implies_true]
      exact .error
  · rw [ha]
    exact .error

section
variable {u v : List Char} (h : ReadsAhead n) (f : Flags) (before : List Part) (hle : n ≤ n')
  (hr : r.Ahead r')
include h hle hr

/-- Parts are read alike from where the text goes on. -/
theorem further (huv : Ahead u v) : Succeeds (Beside (Beside Reading.Ahead))
    (readParts n f before { r with rest := u }) (readParts n' f before { r' with rest := v }) :=
  h.parts f before hle ⟨hr.1, hr.2.1, huv⟩

/-- After a character, the parts are read alike. -/
theorem literal (c : Char) (twoDigits : Bool) (huv : Ahead u v) :
    Succeeds (Beside (Beside Reading.Ahead))
    (do
      let e ← f.literal c twoDigits
      readParts n f (.expr e 0 :: before) { r with rest := u })
    (do
      let e ← f.literal c twoDigits
      readParts n' f (.expr e 0 :: before) { r' with rest := v }) :=
  .bindSame _ fun _ => h.further f _ hle hr huv

/-- After a repetition, the parts are read alike. -/
theorem repeated (min : Nat) (max : Option Nat) (marked : Bool) (huv : Ahead u v) :
    Succeeds (Beside (Beside Reading.Ahead))
      (do
        let parts ← repeatLast f min max marked before
        readParts n f parts { r with rest := u })
      (do
        let parts ← repeatLast f min max marked before
        readParts n' f parts { r' with rest := v }) :=
  .bindSame _ fun _ => h.further f _ hle hr huv

theorem parts_succ :
    Succeeds (Beside (Beside Reading.Ahead)) (readParts (n + 1) f before r)
      (readParts (n' + 1) f before r') := by
  rw [readParts, readParts]
  -- The first character after what is skipped decides which rule reads the next part.
  have hskip := hr.2.2.skip f
  rcases hskip.cases with ⟨c, a, b, ha, hb, hmore⟩ | ⟨ha, hb | hb⟩
  · rw [ha, hb] at hskip ⊢
    by_cases hbar : c = '|'
    · subst hbar
      exact .ok ⟨rfl, rfl, hr.1, hr.2.1, hskip⟩
    by_cases hclose : c = ')'
    · subst hclose
      exact .ok ⟨rfl, rfl, hr.1, hr.2.1, hskip⟩
    by_cases hopen : c = '('
    · subst hopen
      refine (readOpening_succeeds hr hmore f).bind ?_
      rintro ⟨opening, inside⟩ ⟨_, inside'⟩ ⟨rfl, hinside⟩
      dsimp only at hinside ⊢
      cases opening with
      | flags changed => exact h.parts changed _ hle hinside
      | plain inner => exact h.group f id inner before hle hinside
      | recording =>
        rw [hinside.1]
        exact h.group f (.group inside'.groups) f before hle hinside
    by_cases hclass : c = '['
    · subst hclass
      refine (readClass_succeeds f hmore).bind ?_
      rintro ⟨s, depth, rest⟩ ⟨_, _, rest'⟩ ⟨rfl, rfl, hafter⟩
      exact h.further f _ hle hr hafter
    by_cases hbounds : c = '\x7b'
    · subst hbounds
      refine (readBounds_succeeds f hmore).bind ?_
      rintro ⟨min, max, marked, rest⟩ ⟨_, _, _, rest'⟩ ⟨rfl, rfl, rfl, hafter⟩
      exact h.repeated f before hle hr min max marked hafter
    by_cases hescape : c = '\\'
    · subst hescape
      refine (readEscape_succeeds f hmore).bind ?_
      rintro ⟨atom, rest⟩ ⟨_, rest'⟩ ⟨rfl, hafter⟩
      cases atom with
      | literal c twoDigits => exact h.literal f before hle hr c twoDigits hafter
      | set s => exact h.further f _ hle hr hafter
      | assert a => exact h.further f _ hle hr hafter
    by_cases hdot : c = '.'
    · subst hdot
      exact .bindSame _ fun s => h.further f _ hle hr hmore
    by_cases hcaret : c = '^'
    · subst hcaret
      exact h.further f _ hle hr hmore
    by_cases hdollar : c = '$'
    · subst hdollar
      exact h.further f _ hle hr hmore
    simp only
    cases markBounds? c with
    | none => exact h.literal f before hle hr c false hmore
    | some bounds =>
      rcases hmore.cases with ⟨d, a', b', rfl, rfl, hlast⟩ | ⟨rfl, rfl | rfl⟩
      · by_cases hd : d = '?'
        · subst hd
          exact h.repeated f before hle hr _ _ _ hlast
        · simp only [List.cons.injEq, hd, false_and, false_imp_iff, implies_true]
          exact h.repeated f before hle hr _ _ _ hmore
      · exact h.repeated f before hle hr _ _ _ hmore
      · exact h.repeated f before hle hr _ _ _ hmore
  · rw [ha, hb] at hskip ⊢
    exact .ok ⟨rfl, rfl, hr.1, hr.2.1, hskip⟩
  · rw [ha, hb] at hskip ⊢
    exact .ok ⟨rfl, rfl, hr.1, hr.2.1, hskip⟩

end

end ReadsAhead

theorem readsAhead (n : Nat) : ReadsAhead n := by
  induction n with
  | zero => exact ⟨fun _ _ _ _ _ _ => .error, fun _ _ _ _ _ _ => .error⟩
  | succ n ih =>
    constructor
    · intro n' f done r r' hle hr
      obtain ⟨m, rfl⟩ := Nat.exists_eq_add_of_le' hle
      exact ih.alternatives_succ f done (Nat.le_add_left n m) hr
    · intro n' f before r r' hle hr
      obtain ⟨m, rfl⟩ := Nat.exists_eq_add_of_le' hle
      exact ih.parts_succ f before (Nat.le_add_left n m) hr

/-- A text that is an expression is read to its end. -/
theorem readAlternatives_of_parse {text : List Char} {e : Expr} (h : parse text = .ok e) :
    ∃ depth last r, readAlternatives (2 * text.length + 2) {} [] ⟨text, 0, []⟩ =
      .ok (e, depth, last, r) ∧
      r.rest = [] := by
  rw [parse] at h
  cases hread : readAlternatives (2 * text.length + 2) {} [] ⟨text, 0, []⟩ with
  | error _ =>
    rw [hread] at h
    cases h
  | ok x =>
    obtain ⟨e', depth, last, r⟩ := x
    simp only [hread, bind, Except.bind] at h
    split at h
    · cases h
    next hrest =>
    split at h
    · cases h
    · obtain rfl := Except.ok.inj h
      exact ⟨depth, last, r, rfl, by simpa using hrest⟩

/-- An expression that can be read by itself is read to the same expression in parentheses with a
caret before and a dollar sign after them. -/
theorem parse_enclosed {text : List Char} {e enclosed : Expr} (h : parse text = .ok e)
    (henclosed : parse ('^' :: '(' :: '?' :: ':' :: (text ++ closing)) = .ok enclosed) :
    enclosed = .concatenation [.assert .textStart, e, .assert .textEnd] := by
  obtain ⟨depth, last, r, hread, hrest⟩ := readAlternatives_of_parse h
  -- The parentheses add more to the room for nesting than they use up.
  have hmore : 2 * text.length + 2 ≤ 2 * text.length + 9 + 2 := by omega
  have hinit : Reading.Ahead ⟨text, 0, []⟩ ⟨text ++ closing, 0, []⟩ := ⟨rfl, rfl, .inl rfl⟩
  obtain ⟨⟨_, _, _, after⟩, hinside, rfl, rfl, rfl, -, -, hahead⟩ :=
    (readsAhead _).alternatives {} [] hmore hinit _ hread
  dsimp only at hahead
  rw [hrest] at hahead
  have hlength : 2 * ('^' :: '(' :: '?' :: ':' :: (text ++ closing)).length + 2 =
      2 * text.length + 9 + 5 := by
    simp [closing]
    omega
  rw [parse, hlength] at henclosed
  generalize 2 * text.length + 9 = n at hinside henclosed
  have hcaret : readParts (n + 4) {} [] ⟨'^' :: '(' :: '?' :: ':' :: (text ++ closing), 0, []⟩ =
      readParts (n + 3) {} [.expr (.assert .textStart) 0]
        ⟨'(' :: '?' :: ':' :: (text ++ closing), 0, []⟩ := rfl
  rcases hahead with hclosing | hnil
  · rw [readParts_plain rfl rfl hinside hclosing] at hcaret
    have hdollar : readParts (n + 2) {} [.expr e (depth + 1), .expr (.assert .textStart) 0]
          { after with rest := ['$'] } =
        .ok ([.expr (.assert .textEnd) 0, .expr e (depth + 1), .expr (.assert .textStart) 0], {},
          { after with rest := [] }) := rfl
    rw [readAlternatives_of_parts (hcaret.trans hdollar)] at henclosed
    simp only [bind, Except.bind] at henclosed
    split at henclosed
    · cases henclosed
    split at henclosed
    · cases henclosed
    · exact (Except.ok.inj henclosed).symm
  · -- A comment has taken the closing parenthesis.
    rw [readAlternatives, hcaret, readParts_unclosed rfl rfl hinside hnil] at henclosed
    cases henclosed

end Rehearsal.Regex
