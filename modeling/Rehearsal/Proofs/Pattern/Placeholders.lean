import Rehearsal.Pattern
import Rehearsal.Proofs.Except
import Rehearsal.Proofs.Pattern.Written
import Rehearsal.Proofs.Regex.Execution
import Rehearsal.Proofs.Regex.Room

/-!
# What placeholder patterns match

A placeholder pattern consists of the pieces that its source spells out. It matches the texts that
have a reading, and captures the parts of the preferred one.
-/

namespace Rehearsal.Pattern

open Rehearsal.Regex

variable {ps : List Piece} {text : Array Char}

/-! ## How pieces are spelled -/

/-- A name starts with a letter or an underscore and goes on with these and digits. -/
def IsName (name : List Char) : Prop :=
  name.head?.any isNameStart = true ∧ ∀ c ∈ name, isNameCharacter c = true

/-- A type hint is not empty and has neither blanks nor a closing brace in it. -/
def IsHint (hint : List Char) : Prop := hint ≠ [] ∧ ∀ c ∈ hint, isBlank c = false ∧ c ≠ '\x7d'

/-- How a piece may be spelled. -/
inductive Spells : List Char → Piece → Prop
  /-- Most characters are spelled as they are. -/
  | plain (c : Char) (h : c ∉ ['\\', '\x7b', '\x7d']) : Spells [c] (.literal c)
  /-- A backslash before any character takes its meaning. -/
  | escaped (c : Char) : Spells ['\\', c] (.literal c)
  /-- A backslash before nothing stands for itself. -/
  | backslash : Spells ['\\'] (.literal '\\')
  /-- Two opening braces stand for one. -/
  | opening : Spells ['\x7b', '\x7b'] (.literal '\x7b')
  /-- Two closing braces stand for one. -/
  | closing : Spells ['\x7d', '\x7d'] (.literal '\x7d')
  /-- A name in braces is a placeholder. -/
  | placeholder (name : List Char) (h : IsName name) :
    Spells ('\x7b' :: (name ++ ['\x7d'])) (.placeholder (.ofList name) none)
  /-- A type hint may follow the name. -/
  | hinted (name hint : List Char) (h : IsName name) (hhint : IsHint hint) :
    Spells ('\x7b' :: (name ++ ':' :: (hint ++ ['\x7d'])))
      (.placeholder (.ofList name) (some (.ofList hint)))

theorem Spells.length_pos {spelled : List Char} {piece : Piece} (h : Spells spelled piece) :
    0 < spelled.length := by
  cases h <;> simp

/-- What may start a name may stand in it. -/
theorem isNameCharacter_of_isNameStart {c : Char} (h : isNameStart c = true) :
    isNameCharacter c = true := by
  rw [isNameStart, Bool.or_eq_true] at h
  rw [isNameCharacter, Char.isAlphanum, Bool.or_eq_true, Bool.or_eq_true]
  exact h.imp_left .inl

/-- The name at the start of a text is one if it starts like one. -/
theorem isName_takeWhile {text : List Char} (h : text.head?.any isNameStart = true) :
    IsName (text.takeWhile isNameCharacter) := by
  refine ⟨?_, List.all_eq_true.1 List.all_takeWhile⟩
  cases text with
  | nil => cases h
  | cons c text =>
    rw [List.takeWhile_cons, if_pos (isNameCharacter_of_isNameStart h)]
    exact h

theorem readPlaceholder_spells {text rest : List Char} {piece : Piece}
    (h : readPlaceholder text = .ok (piece, rest)) :
    ∃ spelled, Spells ('\x7b' :: spelled) piece ∧ spelled ++ rest = text := by
  rw [readPlaceholder] at h
  split at h
  · cases h
  next hstart =>
  have hname : IsName (text.takeWhile isNameCharacter) := isName_takeWhile (by simpa using hstart)
  have htext : text.takeWhile isNameCharacter ++ text.dropWhile isNameCharacter = text :=
    List.takeWhile_append_dropWhile
  -- A placeholder is spelled with the name alone, or with a hint after a colon.
  split at h
  · cases h
  · next after hdrop =>
    obtain ⟨rfl, rfl⟩ := Prod.mk.inj (Except.ok.inj h)
    refine ⟨_, .placeholder _ hname, ?_⟩
    rw [hdrop] at htext
    rwa [List.append_assoc]
  · next after hdrop =>
    have hafter : after.takeWhile (· != '\x7d') ++ after.dropWhile (· != '\x7d') = after :=
      List.takeWhile_append_dropWhile
    dsimp only at h
    split at h
    · cases h
    next last more hlast =>
    have hclosed : last = '\x7d' := by
      simpa [hlast] using List.head?_dropWhile_not (· != '\x7d') after
    subst hclosed
    split at h
    · cases h
    next hhint =>
    obtain ⟨rfl, rfl⟩ := Prod.mk.inj (Except.ok.inj h)
    rw [Bool.or_eq_true, not_or, List.isEmpty_iff, List.any_eq_true] at hhint
    refine ⟨_, .hinted _ _ hname ⟨hhint.1, fun c hc => ⟨?_, ?_⟩⟩, ?_⟩
    · exact Bool.eq_false_iff.2 fun hblank => hhint.2 ⟨c, hc, hblank⟩
    · simpa using List.all_eq_true.1 List.all_takeWhile c hc
    · rw [hlast] at hafter
      rw [hdrop, ← hafter] at htext
      simpa [List.append_assoc] using htext
  · cases h

theorem readPiece?_spells {text rest : List Char} {piece : Piece}
    (h : readPiece? text = some (.ok (piece, rest))) :
    ∃ spelled, Spells spelled piece ∧ spelled ++ rest = text := by
  rw [readPiece?.eq_def] at h
  split at h
  · cases h
  · obtain ⟨rfl, rfl⟩ := Prod.mk.inj (Except.ok.inj (Option.some.inj h))
    exact ⟨_, .backslash, rfl⟩
  · obtain ⟨rfl, rfl⟩ := Prod.mk.inj (Except.ok.inj (Option.some.inj h))
    exact ⟨_, .escaped _, rfl⟩
  · obtain ⟨rfl, rfl⟩ := Prod.mk.inj (Except.ok.inj (Option.some.inj h))
    exact ⟨_, .opening, rfl⟩
  · obtain ⟨rfl, rfl⟩ := Prod.mk.inj (Except.ok.inj (Option.some.inj h))
    exact ⟨_, .closing, rfl⟩
  · obtain ⟨spelled, hspells, rfl⟩ := readPlaceholder_spells (Option.some.inj h)
    exact ⟨_, hspells, rfl⟩
  · cases h
  · next c more hlast hbackslash _ _ hopening hclosing =>
    obtain ⟨rfl, rfl⟩ := Prod.mk.inj (Except.ok.inj (Option.some.inj h))
    -- The rules before this one have taken the characters with a meaning of their own.
    refine ⟨_, .plain c fun hc => ?_, rfl⟩
    simp only [List.mem_cons, List.not_mem_nil, or_false] at hc
    rcases hc with rfl | rfl | rfl
    · cases more with
      | nil => exact hlast rfl rfl
      | cons d more => exact hbackslash d more rfl rfl
    · exact hopening rfl
    · exact hclosing rfl

/-- There is a piece unless the text is at its end. -/
theorem eq_nil_of_readPiece? {text : List Char} (h : readPiece? text = none) : text = [] := by
  rw [readPiece?.eq_def] at h
  split at h <;> first | rfl | cases h

/-- What is read piece by piece up to the end is spelled out by the pieces. -/
theorem readPieces_spells {fuel : Nat} {text : List Char} (hfuel : text.length ≤ fuel)
    (h : readPieces fuel text = .ok ps) :
    ∃ spelled, List.Forall₂ Spells spelled ps ∧ spelled.flatten = text := by
  induction fuel generalizing text ps with
  | zero =>
    obtain rfl := List.eq_nil_of_length_eq_zero (Nat.le_zero.1 hfuel)
    obtain rfl := Except.ok.inj h
    exact ⟨[], .nil, rfl⟩
  | succ fuel ih =>
    rw [readPieces] at h
    split at h
    · next hnone =>
      obtain rfl := Except.ok.inj h
      exact ⟨[], .nil, (eq_nil_of_readPiece? hnone).symm⟩
    · cases h
    · next piece rest hpiece =>
      obtain ⟨spelled, hspells, rfl⟩ := readPiece?_spells hpiece
      obtain ⟨more, hrest, rfl⟩ := exists_of_map h
      have hlength : rest.length ≤ fuel := by
        have := hspells.length_pos
        rw [List.length_append] at hfuel
        omega
      obtain ⟨others, hothers, rfl⟩ := ih hlength hrest
      exact ⟨spelled :: others, .cons hspells hothers, rfl⟩

/-! ## The expression of a pattern -/

theorem expr_eq (ps : List Piece) :
    expr ps = .cat (.assert .textStart) (.sequence (exprs 0 ps ++ [.assert .textEnd])) :=
  Expr.sequence_cons_append _ _ _

/-- The expressions of pieces repeat without bound only what takes something. -/
theorem productive_pieces (index : Nat) (ps : List Piece) :
    (Expr.sequence (exprs index ps ++ [.assert .textEnd])).productive = true := by
  induction ps generalizing index with
  | nil => rfl
  | cons piece ps ih =>
    cases piece with
    | literal c =>
      rw [exprs, List.cons_append, Expr.sequence_cons_append, Expr.productive, ih]
      rfl
    | placeholder name hint =>
      rw [exprs, List.cons_append, Expr.sequence_cons_append, Expr.productive, ih, Expr.productive,
        (Hint.ofName hint).plain_and_productive.2]
      rfl

/-- There is one group for each placeholder. -/
theorem groupCount_pieces (index : Nat) (ps : List Piece) :
    Nat.max index (Expr.sequence (exprs index ps ++ [.assert .textEnd])).groupCount =
      index + (hints ps).length := by
  induction ps generalizing index with
  | nil => exact Nat.max_zero index
  | cons piece ps ih =>
    cases piece with
    | literal c =>
      rw [exprs, List.cons_append, Expr.sequence_cons_append, Expr.groupCount, hints, ← ih index]
      exact congrArg _ (Nat.zero_max _)
    | placeholder name hint =>
      have hgroups : (Hint.ofName hint).expr.groupCount = 0 := by cases Hint.ofName hint <;> rfl
      rw [exprs, List.cons_append, Expr.sequence_cons_append, Expr.groupCount, Expr.groupCount,
        hgroups, hints, List.length_cons]
      have hrest := ih (index + 1)
      change max (index + 1) _ = _ at hrest
      change max index (max (max (index + 1) 0) _) = _
      omega

theorem groups_program (ps : List Piece) : (expr ps).program.groups = (hints ps).length := by
  rw [Expr.program]
  change (expr ps).groupCount = _
  rw [expr_eq, Expr.groupCount, ← Nat.zero_add (hints ps).length, ← groupCount_pieces 0 ps]
  rfl

/-- The captures of a match are what its groups have on record. -/
theorem captures_eq_recorded (m : Match) (text : Array Char) (groups : Nat) :
    m.captures text groups = recorded text m.slots 0 groups := by
  simp only [Match.captures, recorded, Nat.zero_add]

/-- The groups of a match have the parts of the preferred reading on record; without a
reading there is no match. -/
theorem captures_search (ps : List Piece) (text : Array Char) :
    ((expr ps).program.search text).map (·.captures text (expr ps).program.groups) =
      (readings ps text.toList).head?.map (·.map String.ofList) := by
  have hsearch : (expr ps).program.search text = _ :=
    expr_eq ps ▸ Expr.search_textStart _ (productive_pieces 0 ps) text
  have hslots : 2 * (0 + (hints ps).length + 1) ≤ (expr ps).program.blank.size := by
    rw [Program.blank, groups_program, Array.size_replicate]
    omega
  have houtcomes := outcomes_pieces (List.suffix_refl text.toList) hslots
  rw [spotBefore, Array.length_toList, Nat.sub_self] at houtcomes
  have hlengths : ∀ parts ∈ readings ps text.toList, (hints ps).length = parts.length :=
    fun _ hmem => (mem_readings.1 hmem).admits.length_eq
  rw [hsearch, groups_program]
  generalize readings ps text.toList = all at houtcomes hlengths ⊢
  generalize Expr.outcomes text _ _ = spots at houtcomes ⊢
  -- The first outcome belongs to the first reading.
  cases houtcomes with
  | nil => rfl
  | cons hfirst hothers =>
    simp only [List.head?_cons, Option.map_some, captures_eq_recorded, Program.matchAt]
    rw [hlengths _ List.mem_cons_self, hfirst.recorded_eq]

/-- A placeholder pattern captures the parts of the preferred reading. -/
theorem captures_program (ps : List Piece) (source regex text : String) :
    Pattern.captures ⟨source, regex, (expr ps).program⟩ text =
      (readings ps text.toList).head?.map (·.map String.ofList) := by
  rw [Pattern.captures, find, captures_search, List.toList_toArray]

/-- A placeholder pattern matches the texts that have a reading. -/
theorem isMatch_program (ps : List Piece) (source regex text : String) :
    Pattern.isMatch ⟨source, regex, (expr ps).program⟩ text =
      (readings ps text.toList).head?.isSome := by
  rw [isMatch, ← Option.isSome_map, ← Pattern.captures, captures_program, Option.isSome_map]

variable {source : String} {p : Pattern}

/-- What is compiled from a source that does not start with a caret. -/
theorem compile_eq_ok (hsource : source.toList.head? ≠ some '^') (h : compile source = .ok p) :
    ∃ ps, pieces source.toList = .ok ps ∧ p = ⟨source, written ps, (expr ps).program⟩ := by
  rw [compile, if_neg (by simpa using hsource)] at h
  split at h
  · next found hfound =>
    split at h
    · exact ⟨found, hfound, (Except.ok.inj h).symm⟩
    · cases h
  · cases h

/-- A source that does not start with a caret is compiled to what its pieces stand for, if
this is not too large. -/
theorem compile_of_pieces (hsource : source.toList.head? ≠ some '^')
    (h : pieces source.toList = .ok ps) :
    compile source =
      if (expr ps).fits then .ok ⟨source, written ps, (expr ps).program⟩
      else .error .placeholderTooLarge := by
  rw [compile, if_neg (by simpa using hsource), h]

/-- A placeholder pattern consists of the pieces that its source spells out, and its regular
expression reads back as theirs. It matches the texts that can be decomposed as its pieces say. What
it captures are the parts of the decomposition that is preferred to all others; in a pattern with
words for all its placeholders, the one with the first lengths in the lexicographic order. -/
theorem compile_placeholders (hsource : source.toList.head? ≠ some '^')
    (h : compile source = .ok p) :
    ∃ ps, pieces source.toList = .ok ps ∧
      (∃ spelled, List.Forall₂ Spells spelled ps ∧ spelled.flatten = source.toList) ∧
      parse p.regex.toList = .ok (expr ps) ∧ p.program = (expr ps).program ∧
      ∀ text : String,
        (p.isMatch text = true ↔ ∃ parts, Decomposes ps text.toList parts) ∧
        (p.captures text).isSome = p.isMatch text ∧
        ∀ captured, p.captures text = some captured →
          captured.length = (hints ps).length ∧
          ∃ parts, captured = parts.map String.ofList ∧ Decomposes ps text.toList parts ∧
            ∀ others, Decomposes ps text.toList others → others ≠ parts →
              PreferredTo (hints ps) parts others ∧
              ((∀ hint ∈ hints ps, hint = .words) →
                List.Lex (· < ·) (parts.map List.length) (others.map List.length)) := by
  obtain ⟨ps, hpieces, rfl⟩ := compile_eq_ok hsource h
  refine ⟨ps, hpieces, readPieces_spells (Nat.le_refl _) hpieces, parse_written ps, rfl,
    fun text => ?_⟩
  refine ⟨?_, ?_, fun captured hcaptured => ?_⟩
  · rw [isMatch_program, List.isSome_head?]
    constructor
    · intro hne
      obtain ⟨parts, hparts⟩ := List.exists_mem_of_ne_nil _ hne
      exact ⟨parts, mem_readings.1 hparts⟩
    · rintro ⟨parts, hparts⟩
      exact List.ne_nil_of_mem (mem_readings.2 hparts)
  · rw [captures_program, isMatch_program, Option.isSome_map]
  · rw [captures_program] at hcaptured
    obtain ⟨parts, hhead, rfl⟩ := Option.map_eq_some_iff.1 hcaptured
    obtain ⟨rest, hreadings⟩ := List.head?_eq_some_iff.1 hhead
    have hparts : Decomposes ps text.toList parts :=
      mem_readings.1 (by rw [hreadings]; exact List.mem_cons_self)
    refine ⟨by rw [List.length_map, hparts.admits.length_eq], parts, rfl, hparts,
      fun others hothers hne => ?_⟩
    have hmem : others ∈ rest := by
      have := mem_readings.2 hothers
      rw [hreadings] at this
      exact (List.mem_cons.1 this).resolve_left hne
    have hpreferred : PreferredTo (hints ps) parts others :=
      List.rel_of_pairwise_cons (hreadings ▸ pairwise_readings ps text.toList) hmem
    exact ⟨hpreferred, hpreferred.lex_length⟩

/-- Two placeholders for words with a blank between them. -/
def twoWords : List Piece := [.placeholder "a" none, .literal ' ', .placeholder "b" none]

theorem twoWords_captures : ∃ p, "{a} {b}".toList.head? ≠ some '^' ∧ compile "{a} {b}" = .ok p ∧
    p.captures "one two three" = some ["one", "two three"] := by
  have hsource : "{a} {b}".toList.head? ≠ some '^' := by decide
  have hpieces : pieces "{a} {b}".toList = .ok twoWords := by decide +kernel
  have hcompile : compile "{a} {b}" =
      .ok ⟨"{a} {b}", written twoWords, (expr twoWords).program⟩ := by
    rw [compile, if_neg (by decide), hpieces]
    exact if_pos (Expr.fits_of_room rfl (by decide +kernel))
  refine ⟨_, hsource, hcompile, ?_⟩
  obtain ⟨ps, hps, -, -, -, hall⟩ := compile_placeholders hsource hcompile
  obtain rfl := Except.ok.inj (hpieces.symm.trans hps)
  obtain ⟨hmatch, hsome, hcaptured⟩ := hall "one two three"
  let first := ["one".toList, "two three".toList]
  let second := ["one two".toList, "three".toList]
  have hreadings : readings twoWords "one two three".toList = [first, second] := by decide +kernel
  have hmem : ∀ parts, Decomposes twoWords "one two three".toList parts →
      parts = first ∨ parts = second := by
    intro parts hparts
    have hmem := mem_readings.2 hparts
    rwa [hreadings, List.mem_pair] at hmem
  have hfirst : Decomposes twoWords "one two three".toList first :=
    mem_readings.1 (by rw [hreadings]; simp)
  rw [hmatch.2 ⟨first, hfirst⟩] at hsome
  obtain ⟨captured, hcaptures⟩ := Option.isSome_iff_exists.1 hsome
  obtain ⟨-, parts, rfl, hparts, hbest⟩ := hcaptured captured hcaptures
  rw [hcaptures]
  rcases hmem parts hparts with rfl | rfl
  · rfl
  · -- The other reading has a longer first part.
    obtain ⟨-, hlex⟩ := hbest first hfirst (by decide)
    exact absurd (hlex (by decide)) (by decide)

end Rehearsal.Pattern
