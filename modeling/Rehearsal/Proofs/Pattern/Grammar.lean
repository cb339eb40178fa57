import Rehearsal.Proofs.Pattern.Placeholders

/-!
# The grammar of placeholder patterns

A placeholder pattern is a sequence of items: plain characters, escaped characters, doubled braces
and placeholders. A text that is none has a first place where no item starts, and what stands there
decides the error. Reading pieces follows this grammar in both respects, and what it makes of a
pattern is always a regular expression, with one group for each placeholder.
-/

namespace Rehearsal.Pattern

open Rehearsal.Regex

variable {text rest left spelled name hint : List Char} {piece : Piece} {ps : List Piece}
  {e : PlaceholderError}

/-! ## Items and faults -/

/-- The text starts with an item that stands for the piece. A backslash by itself is one at the
end of a text only. -/
def StartsWithItem (text : List Char) (piece : Piece) (rest : List Char) : Prop :=
  ∃ spelled, Spells spelled piece ∧ (spelled = ['\\'] → rest = []) ∧ spelled ++ rest = text

/-- The items that the text starts with stand for the pieces, and `left` is what is
left of it after them. -/
inductive Scans : List Char → List Piece → List Char → Prop
  | refl (text : List Char) : Scans text [] text
  | item {text rest left : List Char} {piece : Piece} {ps : List Piece}
    (h : StartsWithItem text piece rest) (hrest : Scans rest ps left) :
    Scans text (piece :: ps) left

/-- What is wrong with a text that starts with no item. -/
inductive Malformed : List Char → PlaceholderError → Prop
  /-- A closing brace is not doubled. -/
  | braceUnmatched (rest : List Char) (h : rest.head? ≠ some '\x7d') :
      Malformed ('\x7d' :: rest) .braceUnmatched
  /-- An opening brace is neither doubled nor before a name. -/
  | nameMissing (rest : List Char) (hdouble : rest.head? ≠ some '\x7b')
    (h : rest.head?.any isNameStart = false) :
    Malformed ('\x7b' :: rest) .nameMissing
  /-- The text ends in the name. -/
  | nameUnclosed (name : List Char) (h : IsName name) :
      Malformed ('\x7b' :: name) (.unclosed (.ofList name))
  /-- The text ends in the type hint. -/
  | hintUnclosed (name hint : List Char) (h : IsName name) (hopen : '\x7d' ∉ hint) :
    Malformed ('\x7b' :: (name ++ ':' :: hint)) (.unclosed (.ofList name))
  /-- After the name comes neither a type hint nor the closing brace. -/
  | badCharacter (name : List Char) (c : Char) (rest : List Char) (h : IsName name)
    (hc : isNameCharacter c = false ∧ c ≠ ':' ∧ c ≠ '\x7d') :
    Malformed ('\x7b' :: (name ++ c :: rest)) (.badCharacter (.ofList name))
  /-- The type hint is empty or has a blank in it. -/
  | badHint (name hint rest : List Char) (h : IsName name) (hopen : '\x7d' ∉ hint)
    (hbad : hint = [] ∨ ∃ c ∈ hint, isBlank c = true) :
    Malformed ('\x7b' :: (name ++ ':' :: (hint ++ '\x7d' :: rest))) (.badHint (.ofList name))

/-! ## Reading one item -/

/-- A name is not empty. -/
theorem IsName.exists_cons (h : IsName name) :
    ∃ c more, name = c :: more ∧ isNameStart c = true := by
  obtain ⟨hstart, -⟩ := h
  cases name with
  | nil => cases hstart
  | cons c more => exact ⟨c, more, rfl, hstart⟩

/-- A brace does not start a name. -/
theorem IsName.head?_ne (h : IsName name) (rest : List Char) :
    (name ++ rest).head? ≠ some '\x7b' := by
  obtain ⟨c, more, rfl, hc⟩ := h.exists_cons
  rintro heq
  obtain rfl := Option.some.inj heq
  cases hc

/-- What stops a run of characters of a class cuts a text after them. -/
theorem span_append {p : Char → Bool} {word : List Char} (rest : List Char)
    (hword : ∀ c ∈ word, p c = true) (hstop : rest.head?.all (!p ·) = true) :
    (word ++ rest).takeWhile p = word ∧ (word ++ rest).dropWhile p = rest := by
  rw [List.takeWhile_append_of_pos hword, List.dropWhile_append_of_pos hword]
  cases rest with
  | nil => simp
  | cons c rest =>
    have hc : p c = false := by simpa using hstop
    simp [hc]

/-- An opening brace that is not doubled starts a placeholder. -/
theorem readPiece?_opening (h : text.head? ≠ some '\x7b') :
    readPiece? ('\x7b' :: text) = some (readPlaceholder text) := by
  cases text with
  | nil => rfl
  | cons c text =>
    rw [readPiece?]
    intro rest heq
    obtain ⟨rfl, -⟩ := List.cons.inj heq
    exact h rfl

/-- The name at the start of a placeholder is read up to what cannot stand in it. -/
theorem span_name (rest : List Char) (h : IsName name)
    (hstop : rest.head?.all (!isNameCharacter ·) = true) :
    (name ++ rest).head?.any isNameStart = true ∧ (name ++ rest).takeWhile isNameCharacter = name ∧
      (name ++ rest).dropWhile isNameCharacter = rest := by
  obtain ⟨c, more, rfl, hc⟩ := h.exists_cons
  exact ⟨hc, span_append rest h.2 hstop⟩

/-- A type hint is read up to the closing brace. -/
theorem span_hint (rest : List Char) (hopen : '\x7d' ∉ hint)
    (hstop : rest.head?.all (· == '\x7d') = true) :
    (hint ++ rest).takeWhile (· != '\x7d') = hint ∧
    (hint ++ rest).dropWhile (· != '\x7d') = rest := by
  refine span_append rest (fun c hc => bne_iff_ne.2 ?_) (by simpa [bne] using hstop)
  rintro rfl
  exact hopen hc

theorem Spells.readPiece?_append (h : Spells spelled piece) (hlast : spelled = ['\\'] → rest = []) :
    readPiece? (spelled ++ rest) = some (.ok (piece, rest)) := by
  cases h with
  | plain c h =>
    rw [List.singleton_append, readPiece?.eq_def]
    split <;> simp_all
  | escaped c => rfl
  | backslash =>
    obtain rfl := hlast rfl
    rfl
  | opening => rfl
  | closing => rfl
  | placeholder name h =>
    -- The brace is no character of a name, so the name is read up to it.
    obtain ⟨hstart, hname, hafter⟩ := span_name ('\x7d' :: rest) h rfl
    rw [List.cons_append, List.append_assoc, List.singleton_append,
      readPiece?_opening (h.head?_ne _)]
    simp only [readPlaceholder, hstart, hname, hafter, Bool.not_true, Bool.false_eq_true, if_false]
  | hinted name hint h hhint =>
    obtain ⟨hstart, hname, hafter⟩ := span_name (':' :: (hint ++ '\x7d' :: rest)) h rfl
    obtain ⟨hread, hclosed⟩ := span_hint ('\x7d' :: rest) (fun hc => (hhint.2 _ hc).2 rfl) rfl
    have hgood : (hint.isEmpty || hint.any isBlank) = false := by
      simpa [hhint.1] using fun c hc => (hhint.2 c hc).1
    have htext : '\x7b' :: (name ++ ':' :: (hint ++ ['\x7d'])) ++ rest =
        '\x7b' :: (name ++ ':' :: (hint ++ '\x7d' :: rest)) := by simp
    rw [htext, readPiece?_opening (h.head?_ne _)]
    simp only [readPlaceholder, hstart, hname, hafter, hread, hclosed, hgood, Bool.not_true,
      Bool.false_eq_true, if_false]

theorem Malformed.readPiece?_eq (h : Malformed text e) : readPiece? text = some (.error e) := by
  cases h with
  | braceUnmatched rest h =>
    rw [readPiece?]
    rintro rest rfl
    exact h rfl
  | nameMissing rest hdouble h => simp [readPiece?_opening hdouble, readPlaceholder, h]
  | nameUnclosed name h =>
    obtain ⟨hstart, hname, hafter⟩ := span_name [] h rfl
    have hdouble := h.head?_ne []
    rw [List.append_nil] at hstart hname hafter hdouble
    rw [readPiece?_opening hdouble]
    simp only [readPlaceholder, hstart, hname, hafter, Bool.not_true, Bool.false_eq_true, if_false]
  | hintUnclosed name hint h hopen =>
    obtain ⟨hstart, hname, hafter⟩ := span_name (':' :: hint) h rfl
    obtain ⟨-, hclosed⟩ := span_hint [] hopen rfl
    rw [List.append_nil] at hclosed
    rw [readPiece?_opening (h.head?_ne _)]
    simp only [readPlaceholder, hstart, hname, hafter, hclosed, Bool.not_true,
      Bool.false_eq_true, if_false]
  | badCharacter name c rest h hc =>
    obtain ⟨hstart, hname, hafter⟩ := span_name (c :: rest) h (by simp [hc.1])
    rw [readPiece?_opening (h.head?_ne _)]
    simp only [readPlaceholder, hstart, hname, hafter, Bool.not_true, Bool.false_eq_true, if_false]
    split <;> simp_all
  | badHint name hint rest h hopen hbad =>
    obtain ⟨hstart, hname, hafter⟩ := span_name (':' :: (hint ++ '\x7d' :: rest)) h rfl
    obtain ⟨hread, hclosed⟩ := span_hint ('\x7d' :: rest) hopen rfl
    have hgood : (hint.isEmpty || hint.any isBlank) = true := by simpa using hbad
    rw [readPiece?_opening (h.head?_ne _)]
    simp only [readPlaceholder, hstart, hname, hafter, hread, hclosed, hgood, Bool.not_true,
      Bool.false_eq_true, if_false, if_true]

/-- What is read is an item at the start of the text. -/
theorem startsWithItem_of_readPiece? (h : readPiece? text = some (.ok (piece, rest))) :
    StartsWithItem text piece rest := by
  obtain ⟨spelled, hspells, rfl⟩ := readPiece?_spells h
  refine ⟨spelled, hspells, ?_, rfl⟩
  rintro rfl
  -- Before another character the backslash would have been read with it.
  cases rest with
  | nil => rfl
  | cons c rest =>
    have hread : readPiece? ('\\' :: c :: rest) = some (.ok (.literal c, rest)) := rfl
    obtain ⟨-, hrest⟩ := Prod.mk.inj (Except.ok.inj (Option.some.inj (hread.symm.trans h)))
    exact absurd (congrArg List.length hrest) (by simp)

/-- What stops a run of characters of a class is not in the class. -/
theorem all_head?_dropWhile (p : Char → Bool) (text : List Char) :
    (text.dropWhile p).head?.all (!p ·) = true := by
  have hhead := List.head?_dropWhile_not p text
  cases hdrop : (text.dropWhile p).head? with
  | none => rfl
  | some c =>
    rw [hdrop] at hhead
    simpa using hhead

theorem exists_name (h : text.head?.any isNameStart = true) :
    ∃ name rest, name ++ rest = text ∧ IsName name ∧ rest.head?.all (!isNameCharacter ·) = true :=
  ⟨_, _, List.takeWhile_append_dropWhile, isName_takeWhile h, all_head?_dropWhile _ text⟩

theorem exists_hint (text : List Char) :
    ∃ hint rest, hint ++ rest = text ∧ '\x7d' ∉ hint ∧ rest.head?.all (· == '\x7d') = true := by
  refine ⟨_, _, List.takeWhile_append_dropWhile (p := (· != '\x7d')), fun hc => ?_, ?_⟩
  · simpa using List.all_eq_true.1 List.all_takeWhile _ hc
  · simpa [bne] using all_head?_dropWhile (· != '\x7d') text

/-- What is wrong with a placeholder is wrong with the text that it starts. -/
theorem malformed_of_readPlaceholder (hdouble : text.head? ≠ some '\x7b')
    (h : readPlaceholder text = .error e) :
    Malformed ('\x7b' :: text) e := by
  cases hstart : text.head?.any isNameStart with
  | false =>
    rw [readPlaceholder, if_pos (by simp [hstart])] at h
    obtain rfl := Except.error.inj h
    exact .nameMissing text hdouble hstart
  | true =>
  obtain ⟨name, rest, rfl, hisName, hstop⟩ := exists_name hstart
  obtain ⟨-, hname, hafter⟩ := span_name rest hisName hstop
  simp only [readPlaceholder, hstart, hname, hafter, Bool.not_true, Bool.false_eq_true,
    if_false] at h
  -- What stops the name decides: nothing, the closing brace, a colon, or a character
  -- that must not be there.
  split at h
  · obtain rfl := Except.error.inj h
    rw [List.append_nil]
    exact .nameUnclosed name hisName
  · cases h
  · next after =>
    obtain ⟨hint, rest, rfl, hopen, hclosing⟩ := exists_hint after
    obtain ⟨hread, hclosed⟩ := span_hint rest hopen hclosing
    simp only [hread, hclosed] at h
    split at h
    · obtain rfl := Except.error.inj h
      rw [List.append_nil]
      exact .hintUnclosed name hint hisName hopen
    · next c rest =>
      obtain rfl : c = '\x7d' := by simpa using hclosing
      split at h
      · next hbad =>
        obtain rfl := Except.error.inj h
        exact .badHint name hint rest hisName hopen (by simpa using hbad)
      · cases h
  · next c after hbrace hcolon =>
    obtain rfl := Except.error.inj h
    refine .badCharacter name c after hisName ⟨by simpa using hstop, ?_, ?_⟩
    · rintro rfl
      exact hcolon rfl
    · rintro rfl
      exact hbrace rfl

/-- Nothing is read where the text is malformed. -/
theorem malformed_of_readPiece? (h : readPiece? text = some (.error e)) : Malformed text e := by
  rw [readPiece?.eq_def] at h
  split at h
  case h_6 rest hdouble =>
    refine malformed_of_readPlaceholder ?_ (Option.some.inj h)
    intro hhead
    obtain ⟨more, rfl⟩ := List.head?_eq_some_iff.1 hhead
    exact hdouble more rfl
  case h_7 rest hdouble =>
    obtain rfl := Except.error.inj (Option.some.inj h)
    refine .braceUnmatched rest fun hhead => ?_
    obtain ⟨more, rfl⟩ := List.head?_eq_some_iff.1 hhead
    exact hdouble more rfl
  all_goals cases h

/-! ## Reading all items -/

/-- A text goes on with an item, is malformed, or is at its end, and reading
one piece tells which. -/
theorem readPiece?_eq_ok_iff :
    readPiece? text = some (.ok (piece, rest)) ↔ StartsWithItem text piece rest := by
  refine ⟨startsWithItem_of_readPiece?, ?_⟩
  rintro ⟨spelled, hspells, hlast, rfl⟩
  exact hspells.readPiece?_append hlast

theorem readPiece?_eq_error_iff : readPiece? text = some (.error e) ↔ Malformed text e :=
  ⟨malformed_of_readPiece?, Malformed.readPiece?_eq⟩

/-- An item takes a character. -/
theorem StartsWithItem.length_lt (h : StartsWithItem text piece rest) :
    rest.length < text.length := by
  obtain ⟨spelled, hspells, -, rfl⟩ := h
  have := hspells.length_pos
  rw [List.length_append]
  omega

/-- Reading goes over the items that the text starts with. -/
theorem Scans.readPieces_eq (h : Scans text ps left) {fuel : Nat} (hfuel : text.length ≤ fuel) :
    ∃ fuel', left.length ≤ fuel' ∧
      readPieces fuel text = (readPieces fuel' left).map (ps ++ ·) := by
  induction h generalizing fuel with
  | refl text =>
    refine ⟨fuel, hfuel, ?_⟩
    cases readPieces fuel text <;> rfl
  | item h hrest ih =>
    have hlt := h.length_lt
    obtain ⟨fuel, rfl⟩ : ∃ n, fuel = n + 1 := Nat.exists_eq_add_of_le' (by omega)
    obtain ⟨fuel', hle, hread⟩ := @ih fuel (by omega)
    refine ⟨fuel', hle, ?_⟩
    rw [readPieces, readPiece?_eq_ok_iff.2 h]
    dsimp only
    rw [hread]
    cases readPieces fuel' _ <;> rfl

/-- Every text is a sequence of items up to its end or up to a place where it is malformed. -/
theorem exists_scans (text : List Char) :
    ∃ ps left, Scans text ps left ∧ (left = [] ∨ ∃ e, Malformed left e) := by
  induction hlength : text.length using Nat.strongRecOn generalizing text with
  | ind n ih =>
    cases hread : readPiece? text with
    | none => exact ⟨[], text, .refl text, .inl (eq_nil_of_readPiece? hread)⟩
    | some result =>
      cases result with
      | error e => exact ⟨[], text, .refl text, .inr ⟨e, readPiece?_eq_error_iff.1 hread⟩⟩
      | ok found =>
        have hitem := readPiece?_eq_ok_iff.1 hread
        obtain ⟨ps, left, hscans, hleft⟩ := ih _ (hlength ▸ hitem.length_lt) found.2 rfl
        exact ⟨found.1 :: ps, left, .item hitem hscans, hleft⟩

/-- A text that is nothing but items is read as their pieces. -/
theorem Scans.pieces_eq_ok (h : Scans text ps []) : pieces text = .ok ps := by
  obtain ⟨fuel, -, hread⟩ := h.readPieces_eq (Nat.le_refl _)
  rw [pieces, hread]
  cases fuel <;> simp [readPieces, readPiece?, Except.map]

/-- A text is not read if it is malformed after its first items. -/
theorem Scans.pieces_eq_error (h : Scans text ps left) (hleft : Malformed left e) :
    pieces text = .error e := by
  obtain ⟨fuel, hfuel, hread⟩ := h.readPieces_eq (Nat.le_refl _)
  have hpos : 0 < left.length := by cases hleft <;> simp
  obtain ⟨fuel, rfl⟩ : ∃ n, fuel = n + 1 := Nat.exists_eq_add_of_le' (by omega)
  rw [pieces, hread, readPieces, readPiece?_eq_error_iff.2 hleft]
  rfl

/-- Texts that consist of items are those that are read. -/
theorem pieces_eq_ok_iff : pieces text = .ok ps ↔ Scans text ps [] := by
  refine ⟨fun h => ?_, Scans.pieces_eq_ok⟩
  obtain ⟨ps', left, hscans, rfl | ⟨e, he⟩⟩ := exists_scans text
  · obtain rfl := Except.ok.inj (hscans.pieces_eq_ok.symm.trans h)
    exact hscans
  · exact nomatch (hscans.pieces_eq_error he).symm.trans h

/-- The first place where a text is malformed decides the error. -/
theorem pieces_eq_error_iff :
    pieces text = .error e ↔ ∃ ps left, Scans text ps left ∧ Malformed left e := by
  refine ⟨fun h => ?_, fun ⟨ps, left, hscans, hleft⟩ => hscans.pieces_eq_error hleft⟩
  obtain ⟨ps, left, hscans, rfl | ⟨e', he⟩⟩ := exists_scans text
  · exact nomatch hscans.pieces_eq_ok.symm.trans h
  · obtain rfl := Except.error.inj ((hscans.pieces_eq_error he).symm.trans h)
    exact ⟨ps, left, hscans, he⟩

/-! ## Compiling -/

/-- A source that does not start with a caret is scanned from left to right. Unless its program
takes too much room it is compiled exactly if it consists of items. Otherwise the first place
where it is malformed decides the error. No error is one of a regular expression: what is written
for the items of a source always is one, which has one group for each placeholder and is what the
source is compiled to. -/
theorem compile_grammar {source : String} (hsource : source.toList.head? ≠ some '^') :
    ((∃ p, compile source = .ok p) ∨ compile source = .error .placeholderTooLarge ↔
      ∃ ps, Scans source.toList ps []) ∧
    (∀ e, compile source = .error (.placeholder e) ↔ ∃ ps left, Scans source.toList ps left ∧
      Malformed left e) ∧
    (∀ e, compile source ≠ .error (.regex e)) ∧ compile source ≠ .error .regexTooLarge ∧
    ∀ ps, Scans source.toList ps [] → ∃ e, parse (written ps).toList = .ok e ∧
      e.program.groups = (hints ps).length ∧
      compile source = if e.fits then .ok ⟨source, written ps, e.program⟩
        else .error .placeholderTooLarge := by
  simp only [← pieces_eq_error_iff, ← pieces_eq_ok_iff]
  cases hpieces : pieces source.toList with
  | error e =>
    have hcompile : compile source = .error (.placeholder e) := by
      rw [compile, if_neg (by simpa using hsource), hpieces]
    simp [hcompile]
  | ok ps =>
    have hcompile := compile_of_pieces hsource hpieces
    have hends : (∃ p, compile source = .ok p) ∨ compile source = .error .placeholderTooLarge := by
      rw [hcompile]
      split
      · exact .inl ⟨_, rfl⟩
      · exact .inr rfl
    have honly : ∀ e, compile source = .error e → e = .placeholderTooLarge := by
      intro e he
      rcases hends with ⟨p, hp⟩ | hlarge
      · cases hp.symm.trans he
      · exact Except.error.inj (he.symm.trans hlarge)
    refine ⟨iff_of_true hends ⟨ps, rfl⟩, fun e => ?_, fun e h => ?_, fun h => ?_, fun ps' hps => ?_⟩
    · constructor
      · intro h
        cases honly _ h
      · intro h
        cases h
    · cases honly _ h
    · cases honly _ h
    · obtain rfl := Except.ok.inj hps
      exact ⟨expr ps, parse_written ps, groups_program ps, hcompile⟩

/-- Three opening braces are a doubled one and that of a placeholder, and three closing
ones the other way round. Two are one that is doubled, so that a single closing one after
them closes nothing. -/
theorem doubledBraces_grammar :
    "\x7b\x7b\x7ba\x7d\x7d\x7d".toList.head? ≠ some '^' ∧
    (∃ p, compile "\x7b\x7b\x7ba\x7d\x7d\x7d" = .ok p ∧ p.regex = "^\\\x7b(.+?)\\\x7d$" ∧
      p.program.groups = 1) ∧
    "\x7b\x7ba\x7d".toList.head? ≠ some '^' ∧
    compile "\x7b\x7ba\x7d" = .error (.placeholder .braceUnmatched) := by
  have hsource : "\x7b\x7b\x7ba\x7d\x7d\x7d".toList.head? ≠ some '^' := by decide
  have hscans : Scans "\x7b\x7b\x7ba\x7d\x7d\x7d".toList
      [.literal '\x7b', .placeholder "a" none, .literal '\x7d'] [] :=
    pieces_eq_ok_iff.1 (by decide +kernel)
  obtain ⟨e, hparse, hgroups, hcompile⟩ := (compile_grammar hsource).2.2.2.2 _ hscans
  obtain rfl := Except.ok.inj ((parse_written _).symm.trans hparse)
  rw [if_pos (Expr.fits_of_room rfl (by decide +kernel))] at hcompile
  have hsingle : "\x7b\x7ba\x7d".toList.head? ≠ some '^' := by decide
  refine ⟨hsource, ⟨_, hcompile, by decide +kernel, hgroups⟩, hsingle, ?_⟩
  refine ((compile_grammar hsingle).2.1 _).2
    ⟨[.literal '\x7b', .literal 'a'], ['\x7d'], ?_, .braceUnmatched [] (by decide)⟩
  exact .item ⟨_, .opening, nofun, rfl⟩ (.item ⟨_, .plain 'a' (by decide), nofun, rfl⟩ (.refl _))

end Rehearsal.Pattern
