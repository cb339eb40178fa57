import Rehearsal.Proofs.Pattern.Readings
import Rehearsal.Proofs.Regex.Enclosed

/-!
# Reading what is written

The regular expression that a placeholder pattern is written as reads back as the expression that it
stands for: literals are escaped where they need it, placeholders are the only groups, and the
anchors stand outside of them.
-/

namespace Rehearsal.Pattern

open Rehearsal.Regex

/-! ## Decimal numbers -/

section
variable {fuel : Nat} {rest : List Char} {groups : Nat} {names : List String} {parts : List Part}

/-- The flags in force where numbers are read. -/
def caseless : Flags := { caseless := true }

/-- A character as read in either case. -/
def readChar (c : Char) : Expr := caseless.setExpr (caseless.fold (.singleton c))

/-- A class of two characters as read with some flags. -/
def readPair (f : Flags) (c d : Char) : Expr :=
  f.setExpr (f.fold ((CharSet.empty.union (.singleton c)).union (.singleton d)))

/-- An optional sign as read. -/
def readSign (f : Flags) : Expr := (readPair f '+' '-').repeated 0 (some 1) true

/-- A number without sign and exponent as read. -/
def readMantissa : Expr := .alternation
  [.concatenation [digitsExpr, readChar '.', digitExpr.repeated 0 none true],
   .concatenation [readChar '.', digitsExpr], .concatenation [digitsExpr]]

/-- An exponent as read. -/
def readExponent : Expr := .concatenation [readPair caseless 'e' 'E', readSign caseless, digitsExpr]

/-- A decimal number as read. -/
def readDecimal : Expr := .alternation
  [.concatenation [readSign caseless, readMantissa, readExponent.repeated 0 (some 1) true],
   .concatenation ("nan".toList.map readChar), .concatenation ("inf".toList.map readChar),
   .concatenation ("infinity".toList.map readChar)]

/-- A number without sign and exponent as written. -/
def mantissaText : List Char := "\\d+\\.\\d*|\\.\\d+|\\d+".toList

/-- An exponent as written. -/
def exponentText : List Char := "[eE][+-]?\\d+".toList

theorem readAlternatives_mantissa :
    readAlternatives (fuel + 8) caseless [] ⟨mantissaText ++ ')' :: rest, groups, names⟩ =
      .ok (readMantissa, 3, caseless, ⟨')' :: rest, groups, names⟩) := by
  rfl

theorem readAlternatives_exponent :
    readAlternatives (fuel + 8) caseless [] ⟨exponentText ++ ')' :: rest, groups, names⟩ =
      .ok (readExponent, 4, caseless, ⟨')' :: rest, groups, names⟩) := by
  rfl

theorem readParts_sign :
    readParts (fuel + 2) caseless parts
      ⟨'[' :: '+' :: '-' :: ']' :: '?' :: '(' :: rest, groups, names⟩ =
      readParts fuel caseless (.expr (readSign caseless) 3 :: parts)
        ⟨'(' :: rest, groups, names⟩ := by
  rfl

/-- A decimal number as written, up to what follows it. -/
def decimalText (rest : List Char) : List Char :=
  '[' :: '+' :: '-' :: ']' :: '?' :: '(' :: '?' :: ':' :: (mantissaText ++
    ')' :: '(' :: '?' :: ':' ::
      (exponentText ++ ')' :: '?' :: ("|nan|inf|infinity".toList ++ rest)))

theorem readParts_number :
    readParts (fuel + 14) caseless [] ⟨decimalText rest, groups, names⟩ =
      .ok ([.expr (readExponent.repeated 0 (some 1) true) 6, .expr readMantissa 4,
        .expr (readSign caseless) 3], caseless,
        ⟨"|nan|inf|infinity".toList ++ rest, groups, names⟩) := by
  rw [decimalText, readParts_sign, readParts_plain rfl rfl readAlternatives_mantissa rfl,
    readParts_plain rfl rfl readAlternatives_exponent rfl]
  rfl

theorem readAlternatives_decimal :
    readAlternatives (fuel + 15) caseless [] ⟨decimalText (')' :: rest), groups, names⟩ =
      .ok (readDecimal, 8, caseless, ⟨')' :: rest, groups, names⟩) := by
  rw [readAlternatives_of_parts readParts_number]
  rfl

theorem readAlternatives_enclosed :
    readAlternatives (fuel + 17) caseless []
      ⟨'(' :: '?' :: ':' :: decimalText (')' :: ')' :: rest), groups, names⟩ =
      .ok (.concatenation [readDecimal], 9, caseless, ⟨')' :: rest, groups, names⟩) := by
  refine readAlternatives_of_part ?_ rfl
  rw [readParts_plain rfl rfl readAlternatives_decimal rfl]
  rfl

theorem toList_written_decimal :
    Hint.decimal.written.toList ++ ')' :: rest =
      '(' :: '?' :: 'i' :: ':' :: '(' :: '?' :: ':' :: decimalText (')' :: ')' :: ')' :: rest) := by
  rfl

theorem readAlternatives_written_decimal :
    readAlternatives (fuel + 19) {} [] ⟨Hint.decimal.written.toList ++ ')' :: rest, groups, names⟩ =
      .ok (.concatenation [.concatenation [readDecimal]], 10, {},
        ⟨')' :: rest, groups, names⟩) := by
  refine readAlternatives_of_part ?_ rfl
  rw [toList_written_decimal, readParts_plain rfl rfl readAlternatives_enclosed rfl]
  rfl

/-! ## What is read of a decimal number -/

/-- Alternatives that share no start and are not one class are a choice. -/
theorem alternation_eq_choice {e e' : Expr} {es : List Expr}
    (hbranches : (e :: e' :: es).flatMap Expr.branches = e :: e' :: es)
    (hmerged : Expr.mergedSet? (e :: e' :: es) = none)
    (hstart : Expr.sharedStart ((e :: e' :: es).map Expr.elements) = []) :
    Expr.alternation (e :: e' :: es) = .choice (e :: e' :: es) := by
  rw [Expr.alternation]
  · generalize List.headD _ _ = fuel
    cases fuel with
    | zero => simp only [Expr.alternationWithin, hbranches, hmerged]
    | succ fuel =>
      simp only [Expr.alternationWithin, hbranches, hmerged, hstart, List.isEmpty_nil, if_true]
  · simp

/-- Two characters in order make a class of two ranges if there are others between them. -/
theorem union_singletons {c d : Char} (h : c.toNat + 1 < d.toNat) :
    (CharSet.singleton c).union (.singleton d) = ⟨[(c.toNat, c.toNat), (d.toNat, d.toNat)]⟩ ∧
    (CharSet.singleton d).union (.singleton c) = ⟨[(c.toNat, c.toNat), (d.toNat, d.toNat)]⟩ := by
  have hle : ¬ d.toNat ≤ c.toNat + 1 := by omega
  have hlt : ¬ d.toNat ≤ c.toNat := by omega
  have hgt : c.toNat ≤ d.toNat := by omega
  simp [CharSet.union, CharSet.singleton, CharSet.range, CharSet.joinTouching,
    CharSet.joinTouching.join, *]

/-- The first item of a class is the class so far. -/
theorem empty_union_singleton (c : Char) : CharSet.empty.union (.singleton c) = .singleton c := by
  simp [CharSet.union, CharSet.empty, CharSet.singleton, CharSet.range, CharSet.joinTouching,
    CharSet.joinTouching.join]

theorem readSign_eq : readSign {} = signExpr ∧ readSign caseless = signExpr := by
  rw [readSign, readSign, readPair, readPair, empty_union_singleton,
    (union_singletons (by decide)).1]
  decide +kernel

theorem readPair_letters : readPair caseless 'e' 'E' = letterExpr 'e' := by
  rw [readPair, empty_union_singleton, (union_singletons (by decide)).2]
  decide +kernel

theorem readMantissa_eq : readMantissa = mantissaExpr := by
  decide +kernel

theorem readExponent_eq : readExponent = exponentExpr := by
  rw [readExponent, readSign_eq.2, readPair_letters]
  rfl

/-- A small letter and its capital. -/
def bothCases (c : Char) : Expr := .set ⟨[(c.toNat - 32, c.toNat - 32), (c.toNat, c.toNat)]⟩ false

theorem map_letterExpr {word : List Char} (h : ∀ c ∈ word, c ∈ numberLetters) :
    word.map letterExpr = word.map bothCases :=
  List.map_congr_left fun c hc => by rw [letterExpr, closeUnderCase_letter c (h c hc), bothCases]

theorem readDecimal_eq : readDecimal = decimalExpr := by
  rw [readDecimal, readSign_eq.2, readExponent_eq, readMantissa_eq]
  change Expr.alternation [numberExpr, .sequence (['n', 'a', 'n'].map letterExpr),
      .sequence (['i', 'n', 'f'].map letterExpr),
        .sequence (['i', 'n', 'f', 'i', 'n', 'i', 't', 'y'].map letterExpr)] =
    .choice [numberExpr, .sequence (['n', 'a', 'n'].map letterExpr),
      .sequence (['i', 'n', 'f'].map letterExpr),
        .sequence (['i', 'n', 'f', 'i', 'n', 'i', 't', 'y'].map letterExpr)]
  rw [map_letterExpr (by simp [numberLetters]), map_letterExpr (by simp [numberLetters]),
    map_letterExpr (by simp [numberLetters])]
  exact alternation_eq_choice rfl rfl rfl

/-! ## Hints -/

/-- What is written for a hint is read as its expression. -/
theorem Hint.readAlternatives_written (hint : Hint) (rest : List Char) (groups : Nat)
    (names : List String) (h : hint.written.length < fuel) :
    ∃ depth ≤ 10, readAlternatives fuel {} [] ⟨hint.written.toList ++ ')' :: rest, groups, names⟩ =
      .ok (hint.expr, depth, {}, ⟨')' :: rest, groups, names⟩) := by
  cases hint with
  | unsigned =>
    obtain ⟨n, rfl⟩ : ∃ n, fuel = n + 4 := Nat.exists_eq_add_of_le' h
    exact ⟨1, by decide, rfl⟩
  | signed =>
    obtain ⟨n, rfl⟩ : ∃ n, fuel = n + 9 := Nat.exists_eq_add_of_le' h
    have hread : readAlternatives (n + 9) {} []
        ⟨Hint.signed.written.toList ++ ')' :: rest, groups, names⟩ =
        .ok (.concatenation [readSign {}, digitsExpr], 4, {}, ⟨')' :: rest, groups, names⟩) := rfl
    refine ⟨4, by decide, ?_⟩
    rw [hread, readSign_eq.1]
    rfl
  | decimal =>
    obtain ⟨n, rfl⟩ : ∃ n, fuel = n + 19 := Nat.exists_eq_add_of_le' (Nat.le_trans (by decide) h)
    refine ⟨10, by decide, ?_⟩
    rw [readAlternatives_written_decimal, readDecimal_eq]
    rfl
  | words =>
    obtain ⟨n, rfl⟩ : ∃ n, fuel = n + 4 := Nat.exists_eq_add_of_le' h
    exact ⟨1, by decide, rfl⟩

end

/-! ## Patterns -/

section
variable {fuel groups : Nat} {names : List String} {rest text : List Char} {parts : List Part}

/-- A character that has a meaning of its own is read as itself after a backslash. -/
theorem readParts_escaped {c : Char} (hc : isMeta c = true) :
    readParts (fuel + 1) {} parts ⟨'\\' :: c :: rest, groups, names⟩ =
      readParts fuel {} (.expr (.set (.singleton c) false) 0 :: parts) ⟨rest, groups, names⟩ := by
  have hdigit : c.isDigit = false := by
    have hall : ("\\.+*?()|[]\x7b\x7d^$#&-~".toList.all fun d => !d.isDigit) = true := by decide
    simpa using List.all_eq_true.1 hall c (List.contains_iff_mem.1 hc)
  have hescape : readEscape {} (c :: rest) = .ok (.literal c false, rest) := by
    simp only [readEscape.eq_def, hdigit, isEscapable, hc, Bool.true_or, Bool.false_eq_true,
      if_false, if_true]
  rw [readParts.eq_def]
  change (readEscape {} (c :: rest) >>= _) = _
  rw [hescape]
  rfl

/-- Any other character is read as itself. -/
theorem readParts_unescaped {c : Char} (hc : isMeta c = false) :
    readParts (fuel + 1) {} parts ⟨c :: rest, groups, names⟩ =
      readParts fuel {} (.expr (.set (.singleton c) false) 0 :: parts) ⟨rest, groups, names⟩ := by
  have hbounds : markBounds? c = none := by
    rw [markBounds?.eq_def]
    split <;> first | rfl | cases hc
  have hskip : Flags.skip {} (c :: rest) = c :: rest := rfl
  rw [readParts.eq_def]
  simp only [hskip]
  split
  case h_1 heq => cases heq
  case h_11 heq =>
    obtain ⟨rfl, rfl⟩ := List.cons.inj heq
    rw [hbounds]
    rfl
  -- The other cases are those of characters with a meaning of their own.
  all_goals
    next heq =>
    injection heq
    subst_vars
    cases hc

/-- What is written for a placeholder. -/
theorem toList_written_placeholder (name : String) (hint : Option String) :
    (Piece.placeholder name hint).written.toList =
      '(' :: ((Hint.ofName hint).written.toList ++ [')']) := by
  simp [Piece.written]

/-- One piece as written is read as its expression. -/
theorem readParts_piece (piece : Piece) (parts : List Part) (rest : List Char) (groups : Nat)
    (names : List String) (h : piece.written.toList.length < fuel) :
    ∃ e depth, depth ≤ 11 ∧ (∀ ps,
      exprs groups (piece :: ps) = e :: exprs (groups + (hints [piece]).length) ps) ∧
      readParts (fuel + 1) {} parts ⟨piece.written.toList ++ rest, groups, names⟩ =
        readParts fuel {} (.expr e depth :: parts)
          ⟨rest, groups + (hints [piece]).length, names⟩ := by
  cases piece with
  | literal c =>
    refine ⟨.set (.singleton c) false, 0, by decide, fun _ => rfl, ?_⟩
    rw [Piece.written]
    split
    · next hc => simpa [hints] using readParts_escaped hc
    · next hc => simpa [hints] using readParts_unescaped (Bool.eq_false_iff.2 hc)
  | placeholder name hint =>
    have hfuel : (Hint.ofName hint).written.length < fuel := by
      rw [toList_written_placeholder, List.length_cons, List.length_append,
        String.length_toList] at h
      omega
    obtain ⟨depth, hdepth, hread⟩ :=
      (Hint.ofName hint).readAlternatives_written rest (groups + 1) names hfuel
    refine ⟨.group (groups + 1) (Hint.ofName hint).expr, depth + 1, by omega, fun _ => rfl, ?_⟩
    rw [toList_written_placeholder, List.cons_append, List.append_assoc, List.singleton_append]
    refine readParts_recording rfl ?_ hread rfl
    cases Hint.ofName hint <;> rfl

/-- There are as many placeholders as in the first piece and in the others. -/
theorem length_hints_cons (piece : Piece) (ps : List Piece) :
    (hints (piece :: ps)).length = (hints [piece]).length + (hints ps).length := by
  cases piece with
  | literal c => exact (Nat.zero_add _).symm
  | placeholder name hint => exact Nat.add_comm _ 1

/-- The pieces as written are read as their expressions. -/
theorem readParts_pieces (ps : List Piece) (parts : List Part) (groups : Nat) (names : List String)
    (h : (ps.flatMap fun p => p.written.toList).length + 1 < fuel) :
    ∃ more, readParts fuel {} parts
      ⟨(ps.flatMap fun p => p.written.toList) ++ ['$'], groups, names⟩ =
        .ok (more ++ parts, {}, ⟨[], groups + (hints ps).length, names⟩) ∧
      more.reverse.map Part.expression = exprs groups ps ++ [.assert .textEnd] ∧
      ∀ part ∈ more, part.depth ≤ 11 := by
  induction ps generalizing fuel groups parts with
  | nil =>
    obtain ⟨n, rfl⟩ : ∃ n, fuel = n + 2 := Nat.exists_eq_add_of_le' h
    refine ⟨[.expr (.assert .textEnd) 0], rfl, rfl, fun part hpart => ?_⟩
    obtain rfl := List.mem_singleton.1 hpart
    exact Nat.zero_le _
  | cons piece ps ih =>
    rw [List.flatMap_cons, List.length_append] at h
    obtain ⟨n, rfl⟩ : ∃ n, fuel = n + 1 := Nat.exists_eq_add_of_le' (by omega)
    have hpiece : 0 < piece.written.toList.length := by
      cases piece with
      | literal c =>
        rw [Piece.written]
        split <;> simp
      | placeholder name hint => simp [toList_written_placeholder]
    obtain ⟨e, depth, hdepth, hexprs, hread⟩ := readParts_piece piece parts
      ((ps.flatMap fun p => p.written.toList) ++ ['$']) groups names
      (show piece.written.toList.length < n by omega)
    obtain ⟨more, hmore, hexpressions, hdepths⟩ :=
      ih (.expr e depth :: parts) (groups + (hints [piece]).length)
      (show (ps.flatMap fun p => p.written.toList).length + 1 < n by omega)
    refine ⟨more ++ [.expr e depth], ?_, ?_, fun part hpart => ?_⟩
    · rw [List.flatMap_cons, List.append_assoc, hread, hmore, Nat.add_assoc, ← length_hints_cons,
        List.append_assoc, List.singleton_append]
    · rw [List.reverse_append, List.map_append, hexpressions, hexprs]
      rfl
    · rcases List.mem_append.1 hpart with hpart | hpart
      · exact hdepths part hpart
      · obtain rfl := List.mem_singleton.1 hpart
        exact hdepth

/-- Several things nest at most once more than each of them. -/
theorem joinedDepth_le {depths : List Nat} (bound : Nat) (h : ∀ d ∈ depths, d ≤ bound) :
    joinedDepth depths ≤ bound + 1 := by
  have hfoldl : ∀ start ≤ bound, depths.foldl Nat.max start ≤ bound := by
    induction depths with
    | nil => exact fun start hstart => hstart
    | cons d depths ih =>
      obtain ⟨hd, hdepths⟩ := List.forall_mem_cons.1 h
      exact fun start hstart => ih hdepths _ (Nat.max_le.2 ⟨hstart, hd⟩)
  rw [joinedDepth.eq_def]
  split
  · exact Nat.zero_le _
  · next d => exact Nat.le_succ_of_le (h d List.mem_cons_self)
  · exact Nat.succ_le_succ (hfoldl 0 (Nat.zero_le _))

/-- The expressions of pieces are no concatenations. -/
theorem flatMap_factors_exprs (index : Nat) (ps : List Piece) :
    (exprs index ps).flatMap Expr.factors = exprs index ps := by
  induction ps generalizing index with
  | nil => rfl
  | cons piece ps ih =>
    cases piece with
    | literal c => exact congrArg (_ :: ·) (ih index)
    | placeholder name hint => exact congrArg (_ :: ·) (ih (index + 1))

/-- The regular expression of a placeholder pattern reads back as its expression. -/
theorem parse_written (ps : List Piece) : parse (written ps).toList = .ok (expr ps) := by
  have htext : (written ps).toList = '^' :: ((ps.flatMap fun p => p.written.toList) ++ ['$']) := by
    simp [written, List.flatMap_map]
  obtain ⟨more, hmore, hexpressions, hdepths⟩ :=
    readParts_pieces ps [.expr (.assert .textStart) 0] 0 []
    (show _ < 2 * (written ps).toList.length by simp [htext]; omega)
  have hparts : readParts (2 * (written ps).toList.length + 1) {} [] ⟨(written ps).toList, 0, []⟩ =
      .ok (more ++ [.expr (.assert .textStart) 0], {}, ⟨[], 0 + (hints ps).length, []⟩) := by
    rw [← hmore, htext]
    rfl
  have hconcatenation : Expr.concatenation
      ((more ++ [Part.expr (.assert .textStart) 0]).reverse.map Part.expression) = expr ps := by
    rw [List.reverse_append, List.map_append, hexpressions, Expr.concatenation, List.flatMap_append,
      List.flatMap_append, flatMap_factors_exprs]
    rfl
  have hdepth : joinedDepth ((more ++ [Part.expr (.assert .textStart) 0]).map Part.depth) ≤
      nestingLimit := by
    refine Nat.le_trans (joinedDepth_le 11 fun d hd => ?_) (by decide)
    obtain ⟨part, hpart, rfl⟩ := List.mem_map.1 hd
    rcases List.mem_append.1 hpart with hpart | hpart
    · exact hdepths part hpart
    · obtain rfl := List.mem_singleton.1 hpart
      exact Nat.zero_le _
  rw [parse, readAlternatives_of_parts hparts]
  generalize joinedDepth ((more ++ [Part.expr (.assert .textStart) 0]).map Part.depth) =
    depth at hdepth ⊢
  rw [hconcatenation]
  simp [Expr.alternation, joinedDepth, bind, Except.bind, hdepth]

end

end Rehearsal.Pattern
