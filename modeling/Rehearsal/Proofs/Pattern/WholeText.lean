import Rehearsal.Proofs.Pattern.Placeholders
import Rehearsal.Proofs.Regex.Anchored

/-!
# What anchors promise

A pattern is matched between the start and the end of the text. The expression of a placeholder
pattern has both anchors outside of all that its pieces stand for. A regular expression is put in
parentheses between them, which keeps them outside of it if it can be read by itself. A source with
a parenthesis that it does not open closes the one before it, and is accepted all the same: then an
alternative of it may be without its anchors.
-/

namespace Rehearsal.Pattern

open Rehearsal.Regex

variable {source text : String} {p : Pattern}

/-- The source can be read by itself, if it is to be read as a regular expression. -/
def StandsAlone (source : String) : Prop :=
  source.toList.head? = some '^' → ∃ e, parse source.toList = .ok e

/-- What is compiled from a source that starts with a caret. -/
theorem compile_eq_ok_of_caret (hsource : source.toList.head? = some '^')
    (h : compile source = .ok p) :
    ∃ e, parse (anchored source).toList = .ok e ∧ p = ⟨source, anchored source, e.program⟩ := by
  rw [compile, if_pos (by simpa using hsource)] at h
  split at h
  · next e he =>
    split at h
    · exact ⟨e, he, (Except.ok.inj h).symm⟩
    · cases h
  · cases h

/-- A source that can be read by itself is compiled to an expression between the start and
the end of the text. -/
theorem program_eq_anchored (halone : StandsAlone source) (h : compile source = .ok p) :
    ∃ es, p.program = (Expr.sequence (.assert .textStart :: es ++ [.assert .textEnd])).program := by
  by_cases hsource : source.toList.head? = some '^'
  · obtain ⟨inner, hinner⟩ := halone hsource
    obtain ⟨e, he, rfl⟩ := compile_eq_ok_of_caret hsource h
    have htext : (anchored source).toList =
        '^' :: '(' :: '?' :: ':' :: (source.toList ++ closing) := by
      simp [anchored, closing]
    rw [htext] at he
    refine ⟨inner.factors, ?_⟩
    rw [parse_enclosed hinner he, Expr.concatenation]
    simp [Expr.factors]
  · obtain ⟨ps, -, rfl⟩ := compile_eq_ok hsource h
    exact ⟨exprs 0 ps, rfl⟩

/-- A pattern whose source can be read by itself matches whole texts only. -/
theorem find_wholeText (halone : StandsAlone source) (h : compile source = .ok p)
    (hmatch : p.isMatch text = true) :
    ∃ m, p.find text = some m ∧ m.start = 0 ∧ m.stop = text.toList.length := by
  obtain ⟨es, hprogram⟩ := program_eq_anchored halone h
  obtain ⟨m, hm⟩ := Option.isSome_iff_exists.1 hmatch
  refine ⟨m, hm, ?_⟩
  rw [find, hprogram] at hm
  simpa using Expr.search_anchored es hm

/-- One of two letters. -/
def eitherLetter : Expr :=
  .cat (.assert .textStart) (.cat (.alt (.cat (.assert .textStart) (.set (.singleton 'a') false))
    (.set (.singleton 'b') false)) (.assert .textEnd))

theorem eitherLetter_wholeText :
    StandsAlone "^a|b" ∧ ∃ p m, compile "^a|b" = .ok p ∧ p.isMatch "b" = true ∧
    p.find "b" = some m ∧ m.start = 0 ∧ m.stop = 1 := by
  have halone : StandsAlone "^a|b" :=
    fun _ => ⟨.alt (.cat (.assert .textStart) (.set (.singleton 'a') false))
    (.set (.singleton 'b') false), by decide +kernel⟩
  have hcompile : compile "^a|b" = .ok ⟨"^a|b", "^(?:^a|b)$", eitherLetter.program⟩ := by
    have hparse : parse (anchored "^a|b").toList = .ok eitherLetter := by decide +kernel
    rw [compile, if_pos (by decide), hparse]
    exact if_pos (by decide +kernel)
  have hmatch : Pattern.isMatch ⟨"^a|b", "^(?:^a|b)$", eitherLetter.program⟩ "b" = true := by
    rw [isMatch, find, Expr.search_program eitherLetter rfl]
    decide +kernel
  obtain ⟨m, hm, hstart, hstop⟩ := find_wholeText halone hcompile hmatch
  exact ⟨halone, _, m, hcompile, hmatch, hm, hstart, hstop⟩

/-- What is compiled from a source that closes the parenthesis before it: a letter at the start of
the text, or another one at its end. -/
def strayExpr : Expr :=
  .alt (.cat (.assert .textStart) (.cat (.assert .textStart) (.set (.singleton 'a') false)))
    (.cat (.group 1 (.set (.singleton 'b') false)) (.assert .textEnd))

/-- Without a condition on the source, a pattern may match a part of a text. -/
theorem strayParenthesis_findsPart : ¬ ∀ (source : String) (p : Pattern), compile source = .ok p →
    ∀ text : String, p.isMatch text = true →
      ∃ m, p.find text = some m ∧ m.start = 0 ∧ m.stop = text.toList.length := by
  intro hall
  have hcompile : compile "^a)|(b" = .ok ⟨"^a)|(b", "^(?:^a)|(b)$", strayExpr.program⟩ := by
    have hparse : parse (anchored "^a)|(b").toList = .ok strayExpr := by decide +kernel
    rw [compile, if_pos (by decide), hparse]
    exact if_pos (by decide +kernel)
  have hfind : (find ⟨"^a)|(b", "^(?:^a)|(b)$", strayExpr.program⟩ "axyz").map
      Match.stop = some 1 := by
    rw [find, Expr.search_program strayExpr rfl]
    decide +kernel
  have hmatch : Pattern.isMatch ⟨"^a)|(b", "^(?:^a)|(b)$", strayExpr.program⟩ "axyz" = true := by
    rw [isMatch, ← Option.isSome_map, hfind]
    rfl
  obtain ⟨m, hm, -, hstop⟩ := hall _ _ hcompile "axyz" hmatch
  rw [hm, Option.map_some, hstop] at hfind
  exact absurd hfind (by decide)

end Rehearsal.Pattern
