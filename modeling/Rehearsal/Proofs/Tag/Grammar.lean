import Rehearsal.Proofs.Unicode.Trim
import Rehearsal.Tag.Filter

/-!
# The grammar of tag filters

A term is written as a tag with marks before it and blanks around it, a group as terms with commas
between them, and a filter as groups with doubled ampersands between them. Reading a term gives a
term for the texts that are written so, and for all others an error, which is known from the text,
too: every text is some layout around what must be a tag.
-/

namespace Rehearsal

/-- What is allowed in the tags of filters. -/
theorem isForeignToTags_eq_false_iff {c : Char} :
    isForeignToTags c = false ↔ isBlank c = false ∧ c ≠ '@' ∧ c ≠ '~' ∧ c ≠ ',' ∧ c ≠ '&' := by
  simp [isForeignToTags, and_assoc]

/-! ## Layouts -/

/-- How a term is written around its tag: a tilde may negate it, an at sign may come before the tag,
and there may be blanks at the ends and after the tilde. -/
structure TermLayout where
  /-- What stands before the term. -/
  before : List Char
  /-- Whether there is a tilde. -/
  negated : Bool
  /-- What stands after the tilde. -/
  gap : List Char
  /-- Whether there is an at sign. -/
  sign : Bool
  /-- What stands after the term. -/
  after : List Char
  /-- Before the term stand blanks. -/
  blanks_before : Blanks before
  /-- After the tilde stand blanks. -/
  blanks_gap : Blanks gap
  /-- After the term stand blanks. -/
  blanks_after : Blanks after

namespace TermLayout

variable {layout : TermLayout} {tag : List Char}

/-- The tag with its at sign. -/
def signed (layout : TermLayout) (tag : List Char) : List Char :=
  (if layout.sign then ['@'] else []) ++ tag

/-- The tag in its layout. -/
def around (layout : TermLayout) (tag : List Char) : List Char :=
  layout.before ++ ((if layout.negated then '~' :: layout.gap else []) ++
    layout.signed tag) ++ layout.after

/-- The layout takes whatever can be part of it: what is left for the tag neither ends
with a blank nor starts with one or with a mark, unless it comes after an at sign or the
mark is a second tilde. -/
structure Exhausts (layout : TermLayout) (tag : List Char) : Prop where
  /-- Nothing at the start is left. -/
  start : layout.sign = false →
    ∀ c ∈ tag.head?, isBlank c = false ∧ c ≠ '@' ∧ (c = '~' → layout.negated = true)
  /-- Nothing at the end is left. -/
  stop : ∀ c ∈ tag.getLast?, isBlank c = false

/-- Nothing is left if there is no tag. -/
theorem exhausts_nil (layout : TermLayout) : layout.Exhausts [] := ⟨fun _ => nofun, nofun⟩

/-- Nothing is left in a tag that is allowed. -/
theorem exhausts_of_plain (layout : TermLayout) (h : ∀ c ∈ tag, isForeignToTags c = false) :
    layout.Exhausts tag where
  start := by
    intro _ c hc
    obtain ⟨hblank, hat, htilde, -⟩ :=
      isForeignToTags_eq_false_iff.1 (h c (List.mem_of_mem_head? hc))
    exact ⟨hblank, hat, fun heq => absurd heq htilde⟩
  stop := fun c hc => (isForeignToTags_eq_false_iff.1 (h c (List.mem_of_mem_getLast? hc))).1

/-- The tag with its at sign has no blanks at its ends. -/
theorem Exhausts.bare_signed (h : layout.Exhausts tag) : Bare (layout.signed tag) := by
  unfold signed
  cases hsign : layout.sign with
  | false => exact ⟨fun c hc => (h.start hsign c hc).1, h.stop⟩
  | true => exact .cons rfl h.stop

end TermLayout

/-! ## Marks -/

/-- Takes a tilde and the blanks after it from the start of a text, and tells
whether there was one. -/
def takeTilde : List Char → Bool × List Char
  | '~' :: rest => (true, trimStart rest)
  | rest => (false, rest)

/-- Takes an at sign from the start of a text. -/
def takeSign : List Char → List Char
  | '@' :: rest => rest
  | rest => rest

/-- The verdict on a term, by what stands where its tag must be. -/
def TagTerm.judge (expression : String) (negated : Bool) (tag : List Char) :
    Except TagFilterError TagTerm :=
  if tag.isEmpty then .error (.emptyTerm expression)
  else if tag.any isForeignToTags then .error (.invalidTag expression (.ofList tag))
  else .ok ⟨.ofList tag, negated⟩

/-- A term is read by taking the marks from its text and judging what is left. -/
theorem TagTerm.parse_eq (expression : String) (text : List Char) :
    TagTerm.parse expression text =
      judge expression (takeTilde (trim text)).1 (takeSign (takeTilde (trim text)).2) := rfl

namespace TermLayout

variable {layout : TermLayout} {tag : List Char}

/-- Without a tilde, the text of the term is its tag with the at sign. -/
theorem trim_around (h : layout.Exhausts tag) (hpositive : layout.negated = false) :
    trim (layout.around tag) = layout.signed tag := by
  unfold around
  rw [hpositive, if_neg Bool.false_ne_true, List.nil_append,
    h.bare_signed.trim_between layout.blanks_before layout.blanks_after]

/-- The tilde is taken with the blanks after it. -/
theorem takeTilde_trim_around (h : layout.Exhausts tag) :
    takeTilde (trim (layout.around tag)) = (layout.negated, layout.signed tag) := by
  cases hnegated : layout.negated with
  | true =>
    have htrim : trim ('~' :: (layout.gap ++ layout.signed tag)) =
        '~' :: trimEnd (layout.gap ++ layout.signed tag) := trim_cons rfl _
    have hgap := h.bare_signed.trim_between layout.blanks_gap Blanks.nil
    rw [List.append_nil] at hgap
    rw [around, hnegated, if_pos rfl, List.cons_append,
      trim_append_append layout.blanks_before layout.blanks_after, htrim]
    show (true, trimStart (trimEnd _)) = _
    rw [trimStart_trimEnd, hgap]
  | false =>
    rw [trim_around h hnegated]
    -- What starts with a tilde would have been negated.
    unfold takeTilde
    split
    · next rest htilde =>
      unfold signed at htilde
      cases hsign : layout.sign with
      | true => simp [hsign] at htilde
      | false =>
        simp only [hsign, Bool.false_eq_true, if_false, List.nil_append] at htilde
        have hstart := (h.start hsign '~' (by rw [htilde]; rfl)).2.2 rfl
        exact absurd (hnegated.symm.trans hstart) Bool.false_ne_true
    · rfl

/-- The at sign is taken. -/
theorem takeSign_signed (h : layout.Exhausts tag) : takeSign (layout.signed tag) = tag := by
  unfold signed
  cases hsign : layout.sign with
  | true => rfl
  | false =>
    show takeSign tag = tag
    unfold takeSign
    split
    · next rest => exact absurd rfl (h.start hsign '@' rfl).2.1
    · rfl

/-- What is read of a term depends on what stands in its layout. -/
theorem parse_around (h : layout.Exhausts tag) (expression : String) :
    TagTerm.parse expression (layout.around tag) = TagTerm.judge expression layout.negated tag := by
  rw [TagTerm.parse_eq, takeTilde_trim_around h, takeSign_signed h]

/-- What starts with a tilde has blanks after it, which can be taken with it. -/
theorem exists_tilde {core : List Char} (h : Bare core) :
    ∃ negated gap body, Blanks gap ∧ Bare body ∧ ('~' ∈ body.head? → negated = true) ∧
      (if negated then '~' :: gap else []) ++ body = core := by
  by_cases htilde : '~' ∈ core.head?
  · obtain ⟨rest, rfl⟩ := List.head?_eq_some_iff.1 htilde
    have hrest := takeWhile_append_trimStart rest
    refine ⟨true, rest.takeWhile isBlank, trimStart rest, blanks_takeWhile rest,
      ⟨head?_trimStart rest, ?_⟩, fun _ => rfl, congrArg (List.cons '~') hrest⟩
    intro c hc
    apply h.stop
    rw [← hrest, ← List.cons_append]
    exact List.mem_getLast?_append_of_mem_getLast? hc
  · exact ⟨false, [], core, Blanks.nil, h, fun hhead => absurd hhead htilde, rfl⟩

/-- What starts with an at sign has something after it. -/
theorem exists_sign (body : List Char) :
    ∃ sign tag, (sign = false → '@' ∉ tag.head?) ∧ (if sign then ['@'] else []) ++ tag = body := by
  by_cases hat : '@' ∈ body.head?
  · obtain ⟨rest, rfl⟩ := List.head?_eq_some_iff.1 hat
    exact ⟨true, rest, nofun, rfl⟩
  · exact ⟨false, body, fun _ => hat, rfl⟩

/-- Every text is a layout around something, and the layout can be one that takes
whatever can be part of it. -/
theorem exists_around (text : List Char) :
    ∃ (layout : TermLayout) (tag : List Char), layout.Exhausts tag ∧ layout.around tag = text := by
  obtain ⟨before, after, hbefore, hafter, htext⟩ := exists_trim_between text
  obtain ⟨negated, gap, body, hgap, hbody, htilde, hcore⟩ := exists_tilde (bare_trim text)
  obtain ⟨sign, tag, hsign, rfl⟩ := exists_sign body
  refine ⟨⟨before, negated, gap, sign, after, hbefore, hgap, hafter⟩, tag, ⟨?_, ?_⟩, ?_⟩
  · intro hunsigned c hc
    obtain rfl : sign = false := hunsigned
    refine ⟨hbody.start c hc, ?_, ?_⟩
    · rintro rfl
      exact hsign rfl hc
    · rintro rfl
      exact htilde hc
  · intro c hc
    exact hbody.stop c (List.mem_getLast?_append_of_mem_getLast? hc)
  · rw [← htext, ← hcore]
    rfl

end TermLayout

/-! ## Terms -/

/-- A term as written: a layout around a tag that is allowed. -/
structure WrittenTerm extends TermLayout where
  /-- The tag. -/
  tag : List Char
  /-- There is a tag. -/
  tag_ne_nil : tag ≠ []
  /-- It has no blank and no character that has a meaning in filters. -/
  tag_plain : ∀ c ∈ tag, isForeignToTags c = false

/-- The text that is written for the term. -/
def WrittenTerm.text (written : WrittenTerm) : List Char := written.around written.tag

/-- The term that is meant. -/
def WrittenTerm.term (written : WrittenTerm) : TagTerm := ⟨.ofList written.tag, written.negated⟩

/-- What is wrong with the text of a term, in the expression that it is part of: there is nothing
but marks, or what is left of the text by its marks has a character that tags do not have. -/
inductive TermFault (expression : String) : List Char → TagFilterError → Prop
  | empty (layout : TermLayout) : TermFault expression (layout.around []) (.emptyTerm expression)
  | invalid (layout : TermLayout) {tag : List Char} {c : Char} :
      layout.Exhausts tag → c ∈ tag → isForeignToTags c = true →
      TermFault expression (layout.around tag) (.invalidTag expression (.ofList tag))

namespace TagTerm

variable {expression : String} {text : List Char}

/-- A tag that is allowed makes a term. -/
theorem judge_ok_iff {negated : Bool} {tag : List Char} {term : TagTerm} :
    judge expression negated tag = .ok term ↔
      tag ≠ [] ∧ (∀ c ∈ tag, isForeignToTags c = false) ∧ ⟨.ofList tag, negated⟩ = term := by
  unfold judge
  split
  · next hempty => simp [List.isEmpty_iff.1 hempty]
  · next hempty =>
    have hne : tag ≠ [] := fun hnil => hempty (List.isEmpty_iff.2 hnil)
    split
    · next hany =>
      obtain ⟨c, hc, hforeign⟩ := List.any_eq_true.1 hany
      exact ⟨nofun, fun hok => absurd hforeign (by simp [hok.2.1 c hc])⟩
    · next hany =>
      have hplain : ∀ c ∈ tag, isForeignToTags c = false := by simpa using hany
      exact ⟨fun hok => ⟨hne, hplain, Except.ok.inj hok⟩, fun hok => congrArg Except.ok hok.2.2⟩

/-- No tag, and a tag that is not allowed, are errors. -/
theorem judge_error_iff {negated : Bool} {tag : List Char} {error : TagFilterError} :
    judge expression negated tag = .error error ↔
      (tag = [] ∧ .emptyTerm expression = error) ∨
      ((∃ c ∈ tag, isForeignToTags c = true) ∧ .invalidTag expression (.ofList tag) = error) := by
  unfold judge
  split
  · next hempty => simp [List.isEmpty_iff.1 hempty]
  · next hempty =>
    have hne : tag ≠ [] := fun hnil => hempty (List.isEmpty_iff.2 hnil)
    rw [or_iff_right fun hboth => hne hboth.1, ← List.any_eq_true]
    split
    · next hany => exact ⟨fun herror => ⟨hany, Except.error.inj herror⟩,
        fun herror => congrArg Except.error herror.2⟩
    · next hany => exact ⟨nofun, fun herror => absurd herror.1 hany⟩

/-- Exactly the texts that are written for terms are read, as the terms that are meant. -/
theorem parse_ok_iff {term : TagTerm} :
    TagTerm.parse expression text = .ok term ↔
      ∃ written : WrittenTerm, written.text = text ∧ written.term = term := by
  constructor
  · intro hparse
    obtain ⟨layout, tag, hexhausts, rfl⟩ := TermLayout.exists_around text
    rw [TermLayout.parse_around hexhausts, judge_ok_iff] at hparse
    obtain ⟨hne, hplain, hterm⟩ := hparse
    exact ⟨⟨layout, tag, hne, hplain⟩, rfl, hterm⟩
  · rintro ⟨written, rfl, rfl⟩
    have hexhausts := written.exhausts_of_plain written.tag_plain
    rw [WrittenTerm.text, TermLayout.parse_around hexhausts, judge_ok_iff]
    exact ⟨written.tag_ne_nil, written.tag_plain, rfl⟩

/-- The error of a text is what is wrong with it. -/
theorem parse_error_iff {error : TagFilterError} :
    TagTerm.parse expression text = .error error ↔ TermFault expression text error := by
  constructor
  · intro hparse
    obtain ⟨layout, tag, hexhausts, rfl⟩ := TermLayout.exists_around text
    rw [TermLayout.parse_around hexhausts, judge_error_iff] at hparse
    rcases hparse with ⟨rfl, rfl⟩ | ⟨⟨c, hc, hforeign⟩, rfl⟩
    · exact .empty layout
    · exact .invalid layout hexhausts hc hforeign
  · intro hfault
    cases hfault with
    | empty layout =>
      rw [TermLayout.parse_around layout.exhausts_nil, judge_error_iff]; exact .inl ⟨rfl, rfl⟩
    | invalid layout hexhausts hc hforeign =>
      rw [TermLayout.parse_around hexhausts, judge_error_iff]
      exact .inr ⟨⟨_, hc, hforeign⟩, rfl⟩

end TagTerm

end Rehearsal
