import Rehearsal.Proofs.Except
import Rehearsal.Proofs.Unicode.Trim
import Rehearsal.Tag.Filter

/-!
# Separators

Cutting a text at a separator and joining the parts with it undo each other, as long as the parts
have nothing of the separator. So reading a text part by part succeeds exactly for the texts that
are joined of readable ones, and the first part that cannot be read decides the error.
-/

namespace Rehearsal

variable {α β γ ε : Type}

/-! ## Reading one after the other -/

/-- What is read the same way as some items were written is some items. -/
theorem exists_items {write : γ → α} {meaning : γ → β} {parts : List α} {values : List β}
    (h : List.Forall₂ (fun part value => ∃ item, write item = part ∧ meaning item = value)
      parts values) :
    ∃ items : List γ, items.map write = parts ∧ items.map meaning = values := by
  induction h with
  | nil => exact ⟨[], rfl, rfl⟩
  | cons hpart _ ih =>
    obtain ⟨item, rfl, rfl⟩ := hpart
    obtain ⟨items, rfl, rfl⟩ := ih
    exact ⟨item :: items, rfl, rfl⟩

/-! ## Cutting -/

/-- What is joined has what its parts and the separator have. -/
theorem mem_of_mem_intercalate {separator : List α} {parts : List (List α)} {c : α}
    (h : c ∈ separator.intercalate parts) : c ∈ separator ∨ ∃ part ∈ parts, c ∈ part := by
  induction parts with
  | nil =>
    rw [List.intercalate_nil] at h
    exact absurd h List.not_mem_nil
  | cons part parts ih =>
    cases parts with
    | nil =>
      rw [List.intercalate_singleton] at h
      exact .inr ⟨part, List.mem_cons_self, h⟩
    | cons next parts =>
      rw [List.intercalate_cons_cons, List.mem_append, List.mem_append] at h
      rcases h with (hpart | hseparator) | hrest
      · exact .inr ⟨part, List.mem_cons_self, hpart⟩
      · exact .inl hseparator
      · exact (ih hrest).imp_right fun ⟨part, hmem, hc⟩ => ⟨part, List.mem_cons_of_mem _ hmem, hc⟩

/-- Cutting texts wherever a separator comes up, looked for from the start. -/
structure Cuts (cut : List Char → List (List Char)) (separator : List Char) : Prop where
  /-- The separator is some text. -/
  separator_ne_nil : separator ≠ []
  /-- The empty text is one part. -/
  nil : cut [] = [[]]
  /-- A part ends where the separator is found. -/
  found : ∀ rest, cut (separator ++ rest) = [] :: cut rest
  /-- A character that no separator starts with belongs to a part. -/
  other : ∀ c rest, ¬separator <+: c :: rest → cut (c :: rest) = consFirst c (cut rest)

/-- Texts are cut at commas. -/
theorem splitAtComma_cuts : Cuts splitAtComma [','] where
  separator_ne_nil := nofun
  nil := rfl
  found := fun _ => rfl
  other := by
    intro c rest hother
    rw [splitAtComma.eq_def]
    split
    · next heq => exact absurd heq nofun
    · next heq =>
      obtain ⟨rfl, rfl⟩ := List.cons.inj heq
      exact absurd (List.prefix_append [','] rest) hother
    · next heq =>
      obtain ⟨rfl, rfl⟩ := List.cons.inj heq
      rfl

/-- Texts are cut at doubled ampersands. -/
theorem splitAtAnd_cuts : Cuts splitAtAnd ['&', '&'] where
  separator_ne_nil := nofun
  nil := rfl
  found := fun _ => rfl
  other := by
    intro c rest hother
    rw [splitAtAnd.eq_def]
    split
    · next heq => exact absurd heq nofun
    · next heq =>
      rw [heq] at hother
      exact absurd (List.prefix_append ['&', '&'] _) hother
    · next heq =>
      obtain ⟨rfl, rfl⟩ := List.cons.inj heq
      rfl

namespace Cuts

variable {cut : List Char → List (List Char)} {separator : List Char}

/-- Texts are followed from separator to separator. -/
theorem induction (h : Cuts cut separator) {motive : List Char → Prop} (nil : motive [])
    (found : ∀ rest, motive rest → motive (separator ++ rest))
    (other : ∀ c rest, ¬separator <+: c :: rest → motive rest → motive (c :: rest))
    (text : List Char) :
    motive text := by
  induction hlength : text.length using Nat.strongRecOn generalizing text with
  | _ n ih =>
    by_cases hprefix : separator <+: text
    · obtain ⟨rest, rfl⟩ := hprefix
      have hpos : 0 < separator.length := List.length_pos_of_ne_nil h.separator_ne_nil
      have hshorter : rest.length < n := by
        rw [List.length_append] at hlength
        omega
      exact found rest (ih rest.length hshorter rest rfl)
    · cases text with
      | nil => exact nil
      | cons c rest =>
        have hshorter : rest.length < n := by
          rw [List.length_cons] at hlength
          omega
        exact other c rest hprefix (ih rest.length hshorter rest rfl)

/-- There is a first part. -/
theorem exists_cons (h : Cuts cut separator) (text : List Char) :
    ∃ part parts, cut text = part :: parts := by
  induction text using h.induction with
  | nil => exact ⟨_, _, h.nil⟩
  | found rest _ => exact ⟨_, _, h.found rest⟩
  | other c rest hother ih =>
    obtain ⟨part, parts, hcut⟩ := ih
    exact ⟨c :: part, parts, by rw [h.other c rest hother, hcut]; rfl⟩

/-- Joining the parts gives back the text. -/
theorem intercalate_cut (h : Cuts cut separator) (text : List Char) :
    separator.intercalate (cut text) = text := by
  induction text using h.induction with
  | nil => rw [h.nil, List.intercalate_singleton]
  | found rest ih =>
    obtain ⟨part, parts, hcut⟩ := h.exists_cons rest
    rw [hcut] at ih
    rw [h.found, hcut, List.intercalate_cons_cons, ih, List.nil_append]
  | other c rest hother ih =>
    obtain ⟨part, parts, hcut⟩ := h.exists_cons rest
    rw [hcut] at ih
    rw [h.other c rest hother, hcut, consFirst, ← ih]
    cases parts with
    | nil => rw [List.intercalate_singleton, List.intercalate_singleton]
    | cons next parts =>
      rw [List.intercalate_cons_cons, List.intercalate_cons_cons, List.cons_append,
        List.cons_append]

/-- No separator starts with what it does not have. -/
theorem not_prefix_cons (h : Cuts cut separator) {c : Char} (hc : c ∉ separator)
    (rest : List Char) :
    ¬separator <+: c :: rest := by
  intro hprefix
  obtain ⟨d, others, hseparator⟩ := List.exists_cons_of_ne_nil h.separator_ne_nil
  rw [hseparator, List.cons_prefix_cons] at hprefix
  rw [hseparator, ← hprefix.1] at hc
  exact hc List.mem_cons_self

/-- What has nothing of the separator goes into the first part if it comes first. -/
theorem cut_append (h : Cuts cut separator) {before : List Char}
    (hbefore : ∀ c ∈ before, c ∉ separator) {text part : List Char} {parts : List (List Char)}
    (hcut : cut text = part :: parts) :
    cut (before ++ text) = (before ++ part) :: parts := by
  induction before with
  | nil => exact hcut
  | cons c before ih =>
    obtain ⟨hc, hrest⟩ := List.forall_mem_cons.1 hbefore
    rw [List.cons_append, h.other c _ (h.not_prefix_cons hc _), ih hrest]
    rfl

/-- A text that has nothing of the separator is one part. -/
theorem cut_eq_singleton (h : Cuts cut separator) {text : List Char}
    (htext : ∀ c ∈ text, c ∉ separator) :
    cut text = [text] := by
  have hcut := h.cut_append htext h.nil
  rwa [List.append_nil] at hcut

/-- Parts that have nothing of the separator are found again in what is joined of them. -/
theorem cut_intercalate (h : Cuts cut separator) {parts : List (List Char)} (hne : parts ≠ [])
    (hparts : ∀ part ∈ parts, ∀ c ∈ part, c ∉ separator) :
    cut (separator.intercalate parts) = parts := by
  induction parts with
  | nil => exact absurd rfl hne
  | cons part parts ih =>
    obtain ⟨hpart, hrest⟩ := List.forall_mem_cons.1 hparts
    cases parts with
    | nil => rw [List.intercalate_singleton, h.cut_eq_singleton hpart]
    | cons next parts =>
      rw [List.intercalate_cons_cons, List.append_assoc, h.cut_append hpart (h.found _),
        List.append_nil, ih (List.cons_ne_nil _ _) hrest]

/-- What has nothing of the separator goes into the last part if it comes last. -/
theorem exists_cut_append (h : Cuts cut separator) {after : List Char}
    (hafter : ∀ c ∈ after, c ∉ separator) (text : List Char) :
    ∃ parts last, cut text = parts ++ [last] ∧ cut (text ++ after) = parts ++ [last ++ after] := by
  induction text using h.induction with
  | nil => exact ⟨[], [], h.nil, h.cut_eq_singleton hafter⟩
  | found rest ih =>
    obtain ⟨parts, last, hcut, hcut'⟩ := ih
    refine ⟨[] :: parts, last, ?_, ?_⟩
    · rw [h.found, hcut]
      rfl
    · rw [List.append_assoc, h.found, hcut']
      rfl
  | other c rest hother ih =>
    -- A separator that comes up in the longer text only would reach into what comes last.
    have hother' : ¬separator <+: c :: (rest ++ after) := by
      intro hprefix
      rcases List.prefix_or_prefix_of_prefix hprefix (List.prefix_append (c :: rest) after)
        with hwithin | hbeyond
      · exact hother hwithin
      · obtain ⟨others, rfl⟩ := hbeyond
        have hothers : others <+: after := by simpa using hprefix
        cases others with
        | nil => exact hother (by simp)
        | cons d others => exact hafter d (hothers.subset List.mem_cons_self) (by simp)
    obtain ⟨parts, last, hcut, hcut'⟩ := ih
    cases parts with
    | nil => exact ⟨[], c :: last, by rw [h.other c rest hother, hcut]; rfl,
        by rw [List.cons_append, h.other c _ hother', hcut']; rfl⟩
    | cons part parts =>
      exact ⟨(c :: part) :: parts, last, by rw [h.other c rest hother, hcut]; rfl,
        by rw [List.cons_append, h.other c _ hother', hcut']; rfl⟩

/-! ## Reading part by part -/

/-- If blanks around the parts do not matter, neither do blanks around the text. -/
theorem mapM_trim (h : Cuts cut separator) (hseparator : ∀ c ∈ separator, isBlank c = false)
    {read : List Char → Except ε β} (hread : ∀ part, read (trim part) = read part)
    (text : List Char) :
    (cut (trim text)).mapM read = (cut text).mapM read := by
  obtain ⟨before, after, hbefore, hafter, htext⟩ := exists_trim_between text
  have hfree : ∀ {blanks : List Char}, Blanks blanks → ∀ c ∈ blanks, c ∉ separator :=
    fun hblanks c hc hmem => hblanks.not_mem (hseparator c hmem) hc
  have hfirst : ∀ part, read (before ++ part) = read part := by
    intro part
    have htrim := trim_append_append hbefore Blanks.nil part
    rw [List.append_nil] at htrim
    rw [← hread, htrim, hread]
  have hlast : ∀ part, read (part ++ after) = read part := by
    intro part
    have htrim : trim (part ++ after) = trim part := trim_append_append Blanks.nil hafter part
    rw [← hread, htrim, hread]
  obtain ⟨parts, last, hcut, hcut'⟩ := h.exists_cut_append (hfree hafter) (before ++ trim text)
  obtain ⟨part, others, hone⟩ := h.exists_cons (trim text)
  calc (cut (trim text)).mapM read
      = ((before ++ part) :: others).mapM read := by
        rw [hone, List.mapM_cons, List.mapM_cons, hfirst]
    _ = (parts ++ [last]).mapM read := by rw [← hcut, h.cut_append (hfree hbefore) hone]
    _ = (parts ++ [last ++ after]).mapM read := by
      rw [List.mapM_append, List.mapM_append, List.mapM_cons, List.mapM_cons, hlast]
    _ = (cut text).mapM read := by rw [← hcut', htext]

/-- If the parts that can be read are those that are written in some way, so are the texts: as
such parts, joined. -/
theorem mapM_ok_iff (h : Cuts cut separator) {read : List Char → Except ε β}
    {write : γ → List Char} {meaning : γ → β}
    (hread : ∀ part value, read part = .ok value ↔ ∃ item, write item = part ∧ meaning item = value)
    (hwrite : ∀ item, ∀ c ∈ write item, c ∉ separator) {text : List Char} {values : List β} :
    (cut text).mapM read = .ok values ↔
      ∃ items ≠ [], separator.intercalate (items.map write) = text ∧
        items.map meaning = values := by
  rw [Rehearsal.mapM_ok_iff]
  constructor
  · intro hparts
    obtain ⟨items, hwritten, hvalues⟩ :=
      exists_items (hparts.imp fun part value => (hread part value).1)
    refine ⟨items, ?_, by rw [hwritten, h.intercalate_cut], hvalues⟩
    rintro rfl
    obtain ⟨part, parts, hcut⟩ := h.exists_cons text
    rw [hcut] at hwritten
    cases hwritten
  · rintro ⟨items, hne, rfl, rfl⟩
    have hfree : ∀ part ∈ items.map write, ∀ c ∈ part, c ∉ separator :=
      List.forall_mem_map.2 fun item _ => hwrite item
    rw [h.cut_intercalate (by simpa using hne) hfree, List.forall₂_map_left_iff,
      List.forall₂_map_right_iff, List.forall₂_same]
    exact fun item _ => (hread _ _).2 ⟨item, rfl, rfl⟩

end Cuts

/-! ## Both separators -/

/-- The texts of the terms of an expression, from left to right: what stands between commas and
doubled ampersands. -/
def termTexts : List Char → List (List Char)
  | [] => [[]]
  | ',' :: rest => [] :: termTexts rest
  | '&' :: '&' :: rest => [] :: termTexts rest
  | c :: rest => consFirst c (termTexts rest)

/-- A character goes into the first part of the first part. -/
theorem flatMap_consFirst {c : Char} (hc : c ≠ ',') {parts : List (List Char)} (hne : parts ≠ []) :
    (consFirst c parts).flatMap splitAtComma = consFirst c (parts.flatMap splitAtComma) := by
  obtain ⟨part, parts, rfl⟩ := List.exists_cons_of_ne_nil hne
  obtain ⟨first, others, hcut⟩ := splitAtComma_cuts.exists_cons part
  have hother : ¬[','] <+: c :: part := splitAtComma_cuts.not_prefix_cons (by simpa using hc) part
  rw [consFirst, List.flatMap_cons, List.flatMap_cons, splitAtComma_cuts.other c part hother, hcut]
  rfl

/-- Cutting at doubled ampersands and then at commas is cutting at both. -/
theorem flatMap_splitAtComma (text : List Char) :
    (splitAtAnd text).flatMap splitAtComma = termTexts text := by
  induction text using termTexts.induct with
  | case1 => rfl
  | case2 rest ih =>
    obtain ⟨part, parts, hcut⟩ := splitAtAnd_cuts.exists_cons rest
    have hfree : ∀ c ∈ [','], c ∉ ['&', '&'] := by simp
    have hcomma := splitAtAnd_cuts.cut_append hfree hcut
    rw [termTexts, ← ih, hcut]
    exact congrArg _ hcomma
  | case3 rest ih =>
    rw [termTexts, ← ih]
    rfl
  | case4 c rest hcomma hand ih =>
    have hother : ¬['&', '&'] <+: c :: rest := by
      rintro ⟨others, hothers⟩
      obtain ⟨rfl, rfl⟩ := List.cons.inj hothers
      exact hand _ rfl rfl
    obtain ⟨part, parts, hcut⟩ := splitAtAnd_cuts.exists_cons rest
    rw [splitAtAnd_cuts.other c rest hother, flatMap_consFirst hcomma (by simp [hcut]),
      ih, termTexts]
    · exact hcomma
    · exact hand

end Rehearsal
