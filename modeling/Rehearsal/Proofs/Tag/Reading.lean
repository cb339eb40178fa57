import Rehearsal.Proofs.Tag.Grammar
import Rehearsal.Proofs.Tag.Separators
import Rehearsal.Proofs.Tag.Set

/-!
# Reading tag filters

Reading an expression succeeds exactly for what the grammar writes, and gives the
conjunction of disjunctions that is meant. Blanks around the expression belong to its outer
terms, where they do not matter.
-/

namespace Rehearsal

/-! ## Written filters -/

/-- A group as written: terms, with commas between them. -/
structure WrittenGroup where
  /-- The terms. -/
  terms : List WrittenTerm
  /-- There is a term. -/
  ne_nil : terms ≠ []

/-- The text that is written for the group. -/
def WrittenGroup.text (written : WrittenGroup) : List Char :=
  [','].intercalate (written.terms.map WrittenTerm.text)

/-- The group that is meant. -/
def WrittenGroup.group (written : WrittenGroup) : List TagTerm := written.terms.map WrittenTerm.term

/-- A filter as written: groups, with doubled ampersands between them. -/
structure WrittenFilter where
  /-- The groups. -/
  groups : List WrittenGroup
  /-- There is a group. -/
  ne_nil : groups ≠ []

/-- The text that is written for the filter. -/
def WrittenFilter.text (written : WrittenFilter) : List Char :=
  ['&', '&'].intercalate (written.groups.map WrittenGroup.text)

/-- The groups that are meant. -/
def WrittenFilter.meant (written : WrittenFilter) : List (List TagTerm) :=
  written.groups.map WrittenGroup.group

/-- A term has no character in it that stands for something else in filters. -/
theorem WrittenTerm.not_mem_text (written : WrittenTerm) {c : Char}
    (hforeign : isForeignToTags c = true) (hblank : isBlank c = false) (htilde : c ≠ '~')
    (hat : c ≠ '@') : c ∉ written.text := by
  have hbefore := written.blanks_before.not_mem hblank
  have hgap := written.blanks_gap.not_mem hblank
  have hafter := written.blanks_after.not_mem hblank
  have htag : c ∉ written.tag := by
    intro hmem
    rw [written.tag_plain c hmem] at hforeign
    exact Bool.noConfusion hforeign
  unfold text TermLayout.around TermLayout.signed
  split <;> split <;> simp [*]

/-- A group has no ampersand in it. -/
theorem WrittenGroup.not_mem_text (written : WrittenGroup) : '&' ∉ written.text := by
  intro hmem
  rcases mem_of_mem_intercalate hmem with hcomma | ⟨part, hpart, hand⟩
  · exact absurd hcomma (by decide)
  · obtain ⟨term, -, rfl⟩ := List.mem_map.1 hpart
    exact term.not_mem_text rfl rfl (by decide) (by decide) hand

/-! ## Tags of terms -/

/-- Sets keep a tag without blanks and its at sign. -/
theorem normalTag_eq (tag : String) : normalTag tag = .ofList (takeSign (trim tag.toList)) := by
  unfold normalTag
  split
  · next rest hsign => rw [hsign, takeSign]
  · next hplain => rw [takeSign.eq_2 _ hplain]

/-- Sets keep a tag the same with and without blanks around it. -/
theorem normalTag_trimmed (tag : String) : normalTag (trimmed tag) = normalTag tag := by
  rw [normalTag_eq, normalTag_eq, trimmed, String.toList_ofList, trim_trim]

/-- Sets keep the tag of a term from the text of the term, if that is not negated. -/
theorem TermLayout.normalTag_around {layout : TermLayout} {tag : List Char}
    (h : layout.Exhausts tag) (hpositive : layout.negated = false) :
    normalTag (.ofList (layout.around tag)) = .ofList tag := by
  rw [normalTag_eq, String.toList_ofList, trim_around h hpositive, takeSign_signed h]

/-- The layout of nothing but the tag. -/
def TermLayout.plain : TermLayout := ⟨[], false, [], false, [], .nil, .nil, .nil⟩

/-- Sets keep the tag of a term as it is. -/
theorem WrittenTerm.normalTag_tag (written : WrittenTerm) :
    normalTag written.term.tag = written.term.tag := by
  have hexhausts := TermLayout.plain.exhausts_of_plain written.tag_plain
  have hnormal := TermLayout.normalTag_around hexhausts rfl
  have haround : TermLayout.plain.around written.tag = written.tag := List.append_nil written.tag
  rwa [haround] at hnormal

/-- A term holds if the set has its tag and it is not negated, or the other way round. -/
theorem WrittenTerm.holds_iff (written : WrittenTerm) (tags : TagSet) :
    written.term.holds tags = true ↔
      (written.term.tag ∈ tags.toList ↔ written.term.negated = false) := by
  rw [TagTerm.holds, TagSet.contains, written.normalTag_tag]
  cases written.term.negated <;> simp

/-! ## Reading groups -/

/-- Blanks around a term do not matter. -/
theorem TagTerm.parse_trim (expression : String) (text : List Char) :
    TagTerm.parse expression (trim text) = TagTerm.parse expression text := by
  rw [TagTerm.parse_eq, TagTerm.parse_eq, trim_trim]

namespace TagFilter

/-- Reads one group of the filter `expression`. -/
def readGroup (expression : String) (text : List Char) : Except TagFilterError (List TagTerm) :=
  (splitAtComma text).mapM (TagTerm.parse expression)

/-- Reads the groups of the filter `expression`. -/
def readGroups (expression : String) (text : List Char) :
    Except TagFilterError (List (List TagTerm)) :=
  (splitAtAnd text).mapM (readGroup expression)

variable {expression : String} {text : List Char}

/-- Exactly the texts that are written for groups are read, as the groups that are meant. -/
theorem readGroup_ok_iff {group : List TagTerm} :
    readGroup expression text = .ok group ↔
      ∃ written : WrittenGroup, written.text = text ∧ written.group = group := by
  have hcomma : ∀ term : WrittenTerm, ∀ c ∈ term.text, c ∉ [','] := by
    rintro term c hc hmem
    obtain rfl := List.mem_singleton.1 hmem
    exact term.not_mem_text rfl rfl (by decide) (by decide) hc
  rw [readGroup, splitAtComma_cuts.mapM_ok_iff (fun _ _ => TagTerm.parse_ok_iff) hcomma]
  exact ⟨fun ⟨terms, hne, hgroup⟩ => ⟨⟨terms, hne⟩, hgroup⟩,
    fun ⟨⟨terms, hne⟩, hgroup⟩ => ⟨terms, hne, hgroup⟩⟩

/-- Exactly the texts that are written for filters are read, as the groups that are meant. -/
theorem readGroups_ok_iff {groups : List (List TagTerm)} :
    readGroups expression text = .ok groups ↔
      ∃ written : WrittenFilter, written.text = text ∧ written.meant = groups := by
  have hand : ∀ group : WrittenGroup, ∀ c ∈ group.text, c ∉ ['&', '&'] := by
    intro group c hc hmem
    obtain rfl : c = '&' := by simpa using hmem
    exact group.not_mem_text hc
  rw [readGroups, splitAtAnd_cuts.mapM_ok_iff (fun _ _ => readGroup_ok_iff) hand]
  exact ⟨fun ⟨groups, hne, hmeant⟩ => ⟨⟨groups, hne⟩, hmeant⟩,
    fun ⟨⟨groups, hne⟩, hmeant⟩ => ⟨groups, hne, hmeant⟩⟩

/-- The error is that of the leftmost bad term. -/
theorem readGroups_error_iff {error : TagFilterError} :
    readGroups expression text = .error error ↔
      ∃ before bad after, termTexts text = before ++ bad :: after ∧
        (∀ term ∈ before, ∃ written : WrittenTerm, written.text = term) ∧
        TermFault expression bad error := by
  have hterms : (termTexts text).mapM (TagTerm.parse expression) =
      (readGroups expression text).map List.flatten := by
    rw [← flatMap_splitAtComma, mapM_flatMap]
    rfl
  have hread : readGroups expression text = .error error ↔
      (termTexts text).mapM (TagTerm.parse expression) = .error error := by
    rw [hterms]
    cases readGroups expression text <;> simp [Except.map]
  have hgood : ∀ term, (∃ value, TagTerm.parse expression term = .ok value) ↔
      ∃ written : WrittenTerm, written.text = term := by
    intro term
    simp only [TagTerm.parse_ok_iff]
    exact ⟨fun ⟨_, written, hwritten, _⟩ => ⟨written, hwritten⟩,
      fun ⟨written, hwritten⟩ => ⟨_, written, hwritten, rfl⟩⟩
  simp only [hread, mapM_error_iff, hgood, TagTerm.parse_error_iff]

/-- Blanks around a group do not matter. -/
theorem readGroup_trim (expression : String) (text : List Char) :
    readGroup expression (trim text) = readGroup expression text :=
  splitAtComma_cuts.mapM_trim (List.forall_mem_singleton.2 rfl) (TagTerm.parse_trim expression) text

/-- Blanks around a filter do not matter. -/
theorem readGroups_trim (expression : String) (text : List Char) :
    readGroups expression (trim text) = readGroups expression text := by
  have hand : ∀ c ∈ ['&', '&'], isBlank c = false :=
    List.forall_mem_cons.2 ⟨rfl, List.forall_mem_singleton.2 rfl⟩
  exact splitAtAnd_cuts.mapM_trim hand (readGroup_trim expression) text

/-! ## Reading filters -/

/-- An expression is read without the blanks around it. -/
theorem parse_eq (expression : String) :
    parse expression =
      if (trim expression.toList).isEmpty then .error .blank
      else (readGroups (trimmed expression) (trim expression.toList)).map
        (TagFilter.mk (trimmed expression)) := rfl

/-- So blanks around it do not matter. -/
theorem parse_trimmed (expression : String) : parse (trimmed expression) = parse expression := by
  rw [parse_eq, parse_eq, trimmed, trimmed, String.toList_ofList, trim_trim]

/-- A filter is read if its groups are. -/
theorem parse_ok_iff {filter : TagFilter} :
    parse expression = .ok filter ↔
      filter.source = trimmed expression ∧
      ∃ written : WrittenFilter, written.text = trim expression.toList ∧
        written.meant = filter.groups := by
  have hgroups : readGroups (trimmed expression) (trim expression.toList) = .ok filter.groups ↔ _ :=
    readGroups_ok_iff
  rw [← hgroups, parse_eq]
  split
  · next hempty =>
    have hnone : readGroups (trimmed expression) [] = .error (.emptyTerm (trimmed expression)) :=
      rfl
    rw [List.isEmpty_iff.1 hempty, hnone]
    exact ⟨nofun, fun h => nomatch h.2⟩
  · cases readGroups (trimmed expression) (trim expression.toList) with
    | error error => exact ⟨nofun, fun h => nomatch h.2⟩
    | ok groups =>
      constructor
      · intro hfilter
        obtain rfl : ⟨trimmed expression, groups⟩ = filter := Except.ok.inj hfilter
        exact ⟨rfl, rfl⟩
      · rintro ⟨hsource, hgroups⟩
        obtain rfl : groups = filter.groups := Except.ok.inj hgroups
        rw [← hsource]
        rfl

/-- The error of a filter is that it is blank, or that of the leftmost bad term. -/
theorem parse_error_iff {error : TagFilterError} :
    parse expression = .error error ↔
      (Blanks expression.toList ∧ error = .blank) ∨
      (¬Blanks expression.toList ∧ ∃ before bad after,
        termTexts (trim expression.toList) = before ++ bad :: after ∧
        (∀ term ∈ before, ∃ written : WrittenTerm, written.text = term) ∧
        TermFault (trimmed expression) bad error) := by
  rw [← readGroups_error_iff, ← trim_eq_nil_iff, ← List.isEmpty_iff, parse_eq]
  split
  · next hempty => simp [hempty, eq_comm]
  · next hempty => cases readGroups (trimmed expression) (trim expression.toList) <;>
      simp [hempty, Except.map]

/-- The terms of a filter that has been read are as sets keep them, so it is met if each group has a
term whose tag is there, or is not there and negated. -/
theorem accepts_meant_iff {filter : TagFilter} {written : WrittenFilter}
    (h : written.meant = filter.groups) (tags : TagSet) :
    filter.accepts tags = true ↔
      ∀ group ∈ filter.groups, ∃ term ∈ group, (term.tag ∈ tags.toList ↔ term.negated = false) := by
  have hholds : ∀ group ∈ filter.groups, ∀ term ∈ group,
      (term.holds tags = true ↔ (term.tag ∈ tags.toList ↔ term.negated = false)) := by
    intro group hgroup term hterm
    rw [← h] at hgroup
    obtain ⟨group, -, rfl⟩ := List.mem_map.1 hgroup
    obtain ⟨term, -, rfl⟩ := List.mem_map.1 hterm
    exact term.holds_iff tags
  simp only [accepts, List.all_eq_true, List.any_eq_true]
  exact forall₂_congr fun group hgroup => exists_congr fun term =>
    and_congr_right (hholds group hgroup term)

/-- Of an expression that is nothing but a tag, sets keep the tag that it asks for. -/
theorem normalTag_eq_of_meant {written : WrittenFilter}
    (htext : written.text = trim expression.toList) {tag : String}
    (hmeant : written.meant = [[⟨tag, false⟩]]) : normalTag expression = tag := by
  obtain ⟨group, hgroups, hgroup⟩ := List.map_eq_singleton_iff.1 hmeant
  obtain ⟨term, hterms, hterm⟩ := List.map_eq_singleton_iff.1 hgroup
  have hwhole : term.text = trim expression.toList := by
    rw [← htext, WrittenFilter.text, hgroups, List.map_singleton, List.intercalate_singleton,
      WrittenGroup.text, hterms, List.map_singleton, List.intercalate_singleton]
  have hpositive : term.negated = false := congrArg TagTerm.negated hterm
  have hnormal := TermLayout.normalTag_around (term.exhausts_of_plain term.tag_plain) hpositive
  calc normalTag expression
      = normalTag (.ofList term.text) := by rw [← normalTag_trimmed, trimmed, hwhole]
    _ = term.term.tag := hnormal
    _ = tag := congrArg TagTerm.tag hterm

/-- Reading an expression follows the grammar. It succeeds exactly if the expression, without the
blanks around it, is written as a filter, and gives the groups that are meant. Otherwise the
expression is blank, or the error is that of its leftmost bad term, with the expression without the
blanks around it. What is read is met by the set of some tags exactly if each group has a term whose
tag is in the set and which is not negated, or the other way round; it is read again from its
source; and if it is nothing but a tag, the set of the expression meets it. However the terms, the
groups and the blanks are written, the groups that are meant are read. -/
theorem parse_follows_grammar (expression : String) :
    (∀ filter, parse expression = .ok filter ↔
      filter.source = trimmed expression ∧
      ∃ written : WrittenFilter, written.text = trim expression.toList ∧
        written.meant = filter.groups) ∧
    (∀ error, parse expression = .error error ↔
      (Blanks expression.toList ∧ error = .blank) ∨
      (¬Blanks expression.toList ∧ ∃ before bad after,
        termTexts (trim expression.toList) = before ++ bad :: after ∧
        (∀ term ∈ before, ∃ written : WrittenTerm, written.text = term) ∧
        TermFault (trimmed expression) bad error)) ∧
    (∀ filter, parse expression = .ok filter →
      (∀ tags, filter.accepts (.ofList tags) = true ↔ ∀ group ∈ filter.groups, ∃ term ∈ group,
        (term.tag ∈ (TagSet.ofList tags).toList ↔ term.negated = false)) ∧
      parse filter.source = .ok filter ∧
      ∀ tag, filter.groups = [[⟨tag, false⟩]] → filter.accepts (.ofList [expression]) = true) ∧
    ∀ written : WrittenFilter, written.text = expression.toList →
      parse expression = .ok ⟨trimmed expression, written.meant⟩ := by
  refine ⟨fun _ => parse_ok_iff, fun _ => parse_error_iff, fun filter hparse => ?_,
    fun written hwritten => ?_⟩
  · obtain ⟨hsource, written, htext, hmeant⟩ := parse_ok_iff.1 hparse
    refine ⟨fun tags => accepts_meant_iff hmeant _, ?_, fun tag htag => ?_⟩
    · rw [hsource, parse_trimmed, hparse]
    · rw [accepts_meant_iff hmeant, htag]
      simp [normalTag_eq_of_meant htext (hmeant.trans htag)]
  · have hgroups : readGroups (trimmed expression) expression.toList = .ok written.meant :=
      readGroups_ok_iff.2 ⟨written, hwritten, rfl⟩
    rw [← readGroups_trim] at hgroups
    exact parse_ok_iff.2 ⟨rfl, readGroups_ok_iff.1 hgroups⟩

/-- Blanks may stand after the tilde, and the at sign after them. -/
example : parse " ~ @slow , fast&&wip " =
    .ok ⟨"~ @slow , fast&&wip", [[⟨"slow", true⟩, ⟨"fast", false⟩], [⟨"wip", false⟩]]⟩ := by rfl

/-- Of three ampersands the first two separate. -/
example : parse "slow&&&fast" = .error (.invalidTag "slow&&&fast" "&fast") := by rfl

end TagFilter

end Rehearsal
