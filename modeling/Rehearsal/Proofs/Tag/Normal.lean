import Mathlib.Data.Finset.Max
import Rehearsal.Proofs.Json.Telling
import Rehearsal.Proofs.Tag.Reading

/-!
# Tags that sets keep

Sets keep a tag without one at sign. What they keep has another one if the tag was given with
several, or a blank in front if there was one behind the sign; then the set does not know its own
tag, and the tag changes each time the set is handed over as a document. If no tag is given so, sets
know all their tags and are handed over unchanged.
-/

namespace Rehearsal

/-! ## One tag -/

/-- The given tag has, without blanks around it, no further at sign and no blank
behind a leading at sign. -/
def SingleSign (raw : String) : Prop :=
  ∀ c rest, trim raw.toList = '@' :: c :: rest → c ≠ '@' ∧ isBlank c = false

/-- Only a leading at sign is taken. -/
theorem takeSign_eq_self_iff {text : List Char} : takeSign text = text ↔ '@' ∉ text.head? := by
  unfold takeSign
  split
  · next rest => exact ⟨fun h => absurd h (List.cons_ne_self '@' rest).symm, fun h => absurd rfl h⟩
  · next hplain =>
    refine ⟨fun _ hmem => ?_, fun _ => rfl⟩
    obtain ⟨rest, rfl⟩ := List.head?_eq_some_iff.1 hmem
    exact hplain rest rfl

/-- What is left of a text is part of it. -/
theorem sublist_takeSign_trim (text : List Char) : (takeSign (trim text)).Sublist (trim text) ∧
    (trim text).Sublist text := by
  constructor
  · unfold takeSign
    split
    · next rest hsign =>
      rw [hsign]
      exact List.sublist_cons_self '@' rest
    · exact .refl _
  · obtain ⟨before, after, -, -, htext⟩ := exists_trim_between text
    have hsublist : (trim text).Sublist (before ++ trim text ++ after) :=
      (List.sublist_append_right _ _).trans (List.sublist_append_left _ _)
    rwa [htext] at hsublist

/-- A tag is no longer in the form that sets keep. -/
theorem sublist_normalTag (tag : String) : (normalTag tag).toList.Sublist tag.toList := by
  obtain ⟨hsign, htrim⟩ := sublist_takeSign_trim tag.toList
  rw [normalTag_eq, String.toList_ofList]
  exact hsign.trans htrim

/-- A tag that sets keep otherwise than it is given gets shorter. -/
theorem length_normalTag_lt {tag : String} (h : normalTag tag ≠ tag) :
    (normalTag tag).toList.length < tag.toList.length := by
  have hsublist := sublist_normalTag tag
  refine lt_of_le_of_ne hsublist.length_le fun hlength => h ?_
  exact String.toList_inj.1 (hsublist.eq_of_length hlength)

/-- Sets keep a tag as it is exactly if it has no blanks at its ends and no leading at sign. -/
theorem normalTag_eq_self_iff {tag : String} :
    normalTag tag = tag ↔ Bare tag.toList ∧ '@' ∉ tag.toList.head? := by
  rw [← String.toList_inj, normalTag_eq, String.toList_ofList]
  constructor
  · intro h
    -- Neither trimming nor taking the sign can have made the tag shorter.
    obtain ⟨hsign, htrim⟩ := sublist_takeSign_trim tag.toList
    have hlength : (trim tag.toList).length = tag.toList.length := by
      have := hsign.length_le
      rw [h] at this
      exact le_antisymm htrim.length_le this
    have htrimmed : trim tag.toList = tag.toList := htrim.eq_of_length hlength
    refine ⟨htrimmed ▸ bare_trim tag.toList, takeSign_eq_self_iff.1 ?_⟩
    rwa [htrimmed] at h
  · rintro ⟨hbare, hsign⟩
    rw [hbare.trim_eq, takeSign_eq_self_iff.2 hsign]

/-- A tag that is kept stays as it is exactly if it was given with a single sign at most. -/
theorem normalTag_normalTag_iff {raw : String} :
    normalTag (normalTag raw) = normalTag raw ↔ SingleSign raw := by
  rw [normalTag_eq_self_iff, normalTag_eq raw, String.toList_ofList]
  have hcore := bare_trim raw.toList
  unfold SingleSign
  generalize trim raw.toList = core at hcore
  by_cases hsign : '@' ∈ core.head?
  · obtain ⟨rest, rfl⟩ := List.head?_eq_some_iff.1 hsign
    rw [takeSign]
    constructor
    · rintro ⟨hbare, hnext⟩ c tail htail
      obtain rfl := (List.cons.inj htail).2
      exact ⟨fun hc => hnext (by rw [hc]; rfl), hbare.start c rfl⟩
    · intro h
      refine ⟨⟨fun c hc => ?_, fun c hc => ?_⟩, fun hnext => ?_⟩
      · obtain ⟨tail, rfl⟩ := List.head?_eq_some_iff.1 hc
        exact (h c tail rfl).2
      · exact hcore.stop c (List.mem_getLast?_cons hc)
      · obtain ⟨tail, rfl⟩ := List.head?_eq_some_iff.1 hnext
        exact (h '@' tail rfl).1 rfl
  · rw [takeSign_eq_self_iff.2 hsign]
    exact ⟨fun _ c rest hcons => absurd (by rw [hcons]; rfl) hsign, fun _ => ⟨hcore, hsign⟩⟩

namespace TagSet

/-! ## Sets -/

/-- The set that comes out of the given tags, by any of the ways in which sets are made. -/
inductive Built : List String → TagSet → Prop
  | empty : Built [] .empty
  | insert {given : List String} {s : TagSet} (raw : String) :
      Built given s → Built (raw :: given) (s.insert raw)
  | ofList (given : List String) : Built given (.ofList given)
  | union {given given' : List String} {s t : TagSet} : Built given s → Built given' t →
      Built (given ++ given') (s.union t)
  | ofJson {given : List String} {s : TagSet} :
      TagSet.ofJson? (.ofStrings given) = some s → Built given s

/-- A list of texts is read from its document. -/
theorem ofJson?_ofStrings (tags : List String) :
    TagSet.ofJson? (.ofStrings tags) = some (.ofList tags) := by
  rw [ofJson?, list?_ofStrings, Option.map_some]

/-- The members of a set are the given tags in the form that sets keep. -/
theorem Built.mem_iff {given : List String} {s : TagSet} (h : Built given s) {t : String} :
    t ∈ s.toList ↔ ∃ raw ∈ given, normalTag raw = t := by
  induction h with
  | empty => simp
  | insert raw _ ih =>
    rw [TagSet.insert, mem_add, ih, List.exists_mem_cons_iff, eq_comm]
  | ofList given => exact mem_ofList
  | union _ _ ih ih' =>
    rw [mem_union, ih, ih']
    constructor
    · rintro (⟨raw, hraw, rfl⟩ | ⟨raw, hraw, rfl⟩)
      · exact ⟨raw, List.mem_append_left _ hraw, rfl⟩
      · exact ⟨raw, List.mem_append_right _ hraw, rfl⟩
    · rintro ⟨raw, hraw, rfl⟩
      exact (List.mem_append.1 hraw).imp (fun h => ⟨raw, h, rfl⟩) fun h => ⟨raw, h, rfl⟩
  | ofJson hread =>
    rw [ofJson?_ofStrings] at hread
    rw [← Option.some.inj hread, mem_ofList]

/-- If all tags of a set come from tags of the set, all of them stay as they are. -/
theorem normalTag_eq_self_of_surjective {s : TagSet}
    (h : ∀ t ∈ s.toList, ∃ u ∈ s.toList, normalTag u = t) :
    ∀ t ∈ s.toList, normalTag t = t := by
  by_contra hchanged
  obtain ⟨t, ht, hne⟩ : ∃ t ∈ s.toList, normalTag t ≠ t := by simpa using hchanged
  -- The longest tag that is changed could only come from one that is longer.
  have hnonempty : (s.toList.toFinset.filter fun t => normalTag t ≠ t).Nonempty :=
    ⟨t, Finset.mem_filter.2 ⟨List.mem_toFinset.2 ht, hne⟩⟩
  obtain ⟨longest, hlongest, hmax⟩ := Finset.exists_max_image _ (fun t => t.toList.length) hnonempty
  obtain ⟨hmem, hlongestNe⟩ := Finset.mem_filter.1 hlongest
  obtain ⟨u, hu, hfrom⟩ := h longest (List.mem_toFinset.1 hmem)
  have hune : normalTag u ≠ u := by
    intro hself
    have hlongest : longest = u := hfrom.symm.trans hself
    rw [hlongest] at hlongestNe
    exact hlongestNe hself
  have hlonger := length_normalTag_lt hune
  rw [hfrom] at hlonger
  have hbound := hmax u (Finset.mem_filter.2 ⟨List.mem_toFinset.2 hu, hune⟩)
  exact absurd hlonger (not_lt.2 hbound)

/-- A set is handed over as a document and read again unchanged exactly if it keeps
its tags as they are. -/
theorem ofJson?_toJson_iff (s : TagSet) :
    TagSet.ofJson? s.toJson = some s ↔ ∀ t ∈ s.toList, normalTag t = t := by
  rw [toJson, ofJson?_ofStrings]
  constructor
  · intro h
    refine normalTag_eq_self_of_surjective fun t ht => ?_
    rw [← Option.some.inj h] at ht
    exact mem_ofList.1 ht
  · intro h
    refine congrArg some (ext_mem fun t => ?_)
    rw [mem_ofList]
    constructor
    · rintro ⟨u, hu, rfl⟩
      rwa [h u hu]
    · exact fun ht => ⟨t, ht, h t ht⟩

/-- That is the case exactly if none of the tags that were given has more than a single sign, and
then the set knows all its tags. -/
theorem Built.roundTrip_iff {given : List String} {s : TagSet} (h : Built given s) :
    (TagSet.ofJson? s.toJson = some s ↔ ∀ raw ∈ given, SingleSign raw) ∧
    ((∀ raw ∈ given, SingleSign raw) → ∀ t ∈ s.toList, s.contains t = true) := by
  have hkept : (∀ t ∈ s.toList, normalTag t = t) ↔ ∀ raw ∈ given, SingleSign raw := by
    constructor
    · exact fun hself raw hraw => normalTag_normalTag_iff.1 (hself _ (h.mem_iff.2 ⟨raw, hraw, rfl⟩))
    · intro hsign t ht
      obtain ⟨raw, hraw, rfl⟩ := h.mem_iff.1 ht
      exact normalTag_normalTag_iff.2 (hsign raw hraw)
  refine ⟨(ofJson?_toJson_iff s).trans hkept, fun hsign t ht => ?_⟩
  rw [contains, hkept.2 hsign t ht]
  exact List.elem_eq_true_of_mem ht

/-- A tag with two signs is kept with one, so the set does not know it by that name and is
read back with another. -/
theorem doubledSign_changed :
    ∃ given s, Built given s ∧ (∃ t ∈ s.toList, s.contains t = false) ∧
      TagSet.ofJson? s.toJson ≠ some s := by
  exact ⟨["@@x"], .ofList ["@@x"], .ofList _,
    ⟨"@x", by decide +kernel, by decide +kernel⟩, by decide +kernel⟩

/-- A set of tags with one sign and with none is read back as it is. -/
theorem oneSign_roundTrip :
    Built ["@web", " api "] (.ofList ["@web", " api "]) ∧
    TagSet.ofJson? (ofList ["@web", " api "]).toJson = some (ofList ["@web", " api "]) ∧
    ∀ t ∈ (ofList ["@web", " api "]).toList, (ofList ["@web", " api "]).contains t = true := by
  have hbuilt : Built ["@web", " api "] (.ofList ["@web", " api "]) := .ofList _
  have hsign : ∀ raw ∈ ["@web", " api "], SingleSign raw := by
    have hkept : ∀ raw ∈ ["@web", " api "], normalTag (normalTag raw) = normalTag raw := by
      decide +kernel
    exact fun raw hraw => normalTag_normalTag_iff.1 (hkept raw hraw)
  exact ⟨hbuilt, hbuilt.roundTrip_iff.1.2 hsign, hbuilt.roundTrip_iff.2 hsign⟩

end TagSet

end Rehearsal
