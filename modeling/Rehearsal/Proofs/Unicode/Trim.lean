import Mathlib.Data.List.DropRight
import Rehearsal.Unicode.Blank

/-!
# Trimming

A text is the blanks that trimming takes away with the trimmed text between them, and the trimmed
text has no blank at either end. This determines it: whatever stands between blanks and has none at
its ends is the trimmed text.
-/

namespace Rehearsal

/-- A text of nothing but blanks. -/
def Blanks (text : List Char) : Prop := ∀ c ∈ text, isBlank c = true

/-- A text without a blank at either end. -/
structure Bare (text : List Char) : Prop where
  /-- It does not start with a blank. -/
  start : ∀ c ∈ text.head?, isBlank c = false
  /-- It does not end with a blank. -/
  stop : ∀ c ∈ text.getLast?, isBlank c = false

/-- The empty text is of nothing but blanks. -/
theorem Blanks.nil : Blanks [] := nofun

/-- Two texts of blanks are one. -/
theorem Blanks.append {before after : List Char} (hbefore : Blanks before) (hafter : Blanks after) :
    Blanks (before ++ after) := List.forall_mem_append.2 ⟨hbefore, hafter⟩

/-- What is not a blank is not in a text of blanks. -/
theorem Blanks.not_mem {text : List Char} (h : Blanks text) {c : Char}
    (hc : isBlank c = false) : c ∉ text := by
  intro hmem
  rw [h c hmem] at hc
  exact Bool.noConfusion hc

/-! ## One end -/

/-- Blanks before a text are taken away from its start. -/
theorem trimStart_append {before : List Char} (h : Blanks before) (text : List Char) :
    trimStart (before ++ text) = trimStart text := List.dropWhile_append_of_pos h

/-- Blanks after a text are taken away from its end. -/
theorem trimEnd_append {after : List Char} (h : Blanks after) (text : List Char) :
    trimEnd (text ++ after) = trimEnd text := by
  have hreverse : Blanks after.reverse := fun c hc => h c (List.mem_reverse.1 hc)
  unfold trimEnd
  rw [List.reverse_append, List.dropWhile_append_of_pos hreverse]

/-- What does not start with a blank stays as it is at its start. -/
theorem trimStart_eq_self {text : List Char} (h : ∀ c ∈ text.head?, isBlank c = false) :
    trimStart text = text := by
  cases text with
  | nil => rfl
  | cons c rest => exact List.dropWhile_cons_of_neg (by simp [h c rfl])

/-- What does not end with a blank stays as it is at its end. -/
theorem trimEnd_eq_self {text : List Char} (h : ∀ c ∈ text.getLast?, isBlank c = false) :
    trimEnd text = text := by
  rw [← List.head?_reverse] at h
  have hreverse : text.reverse.dropWhile isBlank = text.reverse := trimStart_eq_self h
  rw [trimEnd, hreverse, List.reverse_reverse]

/-- The text is what is taken away from its start and what stays. -/
theorem takeWhile_append_trimStart (text : List Char) :
    text.takeWhile isBlank ++ trimStart text = text :=
  List.takeWhile_append_dropWhile

/-- What is taken away from the start of a text is blank. -/
theorem blanks_takeWhile (text : List Char) : Blanks (text.takeWhile isBlank) :=
  fun _ hc => List.mem_takeWhile_imp hc

/-- What stays does not start with a blank. -/
theorem head?_trimStart (text : List Char) : ∀ c ∈ (trimStart text).head?, isBlank c = false := by
  intro c hc
  have hhead := List.head?_dropWhile_not isBlank text
  rw [show (text.dropWhile isBlank).head? = some c from hc] at hhead
  exact hhead

/-- A text has blanks at its end, which trimming takes away. -/
theorem exists_trimEnd_append (text : List Char) :
    ∃ after, Blanks after ∧ trimEnd text ++ after = text :=
  ⟨text.rtakeWhile isBlank, fun _ hc => List.mem_rtakeWhile_imp hc,
    List.rdropWhile_append_rtakeWhile⟩

/-- What stays does not end with a blank. -/
theorem getLast?_trimEnd (text : List Char) : ∀ c ∈ (trimEnd text).getLast?, isBlank c = false := by
  rw [trimEnd, List.getLast?_reverse]
  exact head?_trimStart text.reverse

/-! ## Both ends -/

/-- Blanks around a text are taken away. -/
theorem trim_append_append {before after : List Char} (hbefore : Blanks before)
    (hafter : Blanks after) (text : List Char) : trim (before ++ text ++ after) = trim text := by
  rw [trim, trim, List.append_assoc, trimStart_append hbefore]
  -- A text of nothing but blanks runs together with the blanks after it.
  by_cases hnil : trimStart text = []
  · have hblank : Blanks text := List.dropWhile_eq_nil_iff.1 hnil
    have hboth : trimStart (text ++ after) = [] :=
      List.dropWhile_eq_nil_iff.2 (hblank.append hafter)
    rw [hnil, hboth]
  · have hboth : trimStart (text ++ after) = trimStart text ++ after := by
      rw [trimStart, List.dropWhile_append]
      exact if_neg (by simpa [trimStart] using hnil)
    rw [hboth, trimEnd_append hafter]

/-- A text without blanks at its ends stays as it is. -/
theorem Bare.trim_eq {text : List Char} (h : Bare text) : trim text = text := by
  rw [trim, trimStart_eq_self h.start, trimEnd_eq_self h.stop]

/-- Something seen before a text that does not end with a blank makes a text without
blanks at its ends. -/
theorem Bare.cons {c : Char} {text : List Char} (hc : isBlank c = false)
    (hstop : ∀ d ∈ text.getLast?, isBlank d = false) : Bare (c :: text) where
  start := fun _ hd => Option.some.inj hd ▸ hc
  stop := by
    intro d hd
    rw [List.getLast?_cons] at hd
    obtain rfl := Option.some.inj hd
    cases hlast : text.getLast? with
    | none => exact hc
    | some last => exact hstop last hlast

/-- Between blanks stands the trimmed text. -/
theorem Bare.trim_between {before text after : List Char} (h : Bare text) (hbefore : Blanks before)
    (hafter : Blanks after) : trim (before ++ text ++ after) = text := by
  rw [trim_append_append hbefore hafter, h.trim_eq]

/-- The trimmed text has no blanks at its ends. -/
theorem bare_trim (text : List Char) : Bare (trim text) where
  start := by
    intro c hc
    obtain ⟨after, -, hafter⟩ := exists_trimEnd_append (trimStart text)
    apply head?_trimStart text
    rw [← hafter]
    exact List.mem_head?_append_of_mem_head? hc
  stop := getLast?_trimEnd (trimStart text)

/-- The text is the trimmed text with blanks around it. -/
theorem exists_trim_between (text : List Char) :
    ∃ before after, Blanks before ∧ Blanks after ∧ before ++ trim text ++ after = text := by
  obtain ⟨after, hafter, hend⟩ := exists_trimEnd_append (trimStart text)
  refine ⟨text.takeWhile isBlank, after, blanks_takeWhile text, hafter, ?_⟩
  rw [List.append_assoc, trim, hend, takeWhile_append_trimStart]

/-- Trimming a trimmed text changes nothing. -/
@[simp] theorem trim_trim (text : List Char) : trim (trim text) = trim text :=
  (bare_trim text).trim_eq

/-- Nothing stays exactly of texts of nothing but blanks. -/
theorem trim_eq_nil_iff {text : List Char} : trim text = [] ↔ Blanks text := by
  constructor
  · intro hnil
    obtain ⟨before, after, hbefore, hafter, htext⟩ := exists_trim_between text
    rw [hnil, List.append_nil] at htext
    exact htext ▸ hbefore.append hafter
  · intro hblank
    have htrim := trim_append_append hblank Blanks.nil []
    rwa [List.append_nil, List.append_nil] at htrim

/-- The ends can be trimmed in either order. -/
theorem trimStart_trimEnd (text : List Char) : trimStart (trimEnd text) = trim text := by
  obtain ⟨after, hafter, hend⟩ := exists_trimEnd_append text
  have hbare : Bare (trimStart (trimEnd text)) := by
    refine ⟨head?_trimStart _, fun c hc => getLast?_trimEnd text c ?_⟩
    rw [← takeWhile_append_trimStart (trimEnd text)]
    exact List.mem_getLast?_append_of_mem_getLast? hc
  have htext : (trimEnd text).takeWhile isBlank ++ trimStart (trimEnd text) ++ after = text := by
    rw [takeWhile_append_trimStart, hend]
  rw [← hbare.trim_between (blanks_takeWhile _) hafter, htext]

/-- A text that starts with something seen is trimmed after that. -/
theorem trim_cons {c : Char} (hc : isBlank c = false) (text : List Char) :
    trim (c :: text) = c :: trimEnd text := by
  obtain ⟨after, hafter, hend⟩ := exists_trimEnd_append text
  have hbare : Bare (c :: trimEnd text) := .cons hc (getLast?_trimEnd text)
  have htrim := hbare.trim_between Blanks.nil hafter
  rwa [List.nil_append, List.cons_append, hend] at htrim

end Rehearsal
