import Mathlib.Data.List.Basic
import Rehearsal.Model.Outline

/-!
# Substitution

A template is text with tokens, column names in angle brackets. Substitution replaces each token by
the value of its column, all at once, and keeps every other character where it is. Tokens do not
overlap, so what each place of the template gives is determined by the template alone, and the loop
that goes through it from one bracket to the next comes to the same text, in as many rounds as
there are opening brackets.
-/

namespace Rehearsal.Outline

/-! ## Tokens -/

/-- At the place `i` of a template there is a token: the name of a column, without brackets in it,
between angle brackets. -/
structure TokenAt (bindings : Bindings) (template : List Char) (i : Nat)
    (name : List Char) : Prop where
  /-- The name stands there in angle brackets. -/
  written : ('<' :: (name ++ ['>'])) <+: template.drop i
  /-- It has no opening bracket in it. -/
  notOpened : '<' ∉ name
  /-- Nor a closing one. -/
  notClosed : '>' ∉ name
  /-- There is a column of this name. -/
  bound : ∃ binding ∈ bindings, binding.1 = .ofList name

/-- The value of a column is that of the first binding of its name. -/
def FirstValue (bindings : Bindings) (name : List Char) (value : String) : Prop :=
  ∃ before after, bindings = before ++ (.ofList name, value) :: after ∧
    ∀ binding ∈ before, binding.1 ≠ .ofList name

/-- What the place `i` of a template gives to the text. -/
inductive Gives (bindings : Bindings) (template : List Char) (i : Nat) : List Char → Prop
  /-- Where a token starts, its value. -/
  | token {name : List Char} {value : String} (h : TokenAt bindings template i name)
    (hvalue : FirstValue bindings name value) : Gives bindings template i value.toList
  /-- In the rest of a token, nothing. -/
  | within {j : Nat} {name : List Char} (h : TokenAt bindings template j name) (hstart : j < i)
    (hstop : i < j + name.length + 2) : Gives bindings template i []
  /-- Outside of tokens, its own character. -/
  | kept {c : Char} (hc : template[i]? = some c)
    (houtside : ∀ j name, TokenAt bindings template j name → i < j ∨ j + name.length + 2 ≤ i) :
    Gives bindings template i [c]

variable {bindings : Bindings} {template before rest : List Char} {i j : Nat}
  {name name' : List Char}

theorem TokenAt.getElem?_add (h : TokenAt bindings template i name) {k : Nat}
    (hk : k < name.length + 2) :
    template[i + k]? = ('<' :: (name ++ ['>']))[k]? := by
  obtain ⟨after, hafter⟩ := h.written
  have hwithin : k < ('<' :: (name ++ ['>'])).length := by
    rw [List.length_cons, List.length_append]
    exact hk
  rw [← List.getElem?_drop, ← hafter, List.getElem?_append_left hwithin]

/-- A token starts with an opening bracket. -/
theorem TokenAt.opens (h : TokenAt bindings template i name) : template[i]? = some '<' :=
  h.getElem?_add (Nat.succ_pos _)

/-- And has no other one in it. -/
theorem TokenAt.not_opens (h : TokenAt bindings template i name) (hstart : i < j)
    (hstop : j < i + name.length + 2) :
    template[j]? ≠ some '<' := by
  obtain ⟨k, rfl⟩ := Nat.exists_eq_add_of_lt hstart
  rw [Nat.add_assoc, h.getElem?_add (by omega), List.getElem?_cons_succ]
  intro hopen
  rcases List.mem_append.1 (List.mem_of_getElem? hopen) with hmem | hmem
  · exact h.notOpened hmem
  · cases List.mem_singleton.1 hmem

/-- Tokens do not overlap. -/
theorem TokenAt.le_of_lt (h : TokenAt bindings template i name)
    (h' : TokenAt bindings template j name') (hlt : i < j) : i + name.length + 2 ≤ j := by
  by_contra hoverlap
  exact h.not_opens hlt (Nat.lt_of_not_le hoverlap) h'.opens

/-- The name of a token goes on to its closing bracket. -/
theorem TokenAt.name_eq (h : TokenAt bindings template i name) :
    name = (template.drop (i + 1)).takeWhile (· ≠ '>') := by
  obtain ⟨after, hafter⟩ := h.written
  have hrest : template.drop (i + 1) = name ++ '>' :: after := by
    rw [← List.drop_drop, ← hafter]
    simp
  have hplain : ∀ c ∈ name, decide (c ≠ '>') = true :=
    fun c hc => decide_eq_true fun heq => h.notClosed (heq ▸ hc)
  rw [hrest, List.takeWhile_append_of_pos hplain]
  simp

/-- No two tokens start at one place. -/
theorem TokenAt.unique (h : TokenAt bindings template i name)
    (h' : TokenAt bindings template i name') : name = name' :=
  h.name_eq.trans h'.name_eq.symm

theorem firstValue_iff {value : String} :
    FirstValue bindings name value ↔ bindings.lookup (.ofList name) = some value := by
  rw [List.lookup_eq_some_iff, FirstValue]
  simp only [bne_iff_ne, ne_comm]

/-- A column that is there has a first value. -/
theorem TokenAt.exists_value (h : TokenAt bindings template i name) :
    ∃ value, FirstValue bindings name value := by
  obtain ⟨binding, hmem, hname⟩ := h.bound
  have hsome : (bindings.lookup (.ofList name)).isSome :=
    List.lookup_isSome_iff.2 ⟨binding, hmem, by simp [hname]⟩
  exact (Option.isSome_iff_exists.1 hsome).imp fun _ => firstValue_iff.2

/-- The tokens from a place on are those of the text that is left there. -/
theorem tokenAt_drop :
    TokenAt bindings (template.drop i) j name ↔ TokenAt bindings template (i + j) name := by
  constructor <;> exact fun ⟨hwritten, hopened, hclosed, hbound⟩ =>
    ⟨by simpa only [List.drop_drop] using hwritten, hopened, hclosed, hbound⟩

/-! ## What is replaced -/

/-- The text that a template stands for, from left to right: the first token is replaced, or the
first character stays. -/
inductive Replaced (bindings : Bindings) : List Char → List Char → Prop
  | nil : Replaced bindings [] []
  /-- A token is replaced by its value, which is not looked at again. -/
  | token {name rest result : List Char} {value : String}
    (h : TokenAt bindings ('<' :: (name ++ '>' :: rest)) 0 name)
    (hvalue : FirstValue bindings name value) (hrest : Replaced bindings rest result) :
    Replaced bindings ('<' :: (name ++ '>' :: rest)) (value.toList ++ result)
  /-- A character with which no token starts stays. -/
  | kept {c : Char} {rest result : List Char} (h : ∀ name, ¬ TokenAt bindings (c :: rest) 0 name)
    (hrest : Replaced bindings rest result) : Replaced bindings (c :: rest) (c :: result)

/-- Text without an opening bracket stays, whatever follows. -/
theorem substituteFrom_append (hbefore : '<' ∉ before) (rest : List Char) :
    substituteFrom bindings none (before ++ rest) =
      before ++ substituteFrom bindings none rest := by
  induction before with
  | nil => rfl
  | cons c before ih =>
    rw [List.cons_append, substituteFrom, if_neg (List.ne_of_not_mem_cons hbefore).symm,
      ih (List.not_mem_of_not_mem_cons hbefore), List.cons_append]

/-- Text without brackets behind an opening bracket may be a name. -/
theorem substituteFrom_name (hopened : '<' ∉ name) (hclosed : '>' ∉ name) (read rest : List Char) :
    substituteFrom bindings (some read) (name ++ rest) =
      substituteFrom bindings (some (name.reverse ++ read)) rest := by
  induction name generalizing read with
  | nil => rfl
  | cons c name ih =>
    rw [List.cons_append, substituteFrom, if_neg (List.ne_of_not_mem_cons hopened).symm,
      if_neg (List.ne_of_not_mem_cons hclosed).symm,
      ih (List.not_mem_of_not_mem_cons hopened) (List.not_mem_of_not_mem_cons hclosed)]
    simp

/-- A bound name in brackets is replaced. -/
theorem substituteFrom_token {value : String} (hopened : '<' ∉ name) (hclosed : '>' ∉ name)
    (hvalue : bindings.lookup (.ofList name) = some value) (rest : List Char) :
    substituteFrom bindings none ('<' :: (name ++ '>' :: rest)) =
      value.toList ++ substituteFrom bindings none rest := by
  rw [substituteFrom, if_pos rfl, substituteFrom_name hopened hclosed, substituteFrom,
    if_neg (by decide), if_pos rfl]
  simp [hvalue]

/-- Text goes on to its first bracket, if there is one. -/
theorem exists_bare (text : List Char) :
    ∃ name after, text = name ++ after ∧ '<' ∉ name ∧ '>' ∉ name ∧
    (after = [] ∨ ∃ more, after = '<' :: more ∨ after = '>' :: more) := by
  induction text with
  | nil => exact ⟨[], [], rfl, List.not_mem_nil, List.not_mem_nil, .inl rfl⟩
  | cons c text ih =>
    by_cases hopen : c = '<'
    · exact ⟨[], _, rfl, List.not_mem_nil, List.not_mem_nil, .inr ⟨text, .inl (hopen ▸ rfl)⟩⟩
    by_cases hclose : c = '>'
    · exact ⟨[], _, rfl, List.not_mem_nil, List.not_mem_nil, .inr ⟨text, .inr (hclose ▸ rfl)⟩⟩
    obtain ⟨name, after, rfl, hopened, hclosed, hafter⟩ := ih
    exact ⟨c :: name, after, rfl, List.not_mem_cons_of_ne_of_not_mem (Ne.symm hopen) hopened,
      List.not_mem_cons_of_ne_of_not_mem (Ne.symm hclose) hclosed, hafter⟩

/-- A bound name in brackets is a token. -/
theorem tokenAt_cons (hopened : '<' ∉ name) (hclosed : '>' ∉ name) {value : String}
    (hvalue : FirstValue bindings name value) (rest : List Char) :
    TokenAt bindings ('<' :: (name ++ '>' :: rest)) 0 name := by
  refine ⟨⟨rest, by simp⟩, hopened, hclosed, ?_⟩
  obtain ⟨before, after, rfl, -⟩ := hvalue
  exact ⟨_, List.mem_append_right _ List.mem_cons_self, rfl⟩

/-- An opening bracket with which no token starts stays, and what follows is read anew. -/
theorem substituteFrom_open (h : ∀ name, ¬ TokenAt bindings ('<' :: rest) 0 name) :
    substituteFrom bindings none ('<' :: rest) = '<' :: substituteFrom bindings none rest := by
  obtain ⟨name, after, rfl, hopened, hclosed, hafter⟩ := exists_bare rest
  rw [substituteFrom, if_pos rfl, substituteFrom_name hopened hclosed,
    substituteFrom_append hopened]
  rcases hafter with rfl | ⟨more, rfl | rfl⟩
  · simp [substituteFrom]
  · simp [substituteFrom]
  · have hunbound : bindings.lookup (.ofList name) = none := by
      by_contra hbound
      obtain ⟨value, hvalue⟩ := Option.ne_none_iff_exists'.1 hbound
      exact h name (tokenAt_cons hopened hclosed (firstValue_iff.2 hvalue) more)
    simp [substituteFrom, hunbound]

/-- Where a token starts, its name is followed by a closing bracket. -/
theorem TokenAt.exists_rest (h : TokenAt bindings template 0 name) :
    ∃ rest, template = '<' :: (name ++ '>' :: rest) := by
  obtain ⟨rest, hrest⟩ := h.written
  exact ⟨rest, by simpa using hrest.symm⟩

/-- Substitution gives the text that the template stands for. -/
theorem replaced_substituteFrom (bindings : Bindings) (template : List Char) :
    Replaced bindings template (substituteFrom bindings none template) := by
  -- A token may be long, so the induction is on the length of what is left.
  induction hlength : template.length using Nat.strongRecOn generalizing template with
  | _ n ih =>
    subst hlength
    cases template with
    | nil => exact .nil
    | cons c rest =>
      by_cases htoken : ∃ name, TokenAt bindings (c :: rest) 0 name
      · obtain ⟨name, h⟩ := htoken
        obtain ⟨value, hvalue⟩ := h.exists_value
        obtain ⟨after, hafter⟩ := h.exists_rest
        rw [hafter] at h ih ⊢
        rw [substituteFrom_token h.notOpened h.notClosed (firstValue_iff.1 hvalue)]
        exact .token h hvalue (ih _ (by simp; omega) after rfl)
      · rw [not_exists] at htoken
        have hstays : substituteFrom bindings none (c :: rest) =
            c :: substituteFrom bindings none rest := by
          by_cases hc : c = '<'
          · subst hc
            exact substituteFrom_open htoken
          · rw [substituteFrom, if_neg hc]
        rw [hstays]
        exact .kept htoken (ih _ (by simp) rest rfl)

/-- Each place of a template gives one part. -/
theorem Gives.unique {part part' : List Char} (h : Gives bindings template i part)
    (h' : Gives bindings template i part') : part = part' := by
  cases h with
  | token h hvalue =>
    cases h' with
    | token h' hvalue' =>
      cases h.unique h'
      rw [Option.some.inj ((firstValue_iff.1 hvalue).symm.trans (firstValue_iff.1 hvalue'))]
    | within h' hstart hstop => exact absurd h.opens (h'.not_opens hstart hstop)
    | kept _ houtside => exact absurd (houtside _ _ h) (by omega)
  | within h hstart hstop =>
    cases h' with
    | token h' _ => exact absurd h'.opens (h.not_opens hstart hstop)
    | within => rfl
    | kept _ houtside => exact absurd (houtside _ _ h) (by omega)
  | kept hc houtside =>
    cases h' with
    | token h' _ => exact absurd (houtside _ _ h') (by omega)
    | within h' _ _ => exact absurd (houtside _ _ h') (by omega)
    | kept hc' _ => rw [Option.some.inj (hc.symm.trans hc')]

/-- No token reaches over the place `i` of a template. -/
def Boundary (bindings : Bindings) (template : List Char) (i : Nat) : Prop :=
  ∀ j name, TokenAt bindings template j name → i ≤ j ∨ j + name.length + 2 ≤ i

/-- None reaches over the end of a token. -/
theorem TokenAt.boundary (h : TokenAt bindings template i name) :
    Boundary bindings template (i + name.length + 2) := by
  intro j name' h'
  rcases Nat.lt_trichotomy i j with hlt | rfl | hlt
  · exact .inl (h.le_of_lt h' hlt)
  · exact .inr (h.unique h' ▸ Nat.le_refl _)
  · have := h'.le_of_lt h hlt
    exact .inr (by omega)

/-- A place over which none reaches, and where none starts, is outside of all tokens. -/
theorem Boundary.outside (h : Boundary bindings template i)
    (hstart : ∀ name, ¬ TokenAt bindings template i name) (hj : TokenAt bindings template j name) :
    i < j ∨ j + name.length + 2 ≤ i := by
  have hne : j ≠ i := fun heq => hstart name (heq ▸ hj)
  have := h j name hj
  omega

/-- The text is put together from what the places give. -/
theorem Replaced.exists_parts {result : List Char} (h : Replaced bindings rest result)
    (hrest : template.drop i = rest) (hboundary : Boundary bindings template i) :
    ∃ parts : List (List Char), parts.length = rest.length ∧ parts.flatten = result ∧
      ∀ k part, parts[k]? = some part → Gives bindings template (i + k) part := by
  induction h generalizing i with
  | nil => exact ⟨[], rfl, rfl, nofun⟩
  | @token name rest result value h hvalue _ ih =>
    have htoken : TokenAt bindings template i name := tokenAt_drop.1 (hrest ▸ h)
    have hafter : template.drop (i + name.length + 2) = rest := by
      rw [Nat.add_assoc, ← List.drop_drop, hrest]
      simp
    obtain ⟨parts, hlength, hflatten, hgives⟩ := ih hafter htoken.boundary
    -- The first place of the token gives the value, and its other places nothing.
    refine ⟨value.toList :: (List.replicate (name.length + 1) [] ++ parts),
      by simp [hlength]; omega, by simp [hflatten], ?_⟩
    rintro (_ | k) part hk
    · cases Option.some.inj hk
      exact .token htoken hvalue
    · rw [List.getElem?_cons_succ] at hk
      rcases Nat.lt_or_ge k (name.length + 1) with hlt | hge
      · rw [List.getElem?_append_left (by simpa using hlt), List.getElem?_replicate_of_lt hlt] at hk
        cases Option.some.inj hk
        exact .within htoken (by omega) (by omega)
      · rw [List.getElem?_append_right (by simpa using hge), List.length_replicate] at hk
        have hpart := hgives _ _ hk
        rwa [show i + name.length + 2 + (k - (name.length + 1)) = i + (k + 1) by omega] at hpart
  | @kept c rest result h _ ih =>
    have hstart : ∀ name, ¬ TokenAt bindings template i name := fun name hname =>
      h name (hrest ▸ tokenAt_drop.2 hname)
    have hafter : template.drop (i + 1) = rest := by
      rw [← List.drop_drop, hrest]
      rfl
    have hc : template[i]? = some c := by
      rw [← List.head?_drop, hrest]
      rfl
    obtain ⟨parts, hlength, hflatten, hgives⟩ := ih hafter fun j name hj =>
      (hboundary.outside hstart hj).imp id Nat.le_succ_of_le
    refine ⟨[c] :: parts, by simp [hlength], by simp [hflatten], ?_⟩
    rintro (_ | k) part hk
    · cases Option.some.inj hk
      exact .kept hc fun j name => hboundary.outside hstart
    · have hpart := hgives k part hk
      rwa [show i + 1 + k = i + (k + 1) by omega] at hpart

/-- With columns whose values are their own tokens nothing changes. -/
theorem Replaced.eq_of_tokens {result : List Char} (h : Replaced bindings template result)
    (hbindings : ∀ binding ∈ bindings, binding.2 = "<" ++ binding.1 ++ ">") :
    result = template := by
  induction h with
  | nil => rfl
  | @token name rest result value _ hvalue _ ih =>
    obtain ⟨before, after, rfl, -⟩ := hvalue
    have hown : value = "<" ++ .ofList name ++ ">" :=
      hbindings _ (List.mem_append_right _ List.mem_cons_self)
    simp [ih, hown]
  | kept _ _ ih => rw [ih]

/-- Without tokens nothing changes. -/
theorem Replaced.eq_of_no_token {result : List Char} (h : Replaced bindings template result)
    (hnone : ∀ i name, ¬ TokenAt bindings template i name) : result = template := by
  induction h with
  | nil => rfl
  | token h _ _ _ => exact absurd h (hnone 0 _)
  | @kept c rest _ _ _ ih =>
    have hrest : ∀ i name, ¬ TokenAt bindings rest i name := fun i name h =>
      hnone (1 + i) name (tokenAt_drop.1 (show TokenAt bindings ((c :: rest).drop 1) i name from h))
    rw [ih hrest]

/-! ## Rounds -/

/-- The text before the first `c` and the text after it. -/
def cut? (c : Char) : List Char → Option (List Char × List Char)
  | [] => none
  | d :: rest =>
    if d = c then some ([], rest) else (cut? c rest).map fun (before, after) => (d :: before, after)

/-- What is put out for the text behind an opening bracket, and what is left then: if the name of a
column stands before the next closing bracket, its value, and what follows the closing bracket; else
the opening bracket, and all. -/
def replaceFirst (bindings : Bindings) (opened : List Char) : List Char × List Char :=
  match cut? '>' opened with
  | none => (['<'], opened)
  | some (name, rest) =>
    if '<' ∈ name then (['<'], opened)
    else match bindings.lookup (.ofList name) with
      | none => (['<'], opened)
      | some value => (value.toList, rest)

/-- One round of a loop through a template, on the text that is put out so far and what is left:
what stands before the next opening bracket is put out as it is. -/
def round? (bindings : Bindings) (state : List Char × List Char) : Option (List Char × List Char) :=
  (cut? '<' state.2).map fun (before, opened) =>
    (state.1 ++ before ++ (replaceFirst bindings opened).1, (replaceFirst bindings opened).2)

/-- What there is after so many rounds. -/
def rounds? (bindings : Bindings) : Nat → List Char × List Char → Option (List Char × List Char)
  | 0, state => some state
  | n + 1, state => (round? bindings state).bind (rounds? bindings n)

theorem cut?_append {c : Char} {before : List Char} (h : c ∉ before) (after : List Char) :
    cut? c (before ++ c :: after) = some (before, after) := by
  induction before with
  | nil => simp [cut?]
  | cons d before ih =>
    rw [List.cons_append, cut?, if_neg (List.ne_of_not_mem_cons h).symm,
      ih (List.not_mem_of_not_mem_cons h)]
    rfl

theorem cut?_eq_none {c : Char} {text : List Char} (h : c ∉ text) : cut? c text = none := by
  induction text with
  | nil => rfl
  | cons d text ih =>
    rw [cut?, if_neg (List.ne_of_not_mem_cons h).symm, ih (List.not_mem_of_not_mem_cons h)]
    rfl

theorem eq_append_of_cut? {c : Char} {text before after : List Char}
    (h : cut? c text = some (before, after)) :
    text = before ++ c :: after ∧ c ∉ before := by
  by_cases hmem : c ∈ text
  · obtain ⟨before', after', rfl, hbefore⟩ := List.eq_append_cons_of_mem hmem
    rw [cut?_append hbefore] at h
    obtain ⟨rfl, rfl⟩ := Prod.mk.inj (Option.some.inj h)
    exact ⟨rfl, hbefore⟩
  · rw [cut?_eq_none hmem] at h
    cases h

variable {out opened : List Char}

/-- For a token its value is put out. -/
theorem replaceFirst_token {value : String} (hopened : '<' ∉ name) (hclosed : '>' ∉ name)
    (hvalue : bindings.lookup (.ofList name) = some value) (rest : List Char) :
    replaceFirst bindings (name ++ '>' :: rest) = (value.toList, rest) := by
  rw [replaceFirst, cut?_append hclosed]
  simp only [hopened, hvalue, if_false]

/-- For an opening bracket with which no token starts that bracket is put out. -/
theorem replaceFirst_open (h : ∀ name, ¬ TokenAt bindings ('<' :: opened) 0 name) :
    replaceFirst bindings opened = (['<'], opened) := by
  rw [replaceFirst]
  split
  · rfl
  · next name rest hcut =>
    split
    · rfl
    · next hopened =>
      split
      · rfl
      · next value hvalue =>
        obtain ⟨rfl, hclosed⟩ := eq_append_of_cut? hcut
        exact absurd (tokenAt_cons hopened hclosed (firstValue_iff.2 hvalue) rest) (h name)

/-- A round uses up one opening bracket and keeps the text that comes out in the end. -/
theorem exists_round (hopen : '<' ∈ rest) (out : List Char) :
    ∃ out' rest', round? bindings (out, rest) = some (out', rest') ∧
      rest'.count '<' + 1 = rest.count '<' ∧
      out' ++ substituteFrom bindings none rest' = out ++ substituteFrom bindings none rest := by
  obtain ⟨before, opened, rfl, hbefore⟩ := List.eq_append_cons_of_mem hopen
  have hcount : (before ++ '<' :: opened).count '<' = opened.count '<' + 1 := by
    simp [List.count_eq_zero_of_not_mem hbefore]
  rw [round?, cut?_append hbefore, substituteFrom_append hbefore]
  by_cases htoken : ∃ name, TokenAt bindings ('<' :: opened) 0 name
  · obtain ⟨name, h⟩ := htoken
    obtain ⟨value, hvalue⟩ := h.exists_value
    obtain ⟨rest, hrest⟩ := h.exists_rest
    obtain rfl := List.tail_eq_of_cons_eq hrest
    have hlookup := firstValue_iff.1 hvalue
    refine ⟨_, _, rfl, ?_, ?_⟩
    · rw [replaceFirst_token h.notOpened h.notClosed hlookup]
      simp [hcount, List.count_eq_zero_of_not_mem h.notOpened]
    · rw [replaceFirst_token h.notOpened h.notClosed hlookup,
        substituteFrom_token h.notOpened h.notClosed hlookup]
      simp
  · rw [not_exists] at htoken
    refine ⟨_, _, rfl, ?_, ?_⟩
    · rw [replaceFirst_open htoken, hcount]
    · rw [replaceFirst_open htoken, substituteFrom_open htoken]
      simp

/-- There are as many rounds as opening brackets; after them no bracket is left, and
all the text is there. -/
theorem exists_rounds {n : Nat} (hcount : rest.count '<' = n) (out : List Char) :
    ∃ out' rest', rounds? bindings n (out, rest) = some (out', rest') ∧
      round? bindings (out', rest') = none ∧
      out' ++ rest' = out ++ substituteFrom bindings none rest := by
  induction n generalizing out rest with
  | zero =>
    have hclear : '<' ∉ rest := List.count_eq_zero.1 hcount
    refine ⟨out, rest, rfl, by rw [round?, cut?_eq_none hclear]; rfl, ?_⟩
    have hstays : substituteFrom bindings none (rest ++ []) = rest ++ [] :=
      substituteFrom_append hclear []
    rw [List.append_nil] at hstays
    rw [hstays]
  | succ n ih =>
    have hopen : '<' ∈ rest := List.count_pos_iff.1 (hcount ▸ Nat.succ_pos n)
    obtain ⟨out₁, rest₁, hround, hcount₁, hkept⟩ := @exists_round bindings rest hopen out
    obtain ⟨out', rest', hrounds, hend, htext⟩ := ih (show rest₁.count '<' = n by omega) out₁
    exact ⟨out', rest', by rw [rounds?, hround]; exact hrounds, hend, htext.trans hkept⟩

/-! ## Substitution -/

/-- The text `result` is the template with each token replaced, and all at once. -/
structure ReplacesTokens (bindings : Bindings) (template result : List Char) : Prop where
  /-- Tokens do not overlap. -/
  apart : ∀ i j name name', TokenAt bindings template i name → TokenAt bindings template j name' →
    i = j ∧ name = name' ∨ i + name.length + 2 ≤ j ∨ j + name'.length + 2 ≤ i
  /-- So what a place of the template gives is determined: the value of a token that starts there,
  nothing within a token, and the character itself outside of tokens. -/
  single : ∀ i part part', Gives bindings template i part →
    Gives bindings template i part' → part = part'
  /-- The text is what the places give, in their order. -/
  parts : ∃ parts : List (List Char), parts.length = template.length ∧ parts.flatten = result ∧
    ∀ i part, parts[i]? = some part → Gives bindings template i part
  /-- The loop that goes on from bracket to bracket ends, after a round for each opening
  bracket, and comes to it. -/
  rounds : ∃ out rest, rounds? bindings (template.count '<') ([], template) = some (out, rest) ∧
    round? bindings (out, rest) = none ∧ out ++ rest = result
  /-- With columns whose values are their own tokens it is the template. -/
  own : (∀ binding ∈ bindings, binding.2 = "<" ++ binding.1 ++ ">") → result = template
  /-- As it is without tokens. -/
  none : (∀ i name, ¬ TokenAt bindings template i name) → result = template

/-- Substitution replaces each token by the value of its column, once, and nothing else. -/
theorem substitute_replacesTokens (bindings : Bindings) (template : String) :
    ReplacesTokens bindings template.toList (substitute bindings template).toList := by
  have hreplaced := replaced_substituteFrom bindings template.toList
  have hboundary : Boundary bindings template.toList 0 := fun j _ _ => .inl (Nat.zero_le j)
  obtain ⟨parts, hlength, hflatten, hgives⟩ := hreplaced.exists_parts rfl hboundary
  rw [substitute, String.toList_ofList]
  refine {
    apart := fun i j name name' h h' => ?_
    single := fun _ _ _ => Gives.unique
    parts := ⟨parts, hlength, hflatten, fun i part hpart => Nat.zero_add i ▸ hgives i part hpart⟩
    rounds := exists_rounds rfl []
    own := hreplaced.eq_of_tokens
    none := hreplaced.eq_of_no_token }
  rcases Nat.lt_trichotomy i j with hlt | rfl | hlt
  · exact .inr (.inl (h.le_of_lt h' hlt))
  · exact .inl ⟨rfl, h.unique h'⟩
  · exact .inr (.inr (h'.le_of_lt h hlt))

/-- A column with its own token for its value changes nothing, nor does one
whose name is not there. -/
theorem strangers_replaceNothing :
    ((∀ binding ∈ [("a", "<a>")], binding.2 = "<" ++ binding.1 ++ ">") ∧
      (substitute [("a", "<a>")] "<<a><b>").toList = "<<a><b>".toList) ∧
    (∀ i name, ¬ TokenAt [("a", "x")] "a<b>".toList i name) ∧
      (substitute [("a", "x")] "a<b>").toList = "a<b>".toList := by
  have hnone : ∀ i name, ¬ TokenAt [("a", "x")] "a<b>".toList i name := by
    rintro i name h
    have hbound : "a" = String.ofList name := by simpa using h.bound
    have hname : name = ['a'] := by simpa using congrArg String.toList hbound.symm
    have hwritten := h.written
    rw [hname] at hwritten
    match i with
    | 0 | 1 | 2 | 3 => revert hwritten; decide
    | i + 4 => exact absurd hwritten.length_le (by simp)
  exact ⟨⟨by decide, (substitute_replacesTokens [("a", "<a>")] "<<a><b>").own (by decide)⟩, hnone,
    (substitute_replacesTokens [("a", "x")] "a<b>").none hnone⟩

/-- The value of one column may look like the token of another. -/
example : substitute [("a", "<b>"), ("b", "x")] "<a><b> < <c>" = "<b>x < <c>" := by
  cbv

end Rehearsal.Outline
