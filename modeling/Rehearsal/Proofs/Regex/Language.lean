import Rehearsal.Proofs.Regex.Remainders

/-!
# Languages of plain expressions

Which texts a plain expression matches, and which of two matches it prefers. The language of an
expression is put together from those of its parts. An expression that always prefers the
longer match may be followed by another one of this kind, if that one takes nothing where the
first could have gone on.
-/

namespace Rehearsal.Regex

variable {e f : Expr} {A B : List Char → Prop} {P : Char → Prop} {chars : CharSet}
  {ascii greedy : Bool} {rest r r' w : List Char}

/-- Any number of turns is as many optional turns as there are characters ahead. -/
theorem remainders_many (e : Expr) (greedy : Bool) (rest : List Char) :
    (Expr.loop e 0 none greedy).remainders rest = upTo e.remainders greedy rest.length rest := by
  rw [Expr.remainders_loop_none, times, List.flatMap_singleton]

/-- One turn at least is one turn and then any number of them. -/
theorem remainders_some (e : Expr) (greedy : Bool) (rest : List Char) :
    (Expr.loop e 1 none greedy).remainders rest =
      (Expr.cat e (.loop e 0 none greedy)).remainders rest := by
  simp only [Expr.remainders_cat, Expr.remainders_loop_none, times, List.flatMap_singleton]
  exact List.flatMap_congr fun left _ => (remainders_many e greedy left).symm

/-! ## Languages -/

/-- The texts that the expression matches are those of `A`. -/
def Denotes (e : Expr) (A : List Char → Prop) : Prop :=
  ∀ rest r, r ∈ e.remainders rest ↔ ∃ w, A w ∧ w ++ r = rest

/-- All characters of the text are of the set. -/
def AllIn (chars : CharSet) (w : List Char) : Prop := ∀ c ∈ w, chars.contains c = true

/-- The text is of one sort followed by one of another sort. -/
def Followed (A B : List Char → Prop) (w : List Char) : Prop := ∃ u v, A u ∧ B v ∧ u ++ v = w

namespace Denotes

/-- A language may be described in another way. -/
theorem congr (h : Denotes e A) (hAB : ∀ w, A w ↔ B w) : Denotes e B := fun rest r => by
  simp only [h rest r, hAB]

theorem set : Denotes (.set chars ascii) fun w => ∃ c, chars.contains c = true ∧ w = [c] := by
  intro rest r
  cases rest with
  | nil =>
    refine iff_of_false List.not_mem_nil ?_
    rintro ⟨_, ⟨c, -, rfl⟩, h⟩
    cases h
  | cons c rest =>
    rw [Expr.remainders_set_cons]
    constructor
    · intro hr
      split at hr
      · next hc =>
        obtain rfl := List.mem_singleton.1 hr
        exact ⟨[c], ⟨c, hc, rfl⟩, rfl⟩
      · cases hr
    · rintro ⟨_, ⟨c', hc, rfl⟩, h⟩
      obtain ⟨rfl, rfl⟩ := List.cons.inj h
      rw [if_pos hc]
      exact List.mem_singleton.2 rfl

theorem cat (h : Denotes e A) (h' : Denotes f B) : Denotes (.cat e f) (Followed A B) := by
  intro rest r
  constructor
  · intro hr
    obtain ⟨middle, hmiddle, hmore⟩ := List.mem_flatMap.1 hr
    obtain ⟨u, hu, rfl⟩ := (h rest middle).1 hmiddle
    obtain ⟨v, hv, rfl⟩ := (h' middle r).1 hmore
    exact ⟨u ++ v, ⟨u, v, hu, hv, rfl⟩, List.append_assoc u v r⟩
  · rintro ⟨_, ⟨u, v, hu, hv, rfl⟩, hrest⟩
    refine List.mem_flatMap.2 ⟨v ++ r, (h rest _).2 ⟨u, hu, ?_⟩, (h' _ r).2 ⟨v, hv, rfl⟩⟩
    rw [← List.append_assoc, hrest]

theorem alt (h : Denotes e A) (h' : Denotes f B) : Denotes (.alt e f) fun w => A w ∨ B w := by
  intro rest r
  rw [Expr.remainders_alt, List.mem_append, h rest r, h' rest r]
  constructor
  · rintro (⟨w, hw, hrest⟩ | ⟨w, hw, hrest⟩)
    · exact ⟨w, .inl hw, hrest⟩
    · exact ⟨w, .inr hw, hrest⟩
  · rintro ⟨w, hw | hw, hrest⟩
    · exact .inl ⟨w, hw, hrest⟩
    · exact .inr ⟨w, hw, hrest⟩

/-- Something or nothing. -/
theorem optional (h : Denotes e A) : Denotes (.loop e 0 (some 1) greedy) fun w => w = [] ∨ A w := by
  intro rest r
  have hturns : r ∈ upTo e.remainders greedy 1 rest ↔ r = rest ∨ r ∈ e.remainders rest := by
    rw [mem_upTo_succ]
    simp [upTo]
  rw [Expr.remainders_loop_some, times, List.flatMap_singleton, hturns, h rest r]
  constructor
  · rintro (rfl | ⟨w, hw, hrest⟩)
    · exact ⟨[], .inl rfl, rfl⟩
    · exact ⟨w, .inr hw, hrest⟩
  · rintro ⟨w, rfl | hw, hrest⟩
    · exact .inl hrest
    · exact .inr ⟨w, hw, hrest⟩

/-- Any number of characters of a set. -/
theorem many : Denotes (.loop (.set chars ascii) 0 none greedy) (AllIn chars) := by
  intro rest r
  rw [remainders_many]
  induction rest with
  | nil =>
    rw [List.length_nil, upTo, List.mem_singleton]
    constructor
    · rintro rfl
      exact ⟨[], List.forall_mem_nil _, rfl⟩
    · rintro ⟨w, -, h⟩
      exact (List.append_eq_nil_iff.1 h).2
  | cons c rest ih =>
    rw [List.length_cons, mem_upTo_succ]
    constructor
    · rintro (rfl | ⟨middle, hmiddle, hr⟩)
      · exact ⟨[], List.forall_mem_nil _, rfl⟩
      · obtain ⟨_, ⟨c', hc, rfl⟩, h⟩ := (Denotes.set _ _).1 hmiddle
        obtain ⟨rfl, rfl⟩ := List.cons.inj h
        obtain ⟨w, hw, hrest⟩ := ih.1 hr
        exact ⟨c' :: w, List.forall_mem_cons.2 ⟨hc, hw⟩, congrArg (c' :: ·) hrest⟩
    · rintro ⟨w, hw, hrest⟩
      cases w with
      | nil => exact .inl hrest
      | cons c' w =>
        obtain ⟨rfl, hleft⟩ := List.cons.inj hrest
        obtain ⟨hc, hall⟩ := List.forall_mem_cons.1 hw
        exact .inr ⟨rest, (Denotes.set _ _).2 ⟨_, ⟨c', hc, rfl⟩, rfl⟩, ih.2 ⟨w, hall, hleft⟩⟩

end Denotes

/-- One character of a set or more. -/
theorem Denotes.some (chars : CharSet) :
    Denotes (.loop (.set chars ascii) 1 none greedy) fun w => w ≠ [] ∧ AllIn chars w := by
  refine Denotes.congr (A := Followed (fun w => ∃ c, chars.contains c = true ∧ w = [c])
    (AllIn chars)) ?_ ?_
  · intro rest r
    rw [remainders_some]
    exact Denotes.set.cat Denotes.many rest r
  · intro w
    constructor
    · rintro ⟨_, v, ⟨c, hc, rfl⟩, hv, rfl⟩
      exact ⟨List.cons_ne_nil c v, List.forall_mem_cons.2 ⟨hc, hv⟩⟩
    · rintro ⟨hne, hall⟩
      obtain ⟨c, v, rfl⟩ := List.exists_cons_of_ne_nil hne
      obtain ⟨hc, hv⟩ := List.forall_mem_cons.1 hall
      exact ⟨[c], v, ⟨c, hc, rfl⟩, hv, rfl⟩

/-- What is matched is determined by what is left. -/
theorem Denotes.admits_of_mem (h : Denotes e A) (hr : r ∈ e.remainders rest)
    (hw : w ++ r = rest) : A w := by
  obtain ⟨u, hu, hrest⟩ := (h rest r).1 hr
  exact List.append_cancel_right (hw.trans hrest.symm) ▸ hu

/-! ## Preference -/

/-- Of two matches, the expression prefers the longer one. -/
def PrefersLonger (e : Expr) : Prop :=
  ∀ rest, (e.remainders rest).Pairwise fun r r' => r.length < r'.length

/-- Of two matches, the expression prefers the shorter one. -/
def PrefersShorter (e : Expr) : Prop :=
  ∀ rest, (e.remainders rest).Pairwise fun r r' => r'.length < r.length

/-- One character leaves no choice. -/
theorem remainders_set_length_le (rest : List Char) :
    ((Expr.set chars ascii).remainders rest).length ≤ 1 := by
  cases rest with
  | nil => exact Nat.zero_le _
  | cons c rest =>
    rw [Expr.remainders_set_cons]
    split <;> simp

/-- A list of one at most is ordered. -/
theorem pairwise_of_length_le {α : Type} {R : α → α → Prop} {l : List α} (h : l.length ≤ 1) :
    l.Pairwise R := by
  match l, h with
  | [], _ => exact .nil
  | [a], _ => exact List.pairwise_singleton R a

theorem prefersLonger_set : PrefersLonger (.set chars ascii) := fun rest =>
  pairwise_of_length_le (remainders_set_length_le rest)

/-- What turns over a set leave is no longer than the text. -/
theorem length_le_of_mem_upTo {n : Nat}
    (h : r ∈ upTo (Expr.set chars ascii).remainders greedy n rest) :
    r.length ≤ rest.length :=
  upTo_related (R := fun a b => b.length ≤ a.length) (fun _ => Nat.le_refl _)
    (fun _ _ _ h h' => Nat.le_trans h' h)
    (fun rest r hr => (Expr.remainders_suffix _ rest r hr).length_le) greedy n rest r h

/-- Turns over a set are ordered by their number. -/
theorem pairwise_upTo_set (greedy : Bool) (n : Nat) (rest : List Char) :
    (upTo (Expr.set chars ascii).remainders greedy n rest).Pairwise fun r r' =>
      if greedy then r.length < r'.length else r'.length < r.length := by
  induction n generalizing rest with
  | zero => exact List.pairwise_singleton _ _
  | succ n ih =>
    -- One turn leaves one remainder at most, so further turns start there or not at all.
    have hfurther : ((Expr.set chars ascii).remainders rest).flatMap
        (upTo (Expr.set chars ascii).remainders greedy n) = [] ∨ ∃ c left, rest = c :: left ∧
          ((Expr.set chars ascii).remainders rest).flatMap
          (upTo (Expr.set chars ascii).remainders greedy n) =
            upTo (Expr.set chars ascii).remainders greedy n left := by
      cases rest with
      | nil => exact .inl rfl
      | cons c left =>
        rw [Expr.remainders_set_cons]
        split
        · exact .inr ⟨c, left, rfl, List.flatMap_singleton ..⟩
        · exact .inl rfl
    rw [upTo]
    rcases hfurther with hnone | ⟨c, left, rfl, hmore⟩
    · rw [hnone]
      cases greedy <;> exact List.pairwise_singleton _ _
    · rw [hmore]
      have hshorter : ∀ r ∈ upTo (Expr.set chars ascii).remainders greedy n left,
          r.length < (c :: left).length := fun r hr => Nat.lt_succ_of_le (length_le_of_mem_upTo hr)
      cases greedy with
      | true =>
        refine List.pairwise_append.2 ⟨ih left, List.pairwise_singleton _ _, fun r hr r' hr' => ?_⟩
        obtain rfl := List.mem_singleton.1 hr'
        exact hshorter r hr
      | false => exact List.pairwise_cons.2 ⟨hshorter, ih left⟩

theorem prefersLonger_many : PrefersLonger (.loop (.set chars ascii) 0 none true) := by
  intro rest
  rw [remainders_many]
  simpa using pairwise_upTo_set true _ rest

/-- What some characters of a set leave is what any number of them leave after the first. -/
theorem remainders_some_set (chars : CharSet) (ascii greedy : Bool) (rest : List Char) :
    (Expr.loop (.set chars ascii) 1 none greedy).remainders rest = [] ∨ ∃ left,
      (Expr.loop (.set chars ascii) 1 none greedy).remainders rest =
        upTo (Expr.set chars ascii).remainders greedy left.length left := by
  rw [remainders_some, Expr.remainders_cat]
  cases rest with
  | nil => exact .inl rfl
  | cons c left =>
    rw [Expr.remainders_set_cons]
    split
    · exact .inr ⟨left, by rw [List.flatMap_singleton, remainders_many]⟩
    · exact .inl rfl

theorem prefersLonger_some : PrefersLonger (.loop (.set chars ascii) 1 none true) := by
  intro rest
  rcases remainders_some_set chars ascii true rest with hnone | ⟨left, hleft⟩
  · rw [hnone]
    exact .nil
  · rw [hleft]
    simpa using pairwise_upTo_set true _ left

theorem prefersShorter_some : PrefersShorter (.loop (.set chars ascii) 1 none false) := by
  intro rest
  rcases remainders_some_set chars ascii false rest with hnone | ⟨left, hleft⟩
  · rw [hnone]
    exact .nil
  · rw [hleft]
    simpa using pairwise_upTo_set false _ left

/-- Of two matches at one place, what the shorter one leaves starts with a
character of the longer one. -/
theorem exists_cons_of_length_lt {u v : List Char} (h : u ++ r = v ++ r')
    (hlt : r.length < r'.length) :
    ∃ c left, r' = c :: left ∧ c ∈ u := by
  rcases List.append_eq_append_iff.1 h with ⟨more, rfl, rfl⟩ | ⟨more, rfl, rfl⟩
  · rw [List.length_append] at hlt
    omega
  · cases more with
    | nil => exact absurd hlt (Nat.lt_irrefl _)
    | cons c more => exact ⟨c, more ++ r, rfl, by simp⟩

/-- The expression leaves no choice. -/
def Unambiguous (e : Expr) : Prop := ∀ rest, (e.remainders rest).length ≤ 1

theorem unambiguous_set : Unambiguous (.set chars ascii) := remainders_set_length_le

/-- There is one match or none. -/
theorem Unambiguous.remainders_eq (he : Unambiguous e) (rest : List Char) :
    e.remainders rest = [] ∨ ∃ r, e.remainders rest = [r] := by
  have hone := he rest
  rcases hmatches : e.remainders rest with _ | ⟨r, _ | ⟨r', more⟩⟩
  · exact .inl rfl
  · exact .inr ⟨r, rfl⟩
  · rw [hmatches, List.length_cons, List.length_cons] at hone
    omega

theorem Unambiguous.cat (he : Unambiguous e) (hf : Unambiguous f) : Unambiguous (.cat e f) := by
  intro rest
  rw [Expr.remainders_cat]
  rcases he.remainders_eq rest with hnone | ⟨r, hone⟩
  · rw [hnone]
    exact Nat.zero_le 1
  · rw [hone, List.flatMap_singleton]
    exact hf r

/-- All texts of `A` start with a character of `P`. -/
def StartsIn (P : Char → Prop) (A : List Char → Prop) : Prop := ∀ w, A w → ∃ c v, w = c :: v ∧ P c

/-- Where the text starts otherwise, there is no match. -/
theorem Denotes.start_of_mem (h : Denotes e A) (hA : StartsIn P A) {c : Char}
    (hr : r ∈ e.remainders (c :: rest)) : P c := by
  obtain ⟨w, hw, hrest⟩ := (h _ r).1 hr
  obtain ⟨d, v, rfl, hd⟩ := hA w hw
  obtain ⟨rfl, -⟩ := List.cons.inj hrest
  exact hd

namespace PrefersLonger

/-- Where the first part leaves no choice, the second decides. -/
theorem cat_of_unambiguous (he : Unambiguous e) (hf : PrefersLonger f) :
    PrefersLonger (.cat e f) := by
  intro rest
  rw [Expr.remainders_cat]
  rcases he.remainders_eq rest with hnone | ⟨r, hone⟩
  · rw [hnone]
    exact .nil
  · rw [hone, List.flatMap_singleton]
    exact hf r

/-- What follows takes nothing where the match before could have gone on. -/
theorem cat (he : PrefersLonger e) (hA : Denotes e A) (hP : ∀ w, A w → ∀ c ∈ w, P c)
    (hf : PrefersLonger f) (hstop : ∀ c rest, P c → ∀ r ∈ f.remainders (c :: rest), r = c :: rest) :
    PrefersLonger (.cat e f) := by
  intro rest
  refine List.pairwise_flatMap.2 ⟨fun r _ => hf r, (he rest).imp_of_mem ?_⟩
  intro r r' hr hr' hlt x hx y hy
  obtain ⟨u, hu, rfl⟩ := (hA rest r).1 hr
  obtain ⟨v, -, hv⟩ := (hA _ r').1 hr'
  obtain ⟨c, left, rfl, hc⟩ := exists_cons_of_length_lt hv.symm hlt
  rw [hstop c left (hP u hu c hc) y hy]
  exact Nat.lt_of_le_of_lt (f.remainders_suffix r x hx).length_le hlt

/-- All matches of the first alternative are longer than those of the second. -/
theorem alt (he : PrefersLonger e) (hf : PrefersLonger f)
    (hlt : ∀ rest, ∀ r ∈ e.remainders rest, ∀ r' ∈ f.remainders rest, r.length < r'.length) :
    PrefersLonger (.alt e f) :=
  fun rest => List.pairwise_append.2 ⟨he rest, hf rest, hlt rest⟩

/-- Something is longer than nothing. -/
theorem optional (he : PrefersLonger e) (hA : Denotes e A) (hne : ∀ w, A w → w ≠ []) :
    PrefersLonger (.loop e 0 (some 1) true) := by
  intro rest
  have hturns : (Expr.loop e 0 (some 1) true).remainders rest = e.remainders rest ++ [rest] := by
    simp [Expr.remainders_loop_some, times, upTo]
  rw [hturns]
  refine List.pairwise_append.2 ⟨he rest, List.pairwise_singleton _ _, fun r hr r' hr' => ?_⟩
  obtain rfl := List.mem_singleton.1 hr'
  obtain ⟨w, hw, rfl⟩ := (hA _ r).1 hr
  have := List.length_pos_iff.2 (hne w hw)
  rw [List.length_append]
  omega

end PrefersLonger

end Rehearsal.Regex
