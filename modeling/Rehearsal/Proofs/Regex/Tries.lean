import Mathlib.Data.Finset.Prod
import Rehearsal.Proofs.Regex.Outcomes

/-!
# Searches without memory

`Tries` is the search of a program as one would define it without pairs visited and fuel: an
alternative is tried after all that the one before it leads to has failed. Where this search comes
to an end, so does the one that remembers, and with the same result. A pair that was visited before
has failed for good, since whether a place fails at a position does not depend on what was recorded;
and a pair is not met again on the way down from it, since that way would never end.
-/

namespace Rehearsal.Regex

/-! ## The search -/

/-- What the search from a place and a spot ends with, on ways of at most the given length: the spot
at which the program accepts, if it does. -/
inductive Tries (code : Code) (text : Array Char) : Nat → Nat → Spot → Option Spot → Prop
  | accept {n place s} : code[place]? = some .accept → Tries code text (n + 1) place s (some s)
  | take {n place s chars next r} : code[place]? = some (.consume chars next) →
      text[s.position]?.any chars.contains = true → Tries code text n next s.next r →
      Tries code text (n + 1) place s r
  | refuse {n place s chars next} : code[place]? = some (.consume chars next) →
      text[s.position]?.any chars.contains = false → Tries code text (n + 1) place s none
  | first {n place s first second t} : code[place]? = some (.split first second) →
      Tries code text n first s (some t) → Tries code text (n + 1) place s (some t)
  | second {n place s first second r} : code[place]? = some (.split first second) →
      Tries code text n first s none → Tries code text n second s r →
      Tries code text (n + 1) place s r
  | mark {n place s slot next r} : code[place]? = some (.mark slot next) →
      Tries code text n next (s.mark slot) r → Tries code text (n + 1) place s r
  | pass {n place s a next r} : code[place]? = some (.check a next) →
      a.holds (charBefore text s.position) text[s.position]? = true → Tries code text n next s r →
      Tries code text (n + 1) place s r
  | fail {n place s a next} : code[place]? = some (.check a next) →
      a.holds (charBefore text s.position) text[s.position]? = false →
      Tries code text (n + 1) place s none

variable {code : Code} {text : Array Char} {n m place : Nat} {s s' : Spot} {r r' : Option Spot}

namespace Tries

/-- Longer ways may be allowed. -/
theorem mono (h : Tries code text n place s r) (hnm : n ≤ m) : Tries code text m place s r := by
  induction h generalizing m with
  | accept hcode =>
    obtain ⟨m, rfl⟩ := Nat.exists_eq_add_of_lt hnm
    exact .accept hcode
  | take hcode hany _ ih =>
    obtain ⟨m, rfl⟩ : ∃ k, m = k + 1 := ⟨m - 1, by omega⟩
    exact .take hcode hany (ih (by omega))
  | refuse hcode hany =>
    obtain ⟨m, rfl⟩ := Nat.exists_eq_add_of_lt hnm
    exact .refuse hcode hany
  | first hcode _ ih =>
    obtain ⟨m, rfl⟩ : ∃ k, m = k + 1 := ⟨m - 1, by omega⟩
    exact .first hcode (ih (by omega))
  | second hcode _ _ ihf ihs =>
    obtain ⟨m, rfl⟩ : ∃ k, m = k + 1 := ⟨m - 1, by omega⟩
    exact .second hcode (ihf (by omega)) (ihs (by omega))
  | mark hcode _ ih =>
    obtain ⟨m, rfl⟩ : ∃ k, m = k + 1 := ⟨m - 1, by omega⟩
    exact .mark hcode (ih (by omega))
  | pass hcode hholds _ ih =>
    obtain ⟨m, rfl⟩ : ∃ k, m = k + 1 := ⟨m - 1, by omega⟩
    exact .pass hcode hholds (ih (by omega))
  | fail hcode hholds =>
    obtain ⟨m, rfl⟩ := Nat.exists_eq_add_of_lt hnm
    exact .fail hcode hholds

/-- Whether the search succeeds does not depend on what was recorded. -/
theorem of_position (h : Tries code text n place s r) (s' : Spot) (hs : s'.position = s.position) :
    ∃ r', Tries code text n place s' r' ∧ r'.isSome = r.isSome := by
  induction h generalizing s' with
  | accept hcode => exact ⟨_, .accept hcode, rfl⟩
  | take hcode hany _ ih =>
    obtain ⟨r', hr', hsome⟩ := ih s'.next (by simp [hs])
    exact ⟨r', .take hcode (by rwa [hs]) hr', hsome⟩
  | refuse hcode hany => exact ⟨none, .refuse hcode (by rwa [hs]), rfl⟩
  | first hcode _ ih =>
    obtain ⟨r', hr', hsome⟩ := ih s' hs
    obtain ⟨t, rfl⟩ := Option.isSome_iff_exists.1 hsome
    exact ⟨some t, .first hcode hr', rfl⟩
  | second hcode _ _ ihf ihs =>
    obtain ⟨rf, hrf, hnone⟩ := ihf s' hs
    obtain rfl : rf = none := by simpa using hnone
    obtain ⟨r', hr', hsome⟩ := ihs s' hs
    exact ⟨r', .second hcode hrf hr', hsome⟩
  | @mark _ _ _ slot _ _ hcode _ ih =>
    obtain ⟨r', hr', hsome⟩ := ih (s'.mark slot) hs
    exact ⟨r', .mark hcode hr', hsome⟩
  | pass hcode hholds _ ih =>
    obtain ⟨r', hr', hsome⟩ := ih s' hs
    exact ⟨r', .pass hcode (by rwa [hs]) hr', hsome⟩
  | fail hcode hholds => exact ⟨none, .fail hcode (by rwa [hs]), rfl⟩

/-- The search has one end. -/
theorem unique (h : Tries code text n place s r) (h' : Tries code text m place s r') : r = r' := by
  -- The instruction at the place decides the rule, and for a split the end of
  -- its first branch does.
  induction h generalizing m r' with
  | accept hcode => cases h' <;> simp_all
  | take hcode hany _ ih =>
    cases h' with
    | take hcode' hany' h' =>
      obtain ⟨rfl, rfl⟩ := Instruction.consume.inj (Option.some.inj (hcode.symm.trans hcode'))
      exact ih h'
    | _ => simp_all
  | refuse hcode hany => cases h' <;> simp_all
  | first hcode _ ih =>
    cases h' with
    | first hcode' h' =>
      obtain ⟨rfl, rfl⟩ := Instruction.split.inj (Option.some.inj (hcode.symm.trans hcode'))
      exact ih h'
    | second hcode' hfirst _ =>
      obtain ⟨rfl, rfl⟩ := Instruction.split.inj (Option.some.inj (hcode.symm.trans hcode'))
      cases ih hfirst
    | _ => simp_all
  | second hcode _ _ ihf ihs =>
    cases h' with
    | first hcode' h' =>
      obtain ⟨rfl, rfl⟩ := Instruction.split.inj (Option.some.inj (hcode.symm.trans hcode'))
      cases ihf h'
    | second hcode' _ hsecond =>
      obtain ⟨rfl, rfl⟩ := Instruction.split.inj (Option.some.inj (hcode.symm.trans hcode'))
      exact ihs hsecond
    | _ => simp_all
  | mark hcode _ ih =>
    cases h' with
    | mark hcode' h' =>
      obtain ⟨rfl, rfl⟩ := Instruction.mark.inj (Option.some.inj (hcode.symm.trans hcode'))
      exact ih h'
    | _ => simp_all
  | pass hcode hholds _ ih =>
    cases h' with
    | pass hcode' _ h' =>
      obtain ⟨rfl, rfl⟩ := Instruction.check.inj (Option.some.inj (hcode.symm.trans hcode'))
      exact ih h'
    | _ => simp_all
  | fail hcode hholds => cases h' <;> simp_all

end Tries

/-- From the place at the position, the search fails whatever was recorded before. -/
def Fails (code : Code) (text : Array Char) (pair : Nat × Nat) : Prop :=
  ∀ slots, ∃ n, Tries code text n pair.1 ⟨pair.2, slots⟩ none

/-- From the place at the position, the search does not end on ways of the given length. -/
def Outlasts (code : Code) (text : Array Char) (n : Nat) (pair : Nat × Nat) : Prop :=
  ∀ slots r, ¬ Tries code text n pair.1 ⟨pair.2, slots⟩ r

theorem Tries.fails (h : Tries code text n place s none) : Fails code text (place, s.position) := by
  intro slots
  obtain ⟨r', hr', hnone⟩ := h.of_position ⟨s.position, slots⟩ rfl
  obtain rfl : r' = none := by simpa using hnone
  exact ⟨n, hr'⟩

theorem Outlasts.mono {pair : Nat × Nat} (h : Outlasts code text m pair) (hnm : n ≤ m) :
    Outlasts code text n pair := fun slots r htries => h slots r (htries.mono hnm)

/-! ## Instructions and the places they name -/

/-- The places that an instruction may go on at. -/
def Instruction.targets : Instruction → List Nat
  | .accept => []
  | .consume _ next | .mark _ next | .check _ next => [next]
  | .split first second => [first, second]

/-- Every instruction goes on at an instruction. -/
def Closed (code : Code) : Prop :=
  ∀ (place : Nat) (instruction : Instruction), code[place]? = some instruction →
    ∀ target ∈ instruction.targets, target < code.size

/-! ## The search with memory -/

/-- How many pairs of a place and a position have not been visited. -/
def unvisited (code : Code) (text : Array Char) (visited : Visited) : Nat :=
  ((Finset.range code.size ×ˢ Finset.range (text.size + 1)).filter fun pair => pair ∉ visited).card

/-- Visiting a pair for the first time leaves fewer of them. -/
theorem unvisited_insert_lt {visited : Visited} {position : Nat} (hplace : place < code.size)
    (hposition : position ≤ text.size) (hfresh : (place, position) ∉ visited) :
    unvisited code text (visited.insert (place, position)) < unvisited code text visited := by
  refine Finset.card_lt_card (Finset.ssubset_iff_subset_ne.2 ⟨?_, ?_⟩)
  · intro pair hpair
    rw [Finset.mem_filter, Std.HashSet.mem_insert, not_or] at hpair
    exact Finset.mem_filter.2 ⟨hpair.1, hpair.2.2⟩
  · intro heq
    have hmem : (place, position) ∈ (Finset.range code.size ×ˢ Finset.range (text.size + 1)).filter
        fun pair => pair ∉ visited := by
      simp only [Finset.mem_filter, Finset.mem_product, Finset.mem_range]
      exact ⟨⟨hplace, by omega⟩, hfresh⟩
    rw [← heq, Finset.mem_filter, Std.HashSet.mem_insert] at hmem
    exact hmem.2 (.inl (by simp))

/-- Visiting more leaves no more pairs. -/
theorem unvisited_le {visited visited' : Visited} (h : ∀ pair ∈ visited, pair ∈ visited') :
    unvisited code text visited' ≤ unvisited code text visited := by
  refine Finset.card_le_card fun pair hpair => ?_
  rw [Finset.mem_filter] at hpair ⊢
  exact ⟨hpair.1, fun hmem => hpair.2 (h pair hmem)⟩

/-- What the search with memory is to give where the search without ends with `r`: the same, and if
it fails, only pairs that fail are newly visited. -/
structure Agrees (code : Code) (text : Array Char) (visited : Visited) (r : Option Spot)
    (found : Option (Slots × Nat) × Visited) : Prop where
  /-- The results are the same. -/
  result : found.1 = r.map fun t => (t.slots, t.position)
  /-- No visit is forgotten. -/
  kept : ∀ pair ∈ visited, pair ∈ found.2
  /-- What has been visited in vain fails. -/
  failing : r = none → ∀ pair ∈ found.2, pair ∈ visited ∨ Fails code text pair

/-- What holds once a pair is visited holds of the search that visits it. -/
theorem Agrees.of_insert {visited : Visited} {pair : Nat × Nat}
    {found : Option (Slots × Nat) × Visited} (h : Agrees code text (visited.insert pair) r found)
    (hpair : r = none → Fails code text pair) :
    Agrees code text visited r found := by
  refine ⟨h.result, fun other hother => h.kept other (Std.HashSet.mem_insert.2 (.inr hother)), ?_⟩
  intro hnone other hother
  rcases h.failing hnone other hother with hmem | hfails
  · rcases Std.HashSet.mem_insert.1 hmem with heq | hmem
    · rw [← eq_of_beq heq]
      exact .inr (hpair hnone)
    · exact .inl hmem
  · exact .inr hfails

/-- After a search that succeeds, there is no other. -/
theorem Agrees.orElse_some {visited : Visited} {t : Spot} {found : Option (Slots × Nat) × Visited}
    {next : Visited → Option (Slots × Nat) × Visited} :
    Agrees code text visited (some t) found → Agrees code text visited (some t) (match found with
      | (some found, visited) => (some found, visited)
      | (none, visited) => next visited) := by
  intro h
  obtain ⟨result, tried⟩ := found
  obtain rfl : result = some (t.slots, t.position) := h.result
  exact h

/-- After a search that fails, the next one goes on with what has been visited. -/
theorem Agrees.orElse_none {visited : Visited} {found : Option (Slots × Nat) × Visited}
    {next : Visited → Option (Slots × Nat) × Visited}
    (hnext : ∀ tried : Visited, (∀ pair ∈ visited, pair ∈ tried) →
      (∀ pair ∈ tried, pair ∈ visited ∨ Fails code text pair) →
      Agrees code text tried r (next tried)) :
    Agrees code text visited none found → Agrees code text visited r (match found with
      | (some found, visited) => (some found, visited)
      | (none, visited) => next visited) := by
  intro h
  obtain ⟨result, tried⟩ := found
  obtain rfl : result = none := h.result
  have hsecond := hnext tried h.kept (h.failing rfl)
  refine ⟨hsecond.result, fun pair hpair => hsecond.kept pair (h.kept pair hpair),
    fun hnone pair hpair => ?_⟩
  rcases hsecond.failing hnone pair hpair with htried | hfails
  · exact h.failing rfl pair htried
  · exact .inr hfails

/-- A pair that fails leads nowhere. -/
theorem agrees_none (visited : Visited) : Agrees code text visited none (none, visited) :=
  ⟨rfl, fun _ h => h, fun _ _ h => .inl h⟩

/-- The instruction at a place. -/
theorem getD_of_getElem? {instruction : Instruction} (h : code[place]? = some instruction) :
    code.getD place .accept = instruction := by
  rw [Array.getD_eq_getD_getElem?, h, Option.getD_some]

/-- Where the search without memory ends, the search with memory ends the same way. It may have
visited pairs that fail, and pairs that it has come from: on ways as short as those that are left,
these cannot be searched. -/
theorem follow_agrees (hclosed : Closed code) (h : Tries code text n place s r) {fuel : Nat}
    {visited : Visited} (hplace : place < code.size) (hposition : s.position ≤ text.size)
    (hfuel : unvisited code text visited < fuel)
    (hvisited : ∀ pair ∈ visited, Fails code text pair ∨ Outlasts code text n pair) :
    Agrees code text visited r (follow code text fuel place s.position s.slots visited) := by
  induction n generalizing place s r fuel visited with
  | zero => cases h
  | succ n ih =>
    by_cases hlasts : Outlasts code text n (place, s.position)
    case neg =>
      -- There is a shorter way, for which the claim holds already.
      obtain ⟨slots, r', h'⟩ : ∃ slots r', Tries code text n place ⟨s.position, slots⟩ r' := by
        simpa [Outlasts] using hlasts
      obtain ⟨r'', h'', -⟩ := h'.of_position s rfl
      obtain rfl := h.unique h''
      exact ih h'' hplace hposition hfuel fun pair hpair =>
        (hvisited pair hpair).imp_right fun hlasts =>
        hlasts.mono (Nat.le_succ n)
    obtain ⟨fuel, rfl⟩ : ∃ k, fuel = k + 1 := ⟨fuel - 1, by omega⟩
    rw [follow]
    by_cases hseen : visited.contains (place, s.position) = true
    · rw [if_pos hseen]
      rcases hvisited _ (Std.HashSet.mem_iff_contains.2 hseen) with hfails | hlasts
      · obtain ⟨m, hm⟩ := hfails s.slots
        obtain rfl := h.unique hm
        exact agrees_none visited
      · exact absurd h (hlasts _ _)
    rw [if_neg hseen]
    have hfresh : (place, s.position) ∉ visited :=
      fun hmem => hseen (Std.HashSet.mem_iff_contains.1 hmem)
    have hfewer := unvisited_insert_lt hplace hposition hfresh
    have hvisited' : ∀ pair ∈ visited.insert (place, s.position),
        Fails code text pair ∨ Outlasts code text n pair := by
      intro pair hpair
      rcases Std.HashSet.mem_insert.1 hpair with heq | hpair
      · rw [← eq_of_beq heq]
        exact .inr hlasts
      · exact (hvisited pair hpair).imp_right fun hlasts => hlasts.mono (Nat.le_succ n)
    -- Every way goes on to a target of the instruction, with the pair as visited.
    have hnext : ∀ {instruction target s' r'}, code[place]? = some instruction →
        target ∈ instruction.targets →
        Tries code text n target s' r' → s'.position ≤ text.size →
        Agrees code text (visited.insert (place, s.position)) r'
          (follow code text fuel target s'.position s'.slots
            (visited.insert (place, s.position))) :=
      fun hcode htarget h hposition =>
        ih h (hclosed _ _ hcode _ htarget) hposition (by omega) hvisited'
    refine Agrees.of_insert ?_ fun hnone => (hnone ▸ h).fails
    cases h with
    | accept hcode =>
      rw [getD_of_getElem? hcode]
      exact ⟨rfl, fun _ h => h, nofun⟩
    | take hcode hany h =>
      obtain ⟨c, hc, hcontains⟩ := (Option.any_eq_true _ _).1 hany
      simp only [getD_of_getElem? hcode, hc, hcontains, ↓reduceIte]
      exact hnext hcode (by simp [Instruction.targets]) h (Array.getElem?_eq_some_iff.1 hc).1
    | refuse hcode hany =>
      rw [getD_of_getElem? hcode]
      dsimp only
      split
      · next c hc =>
        rw [if_neg (by simpa [hc] using hany)]
        exact agrees_none _
      · exact agrees_none _
    | first hcode h =>
      rw [getD_of_getElem? hcode]
      exact .orElse_some (hnext hcode (by simp [Instruction.targets]) h hposition)
    | second hcode hf hs =>
      rw [getD_of_getElem? hcode]
      refine .orElse_none (fun tried hkept hfailing => ?_)
        (hnext hcode (by simp [Instruction.targets]) hf hposition)
      refine ih hs (hclosed _ _ hcode _ (by simp [Instruction.targets])) hposition ?_
        fun pair hpair => ?_
      · exact Nat.lt_of_le_of_lt (unvisited_le hkept) (by omega)
      · exact (hfailing pair hpair).elim (hvisited' pair) .inl
    | mark hcode h =>
      rw [getD_of_getElem? hcode]
      exact hnext hcode (by simp [Instruction.targets]) h hposition
    | pass hcode hholds h =>
      simp only [getD_of_getElem? hcode, hholds, ↓reduceIte]
      exact hnext hcode (by simp [Instruction.targets]) h hposition
    | fail hcode hholds =>
      simp only [getD_of_getElem? hcode, hholds, Bool.false_eq_true, ↓reduceIte]
      exact agrees_none _

/-! ## The search of a whole text -/

/-- There are no more pairs than places and positions. -/
theorem unvisited_le_mul (visited : Visited) :
    unvisited code text visited ≤ code.size * (text.size + 1) := by
  refine (Finset.card_filter_le _ _).trans ?_
  rw [Finset.card_product, Finset.card_range, Finset.card_range]

namespace Program

/-- Nothing is recorded when a search starts. -/
def blank (p : Program) : Slots := Array.replicate (2 * p.groups + 2) none

/-- The match that ends at a spot. -/
def matchAt (start : Nat) (t : Spot) : Match := ⟨start, t.position, t.slots⟩

/-- If the searches from all positions end, the program finds what the first of them that
succeeds ends with. -/
theorem search_eq (p : Program) (hclosed : Closed p.code) (hentry : p.entry < p.code.size)
    (results : Nat → Option Spot)
    (h : ∀ start ≤ text.size, ∃ n, Tries p.code text n p.entry ⟨start, p.blank⟩ (results start)) :
    p.search text = (List.range (text.size + 1)).findSome? fun start =>
      (results start).map (matchAt start) := by
  -- From one start to the next, the pairs that have been visited are pairs that fail.
  suffices hfrom : ∀ (count start : Nat) (visited : Visited), start + count = text.size + 1 →
      (∀ pair ∈ visited, Fails p.code text pair) →
      p.searchFrom text (p.code.size * (text.size + 1) + 1) count start visited =
        (List.range' start count).findSome? fun start => (results start).map (matchAt start) by
    rw [List.range_eq_range']
    exact hfrom _ 0 ∅ (Nat.zero_add _) fun pair hpair => absurd hpair Std.HashSet.not_mem_empty
  intro count
  induction count with
  | zero => exact fun _ _ _ _ => rfl
  | succ count ih =>
    intro start visited hcount hvisited
    obtain ⟨n, hn⟩ := h start (by omega)
    have hagrees := follow_agrees hclosed hn hentry (by simp only; omega)
      (Nat.lt_succ_of_le (unvisited_le_mul visited)) fun pair hpair => .inl (hvisited pair hpair)
    rw [searchFrom, List.range'_succ, List.findSome?_cons]
    dsimp only at hagrees
    rw [← blank]
    generalize follow p.code text _ p.entry start p.blank visited = found at hagrees ⊢
    obtain ⟨result, tried⟩ := found
    obtain rfl : result = (results start).map fun t => (t.slots, t.position) := hagrees.result
    cases hresult : results start with
    | some t => rfl
    | none =>
      refine ih (start + 1) tried (by omega) fun pair hpair => ?_
      exact (hagrees.failing hresult pair hpair).elim (hvisited pair) id

end Program

end Rehearsal.Regex
