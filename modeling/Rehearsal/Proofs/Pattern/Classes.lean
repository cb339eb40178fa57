import Rehearsal.Pattern.Placeholder
import Rehearsal.Proofs.Regex.Language

/-!
# What placeholders capture

The classes of texts that the hints of placeholders stand for, and which of two captures a
placeholder prefers. Both are said without regard to expressions and then shown of the
expressions of the hints.
-/

namespace Rehearsal.Pattern

open Rehearsal.Regex

/-! ## Classes of texts -/

/-- One or more digits of any decimal system. -/
def IsDigits (w : List Char) : Prop := w ≠ [] ∧ AllIn Unicode.decimalDigits w

/-- A sign or nothing. -/
def IsSign (w : List Char) : Prop := w = [] ∨ w = ['+'] ∨ w = ['-']

/-- Digits after an optional sign. -/
def IsSigned : List Char → Prop := Followed IsSign IsDigits

/-- Digits, which may have a point among them or at either end. -/
def IsMantissa (w : List Char) : Prop :=
  (∃ whole fraction, IsDigits whole ∧ AllIn Unicode.decimalDigits fraction ∧
    whole ++ '.' :: fraction = w) ∨
  (∃ fraction, IsDigits fraction ∧ '.' :: fraction = w) ∨ IsDigits w

/-- The letter of an exponent with its power. -/
def IsExponent (w : List Char) : Prop :=
  ∃ c power, (c = 'e' ∨ c = 'E') ∧ IsSigned power ∧ c :: power = w

/-- A number with an optional sign and an optional exponent. -/
def IsNumber : List Char → Prop :=
  Followed IsSign (Followed IsMantissa fun w => w = [] ∨ IsExponent w)

/-- The names of no number and of infinity. -/
def numberNames : List (List Char) :=
  [['n', 'a', 'n'], ['i', 'n', 'f'], ['i', 'n', 'f', 'i', 'n', 'i', 't', 'y']]

/-- A name of no number or of infinity, with letters in either case. -/
def IsNumberName (w : List Char) : Prop := w.map Char.toLower ∈ numberNames

instance : DecidablePred IsNumberName :=
  fun w => inferInstanceAs (Decidable (w.map Char.toLower ∈ numberNames))

/-- The texts that a placeholder may capture. -/
def Hint.Admits : Hint → List Char → Prop
  | .unsigned, w => IsDigits w
  | .signed, w => IsSigned w
  | .decimal, w => IsNumber w ∨ IsNumberName w
  | .words, w => w ≠ [] ∧ '\n' ∉ w

/-- Which of two captures that start at one place a placeholder prefers: the longer one of numbers,
the shorter one of names and of words. -/
def Hint.Prefers : Hint → List Char → List Char → Prop
  | .unsigned, w, w' | .signed, w, w' => w'.length < w.length
  | .decimal, w, w' => if IsNumberName w then w.length < w'.length else w'.length < w.length
  | .words, w, w' => w.length < w'.length

/-! ## Sets of characters -/

/-- A small letter is made of itself and of the capital 32 places before it. -/
theorem toLower_eq_iff {c d : Char} (hc : c.isLower = true) :
    d.toLower = c ↔ d.toNat = c.toNat - 32 ∨ d.toNat = c.toNat := by
  have hbounds : 97 ≤ c.toNat ∧ c.toNat ≤ 122 := by
    delta Char.isLower at hc
    simpa [UInt32.le_iff_toNat_le] using hc
  rw [← Char.toNat_inj]
  delta Char.toLower
  split
  · next h =>
    have hd : 65 ≤ d.toNat ∧ d.toNat ≤ 90 := by simpa [UInt32.le_iff_toNat_le] using h
    have hadd : (d.val + ('a'.val - 'A'.val)).toNat = d.toNat + 32 := by
      rw [UInt32.toNat_add]
      simp
      omega
    change (d.val + ('a'.val - 'A'.val)).toNat = c.toNat ↔ _
    omega
  · next h =>
    have hd : ¬ (65 ≤ d.toNat ∧ d.toNat ≤ 90) := by simpa [UInt32.le_iff_toNat_le] using h
    omega

/-- The letters that numbers are written with. -/
def numberLetters : List Char := ['e', 'n', 'a', 'i', 'f', 't', 'y']

/-- The foldings of or to ASCII characters: those of the capitals, of the long s and
of the Kelvin sign. -/
def asciiFoldings : List (Nat × Nat) :=
  (List.range 26).map (fun i => (0x41 + i, 0x61 + i)) ++ [(0x17F, 0x73), (0x212A, 0x6B)]

theorem foldings_filter_ascii :
    Unicode.foldings.filter (fun x => decide (x.1 < 128) || decide (x.2 < 128)) =
      asciiFoldings := by
  decide +kernel

/-- Elements that a fold passes over may be left out. -/
theorem foldl_ite_filter {α β : Type} {p q : α → Bool} (h : ∀ x, p x = true → q x = true)
    (f : β → α → β) (l : List α) (b : β) :
    l.foldl (fun u x => if p x then f u x else u) b =
      (l.filter q).foldl (fun u x => if p x then f u x else u) b := by
  have hfilter : (l.filter q).filter p = l.filter p := by
    rw [List.filter_filter]
    refine List.filter_congr fun x _ => ?_
    cases hp : p x with
    | false => rfl
    | true => rw [h x hp, Bool.and_self]
  rw [← List.foldl_filter, ← List.foldl_filter, hfilter]

/-- If what the members of a set fold to is in the set, it is closed by what
folds to its members. -/
theorem closeUnderCase_of_folded {s : CharSet}
    (h : Unicode.foldings.foldl (fun u x => if s.hasCode x.1 then u.insert x.2 x.2 else u) s = s) :
    Unicode.closeUnderCase s =
      Unicode.foldings.foldl (fun u x => if s.hasCode x.2 then u.insert x.1 x.1 else u) s := by
  let folded := Unicode.foldings.foldl (fun u x => if s.hasCode x.1 then u.insert x.2 x.2 else u) s
  change Unicode.foldings.foldl
    (fun u x => if folded.hasCode x.2 then u.insert x.1 x.1 else u) folded = _
  rw [show folded = s from h]

/-- Such a letter has two cases and nothing else. -/
theorem closeUnderCase_letter : ∀ c ∈ numberLetters,
    Unicode.closeUnderCase (.singleton c) =
      ⟨[(c.toNat - 32, c.toNat - 32), (c.toNat, c.toNat)]⟩ := by
  have hfolded : ∀ c ∈ numberLetters, asciiFoldings.foldl
      (fun (u : CharSet) x => if (CharSet.singleton c).hasCode x.1 then u.insert x.2 x.2 else u)
      (.singleton c) =
      .singleton c := by
    simp only [numberLetters, List.forall_mem_cons, List.not_mem_nil, false_imp_iff,
      implies_true, and_true]
    decide
  have hclosed : ∀ c ∈ numberLetters, asciiFoldings.foldl
      (fun (u : CharSet) x => if (CharSet.singleton c).hasCode x.2 then u.insert x.1 x.1 else u)
      (.singleton c) =
      ⟨[(c.toNat - 32, c.toNat - 32), (c.toNat, c.toNat)]⟩ := by
    simp only [numberLetters, List.forall_mem_cons, List.not_mem_nil, false_imp_iff,
      implies_true, and_true]
    decide
  intro c hc
  have hcode : ∀ code, (CharSet.singleton c).hasCode code = true → code < 128 := by
    have hall : numberLetters.all (·.toNat < 128) = true := by decide
    have hsmall : c.toNat < 128 := by simpa using List.all_eq_true.1 hall c hc
    intro code h
    simp only [CharSet.hasCode, CharSet.singleton, CharSet.range, List.any_cons, List.any_nil,
      Bool.or_false, Bool.and_eq_true, decide_eq_true_eq] at h
    omega
  -- what folds to an ASCII letter, or is one and folds, is all that matters of the table
  have hsource : ∀ x : Nat × Nat, (CharSet.singleton c).hasCode x.1 = true →
      (decide (x.1 < 128) || decide (x.2 < 128)) = true := fun x h => by simp [hcode x.1 h]
  have himage : ∀ x : Nat × Nat, (CharSet.singleton c).hasCode x.2 = true →
      (decide (x.1 < 128) || decide (x.2 < 128)) = true := fun x h => by simp [hcode x.2 h]
  rw [closeUnderCase_of_folded]
  · rw [foldl_ite_filter himage, foldings_filter_ascii]
    exact hclosed c hc
  · rw [foldl_ite_filter hsource, foldings_filter_ascii]
    exact hfolded c hc

/-- Such a letter is matched in either case. -/
theorem contains_letter {c d : Char} (hc : c ∈ numberLetters) :
    (Unicode.closeUnderCase (.singleton c)).contains d = true ↔ d.toLower = c := by
  have hlower : c.isLower = true := by
    have hall : numberLetters.all Char.isLower = true := by decide
    exact List.all_eq_true.1 hall c hc
  rw [closeUnderCase_letter c hc, toLower_eq_iff hlower, CharSet.contains, CharSet.hasCode]
  simp
  omega

/-- What else numbers are written with are no digits. -/
theorem contains_decimalDigits_eq_false : ∀ c ∈ ['.', '+', '-', 'e', 'E', 'n', 'i', 'N', 'I'],
    Unicode.decimalDigits.contains c = false := by
  simp only [List.forall_mem_cons, List.not_mem_nil, false_imp_iff, implies_true, and_true]
  decide +kernel

/-- The signs. -/
theorem contains_signs {c : Char} :
    (CharSet.ofRuns [(0x2B, 0x2B, 1), (0x2D, 0x2D, 1)]).contains c = true ↔ c = '+' ∨ c = '-' := by
  have hranges : CharSet.ofRuns [(0x2B, 0x2B, 1), (0x2D, 0x2D, 1)] =
      ⟨[(0x2B, 0x2B), (0x2D, 0x2D)]⟩ := by decide
  rw [hranges, ← Char.toNat_inj, ← Char.toNat_inj, CharSet.contains, CharSet.hasCode]
  simp
  omega

/-- The only member of a set of one. -/
theorem contains_singleton {c d : Char} : (CharSet.singleton d).contains c = true ↔ c = d := by
  rw [← Char.toNat_inj, CharSet.contains, CharSet.hasCode, CharSet.singleton, CharSet.range]
  simp
  omega

/-- Words go on to the end of the line. -/
theorem contains_not_newline {c : Char} :
    (CharSet.singleton '\n').complement.contains c = true ↔ c ≠ '\n' := by
  have hranges : (CharSet.singleton '\n').complement = ⟨[(0, 9), (11, CharSet.lastCode)]⟩ := by
    decide
  have hbound : c.toNat ≤ CharSet.lastCode := by
    rcases c.valid with h | ⟨-, h⟩
    all_goals
      change c.toNat < _ at h
      simp only [CharSet.lastCode]
      omega
  rw [hranges, ne_eq, ← Char.toNat_inj, CharSet.contains, CharSet.hasCode]
  simp
  omega

/-! ## Integers and words -/

theorem denotes_sign : Denotes signExpr IsSign :=
  Denotes.set.optional.congr fun w => by
    simp only [IsSign, contains_signs]
    constructor
    · rintro (rfl | ⟨c, rfl | rfl, rfl⟩) <;> simp
    · rintro (rfl | rfl | rfl) <;> simp

theorem prefersLonger_sign : PrefersLonger signExpr :=
  prefersLonger_set.optional Denotes.set fun _ ⟨c, _, hw⟩ => hw ▸ List.cons_ne_nil c []

theorem denotes_digits : Denotes digitsExpr IsDigits := Denotes.some _

theorem prefersLonger_digits : PrefersLonger digitsExpr := prefersLonger_some

/-- Signs consist of signs. -/
theorem IsSign.eq_or {w : List Char} (h : IsSign w) : ∀ c ∈ w, c = '+' ∨ c = '-' := by
  rcases h with rfl | rfl | rfl <;> simp

/-- Digits start with one. -/
theorem isDigits_start : StartsIn (fun c => Unicode.decimalDigits.contains c = true) IsDigits := by
  rintro w ⟨hne, hall⟩
  obtain ⟨c, v, rfl⟩ := List.exists_cons_of_ne_nil hne
  exact ⟨c, v, rfl, hall c List.mem_cons_self⟩

/-- A digit or a point is none of the signs and letters that numbers are written with. -/
theorem not_mem_of_digit_or_point {c : Char}
    (h : Unicode.decimalDigits.contains c = true ∨ c = '.') :
    c ∉ ['+', '-', 'e', 'E', 'n', 'i', 'N', 'I'] := by
  intro hc
  rcases h with h | rfl
  · rw [contains_decimalDigits_eq_false c (List.mem_cons_of_mem _ hc)] at h
    cases h
  · revert hc
    decide

/-- A sign is neither a digit nor a point. -/
theorem ne_sign {c : Char} (h : Unicode.decimalDigits.contains c = true ∨ c = '.') :
    ¬ (c = '+' ∨ c = '-') := by
  intro hc
  exact not_mem_of_digit_or_point h (by rcases hc with rfl | rfl <;> simp)

/-- An integer with a sign. -/
def signedExpr : Expr := .sequence [signExpr, digitsExpr]

theorem denotes_signed : Denotes signedExpr IsSigned := denotes_sign.cat denotes_digits

theorem prefersLonger_signed : PrefersLonger signedExpr :=
  prefersLonger_sign.cat denotes_sign (fun _ h => h.eq_or) prefersLonger_digits fun _ _ hc _ hr =>
    absurd hc (ne_sign (.inl (denotes_digits.start_of_mem isDigits_start hr)))

/-! ## Numbers -/

/-- A point. -/
def pointExpr : Expr := .set (.singleton '.') false

/-- A number without sign and exponent. -/
def mantissaExpr : Expr := .choice
  [.sequence [digitsExpr, pointExpr, .loop digitExpr 0 none true],
    .sequence [pointExpr, digitsExpr], digitsExpr]

/-- An exponent. -/
def exponentExpr : Expr := .cat (.set (Unicode.closeUnderCase (.singleton 'e')) false) signedExpr

/-- A number. -/
def numberExpr : Expr := .sequence [signExpr, mantissaExpr, .loop exponentExpr 0 (some 1) true]

theorem denotes_point : Denotes pointExpr (· = ['.']) :=
  Denotes.set.congr fun w => by simp [contains_singleton]

theorem not_digit_point : Unicode.decimalDigits.contains '.' = false :=
  contains_decimalDigits_eq_false _ (by simp)

theorem denotes_mantissa : Denotes mantissaExpr IsMantissa := by
  refine ((denotes_digits.cat (denotes_point.cat Denotes.many)).alt
    ((denotes_point.cat denotes_digits).alt denotes_digits)).congr fun w => ?_
  simp [IsMantissa, Followed]

/-- Mantissas consist of digits and points. -/
theorem IsMantissa.eq_or {w : List Char} (h : IsMantissa w) :
    ∀ c ∈ w, Unicode.decimalDigits.contains c = true ∨ c = '.' := by
  rcases h with ⟨whole, fraction, hwhole, hfraction, rfl⟩ | ⟨fraction, hfraction, rfl⟩ | hdigits
  · intro c hc
    rcases List.mem_append.1 hc with hc | hc
    · exact .inl (hwhole.2 c hc)
    · exact (List.mem_cons.1 hc).elim .inr fun hc => .inl (hfraction c hc)
  · exact fun c hc => (List.mem_cons.1 hc).elim .inr fun hc => .inl (hfraction.2 c hc)
  · exact fun c hc => .inl (hdigits.2 c hc)

/-- Mantissas are not empty. -/
theorem isMantissa_start :
    StartsIn (fun c => Unicode.decimalDigits.contains c = true ∨ c = '.') IsMantissa := by
  intro w h
  have hne : w ≠ [] := by
    rcases h with ⟨whole, fraction, -, -, rfl⟩ | ⟨fraction, -, rfl⟩ | hdigits
    · simp
    · exact List.cons_ne_nil _ _
    · exact hdigits.1
  obtain ⟨c, v, rfl⟩ := List.exists_cons_of_ne_nil hne
  exact ⟨c, v, rfl, h.eq_or c List.mem_cons_self⟩

/-- What is before the first point of a text is longer than any number of digits at its start. -/
theorem length_le_of_digits {whole digits r r' : List Char}
    (hdigits : AllIn Unicode.decimalDigits digits) (h : digits ++ r = whole ++ '.' :: r') :
    digits.length ≤ whole.length := by
  by_contra hlt
  have hpoint : '.' ∈ digits := by
    rcases List.append_eq_append_iff.1 h with ⟨more, rfl, -⟩ | ⟨more, rfl, hmore⟩
    · rw [List.length_append] at hlt
      omega
    · cases more with
      | nil => simp at hlt
      | cons c more =>
        obtain ⟨rfl, -⟩ := List.cons.inj hmore
        simp
  have := hdigits _ hpoint
  rw [not_digit_point] at this
  cases this

theorem prefersLonger_mantissa : PrefersLonger mantissaExpr := by
  have hpoint : Unambiguous pointExpr := unambiguous_set
  have hfraction : Denotes (.cat pointExpr (.loop digitExpr 0 none true))
      (Followed (· = ['.']) (AllIn Unicode.decimalDigits)) := denotes_point.cat Denotes.many
  have hstart : StartsIn (· = '.') (Followed (· = ['.']) (AllIn Unicode.decimalDigits)) := by
    rintro _ ⟨_, v, rfl, -, rfl⟩
    exact ⟨'.', v, rfl, rfl⟩
  have hfirst : PrefersLonger (.cat digitsExpr (.cat pointExpr (.loop digitExpr 0 none true))) := by
    refine prefersLonger_digits.cat denotes_digits (fun _ h => h.2)
      (.cat_of_unambiguous hpoint prefersLonger_many) fun c rest hc r hr => ?_
    rw [hfraction.start_of_mem hstart hr, not_digit_point] at hc
    cases hc
  have hsecond : PrefersLonger (.cat pointExpr digitsExpr) :=
    .cat_of_unambiguous hpoint prefersLonger_digits
  -- Only one of the first two can match, and what the third matches is before the point.
  refine hfirst.alt (hsecond.alt prefersLonger_digits ?_) ?_
  · intro rest r hr r' hr'
    obtain ⟨_, ⟨_, v, rfl, -, rfl⟩, rfl⟩ := ((denotes_point.cat denotes_digits) _ r).1 hr
    have := denotes_digits.start_of_mem isDigits_start hr'
    rw [not_digit_point] at this
    cases this
  · intro rest r hr r' hr'
    obtain ⟨_, ⟨whole, _, hwhole, ⟨_, v, rfl, hv, rfl⟩, rfl⟩, rfl⟩ :=
      ((denotes_digits.cat hfraction) _ r).1 hr
    rcases List.mem_append.1 hr' with hr' | hr'
    · obtain ⟨c, more, rfl, hc⟩ := isDigits_start whole hwhole
      obtain ⟨_, ⟨_, v', rfl, -, rfl⟩, h⟩ := ((denotes_point.cat denotes_digits) _ r').1 hr'
      obtain ⟨rfl, -⟩ := List.cons.inj h
      rw [not_digit_point] at hc
      cases hc
    · obtain ⟨digits, hdigits, h⟩ := (denotes_digits _ r').1 hr'
      have hle := length_le_of_digits hdigits.2 (h.trans (by simp : _ = whole ++ '.' :: (v ++ r)))
      have hlength := congrArg List.length h
      simp only [List.length_append, List.length_cons] at hlength
      omega

/-- The letter of an exponent. -/
theorem denotes_exponentLetter :
    Denotes (.set (Unicode.closeUnderCase (.singleton 'e')) false) fun w => w = ['e'] ∨
    w = ['E'] := by
  refine Denotes.set.congr fun w => ?_
  have hletter : ∀ c : Char, (Unicode.closeUnderCase (.singleton 'e')).contains c = true ↔
      c = 'e' ∨ c = 'E' := by
    intro c
    rw [contains_letter (by simp [numberLetters]), toLower_eq_iff rfl, ← Char.toNat_inj,
      ← Char.toNat_inj]
    exact or_comm
  simp only [hletter]
  constructor
  · rintro ⟨c, rfl | rfl, rfl⟩ <;> simp
  · rintro (rfl | rfl) <;> simp

theorem denotes_exponent : Denotes exponentExpr IsExponent :=
  (denotes_exponentLetter.cat denotes_signed).congr fun w => by
    constructor
    · rintro ⟨_, power, rfl | rfl, hpower, rfl⟩
      · exact ⟨'e', power, .inl rfl, hpower, rfl⟩
      · exact ⟨'E', power, .inr rfl, hpower, rfl⟩
    · rintro ⟨c, power, rfl | rfl, hpower, rfl⟩
      · exact ⟨_, power, .inl rfl, hpower, rfl⟩
      · exact ⟨_, power, .inr rfl, hpower, rfl⟩

/-- Exponents start with their letter. -/
theorem isExponent_start : StartsIn (fun c => c = 'e' ∨ c = 'E') IsExponent := by
  rintro _ ⟨c, power, hc, -, rfl⟩
  exact ⟨c, power, rfl, hc⟩

theorem prefersLonger_exponent : PrefersLonger exponentExpr :=
  .cat_of_unambiguous unambiguous_set prefersLonger_signed

theorem denotes_number : Denotes numberExpr IsNumber :=
  denotes_sign.cat (denotes_mantissa.cat denotes_exponent.optional)

theorem prefersLonger_number : PrefersLonger numberExpr := by
  have hoptional : PrefersLonger (.loop exponentExpr 0 (some 1) true) :=
    prefersLonger_exponent.optional denotes_exponent fun w hw => by
      obtain ⟨c, v, rfl, -⟩ := isExponent_start w hw
      exact List.cons_ne_nil c v
  have hunsigned : PrefersLonger (.cat mantissaExpr (.loop exponentExpr 0 (some 1) true)) := by
    refine prefersLonger_mantissa.cat denotes_mantissa (fun _ h => h.eq_or) hoptional
      fun c rest hc r hr => ?_
    -- An exponent starts neither with a digit nor with a point.
    obtain ⟨w, hw, hrest⟩ := (denotes_exponent.optional _ r).1 hr
    rcases hw with rfl | hw
    · exact hrest
    · obtain ⟨d, v, rfl, hd⟩ := isExponent_start w hw
      obtain ⟨rfl, -⟩ := List.cons.inj hrest
      exact absurd (by rcases hd with rfl | rfl <;> simp) (not_mem_of_digit_or_point hc)
  refine prefersLonger_sign.cat denotes_sign (fun _ h => h.eq_or) hunsigned fun c rest hc r hr => ?_
  have hstart : StartsIn (fun c => Unicode.decimalDigits.contains c = true ∨ c = '.')
      (Followed IsMantissa fun w => w = [] ∨ IsExponent w) := by
    rintro _ ⟨u, v, hu, -, rfl⟩
    obtain ⟨c, u, rfl, hc⟩ := isMantissa_start u hu
    exact ⟨c, u ++ v, rfl, hc⟩
  exact absurd hc (ne_sign
    ((denotes_mantissa.cat denotes_exponent.optional).start_of_mem hstart hr))

/-! ## Names -/

/-- A letter that numbers are written with, in either case. -/
def letterExpr (c : Char) : Expr := .set (Unicode.closeUnderCase (.singleton c)) false

theorem denotes_letter {c : Char} (hc : c ∈ numberLetters) :
    Denotes (letterExpr c) fun w => w.map Char.toLower = [c] :=
  Denotes.set.congr fun w => by
    simp only [contains_letter hc]
    constructor
    · rintro ⟨d, hd, rfl⟩
      rw [List.map_singleton, hd]
    · intro hw
      obtain ⟨d, rfl, hd⟩ := List.map_eq_singleton_iff.1 hw
      exact ⟨d, hd, rfl⟩

/-- A word of such letters is matched in any case and leaves no choice. -/
theorem denotes_word (c : Char) (rest : List Char) (hall : ∀ d ∈ c :: rest, d ∈ numberLetters) :
    Denotes (.sequence ((c :: rest).map letterExpr)) (fun w => w.map Char.toLower = c :: rest) ∧
    Unambiguous (.sequence ((c :: rest).map letterExpr)) := by
  induction rest generalizing c with
  | nil => exact ⟨denotes_letter (hall c (by simp)), unambiguous_set⟩
  | cons d rest ih =>
    obtain ⟨hc, hrest⟩ := List.forall_mem_cons.1 hall
    obtain ⟨hdenotes, hunambiguous⟩ := ih d hrest
    refine ⟨((denotes_letter hc).cat hdenotes).congr fun w => ?_, .cat unambiguous_set hunambiguous⟩
    constructor
    · rintro ⟨u, v, hu, hv, rfl⟩
      rw [List.map_append, hu, hv, List.singleton_append]
    · intro hw
      obtain ⟨e, v, rfl, he, hv⟩ := List.map_eq_cons_iff.1 hw
      exact ⟨[e], v, congrArg (fun d => [d]) he, hv, rfl⟩

theorem denotes_nan : Denotes (wordExpr "nan") (fun w => w.map Char.toLower = ['n', 'a', 'n']) ∧
    Unambiguous (wordExpr "nan") := denotes_word 'n' ['a', 'n'] (by simp [numberLetters])

theorem denotes_inf : Denotes (wordExpr "inf") (fun w => w.map Char.toLower = ['i', 'n', 'f']) ∧
    Unambiguous (wordExpr "inf") := denotes_word 'i' ['n', 'f'] (by simp [numberLetters])

theorem denotes_infinity : Denotes (wordExpr "infinity") (fun w =>
      w.map Char.toLower = ['i', 'n', 'f', 'i', 'n', 'i', 't', 'y']) ∧
        Unambiguous (wordExpr "infinity") :=
  denotes_word 'i' ['n', 'f', 'i', 'n', 'i', 't', 'y'] (by simp [numberLetters])

/-- All the names. -/
def namesExpr : Expr := .alt (wordExpr "nan") (.alt (wordExpr "inf") (wordExpr "infinity"))

theorem denotes_names : Denotes namesExpr IsNumberName :=
  (denotes_nan.1.alt (denotes_inf.1.alt denotes_infinity.1)).congr fun w => by
    simp [IsNumberName, numberNames]

theorem denotes_decimal : Denotes decimalExpr fun w => IsNumber w ∨ IsNumberName w :=
  denotes_number.alt denotes_names

/-- Numbers start with a sign, a digit or a point. -/
theorem isNumber_start :
    StartsIn (fun c => (c = '+' ∨ c = '-') ∨ Unicode.decimalDigits.contains c = true ∨ c = '.')
    IsNumber := by
  rintro _ ⟨sign, _, hsign, ⟨mantissa, exponent, hmantissa, -, rfl⟩, rfl⟩
  cases sign with
  | nil =>
    obtain ⟨c, v, rfl, hc⟩ := isMantissa_start mantissa hmantissa
    exact ⟨c, v ++ exponent, rfl, .inr hc⟩
  | cons c sign =>
    exact ⟨c, sign ++ (mantissa ++ exponent), rfl, .inl (hsign.eq_or c List.mem_cons_self)⟩

/-- Names start with one of two letters. -/
theorem isNumberName_start : StartsIn (fun c => c ∈ ['n', 'i', 'N', 'I']) IsNumberName := by
  intro w hw
  have hstart : ∀ c : Char, c.toLower = 'n' ∨ c.toLower = 'i' → c ∈ ['n', 'i', 'N', 'I'] := by
    intro c
    rw [toLower_eq_iff rfl, toLower_eq_iff rfl]
    simp only [List.mem_cons, List.not_mem_nil, or_false, ← Char.toNat_inj]
    have h₁ : 'n'.toNat = 110 ∧ 'N'.toNat = 78 ∧ 'i'.toNat = 105 ∧ 'I'.toNat = 73 := by decide
    omega
  have hmem : w.map Char.toLower = ['n', 'a', 'n'] ∨ w.map Char.toLower = ['i', 'n', 'f'] ∨
      w.map Char.toLower = ['i', 'n', 'f', 'i', 'n', 'i', 't', 'y'] := by
        simpa [IsNumberName, numberNames] using hw
  rcases hmem with h | h | h
  all_goals
    obtain ⟨c, v, rfl, hc, -⟩ := List.map_eq_cons_iff.1 h
    exact ⟨c, v, rfl, hstart c (by simp [hc])⟩

/-- No text starts both as a number and as a name. -/
theorem not_number_and_name {c : Char}
    (h : (c = '+' ∨ c = '-') ∨ Unicode.decimalDigits.contains c = true ∨ c = '.') :
    c ∉ ['n', 'i', 'N', 'I'] := by
  rcases h with (rfl | rfl) | h
  · decide
  · decide
  · exact fun hc => not_mem_of_digit_or_point h (List.mem_append_right ['+', '-', 'e', 'E'] hc)

/-! ## Hints -/

/-- The expression of a hint matches what the hint admits. -/
theorem Hint.denotes (hint : Hint) : Denotes hint.expr hint.Admits := by
  cases hint with
  | unsigned => exact denotes_digits
  | signed => exact denotes_signed
  | decimal => exact denotes_decimal
  | words =>
    refine (Denotes.some (CharSet.singleton '\n').complement).congr fun w => ?_
    simp only [AllIn, contains_not_newline, Hint.Admits]
    exact and_congr_right fun _ => ⟨fun h hc => h _ hc rfl, fun h c hc heq => h (heq ▸ hc)⟩

/-- The expression of a hint has neither groups nor assertions, and repeats without bound only
what takes something. -/
theorem Hint.plain_and_productive (hint : Hint) :
    hint.expr.plain = true ∧ hint.expr.productive = true := by
  cases hint <;> exact ⟨rfl, rfl⟩

/-- Where less is left, more was matched. -/
theorem length_lt_of_remainders {rest r r' w w' : List Char} (hlt : r.length < r'.length)
    (hw : w ++ r = rest) (hw' : w' ++ r' = rest) : w'.length < w.length := by
  have hlength := congrArg List.length (hw.trans hw'.symm)
  rw [List.length_append, List.length_append] at hlength
  omega

/-- At one place there is not both a number and a name. -/
theorem not_mem_names_of_mem_number {rest r r' : List Char} (hr : r ∈ numberExpr.remainders rest) :
    r' ∉ namesExpr.remainders rest := by
  intro hr'
  obtain ⟨w, hw, rfl⟩ := (denotes_number rest r).1 hr
  obtain ⟨c, v, rfl, hc⟩ := isNumber_start w hw
  exact not_number_and_name hc (denotes_names.start_of_mem isNumberName_start hr')

/-- Of two names, the shorter one is preferred. -/
theorem prefersShorter_names : PrefersShorter namesExpr := by
  intro rest
  have hlength : ∀ {e : Expr} {name : List Char}, Denotes e (fun w => w.map Char.toLower = name) →
      ∀ r ∈ e.remainders rest, ∃ w, w ++ r = rest ∧ w.map Char.toLower = name := by
    intro e name h r hr
    obtain ⟨w, hw, hrest⟩ := (h rest r).1 hr
    exact ⟨w, hrest, hw⟩
  refine List.pairwise_append.2 ⟨pairwise_of_length_le (denotes_nan.2 rest), ?_, ?_⟩
  · refine List.pairwise_append.2 ⟨pairwise_of_length_le (denotes_inf.2 rest),
      pairwise_of_length_le (denotes_infinity.2 rest), fun r hr r' hr' => ?_⟩
    obtain ⟨w, hw, hname⟩ := hlength denotes_inf.1 r hr
    obtain ⟨w', hw', hname'⟩ := hlength denotes_infinity.1 r' hr'
    have hthree : w.length = 3 := by rw [← List.length_map Char.toLower, hname]; rfl
    have height : w'.length = 8 := by rw [← List.length_map Char.toLower, hname']; rfl
    have hsame := congrArg List.length (hw.trans hw'.symm)
    rw [List.length_append, List.length_append] at hsame
    omega
  · intro r hr r' hr'
    -- The first letters differ.
    obtain ⟨w, rfl, hname⟩ := hlength denotes_nan.1 r hr
    obtain ⟨c, v, rfl, hc, -⟩ := List.map_eq_cons_iff.1 hname
    have hother : ∃ w' left, w' ++ left = c :: (v ++ r) ∧
        ∃ more, w'.map Char.toLower = 'i' :: more := by
      rcases List.mem_append.1 hr' with hr' | hr'
      · obtain ⟨w', hw', hname'⟩ := hlength denotes_inf.1 r' hr'
        exact ⟨w', r', hw', _, hname'⟩
      · obtain ⟨w', hw', hname'⟩ := hlength denotes_infinity.1 r' hr'
        exact ⟨w', r', hw', _, hname'⟩
    obtain ⟨w', left, hw', more, hmore⟩ := hother
    obtain ⟨d, v', rfl, hd, -⟩ := List.map_eq_cons_iff.1 hmore
    obtain ⟨rfl, -⟩ := List.cons.inj hw'
    exact absurd (hc.symm.trans hd) (by decide)

/-- The expression of a hint prefers of two matches what the hint prefers. -/
theorem Hint.prefers (hint : Hint) (rest : List Char) :
    (hint.expr.remainders rest).Pairwise fun r r' =>
      ∀ w w', w ++ r = rest → w' ++ r' = rest → hint.Prefers w w' := by
  cases hint with
  | unsigned => exact (prefersLonger_digits rest).imp fun hlt _ _ => length_lt_of_remainders hlt
  | signed => exact (prefersLonger_signed rest).imp fun hlt _ _ => length_lt_of_remainders hlt
  | words =>
    exact (prefersShorter_some rest).imp fun hlt _ _ hw hw' => length_lt_of_remainders hlt hw' hw
  | decimal =>
    refine List.pairwise_append.2 ⟨?_, ?_, ?_⟩
    · refine (prefersLonger_number rest).imp_of_mem fun {r r'} hr hr' hlt w w' hw hw' => ?_
      have hname : ¬ IsNumberName w := fun hname =>
        not_mem_names_of_mem_number hr ((denotes_names rest r).2 ⟨w, hname, hw⟩)
      rw [Hint.Prefers, if_neg hname]
      exact length_lt_of_remainders hlt hw hw'
    · refine (prefersShorter_names rest).imp_of_mem fun {r r'} hr hr' hlt w w' hw hw' => ?_
      rw [Hint.Prefers, if_pos (denotes_names.admits_of_mem hr hw)]
      exact length_lt_of_remainders hlt hw' hw
    · exact fun r hr r' hr' => absurd hr' (not_mem_names_of_mem_number hr)

end Rehearsal.Pattern
