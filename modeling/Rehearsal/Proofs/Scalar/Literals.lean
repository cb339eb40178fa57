import Rehearsal.Scalar

/-!
# Numbers in texts

What is read of a text that is written like a number with digits from zero to nine: of an integer
its value, unless the type does not go so far, and of a number with a point or an exponent a number
of the format. Nothing is read of a text with a character outside of ASCII.
-/

namespace Rehearsal

variable {c : Char} {text : String} {digits rest : List Char}

/-! ## Integers -/

theorem decimalDigit?_eq_some_iff {value : Nat} :
    decimalDigit? c = some value ↔ c.isDigit = true ∧ c.toNat - '0'.toNat = value := by
  rw [decimalDigit?]
  split <;> simp_all

/-- Digits from zero to nine are ASCII characters. -/
theorem lt_of_isDigit (h : c.isDigit = true) : c.toNat < 128 := by
  have hle : c.toNat ≤ 57 := by
    simp only [Char.isDigit, Bool.and_eq_true, decide_eq_true_eq] at h
    exact UInt32.le_iff_toNat_le.1 h.2
  omega

/-- Digits make a number greater. -/
theorem le_ofDigitChars (value : Nat) (digits : List Char) :
    value ≤ Nat.ofDigitChars 10 digits value := by
  induction digits generalizing value with
  | nil => exact Nat.le_refl _
  | cons c digits ih =>
    rw [Nat.ofDigitChars_cons]
    exact Nat.le_trans (by omega) (ih _)

/-- The number or its opposite. -/
def directed (negative : Bool) (value : Nat) : Int := if negative then -value else value

/-- The integer that digits after an optional sign stand for. -/
def integerValue : List Char → Int
  | '-' :: digits => directed true (Nat.ofDigitChars 10 digits 0)
  | '+' :: digits | digits => directed false (Nat.ofDigitChars 10 digits 0)

/-- Digits stand for their value, after a plus as well. -/
theorem integerValue_append {sign : List Char} (hsign : sign = [] ∨ sign = ['+'])
    (hdigits : ∀ c ∈ digits, c.isDigit = true) :
    integerValue (sign ++ digits) = (Nat.ofDigitChars 10 digits 0 : Nat) := by
  rcases hsign with rfl | rfl
  · rw [List.nil_append, integerValue.eq_def]
    split
    · exact absurd (hdigits _ List.mem_cons_self) (by decide)
    · exact absurd (hdigits _ List.mem_cons_self) (by decide)
    · rfl
  · rfl

namespace IntegerType

/-- The integer if it is one of the type; otherwise on which side it is out of the range. -/
def fit (t : IntegerType) (n : Int) : Except IntegerError Int :=
  if n < t.least then .error .tooSmall else if t.greatest < n then .error .tooLarge else .ok n

/-- Zero is an integer of every type. -/
theorem least_le_zero (t : IntegerType) : t.least ≤ 0 := by
  rw [least]
  split
  · exact Int.neg_nonpos_of_nonneg (Int.natCast_nonneg _)
  · exact Int.le_refl 0

theorem zero_le_greatest (t : IntegerType) : 0 ≤ t.greatest := by
  have hpos := Nat.two_pow_pos (if t.signed then t.width - 1 else t.width)
  change 0 < Nat.pow 2 _ at hpos
  rw [greatest]
  omega

/-- A natural number is one of the type if it is not above the greatest. -/
theorem exists_fit_iff (t : IntegerType) (value : Nat) :
    (∃ n, t.fit value = .ok n) ↔ (value : Int) ≤ t.greatest := by
  have hleast := t.least_le_zero
  rw [fit, if_neg (by omega)]
  split
  · next h => exact iff_of_false nofun (by omega)
  · next h => exact iff_of_true ⟨_, rfl⟩ (by omega)

/-- A number that is out of the range is not brought back by growing. -/
theorem fit_directed_error {t : IntegerType} {negative : Bool} {value value' : Nat}
    {e : IntegerError} (hle : value ≤ value') (h : t.fit (directed negative value) = .error e) :
    t.fit (directed negative value') = .error e := by
  have hleast := t.least_le_zero
  have hgreatest := t.zero_le_greatest
  cases negative <;> simp only [fit, directed, if_true, Bool.false_eq_true,
    if_false] at h ⊢ <;> grind

/-- A digit is read as the next one of a number, which has to be one of the type. -/
theorem readDigits_cons (t : IntegerType) (negative : Bool) (value : Nat) (hc : c.isDigit = true) :
    t.readDigits negative (directed negative value) (c :: digits) =
      t.fit (directed negative (10 * value + (c.toNat - '0'.toNat))) >>= fun n =>
        t.readDigits negative n digits := by
  have hleast := t.least_le_zero
  have hgreatest := t.zero_le_greatest
  rw [readDigits, decimalDigit?_eq_some_iff.2 ⟨hc, rfl⟩]
  generalize c.toNat - '0'.toNat = digit
  -- A value can leave the type only in the direction of its sign.
  cases negative with
  | false =>
    have hnext : directed false value * 10 + (digit : Int) =
        directed false (10 * value + digit) := by
      simp only [directed, Bool.false_eq_true, if_false]
      omega
    have hnonneg : ¬ directed false (10 * value + digit) < t.least := by
      simp only [directed, Bool.false_eq_true, if_false]
      omega
    simp only [Bool.false_eq_true, if_false, hnext, fit, if_neg hnonneg]
    split <;> rfl
  | true =>
    have hnext : directed true value * 10 - (digit : Int) = directed true (10 * value + digit) := by
      simp only [directed, if_true]
      omega
    have hnonpos : ¬ t.greatest < directed true (10 * value + digit) := by
      simp only [directed, if_true]
      omega
    simp only [if_true, hnext, fit, if_neg hnonpos]
    split <;> rfl

theorem eq_of_fit {t : IntegerType} {n m : Int} (h : t.fit n = .ok m) : m = n := by
  rw [fit] at h
  split at h
  · cases h
  · split at h
    · cases h
    · exact (Except.ok.inj h).symm

/-- Digits that continue a number of the type are read as the value of all, if it still is one of
the type; then what follows them is read. -/
theorem readDigits_append (t : IntegerType) (negative : Bool) (value : Nat)
    (hvalue : t.fit (directed negative value) = .ok (directed negative value))
    (hdigits : ∀ c ∈ digits, c.isDigit = true) :
    t.readDigits negative (directed negative value) (digits ++ rest) =
      t.fit (directed negative (Nat.ofDigitChars 10 digits value)) >>= fun n =>
        t.readDigits negative n rest := by
  induction digits generalizing value with
  | nil =>
    rw [List.nil_append, Nat.ofDigitChars_nil, hvalue]
    rfl
  | cons c digits ih =>
    obtain ⟨hc, hdigits⟩ := List.forall_mem_cons.1 hdigits
    rw [List.cons_append, t.readDigits_cons negative value hc, Nat.ofDigitChars_cons]
    cases hnext : t.fit (directed negative (10 * value + (c.toNat - '0'.toNat))) with
    | error e =>
      -- The value of all the digits is at least as far away as that of the first ones.
      rw [fit_directed_error (le_ofDigitChars _ digits) hnext]
      rfl
    | ok n =>
      obtain rfl := eq_of_fit hnext
      exact ih _ hnext hdigits

/-- An optional sign, where a minus needs a signed type, and digits after it are read as their
value, if that is one of the type; then what follows them is read. -/
theorem read_append (t : IntegerType) {sign : List Char}
    (hsign : sign = [] ∨ sign = ['+'] ∨ sign = ['-'] ∧ t.signed = true)
    (hhead : (digits ++ rest).head?.any (fun c => c != '+' && c != '-') = true)
    (hdigits : ∀ c ∈ digits, c.isDigit = true)
    (htext : text = String.ofList (sign ++ (digits ++ rest))) :
    ∃ negative, t.read text = t.fit (integerValue (sign ++ digits)) >>= fun n =>
      t.readDigits negative n rest := by
  have hleast := t.least_le_zero
  have hgreatest := t.zero_le_greatest
  have hzero : ∀ negative, t.fit (directed negative 0) = .ok (directed negative 0) := by
    intro negative
    rw [show directed negative 0 = 0 by cases negative <;> rfl, fit, if_neg (by omega),
      if_neg (by omega)]
  have hread : ∀ negative, t.readDigits negative (directed negative 0) (digits ++ rest) =
      t.fit (directed negative (Nat.ofDigitChars 10 digits 0)) >>= fun n =>
        t.readDigits negative n rest :=
    fun negative => t.readDigits_append negative 0 (hzero negative) hdigits
  rw [read, htext, String.toList_ofList]
  rcases hsign with rfl | rfl | ⟨rfl, hsigned⟩
  · have hvalue : integerValue digits = directed false (Nat.ofDigitChars 10 digits 0) := by
      rw [integerValue.eq_def]
      split
      · cases hhead
      · cases hhead
      · rfl
    refine ⟨false, ?_⟩
    rw [List.nil_append, List.nil_append, hvalue, ← hread false]
    split <;> simp_all [directed]
  · refine ⟨false, ?_⟩
    rw [List.singleton_append, List.singleton_append, integerValue, ← hread false]
    split <;> simp_all [directed]
  · refine ⟨true, ?_⟩
    rw [List.singleton_append, List.singleton_append, integerValue, ← hread true]
    split <;> simp_all [directed]

/-- Nothing but digits is read. -/
theorem isDigit_of_readDigits {t : IntegerType} {negative : Bool} {value n : Int}
    (h : t.readDigits negative value digits = .ok n) : ∀ c ∈ digits, c.isDigit = true := by
  induction digits generalizing value with
  | nil => exact List.forall_mem_nil _
  | cons c digits ih =>
    rw [readDigits] at h
    split at h
    · cases h
    · next hdigit =>
      refine List.forall_mem_cons.2 ⟨(decimalDigit?_eq_some_iff.1 hdigit).1, ?_⟩
      dsimp only at h
      split at h <;> split at h
      · cases h
      · exact ih h
      · cases h
      · exact ih h

/-- Texts that integers are read of have an optional sign, where a minus needs a signed type, and
one digit at least. -/
theorem exists_of_read {t : IntegerType} {n : Int} (h : t.read text = .ok n) : ∃ sign digits,
    text = String.ofList (sign ++ digits) ∧
    (sign = [] ∨ sign = ['+'] ∨ sign = ['-'] ∧ t.signed = true) ∧
      digits ≠ [] ∧ ∀ c ∈ digits, c.isDigit = true := by
  obtain ⟨chars, rfl⟩ : ∃ chars, text = String.ofList chars :=
    ⟨text.toList, String.ofList_toList.symm⟩
  rw [read, String.toList_ofList] at h
  split at h
  · cases h
  · cases h
  · cases h
  · next digits hne =>
    exact ⟨['+'], digits, rfl, .inr (.inl rfl), hne, isDigit_of_readDigits h⟩
  · next digits hne =>
    split at h
    · next hsigned => exact ⟨['-'], digits, rfl, .inr (.inr ⟨rfl, hsigned⟩), hne,
        isDigit_of_readDigits h⟩
    · cases h
  · next hne _ _ _ _ => exact ⟨[], chars, rfl, .inl rfl, hne, isDigit_of_readDigits h⟩

/-- Of exactly these an integer is read, if their value is one of the type: that value. -/
theorem read_ok_iff (t : IntegerType) {n : Int} : t.read text = .ok n ↔ ∃ sign digits,
    text = String.ofList (sign ++ digits) ∧
    (sign = [] ∨ sign = ['+'] ∨ sign = ['-'] ∧ t.signed = true) ∧
      digits ≠ [] ∧ (∀ c ∈ digits, c.isDigit = true) ∧
      t.fit (integerValue (sign ++ digits)) = .ok n := by
  have hvalue : ∀ {sign digits : List Char}, text = String.ofList (sign ++ digits) →
      (sign = [] ∨ sign = ['+'] ∨ sign = ['-'] ∧ t.signed = true) → digits ≠ [] →
        (∀ c ∈ digits, c.isDigit = true) →
      t.read text = t.fit (integerValue (sign ++ digits)) := by
    intro sign digits htext hsign hne hdigits
    obtain ⟨c, others, rfl⟩ := List.exists_cons_of_ne_nil hne
    have hhead : (c :: others ++ []).head?.any (fun c => c != '+' && c != '-') = true := by
      have hc : c ≠ '+' ∧ c ≠ '-' := by
        constructor <;> rintro rfl <;> exact absurd (hdigits _ List.mem_cons_self) (by decide)
      simpa using hc
    obtain ⟨negative, hread⟩ : ∃ negative, t.read text =
        t.fit (integerValue (sign ++ c :: others)) >>= fun n => t.readDigits negative n [] :=
      t.read_append hsign hhead hdigits (by rw [List.append_nil]; exact htext)
    rw [hread]
    cases t.fit (integerValue (sign ++ c :: others)) <;> rfl
  constructor
  · intro h
    obtain ⟨sign, digits, htext, hsign, hne, hdigits⟩ := exists_of_read h
    exact ⟨sign, digits, htext, hsign, hne, hdigits, hvalue htext hsign hne hdigits ▸ h⟩
  · rintro ⟨sign, digits, htext, hsign, hne, hdigits, hfit⟩
    rw [hvalue htext hsign hne hdigits, hfit]

theorem readDigits_of_not_digit {t : IntegerType} {negative : Bool} {value : Int}
    (hc : c.isDigit = false) :
    t.readDigits negative value (c :: rest) = .error .notDigit := by
  simp [readDigits, decimalDigit?, hc]

end IntegerType

/-! ## Numbers with a point or an exponent -/

/-- Digits are taken up to what is none. -/
theorem takeDigits_append (value : Nat) (hdigits : ∀ c ∈ digits, c.isDigit = true)
    (hrest : rest.head?.all (!·.isDigit) = true) :
    takeDigits value (digits ++ rest) =
      (Nat.ofDigitChars 10 digits value, digits.length, rest) := by
  induction digits generalizing value with
  | nil =>
    cases rest with
    | nil => rfl
    | cons c rest =>
      have hc : c.isDigit = false := by simpa using hrest
      simp [takeDigits, decimalDigit?, hc]
  | cons c digits ih =>
    obtain ⟨hc, hdigits⟩ := List.forall_mem_cons.1 hdigits
    rw [List.cons_append, takeDigits, decimalDigit?_eq_some_iff.2 ⟨hc, rfl⟩]
    simp [ih _ hdigits, Nat.ofDigitChars_cons, Nat.mul_comm]

/-- What is taken are digits from zero to nine. -/
theorem exists_takeDigits (value : Nat) (text : List Char) :
    ∃ digits, (∀ c ∈ digits, c.isDigit = true) ∧
    digits.length = (takeDigits value text).2.1 ∧ digits ++ (takeDigits value text).2.2 = text := by
  induction text generalizing value with
  | nil => exact ⟨[], List.forall_mem_nil _, rfl, rfl⟩
  | cons c text ih =>
    rw [takeDigits]
    split
    · exact ⟨[], List.forall_mem_nil _, rfl, rfl⟩
    · next digit hdigit =>
      obtain ⟨digits, hdigits, hlength, htext⟩ := ih (value * 10 + digit)
      refine ⟨c :: digits, List.forall_mem_cons.2
        ⟨(decimalDigit?_eq_some_iff.1 hdigit).1, hdigits⟩, ?_, ?_⟩
      · exact congrArg (· + 1) hlength
      · exact congrArg (c :: ·) htext

/-- Digits are the value of an exponent, and nothing else is. -/
theorem isSome_exponentValue?_iff (value : Nat) (digits : List Char) :
    (exponentValue? value digits).isSome = true ↔ ∀ c ∈ digits, c.isDigit = true := by
  induction digits generalizing value with
  | nil => exact iff_of_true rfl (List.forall_mem_nil _)
  | cons c digits ih =>
    rw [exponentValue?, List.forall_mem_cons]
    split
    · next hnone =>
      refine iff_of_false nofun fun h => ?_
      rw [decimalDigit?_eq_some_iff.2 ⟨h.1, rfl⟩] at hnone
      cases hnone
    · next digit hdigit =>
      rw [ih]
      exact (and_iff_right (decimalDigit?_eq_some_iff.1 hdigit).1).symm

/-- An exponent is the letter for it, an optional sign and digits. -/
theorem isSome_exponent? {letter : Char} {sign : List Char}
    (hletter : letter = 'e' ∨ letter = 'E') (hsign : sign = [] ∨ sign = ['+'] ∨ sign = ['-'])
    (hne : digits ≠ []) (hdigits : ∀ c ∈ digits, c.isDigit = true) :
    (exponent? (letter :: (sign ++ digits))).isSome = true := by
  obtain ⟨d, digits, rfl⟩ := List.exists_cons_of_ne_nil hne
  obtain ⟨value, hvalue⟩ := Option.isSome_iff_exists.1 ((isSome_exponentValue?_iff 0 _).2 hdigits)
  have hd : d ≠ '+' ∧ d ≠ '-' := by
    constructor <;> rintro rfl <;> exact absurd (hdigits _ List.mem_cons_self) (by decide)
  rcases hsign with rfl | rfl | rfl
  · rw [List.nil_append, exponent?.eq_def]
    simp only [if_pos hletter]
    split <;> simp_all
  · simp [exponent?, hletter, hvalue]
  · simp [exponent?, hletter, hvalue]

theorem ascii_of_exponent? {exponent : Int} (h : exponent? digits = some exponent) :
    ∀ c ∈ digits, c.toNat < 128 := by
  have hvalue : ∀ {digits n}, exponentValue? 0 digits = some n → ∀ c ∈ digits, c.toNat < 128 :=
    fun h c hc => lt_of_isDigit
      ((isSome_exponentValue?_iff 0 _).1 (Option.isSome_of_eq_some h) c hc)
  rw [exponent?.eq_def] at h
  split at h
  · exact List.forall_mem_nil _
  next letter after =>
  split at h
  · next hletter =>
    have hascii : letter.toNat < 128 := by rcases hletter with rfl | rfl <;> decide
    refine List.forall_mem_cons.2 ⟨hascii, ?_⟩
    split at h
    · cases h
    · cases h
    · cases h
    · obtain ⟨_, h, -⟩ := Option.map_eq_some_iff.1 h
      obtain ⟨n, hn, -⟩ := Option.bind_eq_some_iff.1 h
      exact List.forall_mem_cons.2 ⟨by decide, hvalue hn⟩
    · obtain ⟨n, hn, -⟩ := Option.map_eq_some_iff.1 h
      exact List.forall_mem_cons.2 ⟨by decide, hvalue hn⟩
    · obtain ⟨n, hn, -⟩ := Option.map_eq_some_iff.1 h
      exact hvalue hn
  · cases h

/-- What may follow the digits of a literal starts neither with a digit nor with a point. -/
theorem head?_of_exponent? (h : (exponent? rest).isSome = true) :
    rest.head?.all (fun c => !c.isDigit && c != '.') = true := by
  cases rest with
  | nil => rfl
  | cons c rest =>
    rw [exponent?.eq_def] at h
    dsimp only at h
    split at h
    · next hletter => rcases hletter with rfl | rfl <;> rfl
    · cases h

theorem head?_not_digit (h : (exponent? rest).isSome = true) :
    rest.head?.all (!·.isDigit) = true := by
  have hhead := head?_of_exponent? h
  cases rest <;> simp_all

/-- Digits with a point among them or at either end make a number together with
what may follow them. -/
theorem isSome_decimal?_of_point {whole fraction : List Char}
    (hwhole : ∀ c ∈ whole, c.isDigit = true) (hfraction : ∀ c ∈ fraction, c.isDigit = true)
    (hne : whole ≠ [] ∨ fraction ≠ []) (hexponent : (exponent? rest).isSome = true) :
    (decimal? (whole ++ '.' :: (fraction ++ rest))).isSome = true := by
  have hcount : ¬ whole.length + fraction.length = 0 := by
    rw [Nat.add_eq_zero_iff, List.length_eq_zero_iff, List.length_eq_zero_iff]
    exact fun h => hne.elim (· h.1) (· h.2)
  rw [decimal?, takeDigits_append 0 hwhole rfl]
  simp only [takeDigits_append _ hfraction (head?_not_digit hexponent), if_neg hcount,
    Option.isSome_map, hexponent]

/-- So do digits without a point. -/
theorem isSome_decimal?_of_digits (hdigits : ∀ c ∈ digits, c.isDigit = true) (hne : digits ≠ [])
    (hexponent : (exponent? rest).isSome = true) : (decimal? (digits ++ rest)).isSome = true := by
  rw [decimal?, takeDigits_append 0 hdigits (head?_not_digit hexponent)]
  dsimp only
  split
  · cases head?_of_exponent? hexponent
  · simpa [hne] using hexponent

/-- What is read as a number consists of ASCII characters. -/
theorem ascii_of_decimal? {magnitude : Magnitude} (h : decimal? digits = some magnitude) :
    ∀ c ∈ digits, c.toNat < 128 := by
  have hending : ∀ {count : Nat} {value ending}, (if count = 0 then none
      else (exponent? ending).map value) = some magnitude → ∀ c ∈ ending, c.toNat < 128 := by
    intro count value ending h
    split at h
    · cases h
    · obtain ⟨exponent, hexponent, -⟩ := Option.map_eq_some_iff.1 h
      exact ascii_of_exponent? hexponent
  obtain ⟨whole, hwhole, -, htext⟩ := exists_takeDigits 0 digits
  rw [← htext, List.forall_mem_append]
  refine ⟨fun c hc => lt_of_isDigit (hwhole c hc), ?_⟩
  rw [decimal?] at h
  dsimp only at h
  split at h
  · next after hafter =>
    obtain ⟨fraction, hfraction, -, hrest⟩ := exists_takeDigits (takeDigits 0 digits).1 after
    rw [hafter, ← hrest, List.forall_mem_cons, List.forall_mem_append]
    exact ⟨by decide, fun c hc => lt_of_isDigit (hfraction c hc), hending h⟩
  · exact hending h

/-- Making letters small does not make ASCII characters of others. -/
theorem lt_of_toLower (h : c.toLower.toNat < 128) : c.toNat < 128 := by
  delta Char.toLower at h
  split at h
  · next hcapital =>
    have hle : c.toNat ≤ 90 := UInt32.le_iff_toNat_le.1 hcapital.2
    omega
  · exact h

theorem ascii_of_parse? {magnitude : Magnitude} (h : Magnitude.parse? digits = some magnitude) :
    ∀ c ∈ digits, c.toNat < 128 := by
  have hname : ∀ {name : String}, String.ofList (digits.map Char.toLower) = name →
      (∀ c ∈ name.toList, c.toNat < 128) → ∀ c ∈ digits, c.toNat < 128 := by
    intro name heq hascii c hc
    refine lt_of_toLower (hascii _ ?_)
    rw [← heq, String.toList_ofList]
    exact List.mem_map_of_mem hc
  rw [Magnitude.parse?] at h
  split at h
  · next heq => exact hname heq (by simp)
  · next heq => exact hname heq (by simp)
  · next heq => exact hname heq (by simp)
  · exact ascii_of_decimal? h

/-- What is read as a number is also read with the words for special values. -/
theorem isSome_parse? (h : (decimal? digits).isSome = true) :
    (Magnitude.parse? digits).isSome = true := by
  rw [Magnitude.parse?]
  split
  · rfl
  · rfl
  · rfl
  · exact h

namespace FloatingType

/-- A literal after an optional sign is read as a number of the format. -/
theorem exists_read {t : FloatingType} {sign : List Char}
    (hsign : sign = [] ∨ sign = ['+'] ∨ sign = ['-'])
    (hhead : digits.head?.any (fun c => c != '+' && c != '-') = true)
    (hliteral : (Magnitude.parse? digits).isSome = true)
    (htext : text = String.ofList (sign ++ digits)) :
    ∃ x, t.read text = .ok x := by
  obtain ⟨magnitude, hmagnitude⟩ := Option.isSome_iff_exists.1 hliteral
  cases digits with
  | nil => cases hhead
  | cons d digits =>
    rw [read, htext, String.toList_ofList]
    rcases hsign with rfl | rfl | rfl
    · refine ⟨t.encode false magnitude, ?_⟩
      rw [List.nil_append]
      split <;> simp_all
    · exact ⟨t.encode false magnitude, by simp [hmagnitude]⟩
    · exact ⟨t.encode true magnitude, by simp [hmagnitude]⟩

/-- A text with a character outside of ASCII is no literal. -/
theorem read_error {t : FloatingType} (hforeign : ¬ ∀ c ∈ text.toList, c.toNat < 128) :
    t.read text = .error .notLiteral := by
  have hliteral : ∀ {literal magnitude}, (∀ c ∈ text.toList, c.toNat < 128 ∨ c ∈ literal) →
      Magnitude.parse? literal ≠ some magnitude := by
    intro literal magnitude hsub hmagnitude
    exact hforeign fun c hc => (hsub c hc).elim id (ascii_of_parse? hmagnitude c)
  have hsigned : ∀ {sign literal}, sign.toNat < 128 → text.toList = sign :: literal →
      ∀ c ∈ text.toList, c.toNat < 128 ∨ c ∈ literal := by
    intro sign literal hsign htext c hc
    rw [htext] at hc
    rcases List.mem_cons.1 hc with rfl | hc
    · exact .inl hsign
    · exact .inr hc
  rw [read]
  dsimp only
  split
  · next htext => exact absurd (htext ▸ List.forall_mem_nil _) hforeign
  · next htext =>
    split
    · next hmagnitude => exact absurd hmagnitude (hliteral (hsigned (by decide) htext))
    · rfl
  · next htext =>
    split
    · next hmagnitude => exact absurd hmagnitude (hliteral (hsigned (by decide) htext))
    · rfl
  · split
    · next hmagnitude => exact absurd hmagnitude (hliteral fun c hc => .inr hc)
    · rfl

end FloatingType

end Rehearsal
