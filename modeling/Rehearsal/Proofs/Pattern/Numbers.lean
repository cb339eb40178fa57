import Rehearsal.Arguments
import Rehearsal.Proofs.Pattern.Placeholders
import Rehearsal.Proofs.Scalar.Literals
import Mathlib.Data.List.TakeWhile

/-!
# What is captured for numbers

A placeholder with the name of a number type for its hint captures what is written like a number, in
the digits of any decimal system. Values are read of digits from zero to nine only. So a capture in
ASCII is read as its value, unless the type does not go so far, and any other capture is not read.
-/

namespace Rehearsal

/-- The text of an argument is what is read. -/
theorem Arguments.parse_of_raw? {args : Arguments} {index : Nat} {raw : String}
    (h : args.raw? index = some raw) (t : ScalarType) :
    args.parse t index = (t.read raw).mapError (.unreadable index raw t) := by
  obtain ⟨a, ha, hraw⟩ := Option.bind_eq_some_iff.1 h
  have hat : args.at? index = .ok a := by rw [at?, ha]
  simp only [parse, textAt, hat, bind, Except.bind, hraw]

namespace Pattern

open Rehearsal.Regex

variable {w sign digits : List Char} {name : String}

/-! ## How numbers are read -/

/-- What a text that is written like a number is read as. -/
inductive ReadAs (w : List Char) : ScalarType → Except ScalarError Scalar → Prop
  /-- An integer is read as its value. -/
  | value (t : IntegerType) (hleast : t.least ≤ integerValue w)
    (hgreatest : integerValue w ≤ t.greatest) :
    ReadAs w (.integer t) (.ok (.integer (integerValue w)))
  /-- An integer may be too small for the type. -/
  | tooSmall (t : IntegerType) (h : integerValue w < t.least) :
      ReadAs w (.integer t) (.error (.integer .tooSmall))
  /-- An integer may be too large for the type. -/
  | tooLarge (t : IntegerType) (h : t.greatest < integerValue w) :
      ReadAs w (.integer t) (.error (.integer .tooLarge))
  /-- A number with a point or an exponent is rounded to one of the format. -/
  | floating (t : FloatingType) (x : Floating) : ReadAs w (.floating t) (.ok (.floating t x))

/-- What a text starts with before its first character outside of ASCII. -/
def asciiPart (w : List Char) : List Char := w.takeWhile fun c => c.toNat < 128

/-- Why a text that is written like a number, but not in ASCII, is not read. -/
inductive RejectedAs (w : List Char) : ScalarType → ScalarError → Prop
  /-- The digits before the first one that is foreign are out of the range of the type already. -/
  | outOfRange (t : IntegerType) (e : ScalarError)
    (h : ReadAs (asciiPart w) (.integer t) (.error e)) :
    RejectedAs w (.integer t) e
  /-- A foreign digit is none of an integer. -/
  | notDigit (t : IntegerType) (x : Scalar) (h : ReadAs (asciiPart w) (.integer t) (.ok x)) :
    RejectedAs w (.integer t) (.integer .notDigit)
  /-- Nor is it part of any other number. -/
  | notLiteral (t : FloatingType) : RejectedAs w (.floating t) (.floating .notLiteral)

/-- In ASCII, the digits of the decimal systems are those from zero to nine. -/
theorem isDigit_of_contains {c : Char} (h : Unicode.decimalDigits.contains c = true)
    (hc : c.toNat < 128) :
    c.isDigit = true := by
  have hcodes : ∀ code < 128, Unicode.decimalDigits.hasCode code = true →
      48 ≤ code ∧ code ≤ 57 := by decide +kernel
  have hbounds := hcodes c.toNat hc h
  delta Char.isDigit
  simpa [UInt32.le_iff_toNat_le] using hbounds

theorem IsDigits.isDigit (h : IsDigits digits) (hascii : ∀ c ∈ digits, c.toNat < 128) :
    ∀ c ∈ digits, c.isDigit = true := fun c hc => isDigit_of_contains (h.2 c hc) (hascii c hc)

/-- Digits do not start with a sign. -/
theorem IsDigits.head? (h : IsDigits digits) :
    digits.head?.any (fun c => c != '+' && c != '-') = true := by
  obtain ⟨c, rest, rfl, hc⟩ := isDigits_start digits h
  have hsign : ¬ (c = '+' ∨ c = '-') := ne_sign (.inl hc)
  simp_all

/-- Signs are ASCII characters. -/
theorem IsSign.ascii (h : IsSign sign) : ∀ c ∈ sign, c.toNat < 128 := by
  intro c hc
  rcases h.eq_or c hc with rfl | rfl <;> decide

/-! ## Integers -/

/-- A sign that the type has. -/
def IsSignOf (t : IntegerType) (sign : List Char) : Prop :=
  sign = [] ∨ sign = ['+'] ∨ sign = ['-'] ∧ t.signed = true

theorem IsSignOf.isSign {t : IntegerType} (h : IsSignOf t sign) : IsSign sign :=
  h.imp_right (.imp_right And.left)

theorem readAs_fit (t : IntegerType) (w : List Char) :
    ReadAs w (.integer t) (((t.fit (integerValue w)).map .integer).mapError .integer) := by
  rw [IntegerType.fit]
  split
  · exact .tooSmall t ‹_›
  · split
    · exact .tooLarge t ‹_›
    · exact .value t (Int.not_lt.1 ‹_›) (Int.not_lt.1 ‹_›)

/-- An integer in ASCII is read as its value. -/
theorem integer_readAs {t : IntegerType} (hsign : IsSignOf t sign) (hdigits : IsDigits digits)
    (hascii : ∀ c ∈ digits, c.toNat < 128) :
    ReadAs (sign ++ digits) (.integer t)
      ((ScalarType.integer t).read (.ofList (sign ++ digits))) := by
  have hhead : (digits ++ []).head?.any (fun c => c != '+' && c != '-') = true := by
    rw [List.append_nil]
    exact hdigits.head?
  obtain ⟨negative, hread⟩ := t.read_append hsign hhead (hdigits.isDigit hascii) rfl
  rw [List.append_nil] at hread
  rw [ScalarType.read, hread, show (fun n => t.readDigits negative n []) = Except.ok from rfl]
  convert readAs_fit t (sign ++ digits) using 3
  exact bind_pure _

/-- An integer with a foreign digit is not read. -/
theorem integer_rejectedAs {t : IntegerType} (hsign : IsSignOf t sign) (hdigits : IsDigits digits)
    (hforeign : ¬ ∀ c ∈ digits, c.toNat < 128) :
    ∃ e, (ScalarType.integer t).read (.ofList (sign ++ digits)) = .error e ∧
      RejectedAs (sign ++ digits) (.integer t) e := by
  -- The digits are read up to the first foreign one, unless their value leaves
  -- the type before that.
  obtain ⟨c, rest, hrest⟩ : ∃ c rest, digits.dropWhile (fun c => c.toNat < 128) = c :: rest := by
    refine List.exists_cons_of_ne_nil fun hnil => hforeign ?_
    simpa using List.dropWhile_eq_nil_iff.1 hnil
  have hc : ¬ c.toNat < 128 := by
    simpa [hrest] using List.head?_dropWhile_not (fun c : Char => c.toNat < 128) digits
  have hpart : asciiPart (sign ++ digits) = sign ++ asciiPart digits :=
    List.takeWhile_append_of_pos fun c hc => decide_eq_true (hsign.isSign.ascii c hc)
  have hsplit : asciiPart digits ++ c :: rest = digits := by
    rw [asciiPart, ← hrest, List.takeWhile_append_dropWhile]
  have hpartDigits : ∀ c ∈ asciiPart digits, c.isDigit = true := by
    intro d hd
    refine isDigit_of_contains (hdigits.2 d ?_)
      (by simpa using List.all_eq_true.1 List.all_takeWhile d hd)
    exact (List.takeWhile_sublist _).subset hd
  have hhead : (asciiPart digits ++ c :: rest).head?.any
      (fun c => c != '+' && c != '-') = true := by
    rw [hsplit]
    exact hdigits.head?
  obtain ⟨negative, hread⟩ :=
    t.read_append hsign hhead hpartDigits (congrArg (String.ofList <| sign ++ ·) hsplit.symm)
  have hstop : ∀ n, t.readDigits negative n (c :: rest) = .error .notDigit := fun n =>
    IntegerType.readDigits_of_not_digit
      (Bool.eq_false_iff.2 fun hdigit => hc (lt_of_isDigit hdigit))
  have hreadAs := readAs_fit t (asciiPart (sign ++ digits))
  rw [hpart] at hreadAs
  simp only [ScalarType.read, hread, hstop]
  cases hfit : t.fit (integerValue (sign ++ asciiPart digits)) with
  | error e =>
    rw [hfit] at hreadAs
    exact ⟨_, rfl, .outOfRange t _ (hpart ▸ hreadAs)⟩
  | ok n =>
    rw [hfit] at hreadAs
    exact ⟨_, rfl, .notDigit t _ (hpart ▸ hreadAs)⟩

/-! ## Other numbers -/

/-- An exponent in ASCII is read as one. -/
theorem IsExponent.isSome {ending : List Char} (h : ending = [] ∨ IsExponent ending)
    (hascii : ∀ c ∈ ending, c.toNat < 128) : (exponent? ending).isSome = true := by
  rcases h with rfl | ⟨letter, _, hletter, ⟨sign, digits, hsign, hdigits, rfl⟩, rfl⟩
  · rfl
  · rw [List.forall_mem_cons, List.forall_mem_append] at hascii
    exact isSome_exponent? hletter hsign hdigits.1 (hdigits.isDigit hascii.2.2)

/-- A mantissa in ASCII is read as a number together with an exponent. -/
theorem IsMantissa.isSome {mantissa ending : List Char} (h : IsMantissa mantissa)
    (hascii : ∀ c ∈ mantissa, c.toNat < 128) (hending : (exponent? ending).isSome = true) :
    (decimal? (mantissa ++ ending)).isSome = true := by
  rcases h with ⟨whole, fraction, hwhole, hfraction, rfl⟩ | ⟨fraction, hfraction, rfl⟩ | hdigits
  · rw [List.forall_mem_append, List.forall_mem_cons] at hascii
    have hdigits : ∀ c ∈ fraction, c.isDigit = true := fun c hc =>
      isDigit_of_contains (hfraction c hc) (hascii.2.2 c hc)
    rw [List.append_assoc]
    exact isSome_decimal?_of_point (hwhole.isDigit hascii.1) hdigits (.inl hwhole.1) hending
  · rw [List.forall_mem_cons] at hascii
    exact isSome_decimal?_of_point (List.forall_mem_nil _) (hfraction.isDigit hascii.2)
      (.inr hfraction.1) hending
  · exact isSome_decimal?_of_digits (hdigits.isDigit hascii) hdigits.1 hending

/-- A number or a name in ASCII is a literal after a sign. -/
theorem exists_literal (h : IsNumber w ∨ IsNumberName w) (hascii : ∀ c ∈ w, c.toNat < 128) :
    ∃ sign literal, IsSign sign ∧ literal.head?.any (fun c => c != '+' && c != '-') = true ∧
      (Magnitude.parse? literal).isSome = true ∧ sign ++ literal = w := by
  rcases h with ⟨sign, _, hsign, ⟨mantissa, ending, hmantissa, hending, rfl⟩, rfl⟩ | hname
  · rw [List.forall_mem_append, List.forall_mem_append] at hascii
    refine ⟨sign, _, hsign, ?_, isSome_parse? ?_, rfl⟩
    · obtain ⟨c, rest, rfl, hc⟩ := isMantissa_start mantissa hmantissa
      have := ne_sign hc
      simp_all
    · exact hmantissa.isSome hascii.2.1 (IsExponent.isSome hending hascii.2.2)
  · refine ⟨[], w, .inl rfl, ?_, ?_, rfl⟩
    · obtain ⟨c, rest, rfl, hc⟩ := isNumberName_start w hname
      revert hc
      simp
      rintro (rfl | rfl | rfl | rfl) <;> decide
    · simp only [IsNumberName, numberNames, List.mem_cons, List.not_mem_nil, or_false] at hname
      rw [Magnitude.parse?]
      rcases hname with heq | heq | heq <;> rw [heq] <;> rfl

/-- A number or a name in ASCII is read as a number of the format. -/
theorem floating_readAs {t : FloatingType} (h : IsNumber w ∨ IsNumberName w)
    (hascii : ∀ c ∈ w, c.toNat < 128) :
    ReadAs w (.floating t) ((ScalarType.floating t).read (.ofList w)) := by
  obtain ⟨sign, literal, hsign, hhead, hliteral, rfl⟩ := exists_literal h hascii
  obtain ⟨x, hx⟩ := FloatingType.exists_read (t := t) hsign hhead hliteral rfl
  rw [ScalarType.read, hx]
  exact .floating t x

/-- A number with a foreign digit is not read. -/
theorem floating_rejectedAs {t : FloatingType} (hforeign : ¬ ∀ c ∈ w, c.toNat < 128) :
    ∃ e, (ScalarType.floating t).read (.ofList w) = .error e ∧ RejectedAs w (.floating t) e := by
  refine ⟨_, ?_, .notLiteral t⟩
  rw [ScalarType.read, FloatingType.read_error (by rwa [String.toList_ofList])]
  rfl

/-! ## Hints -/

/-- The types of numbers. -/
def numberTypes : List ScalarType :=
  IntegerType.all.map .integer ++ [.floating .single, .floating .double]

/-- Hints narrow captures for these types. -/
inductive Hint.Suits : Hint → ScalarType → Prop
  | unsigned (t : IntegerType) : Suits .unsigned (.integer t)
  | signed (t : IntegerType) (h : t.signed = true) : Suits .signed (.integer t)
  | decimal (t : FloatingType) : Suits .decimal (.floating t)

/-- The name of a type of numbers is a hint for it. -/
theorem suits_of_mem : ∀ t ∈ numberTypes, (Hint.ofName (some t.name)).Suits t := by
  simp only [numberTypes, IntegerType.all, List.map_cons, List.map_nil, List.cons_append,
    List.nil_append, List.forall_mem_cons, List.not_mem_nil, false_imp_iff, implies_true, and_true]
  exact ⟨.unsigned _, .unsigned _, .unsigned _, .unsigned _, .unsigned _, .unsigned _,
    .signed _ rfl, .signed _ rfl, .signed _ rfl, .signed _ rfl, .signed _ rfl, .signed _ rfl,
    .decimal _, .decimal _⟩

/-- What a hint admits in ASCII is read as a number of the type. -/
theorem Hint.Suits.readAs {hint : Hint} {t : ScalarType} (h : hint.Suits t) (hw : hint.Admits w)
    (hascii : ∀ c ∈ w, c.toNat < 128) : ReadAs w t (t.read (.ofList w)) := by
  cases h with
  | unsigned t =>
    have hsign : IsSignOf t [] := .inl rfl
    have hread := integer_readAs hsign hw hascii
    rwa [List.nil_append] at hread
  | signed t hsigned =>
    obtain ⟨sign, digits, hsign, hdigits, rfl⟩ := hw
    exact integer_readAs (hsign.imp_right (.imp_right (⟨·, hsigned⟩))) hdigits
      (List.forall_mem_append.1 hascii).2
  | decimal t => exact floating_readAs hw hascii

/-- What a hint admits in other digits is not read. -/
theorem Hint.Suits.rejectedAs {hint : Hint} {t : ScalarType} (h : hint.Suits t)
    (hw : hint.Admits w) (hforeign : ¬ ∀ c ∈ w, c.toNat < 128) :
    ∃ e, t.read (.ofList w) = .error e ∧ RejectedAs w t e := by
  cases h with
  | unsigned t =>
    have hsign : IsSignOf t [] := .inl rfl
    have hread := integer_rejectedAs hsign hw hforeign
    rwa [List.nil_append] at hread
  | signed t hsigned =>
    obtain ⟨sign, digits, hsign, hdigits, rfl⟩ := hw
    refine integer_rejectedAs (hsign.imp_right (.imp_right (⟨·, hsigned⟩))) hdigits
      fun hascii => hforeign ?_
    exact List.forall_mem_append.2 ⟨hsign.ascii, hascii⟩
  | decimal t => exact floating_rejectedAs hforeign

/-- The hints of the placeholders of a pattern, as written. -/
def typeHints : List Piece → List (Option String)
  | [] => []
  | .literal _ :: rest => typeHints rest
  | .placeholder _ hint :: rest => hint :: typeHints rest

theorem hints_eq_map (ps : List Piece) : hints ps = (typeHints ps).map Hint.ofName := by
  induction ps with
  | nil => rfl
  | cons piece ps ih =>
    cases piece with
    | literal c => exact ih
    | placeholder name hint => exact congrArg (Hint.ofName hint :: ·) ih

variable {source text : String} {p : Pattern} {captured : List String}

/-- What a placeholder with the name of a number type for its hint captures is read as an argument
of the type like this: in ASCII as its value, unless the type does not go so far. With a digit of
any other system it is not read, because this is no digit of a number, unless the digits before it
are out of the range of the type already. -/
theorem captures_number (hsource : source.toList.head? ≠ some '^') (h : compile source = .ok p)
    (hcaptured : p.captures text = some captured) :
    ∃ ps, pieces source.toList = .ok ps ∧ captured.length = (typeHints ps).length ∧
      ∀ t ∈ numberTypes, ∀ (i : Nat) (capture : String), (typeHints ps)[i]? = some (some t.name) →
        captured[i]? = some capture → ∀ args : Arguments, args.raw? i = some capture →
        ((∀ c ∈ capture.toList, c.toNat < 128) → ∃ result, ReadAs capture.toList t result ∧
          args.parse t i = result.mapError (.unreadable i capture t)) ∧
        ((¬ ∀ c ∈ capture.toList, c.toNat < 128) → ∃ e, RejectedAs capture.toList t e ∧
          args.parse t i = .error (.unreadable i capture t e)) := by
  obtain ⟨ps, hpieces, rfl⟩ := compile_eq_ok hsource h
  rw [captures_program] at hcaptured
  obtain ⟨parts, hhead, rfl⟩ := Option.map_eq_some_iff.1 hcaptured
  have hadmits := (mem_readings.1 (List.mem_of_mem_head? hhead)).admits
  refine ⟨ps, hpieces, ?_, fun t ht i capture hhint hcapture args hraw => ?_⟩
  · rw [List.length_map, ← hadmits.length_eq, hints_eq_map, List.length_map]
  · rw [Arguments.parse_of_raw? hraw]
    rw [List.getElem?_map, Option.map_eq_some_iff] at hcapture
    obtain ⟨part, hpart, rfl⟩ := hcapture
    have hsuits := suits_of_mem t ht
    have hadmitted : (Hint.ofName (some t.name)).Admits part := by
      rw [hints_eq_map, List.forall₂_map_left_iff] at hadmits
      obtain ⟨hbound, hhint⟩ := List.getElem?_eq_some_iff.1 hhint
      obtain ⟨hbound', rfl⟩ := List.getElem?_eq_some_iff.1 hpart
      have hboth := hadmits.get hbound hbound'
      rwa [List.get_eq_getElem, List.get_eq_getElem, hhint] at hboth
    rw [String.toList_ofList]
    refine ⟨fun hascii => ⟨_, hsuits.readAs hadmitted hascii, rfl⟩, fun hforeign => ?_⟩
    obtain ⟨e, hread, hrejected⟩ := hsuits.rejectedAs hadmitted hforeign
    exact ⟨e, hrejected, by rw [hread]; rfl⟩

/-- A sentence about a number of apples. -/
def someApples : List Piece :=
  "I have ".toList.map .literal ++ .placeholder "count" (some "u32") ::
    " apples".toList.map .literal

/-- What the sentence is compiled to. -/
def someApplesPattern : Pattern :=
  ⟨"I have \x7bcount:u32\x7d apples", written someApples, (expr someApples).program⟩

theorem pieces_someApples : pieces "I have \x7bcount:u32\x7d apples".toList = .ok someApples := by
  decide +kernel

theorem compile_someApples : compile "I have \x7bcount:u32\x7d apples" = .ok someApplesPattern := by
  rw [compile_of_pieces (by decide) pieces_someApples]
  exact if_pos (Expr.fits_of_room rfl (by decide +kernel))

theorem twelveApples : "I have \x7bcount:u32\x7d apples".toList.head? ≠ some '^' ∧
    compile "I have \x7bcount:u32\x7d apples" = .ok someApplesPattern ∧
    someApplesPattern.captures "I have 12 apples" = some ["12"] ∧
    Arguments.parse ⟨[.captured "12"]⟩ (.integer .unsigned32) 0 = .ok (.integer 12) := by
  have hsource : "I have \x7bcount:u32\x7d apples".toList.head? ≠ some '^' := by decide
  have hcaptures : someApplesPattern.captures "I have 12 apples" = some ["12"] := by
    have hreadings : readings someApples "I have 12 apples".toList = [["12".toList]] := by
      decide +kernel
    rw [someApplesPattern, captures_program, hreadings]
    rfl
  refine ⟨hsource, compile_someApples, hcaptures, ?_⟩
  obtain ⟨ps, hpieces, -, hall⟩ := captures_number hsource compile_someApples hcaptures
  obtain rfl := Except.ok.inj (pieces_someApples.symm.trans hpieces)
  obtain ⟨hascii, -⟩ := hall (.integer .unsigned32) (by decide) 0 "12"
    rfl rfl ⟨[.captured "12"]⟩ rfl
  obtain ⟨result, hresult, hparse⟩ := hascii (by simp)
  rw [hparse]
  cases hresult with
  | value => rfl
  | tooSmall _ h => exact absurd h (by decide)
  | tooLarge _ h => exact absurd h (by decide)

/-- A digit of another system is captured for an integer, and is refused as a
digit when it is read. -/
theorem foreignApples : compile "I have \x7bcount:u32\x7d apples" = .ok someApplesPattern ∧
    typeHints someApples = [some "u32"] ∧
    someApplesPattern.captures "I have ٣ apples" = some ["٣"] ∧
    Arguments.parse ⟨[.captured "٣"]⟩ (.integer .unsigned32) 0 =
      .error (.unreadable 0 "٣" (.integer .unsigned32) (.integer .notDigit)) := by
  refine ⟨compile_someApples, rfl, ?_, ?_⟩
  · have hreadings : readings someApples "I have ٣ apples".toList = [["٣".toList]] := by
      decide +kernel
    rw [someApplesPattern, captures_program, hreadings]
    rfl
  · decide +kernel

end Pattern

end Rehearsal
