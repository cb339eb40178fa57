import Rehearsal.Regex.Simplest
import Rehearsal.Unicode.CaseFolding
import Rehearsal.Unicode.PropertyName
import Rehearsal.Unicode.Recent

/-!
# Reading regular expressions

The written form of regular expressions: literals, escapes, bracketed classes with set operations,
groups with names and flags, and repetitions. Reading resolves the flags, so that the result is an
expression without any. Look-around and back-references are refused.
-/

namespace Rehearsal.Regex

/-- Why a text is not a regular expression. -/
inductive SyntaxError
  /-- Groups, classes and repetitions are nested too deeply. -/
  | nestingTooDeep
  /-- A repetition has nothing to repeat. -/
  | repetitionMissing
  /-- A counted repetition lacks its closing brace. -/
  | repetitionUnclosed
  /-- A counted repetition lacks its count. -/
  | repetitionCountEmpty
  /-- A count has too many digits. -/
  | countTooLarge
  /-- A counted repetition has a minimum above its maximum. -/
  | repetitionReversed
  /-- A group lacks its closing parenthesis. -/
  | groupUnclosed
  /-- A closing parenthesis closes no group. -/
  | groupUnopened
  /-- A group name has a character that names do not have. -/
  | groupNameInvalid
  /-- A group name is not closed. -/
  | groupNameUnclosed
  /-- A group name is empty. -/
  | groupNameEmpty
  /-- Two groups have one name. -/
  | groupNameDuplicate
  /-- A flag is not known. -/
  | flagUnknown
  /-- A flag is given twice. -/
  | flagDuplicate
  /-- Flags are negated twice. -/
  | flagNegationRepeated
  /-- A negation of flags is followed by none. -/
  | flagNegationDangling
  /-- Flags are not closed. -/
  | flagsUnclosed
  /-- Look-around is not supported. -/
  | lookAround
  /-- Back-references are not supported. -/
  | backReference
  /-- An escape breaks off. -/
  | escapeUnfinished
  /-- An escape is not known. -/
  | escapeUnknown
  /-- A hexadecimal escape has no digits, other characters, or no character of that number. -/
  | hexInvalid
  /-- A class lacks its closing bracket. -/
  | classUnclosed
  /-- A range in a class is reversed. -/
  | classRangeReversed
  /-- A range in a class ends in something that is no character. -/
  | classRangeEnd
  /-- An escape has no place in a class. -/
  | classEscape
  /-- A special word boundary is not closed. -/
  | boundaryUnclosed
  /-- A special word boundary is not known. -/
  | boundaryUnknown
  /-- A character property is not known. -/
  | propertyUnknown
  /-- Something needs the Unicode flag, which is off. -/
  | unicodeRequired
  /-- Without the Unicode flag, something would match parts of characters. -/
  | partialCharacter
  deriving DecidableEq, Repr

/-- The flags in force. -/
structure Flags where
  /-- Letters match in either case. -/
  caseless : Bool := false
  /-- `^` and `$` match at lines. -/
  multiline : Bool := false
  /-- The dot matches line ends too. -/
  dotAll : Bool := false
  /-- Repetitions are lazy, and greedy when marked. -/
  swapGreed : Bool := false
  /-- Classes and boundaries know all characters and not ASCII alone. -/
  unicode : Bool := true
  /-- Carriage returns end lines. -/
  crlf : Bool := false
  /-- Blanks and comments between items are skipped. -/
  verbose : Bool := false
  deriving DecidableEq, Repr

/-- What one written item stands for. -/
inductive Atom
  /-- A character; `twoDigits` if it was written as two hexadecimal digits. -/
  | literal (c : Char) (twoDigits : Bool)
  /-- A set of characters. -/
  | set (s : CharSet)
  /-- An assertion. -/
  | assert (a : Assertion)

/-! ## Blanks, numbers and names -/

/-- The text after the blanks and comments at its start, or after the rest of a comment. -/
def skipBlanks (inComment : Bool) : List Char → List Char
  | [] => []
  | c :: rest =>
    if inComment then skipBlanks (c != '\n') rest
    else if isBlank c then skipBlanks false rest
    else if c == '#' then skipBlanks true rest
    else c :: rest

/-- The text after what the flags let stand between items. -/
def Flags.skip (f : Flags) (text : List Char) : List Char :=
  if f.verbose then skipBlanks false text else text

/-- The value of a hexadecimal digit. -/
def hexValue? (c : Char) : Option Nat :=
  if '0' ≤ c ∧ c ≤ '9' then some (c.toNat - '0'.toNat)
  else if 'a' ≤ c ∧ c ≤ 'f' then some (c.toNat - 'a'.toNat + 10)
  else if 'A' ≤ c ∧ c ≤ 'F' then some (c.toNat - 'A'.toNat + 10)
  else none

/-- The character with the given number, if there is one. -/
def charOfCode? (code : Nat) : Option Char :=
  if h : code.isValidChar then some (Char.ofNatAux code h) else none

/-- Reads `count` hexadecimal digits and adds them to `acc`. -/
def readHexDigits (f : Flags) : Nat → Nat → List Char → Except SyntaxError (Nat × List Char)
  | 0, acc, text => .ok (acc, text)
  | _ + 1, _, [] => .error .escapeUnfinished
  | n + 1, acc, c :: rest =>
    match hexValue? c with
    | some v => readHexDigits f n (acc * 16 + v) (f.skip rest)
    | none => .error .hexInvalid

/-- The items up to a closing brace and the text after it. -/
def readBraced (f : Flags) :
    Nat → List Char → List Char → Except SyntaxError (List Char × List Char)
  | 0, _, _ => .error .escapeUnfinished
  | fuel + 1, acc, text =>
    match f.skip text with
    | [] => .error .escapeUnfinished
    | '}' :: rest => .ok (acc.reverse, rest)
    | c :: rest => readBraced f fuel (c :: acc) rest

/-- Reads the character that a hexadecimal escape with `digits` digits, or with
braces, stands for. -/
def readHex (f : Flags) (digits : Nat) (text : List Char) :
    Except SyntaxError (Char × Bool × List Char) := do
  let (code, fixed, rest) ←
    match f.skip text with
    | [] => .error SyntaxError.escapeUnfinished
    | '{' :: rest => do
      let (body, rest) ← readBraced f (rest.length + 1) [] rest
      if body.isEmpty then .error .hexInvalid
      else
        match body.mapM hexValue? with
        | some values => .ok (values.foldl (fun acc v => acc * 16 + v) 0, false, f.skip rest)
        | none => .error .hexInvalid
    | rest => do
      let (code, rest) ← readHexDigits f digits 0 rest
      .ok (code, digits == 2, rest)
  match charOfCode? code with
  | some c => .ok (c, fixed, rest)
  | none => .error .hexInvalid

/-- Whether `c` may stand in a group name, at its start if `first`. -/
def isNameCharacter (first : Bool) (c : Char) : Bool :=
  if first then c == '_' || Unicode.nameStarts.contains c
  else c == '_' || c == '.' || c == '[' || c == ']' || Unicode.nameContinuations.contains c

/-- Reads a group name up to its closing angle. -/
def readName : Bool → List Char → List Char → Except SyntaxError (String × List Char)
  | _, _, [] => .error .groupNameUnclosed
  | first, acc, c :: rest =>
    if c == '>' then
      if acc.isEmpty then .error .groupNameEmpty else .ok (.ofList acc.reverse, rest)
    else if isNameCharacter first c then readName false (c :: acc) rest
    else .error .groupNameInvalid

/-! ## Escapes -/

/-- The set, closed under case if the flags ask for it. -/
def Flags.fold (f : Flags) (s : CharSet) : CharSet :=
  if !f.caseless then s
  else if f.unicode then Unicode.closeUnderCase s
  else Unicode.closeUnderAsciiCase s

/-- The complement of a set, which without the Unicode flag would hold parts of characters. -/
def Flags.negate (f : Flags) (negated : Bool) (s : CharSet) : Except SyntaxError CharSet :=
  if !negated then .ok s
  else if f.unicode then .ok s.complement
  else .error .partialCharacter

/-- Reads a character property after its letter. -/
def readProperty (f : Flags) (negated : Bool) (text : List Char) :
    Except SyntaxError (CharSet × List Char) := do
  let (name, rest) ←
    match f.skip text with
    | [] => .error SyntaxError.escapeUnfinished
    | '{' :: rest => readBraced f (rest.length + 1) [] rest
    | '\\' :: _ => .error .propertyUnknown
    | c :: rest => .ok ([c], f.skip rest)
  if !f.unicode then .error .unicodeRequired
  else
    let (found, negated) :=
      match splitAtNotEqual name with
      | some (property, value) => (Unicode.propertyValueNamed property value, !negated)
      | none =>
        match name.span (· != ':') with
        | (property, _ :: value) => (Unicode.propertyValueNamed property value, negated)
        | _ =>
          match name.span (· != '=') with
          | (property, _ :: value) => (Unicode.propertyValueNamed property value, negated)
          | _ => (Unicode.propertyNamed name, negated)
    match found with
    | some s => do
      let s ← f.negate negated (f.fold s)
      .ok (s, rest)
    | none => .error .propertyUnknown
where
  /-- The parts of a text before and after its first `!=`. -/
  splitAtNotEqual : List Char → Option (List Char × List Char)
    | [] => none
    | '!' :: '=' :: rest => some ([], rest)
    | c :: rest => (splitAtNotEqual rest).map fun (before, after) => (c :: before, after)

/-- The set of a one-letter class such as `\d`. -/
def Flags.perlClass (f : Flags) (letter : Char) : CharSet :=
  match letter with
  | 'd' => if f.unicode then Unicode.decimalDigits else .range 0x30 0x39
  | 's' => if f.unicode then Unicode.blanks else .ofRuns [(0x9, 0xD, 1), (0x20, 0x20, 1)]
  | _ => if f.unicode then Unicode.wordCharacters else asciiWordCharacters

/-- The special word boundary of the given name. -/
def specialBoundary? (unicode : Bool) : String → Option Assertion
  | "start" => some (.wordStart unicode)
  | "end" => some (.wordEnd unicode)
  | "start-half" => some (.noWordBefore unicode)
  | "end-half" => some (.noWordAfter unicode)
  | _ => none

/-- Reads what may follow `\b`: a special boundary in braces, or nothing of it. -/
def readBoundary (f : Flags) (text : List Char) : Except SyntaxError (Assertion × List Char) :=
  let isNamePart (c : Char) : Bool := c.isAlpha || c == '-'
  match text with
  | '{' :: inner =>
    match f.skip inner with
    | [] => .error .repetitionUnclosed
    | c :: rest =>
      if !isNamePart c then .ok (.boundary f.unicode, text)
      else
        let rec collect : Nat → List Char → List Char → List Char × List Char
          | 0, acc, text => (acc.reverse, text)
          | fuel + 1, acc, text =>
            match text with
            | c :: rest =>
              if isNamePart c then collect fuel (c :: acc) (f.skip rest) else (acc.reverse, text)
            | [] => (acc.reverse, [])
        match collect (rest.length + 1) [] (c :: rest) with
        | (name, '}' :: after) =>
          match specialBoundary? f.unicode (.ofList name) with
          | some a => .ok (a, after)
          | none => .error .boundaryUnknown
        | _ => .error .boundaryUnclosed
  | _ => .ok (.boundary f.unicode, text)

/-- Whether `c` has a meaning of its own in regular expressions. -/
def isMeta (c : Char) : Bool := "\\.+*?()|[]\x7b\x7d^$#&-~".toList.contains c

/-- Whether `c` stands for itself after a backslash. -/
def isEscapable (c : Char) : Bool :=
  isMeta c || (c.toNat < 0x80 && !c.isAlphanum && c != '<' && c != '>')

/-- Reads an escape after its backslash. -/
def readEscape (f : Flags) : List Char → Except SyntaxError (Atom × List Char)
  | [] => .error .escapeUnfinished
  | c :: rest =>
    let hex (digits : Nat) : Except SyntaxError (Atom × List Char) := do
      let (value, twoDigits, rest) ← readHex f digits rest
      .ok (.literal value twoDigits, rest)
    if c.isDigit then .error .backReference
    else if isEscapable c then .ok (.literal c false, rest)
    else
      match c with
      | 'x' => hex 2
      | 'u' => hex 4
      | 'U' => hex 8
      | 'p' | 'P' => do
        let (s, rest) ← readProperty f (c == 'P') rest
        .ok (.set s, rest)
      | 'd' | 's' | 'w' => .ok (.set (f.perlClass c), rest)
      | 'D' | 'S' | 'W' => do
        let s ← f.negate true (f.perlClass c.toLower)
        .ok (.set s, rest)
      | 'a' => .ok (.literal '\x07' false, rest)
      | 'f' => .ok (.literal '\x0C' false, rest)
      | 't' => .ok (.literal '\t' false, rest)
      | 'n' => .ok (.literal '\n' false, rest)
      | 'r' => .ok (.literal '\r' false, rest)
      | 'v' => .ok (.literal '\x0B' false, rest)
      | 'A' => .ok (.assert .textStart, rest)
      | 'z' => .ok (.assert .textEnd, rest)
      | 'b' => do
        let (a, rest) ← readBoundary f rest
        .ok (.assert a, rest)
      | 'B' => .ok (.assert (.noBoundary f.unicode), rest)
      | '<' => .ok (.assert (.wordStart f.unicode), rest)
      | '>' => .ok (.assert (.wordEnd f.unicode), rest)
      | _ => .error .escapeUnknown

/-! ## Bracketed classes -/

/-- The ASCII classes that are named inside brackets. -/
def asciiClass? : String → Option CharSet
  | "alnum" => some (.ofRuns [(0x30, 0x39, 1), (0x41, 0x5A, 1), (0x61, 0x7A, 1)])
  | "alpha" => some (.ofRuns [(0x41, 0x5A, 1), (0x61, 0x7A, 1)])
  | "ascii" => some (.range 0 0x7F)
  | "blank" => some (.ofRuns [(0x9, 0x9, 1), (0x20, 0x20, 1)])
  | "cntrl" => some (.ofRuns [(0, 0x1F, 1), (0x7F, 0x7F, 1)])
  | "digit" => some (.range 0x30 0x39)
  | "graph" => some (.range 0x21 0x7E)
  | "lower" => some (.range 0x61 0x7A)
  | "print" => some (.range 0x20 0x7E)
  | "punct" => some (.ofRuns [(0x21, 0x2F, 1), (0x3A, 0x40, 1), (0x5B, 0x60, 1), (0x7B, 0x7E, 1)])
  | "space" => some (.ofRuns [(0x9, 0xD, 1), (0x20, 0x20, 1)])
  | "upper" => some (.range 0x41 0x5A)
  | "word" => some asciiWordCharacters
  | "xdigit" => some (.ofRuns [(0x30, 0x39, 1), (0x41, 0x46, 1), (0x61, 0x66, 1)])
  | _ => none

/-- Reads a named ASCII class after its opening bracket, such as the rest of `[:alpha:]`: the class,
whether it is negated, and the text after it. -/
def readAsciiClass? (text : List Char) : Option (CharSet × Bool × List Char) := do
  let ':' :: rest := text | none
  let (negated, rest) := match rest with
    | '^' :: rest => (true, rest)
    | _ => (false, rest)
  let (name, after) := rest.span (· != ':')
  let ':' :: ']' :: after := after | none
  let s ← asciiClass? (.ofList name)
  return (s, negated, after)

/-- An operation on two sets inside brackets. -/
inductive SetOperation
  /-- Members of both. -/
  | intersection
  /-- Members of the first alone. -/
  | difference
  /-- Members of one alone. -/
  | symmetricDifference

/-- Applies a set operation, after closing both sides under case where the flags ask for it. -/
def Flags.combine (f : Flags) (op : SetOperation) (s t : CharSet) : CharSet :=
  match op with
  | .intersection => (f.fold s).inter (f.fold t)
  | .difference => (f.fold s).diff (f.fold t)
  | .symmetricDifference => (f.fold s).symmDiff (f.fold t)

/-- The set of one item of a class. -/
def Flags.itemSet (f : Flags) : Atom → Except SyntaxError CharSet
  | .literal c twoDigits =>
    if f.unicode || c.toNat < 0x80 then .ok (.singleton c)
    else if twoDigits then .error .partialCharacter
    else .error .unicodeRequired
  | .set s => .ok s
  | .assert _ => .error .classEscape

/-- Reads one character or escape inside brackets. -/
def readClassAtom (f : Flags) : List Char → Except SyntaxError (Atom × List Char)
  | [] => .error .classUnclosed
  | '\\' :: rest => readEscape f rest
  | c :: rest => .ok (.literal c false, rest)

/-- The character that decides whether a hyphen in a class makes a range: the next one, past blanks
and the mark of a comment. -/
def Flags.afterHyphen (f : Flags) (text : List Char) : Option Char :=
  if !f.verbose then text.head?
  else
    match text.dropWhile isBlank with
    | '#' :: rest =>
      match rest.dropWhile isBlank with
      | [] => text.head?
      | c :: _ => some c
    | [] => text.head?
    | c :: _ => some c

/-- Reads a character, an escape or a range inside brackets. -/
def readClassRange (f : Flags) (text : List Char) : Except SyntaxError (CharSet × List Char) := do
  let (first, rest) ← readClassAtom f text
  match f.skip rest with
  | [] => .error .classUnclosed
  | '-' :: after =>
    if f.afterHyphen after == some ']' || f.afterHyphen after == some '-' then do
      let s ← f.itemSet first
      .ok (s, '-' :: after)
    else do
      let (last, rest) ← readClassAtom f (f.skip after)
      match first, last with
      | .literal a _, .literal b _ => do
        let _ ← f.itemSet first
        let _ ← f.itemSet last
        if a ≤ b then .ok (.range a.toNat b.toNat, rest) else .error .classRangeReversed
      | _, _ => .error .classRangeEnd
  | rest => do
    let s ← f.itemSet first
    .ok (s, rest)

/-- The items of one union inside brackets: their set, how many they are and
how deeply they nest. -/
structure ClassUnion where
  /-- The union of the items. -/
  set : CharSet := .empty
  /-- The number of items. -/
  count : Nat := 0
  /-- The deepest nesting among the items. -/
  depth : Nat := 0

/-- The union with one more item. -/
def ClassUnion.add (u : ClassUnion) (s : CharSet) (depth : Nat) : ClassUnion :=
  ⟨u.set.union s, u.count + 1, Nat.max u.depth depth⟩

/-- How deeply a union nests: several items nest once more than the deepest of them. -/
def ClassUnion.nesting (u : ClassUnion) : Nat := if u.count ≤ 1 then u.depth else u.depth + 1

/-- The set operation that waits for its right side, with its left side and the nesting of that. -/
abbrev WaitingOperation := Option (SetOperation × CharSet × Nat)

/-- The union as the right side of the operation that waits for it. -/
def Flags.settle (f : Flags) (waiting : WaitingOperation) (u : ClassUnion) : CharSet × Nat :=
  match waiting with
  | none => (u.set, u.nesting)
  | some (op, left, depth) => (f.combine op left u.set, Nat.max depth u.nesting + 1)

/-- Reads the hyphens at the start of a class, which stand for themselves. -/
def readLeadingHyphens (f : Flags) : Nat → ClassUnion → List Char → ClassUnion × List Char
  | 0, u, text => (u, text)
  | fuel + 1, u, text =>
    match text with
    | '-' :: rest => readLeadingHyphens f fuel (u.add (.singleton '-') 0) (f.skip rest)
    | _ => (u, text)

/-- Reads the start of a class after its opening bracket: whether it is negated, and the hyphens or
the closing bracket that stand for themselves there. -/
def readClassStart (f : Flags) (text : List Char) : Bool × ClassUnion × List Char :=
  let (negated, rest) := match f.skip text with
    | '^' :: rest => (true, f.skip rest)
    | rest => (false, rest)
  let (u, rest) := readLeadingHyphens f rest.length {} rest
  match u.count, rest with
  | 0, ']' :: rest => (negated, u.add (.singleton ']') 0, f.skip rest)
  | _, rest => (negated, u, rest)

/-- Reads the items of a class up to its closing bracket. The result is the set of the class, how
deeply it nests, and the text after it. -/
def readClassItems (f : Flags) :
    Nat → Bool → WaitingOperation → ClassUnion → List Char →
    Except SyntaxError (CharSet × Nat × List Char)
  | 0, _, _, _, _ => .error .classUnclosed
  | fuel + 1, negated, waiting, u, text =>
    let operate (op : SetOperation) (rest : List Char) :=
      readClassItems f fuel negated (some (op, f.settle waiting u)) {} rest
    match f.skip text with
    | [] => .error .classUnclosed
    | ']' :: rest => do
      let (s, depth) := f.settle waiting u
      let s ← f.negate negated (f.fold s)
      .ok (s, depth + 1, rest)
    | '[' :: rest =>
      match readAsciiClass? rest with
      | some (s, inverse, rest) => do
        let s ← f.negate inverse (f.fold s)
        readClassItems f fuel negated waiting (u.add s 0) rest
      | none => do
        let (inverse, inner, rest) := readClassStart f rest
        let (s, depth, rest) ← readClassItems f fuel inverse none inner rest
        readClassItems f fuel negated waiting (u.add s depth) rest
    | '&' :: '&' :: rest => operate .intersection rest
    | '-' :: '-' :: rest => operate .difference rest
    | '~' :: '~' :: rest => operate .symmetricDifference rest
    | rest => do
      let (s, rest) ← readClassRange f rest
      readClassItems f fuel negated waiting (u.add s 0) rest

/-- Reads a class after its opening bracket. -/
def readClass (f : Flags) (text : List Char) : Except SyntaxError (CharSet × Nat × List Char) :=
  let (negated, u, rest) := readClassStart f text
  readClassItems f (rest.length + 1) negated none u rest

/-! ## Repetitions -/

/-- Reads a decimal number with blanks around it; `none` if there is no digit. -/
def readCount (f : Flags) (text : List Char) : Except SyntaxError (Option Nat × List Char) :=
  let rec digits : Nat → Option Nat → List Char → Option Nat × List Char
    | 0, acc, text => (acc, text)
    | fuel + 1, acc, text =>
      match text with
      | c :: rest =>
        if c.isDigit then digits fuel (some (acc.getD 0 * 10 + (c.toNat - '0'.toNat))) (f.skip rest)
        else (acc, text)
      | [] => (acc, [])
  let rec blanks : Nat → List Char → List Char
    | 0, text => text
    | fuel + 1, text =>
      match text with
      | c :: rest => if isBlank c then blanks fuel (f.skip rest) else text
      | [] => []
  let (count, rest) := digits text.length none (text.dropWhile isBlank)
  let rest := blanks rest.length rest
  match count with
  | some n => if n < UInt32.size then .ok (count, rest) else .error .countTooLarge
  | none => .ok (none, rest)

/-- Reads the bounds of a counted repetition after its opening brace: minimum, maximum, whether the
mark of the other greed follows, and the text after it. -/
def readBounds (f : Flags) (text : List Char) :
    Except SyntaxError (Nat × Option Nat × Bool × List Char) := do
  let (low, rest) ← readCount f (f.skip text)
  let (min, max, rest) ←
    match rest with
    | [] => .error SyntaxError.repetitionUnclosed
    | ',' :: rest => do
      match low, f.skip rest with
      | _, [] => .error .repetitionUnclosed
      | none, _ => .error .repetitionCountEmpty
      | some min, '}' :: rest => .ok (min, none, '}' :: rest)
      | some min, rest => do
        let (high, rest) ← readCount f rest
        match high with
        | some max => .ok (min, some max, rest)
        | none => .error .repetitionCountEmpty
    | rest =>
      match low with
      | some n => .ok (n, some n, rest)
      | none => .error .repetitionCountEmpty
  match rest with
  | '}' :: rest =>
    let (marked, rest) := match f.skip rest with
      | '?' :: rest => (true, rest)
      | rest => (false, rest)
    if max.all (min ≤ ·) then .ok (min, max, marked, rest) else .error .repetitionReversed
  | _ => .error .repetitionUnclosed

/-! ## Groups and flags -/

/-- The flags changed by the letter of one flag. -/
def Flags.set? (f : Flags) (on : Bool) : Char → Option Flags
  | 'i' => some { f with caseless := on }
  | 'm' => some { f with multiline := on }
  | 's' => some { f with dotAll := on }
  | 'U' => some { f with swapGreed := on }
  | 'u' => some { f with unicode := on }
  | 'R' => some { f with crlf := on }
  | 'x' => some { f with verbose := on }
  | _ => none

/-- Reads flags up to a colon or a closing parenthesis: the changed flags, whether any item was
read, the character that ends them, and the text after it. -/
def readFlags :
    Flags → Bool → List Char → List Char → Except SyntaxError (Flags × Bool × Char × List Char)
  | _, _, _, [] => .error .flagsUnclosed
  | f, on, seen, c :: rest =>
    if c == ':' || c == ')' then
      if seen.head? == some '-' then .error .flagNegationDangling
      else .ok (f, !seen.isEmpty, c, rest)
    else if c == '-' then
      if seen.contains '-' then .error .flagNegationRepeated else readFlags f false
        ('-' :: seen) rest
    else
      match f.set? on c with
      | none => .error .flagUnknown
      | some f => if seen.contains c then .error .flagDuplicate else readFlags f on (c :: seen) rest

/-- What an opening parenthesis starts. -/
inductive Opening
  /-- A change of flags for the rest of the enclosing group. -/
  | flags (f : Flags)
  /-- A group that records nothing, with flags of its own. -/
  | plain (f : Flags)
  /-- A group that records what it matches. -/
  | recording

/-- The text being read, with the groups opened and the names given so far. -/
structure Reading where
  /-- What is left to read. -/
  rest : List Char
  /-- The number of groups opened. -/
  groups : Nat := 0
  /-- The names given to groups. -/
  names : List String := []

/-- Reads what follows an opening parenthesis. -/
def readOpening (f : Flags) (r : Reading) (text : List Char) :
    Except SyntaxError (Opening × Reading) :=
  let named (text : List Char) : Except SyntaxError (Opening × Reading) := do
    let (name, rest) ← readName true [] text
    if r.names.contains name then .error .groupNameDuplicate
    else .ok (.recording, ⟨rest, r.groups + 1, name :: r.names⟩)
  match f.skip text with
  | '?' :: '=' :: _ | '?' :: '!' :: _ | '?' :: '<' :: '=' :: _ | '?' :: '<' :: '!' :: _ =>
    .error .lookAround
  | '?' :: 'P' :: '<' :: rest => named rest
  | '?' :: '<' :: rest => named rest
  | '?' :: [] => .error .groupUnclosed
  | '?' :: rest => do
    let (inner, any, last, rest) ← readFlags f true [] rest
    if last == ':' then .ok (.plain inner, { r with rest })
    else if any then .ok (.flags inner, { r with rest })
    else .error .repetitionMissing
  | rest => .ok (.recording, { r with rest, groups := r.groups + 1 })

/-! ## Expressions -/

/-- The expression for a set. Whether the set was written for ASCII alone makes no difference for
one character or none. -/
def Flags.setExpr (f : Flags) (s : CharSet) : Expr :=
  .set s (!f.unicode && !s.isEmpty && !s.isSingleton)

/-- The expression for a character. -/
def Flags.literal (f : Flags) (c : Char) (twoDigits : Bool) : Except SyntaxError Expr :=
  if f.unicode then .ok (f.setExpr (f.fold (.singleton c)))
  else if twoDigits && 0x80 ≤ c.toNat then .error .partialCharacter
  else .ok (f.setExpr (f.fold (.singleton c)))

/-- The set of characters that the dot matches. -/
def Flags.dot (f : Flags) : Except SyntaxError CharSet :=
  if !f.unicode then .error .partialCharacter
  else if f.dotAll then .ok .all
  else if f.crlf then .ok (CharSet.complement (.ofRuns [(0xA, 0xA, 1), (0xD, 0xD, 1)]))
  else .ok (CharSet.complement (.singleton '\n'))

/-- The assertion that `^` stands for. -/
def Flags.caret (f : Flags) : Assertion := if f.multiline then .lineStart f.crlf else .textStart

/-- The assertion that `$` stands for. -/
def Flags.dollar (f : Flags) : Assertion := if f.multiline then .lineEnd f.crlf else .textEnd

/-- One part of a sequence. -/
inductive Part
  /-- An expression and how deeply it nests. -/
  | expr (e : Expr) (depth : Nat)
  /-- A change of flags, which matches nothing and cannot be repeated. -/
  | flags

/-- The expression of a part. -/
def Part.expression : Part → Expr
  | .expr e _ => e
  | .flags => .empty

/-- How deeply a part nests. -/
def Part.depth : Part → Nat
  | .expr _ depth => depth
  | .flags => 0

/-- The nesting of several things with the given nestings: one alone adds nothing. -/
def joinedDepth : List Nat → Nat
  | [] => 0
  | [d] => d
  | depths => depths.foldl Nat.max 0 + 1

/-- The last part repeated, the parts being in reverse order. -/
def repeatLast (f : Flags) (min : Nat) (max : Option Nat) (marked : Bool) :
    List Part → Except SyntaxError (List Part)
  | .expr e depth :: parts =>
    .ok (.expr (e.repeated min max (marked == f.swapGreed)) (depth + 1) :: parts)
  | _ => .error .repetitionMissing

/-- The bounds of the repetition marks without counts. -/
def markBounds? : Char → Option (Nat × Option Nat)
  | '?' => some (0, some 1)
  | '*' => some (0, none)
  | '+' => some (1, none)
  | _ => none

mutual

/-- Reads alternatives up to a closing parenthesis or the end. The parts of `done` are the
alternatives before, in reverse. The result is the expression, how deeply it nests, the flags at its
end, and what is left. -/
def readAlternatives :
    Nat → Flags → List (Expr × Nat) → Reading → Except SyntaxError (Expr × Nat × Flags × Reading)
  | 0, _, _, _ => .error .nestingTooDeep
  | fuel + 1, f, done, r => do
    let (parts, f, r) ← readParts fuel f [] r
    let branch := (Expr.concatenation (parts.reverse.map Part.expression),
      joinedDepth (parts.map Part.depth))
    match r.rest with
    | '|' :: rest => readAlternatives fuel f (branch :: done) { r with rest }
    | _ =>
      let branches := (branch :: done).reverse
      .ok (Expr.alternation (branches.map Prod.fst), joinedDepth (branches.map Prod.snd), f, r)

/-- Reads the parts of a sequence up to a bar, a closing parenthesis or the end. Parts
are in reverse order. -/
def readParts : Nat → Flags → List Part → Reading → Except SyntaxError (List Part × Flags × Reading)
  | 0, _, _, _ => .error .nestingTooDeep
  | fuel + 1, f, parts, r =>
    let add (e : Expr) (depth : Nat) (rest : List Char) :=
      readParts fuel f (.expr e depth :: parts) { r with rest }
    match f.skip r.rest with
    | [] => .ok (parts, f, { r with rest := [] })
    | '|' :: rest => .ok (parts, f, { r with rest := '|' :: rest })
    | ')' :: rest => .ok (parts, f, { r with rest := ')' :: rest })
    | '(' :: rest => do
      let (opening, inside) ← readOpening f r rest
      let close (f : Flags) (wrap : Expr → Expr) (inner : Flags) := do
        let (e, depth, _, after) ← readAlternatives fuel inner [] inside
        match after.rest with
        | ')' :: rest => readParts fuel f (.expr (wrap e) (depth + 1) :: parts) { after with rest }
        | _ => .error .groupUnclosed
      match opening with
      | .flags changed => readParts fuel changed (.flags :: parts) inside
      | .plain inner => close f id inner
      | .recording => close f (.group inside.groups) f
    | '[' :: rest => do
      let (s, depth, rest) ← readClass f rest
      add (f.setExpr s) depth rest
    | '{' :: rest => do
      let (min, max, marked, rest) ← readBounds f rest
      let parts ← repeatLast f min max marked parts
      readParts fuel f parts { r with rest }
    | '\\' :: rest => do
      let (atom, rest) ← readEscape f rest
      match atom with
      | .literal c twoDigits => do
        let e ← f.literal c twoDigits
        add e 0 rest
      | .set s => add (f.setExpr s) 0 rest
      | .assert a => add (.assert a) 0 rest
    | '.' :: rest => do
      let s ← f.dot
      add (f.setExpr s) 0 rest
    | '^' :: rest => add (.assert f.caret) 0 rest
    | '$' :: rest => add (.assert f.dollar) 0 rest
    | c :: rest =>
      match markBounds? c with
      | some (min, max) => do
        let (marked, rest) := match rest with
          | '?' :: rest => (true, rest)
          | _ => (false, rest)
        let parts ← repeatLast f min max marked parts
        readParts fuel f parts { r with rest }
      | none => do
        let e ← f.literal c false
        add e 0 rest

end

/-- How deeply groups, classes, sequences and repetitions may nest. -/
def nestingLimit : Nat := 250

/-- The expression that a text is the written form of. -/
def parse (text : List Char) : Except SyntaxError Expr := do
  let (e, depth, _, r) ← readAlternatives (2 * text.length + 2) {} [] { rest := text }
  if !r.rest.isEmpty then .error .groupUnopened
  else if nestingLimit < depth then .error .nestingTooDeep
  else .ok e

end Rehearsal.Regex
