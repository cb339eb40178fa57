import Rehearsal.Unicode.Property
import Rehearsal.Unicode.ScriptTable

/-!
# Classes for the segmentation of text

What a character does where graphemes, words and sentences may be split. The classes of one kind of
split are disjoint; a character in none of them splits as any other.
-/

namespace Rehearsal.Unicode

open CategoryTable PropertyTable ScriptTable

/-! ## Graphemes -/

/-- The characters that go with the one before them in a grapheme. -/
def clusterExtenders : CharSet := graphemeExtenders.union emojiModifiers

/-- The controls, around which graphemes are split. -/
def clusterControls : CharSet :=
  let unassignedIgnorable := assigned.complement.inter defaultIgnorable
  ((unionOfRuns [lineSeparator, paragraphSeparator, control, format]).union
    unassignedIgnorable).diff
    (([clusterExtenders, joiners, .ofRuns prependedMark].foldl CharSet.union
      (.ofRuns [(0xA, 0xA, 1), (0xD, 0xD, 1)])))

/-- The marks that take space and are nevertheless no part of the grapheme before them. -/
def separateMarks : CharSet :=
  .ofRuns [(0x102B, 0x102C, 1), (0x1038, 0x1038, 1), (0x1062, 0x1064, 1), (0x1067, 0x106D, 1),
    (0x1083, 0x1083, 1), (0x1087, 0x108C, 1), (0x108F, 0x108F, 1), (0x109A, 0x109C, 1),
    (0x1A61, 0x1A61, 1), (0x1A63, 0x1A64, 1), (0xAA7B, 0xAA7B, 1), (0xAA7D, 0xAA7D, 1),
    (0x11720, 0x11721, 1)]

/-- The marks that take space in the grapheme before them. -/
def clusterMarks : CharSet :=
  (((CharSet.ofRuns spacingMark).diff clusterExtenders).diff separateMarks).union
    (.ofRuns [(0xE33, 0xE33, 1), (0xEB3, 0xEB3, 1)])

/-- The characters that begin the grapheme of the one after them. -/
def clusterPrefixes : CharSet :=
  unionOfRuns [prependedMark,
    [(0xD4E, 0xD4E, 1), (0x111C2, 0x111C3, 1), (0x113D1, 0x113D1, 1), (0x1193F, 0x1193F, 1),
     (0x11941, 0x11941, 1), (0x11A3A, 0x11A3A, 1), (0x11A84, 0x11A89, 1), (0x11D46, 0x11D46, 1),
     (0x11F02, 0x11F02, 1)]]

/-- The syllables of Hangul that end in a vowel. -/
def openSyllables : CharSet := .ofRuns [(0xAC00, 0xD788, 28)]

/-- The classes for the splitting of graphemes. -/
def clusterClasses : List (List String × CharSet) :=
  [(["cr"], .singleton '\r'),
   (["lf"], .singleton '\n'),
   (["cn", "control"], clusterControls),
   (["ex", "extend"], clusterExtenders),
   (["zwj"], .range 0x200D 0x200D),
   (["ri", "regionalindicator"], regionalIndicators),
   (["pp", "prepend"], clusterPrefixes),
   (["sm", "spacingmark"], clusterMarks),
   (["l"], .ofRuns [(0x1100, 0x115F, 1), (0xA960, 0xA97C, 1)]),
   (["v"], .ofRuns [(0x1160, 0x11A7, 1), (0xD7B0, 0xD7C6, 1), (0x16D63, 0x16D63, 1),
     (0x16D67, 0x16D6A, 1)]),
   (["t"], .ofRuns [(0x11A8, 0x11FF, 1), (0xD7CB, 0xD7FB, 1)]),
   (["lv"], openSyllables),
   (["lvt"], (CharSet.range 0xAC00 0xD7A3).diff openSyllables)]

/-! ## Words -/

/-- The characters that go with the one before them in a word. -/
def wordExtenders : CharSet :=
  (clusterExtenders.union (.ofRuns spacingMark)).diff (.range 0x200D 0x200D)

/-- The letters and signs of Katakana that stay together. -/
def katakanaLetters : CharSet :=
  (CharSet.ofRuns katakana).union
    (.ofRuns [(0x3031, 0x3035, 1), (0x309B, 0x309C, 1), (0x30A0, 0x30A0, 1), (0x30FC, 0x30FC, 1),
      (0xFF70, 0xFF70, 1)])

/-- The letters of Hebrew. -/
def hebrewLetters : CharSet := (CharSet.ofRuns hebrew).inter (.ofRuns otherLetter)

/-- The letters of scripts that are written without spaces between words. -/
def unspacedLetters : CharSet :=
  unionOfRuns [thai, lao, khmer, myanmar, taiLe, newTaiLue, taiTham, taiViet, ahom,
    hiragana, ideographic]

/-- The letters that make words: alphabetic characters but for those of scripts without spaces, and
some modifiers and signs. -/
def wordLetters : CharSet :=
  ([katakanaLetters, wordExtenders, hebrewLetters, unspacedLetters].foldl CharSet.diff
    alphabetic).union
    (.ofRuns [(0x2C2, 0x2C5, 1), (0x2D2, 0x2D7, 1), (0x2DE, 0x2DF, 1), (0x2E5, 0x2EB, 1),
      (0x2ED, 0x2ED, 1), (0x2EF, 0x2FF, 1), (0x55A, 0x55C, 1), (0x55E, 0x55E, 1), (0x58A, 0x58A, 1),
      (0x5F3, 0x5F3, 1), (0x70F, 0x70F, 1), (0xA708, 0xA716, 1), (0xA720, 0xA721, 1),
      (0xA789, 0xA78A, 1), (0xAB5B, 0xAB5B, 1)])

/-- The marks that are drawn around digits, and some other signs that count as digits. -/
def numericSigns : CharSet :=
  ((CharSet.ofRuns prependedMark).diff (.range 0x70F 0x70F)).union
    (.ofRuns [(0x66B, 0x66B, 1), (0x19DA, 0x19DA, 1)])

/-- The classes for the splitting of words. -/
def wordClasses : List (List String × CharSet) :=
  [(["cr"], .singleton '\r'),
   (["lf"], .singleton '\n'),
   (["nl", "newline"], .ofRuns [(0xB, 0xC, 1), (0x85, 0x85, 1), (0x2028, 0x2029, 1)]),
   (["extend"], wordExtenders),
   (["zwj"], .range 0x200D 0x200D),
   (["fo", "format"],
     [wordExtenders, .ofRuns prependedMark, .range 0x200B 0x200D].foldl CharSet.diff
     (.ofRuns format)),
   (["ri", "regionalindicator"], regionalIndicators),
   (["ka", "katakana"], katakanaLetters),
   (["hl", "hebrewletter"], hebrewLetters),
   (["le", "aletter"], wordLetters),
   (["sq", "singlequote"], .singleton '\''),
   (["dq", "doublequote"], .singleton '"'),
   (["mb", "midnumlet"],
     .ofRuns [(0x2E, 0x2E, 1), (0x2018, 0x2019, 1), (0x2024, 0x2024, 1), (0xFE52, 0xFE52, 1),
       (0xFF07, 0xFF07, 1), (0xFF0E, 0xFF0E, 1)]),
   (["ml", "midletter"],
     .ofRuns [(0x3A, 0x3A, 1), (0xB7, 0xB7, 1), (0x387, 0x387, 1), (0x55F, 0x55F, 1),
       (0x5F4, 0x5F4, 1), (0x2027, 0x2027, 1), (0xFE13, 0xFE13, 1), (0xFE55, 0xFE55, 1),
         (0xFF1A, 0xFF1A, 1)]),
   (["mn", "midnum"],
     .ofRuns [(0x2C, 0x2C, 1), (0x3B, 0x3B, 1), (0x37E, 0x37E, 1), (0x589, 0x589, 1),
       (0x60C, 0x60D, 1), (0x66C, 0x66C, 1), (0x7F8, 0x7F8, 1), (0x2044, 0x2044, 1),
         (0xFE50, 0xFE50, 1),
       (0xFE54, 0xFE54, 1), (0xFF0C, 0xFF0C, 1), (0xFF1B, 0xFF1B, 1)]),
   (["nu", "numeric"], decimalDigits.union numericSigns),
   (["ex", "extendnumlet"], unionOfRuns [connectorPunctuation, [(0x202F, 0x202F, 1)]]),
   (["wsegspace"],
     (CharSet.ofRuns spaceSeparator).diff
       (.ofRuns [(0xA0, 0xA0, 1), (0x2007, 0x2007, 1), (0x202F, 0x202F, 1)]))]

/-! ## Sentences -/

/-- The characters that go with the one before them in a sentence. -/
def sentenceExtenders : CharSet :=
  (graphemeExtenders.union (.ofRuns spacingMark)).union (.range 0x200D 0x200D)

/-- The signs that separate paragraphs and lines. -/
def sentenceSeparators : CharSet := .ofRuns [(0x85, 0x85, 1), (0x2028, 0x2029, 1)]

/-- The full stops, which may also stand after an abbreviation. -/
def fullStops : CharSet :=
  .ofRuns [(0x2E, 0x2E, 1), (0x2024, 0x2024, 1), (0xFE52, 0xFE52, 1), (0xFF0E, 0xFF0E, 1)]

/-- The small letters of Georgian, which start sentences as well. -/
def georgianSmall : CharSet := .ofRuns [(0x10D0, 0x10FA, 1), (0x10FD, 0x10FF, 1)]

/-- The capital letters of Georgian, which start no sentences. -/
def georgianCapital : CharSet := .ofRuns [(0x1C90, 0x1CBA, 1), (0x1CBD, 0x1CBF, 1)]

/-- The lowercase letters of sentences. -/
def sentenceLowercase : CharSet := (lowercase.diff graphemeExtenders).diff georgianSmall

/-- The uppercase letters of sentences. -/
def sentenceUppercase : CharSet := (uppercase.union (.ofRuns titlecaseLetter)).diff georgianCapital

/-- The classes for the splitting of sentences. -/
def sentenceClasses : List (List String × CharSet) :=
  [(["cr"], .singleton '\r'),
   (["lf"], .singleton '\n'),
   (["ex", "extend"], sentenceExtenders),
   (["se", "sep"], sentenceSeparators),
   (["fo", "format"],
     (([sentenceExtenders, numericSigns].foldl CharSet.diff (.ofRuns format))).union
     (.range 0x200B 0x200B)),
   (["sp"], (blanks.diff sentenceSeparators).diff (.ofRuns [(0xA, 0xA, 1), (0xD, 0xD, 1)])),
   (["lo", "lower"], sentenceLowercase),
   (["up", "upper"], sentenceUppercase),
   (["le", "oletter"],
     ([sentenceLowercase, sentenceUppercase, sentenceExtenders].foldl CharSet.diff alphabetic).union
       (.range 0x5F3 0x5F3)),
   (["nu", "numeric"], (decimalDigits.union numericSigns).union (.range 0x66C 0x66C)),
   (["at", "aterm"], fullStops),
   (["st", "sterm"], (CharSet.ofRuns sentenceTerminal).diff fullStops),
   (["sc", "scontinue"],
     .ofRuns [(0x2C, 0x2D, 1), (0x3A, 0x3B, 1), (0x37E, 0x37E, 1), (0x55D, 0x55D, 1),
       (0x60C, 0x60D, 1), (0x7F8, 0x7F8, 1), (0x1802, 0x1802, 1), (0x1808, 0x1808, 1),
         (0x2013, 0x2014, 1),
       (0x3001, 0x3001, 1), (0xFE10, 0xFE11, 1), (0xFE13, 0xFE14, 1), (0xFE31, 0xFE32, 1),
       (0xFE50, 0xFE51, 1), (0xFE54, 0xFE55, 1), (0xFE58, 0xFE58, 1), (0xFE63, 0xFE63, 1),
       (0xFF0C, 0xFF0D, 1), (0xFF1A, 0xFF1B, 1), (0xFF64, 0xFF64, 1)]),
   (["cl", "close"],
     unionOfRuns [openPunctuation, closePunctuation, initialPunctuation, finalPunctuation,
       [(0x22, 0x22, 1), (0x27, 0x27, 1), (0x275B, 0x2760, 1), (0x2E00, 0x2E01, 1),
         (0x2E06, 0x2E08, 1),
        (0x2E0B, 0x2E0B, 1), (0x1F676, 0x1F678, 1)]])]

end Rehearsal.Unicode
