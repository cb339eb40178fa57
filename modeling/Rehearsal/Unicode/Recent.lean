import Rehearsal.Unicode.Property

/-!
# Characters of the following version

What version 17.0 of the Unicode character database adds to version 16.0. Quoting and naming know
these characters; the properties that regular expressions ask for do not have them yet.
-/

namespace Rehearsal.Unicode

/-- The added characters that are shown. -/
def recentGraphic : List (Nat × Nat × Nat) :=
  [(0x88F, 0x88F, 1), (0xC5C, 0xC5C, 1), (0xCDC, 0xCDC, 1), (0x1ACF, 0x1ADD, 1),
   (0x1AE0, 0x1AEB, 1), (0x20C1, 0x20C1, 1), (0x2B96, 0x2B96, 1), (0xA7CE, 0xA7CF, 1),
   (0xA7D2, 0xA7D2, 1), (0xA7D4, 0xA7D4, 1), (0xA7F1, 0xA7F1, 1), (0xFBC3, 0xFBD2, 1),
   (0xFD90, 0xFD91, 1), (0xFDC8, 0xFDCE, 1), (0x10940, 0x10959, 1), (0x10EC5, 0x10EC7, 1),
   (0x10ED0, 0x10ED8, 1), (0x10EFA, 0x10EFB, 1), (0x11B60, 0x11B67, 1), (0x11DB0, 0x11DDB, 1),
   (0x11DE0, 0x11DE9, 1), (0x16EA0, 0x16EB8, 1), (0x16EBB, 0x16ED3, 1), (0x16FF2, 0x16FF6, 1),
   (0x187F8, 0x187FF, 1), (0x18D09, 0x18D1E, 1), (0x18D80, 0x18DF2, 1), (0x1CCFA, 0x1CCFC, 1),
   (0x1CEBA, 0x1CED0, 1), (0x1CEE0, 0x1CEF0, 1), (0x1E6C0, 0x1E6DE, 1), (0x1E6E0, 0x1E6F5, 1),
   (0x1E6FE, 0x1E6FF, 1), (0x1F6D8, 0x1F6D8, 1), (0x1F777, 0x1F77A, 1), (0x1F8D0, 0x1F8D8, 1),
   (0x1FA54, 0x1FA57, 1), (0x1FA8A, 0x1FA8A, 1), (0x1FA8E, 0x1FA8E, 1), (0x1FAC8, 0x1FAC8, 1),
   (0x1FACD, 0x1FACD, 1), (0x1FAEA, 0x1FAEA, 1), (0x1FAEF, 0x1FAEF, 1), (0x1FBFA, 0x1FBFA, 1),
   (0x2B73A, 0x2B73F, 1), (0x2CEA2, 0x2CEAD, 1), (0x323B0, 0x33479, 1)]

/-- The added marks that extend the grapheme before them. -/
def recentExtenders : List (Nat × Nat × Nat) :=
  [(0x1ACF, 0x1ADD, 1), (0x1AE0, 0x1AEB, 1), (0x10EFA, 0x10EFB, 1), (0x11B60, 0x11B60, 1),
   (0x11B62, 0x11B64, 1), (0x11B66, 0x11B66, 1), (0x1E6E3, 0x1E6E3, 1), (0x1E6E6, 0x1E6E6, 1),
   (0x1E6EE, 0x1E6EF, 1), (0x1E6F5, 0x1E6F5, 1)]

/-- The added characters that are alphabetic. -/
def recentAlphabetic : List (Nat × Nat × Nat) :=
  [(0x88F, 0x88F, 1), (0xC5C, 0xC5C, 1), (0xCDC, 0xCDC, 1), (0xA7CE, 0xA7CF, 1),
   (0xA7D2, 0xA7D2, 1), (0xA7D4, 0xA7D4, 1), (0xA7F1, 0xA7F1, 1), (0x10940, 0x10959, 1),
   (0x10EC5, 0x10EC7, 1), (0x10EFA, 0x10EFB, 1), (0x11B60, 0x11B67, 1), (0x11DB0, 0x11DDB, 1),
   (0x16EA0, 0x16EB8, 1), (0x16EBB, 0x16ED3, 1), (0x16FF2, 0x16FF6, 1), (0x187F8, 0x187FF, 1),
   (0x18D09, 0x18D1E, 1), (0x18D80, 0x18DF2, 1), (0x1E6C0, 0x1E6DE, 1), (0x1E6E0, 0x1E6F5, 1),
   (0x1E6FE, 0x1E6FF, 1), (0x2B73A, 0x2B73F, 1), (0x2CEA2, 0x2CEAD, 1), (0x323B0, 0x33479, 1)]

/-- The added digits, numerals and fractions. -/
def recentNumbers : List (Nat × Nat × Nat) :=
  [(0x11DE0, 0x11DE9, 1), (0x16FF4, 0x16FF6, 1)]

/-- The characters that are shown: letters, marks, numbers, punctuation and symbols. -/
def shown : CharSet := graphic.union (.ofRuns recentGraphic)

/-- The marks that extend the grapheme before them. Two sound marks of half width extend it as well,
but they are letters. -/
def extendingMarks : CharSet :=
  (graphemeExtenders.diff (.range 0xFF9E 0xFF9F)).union (.ofRuns recentExtenders)

/-- The characters that names start with. -/
def nameStarts : CharSet := alphabetic.union (.ofRuns recentAlphabetic)

/-- The characters that names go on with: those they start with, and numbers. -/
def nameContinuations : CharSet := nameStarts.union (numbers.union (.ofRuns recentNumbers))

end Rehearsal.Unicode
