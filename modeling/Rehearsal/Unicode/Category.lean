import Rehearsal.Unicode.CharSet
import Rehearsal.Unicode.CategoryTable

/-!
# General categories

Every assigned code point belongs to one of twenty-eight general categories. The broad categories
(letters, marks, numbers, punctuation, symbols, separators) are unions of these.
-/

namespace Rehearsal.Unicode

open CategoryTable

/-- The members of the categories with the given runs. -/
def unionOfRuns (lists : List (List (Nat × Nat × Nat))) : CharSet :=
  lists.foldl (fun s runs => s.union (.ofRuns runs)) .empty

/-- Uppercase, lowercase and titlecase letters. -/
def casedLetters : CharSet := unionOfRuns [uppercaseLetter, lowercaseLetter, titlecaseLetter]

/-- Letters. -/
def letters : CharSet := unionOfRuns [otherLetter, lowercaseLetter, uppercaseLetter, modifierLetter,
  titlecaseLetter]

/-- Marks that combine with the character before them. -/
def marks : CharSet := unionOfRuns [nonspacingMark, spacingMark, enclosingMark]

/-- Digits of the decimal systems. -/
def decimalDigits : CharSet := .ofRuns decimalNumber

/-- Digits, numerals and fractions. -/
def numbers : CharSet := unionOfRuns [decimalNumber, letterNumber, otherNumber]

/-- Punctuation. -/
def punctuation : CharSet := unionOfRuns [otherPunctuation, openPunctuation, closePunctuation,
  dashPunctuation, initialPunctuation, finalPunctuation, connectorPunctuation]

/-- Symbols. -/
def symbols : CharSet := unionOfRuns [otherSymbol, mathSymbol, modifierSymbol, currencySymbol]

/-- Spaces and the separators of lines and paragraphs. -/
def separators : CharSet := unionOfRuns [spaceSeparator, lineSeparator, paragraphSeparator]

/-- The assigned code points that are shown: letters, marks, numbers, punctuation and symbols. -/
def graphic : CharSet :=
  [marks, numbers, punctuation, symbols].foldl CharSet.union letters

/-- The assigned code points. -/
def assigned : CharSet :=
  (graphic.union separators).union (unionOfRuns [control, format, privateUse])

/-- Controls, format characters, private use and unassigned code points. -/
def others : CharSet := (graphic.union separators).complement

/-- The general categories under the names they go by, in small letters without separators. -/
def categories : List (List String × CharSet) :=
  [(["l", "letter"], letters),
   (["lc", "casedletter"], casedLetters),
   (["lu", "uppercaseletter"], .ofRuns uppercaseLetter),
   (["ll", "lowercaseletter"], .ofRuns lowercaseLetter),
   (["lt", "titlecaseletter"], .ofRuns titlecaseLetter),
   (["lm", "modifierletter"], .ofRuns modifierLetter),
   (["lo", "otherletter"], .ofRuns otherLetter),
   (["m", "mark", "combiningmark"], marks),
   (["mn", "nonspacingmark"], .ofRuns nonspacingMark),
   (["mc", "spacingmark"], .ofRuns spacingMark),
   (["me", "enclosingmark"], .ofRuns enclosingMark),
   (["n", "number"], numbers),
   (["nd", "decimalnumber", "digit"], decimalDigits),
   (["nl", "letternumber"], .ofRuns letterNumber),
   (["no", "othernumber"], .ofRuns otherNumber),
   (["p", "punctuation", "punct"], punctuation),
   (["pc", "connectorpunctuation"], .ofRuns connectorPunctuation),
   (["pd", "dashpunctuation"], .ofRuns dashPunctuation),
   (["ps", "openpunctuation"], .ofRuns openPunctuation),
   (["pe", "closepunctuation"], .ofRuns closePunctuation),
   (["pi", "initialpunctuation"], .ofRuns initialPunctuation),
   (["pf", "finalpunctuation"], .ofRuns finalPunctuation),
   (["po", "otherpunctuation"], .ofRuns otherPunctuation),
   (["s", "symbol"], symbols),
   (["sm", "mathsymbol"], .ofRuns mathSymbol),
   (["sc", "currencysymbol"], .ofRuns currencySymbol),
   (["sk", "modifiersymbol"], .ofRuns modifierSymbol),
   (["so", "othersymbol"], .ofRuns otherSymbol),
   (["z", "separator"], separators),
   (["zs", "spaceseparator"], .ofRuns spaceSeparator),
   (["zl", "lineseparator"], .ofRuns lineSeparator),
   (["zp", "paragraphseparator"], .ofRuns paragraphSeparator),
   (["c", "other"], others),
   (["cc", "control", "cntrl"], .ofRuns control),
   (["cf", "format"], .ofRuns format),
   (["co", "privateuse"], .ofRuns privateUse),
   (["cn", "unassigned"], assigned.complement),
   (["any"], .all),
   (["assigned"], assigned),
   (["ascii"], .range 0 0x7F)]

end Rehearsal.Unicode
