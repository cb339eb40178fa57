import Rehearsal.Unicode.Blank
import Rehearsal.Unicode.Category
import Rehearsal.Unicode.PropertyTable

/-!
# Binary properties

Sets of characters that several rules consult (letters of words, alphabetic characters, characters
that extend a grapheme), and the binary properties of the Unicode character database under the names
they go by. Most of them are unions of general categories with some characters added or left out.
-/

namespace Rehearsal.Unicode

open CategoryTable PropertyTable

/-! ## Letters and words -/

/-- The Alphabetic property. -/
def alphabetic : CharSet := letters.union (unionOfRuns [letterNumber, otherAlphabetic])

/-- The Lowercase property. -/
def lowercase : CharSet := unionOfRuns [lowercaseLetter, otherLowercase]

/-- The Uppercase property. -/
def uppercase : CharSet := unionOfRuns [uppercaseLetter, otherUppercase]

/-- The Cased property. -/
def cased : CharSet := (lowercase.union uppercase).union (.ofRuns titlecaseLetter)

/-- The two invisible joiners. -/
def joiners : CharSet := .range 0x200C 0x200D

/-- The characters of words: alphabetic characters, marks, digits, connectors and joiners. -/
def wordCharacters : CharSet :=
  (alphabetic.union marks).union ((unionOfRuns [decimalNumber, connectorPunctuation]).union joiners)

/-! ## Changes of case -/

/-- The characters that full case folding changes. -/
def changedByFolding : CharSet := .ofRuns casefolded

/-- The characters that lowercasing changes. -/
def changedByLowering : CharSet :=
  (changedByFolding.diff (.ofRuns foldedNotLowered)).union (.ofRuns loweredNotFolded)

/-- The characters that uppercasing changes. -/
def changedByRaising : CharSet := .ofRuns uppercased

/-- The characters that titlecasing changes. -/
def changedByTitling : CharSet :=
  (changedByRaising.diff (.ofRuns raisedNotTitled)).union (.ofRuns titledNotRaised)

/-- The characters that do not keep others from being cased or from starting a word: marks, format
characters, modifiers, and punctuation inside words. -/
def caseIgnorable : CharSet :=
  unionOfRuns [nonspacingMark, enclosingMark, format, modifierLetter, modifierSymbol,
    [(0x27, 0x27, 1), (0x2E, 0x2E, 1), (0x3A, 0x3A, 1), (0xB7, 0xB7, 1), (0x387, 0x387, 1),
     (0x55F, 0x55F, 1), (0x5F4, 0x5F4, 1), (0x2018, 0x2019, 1), (0x2024, 0x2024, 1),
       (0x2027, 0x2027, 1),
     (0xFE13, 0xFE13, 1), (0xFE52, 0xFE52, 1), (0xFE55, 0xFE55, 1), (0xFF07, 0xFF07, 1),
     (0xFF0E, 0xFF0E, 1), (0xFF1A, 0xFF1A, 1)]]

/-! ## Graphemes -/

/-- The characters that extend the grapheme before them. -/
def graphemeExtenders : CharSet := unionOfRuns [nonspacingMark, enclosingMark, otherGraphemeExtend]

/-- The characters that graphemes are built on: what is shown or is a space, and extends nothing. -/
def graphemeBases : CharSet := (graphic.union (.ofRuns spaceSeparator)).diff graphemeExtenders

/-- The modifiers of skin tone. -/
def emojiModifiers : CharSet := .range 0x1F3FB 0x1F3FF

/-- The letters that make flags in pairs. -/
def regionalIndicators : CharSet := .range 0x1F1E6 0x1F1FF

/-- The characters that are not shown unless a font has something for them. -/
def defaultIgnorable : CharSet :=
  (unionOfRuns [otherDefaultIgnorable, format, variationSelector]).diff
    (unionOfRuns [prependedMark, [(0xFFF9, 0xFFFB, 1), (0x13430, 0x13440, 1)]])

/-! ## Identifiers -/

/-- What is kept for patterns and is in no identifier. -/
def patternCharacters : CharSet := unionOfRuns [patternSyntax, patternBlank]

/-- The characters that identifiers start with. -/
def identifierStarts : CharSet :=
  (letters.union (unionOfRuns [letterNumber, otherIdentifierStart])).diff patternCharacters

/-- The characters that identifiers go on with. -/
def identifierContinuations : CharSet :=
  (identifierStarts.union
    (unionOfRuns [nonspacingMark, spacingMark, decimalNumber, connectorPunctuation,
      otherIdentifierContinue])).diff patternCharacters

/-- Characters that start or continue identifiers only before they are brought
into compatible form. -/
def incompatible : CharSet :=
  .ofRuns [(0x37A, 0x37A, 1), (0x309B, 0x309C, 1), (0xFC5E, 0xFC63, 1), (0xFDFA, 0xFDFB, 1),
    (0xFE70, 0xFE7E, 2)]

/-- Characters that start identifiers only before they are brought into compatible form. -/
def incompatibleStarts : CharSet :=
  .ofRuns [(0xE33, 0xE33, 1), (0xEB3, 0xEB3, 1), (0xFF9E, 0xFF9F, 1)]

/-! ## Digits and code points set aside -/

/-- The hexadecimal digits of ASCII. -/
def asciiHexDigits : CharSet := .ofRuns [(0x30, 0x39, 1), (0x41, 0x46, 1), (0x61, 0x66, 1)]

/-- The hexadecimal digits of ASCII in full width. -/
def wideHexDigits : CharSet :=
  .ofRuns [(0xFF10, 0xFF19, 1), (0xFF21, 0xFF26, 1), (0xFF41, 0xFF46, 1)]

/-- The code points that are never characters: a row of thirty-two, and the
last two of each plane. -/
def noncharacters : CharSet :=
  .ofRuns ((0xFDD0, 0xFDEF, 1) ::
    (List.range 17).map fun plane => (plane * 0x10000 + 0xFFFE, plane * 0x10000 + 0xFFFF, 1))

/-! ## All binary properties -/

/-- The binary properties under the names they go by, in small letters without separators. -/
def binaryProperties : List (List String × CharSet) :=
  [(["ahex", "asciihexdigit"], asciiHexDigits),
   (["alpha", "alphabetic"], alphabetic),
   (["bidic", "bidicontrol"], .ofRuns bidiControl),
   (["bidim", "bidimirrored"], .ofRuns bidiMirrored),
   (["ci", "caseignorable"], caseIgnorable),
   (["cased"], cased),
   (["cwcf", "changeswhencasefolded"], changedByFolding),
   (["cwcm", "changeswhencasemapped"],
     (changedByLowering.union changedByRaising).union changedByTitling),
   (["cwl", "changeswhenlowercased"], changedByLowering),
   (["cwt", "changeswhentitlecased"], changedByTitling),
   (["cwu", "changeswhenuppercased"], changedByRaising),
   (["dash"], .ofRuns dash),
   (["di", "defaultignorablecodepoint"], defaultIgnorable),
   (["dep", "deprecated"], .ofRuns deprecated),
   (["dia", "diacritic"], .ofRuns diacritic),
   (["emoji"], .ofRuns emoji),
   (["ecomp", "emojicomponent"], .ofRuns emojiComponent),
   (["emod", "emojimodifier"], emojiModifiers),
   (["ebase", "emojimodifierbase"], .ofRuns emojiModifierBase),
   (["epres", "emojipresentation"], .ofRuns emojiPresentation),
   (["extpict", "extendedpictographic"], .ofRuns pictographic),
   (["ext", "extender"], .ofRuns extender),
   (["grbase", "graphemebase"], graphemeBases),
   (["grext", "graphemeextend"], graphemeExtenders),
   (["grlink", "graphemelink"], .ofRuns graphemeLink),
   (["hex", "hexdigit"], asciiHexDigits.union wideHexDigits),
   (["hyphen"], .ofRuns hyphen),
   (["idsb", "idsbinaryoperator"],
     .ofRuns [(0x2FF0, 0x2FF1, 1), (0x2FF4, 0x2FFD, 1), (0x31EF, 0x31EF, 1)]),
   (["idst", "idstrinaryoperator"], .range 0x2FF2 0x2FF3),
   (["idsu", "idsunaryoperator"], .range 0x2FFE 0x2FFF),
   (["idcompatmathcontinue"], .ofRuns compatMathContinue),
   (["idcompatmathstart"], .ofRuns compatMathStart),
   (["idc", "idcontinue"], identifierContinuations),
   (["ids", "idstart"], identifierStarts),
   (["ideo", "ideographic"], .ofRuns ideographic),
   (["joinc", "joincontrol"], joiners),
   (["loe", "logicalorderexception"], .ofRuns logicalOrderException),
   (["lower", "lowercase"], lowercase),
   (["math"], unionOfRuns [mathSymbol, otherMath]),
   (["mcm", "modifiercombiningmark"], .ofRuns modifierCombiningMark),
   (["nchar", "noncharactercodepoint"], noncharacters),
   (["oalpha", "otheralphabetic"], .ofRuns otherAlphabetic),
   (["odi", "otherdefaultignorablecodepoint"], .ofRuns otherDefaultIgnorable),
   (["ogrext", "othergraphemeextend"], .ofRuns otherGraphemeExtend),
   (["oidc", "otheridcontinue"], .ofRuns otherIdentifierContinue),
   (["oids", "otheridstart"], .ofRuns otherIdentifierStart),
   (["olower", "otherlowercase"], .ofRuns otherLowercase),
   (["omath", "othermath"], .ofRuns otherMath),
   (["oupper", "otheruppercase"], .ofRuns otherUppercase),
   (["patsyn", "patternsyntax"], .ofRuns patternSyntax),
   (["patws", "patternwhitespace"], .ofRuns patternBlank),
   (["pcm", "prependedconcatenationmark"], .ofRuns prependedMark),
   (["qmark", "quotationmark"], .ofRuns quotationMark),
   (["radical"], .ofRuns radical),
   (["ri", "regionalindicator"], regionalIndicators),
   (["sterm", "sentenceterminal"], .ofRuns sentenceTerminal),
   (["sd", "softdotted"], .ofRuns softDotted),
   (["term", "terminalpunctuation"], .ofRuns terminalPunctuation),
   (["uideo", "unifiedideograph"], .ofRuns unifiedIdeograph),
   (["upper", "uppercase"], uppercase),
   (["vs", "variationselector"], .ofRuns variationSelector),
   (["space", "wspace", "whitespace"], blanks),
   (["xidc", "xidcontinue"], identifierContinuations.diff incompatible),
   (["xids", "xidstart"], (identifierStarts.diff incompatible).diff incompatibleStarts)]

end Rehearsal.Unicode
