import Rehearsal.Unicode.CharSet

/-!
# Blank characters

The characters with the White_Space property, and trimming of texts by them.
-/

namespace Rehearsal

/-- The characters that separate words without being seen. -/
def Unicode.blanks : CharSet :=
  .ofRuns [(0x9, 0xD, 1), (0x20, 0x20, 1), (0x85, 0x85, 1), (0xA0, 0xA0, 1), (0x1680, 0x1680, 1),
    (0x2000, 0x200A, 1), (0x2028, 0x2029, 1), (0x202F, 0x202F, 1), (0x205F, 0x205F, 1),
    (0x3000, 0x3000, 1)]

/-- Whether `c` is a blank. -/
def isBlank (c : Char) : Bool := Unicode.blanks.contains c

/-- The text without the blanks it starts with. -/
def trimStart (text : List Char) : List Char := text.dropWhile isBlank

/-- The text without the blanks it ends with. -/
def trimEnd (text : List Char) : List Char := (text.reverse.dropWhile isBlank).reverse

/-- The text without the blanks around it. -/
def trim (text : List Char) : List Char := trimEnd (trimStart text)

/-- The text without the blanks around it. -/
def trimmed (text : String) : String := .ofList (trim text.toList)

end Rehearsal
