import Rehearsal.Unicode.CharSet

/-!
# Characters as bytes

In UTF-8 a character is a leading byte and up to three continuation bytes, each of which
holds six bits of the code point. A range of code points is the disjoint union of a few
products of byte ranges.
-/

namespace Rehearsal.Unicode

/-- A product of byte ranges: the texts whose bytes lie in the ranges one after the other. -/
abbrev ByteSequence := List (Nat × Nat)

/-- The products that make up the numbers from `low` to `high`, which have a leading byte above
`base` and `count` continuation bytes. What starts in the middle of a leading byte's numbers comes
first, then the leading bytes with all of their numbers, then what ends in the middle. -/
def splitNumbers (base : Nat) : Nat → Nat → Nat → List ByteSequence
  | 0, low, high => [[(base + low, base + high)]]
  | count + 1, low, high =>
    let unit := 64 ^ (count + 1)
    let within (lead low high : Nat) : List ByteSequence :=
      (splitNumbers 0x80 count low high).map ((base + lead, base + lead) :: ·)
    let first := low / unit
    let last := high / unit
    let startsInside := low % unit != 0
    let endsInside := high % unit != unit - 1
    if first = last then within first (low % unit) (high % unit)
    else
      let opening := if startsInside then within first (low % unit) (unit - 1) else []
      let closing := if endsInside then within last 0 (high % unit) else []
      let start := if startsInside then first + 1 else first
      let stop := if endsInside then last else last + 1
      let whole :=
        if start < stop then
          [(base + start, base + stop - 1) :: List.replicate (count + 1) (0x80, 0xBF)]
        else []
      opening ++ whole ++ closing

/-- The code points by the length of their characters: the first and the last, what leading bytes
lie above, and the number of continuation bytes. No character is a surrogate. -/
def lengthClasses : List (Nat × Nat × Nat × Nat) :=
  [(0, 0x7F, 0, 0), (0x80, 0x7FF, 0xC0, 1), (0x800, 0xD7FF, 0xE0, 2), (0xE000, 0xFFFF, 0xE0, 2),
   (0x10000, CharSet.lastCode, 0xF0, 3)]

/-- The products of byte ranges that make up the characters from `first` to `last`, in increasing
order. -/
def byteSequences (first last : Nat) : List ByteSequence :=
  lengthClasses.flatMap fun (low, high, base, count) =>
    if max low first ≤ min high last then splitNumbers base count (max low first)
      (min high last) else []

/-- The bytes of the character with the given code point. -/
def bytesOfCode (code : Nat) : List Nat := ((byteSequences code code).headD []).map Prod.fst

/-- The number of bytes of the character with the given code point. -/
def byteCount (code : Nat) : Nat :=
  if code < 0x80 then 1 else if code < 0x800 then 2 else if code < 0x10000 then 3 else 4

end Rehearsal.Unicode
