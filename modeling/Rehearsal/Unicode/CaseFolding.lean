import Rehearsal.Unicode.CharSet
import Rehearsal.Unicode.CaseTable

/-!
# Matching without regard to case

Two characters agree up to case if simple folding sends them to the same character. A set is closed
up to case by adding every character that agrees with a member.
-/

namespace Rehearsal.Unicode

/-- The code points that folding changes, each with what it folds to. -/
def foldings : List (Nat × Nat) :=
  CaseTable.foldings.flatMap fun (first, last, step, image) =>
    (CharSet.codesOfRun first last step).map fun code => (code, code - first + image)

/-- The set with every character that agrees with a member up to case. -/
def closeUnderCase (s : CharSet) : CharSet :=
  let folded := foldings.foldl (fun u (a, b) => if s.hasCode a then u.insert b b else u) s
  foldings.foldl (fun u (a, b) => if folded.hasCode b then u.insert a a else u) folded

/-- The set with the other case of each of its ASCII letters. -/
def closeUnderAsciiCase (s : CharSet) : CharSet :=
  (List.range 26).foldl
    (fun u i =>
      let big := 0x41 + i
      let small := 0x61 + i
      let u := if s.hasCode big then u.insert small small else u
      if s.hasCode small then u.insert big big else u)
    s

end Rehearsal.Unicode
