import Rehearsal.Unicode.Blank

/-!
# Sets of tags

A tag is kept without the blanks around it and without one leading at sign. A set of tags is an
ordered list without repetitions, so two sets with the same members are equal.
-/

namespace Rehearsal

/-- A tag as sets keep it: without blanks around it and without one leading at sign. -/
def normalTag (tag : String) : String :=
  match trim tag.toList with
  | '@' :: rest => .ofList rest
  | plain => .ofList plain

/-- Adds a tag to ordered tags, at its place. -/
def insertOrdered (tag : String) : List String → List String
  | [] => [tag]
  | t :: rest =>
    if tag < t then tag :: t :: rest
    else if tag = t then t :: rest
    else t :: insertOrdered tag rest

/-- Adding a tag adds that tag and no other. -/
@[simp] theorem mem_insertOrdered {tag t : String} {tags : List String} :
    t ∈ insertOrdered tag tags ↔ t = tag ∨ t ∈ tags := by
  induction tags with
  | nil => simp [insertOrdered]
  | cons u rest ih =>
    unfold insertOrdered
    split
    · simp
    · split
      · next h => simp [h]
      · simp only [List.mem_cons, ih]
        exact or_left_comm

/-- Ordered tags stay ordered when one is added. -/
theorem pairwise_insertOrdered {tag : String} {tags : List String} (h : tags.Pairwise (· < ·)) :
    (insertOrdered tag tags).Pairwise (· < ·) := by
  induction tags with
  | nil => simp [insertOrdered]
  | cons u rest ih =>
    have ⟨before, ordered⟩ := List.pairwise_cons.1 h
    unfold insertOrdered
    split
    · next lt =>
      refine List.pairwise_cons.2 ⟨fun t ht => ?_, h⟩
      rcases List.mem_cons.1 ht with rfl | ht
      · exact lt
      · exact String.lt_trans lt (before t ht)
    · split
      · exact h
      · next notLt ne =>
        refine List.pairwise_cons.2 ⟨fun t ht => ?_, ih ordered⟩
        rcases mem_insertOrdered.1 ht with rfl | ht
        · exact Decidable.byContradiction fun notGt =>
            ne (String.le_antisymm (String.not_lt.1 notGt) (String.not_lt.1 notLt))
        · exact before t ht

/-- A set of tags. -/
structure TagSet where
  /-- The tags in order. -/
  toList : List String
  /-- The tags are in order and none is repeated. -/
  ordered : toList.Pairwise (· < ·)
  deriving DecidableEq

namespace TagSet

/-- The set without tags. -/
def empty : TagSet := ⟨[], .nil⟩

instance : Inhabited TagSet := ⟨empty⟩

/-- The set with one more tag, kept as it is. -/
def add (s : TagSet) (tag : String) : TagSet :=
  ⟨insertOrdered tag s.toList, pairwise_insertOrdered s.ordered⟩

/-- The set with one more tag, brought into the form that sets keep. -/
def insert (s : TagSet) (tag : String) : TagSet := s.add (normalTag tag)

/-- Whether the set has the tag, written with or without its at sign. -/
def contains (s : TagSet) (tag : String) : Bool := s.toList.contains (normalTag tag)

/-- The set of the tags of a list. -/
def ofList (tags : List String) : TagSet := tags.foldl insert empty

/-- The tags of either set. -/
def union (s t : TagSet) : TagSet := t.toList.foldl add s

/-- The number of tags. -/
def size (s : TagSet) : Nat := s.toList.length

/-- Whether there is no tag. -/
def isEmpty (s : TagSet) : Bool := s.toList.isEmpty

end TagSet

end Rehearsal
