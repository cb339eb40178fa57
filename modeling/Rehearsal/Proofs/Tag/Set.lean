import Mathlib.Data.List.Sort
import Rehearsal.Tag.Set

/-!
# Members of tag sets

A set of tags is known by its members, and each operation on sets is known by the members
of its result. So laws of sets, as that a union with what is already there changes nothing,
are laws of membership.
-/

namespace Rehearsal.TagSet

/-- Sets with the same members are the same. -/
theorem ext_mem {s t : TagSet} (h : ∀ tag, tag ∈ s.toList ↔ tag ∈ t.toList) : s = t := by
  have hlist : s.toList = t.toList := s.ordered.eq_of_mem_iff t.ordered h
  cases s
  cases t
  cases hlist
  rfl

/-- The empty set has no members. -/
@[simp] theorem not_mem_empty (tag : String) : tag ∉ empty.toList := List.not_mem_nil

/-- Adding a tag adds that member. -/
@[simp] theorem mem_add {s : TagSet} {tag t : String} :
    t ∈ (s.add tag).toList ↔ t = tag ∨ t ∈ s.toList :=
  mem_insertOrdered

/-- Operations that add a member each add their members one after the other. -/
theorem mem_foldl {step : TagSet → String → TagSet} {member : String → String}
    (hstep : ∀ s tag t, t ∈ (step s tag).toList ↔ t = member tag ∨ t ∈ s.toList)
    (tags : List String) (s : TagSet) (t : String) :
    t ∈ (tags.foldl step s).toList ↔ (∃ tag ∈ tags, member tag = t) ∨ t ∈ s.toList := by
  induction tags generalizing s with
  | nil => simp
  | cons tag rest ih =>
    rw [List.foldl_cons, ih, hstep, eq_comm (a := t), or_left_comm, ← or_assoc]
    simp

/-- The members of a union are those of either set. -/
@[simp] theorem mem_union {s t : TagSet} {tag : String} :
    tag ∈ (s.union t).toList ↔ tag ∈ s.toList ∨ tag ∈ t.toList := by
  have hadd : ∀ (s : TagSet) (tag t : String), t ∈ (s.add tag).toList ↔ t = id tag ∨ t ∈ s.toList :=
    fun _ _ _ => mem_add
  rw [union, mem_foldl hadd]
  simp [or_comm]

/-- The members of the set of a list are its tags in the form that sets keep. -/
@[simp] theorem mem_ofList {tags : List String} {tag : String} :
    tag ∈ (ofList tags).toList ↔ ∃ raw ∈ tags, normalTag raw = tag := by
  have hinsert : ∀ (s : TagSet) (tag t : String), t ∈ (s.insert tag).toList ↔ t = normalTag tag ∨
      t ∈ s.toList :=
    fun _ _ _ => mem_add
  rw [ofList, mem_foldl hinsert]
  simp

/-- A union with a set that it has been made of changes nothing. -/
theorem union_union (s t : TagSet) : s.union (s.union t) = s.union t := by
  apply ext_mem
  intro tag
  rw [mem_union, mem_union, or_self_left]

end Rehearsal.TagSet
