import Rehearsal.Arguments

/-!
# Taking arguments

What is left of the arguments of a step when its code has looked at them, read their texts and taken
their values. Only taking changes anything, and it is all or nothing: an argument of the wanted type
becomes the text that it stood for, while one of another type stays as it is. So after any accesses
each argument is what it was, or its text alone.
-/

namespace Rehearsal

/-! ## Single arguments -/

/-- A value is one of its own type, and of no other. -/
theorem Value.as?_eq_none_iff {v : Value} {t : ValueType} : v.as? t = none ↔ v.type ≠ t := by
  simp [Value.as?]

namespace Argument

/-- What comes out of an argument is what it holds. -/
@[simp] theorem released_eq_value (a : Argument) : a.released = a.value := by
  cases a <;> rfl

/-- Nothing is left to be taken of what is left. -/
@[simp] theorem remnant_remnant (a : Argument) : a.remnant.remnant = a.remnant := rfl

/-- The text is left. -/
theorem raw?_remnant {a : Argument} {raw : String} (h : a.raw? = some raw) :
    a.remnant.raw? = some raw := by
  rw [remnant, h]
  rfl

end Argument

/-! ## Accesses -/

/-- An access of code to its arguments. -/
inductive Access : Type 1
  /-- Looks at the text of an argument. -/
  | raw (index : Nat)
  /-- Looks at the value of an argument. -/
  | get (t : ValueType) (index : Nat)
  /-- Reads the text of an argument as a value of a simple type. -/
  | parse (t : ScalarType) (index : Nat)
  /-- Reads the text of an argument as a value of any other type, by what that makes of a text. -/
  | read {α : Type} (read : String → α) (index : Nat)
  /-- Takes the value of an argument. -/
  | take (t : ValueType) (index : Nat)

/-- What an access gives. -/
def Access.Answer : Access → Type
  | .raw _ => Option String
  | .get t _ | .take t _ => Except ArgumentError t.Carrier
  | .parse _ _ => Except ArgumentError Scalar
  | @Access.read α _ _ => Except ArgumentError α

namespace Arguments

/-- What an access gives, and the arguments as it leaves them. -/
def access (args : Arguments) : (a : Access) → a.Answer × Arguments
  | .raw index => (args.raw? index, args)
  | .get t index => (args.get t index, args)
  | .parse t index => (args.parse t index, args)
  | .read read index => ((args.textAt index).map read, args)
  | .take t index => args.take t index

/-- The arguments as accesses leave them that are made one after the other. -/
def after (args : Arguments) : List Access → Arguments
  | [] => args
  | a :: rest => (args.access a).2.after rest

/-- The arguments are what is left of others: each is what it was, or its text alone. -/
structure LeftOf (left args : Arguments) : Prop where
  /-- There are as many. -/
  size : left.size = args.size
  /-- None is anything else. -/
  getElem? : ∀ i : Nat, left.toList[i]? = args.toList[i]? ∨
    left.toList[i]? = args.toList[i]?.map Argument.remnant

/-- Taking the value of the argument at an index, as one of the type `t`, is all or nothing. -/
structure TakesWhole (args : Arguments) (t : ValueType) (index : Nat) : Prop where
  /-- It gives what a look at the value gives, be that the value or the error. -/
  result : (args.take t index).1 = args.get t index
  /-- With an error nothing has changed. -/
  ofError : ∀ e, args.get t index = .error e → (args.take t index).2 = args
  /-- With the value this argument alone has changed: it has become its text, which
  of a table is empty. -/
  ofOk : ∀ v, args.get t index = .ok v → ∃ a, args.toList[index]? = some a ∧
    (args.take t index).2.toList = args.toList.set index (.captured (a.raw?.getD ""))
  /-- No text is lost. -/
  raw? : ∀ i raw, args.raw? i = some raw → (args.take t index).2.raw? i = some raw
  /-- The table below the step is looked for among the other arguments only. -/
  table? : ∀ v, args.get t index = .ok v →
    (args.take t index).2.table? = (Arguments.mk (args.toList.eraseIdx index)).table?
  /-- So is the text below the step. -/
  text? : ∀ v, args.get t index = .ok v →
    (args.take t index).2.text? = (Arguments.mk (args.toList.eraseIdx index)).text?
  /-- Unless it is a text, the value cannot be taken again, whatever accesses
  there are in between. -/
  once : t ≠ .text → ∀ v, args.get t index = .ok v → ∀ accesses,
    (((args.take t index).2.after accesses).take t index).1 = .error (.mismatch index t)

variable {args left : Arguments} {t : ValueType} {index : Nat} {a : Argument}

/-- An argument of another type is refused to a look. -/
theorem get_of_ne (ha : args.toList[index]? = some a) (ht : a.value.type ≠ t) :
    args.get t index = .error (.mismatch index t) := by
  have hat : args.at? index = .ok a := by rw [at?, ha]
  simp only [get, hat, bind, Except.bind, Value.as?_eq_none_iff.2 ht]

/-- A value is either refused, as it is to a look, and nothing changes, or given, as it is to a
look, and the argument is replaced by what is left of it. -/
theorem take_cases (args : Arguments) (t : ValueType) (index : Nat) :
    (∃ e, args.get t index = .error e ∧ args.take t index = (.error e, args)) ∨
    ∃ a v, args.toList[index]? = some a ∧ args.get t index = .ok v ∧
      args.take t index = (.ok v, ⟨args.toList.set index a.remnant⟩) := by
  cases ha : args.toList[index]? with
  | none =>
    have hat : args.at? index = .error (.missing index) := by rw [at?, ha]
    exact .inl
      ⟨.missing index, by simp only [get, hat, bind, Except.bind], by simp only [take, hat]⟩
  | some a =>
    have hat : args.at? index = .ok a := by rw [at?, ha]
    by_cases ht : a.value.type = t
    · subst ht
      -- The test has found the type that comes out, so the value is not lost.
      refine .inr ⟨a, a.value.content, rfl, ?_, ?_⟩
      · simp only [get, hat, bind, Except.bind, Value.as?_type]
      · simp only [take, hat, if_true, Argument.released_eq_value, Value.as?_type]
    · exact .inl ⟨.mismatch index t, get_of_ne ha ht, by simp only [take, hat, if_neg ht]⟩

/-- An argument of another type cannot be taken. -/
theorem take_of_ne (ha : args.toList[index]? = some a) (ht : a.value.type ≠ t) :
    (args.take t index).1 = .error (.mismatch index t) := by
  have hget := get_of_ne ha ht
  rcases args.take_cases t index with ⟨e, he, htake⟩ | ⟨_, v, _, hv, _⟩
  · rw [htake, ← he, hget]
  · cases hget.symm.trans hv

/-! ## What is left -/

namespace LeftOf

theorem refl (args : Arguments) : LeftOf args args := ⟨rfl, fun _ => .inl rfl⟩

theorem trans {last : Arguments} (h : LeftOf left args) (h' : LeftOf last left) :
    LeftOf last args where
  size := h'.size.trans h.size
  getElem? i := by
    rcases h'.getElem? i with heq | heq <;> rcases h.getElem? i with heq' | heq'
    · exact .inl (heq.trans heq')
    · exact .inr (heq.trans heq')
    · exact .inr (by rw [heq, heq'])
    · -- What is left of what is left is the same.
      refine .inr ?_
      rw [heq, heq', Option.map_map]
      exact congrArg (Option.map · _) (funext Argument.remnant_remnant)

/-- The texts are left. -/
theorem raw?_eq (h : LeftOf left args) {i : Nat} {raw : String} (hraw : args.raw? i = some raw) :
    left.raw? i = some raw := by
  obtain ⟨a, ha, hraw⟩ := Option.bind_eq_some_iff.1 hraw
  rw [Arguments.raw?]
  rcases h.getElem? i with heq | heq
  · rw [heq, ha, Option.bind_some, hraw]
  · rw [heq, ha, Option.map_some, Option.bind_some, Argument.raw?_remnant hraw]

/-- Where only a text was left, it still is. -/
theorem remnant_eq (h : LeftOf left args) {i : Nat} (hi : args.toList[i]? = some a.remnant) :
    left.toList[i]? = some a.remnant := by
  rcases h.getElem? i with heq | heq
  · rw [heq, hi]
  · rw [heq, hi, Option.map_some, Argument.remnant_remnant]

/-- Replacing an argument by what is left of it leaves this. -/
theorem set (ha : args.toList[index]? = some a) :
    LeftOf ⟨args.toList.set index a.remnant⟩ args where
  size := List.length_set
  getElem? i := by
    obtain ⟨hlt, -⟩ := List.getElem?_eq_some_iff.1 ha
    by_cases hi : index = i
    · subst hi
      exact .inr (by rw [List.getElem?_set_self hlt, ha, Option.map_some])
    · exact .inl (List.getElem?_set_ne hi)

end LeftOf

/-- One access leaves each argument or its text. -/
theorem access_leftOf (args : Arguments) (access : Access) :
    LeftOf (args.access access).2 args := by
  cases access with
  | take t index =>
    rcases args.take_cases t index with ⟨e, -, htake⟩ | ⟨a, v, ha, -, htake⟩ <;>
      rw [Arguments.access, htake]
    · exact .refl args
    · exact .set ha
  | _ => exact .refl args

/-- So do accesses one after the other. -/
theorem after_leftOf (args : Arguments) (accesses : List Access) :
    LeftOf (args.after accesses) args := by
  induction accesses generalizing args with
  | nil => exact .refl args
  | cons access rest ih => exact (args.access_leftOf access).trans (ih _)

/-! ## What is below the step -/

/-- What is found from the end is not found at a place where there is nothing to be found. -/
theorem findSome?_set {β : Type} (f : Argument → Option β) (items : List Argument)
    (hindex : index < items.length) (ha : f a = none) :
    (items.set index a).reverse.findSome? f = (items.eraseIdx index).reverse.findSome? f := by
  rw [List.set_eq_take_append_cons_drop, if_pos hindex, List.eraseIdx_eq_take_drop_succ]
  simp [List.findSome?_append, ha]

/-! ## Taking -/

/-- Taking is all or nothing. -/
theorem takesWhole (args : Arguments) (t : ValueType) (index : Nat) : args.TakesWhole t index := by
  rcases args.take_cases t index with ⟨e, hget, htake⟩ | ⟨a, v, ha, hget, htake⟩
  · -- Nothing is taken, so that only an error is to be told of.
    have hrefused : ∀ v, args.get t index ≠ .ok v := fun v hv => nomatch hget.symm.trans hv
    exact {
      result := by rw [htake, hget]
      ofError := fun _ _ => by rw [htake]
      ofOk := fun v hv => absurd hv (hrefused v)
      raw? := fun i raw hraw => by rw [htake, hraw]
      table? := fun v hv => absurd hv (hrefused v)
      text? := fun v hv => absurd hv (hrefused v)
      once := fun _ v hv => absurd hv (hrefused v) }
  · obtain ⟨hlt, -⟩ := List.getElem?_eq_some_iff.1 ha
    have hleft : LeftOf (args.take t index).2 args := by
      rw [htake]
      exact .set ha
    exact {
      result := by rw [htake, hget]
      ofError := fun e he => nomatch hget.symm.trans he
      ofOk := fun _ _ => ⟨a, ha, by rw [htake, Argument.remnant]⟩
      raw? := fun i raw hraw => hleft.raw?_eq hraw
      table? := fun _ _ => by
        rw [htake]
        exact findSome?_set Argument.table? args.toList hlt rfl
      text? := fun _ _ => by
        rw [htake]
        exact findSome?_set Argument.text? args.toList hlt rfl
      once := fun ht _ _ accesses => by
        have htext : (args.take t index).2.toList[index]? = some a.remnant := by
          rw [htake, List.getElem?_set_self hlt]
        exact take_of_ne ((after_leftOf _ accesses).remnant_eq htext) (Ne.symm ht) }

/-- Accesses to arguments never change how many there are nor lose a text, and leave each argument
or its text; and from whatever they leave, taking is all or nothing. -/
theorem after_takesWhole (args : Arguments) (accesses : List Access) :
    (args.after accesses).size = args.size ∧
    (∀ i raw, args.raw? i = some raw → (args.after accesses).raw? i = some raw) ∧
    (∀ (i : Nat) (a : Argument), args.toList[i]? = some a →
      (args.after accesses).toList[i]? = some a ∨
      (args.after accesses).toList[i]? = some (.captured (a.raw?.getD ""))) ∧
    ∀ t index, (args.after accesses).TakesWhole t index := by
  have hleft := args.after_leftOf accesses
  refine ⟨hleft.size, fun i raw hraw => hleft.raw?_eq hraw, fun i a ha => ?_,
    (args.after accesses).takesWhole⟩
  rcases hleft.getElem? i with heq | heq
  · exact .inl (heq.trans ha)
  · exact .inr (by rw [heq, ha, Option.map_some, Argument.remnant])

end Arguments

end Rehearsal
