import Rehearsal.Proofs.Run.Trace

/-!
# Transformation of arguments

What a match of a step gives, its captures and then what is below the step, is taken value by
value, each on the world that the values before it leave. One value is kept as it is, or given to
the one transform that is for it, which is called once; several transforms for it, or one that
fails, end the transformation.
-/

namespace Rehearsal

open Journaled

variable {W σ ν α : Type}

/-! ## Calls -/

/-- Whether the call is one of a transform. -/
def Call.isTransform : Call → Bool
  | .transform _ _ | .tableTransform _ _ => true
  | _ => false

/-- The call that the entry is. -/
def Entry.call? : Entry ν → Option Call
  | .called call => some call
  | _ => none

/-- The calls in a journal, in order. -/
def calls (entries : List (Entry ν)) : List Call := entries.filterMap Entry.call?

theorem calls_append (before after : List (Entry ν)) :
    calls (before ++ after) = calls before ++ calls after :=
  List.filterMap_append

/-- Notes are no calls. -/
theorem calls_map_noted (notes : List ν) : calls (notes.map Entry.noted) = [] := by
  rw [calls, List.filterMap_map, List.filterMap_eq_nil_iff]
  exact fun _ _ => rfl

theorem calls_ofCall (call : Call) (notes : List ν) (result : Except Failure α) :
    calls (Entry.ofCall call notes result) = [call] := by
  have hnotes := calls_map_noted notes
  cases result with
  | ok value => exact congrArg (call :: ·) hnotes
  | error f =>
    change call :: calls (notes.map Entry.noted ++ [.failed call f]) = _
    rw [calls_append, hnotes]
    rfl

/-! ## Values -/

/-- A value that a match of a step gives. -/
inductive Subject
  /-- A capture of its pattern. -/
  | capture (raw : String)
  /-- The table below the step. -/
  | table (t : Table)
  /-- The text below the step. -/
  | text (raw : String)

namespace Subject

/-- The text that transforms match and that errors name. -/
def value : Subject → String
  | .capture raw | .text raw => raw
  | .table t => t.signature

/-- The value as it is. -/
def plain : Subject → Argument
  | .capture raw => .captured raw
  | .table t => .table t
  | .text raw => .text raw

/-- What is below a step. -/
def below : StepArgument → Subject
  | .table t => .table t
  | .text raw => .text raw

/-- The values of a step in order: the captures, then what is below. -/
def all (captures : List String) (argument : Option StepArgument) : List Subject :=
  captures.map .capture ++ argument.toList.map below

end Subject

/-- A transform that is for a value. -/
structure Candidate (W σ ν : Type) where
  /-- The source of its pattern. -/
  source : String
  /-- The call of its code. -/
  call : Call
  /-- What its code does with the value. -/
  code : Journaled (W × σ) ν (Verdict Value)

/-- What the groups of a pattern capture of a text, or the whole text if there are no groups. -/
def Pattern.groupsOrWhole (p : Pattern) (text : String) : List String :=
  if p.program.groups = 0 then [text] else (p.captures text).getD []

/-- A pattern that matches a text captures a part of it for each of its groups. -/
theorem Pattern.exists_captures {p : Pattern} {text : String} (h : p.isMatch text = true) :
    ∃ captures, p.captures text = some captures ∧ captures.length = p.program.groups := by
  obtain ⟨m, hm⟩ := Option.isSome_iff_exists.1 h
  refine ⟨m.captures text.toList.toArray p.program.groups, ?_, ?_⟩
  · rw [Pattern.captures, hm]
    rfl
  · rw [Regex.Match.captures, List.length_map, List.length_range]

/-- A transform as one that is for a capture. -/
def TransformDefinition.candidate (raw : String) (d : TransformDefinition W σ ν) :
    Candidate W σ ν where
  source := d.pattern.source
  call := .transform d.pattern.source (d.pattern.groupsOrWhole raw)
  code := d.code (d.pattern.groupsOrWhole raw)

/-- A transform of tables as one that is for a table. -/
def TableTransformDefinition.candidate (t : Table) (d : TableTransformDefinition W σ ν) :
    Candidate W σ ν where
  source := d.pattern.source
  call := .tableTransform d.pattern.source t.signature
  code := d.code t

namespace Registry

/-- The transforms that are for a value, in the order in which they were registered. A text below a
step is not transformed. -/
def candidates (r : Registry W σ ν) : Subject → List (Candidate W σ ν)
  | .capture raw => (r.matchingTransforms raw).map (TransformDefinition.candidate raw)
  | .table t => (r.matchingTableTransforms t.signature).map (TableTransformDefinition.candidate t)
  | .text _ => []

/-- The transformation of one value: what becomes of it on the world `t`, the world that is
left, and the entries. -/
inductive Transforms (r : Registry W σ ν) (s : Subject) (t : W × σ) :
    Except TransformError Argument → W × σ → List (Entry ν) → Prop
  /-- What no transform is for stays as it is. -/
  | plain (h : r.candidates s = []) : Transforms r s t (.ok s.plain) t []
  /-- What one transform is for becomes what its code gives. -/
  | done {c : Candidate W σ ν} {value : Value} {t₁ : W × σ} {notes : List ν}
    (h : r.candidates s = [c]) (hcode : c.code t = (.done value, t₁, notes)) :
    Transforms r s t (.ok (.transformed s.value value)) t₁ (.called c.call :: notes.map .noted)
  /-- The code may fail or panic. -/
  | failed {c : Candidate W σ ν} {verdict : Verdict Value} {f : Failure} {t₁ : W × σ}
    {notes : List ν} (h : r.candidates s = [c]) (hcode : c.code t = (verdict, t₁, notes))
    (hfailed : verdict.guarded = .error f) :
    Transforms r s t (.error (.failed c.source s.value f)) t₁
      (.called c.call :: (notes.map .noted ++ [.failed c.call f]))
  /-- What several transforms are for is given to none. -/
  | ambiguous (h : 2 ≤ (r.candidates s).length) :
    Transforms r s t (.error (.ambiguous s.value ((r.candidates s).map Candidate.source))) t []

/-- Values transformed one after the other, each on the world that those before it leave. -/
inductive TransformsAll (r : Registry W σ ν) :
    List Subject → W × σ → List Argument → W × σ → List (Entry ν) → Prop
  | nil (t : W × σ) : TransformsAll r [] t [] t []
  | cons {s : Subject} {rest : List Subject} {t t₁ t₂ : W × σ} {a : Argument}
    {arguments : List Argument} {before after : List (Entry ν)}
    (h : r.Transforms s t (.ok a) t₁ before) (hrest : TransformsAll r rest t₁ arguments t₂ after) :
    TransformsAll r (s :: rest) t (a :: arguments) t₂ (before ++ after)

/-- The call of the transform that is for a value, if there is exactly one. -/
def onlyCall? (r : Registry W σ ν) (s : Subject) : Option Call :=
  match r.candidates s with
  | [c] => some c.call
  | _ => none

/-- The transformation of the values of a step on the world `t` gives arguments. -/
structure Transformed (r : Registry W σ ν) (captures : List String) (below : Option StepArgument)
    (t : W × σ) (arguments : Arguments) (t' : W × σ) (entries : List (Entry ν)) : Prop where
  /-- All values are transformed, in order. -/
  inOrder : r.TransformsAll (Subject.all captures below) t arguments.toList t' entries
  /-- There is an argument for each capture, and one more if there is something below the step. -/
  size : arguments.size = captures.length + if below.isSome then 1 else 0
  /-- The arguments of captures keep their texts. -/
  raw : ∀ i < captures.length, arguments.raw? i = captures[i]?
  /-- The values for which there is a transform lead to its call, once each and in order. -/
  calls : calls entries = (Subject.all captures below).filterMap r.onlyCall?

/-- The transformation of the values of a step on the world `t` ends with an error: that of the
first value that cannot be transformed, after all that are before it have been. -/
inductive Stopped (r : Registry W σ ν) (captures : List String) (below : Option StepArgument)
    (t : W × σ) :
    TransformError → W × σ → List (Entry ν) → Prop
  /-- The error names the value. What is called are the transforms of the values before it, and its
  own if that is what failed; with several transforms for it, none of them is. -/
  | intro {passed later : List Subject} {s : Subject} {arguments : List Argument} {t₁ t₂ : W × σ}
    {before own : List (Entry ν)} {e : TransformError}
    (hall : Subject.all captures below = passed ++ s :: later)
    (hpassed : r.TransformsAll passed t arguments t₁ before)
    (hfails : r.Transforms s t₁ (.error e) t₂ own)
    (hbefore : calls before = passed.filterMap r.onlyCall?)
    (hown : (e = .ambiguous s.value ((r.candidates s).map Candidate.source) ∧ calls own = []) ∨
      ∃ source f call, e = .failed source s.value f ∧ r.onlyCall? s = some call ∧
        calls own = [call]) :
    Stopped r captures below t e t₂ (before ++ own)

/-! ## Lookup -/

variable {r : Registry W σ ν} {s : Subject} {t t₁ t₂ : W × σ}

/-- What a transform is called with for a capture. -/
theorem transformInput_eq {p : Pattern} {raw : String} (h : p.isMatch raw = true) :
    transformInput p raw = p.groupsOrWhole raw := by
  obtain ⟨groups, hcaptures, hlength⟩ := Pattern.exists_captures h
  rw [transformInput, Pattern.groupsOrWhole, hcaptures]
  cases groups with
  | nil => exact (if_pos hlength.symm).symm
  | cons group groups => exact (if_neg (hlength ▸ Nat.succ_ne_zero _)).symm

/-- Transforms a value of any kind. -/
def transformSubject (r : Registry W σ ν) (s : Subject) :
    Journaled (W × σ) (Entry ν) (Except TransformError Argument) :=
  match r.candidates s with
  | [] => pure (.ok s.plain)
  | [c] => do
    match ← calling c.call c.code with
    | .ok value => return .ok (.transformed s.value value)
    | .error f => return .error (.failed c.source s.value f)
  | cs => pure (.error (.ambiguous s.value (cs.map Candidate.source)))

theorem transformSubject_capture (r : Registry W σ ν) (raw : String) :
    r.transformSubject (.capture raw) = r.transformCapture raw := by
  rw [transformSubject, transformCapture, candidates]
  rcases hfound : r.matchingTransforms raw with _ | ⟨d, _ | ⟨d', ds⟩⟩
  · rfl
  · have hmatch : d.pattern.isMatch raw = true :=
      (List.mem_filter.1 (show d ∈
        r.matchingTransforms raw from hfound ▸ List.mem_singleton_self d)).2
    simp only [transformInput_eq hmatch]
    rfl
  · change pure (Except.error (TransformError.ambiguous _ (((d :: d' :: ds).map _).map _))) = _
    rw [List.map_map]
    rfl

theorem transformSubject_table (r : Registry W σ ν) (t : Table) :
    r.transformSubject (.table t) = r.transformTable t := by
  rw [transformSubject, transformTable, candidates]
  rcases r.matchingTableTransforms t.signature with _ | ⟨d, _ | ⟨d', ds⟩⟩
  · rfl
  · rfl
  · change pure (Except.error (TransformError.ambiguous _ (((d :: d' :: ds).map _).map _))) = _
    rw [List.map_map]
    rfl

/-- What becomes of a value is one of these. -/
theorem transformSubject_transforms (r : Registry W σ ν) (s : Subject) (t : W × σ) :
    r.Transforms s t (r.transformSubject s t).1 (r.transformSubject s t).2.1
      (r.transformSubject s t).2.2 := by
  rw [transformSubject]
  rcases hfound : r.candidates s with _ | ⟨c, _ | ⟨c', cs⟩⟩
  · exact .plain hfound
  · rcases hcode : c.code t with ⟨verdict, t₁, notes⟩
    dsimp only
    rw [bind_apply, calling_apply hcode]
    cases hguarded : verdict.guarded with
    | ok value =>
      have hdone : verdict = .done value := by cases verdict <;> simp_all [Verdict.guarded]
      simpa [Entry.ofCall] using Transforms.done hfound (hdone ▸ hcode)
    | error f => simpa [Entry.ofCall] using Transforms.failed hfound hcode hguarded
  · have hseveral : 2 ≤ (r.candidates s).length := by simp [hfound]
    have hambiguous := Transforms.ambiguous (t := t) hseveral
    rw [hfound] at hambiguous
    exact hambiguous

/-- There is no other way to transform the value. -/
theorem Transforms.eq {result : Except TransformError Argument} {entries : List (Entry ν)}
    (h : r.Transforms s t result t₁ entries) : r.transformSubject s t = (result, t₁, entries) := by
  cases h with
  | plain hnone =>
    rw [transformSubject, hnone]
    rfl
  | done hone hcode =>
    rw [transformSubject, hone]
    dsimp only
    rw [bind_apply, calling_apply hcode]
    simp [Entry.ofCall, Verdict.guarded]
  | failed hone hcode hfailed =>
    rw [transformSubject, hone]
    dsimp only
    rw [bind_apply, calling_apply hcode, hfailed]
    simp [Entry.ofCall]
  | ambiguous hseveral =>
    rw [transformSubject]
    rcases hfound : r.candidates s with _ | ⟨c, _ | ⟨c', cs⟩⟩
    · simp [hfound] at hseveral
    · simp [hfound] at hseveral
    · rfl

/-! ## All values -/

/-- Values are transformed in order, up to one that fails. -/
def transformSubjects (r : Registry W σ ν) :
    List Subject → Journaled (W × σ) (Entry ν) (Except TransformError (List Argument))
  | [] => pure (.ok [])
  | s :: rest => do
    match ← r.transformSubject s with
    | .error e => return .error e
    | .ok a =>
      let result ← r.transformSubjects rest
      return result.map (a :: ·)

theorem transformSubjects_append (r : Registry W σ ν) (front back : List Subject) :
    r.transformSubjects (front ++ back) = (do
      match ← r.transformSubjects front with
      | .error e => return .error e
      | .ok arguments => return (← r.transformSubjects back).map (arguments ++ ·)) := by
  induction front with
  | nil =>
    rw [List.nil_append, transformSubjects, pure_bind]
    refine (bind_pure _).symm.trans (bind_congr fun result => ?_)
    cases result <;> rfl
  | cons s front ih =>
    rw [List.cons_append, transformSubjects, transformSubjects, bind_assoc]
    refine bind_congr fun result => ?_
    cases result with
    | error e => rfl
    | ok a =>
      rw [ih]
      simp only [bind_assoc, pure_bind]
      refine bind_congr fun result => ?_
      cases result with
      | error e => rfl
      | ok arguments =>
        simp only [bind_assoc, pure_bind, Except.map]
        refine bind_congr fun result => ?_
        cases result <;> rfl

theorem transformSubjects_captures (r : Registry W σ ν) (captures : List String) :
    r.transformSubjects (captures.map .capture) = r.transformCaptures captures := by
  induction captures with
  | nil => rfl
  | cons capture rest ih =>
    rw [List.map_cons, transformSubjects, transformCaptures, transformSubject_capture, ih]
    refine bind_congr fun result => ?_
    cases result with
    | error e => rfl
    | ok a =>
      refine bind_congr fun result => ?_
      cases result <;> rfl

theorem transformSubjects_below (r : Registry W σ ν) (below : Option StepArgument) :
    r.transformSubjects (below.toList.map Subject.below) = r.transformBelow below := by
  match below with
  | none => rfl
  | some (.text raw) => rfl
  | some (.table t) =>
    change r.transformSubjects [.table t] = _
    rw [transformSubjects, transformBelow, transformSubject_table]
    refine bind_congr fun result => ?_
    cases result <;> rfl

/-- The arguments of a step are its values transformed in order. -/
theorem transformArguments_eq (r : Registry W σ ν) (captures : List String)
    (below : Option StepArgument) :
    r.transformArguments captures below =
      (do return (← r.transformSubjects (Subject.all captures below)).map Arguments.mk) := by
  rw [Subject.all, transformSubjects_append, transformSubjects_captures, transformSubjects_below,
    transformArguments, bind_assoc]
  refine bind_congr fun result => ?_
  cases result with
  | error e => rfl
  | ok front =>
    dsimp only
    rw [bind_assoc]
    refine bind_congr fun result => ?_
    cases result <;> rfl

/-- A value that is transformed leads to the call of the transform that is for
it, if there is one. -/
theorem Transforms.calls_eq {a : Argument} {entries : List (Entry ν)}
    (h : r.Transforms s t (.ok a) t₁ entries) :
    calls entries = (r.onlyCall? s).toList := by
  cases h with
  | plain hnone => rw [onlyCall?, hnone]; rfl
  | @done c value _ notes hone _ =>
    rw [onlyCall?, hone]
    exact calls_ofCall c.call notes (.ok value)

/-- The argument of a capture keeps its text. -/
theorem Transforms.raw?_eq {raw : String} {a : Argument} {entries : List (Entry ν)}
    (h : r.Transforms (.capture raw) t (.ok a) t₁ entries) : a.raw? = some raw := by
  cases h <;> rfl

/-- A value that cannot be transformed is named by the error, and leads to a call if its
transform is what failed. -/
theorem Transforms.error_calls {e : TransformError} {entries : List (Entry ν)}
    (h : r.Transforms s t (.error e) t₁ entries) :
    (e = .ambiguous s.value ((r.candidates s).map Candidate.source) ∧ calls entries = []) ∨
      ∃ source f call, e = .failed source s.value f ∧ r.onlyCall? s = some call ∧
        calls entries = [call] := by
  cases h with
  | @failed c _ f _ notes hone _ _ =>
    exact .inr ⟨c.source, f, c.call, rfl, by rw [onlyCall?, hone],
      calls_ofCall (α := Value) c.call notes (.error f)⟩
  | ambiguous _ => exact .inl ⟨rfl, rfl⟩

namespace TransformsAll

variable {subjects : List Subject} {arguments : List Argument} {entries : List (Entry ν)}

theorem length_eq (h : r.TransformsAll subjects t arguments t₁ entries) :
    arguments.length = subjects.length := by
  induction h with
  | nil t => rfl
  | cons _ _ ih => rw [List.length_cons, List.length_cons, ih]

theorem calls_eq (h : r.TransformsAll subjects t arguments t₁ entries) :
    calls entries = subjects.filterMap r.onlyCall? := by
  induction h with
  | nil t => rfl
  | @cons s rest _ _ _ _ _ _ _ hfirst _ ih =>
    rw [calls_append, hfirst.calls_eq, ih, List.filterMap_cons]
    cases r.onlyCall? s <;> rfl

/-- The arguments of captures keep their texts. -/
theorem raw?_eq {raws : List String} {back : List Subject}
    (h : r.TransformsAll subjects t arguments t₁ entries)
    (hsubjects : subjects = raws.map .capture ++ back) {i : Nat} (hi : i < raws.length) :
    (arguments[i]?).bind Argument.raw? = raws[i]? := by
  induction h generalizing raws i with
  | nil t =>
    cases raws with
    | nil => cases hi
    | cons raw raws => cases hsubjects
  | cons hfirst _ ih =>
    cases raws with
    | nil => cases hi
    | cons raw raws =>
      obtain ⟨rfl, hrest⟩ := List.cons.inj hsubjects
      cases i with
      | zero => exact hfirst.raw?_eq
      | succ i => exact ih hrest (Nat.lt_of_succ_lt_succ hi)

end TransformsAll

/-- The transformation of the values on the world `t` comes to the result: to all arguments, or to
the error of the first value that cannot be transformed. -/
def TransformsTo (r : Registry W σ ν) (subjects : List Subject) (t : W × σ)
    (result : Except TransformError (List Argument)) (t' : W × σ)
    (entries : List (Entry ν)) : Prop :=
  match result with
  | .ok arguments => r.TransformsAll subjects t arguments t' entries
  | .error e => ∃ passed s later arguments t₁ before own, subjects = passed ++ s :: later ∧
      r.TransformsAll passed t arguments t₁ before ∧ r.Transforms s t₁ (.error e) t' own ∧
        before ++ own = entries

theorem transformSubjects_transformsTo (r : Registry W σ ν) (subjects : List Subject) (t : W × σ) :
    r.TransformsTo subjects t (r.transformSubjects subjects t).1
      (r.transformSubjects subjects t).2.1
      (r.transformSubjects subjects t).2.2 := by
  induction subjects generalizing t with
  | nil => exact .nil t
  | cons s rest ih =>
    have hfirst := r.transformSubject_transforms s t
    rw [transformSubjects, bind_apply]
    rcases hrun : r.transformSubject s t with ⟨result, t₁, before⟩
    rw [hrun] at hfirst
    cases result with
    | error e =>
      exact ⟨[], s, rest, [], t, [], before, rfl, .nil t, hfirst, (List.append_nil _).symm⟩
    | ok a =>
      have hothers := ih t₁
      dsimp only
      rw [bind_apply]
      rcases hrest : r.transformSubjects rest t₁ with ⟨result, t₂, after⟩
      rw [hrest] at hothers
      simp only [pure_apply, List.append_nil]
      cases result with
      | ok arguments => exact .cons hfirst hothers
      | error e =>
        obtain ⟨passed, s', later, arguments, t₃, before', own, rfl, hpassed, hfails, rfl⟩ :=
          hothers
        exact ⟨s :: passed, s', later, a :: arguments, t₃, before ++ before', own, rfl,
          .cons hfirst hpassed, hfails, List.append_assoc _ _ _⟩

/-- The first value and the others, transformed where the first one leads to. -/
theorem transformSubjects_cons_of_ok {a : Argument} {before : List (Entry ν)} (rest : List Subject)
    (hfirst : r.transformSubject s t = (.ok a, t₁, before)) :
    r.transformSubjects (s :: rest) t =
      ((r.transformSubjects rest t₁).1.map (a :: ·), (r.transformSubjects rest t₁).2.1,
        before ++ (r.transformSubjects rest t₁).2.2) := by
  rw [transformSubjects, bind_apply, hfirst]
  dsimp only
  rw [bind_apply, pure_apply, List.append_nil]

/-- Values that are transformed are so whatever comes after them. -/
theorem TransformsAll.append_eq {subjects : List Subject} {arguments : List Argument}
    {before : List (Entry ν)} (h : r.TransformsAll subjects t arguments t₁ before)
    (later : List Subject) :
    r.transformSubjects (subjects ++ later) t =
      ((r.transformSubjects later t₁).1.map (arguments ++ ·), (r.transformSubjects later t₁).2.1,
        before ++ (r.transformSubjects later t₁).2.2) := by
  induction h with
  | nil t =>
    rw [List.nil_append]
    rcases r.transformSubjects later t with ⟨result, t', entries⟩
    cases result <;> rfl
  | cons hfirst _ ih =>
    rw [List.cons_append, transformSubjects_cons_of_ok _ hfirst.eq, ih, List.append_assoc]
    rcases r.transformSubjects later _ with ⟨result, t', entries⟩
    cases result <;> rfl

/-- There is no other way to transform the values. -/
theorem TransformsTo.eq {subjects : List Subject} {result : Except TransformError (List Argument)}
    {entries : List (Entry ν)} (h : r.TransformsTo subjects t result t₁ entries) :
    r.transformSubjects subjects t = (result, t₁, entries) := by
  cases result with
  | ok arguments =>
    have happend := TransformsAll.append_eq h []
    simpa [transformSubjects, Except.map] using happend
  | error e =>
    obtain ⟨passed, s, later, arguments, t₂, before, own, rfl, hpassed, hfails, rfl⟩ := h
    rw [hpassed.append_eq, transformSubjects, bind_apply, hfails.eq]
    simp [Except.map]

/-- The transformation of the values of a step comes to its result, and the
arguments are put together. -/
theorem transformArguments_transformsTo (r : Registry W σ ν) (captures : List String)
    (below : Option StepArgument) (t : W × σ) :
    ∃ result, (r.transformArguments captures below t).1 = result.map Arguments.mk ∧
      r.TransformsTo (Subject.all captures below) t result
        (r.transformArguments captures below t).2.1
        (r.transformArguments captures below t).2.2 := by
  have htransforms := r.transformSubjects_transformsTo (Subject.all captures below) t
  rw [transformArguments_eq, bind_apply, pure_apply, List.append_nil]
  exact ⟨_, rfl, htransforms⟩

/-- There is no other way to transform the values of a step. -/
theorem transformArguments_of_transformsTo {captures : List String} {below : Option StepArgument}
    {result : Except TransformError (List Argument)} {entries : List (Entry ν)}
    (h : r.TransformsTo (Subject.all captures below) t result t₁ entries) :
    r.transformArguments captures below t = (result.map Arguments.mk, t₁, entries) := by
  rw [transformArguments_eq, bind_apply, h.eq, pure_apply, List.append_nil]

/-- Nothing but transforms is called for a value. -/
theorem isTransform_of_onlyCall? {call : Call} (h : r.onlyCall? s = some call) :
    call.isTransform = true := by
  rw [onlyCall?] at h
  split at h
  · next c hone =>
    obtain rfl := Option.some.inj h
    have hmem : c ∈ r.candidates s := hone ▸ List.mem_singleton_self c
    cases s with
    | capture raw =>
      obtain ⟨d, -, rfl⟩ := List.mem_map.1 hmem
      rfl
    | table t =>
      obtain ⟨d, -, rfl⟩ := List.mem_map.1 hmem
      rfl
    | text raw => cases hmem
  · cases h

/-- Nothing but transforms is called for the values of a step. -/
theorem transformArguments_isTransform (r : Registry W σ ν) (captures : List String)
    (below : Option StepArgument) (t : W × σ) :
    ∀ call ∈ calls (r.transformArguments captures below t).2.2, call.isTransform = true := by
  have hfilter : ∀ {subjects : List Subject}, ∀ call ∈ subjects.filterMap r.onlyCall?,
      call.isTransform = true := by
    intro subjects call hcall
    obtain ⟨s, -, hs⟩ := List.mem_filterMap.1 hcall
    exact isTransform_of_onlyCall? hs
  obtain ⟨result, -, htransforms⟩ := r.transformArguments_transformsTo captures below t
  generalize (r.transformArguments captures below t).2.2 = entries at htransforms
  cases result with
  | ok arguments =>
    rw [htransforms.calls_eq]
    exact hfilter
  | error e =>
    obtain ⟨passed, s, later, arguments, t₁, before, own, -, hpassed, hfails, rfl⟩ := htransforms
    rw [calls_append, hpassed.calls_eq]
    refine List.forall_mem_append.2 ⟨hfilter, ?_⟩
    rcases hfails.error_calls with ⟨-, hown⟩ | ⟨-, -, call, -, honly, hown⟩
    · rw [hown]
      exact List.forall_mem_nil _
    · rw [hown]
      exact List.forall_mem_singleton.2 (isTransform_of_onlyCall? honly)

/-- The values of a step are transformed from left to right, each on the world that those before it
leave, up to the first that cannot be. -/
theorem transformArguments_exact (r : Registry W σ ν) (captures : List String)
    (below : Option StepArgument) (t : W × σ) :
    match r.transformArguments captures below t with
    | (.ok arguments, t', entries) => r.Transformed captures below t arguments t' entries
    | (.error e, t', entries) => r.Stopped captures below t e t' entries := by
  obtain ⟨result, hresult, htransforms⟩ := r.transformArguments_transformsTo captures below t
  rcases hrun : r.transformArguments captures below t with ⟨_, t', entries⟩
  rw [hrun] at hresult htransforms
  obtain rfl := hresult
  cases result with
  | ok arguments =>
    refine ⟨htransforms, ?_, fun i hi => htransforms.raw?_eq rfl hi, htransforms.calls_eq⟩
    rw [Arguments.size, htransforms.length_eq, Subject.all]
    cases below <;> simp
  | error e =>
    obtain ⟨passed, s, later, arguments, t₁, before, own, hall, hpassed, hfails, rfl⟩ := htransforms
    exact .intro hall hpassed hfails hpassed.calls_eq hfails.error_calls

end Registry

end Rehearsal
