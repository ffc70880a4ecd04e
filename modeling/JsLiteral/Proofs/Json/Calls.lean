import JsLiteral.Json.Stringify
import JsLiteral.Proofs.World

/-!
# Calls of a replacer

A walk asks its replacer for each node that it meets and prints what it answers. So two walks
whose replacers answer alike answer alike themselves, whatever else their states hold. In
particular nobody can tell from a walk whether the calls are recorded on the way, and a walk
that fails does so because a call of the replacer failed, or with one of the few failures of
printing itself.

    a relation that calls keep is kept by the whole walk      (relates_stringify)
    if all calls answered, a failure is one of printing       (AllAnswered.reports)
-/

namespace JsLiteral.Json

/-! ## One node -/

section

variable {σ : Type}

/-- Prints a container that is entered. -/
def inside (heap : Heap) (replacer : Replacer σ) (gap : Text) (limit : Nat) (indent : Text)
    (path : List Nat) (c : Container) : Walk σ (Option Text) := do
  let text ← printContainer (printNode heap replacer gap limit path (indent ++ gap)) gap indent c
  pure (some text)

/-- Prints what a replacer answers; `enter` prints the container that it is. -/
def printAnswer (heap : Heap) (enter : List Nat → Container → Walk σ (Option Text))
    (path : List Nat) : Value → Walk σ (Option Text)
  | .absent => pure none
  | .null => pure (some "null")
  | .bool b => pure (some (if b then "true" else "false"))
  | .text t => pure (some (quote t))
  | .int n => pure (some (intText n))
  | .float x => pure (some (floatText x))
  | .other typeName _ _ => throw (.unsupportedValue typeName)
  | .sequence kind items => enter path (.sequence kind items)
  | .mapping kind members => enter path (.mapping kind members)
  | .shared place =>
    if place ∈ path then throw .circular
    else match heap[place]? with
      | some c => enter (place :: path) c
      | none => throw (.unsupportedValue "object")

theorem printNode_succ (heap : Heap) (replacer : Replacer σ) (gap : Text) (limit : Nat)
    (path : List Nat) (indent key : Text) (v : Value) :
    printNode heap replacer gap (limit + 1) path indent key v =
      (replacer key v >>= printAnswer heap (inside heap replacer gap limit indent) path) := rfl

/-- The printed members with one more before them, unless its value is left out. -/
def addMember (start : Text) (parts : List Text) : Option Text → List Text
  | some text => (start ++ text) :: parts
  | none => parts

theorem printMembers_cons (visit : Text → Value → Walk σ (Option Text)) (colon : Text) (key : Key)
    (v : Value) (rest : Members) :
    printMembers visit colon ((key, v) :: rest) =
      (printMembers.liftExcept (memberName key) >>= fun name => do
        let part ← visit name v
        let parts ← printMembers visit colon rest
        pure (addMember (quote name ++ colon) parts part)) := rfl

theorem printMembers_cons_of_ok {visit : Text → Value → Walk σ (Option Text)} {colon : Text}
    {key : Key} {name : Text} (hkey : memberName key = .ok name) (v : Value) (rest : Members) :
    printMembers visit colon ((key, v) :: rest) =
      (do
        let part ← visit name v
        let parts ← printMembers visit colon rest
        pure (addMember (quote name ++ colon) parts part)) := by
  rw [printMembers_cons, hkey]
  rfl

theorem printMembers_cons_of_error {visit : Text → Value → Walk σ (Option Text)} {colon : Text}
    {key : Key} {e : Failure} (hkey : memberName key = .error e) (v : Value) (rest : Members) :
    printMembers visit colon ((key, v) :: rest) = throw e := by
  rw [printMembers_cons, hkey]
  rfl

end

/-- The failures of printing itself. -/
inductive IsPrinting : Failure → Prop
  | circular : IsPrinting .circular
  | unsupportedValue (typeName : Text) : IsPrinting (.unsupportedValue typeName)
  | unsupportedKey (typeName : Text) : IsPrinting (.unsupportedKey typeName)
  | unsupportedSpace (typeName : Text) : IsPrinting (.unsupportedSpace typeName)
  | tooDeep : IsPrinting .tooDeep

theorem exists_unsupportedKey {key : Key} {e : Failure} (h : memberName key = .error e) :
    ∃ typeName, e = .unsupportedKey typeName := by
  cases key <;> cases h <;> exact ⟨_, rfl⟩

theorem exists_unsupportedSpace {heap : Heap} {space : Value} {e : Failure}
    (h : gap heap space = .error e) : ∃ typeName, e = .unsupportedSpace typeName := by
  cases space <;> cases h <;> exact ⟨_, rfl⟩

/-! ## Two walks side by side -/

section

variable {σ τ α β : Type} {P : σ → τ → Prop} {Q : Failure → σ → τ → Prop}

/-- From states in relation `P` two steps give one answer in states that are in relation `P`, or
they fail in one way in states that are in relation `Q` for the failure. -/
def Relates (P : σ → τ → Prop) (Q : Failure → σ → τ → Prop) (x : Walk σ α) (y : Walk τ α) : Prop :=
  ∀ s t, P s t → (∃ a s' t', x.run s = (.ok a, s') ∧ y.run t = (.ok a, t') ∧ P s' t') ∨
    ∃ e s' t', x.run s = (.error e, s') ∧ y.run t = (.error e, t') ∧ Q e s' t'

theorem Relates.answer (a : α) : Relates P Q (pure a : Walk σ α) (pure a : Walk τ α) :=
  fun s t h => .inl ⟨a, s, t, rfl, rfl, h⟩

theorem Relates.fail {e : Failure} (hfail : ∀ s t, P s t → Q e s t) :
    Relates P Q (throw e : Walk σ α) (throw e : Walk τ α) :=
  fun s t h => .inr ⟨e, s, t, rfl, rfl, hfail s t h⟩

theorem Relates.bind {x : Walk σ α} {y : Walk τ α} {g : α → Walk σ β} {k : α → Walk τ β}
    (hxy : Relates P Q x y) (hgk : ∀ a, Relates P Q (g a) (k a)) :
    Relates P Q (x >>= g) (y >>= k) := by
  intro s t h
  rw [Task.run_bind, Task.run_bind]
  rcases hxy s t h with ⟨a, s', t', hx, hy, h'⟩ | ⟨e, s', t', hx, hy, h'⟩
  · rw [hx, hy]
    exact hgk a s' t' h'
  · rw [hx, hy]
    exact .inr ⟨e, s', t', rfl, rfl, h'⟩

variable {visit : Text → Value → Walk σ (Option Text)}
variable {visit' : Text → Value → Walk τ (Option Text)}

theorem relates_printItems (h : ∀ key v, Relates P Q (visit key v) (visit' key v))
    (items : List Value) :
    ∀ i, Relates P Q (printItems visit i items) (printItems visit' i items) := by
  induction items with
  | nil => exact fun i => .answer []
  | cons v rest ih => exact fun i => (h _ v).bind fun part => (ih (i + 1)).bind fun _ => .answer _

variable (hfail : ∀ e s t, IsPrinting e → P s t → Q e s t)

include hfail

theorem relates_printMembers (h : ∀ key v, Relates P Q (visit key v) (visit' key v)) (colon : Text)
    (members : Members) :
    Relates P Q (printMembers visit colon members) (printMembers visit' colon members) := by
  induction members with
  | nil => exact .answer []
  | cons m rest ih =>
    obtain ⟨key, v⟩ := m
    cases hkey : memberName key with
    | ok name =>
      rw [printMembers_cons_of_ok hkey, printMembers_cons_of_ok hkey]
      exact (h name v).bind fun part => ih.bind fun _ => .answer _
    | error e =>
      rw [printMembers_cons_of_error hkey, printMembers_cons_of_error hkey]
      obtain ⟨typeName, rfl⟩ := exists_unsupportedKey hkey
      exact .fail fun s t => hfail _ s t (.unsupportedKey typeName)

theorem relates_printContainer (h : ∀ key v, Relates P Q (visit key v) (visit' key v))
    (gap indent : Text) (c : Container) :
    Relates P Q (printContainer visit gap indent c) (printContainer visit' gap indent c) := by
  cases c with
  | sequence kind items => exact (relates_printItems h items 0).bind fun _ => .answer _
  | mapping kind members => exact (relates_printMembers hfail h _ members).bind fun _ => .answer _

theorem relates_printAnswer {heap : Heap} {enter : List Nat → Container → Walk σ (Option Text)}
    {enter' : List Nat → Container → Walk τ (Option Text)}
    (h : ∀ path c, Relates P Q (enter path c) (enter' path c)) (path : List Nat) (v : Value) :
    Relates P Q (printAnswer heap enter path v) (printAnswer heap enter' path v) := by
  cases v with
  | other typeName => exact .fail fun s t => hfail _ s t (.unsupportedValue typeName)
  | sequence kind items => exact h path _
  | mapping kind members => exact h path _
  | shared place =>
    simp only [printAnswer]
    split
    · exact .fail fun s t => hfail _ s t .circular
    · split
      · exact h _ _
      · exact .fail fun s t => hfail _ s t (.unsupportedValue _)
  | _ => exact .answer _

variable {f : Replacer σ} {g : Replacer τ}

theorem relates_printNode (h : ∀ key v, Relates P Q (f key v) (g key v)) (heap : Heap) (gap : Text)
    (limit : Nat) : ∀ (path : List Nat) (indent key : Text) (v : Value),
      Relates P Q (printNode heap f gap limit path indent key v)
        (printNode heap g gap limit path indent key v) := by
  induction limit with
  | zero => exact fun _ _ _ _ => .fail fun s t => hfail _ s t .tooDeep
  | succ limit ih =>
    intro path indent key v
    rw [printNode_succ, printNode_succ]
    refine (h key v).bind (relates_printAnswer hfail (fun path c => ?_) path)
    exact (relates_printContainer hfail (ih path _) gap indent c).bind fun _ => .answer _

/-- A relation that calls of two replacers keep is kept by printing with them. -/
theorem relates_stringify (h : ∀ key v, Relates P Q (f key v) (g key v)) (heap : Heap)
    (space v : Value) (spare : Nat) :
    Relates P Q (stringify heap f space v spare) (stringify heap g space v spare) := by
  unfold stringify
  cases hgap : gap heap space with
  | ok gap => exact relates_printNode hfail h heap gap _ [] [] [] v
  | error e =>
    obtain ⟨typeName, rfl⟩ := exists_unsupportedSpace hgap
    exact .fail fun s t => hfail _ s t (.unsupportedSpace typeName)

end

/-! ## Recorded calls -/

/-- A call of a replacer: what it was asked for, and what came of it. -/
structure Call where
  key : Text
  value : Value
  answer : Except Failure Value

/-- Does what `f` does and records each call. -/
def Replacer.recorded {σ : Type} (f : Replacer σ) : Replacer (σ × List Call) := fun key v s =>
  let (r, s') := (f key v).run s.1
  (r, (s', s.2 ++ [⟨key, v, r⟩]))

/-- No call failed. -/
def AllAnswered (calls : List Call) : Prop := ∀ call ∈ calls, ∃ u, call.answer = .ok u

/-- A failure of calls: a call failed so, or none failed and printing itself did; no call failed
in another way. -/
structure Reports (calls : List Call) (e : Failure) : Prop where
  only : ∀ call ∈ calls, ∀ e', call.answer = .error e' → e' = e
  origin : (∃ call ∈ calls, call.answer = .error e) ∨ IsPrinting e

theorem AllAnswered.reports {calls : List Call} (h : AllAnswered calls) {e : Failure}
    (he : IsPrinting e) : Reports calls e := by
  refine ⟨fun call hcall e' he' => ?_, .inr he⟩
  obtain ⟨u, hu⟩ := h call hcall
  rw [he'] at hu
  cases hu

end JsLiteral.Json
