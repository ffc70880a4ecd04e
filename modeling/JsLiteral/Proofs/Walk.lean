import JsLiteral.Conversion
import JsLiteral.Proofs.Json.Printed
import JsLiteral.Proofs.World

/-!
# The walk of a conversion

What a conversion does at each node, whatever the caller's replacer is. An eligible text is
shown to the caller as the next token, every other node as it is. A text waits for its literal
exactly if the token is what the caller leaves in its place; else nothing waits and the number
of the token is free for the next eligible text. A container that comes out is walked in turn.

    a walk that succeeds has a record of what it printed              (prints_of_skeleton)
    the texts that wait are those that tokens in the record stand for (Prints.waiting)
-/

namespace JsLiteral.Json

variable {σ : Type}

/-- Whether a conversion puts a token in the place of a text. -/
def chosen (options : Options σ) (backticks : Bool) (t : Text) : Bool :=
  options.useTemplates && Template.isEligible backticks t

/-- The token that stands for the text with number `i`, in quotes. -/
def quotedToken (marker : Text) (i : Nat) (_ : Text) : Text := quote (Placeholder.token marker i)

/-! ## One node -/

/-- What the caller makes of a candidate; null keeps it, and so does having no replacer. -/
def answer (options : Options σ) (key : Text) (candidate : Value) : Walk σ Value :=
  match options.replacer with
  | some f => do
    match ← f key candidate with
    | .null => pure candidate
    | v => pure v
  | none => pure candidate

section

variable (options : Options σ) (marker : Text) (backticks : Bool)

/-- What the caller is shown for a node. -/
def shown (waiting : List Text) (v : Value) : Value :=
  match tokenFor? options marker backticks waiting v with
  | some (token, _) => .text token
  | none => v

/-- The text that begins to wait when `u` is printed for a node. -/
def placed (waiting : List Text) (v u : Value) : List Text :=
  match tokenFor? options marker backticks waiting v, u with
  | some (token, t), .text printed => if printed = token then [t] else []
  | _, _ => []

end

variable {options : Options σ} {marker : Text} {backticks : Bool}

theorem tokenFor?_text (waiting : List Text) (t : Text) :
    tokenFor? options marker backticks waiting (.text t) =
      if chosen options backticks t then some (Placeholder.token marker waiting.length, t)
      else none := rfl

theorem outside_run {α : Type} (step : Walk σ α) (s : Pending σ) :
    (outside step).run s = ((step.run s.1).1, ((step.run s.1).2, s.2)) := rfl

/-- Once it is settled what is printed, a text begins to wait or not. -/
def settle (token : Option (Text × Text)) (u : Value) : Walk (Pending σ) Value :=
  match token, u with
  | some (token, t), .text printed => do
    if printed = token then modify fun s => (s.1, s.2 ++ [t])
    pure u
  | _, _ => pure u

theorem placing_eq (key : Text) (v : Value) :
    placing options marker backticks key v = (do
      let waiting := (← get).2
      let candidate := shown options marker backticks waiting v
      let result ← match options.replacer with
        | some f => outside (f key candidate)
        | none => pure .null
      let printed := match result with
        | .null => candidate
        | u => u
      settle (tokenFor? options marker backticks waiting v) printed) := rfl

theorem settle_run (waiting : List Text) (v u : Value) (s : Pending σ) :
    (settle (tokenFor? options marker backticks waiting v) u).run s =
      (.ok u, (s.1, s.2 ++ placed options marker backticks waiting v u)) := by
  unfold settle placed
  generalize tokenFor? options marker backticks waiting v = token
  cases token with
  | none => simp [Task.run_pure]
  | some p =>
    cases u with
    | text printed =>
      simp only
      split
      · rfl
      · simp [Task.run_pure]
    | _ => simp [Task.run_pure]

/-- The caller is asked for what is shown, and the walk goes on with what it answers. -/
theorem placing_run (key : Text) (v : Value) (s : Pending σ) :
    (placing options marker backticks key v).run s =
      match (answer options key (shown options marker backticks s.2 v)).run s.1 with
      | (.ok u, r) => (.ok u, (r, s.2 ++ placed options marker backticks s.2 v u))
      | (.error e, r) => (.error e, (r, s.2)) := by
  rw [placing_eq, Task.run_bind, Task.run_get]
  unfold answer
  cases options.replacer with
  | none => simp only [Task.run_bind, Task.run_pure, settle_run]
  | some f =>
    simp only [Task.run_bind, outside_run]
    rcases (f key (shown options marker backticks s.2 v)).run s.1 with ⟨result, r⟩
    cases result with
    | error e => rfl
    | ok u =>
      simp only [settle_run]
      cases u with
      | null => rfl
      | _ => rfl

/-- The caller leaves `u` in the place of a node, and no text begins to wait for it. -/
structure Leaves (options : Options σ) (marker : Text) (backticks : Bool) (key : Text) (v : Value)
    (s : Pending σ) (u : Value) (r : σ) : Prop where
  answered : (answer options key (shown options marker backticks s.2 v)).run s.1 = (.ok u, r)
  not_token : ∀ token t, tokenFor? options marker backticks s.2 v = some (token, t) →
    u ≠ .text token

/-- The caller leaves the token of a text in its place. -/
structure Keeps (options : Options σ) (marker : Text) (backticks : Bool) (key t : Text)
    (s : Pending σ) (r : σ) : Prop where
  chosen : chosen options backticks t = true
  answered : (answer options key (.text (Placeholder.token marker s.2.length))).run s.1 =
    (.ok (.text (Placeholder.token marker s.2.length)), r)

/-- A text waits if its token is left in its place, and else nothing begins to wait. -/
theorem keeps_or_leaves {key : Text} {v u : Value} {s s' : Pending σ}
    (h : (placing options marker backticks key v).run s = (.ok u, s')) :
    (∃ t, v = .text t ∧ u = .text (Placeholder.token marker s.2.length) ∧
      Keeps options marker backticks key t s s'.1 ∧ s'.2 = s.2 ++ [t]) ∨
    (Leaves options marker backticks key v s u s'.1 ∧ s'.2 = s.2) := by
  rw [placing_run] at h
  rcases ha : (answer options key (shown options marker backticks s.2 v)).run s.1 with ⟨result, r⟩
  rw [ha] at h
  cases result with
  | error e => cases h
  | ok w =>
    cases h
    cases ht : tokenFor? options marker backticks s.2 v with
    | none =>
      refine Or.inr ⟨⟨ha, fun token t he => ?_⟩, ?_⟩
      · rw [ht] at he
        cases he
      · simp [placed, ht]
    | some p =>
      obtain ⟨token, t⟩ := p
      by_cases hu : u = .text token
      · subst hu
        cases v with
        | text t' =>
          rw [tokenFor?_text] at ht
          split at ht
          · rename_i hchosen
            cases ht
            refine Or.inl ⟨t, rfl, rfl, ⟨hchosen, ?_⟩, ?_⟩
            · rwa [shown, tokenFor?_text, if_pos hchosen] at ha
            · simp [placed, tokenFor?_text, hchosen]
          · cases ht
        | _ => cases ht
      · refine Or.inr ⟨⟨ha, fun token' t' he => ?_⟩, ?_⟩
        · rw [ht] at he
          cases he
          exact hu
        · unfold placed
          rw [ht]
          cases u with
          | text printed =>
            have hne : printed ≠ token := fun e => hu (e ▸ rfl)
            simp [hne]
          | _ => simp

/-! ## The record of a walk -/

section

variable (heap : Heap) (options : Options σ) (marker : Text) (backticks : Bool)

mutual

/-- A node that the walk meets inside the heap containers `path` in state `s` is printed as
`p`, and the walk goes on in state `s'`. -/
inductive Prints : List Nat → Text → Value → Pending σ → Printed → Pending σ → Prop
  | token {path : List Nat} {key t : Text} {s : Pending σ} {r : σ} :
    Keeps options marker backticks key t s r →
      Prints path key (.text t) s (.token t) (r, s.2 ++ [t])
  | dropped {path : List Nat} {key : Text} {v : Value} {s : Pending σ} {r : σ} :
    Leaves options marker backticks key v s .absent r → Prints path key v s .dropped (r, s.2)
  | word {path : List Nat} {key t : Text} {v u : Value} {s : Pending σ} {r : σ} :
    Leaves options marker backticks key v s u r → word? u = some t →
      Prints path key v s (.word t) (r, s.2)
  | text {path : List Nat} {key t : Text} {v : Value} {s : Pending σ} {r : σ} :
    Leaves options marker backticks key v s (.text t) r → Prints path key v s (.text t) (r, s.2)
  | list {path inner : List Nat} {key : Text} {v u : Value} {s s' : Pending σ} {r : σ}
      {kind : SequenceKind} {items : List Value} {ps : List Printed} :
    Leaves options marker backticks key v s u r →
      Opens heap path u inner (.sequence kind items) →
        PrintsItems inner 0 items (r, s.2) ps s' → Prints path key v s (.list ps) s'
  | object {path inner : List Nat} {key : Text} {v u : Value} {s s' : Pending σ} {r : σ}
      {kind : MappingKind} {members : Members} {ps : List (Text × Printed)} :
    Leaves options marker backticks key v s u r →
      Opens heap path u inner (.mapping kind members) →
        PrintsMembers inner members (r, s.2) ps s' → Prints path key v s (.object ps) s'

/-- Items numbered from `i` are printed one after the other. -/
inductive PrintsItems : List Nat → Nat → List Value → Pending σ → List Printed → Pending σ → Prop
  | nil {path : List Nat} {i : Nat} {s : Pending σ} : PrintsItems path i [] s [] s
  | cons {path : List Nat} {i : Nat} {v : Value} {items : List Value} {s s₁ s' : Pending σ}
      {p : Printed} {ps : List Printed} :
    Prints path (Text.ofNat i) v s p s₁ → PrintsItems path (i + 1) items s₁ ps s' →
      PrintsItems path i (v :: items) s (p :: ps) s'

/-- Members are printed one after the other. -/
inductive PrintsMembers : List Nat → Members → Pending σ → List (Text × Printed) → Pending σ → Prop
  | nil {path : List Nat} {s : Pending σ} : PrintsMembers path [] s [] s
  | cons {path : List Nat} {key : Key} {name : Text} {v : Value} {members : Members}
      {s s₁ s' : Pending σ} {p : Printed} {ps : List (Text × Printed)} :
    memberName key = .ok name → Prints path name v s p s₁ →
      PrintsMembers path members s₁ ps s' →
        PrintsMembers path ((key, v) :: members) s ((name, p) :: ps) s'

end

end

variable {heap : Heap}

mutual

/-- What waits after a walk are the texts of the tokens that it printed, after those that
waited before. -/
theorem Prints.waiting : ∀ (p : Printed) {path : List Nat} {key : Text} {v : Value}
    {s s' : Pending σ}, Prints heap options marker backticks path key v s p s' →
      s'.2 = s.2 ++ p.held
  | .dropped, _, _, _, s, _, .dropped _ => (List.append_nil s.2).symm
  | .word _, _, _, _, s, _, .word _ _ => (List.append_nil s.2).symm
  | .text _, _, _, _, s, _, .text _ => (List.append_nil s.2).symm
  | .token _, _, _, _, _, _, .token _ => rfl
  | .list ps, _, _, _, _, _, .list _ _ h => by rw [PrintsItems.waiting ps h, Printed.held]
  | .object ps, _, _, _, _, _, .object _ _ h => by rw [PrintsMembers.waiting ps h, Printed.held]

theorem PrintsItems.waiting : ∀ (ps : List Printed) {path : List Nat} {i : Nat}
    {items : List Value} {s s' : Pending σ},
      PrintsItems heap options marker backticks path i items s ps s' →
        s'.2 = s.2 ++ Printed.heldItems ps
  | [], _, _, _, s, _, .nil => (List.append_nil s.2).symm
  | p :: ps, _, _, _, _, _, .cons h hrest => by
    rw [PrintsItems.waiting ps hrest, Prints.waiting p h, List.append_assoc, Printed.heldItems]

theorem PrintsMembers.waiting : ∀ (ps : List (Text × Printed)) {path : List Nat}
    {members : Members} {s s' : Pending σ},
      PrintsMembers heap options marker backticks path members s ps s' →
        s'.2 = s.2 ++ Printed.heldMembers ps
  | [], _, _, s, _, .nil => (List.append_nil s.2).symm
  | (_, p) :: ps, _, _, _, _, .cons _ h hrest => by
    rw [PrintsMembers.waiting ps hrest, Prints.waiting p h, List.append_assoc,
      Printed.heldMembers]

end

/-! ## The walk has a record -/

section

variable {gap indent : Text} {visit : Text → Value → Walk (Pending σ) (Option Text)}
variable {path : List Nat}

/-- What visiting nodes prints is in records. -/
def IsRecorded (heap : Heap) (options : Options σ) (marker : Text) (backticks : Bool)
    (gap indent : Text) (path : List Nat)
    (visit : Text → Value → Walk (Pending σ) (Option Text)) : Prop :=
  ∀ {key : Text} {v : Value} {s s' : Pending σ} {r : Option Text},
    (visit key v).run s = (.ok r, s') →
      ∃ p, Prints heap options marker backticks path key v s p s' ∧
        r = p.text? (quotedToken marker) gap indent s.2.length

theorem prints_of_printItems
    (hvisit : IsRecorded heap options marker backticks gap indent path visit)
    (items : List Value) {i : Nat} {s s' : Pending σ} {parts : List Text}
    (h : (printItems visit i items).run s = (.ok parts, s')) :
    ∃ ps, PrintsItems heap options marker backticks path i items s ps s' ∧
      parts = Printed.itemParts (quotedToken marker) gap indent s.2.length ps := by
  induction items generalizing i s parts with
  | nil =>
    cases h
    exact ⟨[], .nil, rfl⟩
  | cons v items ih =>
    unfold printItems at h
    obtain ⟨part, s₁, hpart, hothers⟩ := Task.run_bind_eq_ok h
    obtain ⟨rest, s₂, hrest, hend⟩ := Task.run_bind_eq_ok hothers
    cases hend
    obtain ⟨p, hp, rfl⟩ := hvisit hpart
    obtain ⟨ps, hps, rfl⟩ := ih hrest
    refine ⟨p :: ps, .cons hp hps, ?_⟩
    rw [Printed.itemParts, Printed.getD_text?, Prints.waiting p hp, List.length_append]

theorem prints_of_printMembers
    (hvisit : IsRecorded heap options marker backticks gap indent path visit)
    (members : Members) {s s' : Pending σ} {parts : List Text}
    (h : (printMembers visit (colon gap) members).run s = (.ok parts, s')) :
    ∃ ps, PrintsMembers heap options marker backticks path members s ps s' ∧
      parts = Printed.memberParts (quotedToken marker) gap indent s.2.length ps := by
  induction members generalizing s parts with
  | nil =>
    cases h
    exact ⟨[], .nil, rfl⟩
  | cons m members ih =>
    obtain ⟨key, v⟩ := m
    unfold printMembers at h
    obtain ⟨name, s₀, hname, hvalue⟩ := Task.run_bind_eq_ok h
    have hkey : memberName key = .ok name ∧ s₀ = s := by
      cases hk : memberName key with
      | error e =>
        rw [hk] at hname
        cases hname
      | ok name' =>
        rw [hk] at hname
        cases hname
        exact ⟨rfl, rfl⟩
    obtain ⟨hkey, rfl⟩ := hkey
    obtain ⟨part, s₁, hpart, hothers⟩ := Task.run_bind_eq_ok hvalue
    obtain ⟨rest, s₂, hrest, hend⟩ := Task.run_bind_eq_ok hothers
    cases hend
    obtain ⟨p, hp, rfl⟩ := hvisit hpart
    obtain ⟨ps, hps, rfl⟩ := ih hrest
    refine ⟨(name, p) :: ps, .cons hkey hp hps, ?_⟩
    rw [Printed.memberParts, Prints.waiting p hp, List.length_append, Printed.text?]
    cases hdrop : p.isDropped with
    | true => rw [Printed.held_of_isDropped hdrop]; rfl
    | false => rfl

/-- What is printed of a container that is opened is in a record. -/
theorem prints_of_printContainer {inner : List Nat} {key : Text} {v u : Value}
    {s s₁ s' : Pending σ} {c : Container} {text : Text}
    (hvisit : IsRecorded heap options marker backticks gap (indent ++ gap) inner visit)
    (hleaves : Leaves options marker backticks key v s u s₁.1) (hwaiting : s₁.2 = s.2)
    (hopens : Opens heap path u inner c)
    (h : (printContainer visit gap indent c).run s₁ = (.ok text, s')) :
    ∃ p, Prints heap options marker backticks path key v s p s' ∧
      some text = p.text? (quotedToken marker) gap indent s.2.length := by
  obtain ⟨r, waiting⟩ := s₁
  obtain rfl : waiting = s.2 := hwaiting
  cases c with
  | sequence kind items =>
    obtain ⟨parts, s₂, hparts, hend⟩ := Task.run_bind_eq_ok h
    cases hend
    obtain ⟨ps, hps, rfl⟩ := prints_of_printItems hvisit items hparts
    exact ⟨.list ps, .list hleaves hopens hps, Printed.enclose_itemParts _ _ _ _ _⟩
  | mapping kind members =>
    obtain ⟨parts, s₂, hparts, hend⟩ := Task.run_bind_eq_ok h
    cases hend
    obtain ⟨ps, hps, rfl⟩ := prints_of_printMembers hvisit members hparts
    exact ⟨.object ps, .object hleaves hopens hps, Printed.enclose_memberParts _ _ _ _ _⟩

/-- A walk that succeeds has a record of what it printed. -/
theorem prints_of_printNode (limit : Nat) {path : List Nat} {indent : Text} :
    IsRecorded heap options marker backticks gap indent path
      (printNode heap (placing options marker backticks) gap limit path indent) := by
  induction limit generalizing path indent with
  | zero =>
    intro key v s s' r h
    cases h
  | succ limit ih =>
    intro key v s s' r h
    unfold printNode at h
    obtain ⟨u, s₁, hu, hrest⟩ := Task.run_bind_eq_ok h
    rcases keeps_or_leaves hu with ⟨t, rfl, rfl, hkeeps, hwaiting⟩ | ⟨hleaves, hwaiting⟩
    · -- the token is printed
      cases hrest
      have hprints : Prints heap options marker backticks path key (.text t) s _ _ := .token hkeeps
      rw [← hwaiting] at hprints
      exact ⟨.token t, hprints, by simp [Printed.text?, Printed.isDropped, Printed.pieces, emit,
        quotedToken]⟩
    · -- something else is
      have hs : (s₁.1, s.2) = s₁ := by rw [← hwaiting]
      have hword : ∀ {t : Text}, word? u = some t →
          ∃ p, Prints heap options marker backticks path key v s p s₁ ∧
            some t = p.text? (quotedToken marker) gap indent s.2.length := by
        intro t ht
        exact ⟨.word t, hs ▸ .word hleaves ht,
          by simp [Printed.text?, Printed.isDropped, Printed.pieces, emit]⟩
      cases u with
      | absent =>
        cases hrest
        exact ⟨.dropped, hs ▸ .dropped hleaves, rfl⟩
      | null =>
        cases hrest
        exact hword rfl
      | bool b =>
        cases hrest
        exact hword rfl
      | int n =>
        cases hrest
        exact hword rfl
      | float x =>
        cases hrest
        exact hword rfl
      | text t =>
        cases hrest
        exact ⟨.text t, hs ▸ .text hleaves,
          by simp [Printed.text?, Printed.isDropped, Printed.pieces, emit]⟩
      | other => cases hrest
      | sequence kind items =>
        obtain ⟨text, s₂, htext, hend⟩ := Task.run_bind_eq_ok hrest
        cases hend
        exact prints_of_printContainer ih hleaves hwaiting (.sequence ..) htext
      | mapping kind members =>
        obtain ⟨text, s₂, htext, hend⟩ := Task.run_bind_eq_ok hrest
        cases hend
        exact prints_of_printContainer ih hleaves hwaiting (.mapping ..) htext
      | shared place =>
        simp only at hrest
        split at hrest
        · cases hrest
        · rename_i hplace
          split at hrest
          · rename_i c hc
            obtain ⟨text, s₂, htext, hend⟩ := Task.run_bind_eq_ok hrest
            cases hend
            exact prints_of_printContainer ih hleaves hwaiting (.shared hplace hc) htext
          · cases hrest

end

/-! ## Skeletons -/

/-- A skeleton is the text of a record, and the texts that wait are those that tokens in the
record stand for. -/
theorem prints_of_skeleton {w : World} {v : Value} {s s' : σ} {text : Text} {waiting : List Text}
    (h : (skeleton w options marker v).run (s, []) = (.ok text, (s', waiting))) :
    ∃ gap p, Json.gap w.heap options.space = .ok gap ∧
      Prints w.heap options marker (options.backticks.getD w.settings.allowsBackticks) [] [] v
        (s, []) p (s', waiting) ∧
      waiting = p.held ∧ text = emit (quotedToken marker) 0 (p.skeleton gap) := by
  unfold skeleton stringify at h
  simp only at h
  obtain ⟨r, s₁, hr, hend⟩ := Task.run_bind_eq_ok h
  cases hgap : Json.gap w.heap options.space with
  | error e =>
    rw [hgap] at hr
    cases hr
  | ok gap =>
    rw [hgap] at hr
    cases hend
    obtain ⟨p, hp, rfl⟩ := prints_of_printNode _ hr
    refine ⟨gap, p, rfl, hp, ?_, ?_⟩
    · have := Prints.waiting p hp
      simpa using this
    · unfold Printed.skeleton Printed.text?
      cases hdrop : p.isDropped with
      | true => simp [emit]
      | false => simp

/-- Once the skeleton is there the code is finished. -/
theorem convert_of_skeleton {c : Converter} {w : World} {v : Value} {s s' : σ} {text : Text}
    {waiting : List Text}
    (h : (skeleton w options c.marker.text v).run (s, []) = (.ok text, (s', waiting))) :
    (c.convert options v).run (w, s) =
      (((finish c options text waiting).run w).1,
        (((finish c options text waiting).run w).2, s')) := by
  show Converter.convert c options v (w, s) = _
  unfold Converter.convert
  simp only [h]
  rfl

/-- A gap that cannot be used is reported before anything is printed. -/
theorem skeleton_of_gap_eq_error {w : World} {e : Failure}
    (h : Json.gap w.heap options.space = .error e) (marker : Text) (v : Value) (s : σ) :
    (skeleton w options marker v).run (s, []) = (.error e, (s, [])) := by
  unfold skeleton stringify
  simp only [h]
  rw [Task.run_bind]
  rfl

/-- A failure of the walk is that of the conversion. -/
theorem convert_of_skeleton_eq_error {c : Converter} {w : World} {v : Value} {s s' : σ}
    {e : Failure} {waiting : List Text}
    (h : (skeleton w options c.marker.text v).run (s, []) = (.error e, (s', waiting))) :
    (c.convert options v).run (w, s) = (.error e, (w, s')) := by
  show Converter.convert c options v (w, s) = _
  unfold Converter.convert
  simp only [h]

/-- A conversion that succeeds has printed a skeleton and finished it. -/
theorem skeleton_of_convert {c : Converter} {w w' : World} {v : Value} {s s' : σ} {r : Conversion}
    (h : (c.convert options v).run (w, s) = (.ok r, (w', s'))) :
    ∃ text waiting,
      (skeleton w options c.marker.text v).run (s, []) = (.ok text, (s', waiting)) ∧
        (finish c options text waiting).run w = (.ok r, w') := by
  rcases hskeleton : (skeleton w options c.marker.text v).run (s, []) with ⟨result, s₁, waiting⟩
  cases result with
  | error e =>
    have h : Converter.convert c options v (w, s) = _ := h
    unfold Converter.convert at h
    simp only [hskeleton] at h
    cases h
  | ok text =>
    rw [convert_of_skeleton hskeleton] at h
    obtain ⟨hr, hstate⟩ := Prod.mk.inj h
    obtain ⟨hw, rfl⟩ := Prod.mk.inj hstate
    exact ⟨text, waiting, rfl, Prod.ext hr hw⟩

end JsLiteral.Json
