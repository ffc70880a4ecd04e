import JsLiteral.Proofs.Json.Calls
import JsLiteral.Proofs.Json.Document
import JsLiteral.Proofs.Json.Graph

/-!
# Printing graphs

Without a replacer a walk meets no end but the end of the graph or its first fault: the room that
it is given is always enough, since it enters no heap container twice on one path. If there is no
fault, it prints the tree that the value unfolds to, shared parts once for each place where they
stand; else it fails with the first fault in the order of the document.

    Ends … x P: a step answers something with `P` and the parts are clean, or it stops as they do
    printing a node ends so                                             (ends_printNode)
-/

namespace JsLiteral.Json

/-! ## Trees -/

mutual

/-- A value unfolds to one that is written in place: references to the heap are followed. -/
inductive UnfoldsTo (heap : Heap) : Value → Value → Prop
  | leaf {v : Value} : v.container? heap = none → (∀ place, v ≠ .shared place) → UnfoldsTo heap v v
  | sequence {v : Value} {kind : SequenceKind} {items us : List Value} :
    v.container? heap = some (.sequence kind items) → ItemsUnfoldTo heap items us →
      UnfoldsTo heap v (.sequence kind us)
  | mapping {v : Value} {kind : MappingKind} {members us : Members} :
    v.container? heap = some (.mapping kind members) → MembersUnfoldTo heap members us →
      UnfoldsTo heap v (.mapping kind us)

inductive ItemsUnfoldTo (heap : Heap) : List Value → List Value → Prop
  | nil : ItemsUnfoldTo heap [] []
  | cons {v u : Value} {items us : List Value} :
    UnfoldsTo heap v u → ItemsUnfoldTo heap items us → ItemsUnfoldTo heap (v :: items) (u :: us)

inductive MembersUnfoldTo (heap : Heap) : Members → Members → Prop
  | nil : MembersUnfoldTo heap [] []
  | cons {key : Key} {v u : Value} {members us : Members} :
    UnfoldsTo heap v u → MembersUnfoldTo heap members us →
      MembersUnfoldTo heap ((key, v) :: members) ((key, u) :: us)

end

section

variable (gap : Text)

mutual

/-- The text of a value that is written in place, on a line indented by `indent`; `none` if it is
left out. -/
def treeText? : Text → Value → Option Text
  | _, .null => some "null"
  | _, .bool b => some (if b then "true" else "false")
  | _, .int n => some (intText n)
  | _, .float x => some (floatText x)
  | _, .text t => some (quote t)
  | _, .absent => none
  | _, .other _ _ _ => none
  | indent, .sequence _ items => some (enclose '[' ']' gap indent (itemTexts (indent ++ gap) items))
  | indent, .mapping _ members =>
    some (enclose '\x7b' '\x7d' gap indent (memberTexts (indent ++ gap) members))
  | _, .shared _ => none

/-- The texts of items; null for one that is left out. -/
def itemTexts : Text → List Value → List Text
  | _, [] => []
  | indent, v :: rest => (treeText? indent v).getD "null" :: itemTexts indent rest

/-- The texts of the members that are not left out. -/
def memberTexts : Text → Members → List Text
  | _, [] => []
  | indent, (key, v) :: rest =>
    match memberName key with
    | .ok name => addMember (quote name ++ colon gap) (memberTexts indent rest) (treeText? indent v)
    | .error _ => memberTexts indent rest

end

end

variable {heap : Heap}

mutual

theorem UnfoldsTo.unique : ∀ {u : Value} {v u' : Value}, UnfoldsTo heap v u →
    UnfoldsTo heap v u' → u' = u
  | _, _, _, .leaf hleaf _, .leaf _ _ => rfl
  | _, _, _, .leaf hleaf _, .sequence hc _ => by rw [hleaf] at hc; cases hc
  | _, _, _, .leaf hleaf _, .mapping hc _ => by rw [hleaf] at hc; cases hc
  | _, _, _, .sequence hc _, .leaf hleaf _ => by rw [hleaf] at hc; cases hc
  | _, _, _, .sequence hc h, .sequence hc' h' => by
    cases hc.symm.trans hc'
    rw [ItemsUnfoldTo.unique h h']
  | _, _, _, .sequence hc _, .mapping hc' _ => by cases hc.symm.trans hc'
  | _, _, _, .mapping hc _, .leaf hleaf _ => by rw [hleaf] at hc; cases hc
  | _, _, _, .mapping hc _, .sequence hc' _ => by cases hc.symm.trans hc'
  | _, _, _, .mapping hc h, .mapping hc' h' => by
    cases hc.symm.trans hc'
    rw [MembersUnfoldTo.unique h h']

theorem ItemsUnfoldTo.unique : ∀ {us : List Value} {items us' : List Value},
    ItemsUnfoldTo heap items us → ItemsUnfoldTo heap items us' → us' = us
  | _, _, _, .nil, .nil => rfl
  | _, _, _, .cons h hrest, .cons h' hrest' => by
    rw [UnfoldsTo.unique h h', ItemsUnfoldTo.unique hrest hrest']

theorem MembersUnfoldTo.unique : ∀ {us : Members} {members us' : Members},
    MembersUnfoldTo heap members us → MembersUnfoldTo heap members us' → us' = us
  | _, _, _, .nil, .nil => rfl
  | _, _, _, .cons h hrest, .cons h' hrest' => by
    rw [UnfoldsTo.unique h h', MembersUnfoldTo.unique hrest hrest']

end

/-! ## Ends of a walk -/

section

variable {σ α β : Type} {path inner : List Nat} {ps : List Part} {p : Part}
variable {P : α → Prop} {Q : β → Prop}

/-- A step of a walk through parts answers something with the property `P`, and the parts are
clean, or it stops with their first fault. Its state stays as it is. -/
def Ends (heap : Heap) (path : List Nat) (ps : List Part) (x : Walk σ α) (P : α → Prop) : Prop :=
  (∃ a, P a ∧ IsClean heap path ps ∧ ∀ s, x.run s = (.ok a, s)) ∨
    ∃ e, Stops heap path ps e ∧ ∀ s, x.run s = (.error e, s)

theorem Ends.answer {a : α} (ha : P a) (hclean : IsClean heap path ps) :
    Ends heap path ps (pure a : Walk σ α) P :=
  .inl ⟨a, ha, hclean, fun _ => rfl⟩

theorem Ends.fail {e : Failure} (h : Stops heap path ps e) :
    Ends heap path ps (throw e : Walk σ α) P :=
  .inr ⟨e, h, fun _ => rfl⟩

/-- A step for the first part and what is left to do for the others. -/
theorem Ends.bind {x : Walk σ α} {g : α → Walk σ β} (hx : Ends heap path [p] x P)
    (hg : ∀ a, P a → Ends heap path ps (g a) Q) : Ends heap path (p :: ps) (x >>= g) Q := by
  rcases hx with ⟨a, ha, hclean, hrun⟩ | ⟨e, hstops, hrun⟩
  · have hbind : ∀ s, (x >>= g).run s = (g a).run s := fun s => by rw [Task.run_bind, hrun]
    rcases hg a ha with ⟨b, hb, hrest, hrun'⟩ | ⟨e, hstops, hrun'⟩
    · exact .inl ⟨b, hb, hclean.cons hrest, fun s => by rw [hbind, hrun']⟩
    · exact .inr ⟨e, hstops.tail hclean, fun s => by rw [hbind, hrun']⟩
  · exact .inr ⟨e, hstops.head, fun s => by rw [Task.run_bind, hrun]⟩

theorem Ends.map {x : Walk σ α} {f : α → β} (hx : Ends heap path ps x P)
    (hf : ∀ a, P a → Q (f a)) : Ends heap path ps (do pure (f (← x))) Q := by
  rcases hx with ⟨a, ha, hclean, hrun⟩ | ⟨e, hstops, hrun⟩
  · exact .inl ⟨f a, hf a ha, hclean, fun s => by rw [Task.run_bind, hrun]; rfl⟩
  · exact .inr ⟨e, hstops, fun s => by rw [Task.run_bind, hrun]⟩

/-- A step through the parts of a container that is opened. -/
theorem Ends.inside {v : Value} {c : Container} {x : Walk σ α} (hopens : Opens heap path v inner c)
    (hx : Ends heap inner (parts c) x P) : Ends heap path [.value v] x P := by
  rcases hx with ⟨a, ha, hclean, hrun⟩ | ⟨e, hstops, hrun⟩
  · exact .inl ⟨a, ha, hopens.isClean hclean, hrun⟩
  · exact .inr ⟨e, hopens.stops hstops, hrun⟩

/-! ## Printing -/

variable {gap indent : Text} {limit : Nat} {visit : Text → Value → Walk σ (Option Text)}

/-- The text of what a value unfolds to. -/
def IsTextOf (heap : Heap) (gap indent : Text) (v : Value) (r : Option Text) : Prop :=
  ∃ u, UnfoldsTo heap v u ∧ r = treeText? gap indent u

/-- Visiting values that are not too deep ends with their texts. -/
def VisitEnds (heap : Heap) (gap indent : Text) (path : List Nat) (limit : Nat)
    (visit : Text → Value → Walk σ (Option Text)) : Prop :=
  ∀ key v, v.depth + roomFrom path 0 heap < limit →
    Ends heap path [.value v] (visit key v) (IsTextOf heap gap indent v)

theorem ends_printItems (hvisit : VisitEnds heap gap indent path limit visit)
    (items : List Value) (hroom : Value.depthItems items + roomFrom path 0 heap < limit) :
    ∀ i, Ends heap path (items.map .value) (printItems visit i items)
      fun texts => ∃ us, ItemsUnfoldTo heap items us ∧ texts = itemTexts gap indent us := by
  induction items with
  | nil => exact fun _ => .answer ⟨[], .nil, rfl⟩ isClean_nil
  | cons v rest ih =>
    intro i
    rw [Value.depthItems] at hroom
    refine (hvisit _ v (by omega)).bind ?_
    rintro part ⟨u, hu, hpart⟩
    refine (ih (by omega) (i + 1)).map ?_
    rintro texts ⟨us, hus, htexts⟩
    exact ⟨u :: us, .cons hu hus, by rw [hpart, htexts]; rfl⟩

theorem ends_memberName (key : Key) :
    Ends heap path [.key key] (printMembers.liftExcept (memberName key) : Walk σ Text)
      fun name => memberName key = .ok name := by
  have hleaf : ∀ v, Part.key key = .value v → v.container? heap = none := fun v h => by cases h
  cases key with
  | absent => exact .fail (stops_here rfl)
  | other => exact .fail (stops_here rfl)
  | _ => exact .answer rfl (isClean_leaf rfl hleaf)

theorem ends_printMembers (hvisit : VisitEnds heap gap indent path limit visit)
    (members : Members) (hroom : Value.depthMembers members + roomFrom path 0 heap < limit) :
    Ends heap path (parts (.mapping .dict members)) (printMembers visit (colon gap) members)
      fun texts => ∃ us, MembersUnfoldTo heap members us ∧ texts = memberTexts gap indent us := by
  induction members with
  | nil => exact .answer ⟨[], .nil, rfl⟩ isClean_nil
  | cons m rest ih =>
    obtain ⟨key, v⟩ := m
    rw [Value.depthMembers] at hroom
    rw [printMembers_cons]
    refine (ends_memberName key).bind ?_
    intro name hname
    refine (hvisit name v (by omega)).bind ?_
    rintro part ⟨u, hu, hpart⟩
    refine (ih (by omega)).map ?_
    rintro texts ⟨us, hus, htexts⟩
    refine ⟨(key, u) :: us, .cons hu hus, ?_⟩
    rw [memberTexts, hname, hpart, htexts]

theorem ends_printContainer {v : Value} {c : Container} (hc : v.container? heap = some c)
    (hvisit : VisitEnds heap gap (indent ++ gap) path limit visit)
    (hroom : c.depth + roomFrom path 0 heap ≤ limit) :
    Ends heap path (parts c) (printContainer visit gap indent c)
      fun text => IsTextOf heap gap indent v (some text) := by
  cases c with
  | sequence kind items =>
    rw [Container.depth] at hroom
    refine (ends_printItems hvisit items (by omega) 0).map ?_
    rintro texts ⟨us, hus, htexts⟩
    exact ⟨.sequence kind us, .sequence hc hus, by rw [htexts, treeText?]⟩
  | mapping kind members =>
    rw [Container.depth] at hroom
    refine (ends_printMembers hvisit members (by omega)).map ?_
    rintro texts ⟨us, hus, htexts⟩
    exact ⟨.mapping kind us, .mapping hc hus, by rw [htexts, treeText?]⟩

/-! ## Nodes -/

variable {v : Value} {enter : List Nat → Container → Walk σ (Option Text)}

theorem printAnswer_of_fault {e : Failure} (h : fault? heap path (.value v) = some e) :
    printAnswer heap enter path v = throw e := by
  cases v with
  | other => cases h; rfl
  | shared place =>
    rw [fault?_shared] at h
    split at h
    · rename_i hp
      cases h
      simp only [printAnswer, if_pos hp]
    · rename_i hp
      split at h
      · cases h
      · rename_i hc
        cases h
        simp only [printAnswer, if_neg hp, hc]
  | _ => cases h

theorem printAnswer_of_opens {c : Container} (h : Opens heap path v inner c) :
    printAnswer heap enter path v = enter inner c := by
  cases h with
  | sequence => rfl
  | mapping => rfl
  | shared hp hc => simp only [printAnswer, if_neg hp, hc]

theorem printAnswer_of_leaf (hleaf : v.container? heap = none)
    (hfault : fault? heap path (.value v) = none) :
    (∀ place, v ≠ .shared place) ∧
      printAnswer heap enter path v = pure (treeText? gap indent v) := by
  cases v with
  | sequence => cases hleaf
  | mapping => cases hleaf
  | other => cases hfault
  | shared place =>
    obtain ⟨c, hc⟩ := (fault?_eq_none_iff.1 hfault).1
    have hnone : heap[place]? = none := hleaf
    rw [hnone] at hc
    cases hc
  | _ => exact ⟨fun _ => nofun, rfl⟩

/-- Printing a node that there is room for ends with the text of what it unfolds to. -/
theorem ends_printNode (limit : Nat) : ∀ {path : List Nat} {indent : Text},
    VisitEnds heap gap indent path limit
      (printNode heap (Replacer.keep : Replacer σ) gap limit path indent) := by
  induction limit with
  | zero => exact fun _ _ hroom => absurd hroom (Nat.not_lt_zero _)
  | succ limit ih =>
    intro path indent key v hroom
    have hstep : printNode heap (Replacer.keep : Replacer σ) gap (limit + 1) path indent key v =
        printAnswer heap (inside heap .keep gap limit indent) path v := rfl
    rw [hstep]
    cases hfault : fault? heap path (.value v) with
    | some e =>
      rw [printAnswer_of_fault hfault]
      exact .fail (stops_here hfault)
    | none =>
      cases hc : v.container? heap with
      | none =>
        obtain ⟨hplace, hrun⟩ := printAnswer_of_leaf hc hfault
        rw [hrun]
        exact .answer ⟨v, .leaf hc hplace, rfl⟩
          (isClean_leaf hfault fun u hu => by cases hu; exact hc)
      | some c =>
        obtain ⟨inner, hopens, -⟩ := exists_opens hc hfault
        have hdepth := hopens.depth_le
        rw [printAnswer_of_opens hopens]
        refine .inside hopens ?_
        exact (ends_printContainer hc ih (by omega)).map fun text htext => htext

/-- Without a replacer the walk ends in the same way for every state and every room. -/
theorem exists_stringify {space : Value} (hgap : Json.gap heap space = .ok gap) (v : Value) :
    ∃ r : Except Failure (Option Text),
      (∀ (σ : Type) (spare : Nat) (s : σ), (stringify heap .keep space v spare).run s = (r, s)) ∧
      ((∃ text, IsTextOf heap gap [] v text ∧ IsClean heap [] [.value v] ∧ r = .ok text) ∨
        ∃ e, Stops heap [] [.value v] e ∧ r = .error e) := by
  have hends : ∀ (σ : Type) (spare : Nat), Ends heap [] [.value v]
      (stringify heap .keep space v spare : Walk σ (Option Text)) (IsTextOf heap gap [] v) := by
    intro σ spare
    unfold stringify
    rw [hgap]
    refine ends_printNode _ [] v ?_
    rw [depthBound_eq]
    omega
  rcases hends Unit 0 with ⟨text, ⟨u, hu, rfl⟩, hclean, -⟩ | ⟨e, hstops, -⟩
  · refine ⟨.ok (treeText? gap [] u), fun σ spare s => ?_, .inl ⟨_, ⟨u, hu, rfl⟩, hclean, rfl⟩⟩
    rcases hends σ spare with ⟨text, ⟨u', hu', rfl⟩, -, hrun⟩ | ⟨e, hstops, -⟩
    · rw [hrun, hu.unique hu']
    · exact absurd hstops hclean.not_stops
  · refine ⟨.error e, fun σ spare s => ?_, .inr ⟨e, hstops, rfl⟩⟩
    rcases hends σ spare with ⟨text, -, hclean, -⟩ | ⟨e', hstops', hrun⟩
    · exact absurd hstops hclean.not_stops
    · rw [hrun, hstops.unique hstops']

end

/-! ## Values -/

/-- At its first fault a walk fails with one of the value if the container there is open, and with
one of the type if a key or a value there is not supported. -/
theorem FirstFault.kind_iff {v : Value} {pos deep : List Nat} {p : Part} {e : Failure}
    (h : FirstFault heap [] [.value v] pos deep p e) :
    (e.kind = .value ↔ ∃ place ∈ deep, p = .value (.shared place)) ∧
      (e.kind = .type ↔ ¬ IsSupported heap p) := by
  rcases kind_of_fault? h.fault with ⟨hkind, place, hplace, rfl⟩ | ⟨hkind, hclosed⟩
  · -- the container that is open is on the heap
    have hsupported : IsSupported heap (.value (.shared place)) := by
      rcases h.stands.ancestor hplace with hpath | ⟨-, hself⟩
      · cases hpath
      · cases hself with
        | direct hc _ => exact ⟨_, hc⟩
        | through hc _ _ => exact ⟨_, hc⟩
    refine ⟨⟨fun _ => ⟨place, hplace, rfl⟩, fun _ => hkind⟩, fun htype => ?_,
      fun hnot => absurd hsupported hnot⟩
    rw [hkind] at htype
    cases htype
  · refine ⟨⟨fun hvalue => ?_, ?_⟩, fun _ hsupported => ?_, fun _ => hkind⟩
    · rw [hkind] at hvalue
      cases hvalue
    · rintro ⟨place, hplace, rfl⟩
      exact absurd rfl (hclosed place hplace)
    · have hnone := fault?_eq_none_iff.2 ⟨hsupported, hclosed⟩
      rw [h.fault] at hnone
      cases hnone

/-- **A walk without a replacer ends on every graph and finds its cycles.** Whatever the value
shares or how it contains itself, printing it ends, and the same way for every room beyond the
depth of the value. It succeeds exactly if no container that the value reaches contains itself and
all keys and values that it reaches are supported; the text is then that of the only tree that the
value unfolds to. Else it fails with the first fault in the order of the document. This is a fault
of the value exactly if a container stands there that has been opened on the way to it, and one of
the type exactly if the key or the value there is not supported. -/
theorem stringify_keep {gap : Text} {space v : Value} (hgap : Json.gap heap space = .ok gap) :
    ∃ r : Except Failure (Option Text), r ≠ .error .tooDeep ∧
      (∀ (σ : Type) (spare : Nat) (s : σ), (stringify heap .keep space v spare).run s = (r, s)) ∧
      ((∃ text, r = .ok text) ↔
        IsAcyclic heap v ∧ ∀ p, Reaches heap v p → IsSupported heap p) ∧
      (∀ text, r = .ok text →
        ∃ u, (∀ u', UnfoldsTo heap v u' ↔ u' = u) ∧ text = treeText? gap [] u) ∧
      (∀ e, r = .error e ↔ ∃ pos deep p, FirstFault heap [] [.value v] pos deep p e) ∧
      (∀ pos deep p e, FirstFault heap [] [.value v] pos deep p e →
        (e.kind = .value ↔ ∃ place ∈ deep, p = .value (.shared place)) ∧
          (e.kind = .type ↔ ¬ IsSupported heap p)) := by
  obtain ⟨r, hrun, hends⟩ := exists_stringify hgap v
  refine ⟨r, ?_, hrun, ?_, ?_, ?_, fun _ _ _ _ hfirst => hfirst.kind_iff⟩
  · rcases hends with ⟨text, -, -, rfl⟩ | ⟨e, ⟨pos, deep, p, hfirst⟩, rfl⟩
    · exact fun h => by cases h
    · rintro ⟨⟩
      rcases kind_of_fault? hfirst.fault with ⟨hkind, -⟩ | ⟨hkind, -⟩ <;> cases hkind
  · rw [← isClean_iff]
    rcases hends with ⟨text, -, hclean, rfl⟩ | ⟨e, hstops, rfl⟩
    · exact ⟨fun _ => hclean, fun _ => ⟨text, rfl⟩⟩
    · exact ⟨fun ⟨_, h⟩ => (nomatch h), fun hclean => absurd hstops hclean.not_stops⟩
  · rintro text rfl
    rcases hends with ⟨text, ⟨u, hu, rfl⟩, -, he⟩ | ⟨e, -, he⟩
    · cases he
      exact ⟨u, fun u' => ⟨hu.unique, fun he => he ▸ hu⟩, rfl⟩
    · cases he
  · intro e
    rcases hends with ⟨text, -, hclean, rfl⟩ | ⟨e', hstops, rfl⟩
    · exact ⟨nofun, fun hstops => absurd hstops hclean.not_stops⟩
    · constructor
      · rintro ⟨⟩
        exact hstops
      · intro hstops'
        rw [hstops.unique hstops']

/-- A mapping, and a list that holds it twice, itself and a set. -/
def knot : Heap :=
  [.mapping .dict [(.text "a", .int 1)],
    .sequence .list [.shared 0, .mapping .view [(.null, .shared 0), (.text "up", .shared 1)],
      .other "set" "{1}" (some [.int 1])]]

/-- What is only shared is printed wherever it stands; what contains itself is found before the
set that comes after it. -/
theorem stringify_keep_knot :
    let twice := Value.sequence .tuple [.shared 0, .shared 0]
    Json.gap knot .null = .ok [] ∧
    ((stringify knot .keep .null twice 0).run ()).1 =
      .ok (some "[\x7b\"a\":1\x7d,\x7b\"a\":1\x7d]") ∧
    (IsAcyclic knot twice ∧ ∀ p, Reaches knot twice p → IsSupported knot p) ∧
    ((stringify knot .keep .null (.shared 1) 0).run ()).1 = .error .circular ∧
    (∃ pos deep p, FirstFault knot [] [.value (.shared 1)] pos deep p .circular ∧
      ∃ place ∈ deep, p = .value (.shared place)) := by
  intro twice
  have hgap : Json.gap knot .null = .ok [] := rfl
  obtain ⟨r, -, hrun, hok, -⟩ := stringify_keep hgap (v := twice)
  obtain ⟨r', -, hrun', -, -, hfail, hkind⟩ := stringify_keep hgap (v := .shared 1)
  have hprinted : ((stringify knot .keep .null twice 0).run ()).1 =
      .ok (some "[\x7b\"a\":1\x7d,\x7b\"a\":1\x7d]") := rfl
  have hstopped : ((stringify knot .keep .null (.shared 1) 0).run ()).1 = .error .circular := rfl
  rw [hrun] at hprinted
  rw [hrun'] at hstopped
  obtain ⟨pos, deep, p, hfirst⟩ := (hfail _).1 hstopped
  refine ⟨hgap, by rw [hrun]; exact hprinted, hok.1 ⟨_, hprinted⟩, by rw [hrun']; exact hstopped,
    pos, deep, p, hfirst, (hkind _ _ _ _ hfirst).1.1 rfl⟩

end JsLiteral.Json
