import JsLiteral.Proofs.Json.Calls
import JsLiteral.Proofs.Json.Document
import Mathlib.Order.Basic

/-!
# Replacing from the top down

A replacer that is a function of the key and the value makes a tree of a value: it is asked for
the root first, and what it answers is put in the place of the root; the parts of a container
that was put there are treated in turn. An absent answer leaves out a member and is null among
items. Printing a value with the replacer prints this tree, and the replacer is called for the
nodes of the tree only, from the left, a container before its parts.

While the tree has finitely many levels no heap container is entered inside itself: the answers
below it would be the same again, level after level.

    replaceNode heap f n key v = some (u, calls) →
      printing `v` with `f` prints `u`, and makes these calls       (follows_printNode)
-/

namespace JsLiteral.Json

/-- The calls of a replacer, the first one first. -/
abbrev Calls := List (Text × Value)

/-! ## The tree that a replacer makes -/

/-- What stands among items for an answer. -/
def orNull : Value → Value
  | .absent => .null
  | v => v

/-- What stands among members for an answer. -/
def keepMember (key : Key) : Value → Members → Members
  | .absent, members => members
  | v, members => (key, v) :: members

/-- A container written in place. -/
def inPlace : Container → Value
  | .sequence kind items => .sequence kind items
  | .mapping kind members => .mapping kind members

section

variable (visit : Text → Value → Option (Value × Calls))

/-- Replaces items, which are numbered from `i`. -/
def replaceItems : Nat → List Value → Option (List Value × Calls)
  | _, [] => some ([], [])
  | i, v :: rest => do
    let (u, calls) ← visit (Text.ofNat i) v
    let (us, others) ← replaceItems (i + 1) rest
    some (orNull u :: us, calls ++ others)

/-- Replaces the values of members. A member without a name is never asked for. -/
def replaceMembers : Members → Option (Members × Calls)
  | [] => some ([], [])
  | (key, v) :: rest =>
    match memberName key with
    | .error _ => do
      let (us, others) ← replaceMembers rest
      some ((key, v) :: us, others)
    | .ok name => do
      let (u, calls) ← visit name v
      let (us, others) ← replaceMembers rest
      some (keepMember key u us, calls ++ others)

/-- Replaces the parts of a container. -/
def replaceContainer : Container → Option (Container × Calls)
  | .sequence kind items => do
    let (us, calls) ← replaceItems visit 0 items
    some (.sequence kind us, calls)
  | .mapping kind members => do
    let (us, calls) ← replaceMembers visit members
    some (.mapping kind us, calls)

end

/-- The tree that `f` makes of a node, and the calls that this takes; `none` if the tree has more
than `levels` levels. -/
def replaceNode (heap : Heap) (f : Text → Value → Value) :
    Nat → Text → Value → Option (Value × Calls)
  | 0, _, _ => none
  | levels + 1, key, v =>
    match (f key v).container? heap with
    | none => some (f key v, [(key, v)])
    | some c => do
      let (d, calls) ← replaceContainer (replaceNode heap f levels) c
      some (inPlace d, (key, v) :: calls)

/-! ## Levels -/

section

variable {visit visit' : Text → Value → Option (Value × Calls)}

theorem replaceItems_cons_eq_some {i : Nat} {v : Value} {rest : List Value}
    {r : List Value × Calls} : replaceItems visit i (v :: rest) = some r ↔
      ∃ u calls us others, visit (Text.ofNat i) v = some (u, calls) ∧
        replaceItems visit (i + 1) rest = some (us, others) ∧
        r = (orNull u :: us, calls ++ others) := by
  simp only [replaceItems, Option.bind_eq_bind, Option.bind_eq_some_iff, Option.some.injEq,
    Prod.exists, exists_and_left, @eq_comm _ r]

theorem replaceMembers_cons_of_error {key : Key} {v : Value} {rest : Members} {e : Failure}
    (hkey : memberName key = .error e) {r : Members × Calls} :
    replaceMembers visit ((key, v) :: rest) = some r ↔
      ∃ us others, replaceMembers visit rest = some (us, others) ∧
        r = ((key, v) :: us, others) := by
  simp only [replaceMembers, hkey, Option.bind_eq_bind, Option.bind_eq_some_iff, Option.some.injEq,
    Prod.exists, @eq_comm _ r]

theorem replaceMembers_cons_of_ok {key : Key} {name : Text} {v : Value} {rest : Members}
    (hkey : memberName key = .ok name) {r : Members × Calls} :
    replaceMembers visit ((key, v) :: rest) = some r ↔
      ∃ u calls us others, visit name v = some (u, calls) ∧
        replaceMembers visit rest = some (us, others) ∧
        r = (keepMember key u us, calls ++ others) := by
  simp only [replaceMembers, hkey, Option.bind_eq_bind, Option.bind_eq_some_iff, Option.some.injEq,
    Prod.exists, exists_and_left, @eq_comm _ r]

theorem replaceContainer_sequence {kind : SequenceKind} {items : List Value}
    {r : Container × Calls} : replaceContainer visit (.sequence kind items) = some r ↔
      ∃ us calls, replaceItems visit 0 items = some (us, calls) ∧
        r = (.sequence kind us, calls) := by
  simp only [replaceContainer, Option.bind_eq_bind, Option.bind_eq_some_iff, Option.some.injEq,
    Prod.exists, @eq_comm _ r]

theorem replaceContainer_mapping {kind : MappingKind} {members : Members}
    {r : Container × Calls} : replaceContainer visit (.mapping kind members) = some r ↔
      ∃ us calls, replaceMembers visit members = some (us, calls) ∧
        r = (.mapping kind us, calls) := by
  simp only [replaceContainer, Option.bind_eq_bind, Option.bind_eq_some_iff, Option.some.injEq,
    Prod.exists, @eq_comm _ r]

variable (h : ∀ key v r, visit key v = some r → visit' key v = some r)

include h

theorem replaceItems_mono (items : List Value) : ∀ {i : Nat} {r : List Value × Calls},
    replaceItems visit i items = some r → replaceItems visit' i items = some r := by
  induction items with
  | nil => exact fun hr => hr
  | cons v rest ih =>
    intro i r hr
    obtain ⟨u, calls, us, others, hu, hus, rfl⟩ := replaceItems_cons_eq_some.1 hr
    exact replaceItems_cons_eq_some.2 ⟨u, calls, us, others, h _ _ _ hu, ih hus, rfl⟩

theorem replaceMembers_mono (members : Members) : ∀ {r : Members × Calls},
    replaceMembers visit members = some r → replaceMembers visit' members = some r := by
  induction members with
  | nil => exact fun hr => hr
  | cons m rest ih =>
    obtain ⟨key, v⟩ := m
    intro r hr
    cases hkey : memberName key with
    | error e =>
      obtain ⟨us, others, hus, rfl⟩ := (replaceMembers_cons_of_error hkey).1 hr
      exact (replaceMembers_cons_of_error hkey).2 ⟨us, others, ih hus, rfl⟩
    | ok name =>
      obtain ⟨u, calls, us, others, hu, hus, rfl⟩ := (replaceMembers_cons_of_ok hkey).1 hr
      exact (replaceMembers_cons_of_ok hkey).2 ⟨u, calls, us, others, h _ _ _ hu, ih hus, rfl⟩

theorem replaceContainer_mono {c : Container} {r : Container × Calls}
    (hr : replaceContainer visit c = some r) : replaceContainer visit' c = some r := by
  cases c with
  | sequence kind items =>
    obtain ⟨us, calls, hus, rfl⟩ := replaceContainer_sequence.1 hr
    exact replaceContainer_sequence.2 ⟨us, calls, replaceItems_mono h items hus, rfl⟩
  | mapping kind members =>
    obtain ⟨us, calls, hus, rfl⟩ := replaceContainer_mapping.1 hr
    exact replaceContainer_mapping.2 ⟨us, calls, replaceMembers_mono h members hus, rfl⟩

end

variable {heap : Heap} {f : Text → Value → Value}

theorem replaceNode_of_leaf {key : Text} {v : Value} (hleaf : (f key v).container? heap = none)
    (levels : Nat) : replaceNode heap f (levels + 1) key v = some (f key v, [(key, v)]) := by
  simp [replaceNode, hleaf]

theorem replaceNode_of_container {key : Text} {v : Value} {c : Container}
    (hc : (f key v).container? heap = some c) {levels : Nat} {r : Value × Calls} :
    replaceNode heap f (levels + 1) key v = some r ↔
      ∃ d calls, replaceContainer (replaceNode heap f levels) c = some (d, calls) ∧
        r = (inPlace d, (key, v) :: calls) := by
  simp only [replaceNode, hc, Option.bind_eq_bind, Option.bind_eq_some_iff, Option.some.injEq,
    Prod.exists, @eq_comm _ r]

/-- What has been made with some levels is made with more. -/
theorem replaceNode_succ (levels : Nat) : ∀ {key : Text} {v : Value} {r : Value × Calls},
    replaceNode heap f levels key v = some r → replaceNode heap f (levels + 1) key v = some r := by
  induction levels with
  | zero => exact fun hr => by cases hr
  | succ levels ih =>
    intro key v r hr
    cases hc : (f key v).container? heap with
    | none =>
      rw [replaceNode_of_leaf hc] at hr ⊢
      exact hr
    | some c =>
      obtain ⟨d, calls, hd, rfl⟩ := (replaceNode_of_container hc).1 hr
      exact (replaceNode_of_container hc).2
        ⟨d, calls, replaceContainer_mono (fun _ _ _ => ih) hd, rfl⟩

theorem replaceNode_mono {m n : Nat} (h : m ≤ n) {key : Text} {v : Value} {r : Value × Calls}
    (hr : replaceNode heap f m key v = some r) : replaceNode heap f n key v = some r := by
  induction h with
  | refl => exact hr
  | step _ ih => exact replaceNode_succ _ ih

/-- A container has a least number of levels in which its parts are replaced, and there they
become what they become in more. -/
theorem exists_least_levels {n : Nat} {c : Container} {r : Container × Calls}
    (hr : replaceContainer (replaceNode heap f n) c = some r) :
    ∃ m ≤ n, replaceContainer (replaceNode heap f m) c = some r ∧
      ∀ k < m, replaceContainer (replaceNode heap f k) c = none := by
  induction n using Nat.strongRecOn with
  | ind n ih =>
    by_cases hless : ∃ k < n, ∃ r', replaceContainer (replaceNode heap f k) c = some r'
    · obtain ⟨k, hk, r', hr'⟩ := hless
      have hmore := replaceContainer_mono (fun _ _ _ => replaceNode_mono (Nat.le_of_lt hk)) hr'
      cases hmore.symm.trans hr
      obtain ⟨m, hm, hleast⟩ := ih k hk hr'
      exact ⟨m, Nat.le_trans hm (Nat.le_of_lt hk), hleast⟩
    · refine ⟨n, Nat.le_refl n, hr, fun k hk => ?_⟩
      exact Option.eq_none_iff_forall_ne_some.2 fun r' hr' => hless ⟨k, hk, r', hr'⟩

/-! ## Printing what a replacer makes -/

section

variable {σ τ α β : Type} {note : σ → Text × Value → σ}

/-- A replacer that answers what `f` does and notes each call in its state. -/
def Replacer.Answers (replacer : Replacer σ) (f : Text → Value → Value)
    (note : σ → Text × Value → σ) : Prop :=
  ∀ key v s, (replacer key v).run s = (.ok (f key v), note s (key, v))

/-- A step answers what another one answers in any state and has noted the calls, or it fails as
the other one does, with a value or a key of the wrong type. -/
def Follows (note : σ → Text × Value → σ) (x : Walk σ α) (y : Walk τ α) (calls : Calls) : Prop :=
  ∀ s, (∃ a, x.run s = (.ok a, calls.foldl note s) ∧ ∀ t, (y.run t).1 = .ok a) ∨
    ∃ e s', x.run s = (.error e, s') ∧ e.kind = .type ∧ ∀ t, (y.run t).1 = .error e

theorem Follows.answer (a : α) :
    Follows note (pure a : Walk σ α) (pure a : Walk τ α) [] :=
  fun _ => .inl ⟨a, rfl, fun _ => rfl⟩

theorem Follows.fail {e : Failure} (he : e.kind = .type) (calls : Calls) :
    Follows note (throw e : Walk σ α) (throw e : Walk τ α) calls :=
  fun s => .inr ⟨e, s, rfl, he, fun _ => rfl⟩

theorem run_bind_of_answer {y : Walk τ α} {k : α → Walk τ β} {t : τ} {a : α}
    (h : (y.run t).1 = .ok a) : ((y >>= k).run t).1 = ((k a).run (y.run t).2).1 := by
  rw [Task.run_bind]
  rcases hrun : y.run t with ⟨r, t'⟩
  rw [hrun] at h
  obtain rfl : r = .ok a := h
  rfl

theorem run_bind_of_failure {y : Walk τ α} {k : α → Walk τ β} {t : τ} {e : Failure}
    (h : (y.run t).1 = .error e) : ((y >>= k).run t).1 = .error e := by
  rw [Task.run_bind]
  rcases hrun : y.run t with ⟨r, t'⟩
  rw [hrun] at h
  obtain rfl : r = .error e := h
  rfl

theorem Follows.bind {x : Walk σ α} {y : Walk τ α} {g : α → Walk σ β} {k : α → Walk τ β}
    {calls others : Calls} (hxy : Follows note x y calls)
    (hgk : ∀ a, Follows note (g a) (k a) others) :
    Follows note (x >>= g) (y >>= k) (calls ++ others) := by
  intro s
  rcases hxy s with ⟨a, hx, hy⟩ | ⟨e, s', hx, he, hy⟩
  · rcases hgk a (calls.foldl note s) with ⟨b, hg, hk⟩ | ⟨e, s', hg, he, hk⟩
    · refine .inl ⟨b, ?_, fun t => by rw [run_bind_of_answer (hy t), hk]⟩
      rw [Task.run_bind, hx, List.foldl_append]
      exact hg
    · refine .inr ⟨e, s', ?_, he, fun t => by rw [run_bind_of_answer (hy t), hk]⟩
      rw [Task.run_bind, hx]
      exact hg
  · refine .inr ⟨e, s', ?_, he, fun t => run_bind_of_failure (hy t)⟩
    rw [Task.run_bind, hx]

theorem Follows.map {x : Walk σ α} {y : Walk τ α} {calls : Calls} (h : Follows note x y calls)
    (g : α → β) : Follows note (do pure (g (← x))) (do pure (g (← y))) calls := by
  have hanswer : ∀ a, Follows note (pure (g a) : Walk σ β) (pure (g a) : Walk τ β) [] :=
    fun a => .answer (g a)
  have hbind := h.bind hanswer
  rwa [List.append_nil] at hbind

/-- After a call of the replacer the walk goes on with its answer. -/
theorem Follows.call {replacer : Replacer σ} {f : Text → Value → Value}
    (hf : replacer.Answers f note) {key : Text} {v : Value} {g : Value → Walk σ α}
    {y : Walk τ α} {calls : Calls} (h : Follows note (g (f key v)) y calls) :
    Follows note (replacer key v >>= g) y ((key, v) :: calls) := by
  intro s
  have hrun : (replacer key v >>= g).run s = (g (f key v)).run (note s (key, v)) := by
    rw [Task.run_bind, hf]
  rw [hrun]
  exact h (note s (key, v))

/-! ## Items, members and containers -/

/-- Printing nodes with a replacer follows printing what `visit` makes of them, where it is not
deeper than `depth`; a dropped node is printed as an absent one, and null as null. -/
structure Visits (note : σ → Text × Value → σ) (visit : Text → Value → Option (Value × Calls))
    (depth : Nat) (given : Text → Value → Walk σ (Option Text))
    (plain : Text → Value → Walk τ (Option Text)) : Prop where
  node : ∀ {key : Text} {v u : Value} {calls : Calls}, visit key v = some (u, calls) →
    u.depth ≤ depth → Follows note (given key v) (plain key u) calls
  absent : ∀ key, plain key .absent = pure none
  null : ∀ key, plain key .null = pure (some ("null" : Text))

variable {visit : Text → Value → Option (Value × Calls)} {depth : Nat}
variable {given : Text → Value → Walk σ (Option Text)}
variable {plain : Text → Value → Walk τ (Option Text)}

theorem follows_printItems (h : Visits note visit depth given plain) (items : List Value) :
    ∀ {i : Nat} {us : List Value} {calls : Calls}, replaceItems visit i items = some (us, calls) →
      Value.depthItems us ≤ depth →
        Follows note (printItems given i items) (printItems plain i us) calls := by
  induction items with
  | nil =>
    intro i us calls hus _
    cases hus
    exact .answer []
  | cons v rest ih =>
    intro i us calls hus hdepth
    obtain ⟨u, calls, us, others, hu, hothers, hr⟩ := replaceItems_cons_eq_some.1 hus
    cases hr
    have hrest := ih hothers (Nat.le_trans (Nat.le_max_right _ _) hdepth)
    by_cases habsent : u = .absent
    · subst habsent
      -- the null that stands for it is printed as nothing would be among items
      have hnull : printItems plain i (orNull .absent :: us) =
          (do
            let part ← plain (Text.ofNat i) .absent
            let parts ← printItems plain (i + 1) us
            pure (part.getD "null" :: parts)) := by
        show (plain (Text.ofNat i) .null >>= _) = _
        rw [h.null, h.absent]
        rfl
      rw [hnull]
      exact (h.node hu (Nat.zero_le _)).bind fun part => hrest.map _
    · have hkept : orNull u = u := by
        cases u with
        | absent => exact absurd rfl habsent
        | _ => rfl
      rw [hkept] at hdepth ⊢
      exact (h.node hu (Nat.le_trans (Nat.le_max_left _ _) hdepth)).bind fun part => hrest.map _

theorem follows_printMembers (h : Visits note visit depth given plain) (colon : Text)
    (members : Members) : ∀ {us : Members} {calls : Calls},
      replaceMembers visit members = some (us, calls) → Value.depthMembers us ≤ depth →
        Follows note (printMembers given colon members) (printMembers plain colon us) calls := by
  induction members with
  | nil =>
    intro us calls hus _
    cases hus
    exact .answer []
  | cons m rest ih =>
    obtain ⟨key, v⟩ := m
    intro us calls hus hdepth
    cases hkey : memberName key with
    | error e =>
      obtain ⟨us, others, -, hr⟩ := (replaceMembers_cons_of_error hkey).1 hus
      cases hr
      unfold printMembers
      rw [hkey]
      have he : e.kind = .type := by
        cases key <;> cases hkey <;> rfl
      exact (Follows.fail he calls)
    | ok name =>
      obtain ⟨u, calls, us, others, hu, hothers, hr⟩ := (replaceMembers_cons_of_ok hkey).1 hus
      cases hr
      by_cases habsent : u = .absent
      · subst habsent
        have hrest := ih hothers hdepth
        have hnone : printMembers plain colon (keepMember key .absent us) =
            (do
              let part ← plain name .absent
              let parts ← printMembers plain colon us
              pure (addMember (quote name ++ colon) parts part)) := by
          rw [h.absent]
          simp [keepMember, addMember]
        rw [hnone, printMembers_cons_of_ok hkey]
        exact (h.node hu (Nat.zero_le _)).bind fun part => hrest.map _
      · have hkept : keepMember key u us = (key, u) :: us := by
          cases u with
          | absent => exact absurd rfl habsent
          | _ => rfl
        rw [hkept] at hdepth ⊢
        have hrest := ih hothers (Nat.le_trans (Nat.le_max_right _ _) hdepth)
        rw [printMembers_cons_of_ok hkey, printMembers_cons_of_ok hkey]
        exact (h.node hu (Nat.le_trans (Nat.le_max_left _ _) hdepth)).bind fun part => hrest.map _

theorem follows_printContainer (h : Visits note visit depth given plain) (gap indent : Text)
    {c d : Container} {calls : Calls} (hd : replaceContainer visit c = some (d, calls))
    (hdepth : d.depth ≤ depth + 1) :
    Follows note (printContainer given gap indent c) (printContainer plain gap indent d) calls := by
  cases c with
  | sequence kind items =>
    obtain ⟨us, calls, hus, hr⟩ := replaceContainer_sequence.1 hd
    cases hr
    exact (follows_printItems h items hus (Nat.le_of_succ_le_succ hdepth)).map _
  | mapping kind members =>
    obtain ⟨us, calls, hus, hr⟩ := replaceContainer_mapping.1 hd
    cases hr
    exact (follows_printMembers h _ members hus (Nat.le_of_succ_le_succ hdepth)).map _

/-! ## Nodes -/

/-- No level below `n` is enough for what the open heap containers hold. -/
def Unopened (heap : Heap) (f : Text → Value → Value) (n : Nat) (path : List Nat) : Prop :=
  ∀ place ∈ path, ∃ c, heap[place]? = some c ∧
    ∀ m < n, replaceContainer (replaceNode heap f m) c = none

variable {heap : Heap} {f : Text → Value → Value} {gap : Text} {replacer : Replacer σ}

theorem depth_pos (c : Container) : 0 < c.depth := by
  cases c with
  | sequence kind items => exact Nat.succ_pos _
  | mapping kind members => exact Nat.succ_pos _

theorem depth_inPlace (c : Container) : (inPlace c).depth = c.depth := by
  cases c with
  | sequence kind items => rfl
  | mapping kind members => rfl

theorem printNode_inPlace (limit : Nat) (path : List Nat) (indent key : Text) (c : Container) :
    printNode heap (Replacer.keep : Replacer τ) gap (limit + 1) path indent key (inPlace c) =
      inside heap .keep gap limit indent path c := by
  cases c with
  | sequence kind items => rfl
  | mapping kind members => rfl

/-- A leaf is printed as itself, or is of the wrong type. -/
theorem follows_leaf {n : Nat} {path : List Nat} (hpath : Unopened heap f n path) {u : Value}
    (hleaf : u.container? heap = none)
    (inside : List Nat → Container → Walk σ (Option Text))
    (inside' : List Nat → Container → Walk τ (Option Text)) :
    Follows note (printAnswer heap inside path u) (printAnswer heap inside' [] u) [] := by
  cases u with
  | sequence => cases hleaf
  | mapping => cases hleaf
  | other => exact .fail rfl []
  | shared place =>
    have hdangling : heap[place]? = none := hleaf
    have hclosed : place ∉ path := fun hmem => by
      obtain ⟨c, hc, -⟩ := hpath place hmem
      rw [hdangling] at hc
      cases hc
    simp only [printAnswer, hdangling, if_neg hclosed, if_neg List.not_mem_nil]
    exact .fail rfl []
  | _ => exact .answer _

/-- Printing a node with a replacer follows printing what the replacer makes of it. -/
theorem follows_printNode (hf : replacer.Answers f note) (n : Nat) :
    ∀ {limit limit' : Nat} {path : List Nat} {indent key : Text} {v u : Value} {calls : Calls},
      Unopened heap f n path → replaceNode heap f n key v = some (u, calls) → n ≤ limit →
        u.depth < limit' →
          Follows note (printNode heap replacer gap limit path indent key v)
            (printNode heap (Replacer.keep : Replacer τ) gap limit' [] indent key u) calls := by
  induction n using Nat.strongRecOn with
  | ind n ih =>
    intro limit limit' path indent key v u calls hpath hu hlimit hdepth
    cases n with
    | zero => cases hu
    | succ n =>
      obtain ⟨limit, rfl⟩ : ∃ l, limit = l + 1 := ⟨limit - 1, by omega⟩
      obtain ⟨limit', rfl⟩ : ∃ l, limit' = l + 1 := ⟨limit' - 1, by omega⟩
      cases hc : (f key v).container? heap with
      | none =>
        rw [replaceNode_of_leaf hc] at hu
        cases hu
        rw [printNode_succ, printNode_succ]
        exact .call hf (follows_leaf hpath hc _ _)
      | some c =>
        obtain ⟨d, calls, hd, hr⟩ := (replaceNode_of_container hc).1 hu
        cases hr
        have hopened : ∀ {m : Nat} {inner : List Nat}, m ≤ n → Unopened heap f m inner →
            replaceContainer (replaceNode heap f m) c = some (d, calls) →
              Follows note (inside heap replacer gap limit indent inner c)
                (printNode heap (Replacer.keep : Replacer τ) gap (limit' + 1) [] indent key
                  (inPlace d)) calls := by
          intro m inner hm hinner hd
          rw [printNode_inPlace]
          rw [depth_inPlace] at hdepth
          obtain ⟨limit', rfl⟩ : ∃ l, limit' = l + 1 :=
            ⟨limit' - 1, by have := depth_pos d; omega⟩
          have hvisits : Visits note (replaceNode heap f m) limit'
              (printNode heap replacer gap limit inner (indent ++ gap))
              (printNode heap (Replacer.keep : Replacer τ) gap (limit' + 1) [] (indent ++ gap)) :=
            ⟨fun hu hdepth => ih m (by omega) hinner hu (by omega) (by omega), fun _ => rfl,
              fun _ => rfl⟩
          exact (follows_printContainer hvisits gap indent hd (by omega)).map some
        rw [printNode_succ]
        refine .call hf ?_
        have hless : Unopened heap f n path := fun place hplace => by
          obtain ⟨c, hc, hnone⟩ := hpath place hplace
          exact ⟨c, hc, fun m hm => hnone m (by omega)⟩
        generalize f key v = answer at hc ⊢
        cases answer with
        | sequence kind items =>
          cases hc
          exact hopened (Nat.le_refl n) hless hd
        | mapping kind members =>
          cases hc
          exact hopened (Nat.le_refl n) hless hd
        | shared place =>
          have hplace : heap[place]? = some c := hc
          have hclosed : place ∉ path := fun hmem => by
            obtain ⟨c', hc', hnone⟩ := hpath place hmem
            cases hplace.symm.trans hc'
            rw [hnone n (Nat.lt_succ_self n)] at hd
            cases hd
          simp only [printAnswer, if_neg hclosed, hplace]
          obtain ⟨m, hm, hleast, hnone⟩ := exists_least_levels hd
          refine hopened hm (fun place' hplace' => ?_) hleast
          rcases List.mem_cons.1 hplace' with rfl | hplace'
          · exact ⟨c, hplace, hnone⟩
          · obtain ⟨c', hc', hnone'⟩ := hpath place' hplace'
            exact ⟨c', hc', fun k hk => hnone' k (by omega)⟩
        | _ => cases hc

/-- An object of members that are all dropped is empty. -/
theorem printMembers_of_dropped {visit : Text → Value → Walk σ (Option Text)} (colon : Text)
    (members : Members) (h : ∀ m ∈ members, ∃ name, memberName m.1 = .ok name ∧
      ∀ s, ((visit name m.2).run s).1 = .ok none) (s : σ) :
    ((printMembers visit colon members).run s).1 = .ok [] := by
  induction members generalizing s with
  | nil => rfl
  | cons m rest ih =>
    obtain ⟨key, v⟩ := m
    obtain ⟨name, hkey, hdropped⟩ := h (key, v) List.mem_cons_self
    rw [printMembers_cons_of_ok hkey, run_bind_of_answer (hdropped s)]
    rw [run_bind_of_answer (ih (fun m hm => h m (List.mem_cons_of_mem _ hm)) _)]
    rfl

/-- A mapping whose members are all dropped is printed as one without members. -/
theorem printNode_of_dropped (hf : replacer.Answers f note) {path inner : List Nat}
    {key : Text} {v : Value} {kind : MappingKind} {members : Members}
    (hopens : Opens heap path (f key v) inner (.mapping kind members))
    (hdropped : ∀ m ∈ members, ∃ name, memberName m.1 = .ok name ∧ f name m.2 = .absent)
    (gap indent : Text) (limit : Nat) (s : σ) :
    ((printNode heap replacer gap (limit + 2) path indent key v).run s).1 =
      .ok (some "\x7b\x7d") := by
  have hinside : ∀ s, ((inside heap replacer gap (limit + 1) indent inner
      (.mapping kind members)).run s).1 = .ok (some ("\x7b\x7d" : Text)) := by
    intro s
    have hnone : ((printMembers (printNode heap replacer gap (limit + 1) inner (indent ++ gap))
        (colon gap) members).run s).1 = .ok [] := by
      refine printMembers_of_dropped (colon gap) members (fun m hm => ?_) s
      obtain ⟨name, hname, habsent⟩ := hdropped m hm
      refine ⟨name, hname, fun s => ?_⟩
      rw [printNode_succ, Task.run_bind, hf, habsent]
      rfl
    unfold inside printContainer
    rw [bind_assoc, run_bind_of_answer hnone]
    rfl
  rw [printNode_succ, Task.run_bind, hf]
  generalize f key v = u at hopens
  cases hopens with
  | mapping => exact hinside _
  | shared hclosed hc =>
    simp only [printAnswer, if_neg hclosed, hc]
    exact hinside _

/-- **A replacer transforms a value from the top down.** A replacer that answers what `f` does
makes a tree of a value, if this has finitely many levels. Printing the value with the replacer
gives the text that printing the tree without one gives, or no text, or the same failure, which
is one of a wrong type, for every setting of the space. If it does not fail, the replacer has been
called for the nodes of the tree as it was made, in their order. A mapping whose members are all
dropped is printed as one without members. -/
theorem stringify_of_answers (hf : replacer.Answers f note) {levels spare : Nat} {v u : Value}
    {calls : Calls} (hu : replaceNode heap f levels [] v = some (u, calls))
    (hroom : levels ≤ heap.depthBound v + spare) (space : Value) (s : σ) :
    (∀ (τ : Type) (t : τ) (spare' : Nat), ((stringify heap replacer space v spare).run s).1 =
      ((stringify heap .keep space u spare').run t).1) ∧
    (∀ r, ((stringify heap replacer space v spare).run s).1 = .ok r →
      ((stringify heap replacer space v spare).run s).2 = calls.foldl note s) ∧
    (∀ e, ((stringify heap replacer space v spare).run s).1 = .error e → e.kind = .type) ∧
    (∀ {path inner : List Nat} {key : Text} {node : Value} {kind : MappingKind}
      {members : Members}, Opens heap path (f key node) inner (.mapping kind members) →
        (∀ m ∈ members, ∃ name, memberName m.1 = .ok name ∧ f name m.2 = .absent) →
          ∀ gap indent limit s, ((printNode heap replacer gap (limit + 2) path indent key node).run
            s).1 = .ok (some "\x7b\x7d")) := by
  have hfollows : ∀ (τ : Type) (spare' : Nat), Follows note (stringify heap replacer space v spare)
      (stringify heap (Replacer.keep : Replacer τ) space u spare') calls := by
    intro τ spare'
    unfold stringify
    cases hgap : gap heap space with
    | error e =>
      obtain ⟨typeName, rfl⟩ := exists_unsupportedSpace hgap
      exact .fail rfl calls
    | ok gap =>
      refine follows_printNode hf levels (fun place hplace => ?_) hu hroom ?_
      · cases hplace
      · rw [depthBound_eq]
        omega
  refine ⟨fun τ t spare' => ?_, fun r hr => ?_, fun e he => ?_, printNode_of_dropped hf⟩
  · rcases hfollows τ spare' s with ⟨a, hx, hy⟩ | ⟨e, s', hx, -, hy⟩
    · rw [hx, hy t]
    · rw [hx, hy t]
  · rcases hfollows Unit 0 s with ⟨a, hx, -⟩ | ⟨e, s', hx, -, -⟩
    · rw [hx]
    · rw [hx] at hr
      cases hr
  · rcases hfollows Unit 0 s with ⟨a, hx, -⟩ | ⟨e', s', hx, hkind, -⟩
    · rw [hx] at he
      cases he
    · rw [hx] at he
      cases he
      exact hkind

/-- What a recorded function of the key and the value notes of a call. -/
def noteCall (f : Text → Value → Value) (s : σ × List Call) (call : Text × Value) :
    σ × List Call :=
  (s.1, s.2 ++ [⟨call.1, call.2, .ok (f call.1 call.2)⟩])

theorem answers_recorded (f : Text → Value → Value) :
    (Replacer.recorded (Replacer.ofFun fun key v => .ok (f key v)) :
      Replacer (σ × List Call)).Answers f (noteCall f) :=
  fun _ _ _ => rfl

/-- Two members of a value on the heap, of which the replacer drops one. -/
def halfSecret : Heap :=
  [.mapping .dict [(.text "secret", .int 1), (.text "list", .sequence .list [.int 2, .int 3])]]

/-- Drops secrets and the items with number 1, and puts a mapping in the place of a word. -/
def withoutSecrets (key : Text) (v : Value) : Value :=
  if key = "secret" ∨ key = "1" then .absent
  else if key = "more" then .shared 0
  else v

/-- The mapping that comes in the place of the word is walked too, and nothing below a dropped
node is. -/
theorem stringify_withoutSecrets :
    let v := Value.mapping .dict [(.text "secret", .shared 0), (.text "more", .text "word")]
    let replacer : Replacer (Unit × List Call) :=
      .recorded (.ofFun fun key v => .ok (withoutSecrets key v))
    replacer.Answers withoutSecrets (noteCall withoutSecrets) ∧
    (∃ r, replaceNode halfSecret withoutSecrets 4 [] v = some r) ∧ 4 ≤ halfSecret.depthBound v + 0 ∧
    ((stringify halfSecret replacer (.int 1) v 0).run ((), [])).1 =
      .ok (some "\x7b\n \"more\": \x7b\n  \"list\": [\n   2,\n   null\n  ]\n \x7d\n\x7d") ∧
    ((stringify halfSecret replacer (.int 1) v 0).run ((), [])).2.2.map Call.key =
      ["", "secret", "more", "secret", "list", "0", "1"].map Text.ofString ∧
    ((printNode halfSecret replacer [] 2 [] [] [] (.mapping .dict [(.text "1", .null)])).run
      ((), [])).1 = .ok (some "\x7b\x7d") := by
  intro v replacer
  have hf : replacer.Answers withoutSecrets (noteCall withoutSecrets) := answers_recorded _
  have hr : ∃ r, replaceNode halfSecret withoutSecrets 4 [] v = some r := ⟨_, rfl⟩
  obtain ⟨⟨u, calls⟩, hu⟩ := hr
  have hroom : 4 ≤ halfSecret.depthBound v + 0 := by decide
  obtain ⟨htext, hcalls, -, hempty⟩ := stringify_of_answers hf hu hroom (.int 1) ((), [])
  cases hu
  have hprinted := htext Unit () 0
  refine ⟨hf, ⟨_, rfl⟩, hroom, hprinted, ?_, ?_⟩
  · rw [hcalls _ hprinted]
    rfl
  · refine hempty (.mapping ..) (fun m hm => ?_) [] [] 0 ((), [])
    obtain rfl := List.mem_singleton.1 hm
    exact ⟨"1", rfl, rfl⟩

end

end JsLiteral.Json
