import JsLiteral.Failure
import JsLiteral.Proofs.Json.Tree
import Mathlib.Data.List.Basic

/-!
# Values as graphs

The parts of a container are its items, or the keys and the values of its members. What a value
holds, directly or through other containers, is a graph, which may have cycles. A walk goes
through it from the root down, in the order of the document, and opens a container where it meets
it, unless it is inside of it. What a walk stops at is a fault: a key or a value of the wrong
type, or a container that is open already. Positions tell where a walk is, and their
lexicographic order is the order of the document.

    a walk meets no fault ↔ no container that the value reaches contains itself,
      and all that it reaches can be printed                           (isClean_iff)
    a walk has at most one first fault                                 (FirstFault.unique)
-/

namespace JsLiteral.Json

/-! ## Parts -/

/-- What a container holds. -/
inductive Part where
  | key (key : Key)
  | value (v : Value)

/-- What a container holds, in the order of the document: of each member the key comes first. -/
def parts : Container → List Part
  | .sequence _ items => items.map .value
  | .mapping _ members => members.flatMap fun m => [.key m.1, .value m.2]

section

variable (heap : Heap)

/-- A part is in the container that a value is, directly or through other containers. -/
inductive Contains : Value → Part → Prop
  | direct {v : Value} {c : Container} {p : Part} :
    v.container? heap = some c → p ∈ parts c → Contains v p
  | through {v u : Value} {c : Container} {p : Part} :
    v.container? heap = some c → .value u ∈ parts c → Contains u p → Contains v p

/-- A part is the value itself or in it. -/
def Reaches (v : Value) (p : Part) : Prop := p = .value v ∨ Contains heap v p

/-- No container on the heap that a value reaches contains itself. One that is written in place
is never its own part. -/
def IsAcyclic (v : Value) : Prop :=
  ∀ place, Reaches heap v (.value (.shared place)) →
    ¬ Contains heap (.shared place) (.value (.shared place))

/-- A key that a name can be made of, or a value that can be printed. -/
def IsSupported : Part → Prop
  | .key .absent => False
  | .key (.other _ _) => False
  | .value (.other _ _ _) => False
  | .value (.shared place) => ∃ c, heap[place]? = some c
  | _ => True

/-! ## Walks -/

/-- What is wrong with a part where the heap containers `path` are open. -/
def fault? (path : List Nat) : Part → Option Failure
  | .key .absent => some (.unsupportedKey "_Omit")
  | .key (.other typeName _) => some (.unsupportedKey typeName)
  | .value (.other typeName _ _) => some (.unsupportedValue typeName)
  | .value (.shared place) =>
    if place ∈ path then some .circular
    else match heap[place]? with
      | some _ => none
      | none => some (.unsupportedValue "object")
  | _ => none

/-- Where a walk through some parts is: the number of a part, and if this is a container that it
has opened, where it is among the parts of that. There it meets a part and has opened the heap
containers of the second list. -/
inductive Stands : List Nat → List Part → List Nat → List Nat → Part → Prop
  | here {path : List Nat} {ps : List Part} {i : Nat} {p : Part} :
    ps[i]? = some p → Stands path ps [i] path p
  | inside {path inner deep : List Nat} {ps : List Part} {i : Nat} {v : Value} {c : Container}
      {pos : List Nat} {p : Part} :
    ps[i]? = some (.value v) → Opens heap path v inner c → Stands inner (parts c) pos deep p →
      Stands path ps (i :: pos) deep p

/-- A walk through these parts meets no fault. -/
def IsClean (path : List Nat) (ps : List Part) : Prop :=
  ∀ pos deep p, Stands heap path ps pos deep p → fault? heap deep p = none

/-- The fault that comes first in a walk through these parts: where, at which part, and what is
wrong with it. -/
structure FirstFault (path : List Nat) (ps : List Part) (pos deep : List Nat) (p : Part)
    (e : Failure) : Prop where
  stands : Stands heap path ps pos deep p
  fault : fault? heap deep p = some e
  earlier : ∀ pos' deep' p', pos' < pos → Stands heap path ps pos' deep' p' →
    fault? heap deep' p' = none

/-- A walk through these parts stops with a failure. -/
def Stops (path : List Nat) (ps : List Part) (e : Failure) : Prop :=
  ∃ pos deep p, FirstFault heap path ps pos deep p e

end

variable {heap : Heap} {path inner deep pos : List Nat} {p : Part} {ps : List Part} {v : Value}
variable {c : Container} {e : Failure}

/-! ## Faults -/

theorem fault?_shared (place : Nat) : fault? heap path (.value (.shared place)) =
    if place ∈ path then some .circular
    else match heap[place]? with
      | some _ => none
      | none => some (.unsupportedValue "object") := rfl

theorem fault?_eq_none_iff : fault? heap path p = none ↔
    IsSupported heap p ∧ ∀ place ∈ path, p ≠ .value (.shared place) := by
  cases p with
  | key key => cases key <;> simp [fault?, IsSupported]
  | value v =>
    cases v with
    | shared place =>
      rw [fault?_shared]
      by_cases hp : place ∈ path
      · simp [hp]
      · have hne : ∀ place' ∈ path, Part.value (.shared place) ≠ .value (.shared place') := by
          rintro place' hp' he
          cases he
          exact hp hp'
        rw [if_neg hp, and_iff_left hne]
        cases hc : heap[place]? <;> simp [hc, IsSupported]
    | _ => simp [fault?, IsSupported]

/-- A fault is one of the value if a container is open already, and else one of the type. -/
theorem kind_of_fault? (h : fault? heap path p = some e) :
    (e.kind = .value ∧ ∃ place ∈ path, p = .value (.shared place)) ∨
      (e.kind = .type ∧ ∀ place ∈ path, p ≠ .value (.shared place)) := by
  cases p with
  | key key =>
    refine .inr ⟨?_, fun _ _ hp => by cases hp⟩
    cases key with
    | absent => cases h; rfl
    | other => cases h; rfl
    | _ => cases h
  | value v =>
    cases v with
    | shared place =>
      rw [fault?_shared] at h
      by_cases hp : place ∈ path
      · rw [if_pos hp] at h
        cases h
        exact .inl ⟨rfl, place, hp, rfl⟩
      · rw [if_neg hp] at h
        cases hc : heap[place]? with
        | some c =>
          rw [hc] at h
          cases h
        | none =>
          rw [hc] at h
          cases h
          exact .inr ⟨rfl, fun place' hp' he => by cases he; exact hp hp'⟩
    | other =>
      cases h
      exact .inr ⟨rfl, fun _ _ hp => by cases hp⟩
    | _ => cases h

/-! ## Opening -/

theorem Opens.container_eq (h : Opens heap path v inner c) : v.container? heap = some c := by
  cases h with
  | sequence => rfl
  | mapping => rfl
  | shared _ hc => exact hc

theorem Opens.unique {inner' : List Nat} {c' : Container} (h : Opens heap path v inner c)
    (h' : Opens heap path v inner' c') : inner = inner' ∧ c = c' := by
  cases h with
  | sequence => cases h'; exact ⟨rfl, rfl⟩
  | mapping => cases h'; exact ⟨rfl, rfl⟩
  | shared _ hc =>
    cases h' with
    | shared _ hc' =>
      cases hc.symm.trans hc'
      exact ⟨rfl, rfl⟩

/-- What a walk opens has no fault itself. -/
theorem Opens.fault?_eq_none (h : Opens heap path v inner c) :
    fault? heap path (.value v) = none := by
  cases h with
  | sequence => rfl
  | mapping => rfl
  | shared hp hc => rw [fault?_shared, if_neg hp, hc]

/-- A container without a fault can be opened. -/
theorem exists_opens (hc : v.container? heap = some c)
    (hfault : fault? heap path (.value v) = none) :
    ∃ inner, Opens heap path v inner c ∧ ∀ place, v = .shared place → place ∈ inner := by
  cases v with
  | sequence kind items =>
    cases hc
    exact ⟨path, .sequence path kind items, fun _ he => by cases he⟩
  | mapping kind members =>
    cases hc
    exact ⟨path, .mapping path kind members, fun _ he => by cases he⟩
  | shared place =>
    have hp : place ∉ path := fun hp => (fault?_eq_none_iff.1 hfault).2 place hp rfl
    refine ⟨place :: path, .shared hp hc, fun _ he => ?_⟩
    cases he
    exact List.mem_cons_self
  | _ => cases hc

theorem Opens.subset (h : Opens heap path v inner c) : path ⊆ inner := by
  cases h with
  | sequence => exact List.Subset.refl path
  | mapping => exact List.Subset.refl path
  | shared => exact List.subset_cons_self _ path

/-! ## Standing -/

theorem Stands.exists_cons (h : Stands heap path ps pos deep p) : ∃ i rest, pos = i :: rest := by
  cases h with
  | here => exact ⟨_, [], rfl⟩
  | inside => exact ⟨_, _, rfl⟩

theorem Stands.exists_zero_cons {q : Part} (h : Stands heap path [q] pos deep p) :
    ∃ rest, pos = 0 :: rest := by
  have hzero : ∀ {i : Nat} {q' : Part}, [q][i]? = some q' → i = 0 := fun hi => by
    simpa using (List.getElem?_eq_some_iff.1 hi).1
  cases h with
  | here hi => exact ⟨[], by rw [hzero hi]⟩
  | inside hi => exact ⟨_, by rw [hzero hi]⟩

theorem Stands.subset (h : Stands heap path ps pos deep p) : path ⊆ deep := by
  induction h with
  | here => exact List.Subset.refl _
  | inside _ hopens _ ih => exact List.Subset.trans hopens.subset ih

theorem Stands.unique (h : Stands heap path ps pos deep p) : ∀ {deep' : List Nat} {p' : Part},
    Stands heap path ps pos deep' p' → deep = deep' ∧ p = p' := by
  induction h with
  | here hi =>
    intro deep' p' h'
    cases h' with
    | here hi' =>
      cases hi.symm.trans hi'
      exact ⟨rfl, rfl⟩
    | inside _ _ h' =>
      obtain ⟨_, _, he⟩ := h'.exists_cons
      cases he
  | inside hi hopens h ih =>
    intro deep' p' h'
    cases h' with
    | here =>
      obtain ⟨_, _, he⟩ := h.exists_cons
      cases he
    | inside hi' hopens' h' =>
      cases hi.symm.trans hi'
      obtain ⟨rfl, rfl⟩ := hopens.unique hopens'
      exact ih h'

theorem stands_cons_zero {q : Part} : Stands heap path (q :: ps) (0 :: pos) deep p ↔
    Stands heap path [q] (0 :: pos) deep p := by
  constructor
  · intro h
    cases h with
    | here hi => exact .here hi
    | inside hi hopens h => exact .inside hi hopens h
  · intro h
    cases h with
    | here hi => exact .here hi
    | inside hi hopens h => exact .inside hi hopens h

theorem stands_cons_succ {q : Part} {i : Nat} :
    Stands heap path (q :: ps) ((i + 1) :: pos) deep p ↔ Stands heap path ps (i :: pos) deep p := by
  constructor
  · intro h
    cases h with
    | here hi => exact .here hi
    | inside hi hopens h => exact .inside hi hopens h
  · intro h
    cases h with
    | here hi => exact .here hi
    | inside hi hopens h => exact .inside hi hopens h

/-- What can be met from where a walk stands can be met in the walk. -/
theorem Stands.append (h : Stands heap path ps pos deep p) {pos' deep' : List Nat} {p' : Part}
    (h' : Stands heap deep [p] (0 :: pos') deep' p') :
    Stands heap path ps (pos ++ pos') deep' p' := by
  induction h with
  | here hi =>
    cases h' with
    | here hi' =>
      cases hi'
      exact .here hi
    | inside hi' hopens' h' =>
      cases hi'
      exact .inside hi hopens' h'
  | inside hi hopens _ ih => exact .inside hi hopens (ih h')

/-! ## Clean walks -/

theorem isClean_nil : IsClean heap path [] := by
  intro pos deep p h
  cases h with
  | here hi => cases hi
  | inside hi => cases hi

theorem IsClean.cons {q : Part} (hq : IsClean heap path [q]) (hps : IsClean heap path ps) :
    IsClean heap path (q :: ps) := by
  intro pos deep p h
  obtain ⟨i, rest, rfl⟩ := h.exists_cons
  cases i with
  | zero => exact hq _ _ _ (stands_cons_zero.1 h)
  | succ i => exact hps _ _ _ (stands_cons_succ.1 h)

/-- A part without a fault that is no container is clean. -/
theorem isClean_leaf (hfault : fault? heap path p = none)
    (hleaf : ∀ v, p = .value v → v.container? heap = none) : IsClean heap path [p] := by
  intro pos deep p' h
  cases h with
  | @here _ _ i _ hi =>
    obtain rfl := List.mem_singleton.1 (List.mem_of_getElem? hi)
    exact hfault
  | inside hi hopens _ =>
    have he := List.mem_singleton.1 (List.mem_of_getElem? hi)
    have hnone := hleaf _ he.symm
    rw [hopens.container_eq] at hnone
    cases hnone

theorem Opens.isClean (hopens : Opens heap path v inner c) (h : IsClean heap inner (parts c)) :
    IsClean heap path [.value v] := by
  intro pos deep p hstands
  cases hstands with
  | here hi =>
    obtain rfl := List.mem_singleton.1 (List.mem_of_getElem? hi)
    exact hopens.fault?_eq_none
  | inside hi hopens' hstands =>
    cases List.mem_singleton.1 (List.mem_of_getElem? hi)
    obtain ⟨rfl, rfl⟩ := hopens.unique hopens'
    exact h _ _ _ hstands

theorem IsClean.of_stands (h : IsClean heap path ps) (hstands : Stands heap path ps pos deep p) :
    IsClean heap deep [p] := by
  intro pos' deep' p' h'
  obtain ⟨rest, rfl⟩ := h'.exists_zero_cons
  exact h _ _ _ (hstands.append h')

/-! ## First faults -/

/-- A walk has at most one first fault. -/
theorem FirstFault.unique {pos' deep' : List Nat} {p' : Part} {e' : Failure}
    (h : FirstFault heap path ps pos deep p e) (h' : FirstFault heap path ps pos' deep' p' e') :
    pos = pos' ∧ deep = deep' ∧ p = p' ∧ e = e' := by
  have hpos : pos = pos' := by
    rcases lt_trichotomy pos pos' with hlt | he | hlt
    · have hnone := h'.earlier _ _ _ hlt h.stands
      rw [h.fault] at hnone
      cases hnone
    · exact he
    · have hnone := h.earlier _ _ _ hlt h'.stands
      rw [h'.fault] at hnone
      cases hnone
  subst hpos
  obtain ⟨rfl, rfl⟩ := h.stands.unique h'.stands
  have he := h.fault
  rw [h'.fault] at he
  cases he
  exact ⟨rfl, rfl, rfl, rfl⟩

theorem Stops.unique {e' : Failure} (h : Stops heap path ps e) (h' : Stops heap path ps e') :
    e = e' := by
  obtain ⟨_, _, _, h⟩ := h
  obtain ⟨_, _, _, h'⟩ := h'
  exact (h.unique h').2.2.2

theorem IsClean.not_stops (h : IsClean heap path ps) : ¬ Stops heap path ps e := by
  rintro ⟨_, _, _, hfirst⟩
  have hnone := h _ _ _ hfirst.stands
  rw [hfirst.fault] at hnone
  cases hnone

theorem stops_here (hfault : fault? heap path p = some e) : Stops heap path [p] e := by
  refine ⟨[0], path, p, .here rfl, hfault, fun pos' deep' p' hlt h' => ?_⟩
  obtain ⟨i, rest, rfl⟩ := h'.exists_cons
  rcases List.cons_lt_cons_iff.1 hlt with hlt | ⟨-, hlt⟩
  · exact absurd hlt (Nat.not_lt_zero i)
  · exact absurd hlt (List.not_lt_nil rest)

theorem Opens.stops (hopens : Opens heap path v inner c) (h : Stops heap inner (parts c) e) :
    Stops heap path [.value v] e := by
  obtain ⟨pos, deep, p, hfirst⟩ := h
  refine ⟨0 :: pos, deep, p, .inside rfl hopens hfirst.stands, hfirst.fault,
    fun pos' deep' p' hlt h' => ?_⟩
  cases h' with
  | here hi =>
    obtain rfl := List.mem_singleton.1 (List.mem_of_getElem? hi)
    exact hopens.fault?_eq_none
  | inside hi hopens' h' =>
    cases List.mem_singleton.1 (List.mem_of_getElem? hi)
    obtain ⟨rfl, rfl⟩ := hopens.unique hopens'
    rcases List.cons_lt_cons_iff.1 hlt with hlt | ⟨-, hlt⟩
    · exact absurd hlt (Nat.not_lt_zero _)
    · exact hfirst.earlier _ _ _ hlt h'

theorem Stops.head {q : Part} (h : Stops heap path [q] e) : Stops heap path (q :: ps) e := by
  obtain ⟨pos, deep, p, hfirst⟩ := h
  obtain ⟨rest, rfl⟩ := hfirst.stands.exists_zero_cons
  refine ⟨0 :: rest, deep, p, stands_cons_zero.2 hfirst.stands, hfirst.fault,
    fun pos' deep' p' hlt h' => ?_⟩
  obtain ⟨j, rest', rfl⟩ := h'.exists_cons
  rcases List.cons_lt_cons_iff.1 hlt with hj | ⟨rfl, -⟩
  · exact absurd hj (Nat.not_lt_zero j)
  · exact hfirst.earlier _ _ _ hlt (stands_cons_zero.1 h')

theorem Stops.tail {q : Part} (hq : IsClean heap path [q]) (h : Stops heap path ps e) :
    Stops heap path (q :: ps) e := by
  obtain ⟨pos, deep, p, hfirst⟩ := h
  obtain ⟨i, rest, rfl⟩ := hfirst.stands.exists_cons
  refine ⟨(i + 1) :: rest, deep, p, stands_cons_succ.2 hfirst.stands, hfirst.fault,
    fun pos' deep' p' hlt h' => ?_⟩
  obtain ⟨j, rest', rfl⟩ := h'.exists_cons
  cases j with
  | zero => exact hq _ _ _ (stands_cons_zero.1 h')
  | succ j =>
    refine hfirst.earlier _ _ _ (List.cons_lt_cons_iff.2 ?_) (stands_cons_succ.1 h')
    rcases List.cons_lt_cons_iff.1 hlt with hj | ⟨hj, hrest⟩
    · exact .inl (Nat.lt_of_succ_lt_succ hj)
    · exact .inr ⟨Nat.succ.inj hj, hrest⟩

/-! ## Clean graphs -/

/-- A part is one of these parts or in one of them. -/
def Among (heap : Heap) (ps : List Part) (p : Part) : Prop :=
  p ∈ ps ∨ ∃ v, .value v ∈ ps ∧ Contains heap v p

theorem Among.contains (hc : v.container? heap = some c) (h : Among heap (parts c) p) :
    Contains heap v p := by
  rcases h with h | ⟨u, hu, h⟩
  · exact .direct hc h
  · exact .through hc hu h

theorem Among.reaches (h : Among heap [.value v] p) : Reaches heap v p := by
  rcases h with h | ⟨u, hu, h⟩
  · exact .inl (List.mem_singleton.1 h)
  · cases List.mem_singleton.1 hu
    exact .inr h

/-- A walk meets only what its parts reach. -/
theorem Stands.among (h : Stands heap path ps pos deep p) : Among heap ps p := by
  induction h with
  | here hi => exact .inl (List.mem_of_getElem? hi)
  | inside hi hopens _ ih =>
    exact .inr ⟨_, List.mem_of_getElem? hi, ih.contains hopens.container_eq⟩

/-- The containers that a walk has opened contain what it meets. -/
theorem Stands.ancestor (h : Stands heap path ps pos deep p) {place : Nat} (hplace : place ∈ deep) :
    place ∈ path ∨ Among heap ps (.value (.shared place)) ∧ Contains heap (.shared place) p := by
  induction h with
  | here => exact .inl hplace
  | @inside path inner deep ps i v c pos p hi hopens h ih =>
    have hv : .value v ∈ ps := List.mem_of_getElem? hi
    rcases ih hplace with hinner | ⟨hamong, hcontains⟩
    · cases hopens with
      | sequence => exact .inl hinner
      | mapping => exact .inl hinner
      | shared hp hc =>
        rcases List.mem_cons.1 hinner with rfl | hpath
        · exact .inr ⟨.inl hv, h.among.contains hc⟩
        · exact .inl hpath
    · exact .inr ⟨.inr ⟨v, hv, hamong.contains hopens.container_eq⟩, hcontains⟩

/-- A clean walk meets all that its parts contain, inside of them. -/
theorem IsClean.exists_stands (hcontains : Contains heap v p) :
    ∀ {path : List Nat}, IsClean heap path [.value v] →
      ∃ pos deep, Stands heap path [.value v] (0 :: pos) deep p ∧
        ∀ place, v = .shared place → place ∈ deep := by
  induction hcontains with
  | @direct v c p hc hp =>
    intro path hclean
    obtain ⟨inner, hopens, hinner⟩ := exists_opens hc (hclean [0] path _ (.here rfl))
    obtain ⟨i, hi⟩ := List.mem_iff_getElem?.1 hp
    exact ⟨[i], inner, .inside rfl hopens (.here hi), hinner⟩
  | @through v u c p hc hu _ ih =>
    intro path hclean
    obtain ⟨inner, hopens, hinner⟩ := exists_opens hc (hclean [0] path _ (.here rfl))
    obtain ⟨i, hi⟩ := List.mem_iff_getElem?.1 hu
    have hstands : Stands heap path [.value v] [0, i] inner (.value u) :=
      .inside rfl hopens (.here hi)
    obtain ⟨pos, deep, hdeep, -⟩ := ih (hclean.of_stands hstands)
    exact ⟨i :: pos, deep, hstands.append hdeep, fun place he => hdeep.subset (hinner place he)⟩

/-- A walk through a value meets no fault exactly if no container that the value reaches contains
itself and all that it reaches is supported. -/
theorem isClean_iff : IsClean heap [] [.value v] ↔
    IsAcyclic heap v ∧ ∀ p, Reaches heap v p → IsSupported heap p := by
  constructor
  · intro hclean
    have hmeets : ∀ p, Reaches heap v p → ∃ pos deep, Stands heap [] [.value v] pos deep p := by
      rintro p (rfl | hcontains)
      · exact ⟨[0], [], .here rfl⟩
      · obtain ⟨pos, deep, hstands, -⟩ := hclean.exists_stands hcontains
        exact ⟨_, deep, hstands⟩
    refine ⟨fun place hreaches hself => ?_, fun p hreaches => ?_⟩
    · obtain ⟨pos, deep, hstands⟩ := hmeets _ hreaches
      -- the walk goes on inside the container and meets it again
      obtain ⟨pos', deep', hagain, hopened⟩ := (hclean.of_stands hstands).exists_stands hself
      have hnone := hclean _ _ _ (hstands.append hagain)
      exact (fault?_eq_none_iff.1 hnone).2 place (hopened place rfl) rfl
    · obtain ⟨pos, deep, hstands⟩ := hmeets p hreaches
      exact (fault?_eq_none_iff.1 (hclean _ _ _ hstands)).1
  · rintro ⟨hacyclic, hsupported⟩ pos deep p hstands
    refine fault?_eq_none_iff.2 ⟨hsupported p hstands.among.reaches, ?_⟩
    rintro place hplace rfl
    rcases hstands.ancestor hplace with hpath | ⟨hamong, hself⟩
    · cases hpath
    · exact hacyclic place hamong.reaches hself

end JsLiteral.Json
