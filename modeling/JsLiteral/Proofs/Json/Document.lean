import JsLiteral.Proofs.Json.Printed

/-!
# Documents

The record of a value that is printed as it is: its words, texts, items and members in the
order they have, references to the heap followed. A value that contains itself has no record,
and neither has one that holds something JSON has no word for. Every tree has one. The
containers nested in a record are no more than the value and the heap account for.

    Denotes heap path v tree → IsDocument heap path v tree.printed    (Denotes.isDocument)
    IsDocument heap [] v doc → doc.depth < heap.depthBound v          (IsDocument.depth_lt)
-/

namespace JsLiteral.Json

variable {heap : Heap}

mutual

/-- A value inside the open heap containers `path` is printed as `doc` if nothing is replaced. -/
inductive IsDocument (heap : Heap) : List Nat → Value → Printed → Prop
  | dropped {path : List Nat} : IsDocument heap path .absent .dropped
  | word {path : List Nat} {v : Value} {t : Text} :
    word? v = some t → IsDocument heap path v (.word t)
  | text {path : List Nat} {t : Text} : IsDocument heap path (.text t) (.text t)
  | list {path inner : List Nat} {v : Value} {kind : SequenceKind} {items : List Value}
      {docs : List Printed} :
    Opens heap path v inner (.sequence kind items) → AreDocuments heap inner items docs →
      IsDocument heap path v (.list docs)
  | object {path inner : List Nat} {v : Value} {kind : MappingKind} {members : Members}
      {docs : List (Text × Printed)} :
    Opens heap path v inner (.mapping kind members) → AreMembers heap inner members docs →
      IsDocument heap path v (.object docs)

inductive AreDocuments (heap : Heap) : List Nat → List Value → List Printed → Prop
  | nil {path : List Nat} : AreDocuments heap path [] []
  | cons {path : List Nat} {v : Value} {items : List Value} {doc : Printed}
      {docs : List Printed} :
    IsDocument heap path v doc → AreDocuments heap path items docs →
      AreDocuments heap path (v :: items) (doc :: docs)

inductive AreMembers (heap : Heap) : List Nat → Members → List (Text × Printed) → Prop
  | nil {path : List Nat} : AreMembers heap path [] []
  | cons {path : List Nat} {key : Key} {name : Text} {v : Value} {members : Members}
      {doc : Printed} {docs : List (Text × Printed)} :
    memberName key = .ok name → IsDocument heap path v doc → AreMembers heap path members docs →
      AreMembers heap path ((key, v) :: members) ((name, doc) :: docs)

end

mutual

/-- No token stands in a document. -/
theorem IsDocument.held : ∀ {path : List Nat} {v : Value} (doc : Printed),
    IsDocument heap path v doc → doc.held = []
  | _, _, .dropped, _ => rfl
  | _, _, .word _, _ => rfl
  | _, _, .text _, _ => rfl
  | _, _, .list docs, .list _ h => AreDocuments.held docs h
  | _, _, .object docs, .object _ h => AreMembers.held docs h

theorem AreDocuments.held : ∀ {path : List Nat} {items : List Value} (docs : List Printed),
    AreDocuments heap path items docs → Printed.heldItems docs = []
  | _, _, [], _ => rfl
  | _, _, doc :: docs, .cons h hrest => by
    rw [Printed.heldItems, IsDocument.held doc h, AreDocuments.held docs hrest, List.append_nil]

theorem AreMembers.held : ∀ {path : List Nat} {members : Members}
    (docs : List (Text × Printed)), AreMembers heap path members docs →
      Printed.heldMembers docs = []
  | _, _, [], _ => rfl
  | _, _, (_, doc) :: docs, .cons _ h hrest => by
    rw [Printed.heldMembers, IsDocument.held doc h, AreMembers.held docs hrest, List.append_nil]

end

/-! ## Depths -/

/-- The containers nested in those heap containers from place `i` on that are not open. -/
def roomFrom (path : List Nat) : Nat → Heap → Nat
  | _, [] => 0
  | i, c :: rest => (if i ∈ path then 0 else c.depth) + roomFrom path (i + 1) rest

theorem roomFrom_cons_le (place : Nat) (path : List Nat) (i : Nat) (heap : Heap) :
    roomFrom (place :: path) i heap ≤ roomFrom path i heap := by
  induction heap generalizing i with
  | nil => exact Nat.le_refl 0
  | cons c rest ih =>
    unfold roomFrom
    have := ih (i + 1)
    by_cases h : i ∈ path
    · rw [if_pos h, if_pos (List.mem_cons_of_mem _ h)]
      omega
    · rw [if_neg h]
      split <;> omega

/-- Opening a heap container takes what is nested in it. -/
theorem roomFrom_open {place : Nat} {path : List Nat} (hp : place ∉ path) {i : Nat} {heap : Heap}
    (hi : i ≤ place) {c : Container} (hc : heap[place - i]? = some c) :
    roomFrom (place :: path) i heap + c.depth ≤ roomFrom path i heap := by
  induction heap generalizing i with
  | nil => cases hc
  | cons d rest ih =>
    unfold roomFrom
    by_cases h : i = place
    · subst h
      rw [Nat.sub_self] at hc
      cases hc
      have := roomFrom_cons_le i path (i + 1) rest
      rw [if_pos List.mem_cons_self, if_neg hp]
      omega
    · have hsub : place - i = (place - (i + 1)) + 1 := by omega
      rw [hsub] at hc
      have := ih (by omega : i + 1 ≤ place) hc
      by_cases hm : i ∈ path
      · rw [if_pos hm, if_pos (List.mem_cons_of_mem _ hm)]
        omega
      · have hm' : i ∉ place :: path := by
          intro hmem
          rcases List.mem_cons.1 hmem with he | he
          · exact h he
          · exact hm he
        rw [if_neg hm, if_neg hm']
        omega

theorem foldl_depth (heap : Heap) (n i : Nat) :
    heap.foldl (fun n c => n + c.depth) n = n + roomFrom [] i heap := by
  induction heap generalizing n i with
  | nil => rfl
  | cons c rest ih =>
    rw [List.foldl_cons, ih (n + c.depth) (i + 1), roomFrom, if_neg List.not_mem_nil]
    omega

theorem depthBound_eq (heap : Heap) (v : Value) :
    heap.depthBound v = v.depth + roomFrom [] 0 heap + 1 := by
  unfold Heap.depthBound
  rw [foldl_depth heap v.depth 0]

/-- What a container holds is less deep than the value and what is not yet open. -/
theorem Opens.depth_le {heap : Heap} {path inner : List Nat} {v : Value} {c : Container}
    (h : Opens heap path v inner c) :
    c.depth + roomFrom inner 0 heap ≤ v.depth + roomFrom path 0 heap := by
  cases h with
  | sequence => exact Nat.le_refl _
  | mapping => exact Nat.le_refl _
  | shared hp hc =>
    have := roomFrom_open hp (Nat.zero_le _) hc
    show _ ≤ 0 + _
    omega

mutual

theorem IsDocument.depth_le : ∀ {path : List Nat} {v : Value} (doc : Printed),
    IsDocument heap path v doc → doc.depth ≤ v.depth + roomFrom path 0 heap
  | _, _, .dropped, _ => Nat.zero_le _
  | _, _, .word _, _ => Nat.zero_le _
  | _, _, .text _, _ => Nat.zero_le _
  | _, _, .list docs, @IsDocument.list _ _ _ _ kind items _ hopen hitems => by
    have h1 := AreDocuments.depth_le docs hitems
    have h2 := hopen.depth_le
    have h3 : (Container.sequence kind items).depth = Value.depthItems items + 1 := rfl
    show Printed.depthItems docs + 1 ≤ _
    omega
  | _, _, .object docs, @IsDocument.object _ _ _ _ kind members _ hopen hmembers => by
    have h1 := AreMembers.depth_le docs hmembers
    have h2 := hopen.depth_le
    have h3 : (Container.mapping kind members).depth = Value.depthMembers members + 1 := rfl
    show Printed.depthMembers docs + 1 ≤ _
    omega

theorem AreDocuments.depth_le : ∀ {path : List Nat} {items : List Value} (docs : List Printed),
    AreDocuments heap path items docs →
      Printed.depthItems docs ≤ Value.depthItems items + roomFrom path 0 heap
  | _, _, [], _ => Nat.zero_le _
  | _, _, doc :: docs, .cons h hrest => by
    have h1 := IsDocument.depth_le doc h
    have h2 := AreDocuments.depth_le docs hrest
    unfold Printed.depthItems Value.depthItems
    omega

theorem AreMembers.depth_le : ∀ {path : List Nat} {members : Members}
    (docs : List (Text × Printed)), AreMembers heap path members docs →
      Printed.depthMembers docs ≤ Value.depthMembers members + roomFrom path 0 heap
  | _, _, [], _ => Nat.zero_le _
  | _, _, (_, doc) :: docs, .cons _ h hrest => by
    have h1 := IsDocument.depth_le doc h
    have h2 := AreMembers.depth_le docs hrest
    unfold Printed.depthMembers Value.depthMembers
    omega

end

/-- A record is less deep than a walk of its value may go. -/
theorem IsDocument.depth_lt {v : Value} {doc : Printed} (h : IsDocument heap [] v doc) :
    doc.depth < heap.depthBound v := by
  have := IsDocument.depth_le doc h
  rw [depthBound_eq]
  omega

/-! ## Trees -/

namespace Tree

mutual

/-- The record of a tree. -/
def printed : Tree → Printed
  | .null => .word "null"
  | .bool b => .word (if b then "true" else "false")
  | .int n => .word (intText n)
  | .float x => .word (floatText x)
  | .text t => .text t
  | .list items => .list (printedItems items)
  | .object members => .object (printedMembers members)

def printedItems : List Tree → List Printed
  | [] => []
  | tree :: rest => tree.printed :: printedItems rest

def printedMembers : List (Text × Tree) → List (Text × Printed)
  | [] => []
  | (name, tree) :: rest => (name, tree.printed) :: printedMembers rest

end

mutual

theorem texts_printed : ∀ tree : Tree, tree.printed.texts = tree.texts
  | .null => rfl
  | .bool _ => rfl
  | .int _ => rfl
  | .float _ => rfl
  | .text _ => rfl
  | .list items => textsItems_printed items
  | .object members => textsMembers_printed members

theorem textsItems_printed : ∀ items : List Tree,
    Printed.textsItems (printedItems items) = textsItems items
  | [] => rfl
  | tree :: rest => by
    rw [printedItems, Printed.textsItems, texts_printed, textsItems_printed rest, textsItems]

theorem textsMembers_printed : ∀ members : List (Text × Tree),
    Printed.textsMembers (printedMembers members) = textsMembers members
  | [] => rfl
  | (_, tree) :: rest => by
    rw [printedMembers, Printed.textsMembers, texts_printed, textsMembers_printed rest,
      textsMembers]

end

theorem isDropped_printed (choose : Text → Bool) (tree : Tree) :
    (tree.printed.choosing choose).isDropped = false := by
  cases tree with
  | text t =>
    unfold printed Printed.choosing
    split
    · rfl
    · rfl
  | _ => rfl

section

variable (choose : Text → Bool) (gap : Text)

mutual

/-- The pieces of a tree are those of its record. -/
theorem pieces_printed (indent : Text) : ∀ tree : Tree,
    (tree.printed.choosing choose).pieces gap indent = pieces choose gap indent tree
  | .null => rfl
  | .bool _ => rfl
  | .int _ => rfl
  | .float _ => rfl
  | .text t => by
    unfold printed Printed.choosing Json.pieces
    split
    · rfl
    · rfl
  | .list [] => rfl
  | .list (tree :: rest) => pieces_printedItems indent '[' (tree :: rest)
  | .object [] => rfl
  | .object ((name, tree) :: rest) => by
    have hmembers := pieces_printedMembers indent '\x7b' ((name, tree) :: rest)
    rw [printed, Printed.choosing, Printed.pieces, if_neg, hmembers]
    · rfl
    · simp [printedMembers, Printed.choosingMembers, isDropped_printed]

theorem pieces_printedItems (indent : Text) (mark : CodePoint) : ∀ items : List Tree,
    Printed.piecesItems gap indent mark (Printed.choosingItems choose (printedItems items)) =
      piecesItems choose gap indent mark items
  | [] => rfl
  | tree :: rest => by
    rw [printedItems, Printed.choosingItems, Printed.piecesItems, pieces_printed (indent ++ gap),
      pieces_printedItems indent ',' rest, piecesItems]

theorem pieces_printedMembers (indent : Text) (mark : CodePoint) :
    ∀ members : List (Text × Tree),
      Printed.piecesMembers gap indent mark
          (Printed.choosingMembers choose (printedMembers members)) =
        piecesMembers choose gap indent mark members
  | [] => rfl
  | (name, tree) :: rest => by
    rw [printedMembers, Printed.choosingMembers, Printed.piecesMembers, isDropped_printed,
      pieces_printed (indent ++ gap), pieces_printedMembers indent ',' rest, piecesMembers]
    rfl

end

end

end Tree

mutual

/-- What a tree's record is printed for. -/
theorem Denotes.isDocument : ∀ {path : List Nat} {v : Value} (tree : Tree),
    Denotes heap path v tree → IsDocument heap path v tree.printed
  | _, _, .null, h => .word (by rw [show _ = Value.null from h]; rfl)
  | _, _, .bool _, h => .word (by rw [show _ = Value.bool _ from h]; rfl)
  | _, _, .int _, h => .word (by rw [show _ = Value.int _ from h]; rfl)
  | _, _, .float _, ⟨h, _⟩ => .word (by rw [h]; rfl)
  | _, _, .text _, ⟨h, _⟩ => h ▸ .text
  | _, _, .list trees, ⟨_, _, _, hopen, hitems⟩ =>
    .list hopen (DenotesItems.areDocuments trees hitems)
  | _, _, .object trees, ⟨_, _, _, hopen, hmembers, _⟩ =>
    .object hopen (DenotesMembers.areMembers trees hmembers)

theorem DenotesItems.areDocuments : ∀ {path : List Nat} {items : List Value}
    (trees : List Tree), DenotesItems heap path items trees →
      AreDocuments heap path items (Tree.printedItems trees)
  | _, [], [], _ => .nil
  | _, _ :: _, tree :: trees, ⟨h, hrest⟩ =>
    .cons (Denotes.isDocument tree h) (DenotesItems.areDocuments trees hrest)

theorem DenotesMembers.areMembers : ∀ {path : List Nat} {members : Members}
    (trees : List (Text × Tree)), DenotesMembers heap path members trees →
      AreMembers heap path members (Tree.printedMembers trees)
  | _, [], [], _ => .nil
  | _, _ :: _, (_, tree) :: trees, ⟨⟨hkey, _⟩, h, hrest⟩ =>
    .cons (hkey ▸ rfl) (Denotes.isDocument tree h) (DenotesMembers.areMembers trees hrest)

end

end JsLiteral.Json
