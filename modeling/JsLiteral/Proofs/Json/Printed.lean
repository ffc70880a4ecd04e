import JsLiteral.Proofs.Json.Pieces

/-!
# What a walk prints

The record of a walk, node by node: what was printed in the place of each node, and for which
texts a token stands there. A node that was dropped keeps its place in the record; it is null
among items and nothing among members. The pieces of a record are the printed text, with a hole
for each token.

    holes (p.pieces gap indent) = p.held                              (holes_pieces)
    a record without tokens in which `choose` puts some holds the texts chosen    (held_choosing)
-/

namespace JsLiteral.Json

/-- What was printed for a node. -/
inductive Printed where
  | dropped
  /-- Null, a truth value or a number. -/
  | word (t : Text)
  | text (t : Text)
  /-- The token that stands for a text. -/
  | token (t : Text)
  | list (items : List Printed)
  | object (members : List (Text × Printed))
deriving Inhabited

/-- The word that a value without parts is printed as. -/
def word? : Value → Option Text
  | .null => some "null"
  | .bool b => some (if b then "true" else "false")
  | .int n => some (intText n)
  | .float x => some (floatText x)
  | _ => none

namespace Printed

def isDropped : Printed → Bool
  | dropped => true
  | _ => false

mutual

/-- The texts that tokens stand for, in order. -/
def held : Printed → List Text
  | .token t => [t]
  | .list items => heldItems items
  | .object members => heldMembers members
  | _ => []

def heldItems : List Printed → List Text
  | [] => []
  | p :: rest => p.held ++ heldItems rest

def heldMembers : List (Text × Printed) → List Text
  | [] => []
  | (_, p) :: rest => p.held ++ heldMembers rest

end

mutual

/-- The texts that are printed as values, in order. -/
def texts : Printed → List Text
  | .text t => [t]
  | .list items => textsItems items
  | .object members => textsMembers members
  | _ => []

def textsItems : List Printed → List Text
  | [] => []
  | p :: rest => p.texts ++ textsItems rest

def textsMembers : List (Text × Printed) → List Text
  | [] => []
  | (_, p) :: rest => p.texts ++ textsMembers rest

end

/-! ## Pieces -/

section

variable (gap : Text)

mutual

/-- The pieces of what was printed on a line indented by `indent`. -/
def pieces : Text → Printed → List Piece
  | _, .dropped => [.plain "null"]
  | _, .word t => [.plain t]
  | _, .text t => [.quoted t]
  | _, .token t => [.hole t]
  | indent, .list items =>
    if items.isEmpty then [.plain ['[', ']']] else piecesItems indent '[' items
  | indent, .object members =>
    if members.all fun m => m.2.isDropped then [.plain ['\x7b', '\x7d']]
    else piecesMembers indent '\x7b' members

def piecesItems : Text → CodePoint → List Printed → List Piece
  | indent, _, [] => [.plain (trail gap indent ++ [CodePoint.scalar ']'])]
  | indent, mark, p :: rest =>
    .plain (mark :: lead gap indent) ::
      (pieces (indent ++ gap) p ++ piecesItems indent ',' rest)

def piecesMembers : Text → CodePoint → List (Text × Printed) → List Piece
  | indent, _, [] => [.plain (trail gap indent ++ [CodePoint.scalar '\x7d'])]
  | indent, mark, (name, p) :: rest =>
    if p.isDropped then piecesMembers indent mark rest
    else
      .plain (mark :: lead gap indent) :: .quoted name :: .plain (colon gap) ::
        (pieces (indent ++ gap) p ++ piecesMembers indent ',' rest)

end

/-- The pieces of a whole record; a dropped root is `undefined`. -/
def skeleton (p : Printed) : List Piece :=
  if p.isDropped then [.plain "undefined"] else p.pieces gap []

theorem held_of_isDropped {p : Printed} (h : p.isDropped = true) : p.held = [] := by
  cases p with
  | dropped => rfl
  | word => cases h
  | text => cases h
  | token => cases h
  | list => cases h
  | object => cases h

theorem heldMembers_of_all {members : List (Text × Printed)}
    (h : (members.all fun m => m.2.isDropped) = true) : heldMembers members = [] := by
  induction members with
  | nil => rfl
  | cons m rest ih =>
    rw [List.all_cons, Bool.and_eq_true] at h
    rw [heldMembers, held_of_isDropped h.1, ih h.2, List.append_nil]

mutual

/-- The holes are the texts that tokens stand for. -/
theorem holes_pieces (indent : Text) : ∀ p : Printed, holes (p.pieces gap indent) = p.held
  | .dropped => rfl
  | .word _ => rfl
  | .text _ => rfl
  | .token _ => rfl
  | .list [] => rfl
  | .list (p :: rest) => holes_piecesItems indent '[' (p :: rest)
  | .object members => by
    unfold pieces held
    split
    · rename_i h
      exact (heldMembers_of_all h).symm
    · exact holes_piecesMembers indent '\x7b' members

theorem holes_piecesItems (indent : Text) (mark : CodePoint) : ∀ items : List Printed,
    holes (piecesItems gap indent mark items) = heldItems items
  | [] => rfl
  | p :: rest => by
    rw [piecesItems, holes, holes_append, holes_pieces, holes_piecesItems, heldItems]

theorem holes_piecesMembers (indent : Text) (mark : CodePoint) :
    ∀ members : List (Text × Printed),
      holes (piecesMembers gap indent mark members) = heldMembers members
  | [] => rfl
  | (name, p) :: rest => by
    unfold piecesMembers heldMembers
    split
    · rename_i h
      rw [holes_piecesMembers, held_of_isDropped h, List.nil_append]
    · rw [holes, holes, holes, holes_append, holes_pieces, holes_piecesMembers]

end

theorem holes_skeleton (p : Printed) : holes (p.skeleton gap) = p.held := by
  unfold skeleton
  split
  · rename_i h
    rw [held_of_isDropped h]
    rfl
  · exact holes_pieces gap [] p

end

/-! ## Parts -/

section

variable (fill : Nat → Text → Text) (gap indent : Text)

/-- The text of what was printed for a node, if it was not dropped; holes are numbered from
`n`. -/
def text? (n : Nat) (p : Printed) : Option Text :=
  if p.isDropped then none else some (emit fill n (p.pieces gap indent))

/-- The texts of items on lines indented by `indent`. -/
def itemParts : Nat → List Printed → List Text
  | _, [] => []
  | n, p :: rest => emit fill n (p.pieces gap indent) :: itemParts (n + p.held.length) rest

/-- The texts of members on lines indented by `indent`. -/
def memberParts : Nat → List (Text × Printed) → List Text
  | _, [] => []
  | n, (name, p) :: rest =>
    if p.isDropped then memberParts n rest
    else (quote name ++ colon gap ++ emit fill n (p.pieces gap indent)) ::
      memberParts (n + p.held.length) rest

/-- A dropped item is null. -/
theorem getD_text? (n : Nat) (p : Printed) :
    (p.text? fill gap indent n).getD "null" = emit fill n (p.pieces gap indent) := by
  cases p with
  | dropped => rfl
  | _ => rfl

theorem memberParts_eq_nil_iff (n : Nat) (members : List (Text × Printed)) :
    memberParts fill gap indent n members = [] ↔
      (members.all fun m => m.2.isDropped) = true := by
  induction members generalizing n with
  | nil => exact ⟨fun _ => rfl, fun _ => rfl⟩
  | cons m rest ih =>
    obtain ⟨name, p⟩ := m
    rw [memberParts, List.all_cons, Bool.and_eq_true]
    cases hp : p.isDropped with
    | true => simp [ih]
    | false => simp

theorem chain_itemParts (mark : CodePoint) (n : Nat) (items : List Printed) :
    chain gap indent ']' mark (itemParts fill gap (indent ++ gap) n items) =
      emit fill n (piecesItems gap indent mark items) := by
  induction items generalizing mark n with
  | nil => simp [itemParts, chain, piecesItems, emit]
  | cons p rest ih =>
    rw [itemParts, chain, ih, piecesItems, emit, emit_append, holes_pieces]
    simp

theorem chain_memberParts (mark : CodePoint) (n : Nat) (members : List (Text × Printed)) :
    chain gap indent '\x7d' mark (memberParts fill gap (indent ++ gap) n members) =
      emit fill n (piecesMembers gap indent mark members) := by
  induction members generalizing mark n with
  | nil => simp [memberParts, chain, piecesMembers, emit]
  | cons m rest ih =>
    obtain ⟨name, p⟩ := m
    rw [memberParts, piecesMembers]
    cases hp : p.isDropped with
    | true =>
      rw [if_pos rfl, if_pos rfl]
      exact ih mark n
    | false =>
      rw [if_neg Bool.false_ne_true, if_neg Bool.false_ne_true, chain, ih, emit, emit, emit,
        emit_append, holes_pieces]
      simp

/-- The text of a list. -/
theorem enclose_itemParts (n : Nat) (items : List Printed) :
    some (enclose '[' ']' gap indent (itemParts fill gap (indent ++ gap) n items)) =
      (list items).text? fill gap indent n := by
  cases items with
  | nil => rfl
  | cons p rest =>
    have hchain := chain_itemParts fill gap indent '[' n (p :: rest)
    rw [itemParts] at hchain ⊢
    rw [enclose_cons, hchain]
    rfl

/-- The text of an object. -/
theorem enclose_memberParts (n : Nat) (members : List (Text × Printed)) :
    some (enclose '\x7b' '\x7d' gap indent (memberParts fill gap (indent ++ gap) n members)) =
      (object members).text? fill gap indent n := by
  have hnil := memberParts_eq_nil_iff fill gap (indent ++ gap) n members
  have hchain := chain_memberParts fill gap indent '\x7b' n members
  unfold text? pieces
  cases hparts : memberParts fill gap (indent ++ gap) n members with
  | nil =>
    rw [if_pos (hnil.1 hparts)]
    rfl
  | cons part rest =>
    rw [hparts] at hchain hnil
    have hsome : ¬ (members.all fun m => m.2.isDropped) = true := fun hall => nomatch hnil.2 hall
    rw [if_neg hsome, enclose_cons, hchain]
    rfl

end

/-! ## Choosing texts -/

section

variable (choose : Text → Bool)

mutual

/-- The record with tokens in the places of the chosen texts. -/
def choosing : Printed → Printed
  | .text t => if choose t then .token t else .text t
  | .list items => .list (choosingItems items)
  | .object members => .object (choosingMembers members)
  | p => p

def choosingItems : List Printed → List Printed
  | [] => []
  | p :: rest => p.choosing :: choosingItems rest

def choosingMembers : List (Text × Printed) → List (Text × Printed)
  | [] => []
  | (name, p) :: rest => (name, p.choosing) :: choosingMembers rest

end

mutual

/-- Choosing makes the texts that are chosen those that tokens stand for. -/
theorem held_choosing : ∀ p : Printed, p.held = [] →
    (p.choosing choose).held = p.texts.filter choose
  | .dropped, _ => rfl
  | .word _, _ => rfl
  | .text t, _ => by
    unfold choosing texts
    by_cases ht : choose t = true
    · rw [if_pos ht, List.filter_cons_of_pos ht]
      rfl
    · rw [if_neg ht, List.filter_cons_of_neg ht]
      rfl
  | .token _, h => nomatch h
  | .list items, h => held_choosingItems items h
  | .object members, h => held_choosingMembers members h

theorem held_choosingItems : ∀ items : List Printed, heldItems items = [] →
    heldItems (choosingItems choose items) = (textsItems items).filter choose
  | [], _ => rfl
  | p :: rest, h => by
    obtain ⟨hp, hrest⟩ := List.append_eq_nil_iff.1 h
    rw [choosingItems, heldItems, held_choosing p hp, held_choosingItems rest hrest, textsItems,
      List.filter_append]

theorem held_choosingMembers : ∀ members : List (Text × Printed), heldMembers members = [] →
    heldMembers (choosingMembers choose members) = (textsMembers members).filter choose
  | [], _ => rfl
  | (_, p) :: rest, h => by
    obtain ⟨hp, hrest⟩ := List.append_eq_nil_iff.1 h
    rw [choosingMembers, heldMembers, held_choosing p hp, held_choosingMembers rest hrest,
      textsMembers, List.filter_append]

end

end

/-! ## Depth -/

mutual

/-- How many containers are nested in what was printed. -/
def depth : Printed → Nat
  | .list items => depthItems items + 1
  | .object members => depthMembers members + 1
  | _ => 0

def depthItems : List Printed → Nat
  | [] => 0
  | p :: rest => max p.depth (depthItems rest)

def depthMembers : List (Text × Printed) → Nat
  | [] => 0
  | (_, p) :: rest => max p.depth (depthMembers rest)

end

mutual

theorem depth_choosing (choose : Text → Bool) : ∀ p : Printed, (p.choosing choose).depth = p.depth
  | .dropped => rfl
  | .word _ => rfl
  | .text t => by
    unfold choosing
    split
    · rfl
    · rfl
  | .token _ => rfl
  | .list items => congrArg (· + 1) (depth_choosingItems choose items)
  | .object members => congrArg (· + 1) (depth_choosingMembers choose members)

theorem depth_choosingItems (choose : Text → Bool) : ∀ items : List Printed,
    depthItems (choosingItems choose items) = depthItems items
  | [] => rfl
  | p :: rest => by
    rw [choosingItems, depthItems, depth_choosing, depth_choosingItems choose rest, depthItems]

theorem depth_choosingMembers (choose : Text → Bool) : ∀ members : List (Text × Printed),
    depthMembers (choosingMembers choose members) = depthMembers members
  | [] => rfl
  | (_, p) :: rest => by
    rw [choosingMembers, depthMembers, depth_choosing, depth_choosingMembers choose rest,
      depthMembers]

end

end Printed

end JsLiteral.Json
