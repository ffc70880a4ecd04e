import JsLiteral.Proofs.Json.Document
import JsLiteral.Proofs.Walk

/-!
# What printed JSON is made of

The code points outside of strings, the texts in strings and the texts that tokens stand for.
What holds of these in a record holds in its pieces, and what a walk hands down from each node
to what is printed for it and to its parts holds in its record.

    p.Has c → every piece of p is among c               (among_pieces)
    a walk whose nodes carry c prints a record with c   (Prints.has)
-/

namespace JsLiteral.Json

/-- What printed JSON may hold: code points outside of strings, texts in strings, and texts
that tokens stand for. -/
structure Contents where
  plain : CodePoint → Prop
  quoted : Text → Prop
  token : Text → Prop

def Piece.Among (c : Contents) : Piece → Prop
  | .plain t => ∀ d ∈ t, c.plain d
  | .quoted t => c.quoted t
  | .hole t => c.token t

/-- A code point of printed JSON stands outside of strings or in the text of one. -/
theorem mem_emit {marker : Text} {d : CodePoint} {ps : List Piece} {n : Nat}
    (hd : d ∈ emit (quotedToken marker) n ps) :
    (∃ t, .plain t ∈ ps ∧ d ∈ t) ∨ ∃ t, d ∈ quote t := by
  induction ps generalizing n with
  | nil => cases hd
  | cons p ps ih =>
    have hrest : ∀ {m : Nat}, d ∈ emit (quotedToken marker) m ps →
        (∃ t, .plain t ∈ p :: ps ∧ d ∈ t) ∨ ∃ t, d ∈ quote t := by
      intro m hd
      rcases ih hd with ⟨t, ht, hd⟩ | hquote
      · exact Or.inl ⟨t, List.mem_cons_of_mem _ ht, hd⟩
      · exact Or.inr hquote
    cases p with
    | plain t =>
      rcases List.mem_append.1 hd with hd | hd
      · exact Or.inl ⟨t, List.mem_cons_self, hd⟩
      · exact hrest hd
    | quoted t =>
      rcases List.mem_append.1 hd with hd | hd
      · exact Or.inr ⟨t, hd⟩
      · exact hrest hd
    | hole t =>
      rcases List.mem_append.1 hd with hd | hd
      · exact Or.inr ⟨_, hd⟩
      · exact hrest hd

namespace Printed

mutual

/-- The words, texts and names in a record are what `c` allows. -/
def Has (c : Contents) : Printed → Prop
  | .dropped => True
  | .word t => ∀ d ∈ t, c.plain d
  | .text t => c.quoted t
  | .token t => c.token t
  | .list items => HasItems c items
  | .object members => HasMembers c members

def HasItems (c : Contents) : List Printed → Prop
  | [] => True
  | p :: rest => p.Has c ∧ HasItems c rest

def HasMembers (c : Contents) : List (Text × Printed) → Prop
  | [] => True
  | (name, p) :: rest => c.quoted name ∧ p.Has c ∧ HasMembers c rest

end

end Printed

/-! ## From a record to its pieces -/

/-- The layout with this gap is what `c` allows. -/
structure Contents.Lays (c : Contents) (gap : Text) : Prop where
  mark : ∀ d, isPlain d = true → d ≠ Text.newline → c.plain d
  line : gap = [] ∨ c.plain Text.newline ∧ ∀ d ∈ gap, c.plain d

section

variable {c : Contents} {gap indent : Text} (hl : c.Lays gap)
include hl

theorem Contents.Lays.of_mem_gap : ∀ d ∈ gap, c.plain d := by
  rcases hl.line with rfl | ⟨-, hgap⟩
  · exact fun _ hd => absurd hd List.not_mem_nil
  · exact hgap

theorem Contents.Lays.of_mem_indent (hi : ∀ d ∈ indent, c.plain d) :
    ∀ d ∈ indent ++ gap, c.plain d := by
  intro d hd
  rcases List.mem_append.1 hd with hd | hd
  · exact hi d hd
  · exact hl.of_mem_gap d hd

theorem Contents.Lays.among_lead (hi : ∀ d ∈ indent, c.plain d) {mark : CodePoint}
    (hm : isPlain mark = true ∧ mark ≠ Text.newline) :
    Piece.Among c (.plain (mark :: Json.lead gap indent)) := by
  intro d hd
  rcases List.mem_cons.1 hd with rfl | hd
  · exact hl.mark d hm.1 hm.2
  unfold Json.lead at hd
  rcases hl.line with rfl | ⟨hnewline, -⟩
  · cases hd
  · split at hd
    · cases hd
    · rcases List.mem_cons.1 hd with rfl | hd
      · exact hnewline
      · exact hl.of_mem_indent hi d hd

theorem Contents.Lays.among_trail (hi : ∀ d ∈ indent, c.plain d) {closing : CodePoint}
    (hm : isPlain closing = true ∧ closing ≠ Text.newline) :
    Piece.Among c (.plain (Json.trail gap indent ++ [closing])) := by
  intro d hd
  rcases List.mem_append.1 hd with hd | hd
  · unfold Json.trail at hd
    rcases hl.line with rfl | ⟨hnewline, -⟩
    · cases hd
    · split at hd
      · cases hd
      · rcases List.mem_cons.1 hd with rfl | hd
        · exact hnewline
        · exact hi d hd
  · rw [List.mem_singleton.1 hd]
    exact hl.mark closing hm.1 hm.2

theorem Contents.Lays.among_word {t : Text}
    (ht : ∀ d ∈ t, isPlain d = true ∧ d ≠ Text.newline) : Piece.Among c (.plain t) :=
  fun d hd => hl.mark d (ht d hd).1 (ht d hd).2

theorem Contents.Lays.among_colon : Piece.Among c (.plain (Json.colon gap)) := by
  unfold Json.colon
  split
  · exact hl.among_word (by decide)
  · exact hl.among_word (by decide)

mutual

/-- The pieces of a record hold what the record does. -/
theorem Printed.among_pieces : ∀ (p : Printed) {indent : Text}, (∀ d ∈ indent, c.plain d) →
    p.Has c → ∀ q ∈ p.pieces gap indent, q.Among c
  | .dropped, _, _, _, q, hq => by
    rw [List.mem_singleton.1 hq]
    exact hl.among_word (by decide)
  | .word _, _, _, h, q, hq => by
    rw [List.mem_singleton.1 hq]
    exact h
  | .text _, _, _, h, q, hq => by
    rw [List.mem_singleton.1 hq]
    exact h
  | .token _, _, _, h, q, hq => by
    rw [List.mem_singleton.1 hq]
    exact h
  | .list [], _, _, _, q, hq => by
    rw [List.mem_singleton.1 hq]
    exact hl.among_word (by decide)
  | .list (p :: rest), _, hi, h, q, hq =>
    Printed.among_piecesItems (p :: rest) hi (by decide) h q hq
  | .object members, _, hi, h, q, hq => by
    unfold Printed.pieces at hq
    split at hq
    · rw [List.mem_singleton.1 hq]
      exact hl.among_word (by decide)
    · exact Printed.among_piecesMembers members hi (by decide) h q hq

theorem Printed.among_piecesItems : ∀ (items : List Printed) {indent : Text} {mark : CodePoint},
    (∀ d ∈ indent, c.plain d) → (isPlain mark = true ∧ mark ≠ Text.newline) →
      Printed.HasItems c items → ∀ q ∈ Printed.piecesItems gap indent mark items, q.Among c
  | [], _, _, hi, _, _, q, hq => by
    rw [List.mem_singleton.1 hq]
    exact hl.among_trail hi (by decide)
  | p :: rest, _, _, hi, hm, h, q, hq => by
    rcases List.mem_cons.1 hq with rfl | hq
    · exact hl.among_lead hi hm
    rcases List.mem_append.1 hq with hq | hq
    · exact Printed.among_pieces p (hl.of_mem_indent hi) h.1 q hq
    · exact Printed.among_piecesItems rest hi (by decide) h.2 q hq

theorem Printed.among_piecesMembers : ∀ (members : List (Text × Printed)) {indent : Text}
    {mark : CodePoint}, (∀ d ∈ indent, c.plain d) → (isPlain mark = true ∧ mark ≠ Text.newline) →
      Printed.HasMembers c members →
        ∀ q ∈ Printed.piecesMembers gap indent mark members, q.Among c
  | [], _, _, hi, _, _, q, hq => by
    rw [List.mem_singleton.1 hq]
    exact hl.among_trail hi (by decide)
  | (name, p) :: rest, _, _, hi, hm, h, q, hq => by
    unfold Printed.piecesMembers at hq
    split at hq
    · exact Printed.among_piecesMembers rest hi hm h.2.2 q hq
    rcases List.mem_cons.1 hq with rfl | hq
    · exact hl.among_lead hi hm
    rcases List.mem_cons.1 hq with rfl | hq
    · exact h.1
    rcases List.mem_cons.1 hq with rfl | hq
    · exact hl.among_colon
    rcases List.mem_append.1 hq with hq | hq
    · exact Printed.among_pieces p (hl.of_mem_indent hi) h.2.1 q hq
    · exact Printed.among_piecesMembers rest hi (by decide) h.2.2 q hq

end

/-- A whole record may be `undefined`. -/
theorem Printed.among_skeleton (hu : ∀ d ∈ ("undefined" : Text), c.plain d) {p : Printed}
    (h : p.Has c) : ∀ q ∈ p.skeleton gap, q.Among c := by
  intro q hq
  unfold Printed.skeleton at hq
  split at hq
  · rw [List.mem_singleton.1 hq]
    exact hu
  · exact Printed.among_pieces hl p (fun _ hd => absurd hd List.not_mem_nil) h q hq

end

/-! ## Words -/

theorem isPlain_of_word? {v : Value} {t : Text} (h : word? v = some t) :
    ∀ d ∈ t, isPlain d = true ∧ d ≠ Text.newline := by
  have hnumber : ∀ {u : Text}, IsNumber u → ∀ d ∈ u, isPlain d = true ∧ d ≠ Text.newline := by
    intro u hu d hd
    rcases hu.isDigit_or_mem hd with hdigit | hmark
    · refine ⟨isPlain_of_isDigit hdigit, ?_⟩
      rintro rfl
      exact absurd hdigit (by decide)
    · have hall : ∀ e ∈ (".e+-" : Text), isPlain e = true ∧ e ≠ Text.newline := by decide
      exact hall d hmark
  cases v with
  | null =>
    cases h
    decide
  | bool b =>
    cases h
    cases b with
    | true => decide
    | false => decide
  | int n =>
    cases h
    exact hnumber (isNumber_ofInt n)
  | float x =>
    cases h
    by_cases hx : x.isFinite = true
    · exact hnumber (isNumber_floatText hx)
    · rw [floatText_of_not_isFinite hx]
      decide
  | _ => cases h

/-! ## From a walk to its record -/

section

variable {σ : Type} {heap : Heap} {options : Options σ} {marker : Text} {backticks : Bool}
variable {c : Contents} {node left : Value → Prop}

/-- What holds of a node is handed down to what is left in its place, and from there to the
items and members that are walked next; what is printed on the way is what `c` allows. -/
structure Carries (heap : Heap) (options : Options σ) (marker : Text) (backticks : Bool)
    (c : Contents) (node left : Value → Prop) : Prop where
  left_of_leaves : ∀ {key : Text} {v u : Value} {s : Pending σ} {r : σ}, node v →
    Leaves options marker backticks key v s u r → left u
  token_of_keeps : ∀ {key t : Text} {s : Pending σ} {r : σ}, node (.text t) →
    Keeps options marker backticks key t s r → c.token t
  word : ∀ {u : Value} {t : Text}, word? u = some t → ∀ d ∈ t, c.plain d
  text : ∀ {t : Text}, left (.text t) → c.quoted t
  items : ∀ {u : Value} {kind : SequenceKind} {items : List Value}, left u →
    u.container? heap = some (.sequence kind items) → ∀ v ∈ items, node v
  members : ∀ {u : Value} {kind : MappingKind} {members : Members}, left u →
    u.container? heap = some (.mapping kind members) → ∀ m ∈ members,
      node m.2 ∧ ∀ name, memberName m.1 = .ok name → c.quoted name

theorem Opens.container?_eq {path inner : List Nat} {v : Value} {k : Container}
    (h : Opens heap path v inner k) : v.container? heap = some k := by
  cases h with
  | sequence => rfl
  | mapping => rfl
  | shared _ hc => exact hc

mutual

/-- What the nodes of a walk carry is in its record. -/
theorem Prints.has (hcarries : Carries heap options marker backticks c node left) :
    ∀ (p : Printed) {path : List Nat} {key : Text} {v : Value} {s s' : Pending σ},
      Prints heap options marker backticks path key v s p s' → node v → p.Has c
  | .dropped, _, _, _, _, _, _, _ => trivial
  | .word _, _, _, _, _, _, .word _ ht, _ => hcarries.word ht
  | .text _, _, _, _, _, _, .text h, hv => hcarries.text (hcarries.left_of_leaves hv h)
  | .token _, _, _, _, _, _, .token h, hv => hcarries.token_of_keeps hv h
  | .list ps, _, _, _, _, _, .list h hopens hitems, hv =>
    PrintsItems.has hcarries ps hitems
      (hcarries.items (hcarries.left_of_leaves hv h) hopens.container?_eq)
  | .object ps, _, _, _, _, _, .object h hopens hmembers, hv =>
    PrintsMembers.has hcarries ps hmembers
      (hcarries.members (hcarries.left_of_leaves hv h) hopens.container?_eq)

theorem PrintsItems.has (hcarries : Carries heap options marker backticks c node left) :
    ∀ (ps : List Printed) {path : List Nat} {i : Nat} {items : List Value} {s s' : Pending σ},
      PrintsItems heap options marker backticks path i items s ps s' →
      (∀ v ∈ items, node v) → Printed.HasItems c ps
  | [], _, _, _, _, _, .nil, _ => trivial
  | p :: ps, _, _, _, _, _, .cons h hrest, hv =>
    ⟨Prints.has hcarries p h (hv _ List.mem_cons_self),
      PrintsItems.has hcarries ps hrest fun v hm => hv v (List.mem_cons_of_mem _ hm)⟩

theorem PrintsMembers.has (hcarries : Carries heap options marker backticks c node left) :
    ∀ (ps : List (Text × Printed)) {path : List Nat} {members : Members} {s s' : Pending σ},
      PrintsMembers heap options marker backticks path members s ps s' →
      (∀ m ∈ members, node m.2 ∧ ∀ name, memberName m.1 = .ok name → c.quoted name) →
        Printed.HasMembers c ps
  | [], _, _, _, _, .nil, _ => trivial
  | (name, p) :: ps, _, _, _, _, .cons hkey h hrest, hm =>
    have hfirst := hm _ List.mem_cons_self
    ⟨hfirst.2 name hkey, Prints.has hcarries p h hfirst.1,
      PrintsMembers.has hcarries ps hrest fun m hmem => hm m (List.mem_cons_of_mem _ hmem)⟩

end

end

/-! ## Trees -/

section

variable {c : Contents} {choose : Text → Bool}

mutual

/-- What holds of the texts and the names of a tree holds in its record. -/
theorem Tree.has_printed (hw : ∀ d, isPlain d = true → d ≠ Text.newline → c.plain d) :
    ∀ tree : Tree, (∀ t ∈ tree.texts, c.quoted t ∧ c.token t) → (∀ t ∈ tree.names, c.quoted t) →
      (tree.printed.choosing choose).Has c
  | .null, _, _ => fun d hd => (isPlain_of_word? (v := .null) rfl d hd).elim (hw d)
  | .bool b, _, _ => fun d hd => (isPlain_of_word? (v := .bool b) rfl d hd).elim (hw d)
  | .int n, _, _ => fun d hd => (isPlain_of_word? (v := .int n) rfl d hd).elim (hw d)
  | .float x, _, _ => fun d hd => (isPlain_of_word? (v := .float x) rfl d hd).elim (hw d)
  | .text t, ht, _ => by
    have ht := ht t List.mem_cons_self
    unfold Tree.printed Printed.choosing
    split
    · exact ht.2
    · exact ht.1
  | .list items, ht, hn => Tree.hasItems_printed hw items ht hn
  | .object members, ht, hn => Tree.hasMembers_printed hw members ht hn

theorem Tree.hasItems_printed (hw : ∀ d, isPlain d = true → d ≠ Text.newline → c.plain d) :
    ∀ items : List Tree, (∀ t ∈ Tree.textsItems items, c.quoted t ∧ c.token t) →
      (∀ t ∈ Tree.namesItems items, c.quoted t) →
        Printed.HasItems c (Printed.choosingItems choose (Tree.printedItems items))
  | [], _, _ => trivial
  | tree :: rest, ht, hn =>
    ⟨Tree.has_printed hw tree (fun t h => ht t (List.mem_append_left _ h))
        fun t h => hn t (List.mem_append_left _ h),
      Tree.hasItems_printed hw rest (fun t h => ht t (List.mem_append_right _ h))
        fun t h => hn t (List.mem_append_right _ h)⟩

theorem Tree.hasMembers_printed (hw : ∀ d, isPlain d = true → d ≠ Text.newline → c.plain d) :
    ∀ members : List (Text × Tree), (∀ t ∈ Tree.textsMembers members, c.quoted t ∧ c.token t) →
      (∀ t ∈ Tree.namesMembers members, c.quoted t) →
        Printed.HasMembers c (Printed.choosingMembers choose (Tree.printedMembers members))
  | [], _, _ => trivial
  | (name, tree) :: rest, ht, hn =>
    ⟨hn name List.mem_cons_self,
      Tree.has_printed hw tree (fun t h => ht t (List.mem_append_left _ h))
        fun t h => hn t (List.mem_cons_of_mem _ (List.mem_append_left _ h)),
      Tree.hasMembers_printed hw rest (fun t h => ht t (List.mem_append_right _ h))
        fun t h => hn t (List.mem_cons_of_mem _ (List.mem_append_right _ h))⟩

end

variable {gap indent : Text}

/-- The pieces of a tree hold what the tree does. -/
theorem Tree.among_pieces (hl : c.Lays gap) (hi : ∀ d ∈ indent, c.plain d) (tree : Tree)
    (ht : ∀ t ∈ tree.texts, c.quoted t ∧ c.token t) (hn : ∀ t ∈ tree.names, c.quoted t) :
    ∀ q ∈ pieces choose gap indent tree, q.Among c := by
  rw [← Tree.pieces_printed]
  exact Printed.among_pieces hl _ hi (Tree.has_printed hl.mark tree ht hn)

/-- Outside of strings the pieces of a tree hold what JSON has there. -/
theorem isPlainPiece_pieces (hg : IsSpaces gap) (tree : Tree) (hi : IsSpaces indent) :
    ∀ p ∈ pieces choose gap indent tree, IsPlainPiece p := by
  have hspaces : ∀ {t : Text}, IsSpaces t → ∀ d ∈ t, isPlain d = true := by
    intro t ht d hd
    rw [ht d hd]
    decide
  have hl : (⟨fun d => isPlain d = true, fun _ => True, fun _ => True⟩ : Contents).Lays gap :=
    ⟨fun _ hd _ => hd, Or.inr ⟨by decide, hspaces hg⟩⟩
  intro p hp
  have hamong := Tree.among_pieces hl (hspaces hi) tree (fun _ _ => ⟨trivial, trivial⟩)
    (fun _ _ => trivial) p hp
  cases p with
  | plain t => exact hamong
  | quoted t => trivial
  | hole t => trivial

end

end JsLiteral.Json
