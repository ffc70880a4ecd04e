import JsLiteral.Json.Reader
import JsLiteral.Proofs.Json.Pieces
import JsLiteral.Proofs.Text.Occurrences

/-!
# Printed JSON is read back

The pieces of a tree with each hole filled by the text's literal in ASCII make a document
that a reader takes for the value of the tree. It does not matter how many parts it goes on
one line, as a reader skips the blanks that the layout puts between them.

    readValue fuel (written (pieces … tree) ++ rest) = .ok (tree.value, rest)   (readValue_written)
    read (written (pieces … tree)) = .ok tree.value                               (read_written)
-/

namespace JsLiteral

/-! ## Members -/

namespace Members

theorem insert_of_new {ms : Members} {key : Key} (h : ∀ p ∈ ms, p.1.same key = false)
    (v : Value) : insert ms key v = ms ++ [(key, v)] := by
  induction ms with
  | nil => rfl
  | cons p ms ih =>
    obtain ⟨k, u⟩ := p
    have hk : ¬ k.same key = true := by
      rw [h (k, u) List.mem_cons_self]
      exact Bool.false_ne_true
    rw [insert, if_neg hk, ih fun p hp => h p (List.mem_cons_of_mem _ hp), List.cons_append]

theorem foldl_insert {ms : Members} : ∀ {acc : Members},
    (∀ p ∈ acc, ∀ q ∈ ms, p.1.same q.1 = false) → ms.Pairwise (fun p q => p.1.same q.1 = false) →
      ms.foldl (fun acc p => insert acc p.1 p.2) acc = acc ++ ms := by
  induction ms with
  | nil =>
    intro acc _ _
    exact (List.append_nil acc).symm
  | cons p ms ih =>
    intro acc hacc hms
    obtain ⟨hp, hms⟩ := List.pairwise_cons.1 hms
    have hnew := insert_of_new (fun q hq => hacc q hq p List.mem_cons_self) p.2
    rw [List.foldl_cons, hnew, ih _ hms, List.append_assoc]
    · rfl
    · intro q hq r hr
      rcases List.mem_append.1 hq with hq | hq
      · exact hacc q hq r (List.mem_cons_of_mem _ hr)
      · rw [List.mem_singleton.1 hq]
        exact hp r hr

/-- Pairs with different keys are the members they make. -/
theorem ofPairs_of_pairwise {ms : Members}
    (h : ms.Pairwise fun p q => p.1.same q.1 = false) : ofPairs ms = ms :=
  foldl_insert (fun _ hp => absurd hp List.not_mem_nil) h

/-- A member that was set is found. -/
theorem get?_insert {key : Key} (h : key.same key = true) (ms : Members) (v : Value) :
    (ms.insert key v).get? key = some v := by
  induction ms with
  | nil => simp only [insert, get?, List.find?_cons, h, Option.map_some]
  | cons p ms ih =>
    obtain ⟨k, u⟩ := p
    rw [insert]
    split
    · rename_i hk
      simp only [get?, List.find?_cons, hk, Option.map_some]
    · rename_i hk
      simp only [get?, List.find?_cons, hk]
      exact ih

end Members

namespace Json

theorem pairwise_valueMembers {trees : List (Text × Tree)} (h : (trees.map Prod.fst).Nodup) :
    (Tree.valueMembers trees).Pairwise fun p q => p.1.same q.1 = false := by
  induction trees with
  | nil => exact List.Pairwise.nil
  | cons member rest ih =>
    obtain ⟨name, tree⟩ := member
    rw [List.map_cons, List.nodup_cons] at h
    rw [Tree.valueMembers, List.pairwise_cons]
    refine ⟨fun q hq => ?_, ih h.2⟩
    have hname : ∀ {trees : List (Text × Tree)} {q : Key × Value}, q ∈ Tree.valueMembers trees →
        ∃ n ∈ trees.map Prod.fst, q.1 = .text n := by
      intro trees q hq
      induction trees with
      | nil => cases hq
      | cons m ms ih =>
        rcases List.mem_cons.1 hq with rfl | hq
        · exact ⟨m.1, List.mem_cons_self, rfl⟩
        · obtain ⟨n, hn, he⟩ := ih hq
          exact ⟨n, List.mem_cons_of_mem _ hn, he⟩
    obtain ⟨n, hn, he⟩ := hname hq
    rw [he]
    show (name == n) = false
    rw [beq_eq_false_iff_ne]
    rintro rfl
    exact h.1 hn

/-! ## The document -/

/-- The text of pieces with each hole filled by its text in ASCII. -/
def written (ps : List Piece) : Text := emit (fun _ => quoteAscii) 0 ps

theorem emit_quoteAscii (n : Nat) (ps : List Piece) :
    emit (fun _ => quoteAscii) n ps = written ps := by
  unfold written
  generalize 0 = k
  induction ps generalizing n k with
  | nil => rfl
  | cons p ps ih =>
    cases p with
    | plain t => exact congrArg (t ++ ·) (ih n k)
    | quoted t => exact congrArg (quote t ++ ·) (ih n k)
    | hole t => exact congrArg (quoteAscii t ++ ·) (ih (n + 1) (k + 1))

theorem written_append (ps qs : List Piece) : written (ps ++ qs) = written ps ++ written qs := by
  rw [written, emit_append, emit_quoteAscii, emit_quoteAscii]

theorem written_plain (t : Text) (ps : List Piece) : written (.plain t :: ps) = t ++ written ps :=
  rfl

theorem written_quoted (t : Text) (ps : List Piece) :
    written (.quoted t :: ps) = quote t ++ written ps := rfl

theorem written_hole (t : Text) (ps : List Piece) :
    written (.hole t :: ps) = quoteAscii t ++ written ps := by
  rw [written, emit, emit_quoteAscii]

/-! ## Heads -/

/-- What a printed value starts with. -/
def StartsValue (c : CodePoint) : Prop := c.isDigit = true ∨ c ∈ ("\"[\x7b-ntf" : Text)

theorem StartsValue.ne {c d : CodePoint} (h : StartsValue c) (hd : d.isDigit = false)
    (hm : d ∉ ("\"[\x7b-ntf" : Text)) : c ≠ d := by
  rintro rfl
  rcases h with h | h
  · rw [h] at hd
    cases hd
  · exact hm h

theorem StartsValue.isJsonBlank {c : CodePoint} (h : StartsValue c) : isJsonBlank c = false := by
  have h1 : c ≠ ' ' := h.ne (by decide) (by decide)
  have h2 : c ≠ '\t' := h.ne (by decide) (by decide)
  have h3 : c ≠ '\n' := h.ne (by decide) (by decide)
  have h4 : c ≠ '\r' := h.ne (by decide) (by decide)
  simp [Json.isJsonBlank, h1, h2, h3, h4]

theorem IsNumber.exists_cons {t : Text} (h : IsNumber t) : ∃ c r, t = c :: r ∧
    (c.isDigit = true ∨ c = '-' ∧ ∃ d s, r = d :: s ∧ d.isDigit = true) := by
  obtain ⟨negative, ds, tail, rfl, hw, -⟩ := h
  obtain ⟨d, ds, rfl⟩ := List.exists_cons_of_ne_nil hw.ne_nil
  have hd := hw.isDigit d List.mem_cons_self
  cases negative with
  | true => exact ⟨'-', _, rfl, Or.inr ⟨rfl, d, _, rfl, hd⟩⟩
  | false => exact ⟨d, _, rfl, Or.inl hd⟩

theorem IsNumber.startsValue {t : Text} (h : IsNumber t) :
    ∃ c r, t = c :: r ∧ StartsValue c := by
  obtain ⟨c, r, he, hc | ⟨rfl, -⟩⟩ := h.exists_cons
  · exact ⟨c, r, he, Or.inl hc⟩
  · exact ⟨_, r, he, Or.inr (by decide)⟩

section

variable {choose : Text → Bool} {gap : Text} {heap : Heap}

theorem exists_written_cons (choose : Text → Bool) (gap : Text) {path : List Nat} {v : Value}
    {tree : Tree}
    (h : Denotes heap path v tree) (indent : Text) :
    ∃ c r, written (pieces choose gap indent tree) = c :: r ∧ StartsValue c := by
  cases tree with
  | null => exact ⟨'n', _, rfl, Or.inr (by decide)⟩
  | bool b =>
    cases b
    · exact ⟨'f', _, rfl, Or.inr (by decide)⟩
    · exact ⟨'t', _, rfl, Or.inr (by decide)⟩
  | int n =>
    obtain ⟨c, r, he, hc⟩ := (isNumber_ofInt n).startsValue
    exact ⟨c, r, (List.append_nil _).trans he, hc⟩
  | float x =>
    obtain ⟨c, r, he, hc⟩ := (isNumber_floatText h.2).startsValue
    exact ⟨c, r, (List.append_nil _).trans he, hc⟩
  | text t =>
    unfold pieces
    split
    · exact ⟨'"', _, rfl, Or.inr (by decide)⟩
    · exact ⟨'"', _, rfl, Or.inr (by decide)⟩
  | list trees =>
    cases trees with
    | nil => exact ⟨'[', _, rfl, Or.inr (by decide)⟩
    | cons tree rest => exact ⟨'[', _, rfl, Or.inr (by decide)⟩
  | object trees =>
    cases trees with
    | nil => exact ⟨'\x7b', _, rfl, Or.inr (by decide)⟩
    | cons member rest => exact ⟨'\x7b', _, rfl, Or.inr (by decide)⟩

/-! ## Blanks -/

theorem skipBlanks_append {a : Text} (ha : ∀ c ∈ a, c = ' ' ∨ c = Text.newline) {c : CodePoint}
    (hc : isJsonBlank c = false) (t : Text) : skipBlanks (a ++ c :: t) = c :: t := by
  unfold skipBlanks
  rw [List.dropWhile_append_of_pos, List.dropWhile_cons_of_neg (by simp [hc])]
  intro d hd
  rcases ha d hd with rfl | rfl
  · rfl
  · rfl

theorem endsNumber_cons {c : CodePoint} (h1 : c.isDigit = false) (h2 : c ≠ '.') (h3 : c ≠ 'e')
    (h4 : c ≠ 'E') (t : Text) : EndsNumber (c :: t) := by
  intro d r he
  obtain ⟨rfl, -⟩ := List.cons.inj he
  exact ⟨h1, h2, h3, h4⟩

/-- What follows the parts of a container ends a number. -/
theorem endsNumber_trail (gap indent : Text) {closing : CodePoint}
    (hc : closing = ']' ∨ closing = '\x7d') (rest : Text) :
    EndsNumber (trail gap indent ++ closing :: rest) := by
  unfold trail
  split
  · rcases hc with rfl | rfl
    · exact endsNumber_cons (by decide) (by decide) (by decide) (by decide) _
    · exact endsNumber_cons (by decide) (by decide) (by decide) (by decide) _
  · exact endsNumber_cons (by decide) (by decide) (by decide) (by decide) _

theorem endsNumber_comma (t : Text) : EndsNumber (CodePoint.scalar ',' :: t) :=
  endsNumber_cons (by decide) (by decide) (by decide) (by decide) t

/-! ## Steps of the reader -/

/-- No word starts like a number. -/
theorem exists_word_cons {p : Text × Value} (hp : p ∈ wordValues) :
    ∃ e s, p.1 = e :: s ∧ e.isDigit = false ∧
      (e = '-' → ∃ f u, s = f :: u ∧ f.isDigit = false) := by
  simp only [wordValues, List.mem_cons, List.not_mem_nil, or_false] at hp
  rcases hp with rfl | rfl | rfl | rfl | rfl | rfl
  · exact ⟨'n', "ull", rfl, by decide, fun h => absurd h (by decide)⟩
  · exact ⟨'t', "rue", rfl, by decide, fun h => absurd h (by decide)⟩
  · exact ⟨'f', "alse", rfl, by decide, fun h => absurd h (by decide)⟩
  · exact ⟨'N', "aN", rfl, by decide, fun h => absurd h (by decide)⟩
  · exact ⟨'I', "nfinity", rfl, by decide, fun h => absurd h (by decide)⟩
  · exact ⟨'-', "Infinity", rfl, by decide, fun _ => ⟨'I', "nfinity", rfl, by decide⟩⟩

theorem not_isPrefixOf_word {t : Text} (h : IsNumber t) (rest : Text) {p : Text × Value}
    (hp : p ∈ wordValues) : ¬ p.1.isPrefixOf (t ++ rest) = true := by
  intro hpre
  obtain ⟨e, s, hword, he, hminus⟩ := exists_word_cons hp
  obtain ⟨c, r, rfl, hc⟩ := h.exists_cons
  obtain ⟨y, hy⟩ := Text.isPrefixOf_iff.1 hpre
  rw [hword] at hy
  obtain ⟨rfl, htail⟩ := List.cons.inj hy
  rcases hc with hc | ⟨rfl, d, u, rfl, hd⟩
  · rw [hc] at he
    cases he
  · obtain ⟨f, v, rfl, hf⟩ := hminus rfl
    obtain ⟨rfl, -⟩ := List.cons.inj htail
    rw [hd] at hf
    cases hf

theorem readWord?_number {t : Text} (h : IsNumber t) (rest : Text) :
    readWord? (t ++ rest) = none := by
  unfold readWord?
  rw [List.findSome?_eq_none_iff]
  rintro ⟨word, v⟩ hp
  unfold after?
  simp only [if_neg (not_isPrefixOf_word h rest hp), Option.map_none]

theorem readValue_number {t : Text} (h : IsNumber t) {rest : Text} {v : Value}
    (hv : readNumber? (t ++ rest) = some (v, rest)) (fuel : Nat) :
    readValue (fuel + 1) (t ++ rest) = .ok (v, rest) := by
  have hword := readWord?_number h rest
  obtain ⟨c, r, rfl, hc⟩ := h.startsValue
  have h1 : c ≠ '"' ∧ c ≠ '[' ∧ c ≠ '\x7b' := by
    obtain ⟨d, s, he, hd⟩ := h.exists_cons
    obtain ⟨rfl, rfl⟩ := List.cons.inj he
    rcases hd with hd | ⟨rfl, -⟩
    · refine ⟨?_, ?_, ?_⟩ <;> rintro rfl <;> cases hd
    · decide
  rw [readValue]
  · rw [hword]
    simp only [hv]
  · rintro r' he
    exact h1.1 (List.cons.inj he).1
  · rintro r' he
    exact h1.2.1 (List.cons.inj he).1
  · rintro r' he
    exact h1.2.2 (List.cons.inj he).1

theorem readValue_string {r t rest : Text} (h : readString r = .ok (t, rest)) (fuel : Nat) :
    readValue (fuel + 1) ('"' :: r) = .ok (.text t, rest) := by
  rw [readValue, h]

theorem readValue_list {fuel : Nat} {r t rest : Text} {c : CodePoint} {items : List Value}
    (hr : skipBlanks r = c :: t) (hc : c ≠ ']') (h : readItems fuel (c :: t) = .ok (items, rest)) :
    readValue (fuel + 1) ('[' :: r) = .ok (.sequence .list items, rest) := by
  rw [readValue, hr]
  split
  · rename_i he
    exact absurd (List.cons.inj he).1 hc
  · rw [h]

theorem readValue_object {fuel : Nat} {r t rest : Text} {c : CodePoint} {pairs : Members}
    (hr : skipBlanks r = c :: t) (hc : c ≠ '\x7d')
    (h : readMembers fuel (c :: t) = .ok (pairs, rest)) :
    readValue (fuel + 1) ('\x7b' :: r) = .ok (.mapping .dict (Members.ofPairs pairs), rest) := by
  rw [readValue, hr]
  split
  · rename_i he
    exact absurd (List.cons.inj he).1 hc
  · rw [h]

theorem readItems_last {fuel : Nat} {t r rest : Text} {v : Value}
    (hv : readValue fuel t = .ok (v, r)) (hr : skipBlanks r = CodePoint.scalar ']' :: rest) :
    readItems (fuel + 1) t = .ok ([v], rest) := by
  rw [readItems, hv]
  simp only [hr]

theorem readItems_comma {fuel : Nat} {t r s rest : Text} {v : Value} {items : List Value}
    (hv : readValue fuel t = .ok (v, r)) (hr : skipBlanks r = CodePoint.scalar ',' :: s)
    (h : readItems fuel (skipBlanks s) = .ok (items, rest)) :
    readItems (fuel + 1) t = .ok (v :: items, rest) := by
  rw [readItems, hv]
  simp only [hr, h]

theorem readMembers_last {fuel : Nat} {t r s u rest : Text} {name : Text} {v : Value}
    (hn : readString t = .ok (name, r)) (hr : skipBlanks r = CodePoint.scalar ':' :: s)
    (hv : readValue fuel (skipBlanks s) = .ok (v, u))
    (hu : skipBlanks u = CodePoint.scalar '\x7d' :: rest) :
    readMembers (fuel + 1) ('"' :: t) = .ok ([(.text name, v)], rest) := by
  rw [readMembers, hn]
  simp only [hr, hv, hu]

theorem readMembers_comma {fuel : Nat} {t r s u s' rest : Text} {name : Text} {v : Value}
    {members : Members} (hn : readString t = .ok (name, r))
    (hr : skipBlanks r = CodePoint.scalar ':' :: s)
    (hv : readValue fuel (skipBlanks s) = .ok (v, u))
    (hu : skipBlanks u = CodePoint.scalar ',' :: s')
    (h : readMembers fuel (skipBlanks s') = .ok (members, rest)) :
    readMembers (fuel + 1) ('"' :: t) = .ok ((.text name, v) :: members, rest) := by
  rw [readMembers, hn]
  simp only [hr, hv, hu, h]

/-! ## The whole tree -/

theorem length_written_pos (choose : Text → Bool) (gap : Text) {path : List Nat} {v : Value}
    {tree : Tree}
    (h : Denotes heap path v tree) (indent : Text) :
    0 < (written (pieces choose gap indent tree)).length := by
  obtain ⟨c, r, he, -⟩ := exists_written_cons choose gap h indent
  rw [he]
  exact Nat.succ_pos _

theorem quote_append (t rest : Text) :
    quote t ++ rest =
      CodePoint.scalar '"' :: (t.flatMap quotePoint ++ CodePoint.scalar '"' :: rest) := by
  unfold quote
  rw [List.cons_append, List.append_assoc]
  rfl

theorem quoteAscii_append (t rest : Text) :
    quoteAscii t ++ rest =
      CodePoint.scalar '"' :: (t.flatMap quoteAsciiPoint ++ CodePoint.scalar '"' :: rest) := by
  unfold quoteAscii
  rw [List.cons_append, List.append_assoc]
  rfl

/-- A value is read the same after its member's colon. -/
theorem readValue_after_colon {path : List Nat} {v : Value} {tree : Tree}
    (h : Denotes heap path v tree) {indent rest : Text} {fuel : Nat} {result : ReadResult Value}
    (hread : readValue fuel (written (pieces choose gap indent tree) ++ rest) = result) :
    ∃ s, skipBlanks (colon gap ++ (written (pieces choose gap indent tree) ++ rest)) =
      CodePoint.scalar ':' :: s ∧ readValue fuel (skipBlanks s) = result := by
  obtain ⟨c, r, he, hstart⟩ := exists_written_cons choose gap h indent
  rw [he] at hread ⊢
  have hskip : ∀ a : Text, (∀ d ∈ a, d = ' ' ∨ d = Text.newline) →
      readValue fuel (skipBlanks (a ++ (c :: r ++ rest))) = result := by
    intro a ha
    rwa [List.cons_append, skipBlanks_append ha hstart.isJsonBlank]
  unfold colon
  split
  · exact ⟨_, rfl, hskip [] fun d hd => absurd hd List.not_mem_nil⟩
  · exact ⟨_, rfl, hskip " " fun d hd => Or.inl (List.mem_singleton.1 hd)⟩

theorem written_piecesItems_cons (indent : Text) (mark : CodePoint) (tree : Tree)
    (trees : List Tree) :
    written (piecesItems choose gap indent mark (tree :: trees)) =
      mark :: (lead gap indent ++ (written (pieces choose gap (indent ++ gap) tree) ++
        written (piecesItems choose gap indent ',' trees))) := by
  rw [piecesItems, written_plain, written_append]
  rfl

theorem written_piecesMembers_cons (indent : Text) (mark : CodePoint) (name : Text) (tree : Tree)
    (trees : List (Text × Tree)) :
    written (piecesMembers choose gap indent mark ((name, tree) :: trees)) =
      mark :: (lead gap indent ++ (quote name ++ (colon gap ++
        (written (pieces choose gap (indent ++ gap) tree) ++
          written (piecesMembers choose gap indent ',' trees))))) := by
  rw [piecesMembers, written_plain, written_quoted, written_plain, written_append]
  rfl

theorem written_piecesItems_nil (choose : Text → Bool) (gap indent : Text) (mark : CodePoint)
    (rest : Text) :
    written (piecesItems choose gap indent mark []) ++ rest =
      trail gap indent ++ CodePoint.scalar ']' :: rest := by
  rw [piecesItems, written_plain]
  simp [written, emit]

theorem written_piecesMembers_nil (indent : Text) (mark : CodePoint) (rest : Text) :
    written (piecesMembers choose gap indent mark []) ++ rest =
      trail gap indent ++ CodePoint.scalar '\x7d' :: rest := by
  rw [piecesMembers, written_plain]
  simp [written, emit]

/-- No chosen text holds a surrogate. -/
def ChoosesScalars (choose : Text → Bool) : Prop :=
  ∀ t, choose t = true → ∀ c ∈ t, c.isSurrogate = false

mutual

/-- A printed tree is read back, whatever follows that does not go on with a number. -/
theorem readValue_written (hg : IsSpaces gap) (hc : ChoosesScalars choose) : ∀ (tree : Tree)
    {path : List Nat} {v : Value} {indent : Text} (rest : Text) (fuel : Nat),
    Denotes heap path v tree → IsSpaces indent → EndsNumber rest →
      2 * (written (pieces choose gap indent tree)).length ≤ fuel →
        readValue fuel (written (pieces choose gap indent tree) ++ rest) = .ok (tree.value, rest)
  | tree, _, _, indent, _, 0, h, _, _, hf => by
    have := length_written_pos choose gap h indent
    omega
  | .null, _, _, _, _, fuel + 1, _, _, _, _ => rfl
  | .bool true, _, _, _, _, fuel + 1, _, _, _, _ => rfl
  | .bool false, _, _, _, _, fuel + 1, _, _, _, _ => rfl
  | .int n, _, _, _, rest, fuel + 1, _, _, hr, _ => by
    show readValue (fuel + 1) (Text.ofInt n ++ [] ++ rest) = _
    rw [List.append_nil]
    exact readValue_number (isNumber_ofInt n) (readNumber?_ofInt n hr) fuel
  | .float x, _, _, _, rest, fuel + 1, h, _, hr, _ => by
    show readValue (fuel + 1) (floatText x ++ [] ++ rest) = _
    rw [List.append_nil]
    exact readValue_number (isNumber_floatText h.2) (readNumber?_floatText h.2 hr) fuel
  | .text t, _, _, _, rest, fuel + 1, h, _, _, _ => by
    unfold pieces
    split
    · rename_i ht
      show readValue (fuel + 1) (quoteAscii t ++ [] ++ rest) = _
      rw [List.append_nil, quoteAscii_append]
      exact readValue_string (readString_quoteAscii (hc t ht) rest) fuel
    · show readValue (fuel + 1) (quote t ++ [] ++ rest) = _
      rw [List.append_nil, quote_append]
      exact readValue_string (readString_quote h.2 rest) fuel
  | .list [], _, _, _, _, fuel + 1, _, _, _, _ => rfl
  | .list (tree :: trees), _, _, indent, rest, fuel + 1, ⟨_, _, _, _, hitems⟩, hi, _, hf => by
    have htext : written (pieces choose gap indent (.list (tree :: trees))) = _ :=
      written_piecesItems_cons indent '[' tree trees
    rw [htext] at hf ⊢
    simp only [List.length_cons, List.length_append] at hf
    obtain ⟨v, hv⟩ := hitems.exists_head
    obtain ⟨c, r, he, hstart⟩ :=
      exists_written_cons choose gap hv (indent ++ gap)
    have hread := readItems_written hg hc tree trees rest fuel hitems hi (by omega)
    rw [he] at hread ⊢
    simp only [List.cons_append, List.append_assoc] at hread ⊢
    exact readValue_list
      (skipBlanks_append (fun d hd => isBlank_lead hg hi hd) hstart.isJsonBlank _)
      (hstart.ne (by decide) (by decide)) hread
  | .object [], _, _, _, _, fuel + 1, _, _, _, _ => rfl
  | .object ((name, tree) :: trees), _, _, indent, rest, fuel + 1,
      ⟨_, _, _, _, hmembers, hnames⟩, hi, _, hf => by
    have htext : written (pieces choose gap indent (.object ((name, tree) :: trees))) = _ :=
      written_piecesMembers_cons indent '\x7b' name tree trees
    rw [htext] at hf ⊢
    simp only [List.length_cons, List.length_append] at hf
    have hread := readMembers_written hg hc name tree trees rest fuel hmembers hi
      (by omega)
    have hvalue : Members.ofPairs (Tree.valueMembers ((name, tree) :: trees)) =
        Tree.valueMembers ((name, tree) :: trees) :=
      Members.ofPairs_of_pairwise (pairwise_valueMembers hnames)
    show _ = Except.ok (Value.mapping .dict (Tree.valueMembers ((name, tree) :: trees)), rest)
    rw [← hvalue]
    simp only [List.cons_append, List.append_assoc, quote_append] at hread ⊢
    exact readValue_object
      (skipBlanks_append (fun d hd => isBlank_lead hg hi hd) (by decide) _) (by decide) hread

theorem readItems_written (hg : IsSpaces gap) (hc : ChoosesScalars choose) : ∀ (tree : Tree)
    (trees : List Tree) {path : List Nat} {items : List Value} {indent : Text} (rest : Text)
    (fuel : Nat),
    DenotesItems heap path items (tree :: trees) → IsSpaces indent →
      2 * ((written (pieces choose gap (indent ++ gap) tree)).length
        + (written (piecesItems choose gap indent ',' trees)).length) ≤ fuel →
        readItems fuel (written (pieces choose gap (indent ++ gap) tree)
          ++ (written (piecesItems choose gap indent ',' trees) ++ rest)) =
            .ok (Tree.valueItems (tree :: trees), rest)
  | tree, trees, _, items, indent, _, 0, h, _, hf => by
    obtain ⟨v, hv⟩ := h.exists_head
    have := length_written_pos choose gap hv (indent ++ gap)
    omega
  | tree, [], _, v :: _, indent, rest, fuel + 1, ⟨h, _⟩, hi, hf => by
    rw [written_piecesItems_nil]
    have hlen : 0 < (written (piecesItems choose gap indent ',' [])).length := by
      have := congrArg List.length (written_piecesItems_nil choose gap indent ',' [])
      simp only [List.length_append, List.length_cons, List.length_nil] at this
      omega
    refine readItems_last (readValue_written hg hc tree _ fuel h (hi.append hg)
      (endsNumber_trail gap indent (Or.inl rfl) rest) (by omega)) ?_
    exact skipBlanks_append (fun d hd => isBlank_trail hi hd) (by decide) rest
  | tree, next :: trees, _, v :: items, indent, rest, fuel + 1, ⟨h, hrest⟩, hi, hf => by
    rw [written_piecesItems_cons] at hf ⊢
    simp only [List.length_cons, List.length_append] at hf
    obtain ⟨u, hu⟩ := hrest.exists_head
    obtain ⟨c, r, he, hstart⟩ :=
      exists_written_cons choose gap hu (indent ++ gap)
    have hread := readItems_written hg hc next trees rest fuel hrest hi (by omega)
    rw [he] at hread ⊢
    simp only [List.cons_append, List.append_assoc] at hread ⊢
    refine readItems_comma
      (readValue_written hg hc tree _ fuel h (hi.append hg) (endsNumber_comma _) (by omega)) rfl ?_
    rw [skipBlanks_append (fun d hd => isBlank_lead hg hi hd) hstart.isJsonBlank]
    exact hread
  | _, _, _, [], _, _, _ + 1, h, _, _ => h.elim

theorem readMembers_written (hg : IsSpaces gap) (hc : ChoosesScalars choose) :
    ∀ (name : Text) (tree : Tree) (trees : List (Text × Tree)) {path : List Nat}
      {members : Members} {indent : Text} (rest : Text) (fuel : Nat),
    DenotesMembers heap path members ((name, tree) :: trees) → IsSpaces indent →
      2 * ((quote name).length + ((colon gap).length
        + ((written (pieces choose gap (indent ++ gap) tree)).length
          + (written (piecesMembers choose gap indent ',' trees)).length))) ≤ fuel →
        readMembers fuel (quote name ++ (colon gap ++
          (written (pieces choose gap (indent ++ gap) tree)
            ++ (written (piecesMembers choose gap indent ',' trees) ++ rest)))) =
              .ok (Tree.valueMembers ((name, tree) :: trees), rest)
  | name, _, _, _, _, _, _, 0, _, _, hf => by
    have : 0 < (quote name).length := Nat.succ_pos _
    omega
  | name, tree, [], _, (_, v) :: _, indent, rest, fuel + 1, ⟨⟨_, hname⟩, h, _⟩, hi, hf => by
    have hquote : 0 < (quote name).length := Nat.succ_pos _
    have hread := readValue_written hg hc tree _ fuel h (hi.append hg)
      (endsNumber_trail gap indent (Or.inr rfl) rest) (by omega)
    obtain ⟨s, hcolon, hvalue⟩ := readValue_after_colon h hread
    rw [quote_append, written_piecesMembers_nil]
    exact readMembers_last (readString_quote hname _) hcolon hvalue
      (skipBlanks_append (fun d hd => isBlank_trail hi hd) (by decide) rest)
  | name, tree, (next, tree') :: trees, _, (_, v) :: members, indent, rest, fuel + 1,
      ⟨⟨_, hname⟩, h, hrest⟩, hi, hf => by
    rw [written_piecesMembers_cons] at hf ⊢
    simp only [List.length_cons, List.length_append] at hf
    have hread := readMembers_written hg hc next tree' trees rest fuel hrest hi
      (by omega)
    have hread' := readValue_written hg hc tree _ fuel h (hi.append hg)
      (endsNumber_comma (lead gap indent ++ (quote next ++ (colon gap ++
        (written (pieces choose gap (indent ++ gap) tree')
          ++ (written (piecesMembers choose gap indent ',' trees) ++ rest)))))) (by omega)
    obtain ⟨s, hcolon, hvalue⟩ := readValue_after_colon h hread'
    simp only [List.cons_append, List.append_assoc]
    rw [quote_append]
    refine readMembers_comma (readString_quote hname _) hcolon hvalue rfl ?_
    rw [quote_append] at hread ⊢
    rw [skipBlanks_append (fun d hd => isBlank_lead hg hi hd) (by decide)]
    exact hread
  | _, _, _, _, [], _, _, _ + 1, h, _, _ => h.elim

end

/-- A printed tree is read back as a document. -/
theorem read_written (hg : IsSpaces gap) (hc : ChoosesScalars choose) {v : Value}
    {tree : Tree} (h : Denotes heap [] v tree) :
    read (written (pieces choose gap [] tree)) = .ok tree.value := by
  have hnil : IsSpaces [] := fun _ hd => absurd hd List.not_mem_nil
  obtain ⟨c, r, he, hstart⟩ := exists_written_cons choose gap h []
  have hread := readValue_written hg hc tree
    [] (2 * (written (pieces choose gap [] tree)).length + 2) h hnil
    (by rintro d t ⟨⟩) (Nat.le_add_right _ 2)
  have hbom : ¬ c.toNat = 0xFEFF := by
    intro hn
    have : c = CodePoint.ofNat 0xFEFF := by rw [← c.ofNat_toNat, hn]
    exact hstart.ne (by decide) (by decide) this
  have hskip : skipBlanks (c :: r) = c :: r :=
    skipBlanks_append (fun d hd => absurd hd List.not_mem_nil) hstart.isJsonBlank r
  rw [List.append_nil, he] at hread
  rw [he, read, if_neg hbom, read.go, hskip, hread]
  rfl

end

end Json

end JsLiteral
