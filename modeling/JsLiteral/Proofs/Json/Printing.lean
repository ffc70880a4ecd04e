import JsLiteral.Proofs.Json.Contents

/-!
# What a conversion prints

The walk prints each record that the caller's replacer allows for, as long as the record is not
deeper than the walk may go. Without a replacer of the caller's that is one record for each
value that has a document: its document, with tokens in the places of the eligible texts.

    Prints … key v s p s' → printNode … answers the text of `p` and `s'`   (printNode_of_prints)
    what waits without a replacer are the eligible texts, in order         (skeleton_of_isDocument)
-/

namespace JsLiteral.Json

variable {σ : Type} {options : Options σ} {marker : Text} {backticks : Bool} {heap : Heap}
variable {gap : Text}

/-! ## One node -/

theorem Leaves.placing_run {key : Text} {v u : Value} {s : Pending σ} {r : σ}
    (h : Leaves options marker backticks key v s u r) :
    (placing options marker backticks key v).run s = (.ok u, (r, s.2)) := by
  have hplaced : placed options marker backticks s.2 v u = [] := by
    unfold placed
    split
    · rename_i token t printed ht
      refine if_neg fun e => h.not_token token t ht ?_
      rw [e]
    · rfl
  rw [Json.placing_run, h.answered]
  simp only [hplaced, List.append_nil]

theorem Keeps.placing_run {key t : Text} {s : Pending σ} {r : σ}
    (h : Keeps options marker backticks key t s r) :
    (placing options marker backticks key (.text t)).run s =
      (.ok (.text (Placeholder.token marker s.2.length)), (r, s.2 ++ [t])) := by
  have htoken : tokenFor? options marker backticks s.2 (.text t) =
      some (Placeholder.token marker s.2.length, t) := by rw [tokenFor?_text, if_pos h.chosen]
  rw [Json.placing_run, shown, htoken]
  simp only [h.answered, placed, htoken, if_true]

/-- A container that the caller leaves is printed where it is opened. -/
theorem Leaves.printNode_run {path inner : List Nat} {indent key : Text} {v u : Value}
    {s : Pending σ} {r : σ} {c : Container} (h : Leaves options marker backticks key v s u r)
    (hopens : Opens heap path u inner c) (limit : Nat) :
    (printNode heap (placing options marker backticks) gap (limit + 1) path indent key v).run s =
      ((do
        let text ← printContainer
          (printNode heap (placing options marker backticks) gap limit inner (indent ++ gap))
          gap indent c
        pure (some text)) : Walk (Pending σ) (Option Text)).run (r, s.2) := by
  unfold printNode
  rw [Task.run_bind, h.placing_run]
  cases hopens with
  | sequence => rfl
  | mapping => rfl
  | shared hplace hc => simp only [if_neg hplace, hc]

/-! ## The walk -/

mutual

/-- The walk prints each record that it may go as deep as. -/
theorem printNode_of_prints : ∀ (p : Printed) {limit : Nat} {path : List Nat} {indent key : Text}
    {v : Value} {s s' : Pending σ}, Prints heap options marker backticks path key v s p s' →
      p.depth < limit →
        (printNode heap (placing options marker backticks) gap limit path indent key v).run s =
          (.ok (p.text? (quotedToken marker) gap indent s.2.length), s')
  | _, 0, _, _, _, _, _, _, _, hl => absurd hl (Nat.not_lt_zero _)
  | .dropped, limit + 1, _, _, _, _, _, _, .dropped h, _ => by
    unfold printNode
    rw [Task.run_bind, h.placing_run]
    rfl
  | .word t, limit + 1, _, _, _, _, _, _, .word (u := u) h ht, _ => by
    unfold printNode
    rw [Task.run_bind, h.placing_run, Printed.text?, Printed.pieces, emit, emit, List.append_nil]
    cases u with
    | null => cases ht; rfl
    | bool b => cases ht; rfl
    | int n => cases ht; rfl
    | float x => cases ht; rfl
    | _ => cases ht
  | .text t, limit + 1, _, _, _, _, _, _, .text h, _ => by
    unfold printNode
    rw [Task.run_bind, h.placing_run, Printed.text?, Printed.pieces, emit, emit, List.append_nil]
    rfl
  | .token t, limit + 1, _, _, _, _, _, _, .token h, _ => by
    unfold printNode
    rw [Task.run_bind, h.placing_run, Printed.text?, Printed.pieces, emit, emit, List.append_nil]
    rfl
  | .list ps, limit + 1, _, indent, _, _, s, s', .list h hopens hitems, hl => by
    have hl' : Printed.depthItems ps < limit := Nat.lt_of_succ_lt_succ hl
    rw [h.printNode_run hopens, Task.run_bind, printContainer, Task.run_bind,
      printItems_of_prints ps hitems hl', ← Printed.enclose_itemParts]
    rfl
  | .object ps, limit + 1, _, indent, _, _, s, s', .object h hopens hmembers,
      hl => by
    have hl' : Printed.depthMembers ps < limit := Nat.lt_of_succ_lt_succ hl
    rw [h.printNode_run hopens, Task.run_bind, printContainer, Task.run_bind,
      printMembers_of_prints ps hmembers hl', ← Printed.enclose_memberParts]
    rfl

theorem printItems_of_prints : ∀ (ps : List Printed) {limit : Nat} {path : List Nat}
    {indent : Text} {i : Nat} {items : List Value} {s s' : Pending σ},
      PrintsItems heap options marker backticks path i items s ps s' →
        Printed.depthItems ps < limit →
          (printItems (printNode heap (placing options marker backticks) gap limit path indent)
              i items).run s =
            (.ok (Printed.itemParts (quotedToken marker) gap indent s.2.length ps), s')
  | [], _, _, _, _, _, _, _, .nil, _ => rfl
  | p :: ps, limit, path, indent, i, _, s, s', .cons h hrest, hl => by
    have hl1 : p.depth < limit := Nat.lt_of_le_of_lt (Nat.le_max_left _ _) hl
    have hl2 : Printed.depthItems ps < limit := Nat.lt_of_le_of_lt (Nat.le_max_right _ _) hl
    unfold printItems
    rw [Task.run_bind, printNode_of_prints p h hl1]
    simp only
    rw [Task.run_bind, printItems_of_prints ps hrest hl2, Prints.waiting p h, List.length_append,
      Printed.itemParts, ← Printed.getD_text?]
    rfl

theorem printMembers_of_prints : ∀ (ps : List (Text × Printed)) {limit : Nat} {path : List Nat}
    {indent : Text} {members : Members} {s s' : Pending σ},
      PrintsMembers heap options marker backticks path members s ps s' →
        Printed.depthMembers ps < limit →
          (printMembers (printNode heap (placing options marker backticks) gap limit path indent)
              (colon gap) members).run s =
            (.ok (Printed.memberParts (quotedToken marker) gap indent s.2.length ps), s')
  | [], _, _, _, _, _, _, .nil, _ => rfl
  | (name, p) :: ps, limit, path, indent, _, s, s', .cons hkey h hrest, hl => by
    have hl1 : p.depth < limit := Nat.lt_of_le_of_lt (Nat.le_max_left _ _) hl
    have hl2 : Printed.depthMembers ps < limit := Nat.lt_of_le_of_lt (Nat.le_max_right _ _) hl
    unfold printMembers
    rw [Task.run_bind, hkey, printMembers.liftExcept, Task.run_pure]
    simp only
    rw [Task.run_bind, printNode_of_prints p h hl1]
    simp only
    rw [Task.run_bind, printMembers_of_prints ps hrest hl2, Prints.waiting p h,
      List.length_append, Printed.memberParts, Printed.text?]
    cases hdrop : p.isDropped with
    | true => rw [Printed.held_of_isDropped hdrop]; rfl
    | false => rfl

end

/-- A record that is less deep than the walk may go is what the skeleton is made of. -/
theorem skeleton_of_prints {w : World} {v : Value} {s s' : σ} {waiting : List Text} {p : Printed}
    (hg : Json.gap w.heap options.space = .ok gap)
    (h : Prints w.heap options marker (options.backticks.getD w.settings.allowsBackticks) [] [] v
      (s, []) p (s', waiting))
    (hl : p.depth < w.heap.depthBound v + spareDepth) :
    (skeleton w options marker v).run (s, []) =
      (.ok (emit (quotedToken marker) 0 (p.skeleton gap)), (s', waiting)) := by
  unfold skeleton stringify
  simp only [hg]
  rw [Task.run_bind, printNode_of_prints p h hl]
  simp only [Printed.text?, Printed.skeleton]
  cases p.isDropped with
  | true => simp [emit, Task.run_pure]
  | false => simp [Task.run_pure]

/-! ## Without a replacer -/

theorem answer_of_none (hr : options.replacer = none) (key : Text) (candidate : Value) (s : σ) :
    (answer options key candidate).run s = (.ok candidate, s) := by
  unfold answer
  rw [hr]
  rfl

/-- Without a replacer a node that is not chosen is printed as it is. -/
theorem leaves_of_none (hr : options.replacer = none) {v : Value}
    (hv : ∀ t, v = .text t → chosen options backticks t = false) (key : Text) (s : Pending σ) :
    Leaves options marker backticks key v s v s.1 := by
  have htoken : tokenFor? options marker backticks s.2 v = none := by
    cases v with
    | text t => rw [tokenFor?_text, hv t rfl]; rfl
    | _ => rfl
  refine ⟨?_, fun token t h => ?_⟩
  · rw [shown, htoken]
    exact answer_of_none hr key v s.1
  · rw [htoken] at h
    cases h

theorem ne_text_of_word? {v : Value} {u : Text} (h : word? v = some u) (t : Text) :
    v ≠ .text t := by
  rintro rfl
  cases h

theorem Opens.ne_text {path inner : List Nat} {v : Value} {c : Container}
    (h : Opens heap path v inner c) (t : Text) : v ≠ .text t := by
  rintro rfl
  cases h

mutual

/-- Without a replacer a value with a document is printed as this document, with tokens in the
places of the chosen texts. -/
theorem IsDocument.prints (hr : options.replacer = none) : ∀ (doc : Printed) {path : List Nat}
    {key : Text} {v : Value} {s : Pending σ}, IsDocument heap path v doc →
      ∃ waiting, Prints heap options marker backticks path key v s
        (doc.choosing (chosen options backticks)) (s.1, waiting)
  | .dropped, _, key, _, s, .dropped =>
    ⟨_, .dropped (leaves_of_none hr (fun _ he => by cases he) key s)⟩
  | .word _, _, key, _, s, .word ht =>
    ⟨_, .word (leaves_of_none hr (fun t he => absurd he (ne_text_of_word? ht t)) key s) ht⟩
  | .text t, _, key, _, s, .text => by
    unfold Printed.choosing
    cases ht : chosen options backticks t with
    | true => exact ⟨_, .token ⟨ht, answer_of_none hr key _ s.1⟩⟩
    | false => exact ⟨_, .text (leaves_of_none hr (fun u he => by cases he; exact ht) key s)⟩
  | .list docs, _, key, _, s, .list hopens hitems => by
    obtain ⟨waiting, hps⟩ := AreDocuments.prints hr docs hitems
    exact ⟨waiting, .list (leaves_of_none hr (fun t he => absurd he (hopens.ne_text t)) key s)
      hopens hps⟩
  | .object docs, _, key, _, s, .object hopens hmembers => by
    obtain ⟨waiting, hps⟩ := AreMembers.prints hr docs hmembers
    exact ⟨waiting, .object (leaves_of_none hr (fun t he => absurd he (hopens.ne_text t)) key s)
      hopens hps⟩

theorem AreDocuments.prints (hr : options.replacer = none) : ∀ (docs : List Printed)
    {path : List Nat} {i : Nat} {items : List Value} {s : Pending σ},
      AreDocuments heap path items docs →
        ∃ waiting, PrintsItems heap options marker backticks path i items s
          (Printed.choosingItems (chosen options backticks) docs) (s.1, waiting)
  | [], _, _, _, _, .nil => ⟨_, .nil⟩
  | doc :: docs, _, _, _, _, .cons h hrest => by
    obtain ⟨_, hp⟩ := IsDocument.prints hr doc h
    obtain ⟨waiting, hps⟩ := AreDocuments.prints hr docs hrest
    exact ⟨waiting, .cons hp hps⟩

theorem AreMembers.prints (hr : options.replacer = none) : ∀ (docs : List (Text × Printed))
    {path : List Nat} {members : Members} {s : Pending σ},
      AreMembers heap path members docs →
        ∃ waiting, PrintsMembers heap options marker backticks path members s
          (Printed.choosingMembers (chosen options backticks) docs) (s.1, waiting)
  | [], _, _, _, .nil => ⟨_, .nil⟩
  | (_, doc) :: docs, _, _, _, .cons hkey h hrest => by
    obtain ⟨_, hp⟩ := IsDocument.prints hr doc h
    obtain ⟨waiting, hps⟩ := AreMembers.prints hr docs hrest
    exact ⟨waiting, .cons hkey hp hps⟩

end

/-! ## Records without a replacer -/

/-- What an answer is without a replacer. -/
theorem Leaves.eq_of_none (hr : options.replacer = none) {key : Text} {v u : Value}
    {s : Pending σ} {r : σ} (h : Leaves options marker backticks key v s u r) :
    u = v ∧ r = s.1 ∧ ∀ t, v = .text t → chosen options backticks t = false := by
  have hshown := h.answered
  rw [answer_of_none hr] at hshown
  obtain ⟨hu, hstate⟩ := Prod.mk.inj hshown
  have hu : shown options marker backticks s.2 v = u := Except.ok.inj hu
  have htoken : tokenFor? options marker backticks s.2 v = none := by
    cases ht : tokenFor? options marker backticks s.2 v with
    | none => rfl
    | some p =>
      rw [shown, ht] at hu
      exact absurd hu.symm (h.not_token p.1 p.2 ht)
  rw [shown, htoken] at hu
  refine ⟨hu.symm, hstate.symm, ?_⟩
  rintro t rfl
  rw [tokenFor?_text] at htoken
  refine Bool.eq_false_iff.2 fun ht => ?_
  rw [if_pos ht] at htoken
  cases htoken

mutual

/-- Without a replacer what is printed is a document, with tokens in the places of the chosen
texts. -/
theorem isDocument_of_prints (hr : options.replacer = none) : ∀ (p : Printed) {path : List Nat}
    {key : Text} {v : Value} {s s' : Pending σ},
      Prints heap options marker backticks path key v s p s' →
        ∃ doc, IsDocument heap path v doc ∧ p = doc.choosing (chosen options backticks)
  | .dropped, _, _, _, _, _, .dropped h => by
    obtain ⟨rfl, -, -⟩ := h.eq_of_none hr
    exact ⟨.dropped, .dropped, rfl⟩
  | .word t, _, _, _, _, _, .word h ht => by
    obtain ⟨rfl, -, -⟩ := h.eq_of_none hr
    exact ⟨.word t, .word ht, rfl⟩
  | .text t, _, _, _, _, _, .text h => by
    obtain ⟨rfl, -, ht⟩ := h.eq_of_none hr
    exact ⟨.text t, .text, by rw [Printed.choosing, ht t rfl]; rfl⟩
  | .token t, _, _, _, _, _, .token h =>
    ⟨.text t, .text, by rw [Printed.choosing, h.chosen]; rfl⟩
  | .list ps, _, _, _, _, _, .list h hopens hitems => by
    obtain ⟨rfl, -, -⟩ := h.eq_of_none hr
    obtain ⟨docs, hdocs, rfl⟩ := areDocuments_of_prints hr ps hitems
    exact ⟨.list docs, .list hopens hdocs, rfl⟩
  | .object ps, _, _, _, _, _, .object h hopens hmembers => by
    obtain ⟨rfl, -, -⟩ := h.eq_of_none hr
    obtain ⟨docs, hdocs, rfl⟩ := areMembers_of_prints hr ps hmembers
    exact ⟨.object docs, .object hopens hdocs, rfl⟩

theorem areDocuments_of_prints (hr : options.replacer = none) : ∀ (ps : List Printed)
    {path : List Nat} {i : Nat} {items : List Value} {s s' : Pending σ},
      PrintsItems heap options marker backticks path i items s ps s' →
        ∃ docs, AreDocuments heap path items docs ∧
          ps = Printed.choosingItems (chosen options backticks) docs
  | [], _, _, _, _, _, .nil => ⟨[], .nil, rfl⟩
  | p :: ps, _, _, _, _, _, .cons h hrest => by
    obtain ⟨doc, hdoc, rfl⟩ := isDocument_of_prints hr p h
    obtain ⟨docs, hdocs, rfl⟩ := areDocuments_of_prints hr ps hrest
    exact ⟨doc :: docs, .cons hdoc hdocs, rfl⟩

theorem areMembers_of_prints (hr : options.replacer = none) : ∀ (ps : List (Text × Printed))
    {path : List Nat} {members : Members} {s s' : Pending σ},
      PrintsMembers heap options marker backticks path members s ps s' →
        ∃ docs, AreMembers heap path members docs ∧
          ps = Printed.choosingMembers (chosen options backticks) docs
  | [], _, _, _, _, .nil => ⟨[], .nil, rfl⟩
  | (name, p) :: ps, _, _, _, _, .cons hkey h hrest => by
    obtain ⟨doc, hdoc, rfl⟩ := isDocument_of_prints hr p h
    obtain ⟨docs, hdocs, rfl⟩ := areMembers_of_prints hr ps hrest
    exact ⟨(name, doc) :: docs, .cons hkey hdoc hdocs, rfl⟩

end

/-! ## Skeletons without a replacer -/

section

variable {w : World} {v : Value}

/-- The skeleton of a value with a document is the document with tokens in the places of the
chosen texts, and these are the texts that wait. -/
theorem skeleton_of_isDocument (hr : options.replacer = none)
    (hg : Json.gap w.heap options.space = .ok gap)
    (hb : backticks = options.backticks.getD w.settings.allowsBackticks) {doc : Printed}
    (h : IsDocument w.heap [] v doc) (s : σ) :
    (skeleton w options marker v).run (s, []) =
      (.ok (emit (quotedToken marker) 0 ((doc.choosing (chosen options backticks)).skeleton gap)),
        (s, doc.texts.filter (chosen options backticks))) := by
  subst hb
  obtain ⟨waiting, hp⟩ : ∃ waiting, Prints w.heap options marker
      (options.backticks.getD w.settings.allowsBackticks) [] [] v (s, [])
      (doc.choosing (chosen options _)) (s, waiting) := IsDocument.prints hr doc h
  have hwaiting := Prints.waiting _ hp
  rw [List.nil_append, Printed.held_choosing _ _ (IsDocument.held doc h)] at hwaiting
  have hdepth := h.depth_lt
  rw [skeleton_of_prints hg hp (by rw [Printed.depth_choosing]; omega), ← hwaiting]

/-- The skeleton of a value that is printed as a tree is the text of this tree with tokens in the
holes, and what waits are the texts whose places are holes, in order. -/
theorem skeleton_printed (hr : options.replacer = none)
    (hg : Json.gap w.heap options.space = .ok gap)
    (hb : backticks = options.backticks.getD w.settings.allowsBackticks) {tree : Tree}
    (h : IsDocument w.heap [] v tree.printed) (s : σ) :
    (skeleton w options marker v).run (s, []) =
      (.ok (emit (quotedToken marker) 0 (pieces (chosen options backticks) gap [] tree)),
        (s, tree.texts.filter (chosen options backticks))) := by
  rw [skeleton_of_isDocument hr hg hb h s, Printed.skeleton, Tree.isDropped_printed,
    Tree.pieces_printed, Tree.texts_printed]
  rfl

/-- Values that have a tree are printed as this tree. -/
theorem skeleton_run (hr : options.replacer = none)
    (hg : Json.gap w.heap options.space = .ok gap)
    (hb : backticks = options.backticks.getD w.settings.allowsBackticks) {tree : Tree}
    (h : Denotes w.heap [] v tree) (s : σ) :
    (skeleton w options marker v).run (s, []) =
      (.ok (emit (quotedToken marker) 0 (pieces (chosen options backticks) gap [] tree)),
        (s, tree.texts.filter (chosen options backticks))) :=
  skeleton_printed hr hg hb (Denotes.isDocument tree h) s

end

end JsLiteral.Json
