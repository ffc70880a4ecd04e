import JsLiteral.CommandLine.Markup

/-!
# What is shown as it is

The console draws names between colons, leaves out codes that move the cursor, and fills tabs. What
one word does to another is limited: a blank ends the name of a picture, and a tab is filled from
what stands before it in its line.

    draw (u ++ ' ' :: v) = draw u ++ ' ' :: draw v                   (draw_append_blank)
    expandTabs (u ++ y) = expandTabs u ++ y
                            for y in one line without tabs           (Text.expandTabs_append)
    words with a blank between them are shown if each of them is     (IsShown.append_blank)
-/

namespace JsLiteral

/-! ## Columns -/

namespace Text

/-- What comes after a text without the code points that are cut at belongs to its last part. -/
theorem splitBy_append {p : CodePoint → Bool} (u : Text) {y : Text} (hy : ∀ c ∈ y, p c = false) :
    ∃ front last, splitBy p u = front ++ [last] ∧ splitBy p (u ++ y) = front ++ [last ++ y] := by
  induction u with
  | nil => exact ⟨[], [], rfl, splitBy_of_forall_neg hy⟩
  | cons c u ih =>
    obtain ⟨front, last, hu, huy⟩ := ih
    by_cases hc : p c = true
    · refine ⟨[] :: front, last, ?_, ?_⟩
      · rw [splitBy_cons_of_pos hc, hu, List.cons_append]
      · rw [List.cons_append, splitBy_cons_of_pos hc, huy, List.cons_append]
    · have hc : p c = false := Bool.eq_false_iff.2 hc
      cases front with
      | nil =>
        exact ⟨[], c :: last, splitBy_cons_of_neg hc hu, splitBy_cons_of_neg hc huy⟩
      | cons part front =>
        exact ⟨(c :: part) :: front, last, splitBy_cons_of_neg hc hu, splitBy_cons_of_neg hc huy⟩

theorem splitBy_append_left {p : CodePoint → Bool} {x : Text} (hx : ∀ c ∈ x, p c = false) {u : Text}
    {first : Text} {rest : List Text} (hu : splitBy p u = first :: rest) :
    splitBy p (x ++ u) = (x ++ first) :: rest := by
  induction x with
  | nil => exact hu
  | cons c x ih =>
    exact splitBy_cons_of_neg (hx c List.mem_cons_self)
      (ih fun d hd => hx d (List.mem_cons_of_mem _ hd))

/-- A part that others follow is filled with blanks, and they start at a column after it. -/
theorem exists_joinTabbed_cons (column : Nat) (part : Text) : ∃ filled column', ∀ rest, rest ≠ [] →
    joinTabbed column (part :: rest) = part ++ filled ++ joinTabbed column' rest := by
  refine ⟨CodePoint.scalar ' ' :: List.replicate
    ((8 - (column + (part ++ [CodePoint.scalar ' ']).columns) % 8) % 8) (CodePoint.scalar ' '),
    column + (part ++ [CodePoint.scalar ' ']).columns +
      (8 - (column + (part ++ [CodePoint.scalar ' ']).columns) % 8) % 8, fun rest hrest => ?_⟩
  obtain ⟨next, rest, rfl⟩ := List.exists_cons_of_ne_nil hrest
  rw [List.append_cons]
  rfl

theorem joinTabbed_append (front : List Text) (last y : Text) : ∀ column,
    joinTabbed column (front ++ [last ++ y]) = joinTabbed column (front ++ [last]) ++ y := by
  induction front with
  | nil => exact fun _ => rfl
  | cons part front ih =>
    intro column
    obtain ⟨filled, column', hcons⟩ := exists_joinTabbed_cons column part
    rw [List.cons_append, List.cons_append, hcons _ (by simp), hcons _ (by simp), ih column',
      ← List.append_assoc]

theorem joinTabbed_append_left (x first : Text) (rest : List Text) (column : Nat) :
    ∃ z, joinTabbed column ((x ++ first) :: rest) = x ++ z := by
  by_cases hrest : rest = []
  · exact ⟨first, by rw [hrest, joinTabbed]⟩
  · obtain ⟨filled, column', hcons⟩ := exists_joinTabbed_cons column (x ++ first)
    exact ⟨_, by rw [hcons rest hrest, List.append_assoc, List.append_assoc]⟩

theorem unlines_append (front : List Text) (last y : Text) :
    unlines (front ++ [last ++ y]) = unlines (front ++ [last]) ++ y := by
  cases front with
  | nil => simp [unlines, join]
  | cons line front => simp [unlines, join]

/-- A text in one line that tabs are not filled in. -/
def IsInline (t : Text) : Prop := ∀ c ∈ t, c ≠ '\t' ∧ c ≠ newline

theorem IsInline.append {x y : Text} (hx : IsInline x) (hy : IsInline y) : IsInline (x ++ y) :=
  fun c hc => (List.mem_append.1 hc).elim (hx c) (hy c)

theorem IsInline.cons {c : CodePoint} {t : Text} (hc : c ≠ '\t' ∧ c ≠ newline) (ht : IsInline t) :
    IsInline (c :: t) :=
  List.forall_mem_cons.2 ⟨hc, ht⟩

/-- What comes after a text in the same line stays as it is, and moves nothing before it. -/
theorem expandTabs_append (u : Text) {y : Text} (hy : IsInline y) :
    expandTabs (u ++ y) = expandTabs u ++ y := by
  have hline : ∀ c ∈ y, (c == newline) = false := fun c hc => beq_false_of_ne (hy c hc).2
  have htab : ∀ c ∈ y, (c == '\t') = false := fun c hc => beq_false_of_ne (hy c hc).1
  obtain ⟨front, last, hu, hlines⟩ := splitBy_append u hline
  obtain ⟨parts, part, hlast, hparts⟩ := splitBy_append last htab
  unfold expandTabs lines
  rw [hu, hlines, List.map_append, List.map_append, List.map_singleton, List.map_singleton, hlast,
    hparts, joinTabbed_append, unlines_append]

theorem expandTabs_append_left {x : Text} (hx : IsInline x) (u : Text) :
    ∃ z, expandTabs (x ++ u) = x ++ z := by
  have hline : ∀ c ∈ x, (c == newline) = false := fun c hc => beq_false_of_ne (hx c hc).2
  have htab : ∀ c ∈ x, (c == '\t') = false := fun c hc => beq_false_of_ne (hx c hc).1
  obtain ⟨first, rest, hu⟩ := List.exists_cons_of_ne_nil (splitBy_ne_nil (· == newline) u)
  obtain ⟨part, parts, hfirst⟩ := List.exists_cons_of_ne_nil (splitBy_ne_nil (· == '\t') first)
  obtain ⟨z, hz⟩ := joinTabbed_append_left x part parts 0
  unfold expandTabs lines
  rw [splitBy_append_left hline hu, List.map_cons, splitBy_append_left htab hfirst, hz, unlines,
    join, List.append_assoc]
  exact ⟨_, rfl⟩

end Text

namespace Markup

/-! ## Pictographs -/

theorem takeWhile_append_blank (u v : Text) :
    (u ++ CodePoint.scalar ' ' :: v).takeWhile inName = u.takeWhile inName := by
  induction u with
  | nil => rfl
  | cons c u ih =>
    by_cases hc : inName c = true
    · rw [List.cons_append, List.takeWhile_cons_of_pos hc, List.takeWhile_cons_of_pos hc, ih]
    · rw [List.cons_append, List.takeWhile_cons_of_neg hc, List.takeWhile_cons_of_neg hc]

theorem head?_drop_append_blank (u v : Text) :
    (((u ++ CodePoint.scalar ' ' :: v).drop (u.takeWhile inName).length).head? =
      some (CodePoint.scalar ':')) ↔
        (u.drop (u.takeWhile inName).length).head? = some (CodePoint.scalar ':') := by
  induction u with
  | nil => simp
  | cons c u ih =>
    by_cases hc : inName c = true
    · rw [List.takeWhile_cons_of_pos hc]
      exact ih
    · rw [List.takeWhile_cons_of_neg hc]
      exact Iff.rfl

theorem length_of_head?_drop {u : Text} {n : Nat} {d : CodePoint}
    (h : (u.drop n).head? = some d) : n < u.length := by
  rw [List.head?_drop] at h
  exact (List.getElem?_eq_some_iff.1 h).1

/-- A blank ends what may be a name. -/
theorem pictographAt?_append_blank (c : CodePoint) (u v : Text) :
    pictographAt? (c :: (u ++ CodePoint.scalar ' ' :: v)) = pictographAt? (c :: u) := by
  obtain ⟨picture?, hat⟩ := exists_pictographAt?
  rw [hat, hat, takeWhile_append_blank]
  simp only [head?_drop_append_blank]
  by_cases hname : c = CodePoint.scalar ':' ∧ (u.drop (u.takeWhile inName).length).head? =
      some (CodePoint.scalar ':')
  · have hlength := length_of_head?_drop hname.2
    have htake : (c :: (u ++ CodePoint.scalar ' ' :: v)).take ((u.takeWhile inName).length + 2) =
        (c :: u).take ((u.takeWhile inName).length + 2) := by
      rw [← List.cons_append, List.take_append_of_le_length]
      rw [List.length_cons]
      omega
    rw [if_pos hname, if_pos hname, htake]
  · rw [if_neg hname, if_neg hname]

theorem length_of_pictographAt? {c : CodePoint} {u picture : Text} {n : Nat}
    (h : pictographAt? (c :: u) = some (n, picture)) : n - 1 ≤ u.length := by
  obtain ⟨picture?, hat⟩ := exists_pictographAt?
  rw [hat] at h
  split at h
  · rename_i hname
    have hlength := length_of_head?_drop hname.2
    cases h
    omega
  · cases h

theorem drawFrom_append_blank (u v : Text) : ∀ {skip : Nat}, skip ≤ u.length →
    drawFrom skip (u ++ CodePoint.scalar ' ' :: v) =
      drawFrom skip u ++ CodePoint.scalar ' ' :: drawFrom 0 v := by
  induction u with
  | nil =>
    intro skip hskip
    obtain rfl := Nat.le_zero.1 hskip
    rfl
  | cons c u ih =>
    intro skip hskip
    cases skip with
    | succ skip => exact ih (Nat.le_of_succ_le_succ hskip)
    | zero =>
      rw [List.cons_append, drawFrom, drawFrom, pictographAt?_append_blank]
      cases hat : pictographAt? (c :: u) with
      | none =>
        simp only
        rw [ih (Nat.zero_le _), List.cons_append]
      | some p =>
        obtain ⟨n, picture⟩ := p
        simp only
        rw [ih (length_of_pictographAt? hat), List.append_assoc]

theorem draw_append_blank (u v : Text) :
    draw (u ++ CodePoint.scalar ' ' :: v) = draw u ++ CodePoint.scalar ' ' :: draw v :=
  drawFrom_append_blank u v (Nat.zero_le _)

theorem draw_append_of_not_mem {u : Text} (h : CodePoint.scalar ':' ∉ u) (v : Text) :
    draw (u ++ v) = u ++ draw v := by
  obtain ⟨picture?, hat⟩ := exists_pictographAt?
  induction u with
  | nil => rfl
  | cons c u ih =>
    rw [List.mem_cons, not_or] at h
    have hnone : pictographAt? (c :: (u ++ v)) = none := by
      rw [hat, if_neg fun hc => h.1 hc.1.symm]
    rw [List.cons_append, draw, drawFrom, hnone]
    exact congrArg (c :: ·) (ih h.2)

/-! ## Words of a message -/

/-- A text that is shown as it is: no picture is in it, no code that moves the cursor, no tab and
no line end. -/
structure IsShown (t : Text) : Prop where
  draw_eq : draw t = t
  inline : t.IsInline
  codes : ∀ c ∈ t, isCursorCode c = false

instance (t : Text) : Decidable (IsShown t) :=
  decidable_of_iff (draw t = t ∧ (∀ c ∈ t, c ≠ '\t' ∧ c ≠ Text.newline) ∧
      ∀ c ∈ t, isCursorCode c = false)
    ⟨fun h => ⟨h.1, h.2.1, h.2.2⟩, fun h => ⟨h.draw_eq, h.inline, h.codes⟩⟩

/-- A code point that is shown as it is wherever it stands, and belongs to no tag's ends. -/
def isInert (c : CodePoint) : Bool :=
  c != ':' && c != '[' && c != ']' && c != '\t' && c != Text.newline && !isCursorCode c

/-- A text of such code points. -/
def IsInert (t : Text) : Prop := ∀ c ∈ t, isInert c = true

instance (t : Text) : Decidable (IsInert t) := inferInstanceAs (Decidable (∀ c ∈ t, _))

theorem isShown_nil : IsShown [] := ⟨rfl, nofun, nofun⟩

namespace IsShown

variable {u v : Text}

theorem filter_eq (h : IsShown u) : u.filter (fun c => !isCursorCode c) = u :=
  List.filter_eq_self.2 fun c hc => by rw [h.codes c hc]; rfl

/-- Words with a blank between them. -/
theorem append_blank (hu : IsShown u) (hv : IsShown v) :
    IsShown (u ++ CodePoint.scalar ' ' :: v) where
  draw_eq := by rw [draw_append_blank, hu.draw_eq, hv.draw_eq]
  inline := hu.inline.append (Text.IsInline.cons (by decide) hv.inline)
  codes := by
    intro c hc
    rcases List.mem_append.1 hc with hc | hc
    · exact hu.codes c hc
    · rcases List.mem_cons.1 hc with rfl | hc
      · rfl
      · exact hv.codes c hc

end IsShown

namespace IsInert

variable {t v : Text}

theorem not_mem (h : IsInert t) {d : CodePoint} (hd : isInert d = false) : d ∉ t :=
  fun hm => Bool.false_ne_true (hd.symm.trans (h d hm))

/-- An inert text does not change how words after it are shown. -/
theorem append_isShown (h : IsInert t) (hv : IsShown v) : IsShown (t ++ v) where
  draw_eq := by rw [draw_append_of_not_mem (h.not_mem rfl), hv.draw_eq]
  inline := by
    intro c hc
    rcases List.mem_append.1 hc with hc | hc
    · exact ⟨fun e => h.not_mem rfl (e ▸ hc), fun e => h.not_mem rfl (e ▸ hc)⟩
    · exact hv.inline c hc
  codes := by
    intro c hc
    rcases List.mem_append.1 hc with hc | hc
    · have hcode := h c hc
      unfold isInert at hcode
      rw [Bool.and_eq_true, Bool.not_eq_true'] at hcode
      exact hcode.2
    · exact hv.codes c hc

theorem isShown (h : IsInert t) : IsShown t := by
  have hshown := h.append_isShown isShown_nil
  rwa [List.append_nil] at hshown

end IsInert

end Markup

end JsLiteral
