import JsLiteral.Proofs.Skeleton

/-!
# Markers at the edges of literals

A marker does not stand in a literal unless its text holds it, but one may come about where the
literal meets the code around it. A code point that stands in strings only, called inner here,
is fenced by the quotes of its string, so a part of the marker that holds one does not lie at an
edge.

    fenced texts put together are fenced                       (Fenced.append)
    splicing leaves no marker in code whose edges hold none    (spliceFrom_free)
-/

namespace JsLiteral

open Text Template Json Placeholder Skeleton

/-! ## Where texts meet -/

/-- A text occurs across the edge of two texts if it occurs in neither. -/
theorem Text.not_infix_append {p a b : Text} (ha : ¬ p <:+: a) (hb : ¬ p <:+: b)
    (hedge : ∀ v u, p = v ++ u → v ≠ [] → u ≠ [] → v <:+ a → ¬ u <+: b) : ¬ p <:+: a ++ b := by
  rintro ⟨x, y, h⟩
  rcases List.append_eq_append_iff.1 h with ⟨u, h1, -⟩ | ⟨u, h1, h2⟩
  · exact ha ⟨x, u, h1.symm⟩
  rcases List.append_eq_append_iff.1 h1 with ⟨v, h3, rfl⟩ | ⟨v, h3, rfl⟩
  · cases v with
    | nil => exact hb ⟨[], y, by rw [h2]; rfl⟩
    | cons d v =>
      cases u with
      | nil => exact ha ⟨x, [], by rw [h3]; simp⟩
      | cons d' u =>
        exact hedge _ _ rfl (List.cons_ne_nil _ _) (List.cons_ne_nil _ _) ⟨x, h3.symm⟩
          ⟨y, h2.symm⟩
  · exact hb ⟨v, y, by rw [h2, List.append_assoc]⟩

/-- A text without line ends occurs on one side of a line end or on the other. -/
theorem Text.not_infix_newline {p a b : Text} (hp : newline ∉ p) (ha : ¬ p <:+: a)
    (hb : ¬ p <:+: b) : ¬ p <:+: a ++ newline :: b := by
  rintro ⟨x, y, h⟩
  rcases cut_at_separator hp h with ⟨z, hz, -⟩ | ⟨z, -, hz⟩
  · exact ha ⟨x, z, hz.symm⟩
  · exact hb ⟨z, y, hz.symm⟩

section

variable {inner : CodePoint → Prop} {marker : Text}

/-- A piece up to either end of a text that has an inner code point has one that is not in the
marker. -/
structure Fenced (inner : CodePoint → Prop) (marker a : Text) : Prop where
  left : ∀ x, x <+: a → (∃ e ∈ x, inner e) → ∃ d ∈ x, d ∉ marker
  right : ∀ y, y <:+ a → (∃ e ∈ y, inner e) → ∃ d ∈ y, d ∉ marker

theorem fenced_of_forall_not {a : Text} (h : ∀ d ∈ a, ¬ inner d) : Fenced inner marker a where
  left := fun _ hx ⟨e, he, hin⟩ => absurd hin (h e (hx.subset he))
  right := fun _ hy ⟨e, he, hin⟩ => absurd hin (h e (hy.subset he))

/-- The quotes of a literal fence it. -/
theorem fenced_quote (hq : CodePoint.scalar '"' ∉ marker) (t : Text) :
    Fenced inner marker (quote t) where
  left := by
    rintro x ⟨y, h⟩ ⟨e, he, -⟩
    cases x with
    | nil => cases he
    | cons d x =>
      obtain ⟨rfl, -⟩ := List.cons.inj h
      exact ⟨_, List.mem_cons_self, hq⟩
  right := by
    rintro y ⟨x, h⟩ ⟨e, he, -⟩
    rcases List.eq_nil_or_concat y with rfl | ⟨z, d, rfl⟩
    · cases he
    · have h : (x ++ z) ++ [d] =
          (CodePoint.scalar '"' :: t.flatMap quotePoint) ++ [CodePoint.scalar '"'] := by
        rw [List.append_assoc, ← List.concat_eq_append, h]
        rfl
      obtain ⟨-, hd⟩ := List.append_inj' h rfl
      obtain ⟨rfl, -⟩ := List.cons.inj hd
      exact ⟨_, by simp, hq⟩

theorem Fenced.append {a b : Text} (ha : Fenced inner marker a) (hb : Fenced inner marker b) :
    Fenced inner marker (a ++ b) where
  left := by
    rintro x ⟨y, h⟩ ⟨e, hx, he⟩
    rcases List.append_eq_append_iff.1 h with ⟨u, h1, -⟩ | ⟨u, rfl, h2⟩
    · exact ha.left x ⟨u, h1.symm⟩ ⟨e, hx, he⟩
    · rcases List.mem_append.1 hx with hx | hu
      · obtain ⟨d, hd, hm⟩ := ha.left a (List.prefix_refl a) ⟨e, hx, he⟩
        exact ⟨d, List.mem_append_left u hd, hm⟩
      · obtain ⟨d, hd, hm⟩ := hb.left u ⟨y, h2.symm⟩ ⟨e, hu, he⟩
        exact ⟨d, List.mem_append_right a hd, hm⟩
  right := by
    rintro y ⟨x, h⟩ ⟨e, hy, he⟩
    rcases List.append_eq_append_iff.1 h with ⟨u, h1, rfl⟩ | ⟨u, -, h2⟩
    · rcases List.mem_append.1 hy with hu | hb'
      · obtain ⟨d, hd, hm⟩ := ha.right u ⟨x, h1.symm⟩ ⟨e, hu, he⟩
        exact ⟨d, List.mem_append_left b hd, hm⟩
      · obtain ⟨d, hd, hm⟩ := hb.right b (List.suffix_refl b) ⟨e, hb', he⟩
        exact ⟨d, List.mem_append_right u hd, hm⟩
    · exact hb.right y ⟨u, h2.symm⟩ ⟨e, hy, he⟩

/-- A marker with an inner code point does not come about where fenced texts meet. -/
theorem Fenced.not_infix_append (hin : ∃ e ∈ marker, inner e) {a b : Text}
    (ha : Fenced inner marker a) (hb : Fenced inner marker b) (ha' : ¬ marker <:+: a)
    (hb' : ¬ marker <:+: b) : ¬ marker <:+: a ++ b := by
  refine Text.not_infix_append ha' hb' ?_
  rintro v u rfl - - hva hub
  obtain ⟨e, hmem, he⟩ := hin
  rcases List.mem_append.1 hmem with hmem | hmem
  · obtain ⟨d, hd, hm⟩ := ha.right v hva ⟨e, hmem, he⟩
    exact hm (List.mem_append_left u hd)
  · obtain ⟨d, hd, hm⟩ := hb.left u hub ⟨e, hmem, he⟩
    exact hm (List.mem_append_right v hd)

/-- What holds of the pieces and is kept by putting texts together holds of the gaps. -/
theorem forall_gaps {P : Text → Prop} (hnil : P []) (happend : ∀ {a b}, P a → P b → P (a ++ b))
    {ps : List Piece} (hplain : ∀ t, .plain t ∈ ps → P t)
    (hquoted : ∀ t, .quoted t ∈ ps → P (quote t)) :
    P (gaps ps).1 ∧ ∀ g ∈ (gaps ps).2, P g := by
  induction ps with
  | nil => exact ⟨hnil, fun _ hg => absurd hg List.not_mem_nil⟩
  | cons p ps ih =>
    obtain ⟨hfirst, hrest⟩ := ih (fun t ht => hplain t (List.mem_cons_of_mem _ ht))
      fun t ht => hquoted t (List.mem_cons_of_mem _ ht)
    cases p with
    | plain t => exact ⟨happend (hplain t List.mem_cons_self) hfirst, hrest⟩
    | quoted t => exact ⟨happend (hquoted t List.mem_cons_self) hfirst, hrest⟩
    | hole t =>
      refine ⟨hnil, fun g hg => ?_⟩
      rcases List.mem_cons.1 hg with rfl | hg
      · exact hfirst
      · exact hrest g hg

end

/-! ## Splicing -/

section

variable {σ : Type} {options : Options σ} {marker : Text}

/-- A marker that starts with no space or tab does not start in an indentation. -/
theorem not_infix_indent (hv : IsVerbatim marker)
    (hhead : ∀ d ∈ marker.head?, d.isIndent = false) {w a : Text} (hw : IsIndent w)
    (ha : ¬ marker <:+: a) : ¬ marker <:+: w ++ a := by
  rintro ⟨x, y, h⟩
  obtain ⟨d, m, rfl⟩ := List.exists_cons_of_ne_nil hv.ne_nil
  have hmem : d ∉ w := by
    intro hmem
    have := hw d hmem
    rw [hhead d rfl] at this
    cases this
  obtain ⟨u, -, hu⟩ := cut_after_head hmem h
  exact ha ⟨u, y, hu.symm⟩

/-- The lines of a literal do not hold a marker that its text does not hold. -/
theorem not_infix_lines (hv : IsVerbatim marker) (hhead : ∀ d ∈ marker.head?, d.isIndent = false)
    {w t : Text} (hw : IsIndent w) (ht : ¬ marker <:+: t) :
    ¬ marker <:+: w ++ step ++ reindent w (escape t) := by
  refine not_infix_indent hv hhead (hw.append isIndent_step) ?_
  rintro ⟨x, y, h⟩
  obtain ⟨d, m, rfl⟩ := List.exists_cons_of_ne_nil hv.ne_nil
  obtain ⟨u, v, he⟩ := exists_of_reindent hw (hhead d rfl) hv.newline_not_mem h.symm
  obtain ⟨u', v', rfl⟩ := exists_of_escape hv.backslash_not_mem he
  exact ht ⟨u', v', rfl⟩

/-- Splicing leaves no marker in code that has none up to the backtick where a literal may
begin, and from the backtick where one ends to there. -/
theorem spliceFrom_free (hv : IsVerbatim marker) (hhead : ∀ d ∈ marker.head?, d.isIndent = false)
    (waiting : List Text) : ∀ {k : Nat} {a : Text} {gs : List Text}, gs.length = waiting.length →
      ¬ marker <:+: a ++ (options.templateOpening ++ [backtick]) →
      (∀ g ∈ gs, ¬ marker <:+:
        backtick :: options.templateClosing ++ g ++ (options.templateOpening ++ [backtick])) →
      (∀ t ∈ waiting, ¬ marker <:+: t) →
        ∀ w : World, ∃ code w', (spliceFrom options marker k waiting
          (a ++ weave marker (tokens k gs))).run w = (.ok code, w') ∧ ¬ marker <:+: code := by
  induction waiting with
  | nil =>
    intro k a gs hlen ha _ _ w
    obtain rfl := List.eq_nil_of_length_eq_zero hlen
    exact ⟨a, w, by rw [tokens, weave, List.append_nil]; rfl,
      fun hin => ha (hin.trans (List.prefix_append _ _).isInfix)⟩
  | cons t rest ih =>
    intro k a gs hlen ha hgs ht w
    cases gs with
    | nil => cases hlen
    | cons g gs =>
      have hfree : ¬ marker <:+: a := fun hin => ha (hin.trans (List.prefix_append _ _).isInfix)
      have hfirst : ∀ p, StandsAt (token marker k) (a ++ between '"' (token marker k) ++
          (g ++ weave marker (tokens (k + 1) gs))) p → a.length ≤ p := by
        rintro p ⟨x, q, y, heq, rfl, hq⟩
        rw [List.append_assoc] at heq
        rcases cut_token hv hq hfree heq.symm with ⟨-, -, rfl, -⟩ | ⟨u, rfl, -⟩
        · exact Nat.le_refl _
        · rw [List.length_append]
          omega
      obtain ⟨w₁, hrun⟩ := spliceOne_of_standsAt options t ⟨'"', Or.inl rfl, rfl⟩ hfirst w
      have hindent := isIndent_indentation (lastLine a)
      -- three parts between line ends: up to the literal, its lines, and from its end on
      have hnext : ¬ marker <:+: a ++ literalAfter options.templateOpening options.templateClosing
          a t ++ g ++ (options.templateOpening ++ [backtick]) := by
        have hlines := not_infix_lines hv hhead hindent (ht t List.mem_cons_self)
        have hend := not_infix_indent hv hhead hindent (hgs g List.mem_cons_self)
        have hfree := Text.not_infix_newline hv.newline_not_mem ha
          (Text.not_infix_newline hv.newline_not_mem hlines hend)
        simpa [literalAfter, literal_eq] using hfree
      obtain ⟨code, w₂, hcode, hclear⟩ := ih (k := k + 1) (Nat.succ.inj hlen) hnext
        (fun g' hg => hgs g' (List.mem_cons_of_mem _ hg))
        (fun u hu => ht u (List.mem_cons_of_mem _ hu)) w₁
      refine ⟨code, w₂, ?_, hclear⟩
      rw [tokens, weave, Fill.text, ← List.append_assoc, spliceFrom_cons_run hrun, ← hcode]
      simp

end

end JsLiteral
