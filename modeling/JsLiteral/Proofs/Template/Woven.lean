import JsLiteral.Proofs.Placeholder.Literal

/-!
# Bodies with literals in them

The raw body of a literal in which other literals may stand: what splicing makes of a body
that holds the quoted token of a text whose turn comes later. Such a body has backticks that
no backslash precedes, one after the tag and one after each closing line.

    literal tag [] w t = fenced w (own w t)
    Woven torn (u ++ q ++ v) → Woven true (u ++ fenced w b ++ v)   for a quoted q   (Woven.splice)
-/

namespace JsLiteral.Template

open Text Placeholder

/-- The tag of a literal. -/
def tag : Text := " dedent"

/-- A literal with the raw lines `b` whose closing backtick is indented by `w`. -/
def fenced (w b : Text) : Text :=
  tag ++ backtick :: newline :: (b ++ newline :: (w ++ [backtick]))

theorem literal_eq_fenced (w t : Text) : literal tag [] w t = fenced w (own w t) := by
  rw [literal_eq, fenced, own]
  simp

theorem fenced_append (w b t : Text) :
    fenced w b ++ t = (tag ++ [backtick]) ++ newline :: (b ++ newline :: (w ++ backtick :: t)) := by
  simp [fenced]

theorem not_isQuote_of_mem_tag {c : CodePoint} (h : c ∈ tag ++ [backtick]) : ¬ IsQuote c :=
  (by decide : ∀ d ∈ tag ++ [backtick], ¬ IsQuote d) c h

/-! ## Tags -/

theorem isPrefixOf_tag_iff {t : Text} : (tag ++ [backtick]).isPrefixOf t = true ↔
    ∃ z, t = CodePoint.scalar ' ' :: (("dedent" : Text) ++ backtick :: z) := by
  rw [isPrefixOf_iff]
  rfl

theorem not_tag_of_ne {c : CodePoint} (hc : c ≠ ' ') (t : Text) :
    (tag ++ [backtick]).isPrefixOf (c :: t) = false := by
  rw [Bool.eq_false_iff]
  intro hpre
  obtain ⟨z, hz⟩ := isPrefixOf_tag_iff.1 hpre
  exact hc (List.cons.inj hz).1

/-- No tag starts right before a text that does not start like the word in it. -/
theorem not_tag {t : Text} (h : t.head? ≠ some 'd') (c : CodePoint) :
    (tag ++ [backtick]).isPrefixOf (c :: t) = false := by
  rw [Bool.eq_false_iff]
  intro hpre
  obtain ⟨z, hz⟩ := isPrefixOf_tag_iff.1 hpre
  obtain ⟨-, rfl⟩ := List.cons.inj hz
  exact h rfl

/-! ## Bodies -/

/-- A raw body; `torn` if literals stand in it. -/
inductive Woven : Bool → Text → Prop
  | nil : Woven false []
  | plain {torn : Bool} {c : CodePoint} {t : Text} :
    c ≠ backtick → c ≠ '\\' → Woven torn t → Woven torn (c :: t)
  | escaped {torn : Bool} {c : CodePoint} {t : Text} :
    c = '\\' ∨ c = backtick ∨ c = '$' → Woven torn t → Woven torn ('\\' :: c :: t)
  | literal {torn torn' : Bool} {w b t : Text} :
    IsIndent w → Woven torn b → Woven torn' t → Woven true (fenced w b ++ t)

namespace Woven

theorem indent_append {torn : Bool} {w t : Text} (hw : IsIndent w) (h : Woven torn t) :
    Woven torn (w ++ t) := by
  induction w with
  | nil => exact h
  | cons c w ih =>
    have hc : c.isIndent = true := hw c List.mem_cons_self
    refine .plain ?_ ?_ (ih fun d hd => hw d (List.mem_cons_of_mem _ hd))
    · rintro rfl
      cases hc
    · rintro rfl
      cases hc

theorem reindent_escape {w : Text} (hw : IsIndent w) (t : Text) :
    Woven false (reindent w (escape t)) := by
  fun_induction escape t with
  | case1 => exact .nil
  | case2 t ih =>
    rw [reindent_cons (by decide), reindent_cons (by decide), reindent_cons (by decide)]
    exact .escaped (Or.inr (Or.inr rfl)) (.plain (by decide) (by decide) ih)
  | case3 c t _ hc ih =>
    have hn : c ≠ newline := by
      rcases hc with rfl | rfl
      · decide
      · decide
    rw [reindent_cons (by decide), reindent_cons hn]
    refine .escaped ?_ ih
    rcases hc with rfl | rfl
    · exact Or.inl rfl
    · exact Or.inr (Or.inl rfl)
  | case4 c t _ hc ih =>
    obtain ⟨s, hs, he⟩ := exists_reindent_cons hw c (escape t)
    rw [he]
    exact .plain (fun e => hc (Or.inr e)) (fun e => hc (Or.inl e)) (indent_append hs ih)

theorem own {w : Text} (hw : IsIndent w) (t : Text) : Woven false (own w t) :=
  indent_append (hw.append isIndent_step) (reindent_escape hw t)

/-- A backtick in a body comes after a backslash or after the space of a tag. -/
theorem not_append_backtick {torn : Bool} {p z : Text} (hs : CodePoint.scalar '\\' ∉ p)
    (hb : CodePoint.scalar ' ' ∉ p) : ¬ Woven torn (p ++ backtick :: z) := by
  intro h
  induction p with
  | nil =>
    rw [List.nil_append] at h
    generalize he : backtick :: z = x at h
    cases h with
    | nil => cases he
    | plain hc =>
      obtain ⟨rfl, -⟩ := List.cons.inj he
      exact hc rfl
    | escaped =>
      obtain ⟨hc, -⟩ := List.cons.inj he
      exact absurd hc (by decide)
    | literal =>
      obtain ⟨hc, -⟩ := List.cons.inj he
      exact absurd hc (by decide)
  | cons c p ih =>
    rw [List.cons_append] at h
    generalize he : c :: (p ++ backtick :: z) = x at h
    cases h with
    | nil => cases he
    | plain _ _ ht =>
      obtain ⟨-, rfl⟩ := List.cons.inj he
      exact ih (fun hm => hs (List.mem_cons_of_mem _ hm))
        (fun hm => hb (List.mem_cons_of_mem _ hm)) ht
    | escaped =>
      obtain ⟨rfl, -⟩ := List.cons.inj he
      exact hs List.mem_cons_self
    | literal =>
      obtain ⟨rfl, -⟩ := List.cons.inj he
      exact hb List.mem_cons_self

/-- No tag starts right before a body that a line feed follows. -/
theorem not_tag {torn : Bool} {t : Text} (h : Woven torn t) (c : CodePoint) (rest : Text) :
    (tag ++ [backtick]).isPrefixOf (c :: (t ++ newline :: rest)) = false := by
  rw [Bool.eq_false_iff]
  intro hpre
  obtain ⟨z, hz⟩ := isPrefixOf_tag_iff.1 hpre
  obtain ⟨-, hz⟩ := List.cons.inj hz
  have hcut : [] ++ (("dedent" : Text) ++ [backtick]) ++ z = t ++ newline :: rest := by
    rw [hz]
    simp
  rcases cut_at_separator (by decide) hcut with ⟨z', rfl, -⟩ | ⟨z', hz', -⟩
  · rw [List.nil_append, List.append_assoc, List.singleton_append] at h
    exact not_append_backtick (by decide) (by decide) h
  · simp at hz'

/-! ## A quoted token in a body -/

/-- A text on one line up to a quote does not start with a tag. -/
theorem not_fenced_append {p r w b t : Text} {mark : CodePoint} (hm : IsQuote mark)
    (hp : newline ∉ p) : p ++ mark :: r ≠ fenced w b ++ t := by
  intro h
  have hn : newline ∉ p ++ [mark] := by
    intro hmem
    rcases List.mem_append.1 hmem with hmem | hmem
    · exact hp hmem
    · exact hm.ne_newline (List.mem_singleton.1 hmem).symm
  have hcut : [] ++ (p ++ [mark]) ++ r = (tag ++ [backtick]) ++
      newline :: (b ++ newline :: (w ++ backtick :: t)) := by
    rw [← fenced_append, ← h]
    simp
  rcases cut_at_separator hn hcut with ⟨z, hz, -⟩ | ⟨z, hz, -⟩
  · exact not_isQuote_of_mem_tag (c := mark) (by rw [hz]; simp) hm
  · have := congrArg List.length hz
    simp at this

/-- What follows a text on one line that ends with a quote and holds no backslash. -/
theorem of_append {torn : Bool} {p v : Text} {mark : CodePoint} (hm : IsQuote mark)
    (hp : newline ∉ p) (hs : CodePoint.scalar '\\' ∉ p) (h : Woven torn (p ++ mark :: v)) :
    Woven torn v := by
  induction p with
  | nil =>
    rw [List.nil_append] at h
    generalize he : mark :: v = x at h
    cases h with
    | nil => cases he
    | plain _ _ h =>
      cases he
      exact h
    | escaped =>
      obtain ⟨rfl, -⟩ := List.cons.inj he
      exact absurd hm (by decide)
    | literal hw hb ht => exact absurd he (not_fenced_append (p := []) hm hp)
  | cons c p ih =>
    have hp' : newline ∉ p := fun hmem => hp (List.mem_cons_of_mem _ hmem)
    have hs' : CodePoint.scalar '\\' ∉ p := fun hmem => hs (List.mem_cons_of_mem _ hmem)
    rw [List.cons_append] at h
    generalize he : c :: (p ++ mark :: v) = x at h
    cases h with
    | nil => cases he
    | plain _ _ h =>
      cases he
      exact ih hp' hs' h
    | escaped =>
      obtain ⟨rfl, -⟩ := List.cons.inj he
      exact absurd List.mem_cons_self hs
    | literal hw hb ht => exact absurd he (not_fenced_append (p := c :: p) hm hp)

/-- A literal in the place of a quoted token tears the body. -/
theorem splice {torn torn' : Bool} {token q u v w b : Text} (hq : IsQuoted token q)
    (hn : newline ∉ token) (hs : CodePoint.scalar '\\' ∉ token) (hw : IsIndent w)
    (hb : Woven torn' b) (h : Woven torn (u ++ q ++ v)) : Woven true (u ++ fenced w b ++ v) := by
  have hnq : newline ∉ q := hq.not_mem hn fun h => h.ne_newline rfl
  have hsq : CodePoint.scalar '\\' ∉ q := hq.not_mem hs (by decide)
  obtain ⟨mark, hm, rfl⟩ := hq
  -- the token itself is passed over in one go
  have hhere : ∀ {torn : Bool} {v : Text}, Woven torn (between mark token ++ v) →
      Woven true (fenced w b ++ v) := by
    intro torn v h
    have he' : between mark token = (mark :: token) ++ [mark] := rfl
    rw [he', List.append_assoc, List.singleton_append] at h
    refine .literal hw hb (of_append hm ?_ ?_ h)
    · intro hmem
      exact hnq (he' ▸ List.mem_append_left [mark] hmem)
    · intro hmem
      exact hsq (he' ▸ List.mem_append_left [mark] hmem)
  generalize he : u ++ between mark token ++ v = x at h
  induction h generalizing u v with
  | nil => simp [between] at he
  | @plain torn c t h1 h2 h ih =>
    cases u with
    | nil =>
      have hx := Woven.plain h1 h2 h
      rw [← he] at hx
      exact hhere hx
    | cons d u =>
      obtain ⟨rfl, hrest⟩ := List.cons.inj he
      exact .plain h1 h2 (ih hrest)
  | @escaped torn c t hc h ih =>
    cases u with
    | nil =>
      obtain ⟨rfl, -⟩ := List.cons.inj he
      exact absurd hm (by decide)
    | cons d u =>
      obtain ⟨rfl, hrest⟩ := List.cons.inj he
      cases u with
      | nil =>
        obtain ⟨rfl, -⟩ := List.cons.inj hrest
        rcases hc with rfl | rfl | rfl <;> exact absurd hm (by decide)
      | cons d u =>
        obtain ⟨rfl, hrest'⟩ := List.cons.inj hrest
        exact .escaped hc (ih hrest')
  | @literal torn torn' w' b' t hw' hb' ht ihb iht =>
    rw [fenced_append] at he
    rcases cut_at_separator hnq he with ⟨z, hz, -⟩ | ⟨z, rfl, hz⟩
    · exact absurd hm (not_isQuote_of_mem_tag (by rw [hz]; simp [between]))
    rcases cut_at_separator hnq hz.symm with ⟨z', hz', rfl⟩ | ⟨z', rfl, hz'⟩
    · -- in the body of the literal
      have := Woven.literal hw' (ihb hz'.symm) ht
      rw [fenced_append] at this
      simpa using this
    · -- after its closing backtick
      have hfence : mark ∉ w' ++ [backtick] := by
        intro hmem
        rcases List.mem_append.1 hmem with hmem | hmem
        · exact hm.not_mem_of_isIndent hw' hmem
        · obtain rfl := List.mem_singleton.1 hmem
          exact absurd hm (by decide)
      have hz'' : z' ++ mark :: (token ++ [mark]) ++ v = (w' ++ [backtick]) ++ t := by
        rw [List.append_assoc w', List.singleton_append, hz']
        rfl
      obtain ⟨z'', rfl, ht'⟩ := cut_after_head hfence hz''
      have := Woven.literal hw' hb' (iht (u := z'') (v := v) ht'.symm)
      rw [fenced_append] at this
      simpa using this

end Woven

end JsLiteral.Template
