import JsLiteral.Proofs.Placeholder.Tokens
import JsLiteral.Proofs.Template.RoundTrip

/-!
# Quoted tokens and literals

A template literal has a line feed after its first backtick and one before its last, and
no quotes around these. So a quoted token that stands in code with a literal stands before
the literal, after it, or inside one line of its text.

    x ++ q ++ y = a ++ literal ++ b  →  q lies in a, or in b     unless q stands in the
                                                                 escaped text (cut_literal)
-/

namespace JsLiteral.Placeholder

open Text Template

/-! ## Tokens in moved lines -/

/-- A text on one line that starts the moved lines starts the lines. -/
theorem exists_of_reindent_prefix {indent p y t : Text} (hp : newline ∉ p)
    (h : reindent indent t = p ++ y) : ∃ z, t = p ++ z := by
  induction t generalizing p y with
  | nil =>
    rw [List.append_eq_nil_iff.1 h.symm |>.1]
    exact ⟨[], rfl⟩
  | cons c t ih =>
    cases p with
    | nil => exact ⟨c :: t, rfl⟩
    | cons d p =>
      by_cases hc : c = newline
      · rw [hc, reindent_cons_newline] at h
        exact absurd ((List.cons.inj h).1 ▸ List.mem_cons_self) hp
      · rw [reindent_cons hc] at h
        obtain ⟨rfl, ht⟩ := List.cons.inj h
        obtain ⟨z, rfl⟩ := ih (fun hm => hp (List.mem_cons_of_mem _ hm)) ht
        exact ⟨z, rfl⟩

/-- A text on one line that starts with no space or tab and occurs in the moved lines occurs
in the lines. -/
theorem exists_of_reindent {indent p x y t : Text} {m : CodePoint} (hi : IsIndent indent)
    (hm : m.isIndent = false) (hp : newline ∉ m :: p) (h : reindent indent t = x ++ m :: p ++ y) :
    ∃ u v, t = u ++ m :: p ++ v := by
  have hstart : ∀ {t : Text}, reindent indent t = m :: p ++ y → ∃ u v, t = u ++ m :: p ++ v := by
    intro t ht
    obtain ⟨z, hz⟩ := exists_of_reindent_prefix hp ht
    exact ⟨[], z, hz⟩
  have hmem : m ∉ indent ++ step := by
    intro hmem
    have := hi.append isIndent_step m hmem
    rw [hm] at this
    cases this
  induction t generalizing x with
  | nil => simp [reindent] at h
  | cons c t ih =>
    cases x with
    | nil => exact hstart h
    | cons d x =>
      by_cases hc : c = newline
      · rw [hc, reindent_cons_newline] at h
        obtain ⟨-, h⟩ := List.cons.inj h
        obtain ⟨z, -, hz⟩ := cut_after_head hmem h.symm
        obtain ⟨u, v, rfl⟩ := ih hz
        exact ⟨c :: u, v, rfl⟩
      · rw [reindent_cons hc] at h
        obtain ⟨-, h⟩ := List.cons.inj h
        obtain ⟨u, v, rfl⟩ := ih h
        exact ⟨c :: u, v, rfl⟩

/-! ## Tokens in escaped texts -/

theorem escape_cons {c : CodePoint} (hc : c ≠ '$') (t : Text) :
    escape (c :: t) =
      if c = '\\' ∨ c = backtick then CodePoint.scalar '\\' :: c :: escape t
      else c :: escape t := by
  rw [escape]
  rintro u rfl
  exact absurd rfl hc

/-- A code point is escaped by a backslash before it, or not. -/
theorem exists_escape_cons (c : CodePoint) (t : Text) :
    ∃ s : Text, (s = [] ∨ s = [CodePoint.scalar '\\']) ∧ escape (c :: t) = s ++ c :: escape t := by
  by_cases hc : c = '$'
  · subst hc
    by_cases ht : ∃ u, t = CodePoint.scalar '\x7b' :: u
    · obtain ⟨u, rfl⟩ := ht
      refine ⟨[.scalar '\\'], Or.inr rfl, ?_⟩
      have hbrace : CodePoint.scalar '\x7b' ≠ '$' := by decide
      rw [escape, escape_cons hbrace, if_neg (by decide)]
      rfl
    · refine ⟨[], Or.inl rfl, ?_⟩
      rw [escape, if_neg (by decide)]
      · rfl
      · rintro u - rfl
        exact ht ⟨u, rfl⟩
  · rw [escape_cons hc]
    split
    · exact ⟨[.scalar '\\'], Or.inr rfl, rfl⟩
    · exact ⟨[], Or.inl rfl, rfl⟩

theorem exists_of_escape_prefix {p y t : Text} (hp : CodePoint.scalar '\\' ∉ p)
    (h : escape t = p ++ y) : ∃ z, t = p ++ z := by
  induction t generalizing p y with
  | nil =>
    rw [List.append_eq_nil_iff.1 h.symm |>.1]
    exact ⟨[], rfl⟩
  | cons c t ih =>
    cases p with
    | nil => exact ⟨c :: t, rfl⟩
    | cons d p =>
      obtain ⟨s, rfl | rfl, hs⟩ := exists_escape_cons c t
      · obtain ⟨rfl, ht⟩ := List.cons.inj (hs.symm.trans h)
        obtain ⟨z, rfl⟩ := ih (fun hm => hp (List.mem_cons_of_mem _ hm)) ht
        exact ⟨z, rfl⟩
      · exact absurd ((List.cons.inj (hs.symm.trans h)).1 ▸ List.mem_cons_self) hp

/-- Escaping only adds backslashes: a text without any that occurs in the escaped text occurs
in the text. -/
theorem exists_of_escape {m : CodePoint} {p x y t : Text} (hp : CodePoint.scalar '\\' ∉ m :: p)
    (h : escape t = x ++ m :: p ++ y) : ∃ u v, t = u ++ m :: p ++ v := by
  induction t generalizing x with
  | nil => simp [escape] at h
  | cons c t ih =>
    -- the occurrence starts at `c` itself or after it
    have hrest : ∀ {x : Text}, c :: escape t = x ++ m :: p ++ y →
        ∃ u v, c :: t = u ++ m :: p ++ v := by
      intro x hx
      cases x with
      | nil =>
        obtain ⟨rfl, ht⟩ := List.cons.inj hx
        obtain ⟨z, rfl⟩ := exists_of_escape_prefix (fun hm => hp (List.mem_cons_of_mem _ hm)) ht
        exact ⟨[], z, rfl⟩
      | cons d x =>
        obtain ⟨u, v, rfl⟩ := ih (List.cons.inj hx).2
        exact ⟨c :: u, v, rfl⟩
    obtain ⟨s, rfl | rfl, hs⟩ := exists_escape_cons c t
    · exact hrest (hs.symm.trans h)
    · cases x with
      | nil => exact absurd ((List.cons.inj (hs.symm.trans h)).1 ▸ List.mem_cons_self) hp
      | cons d x => exact hrest (List.cons.inj (hs.symm.trans h)).2

/-! ## Tokens around a literal -/

/-- No quoted token of the text starts in the literal or ends in it, unless it stands in the
literal's own text. -/
theorem cut_literal {opening closing indent t token q x y a b : Text} (hq : IsQuoted token q)
    (hn : newline ∉ token) (ho : ∀ c ∈ opening, ¬ IsQuote c) (hc : ∀ c ∈ closing, ¬ IsQuote c)
    (hi : IsIndent indent) (hfree : ∀ u v, escape t ≠ u ++ q ++ v)
    (h : x ++ q ++ y = a ++ literal opening closing indent t ++ b) :
    (∃ z, a = x ++ q ++ z ∧ y = z ++ literal opening closing indent t ++ b) ∨
      ∃ z, x = a ++ literal opening closing indent t ++ z ∧ b = z ++ q ++ y := by
  have hnq : newline ∉ q := by
    refine hq.not_mem hn ?_
    rintro (h | h) <;> exact absurd h (by decide)
  obtain ⟨mark, hmark, rfl⟩ := hq
  have hlit : a ++ literal opening closing indent t ++ b =
      (a ++ (opening ++ [backtick])) ++ newline :: ((indent ++ step ++ reindent indent (escape t))
        ++ newline :: ((indent ++ backtick :: closing) ++ b)) := by
    simp [literal_eq]
  rw [hlit] at h
  rcases cut_at_separator hnq h with ⟨z, h1, h2⟩ | ⟨z, h1, h2⟩
  · -- before the first line feed: quotes stand in the code before the literal only
    have hm : mark ∉ opening ++ [backtick] := by
      intro hm
      rcases List.mem_append.1 hm with hm | hm
      · exact ho mark hm hmark
      · obtain rfl := List.mem_singleton.1 hm
        rcases hmark with h | h <;> exact absurd h (by decide)
    obtain ⟨u, hu, rfl⟩ := cut_before_tail (p := mark :: token) hm h1.symm
    exact Or.inl ⟨u, hu, by rw [h2]; simp [literal_eq]⟩
  · rcases cut_at_separator hnq h2.symm with ⟨v, h3, -⟩ | ⟨v, h3, h4⟩
    · -- in the lines of the text
      exfalso
      have hm : mark ∉ indent ++ step := hmark.not_mem_of_isIndent (hi.append isIndent_step)
      obtain ⟨u, -, hu⟩ := cut_after_head hm h3.symm
      obtain ⟨u', v', he⟩ := exists_of_reindent hi hmark.isIndent_eq_false hnq hu
      exact hfree u' v' he
    · -- after the last line feed: quotes stand in the code after the literal only
      have hm : mark ∉ indent ++ backtick :: closing := by
        intro hm
        rcases List.mem_append.1 hm with hm | hm
        · exact hmark.not_mem_of_isIndent hi hm
        rcases List.mem_cons.1 hm with rfl | hm
        · rcases hmark with h | h <;> exact absurd h (by decide)
        · exact hc mark hm hmark
      obtain ⟨u, hu, hb⟩ := cut_after_head hm h4.symm
      exact Or.inr ⟨u, by rw [h1, h3, hu]; simp [literal_eq], hb⟩

/-- The indentation of the line that a literal ends on is the one of the line it starts on. -/
theorem indentation_lastLine_literal {opening closing indent q a b t : Text} {c : CodePoint}
    (hcn : newline ∉ closing) (hi : indent = indentation (lastLine a)) (hc : c.isIndent = false)
    (hq : newline ∉ c :: q) :
    indentation (lastLine (a ++ literal opening closing indent t ++ b)) =
      indentation (lastLine (a ++ c :: q ++ b)) := by
  have hw : IsIndent indent := hi ▸ isIndent_indentation _
  have hlit : a ++ literal opening closing indent t ++ b =
      (a ++ opening ++ backtick :: newline :: (indent ++ step ++ reindent indent (escape t)))
        ++ newline :: ((indent ++ backtick :: closing) ++ b) := by
    simp [literal_eq]
  by_cases hb : newline ∈ b
  · obtain ⟨u, v, rfl⟩ := List.append_of_mem hb
    have h1 : a ++ literal opening closing indent t ++ (u ++ newline :: v) =
        (a ++ literal opening closing indent t ++ u) ++ newline :: v := by simp
    have h2 : a ++ c :: q ++ (u ++ newline :: v) = (a ++ c :: q ++ u) ++ newline :: v := by simp
    rw [h1, h2, lastLine_append_newline, lastLine_append_newline]
  · have hend : newline ∉ (indent ++ backtick :: closing) ++ b := by
      intro h
      rcases List.mem_append.1 h with h | h
      · rcases List.mem_append.1 h with h | h
        · exact hw.newline_not_mem h
        rcases List.mem_cons.1 h with h | h
        · exact absurd h (by decide)
        · exact hcn h
      · exact hb h
    have hqb : newline ∉ c :: q ++ b := by
      intro h
      rcases List.mem_append.1 h with h | h
      · exact hq h
      · exact hb h
    rw [hlit, lastLine_append_newline, lastLine_of_not_mem hend, List.append_assoc,
      List.append_assoc, List.cons_append, indentation_append_cons (by decide),
      lastLine_append hqb, List.cons_append, indentation_append_cons hc, ← hi]
    have := indentation_append hw []
    rwa [List.append_nil, show indentation [] = [] from rfl, List.append_nil] at this

end JsLiteral.Placeholder
