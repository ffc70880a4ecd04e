import JsLiteral.Text.Blank
import Mathlib.Data.List.TakeWhile

/-!
# Lines and indentation

How the lines of a text that is put together follow from the lines of its parts, what the
last line of such a text is, and what the indentation of a line is that starts with spaces
and tabs of somebody else's choice.

    lines (a ++ newline :: b) = lines a ++ lines b                   (lines_append_newline)
    lines (unlines ls) = ls                          for lines ls           (lines_unlines)
    lastLine (a ++ b) = lastLine a ++ b        for b without newline    (lastLine_append)
    indentation (w ++ line) = w ++ indentation line    for an indent w    (indentation_append)
-/

namespace JsLiteral.Text

/-! ## Lines -/

theorem lines_ne_nil (t : Text) : lines t ≠ [] := splitBy_ne_nil _ t

theorem exists_lines (t : Text) : ∃ line rest, lines t = line :: rest :=
  List.exists_cons_of_ne_nil (lines_ne_nil t)

theorem lines_of_not_mem {t : Text} (h : newline ∉ t) : lines t = [t] := by
  apply splitBy_of_forall_neg
  intro c hc
  have hne : c ≠ newline := fun e => h (e ▸ hc)
  simpa using hne

/-- A text without line feeds goes onto the first line of what follows it. -/
theorem lines_append {a : Text} (ha : newline ∉ a) {t line : Text} {rest : List Text}
    (ht : lines t = line :: rest) : lines (a ++ t) = (a ++ line) :: rest := by
  induction a with
  | nil => exact ht
  | cons c a ih =>
    have hc : c ≠ newline := fun e => ha (e ▸ List.mem_cons_self)
    exact lines_cons hc (ih fun h => ha (List.mem_cons_of_mem c h))

theorem lines_append_newline (a b : Text) : lines (a ++ newline :: b) = lines a ++ lines b := by
  induction a with
  | nil => rw [List.nil_append, lines_newline, lines_nil]; rfl
  | cons c a ih =>
    by_cases hc : c = newline
    · rw [hc, List.cons_append, lines_newline, lines_newline, ih, List.cons_append]
    · obtain ⟨line, rest, hl⟩ := exists_lines a
      rw [hl] at ih
      rw [lines_cons hc hl, List.cons_append, lines_cons hc ih]
      rfl

/-- A text with `w` put after each of its line feeds. -/
theorem lines_flatMap_newline {w t line : Text} {rest : List Text} (hw : newline ∉ w)
    (ht : lines t = line :: rest) :
    lines (t.flatMap fun c => if c = newline then c :: w else [c]) =
      line :: rest.map (w ++ ·) := by
  induction t generalizing line rest with
  | nil =>
    cases ht
    rfl
  | cons c t ih =>
    obtain ⟨l, ls, hl⟩ := exists_lines t
    rw [List.flatMap_cons]
    by_cases hc : c = newline
    · subst hc
      rw [lines_newline, hl] at ht
      cases ht
      rw [if_pos rfl, List.cons_append, lines_newline, lines_append hw (ih hl), List.map_cons]
    · rw [lines_cons hc hl] at ht
      cases ht
      rw [if_neg hc, List.singleton_append, lines_cons hc (ih hl)]

/-- The lines of a text hold no line feed. -/
theorem newline_not_mem_of_mem_lines {t line : Text} (h : line ∈ lines t) : newline ∉ line := by
  induction t generalizing line with
  | nil =>
    obtain rfl := List.mem_singleton.1 h
    exact List.not_mem_nil
  | cons c t ih =>
    obtain ⟨l, ls, hl⟩ := exists_lines t
    by_cases hc : c = newline
    · subst hc
      rw [lines_newline] at h
      rcases List.mem_cons.1 h with rfl | h
      · exact List.not_mem_nil
      · exact ih h
    · rw [lines_cons hc hl] at h
      rcases List.mem_cons.1 h with rfl | h
      · intro hmem
        rcases List.mem_cons.1 hmem with he | hmem
        · exact hc he.symm
        · exact ih (hl ▸ List.mem_cons_self) hmem
      · exact ih (hl ▸ List.mem_cons_of_mem _ h)

/-- Lines that are put together are told apart again. -/
theorem lines_unlines {ls : List Text} (hne : ls ≠ []) (h : ∀ line ∈ ls, newline ∉ line) :
    lines (unlines ls) = ls := by
  induction ls with
  | nil => exact absurd rfl hne
  | cons line rest ih =>
    have hline := h line List.mem_cons_self
    cases rest with
    | nil =>
      rw [unlines, join, List.flatMap_nil, List.append_nil]
      exact lines_of_not_mem hline
    | cons next rest =>
      have hrest := ih (List.cons_ne_nil _ _) fun l hl => h l (List.mem_cons_of_mem _ hl)
      have he : unlines (line :: next :: rest) = line ++ newline :: unlines (next :: rest) := by
        simp [unlines, join]
      rw [he, lines_append_newline, hrest, lines_of_not_mem hline]
      rfl

/-! ## The last line -/

theorem lastLine_of_not_mem {t : Text} (h : newline ∉ t) : lastLine t = t := by
  have hall : t.reverse.takeWhile (· ≠ newline) = t.reverse := by
    rw [List.takeWhile_eq_self_iff]
    intro c hc
    have hne : c ≠ newline := fun e => h (e ▸ List.mem_reverse.1 hc)
    simpa using hne
  rw [lastLine, hall, List.reverse_reverse]

/-- Only what stands after the last line feed counts. -/
theorem lastLine_append_newline (a b : Text) : lastLine (a ++ newline :: b) = lastLine b := by
  have h : (a ++ newline :: b).reverse = b.reverse ++ newline :: a.reverse := by simp
  rw [lastLine, lastLine, h, List.takeWhile_append]
  split
  · rename_i hlen
    have hall : b.reverse.takeWhile (· ≠ newline) = b.reverse :=
      (List.takeWhile_prefix _).eq_of_length hlen
    rw [hall, List.takeWhile_cons_of_neg (by simp), List.append_nil]
  · rfl

theorem lastLine_append {b : Text} (hb : newline ∉ b) (a : Text) :
    lastLine (a ++ b) = lastLine a ++ b := by
  have hall : b.reverse.takeWhile (· ≠ newline) = b.reverse := by
    rw [List.takeWhile_eq_self_iff]
    intro c hc
    have hne : c ≠ newline := fun e => hb (e ▸ List.mem_reverse.1 hc)
    simpa using hne
  rw [lastLine, List.reverse_append, List.takeWhile_append, hall, if_pos rfl,
    List.reverse_append, List.reverse_reverse, lastLine]

/-! ## Indentation -/

/-- Holds nothing but spaces and tabs. -/
def IsIndent (w : Text) : Prop := ∀ c ∈ w, c.isIndent = true

theorem IsIndent.append {v w : Text} (hv : IsIndent v) (hw : IsIndent w) : IsIndent (v ++ w) := by
  intro c hc
  rcases List.mem_append.1 hc with hc | hc
  · exact hv c hc
  · exact hw c hc

theorem IsIndent.newline_not_mem {w : Text} (hw : IsIndent w) : newline ∉ w := by
  intro h
  have := hw _ h
  revert this
  decide

/-- An indent is a blank line. -/
theorem IsIndent.isBlankLine {w : Text} (hw : IsIndent w) : w.isBlankLine = true :=
  List.all_eq_true.2 fun c hc => CodePoint.isBlank_of_isIndent (hw c hc)

theorem isIndent_indentation (line : Text) : IsIndent line.indentation :=
  fun _ hc => List.mem_takeWhile_imp hc

theorem indentation_append {w : Text} (hw : IsIndent w) (line : Text) :
    (w ++ line).indentation = w ++ line.indentation :=
  List.takeWhile_append_of_pos hw

/-- The indentation ends where something else than a space or a tab comes. -/
theorem indentation_append_cons {c : CodePoint} (hc : c.isIndent = false) (a b : Text) :
    (a ++ c :: b).indentation = a.indentation := by
  unfold indentation
  rw [List.takeWhile_append]
  split
  · rename_i hlen
    rw [List.takeWhile_cons_of_neg (by simp [hc]), List.append_nil]
    exact ((List.takeWhile_prefix _).eq_of_length hlen).symm
  · rfl

theorem isBlankLine_append {w : Text} (hw : IsIndent w) (line : Text) :
    (w ++ line).isBlankLine = line.isBlankLine := by
  have h : w.all CodePoint.isBlank = true := hw.isBlankLine
  rw [isBlankLine, List.all_append, h, Bool.true_and, isBlankLine]

end JsLiteral.Text
