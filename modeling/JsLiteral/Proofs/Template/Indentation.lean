import JsLiteral.Proofs.Template.Reading
import Mathlib.Data.List.Forall2

/-!
# Indentation that all lines share

Removing indentation does not see how far a body stands from the margin. Between a blank first and
a blank last line the indentation that is shared grows by what is put before every line, and each
line is cut by as much more. Which lines are blank is decided by all blanks, indentation is spaces
and tabs only, so a line of other blanks is cut like a blank one and has no say in the width.

    lines (w ++ replace [newline] (newline :: w) s) = (lines s).map (w ++ ·)
                                                                  (lines_append_replace_newline)
    sharedIndent? (ls.map (w ++ ·)) = (sharedIndent? ls).map (w.length + ·)
                                                                         (sharedIndent?_shifted)
    cut (w.length + k) (w ++ line) = cut k line                                    (cut_shifted)
-/

namespace JsLiteral.Template

open Text

/-! ## Lines under an indent -/

/-- A text with `w` put before each of its lines. -/
theorem lines_append_replace_newline {w : Text} (hw : newline ∉ w) (s : Text) :
    lines (w ++ replace [newline] (newline :: w) s) = (lines s).map (w ++ ·) := by
  obtain ⟨line, rest, hl⟩ := exists_lines s
  rw [← flatMap_newline_eq_replace, lines_append hw (lines_flatMap_newline hw hl), hl,
    List.map_cons]

/-- Under a common indent the shared indentation is that indent and what was shared before. -/
theorem sharedIndent?_shifted {w : Text} (hw : IsIndent w) (ls : List Text) :
    sharedIndent? (ls.map (w ++ ·)) = (sharedIndent? ls).map (w.length + ·) := by
  have hwidths : ∀ ls : List Text,
      ((ls.map (w ++ ·)).filter fun line => !line.isBlankLine).map
          (fun line => line.indentation.length) =
        ((ls.filter fun line => !line.isBlankLine).map
          fun line => line.indentation.length).map (w.length + ·) := by
    intro ls
    rw [List.filter_map, List.map_map, List.map_map]
    have hblank : ((fun line => !Text.isBlankLine line) ∘ (w ++ ·)) =
        fun line => !Text.isBlankLine line := by
      funext line
      exact congrArg (!·) (isBlankLine_append hw line)
    rw [hblank]
    refine List.map_congr_left fun line _ => ?_
    show (w ++ line).indentation.length = w.length + line.indentation.length
    rw [indentation_append hw, List.length_append]
  unfold sharedIndent?
  rw [hwidths]
  generalize (ls.filter fun line => !line.isBlankLine).map (fun line => line.indentation.length) =
    ns
  cases hmin : ns.min? with
  | none =>
    rw [List.min?_eq_none_iff.1 hmin]
    rfl
  | some n =>
    obtain ⟨hmem, hle⟩ := List.min?_eq_some_iff.1 hmin
    rw [List.min?_eq_some_iff.2 ⟨List.mem_map_of_mem hmem, fun m hm => ?_⟩]
    · rfl
    · obtain ⟨n', hn', rfl⟩ := List.mem_map.1 hm
      exact Nat.add_le_add_left (hle n' hn') _

/-- What is put before a line is cut from it again. -/
theorem cut_shifted {w : Text} (hw : IsIndent w) (k : Nat) (line : Text) :
    cut (w.length + k) (w ++ line) = cut k line := by
  rw [cut, cut, indentation_append hw, List.length_append, Nat.add_min_add_left, List.drop_append]
  simp

/-! ## What a line loses -/

/-- What is left of a line that loses spaces and tabs at its start: `width` of them if there is
text on it, and at most so many, as it has them, if it is blank. -/
inductive Loses (width : Nat) : Text → Text → Prop
  | text {lead rest : Text} : IsIndent lead → lead.length = width → rest.isBlankLine = false →
    Loses width (lead ++ rest) rest
  | blank {lead rest : Text} : IsIndent lead →
    lead.length = min width (lead ++ rest).indentation.length → rest.isBlankLine = true →
    Loses width (lead ++ rest) rest

theorem exists_sharedIndent {ls : List Text} (h : ∃ line ∈ ls, line.isBlankLine = false) :
    ∃ width, sharedIndent? ls = some width := by
  obtain ⟨line, hline, hblank⟩ := h
  cases hshared : sharedIndent? ls with
  | some width => exact ⟨width, rfl⟩
  | none =>
    have hnil := List.min?_eq_none_iff.1 hshared
    have hmem : line ∈ ls.filter fun line => !line.isBlankLine :=
      List.mem_filter.2 ⟨hline, by rw [hblank]; rfl⟩
    rw [List.map_eq_nil_iff.1 hnil] at hmem
    cases hmem

/-- The shared indentation is that of some line with text, and all of these have as much. -/
theorem of_sharedIndent {ls : List Text} {width : Nat} (h : sharedIndent? ls = some width) :
    (∃ line ∈ ls, line.isBlankLine = false ∧ line.indentation.length = width) ∧
      ∀ line ∈ ls, line.isBlankLine = false → width ≤ line.indentation.length := by
  obtain ⟨hmem, hle⟩ := List.min?_eq_some_iff.1 h
  constructor
  · obtain ⟨line, hline, hwidth⟩ := List.mem_map.1 hmem
    obtain ⟨hline, hblank⟩ := List.mem_filter.1 hline
    exact ⟨line, hline, by simpa using hblank, hwidth⟩
  · intro line hline hblank
    exact hle _ (List.mem_map.2 ⟨line, List.mem_filter.2 ⟨hline, by rw [hblank]; rfl⟩, rfl⟩)

/-- A cut takes spaces and tabs only. -/
theorem exists_lead (width : Nat) (line : Text) : ∃ lead, IsIndent lead ∧
    lead.length = min width line.indentation.length ∧ line = lead ++ cut width line := by
  have hprefix : line.indentation <+: line := List.takeWhile_prefix _
  have hle := hprefix.length_le
  refine ⟨line.take (min width line.indentation.length), fun c hc => ?_, ?_, ?_⟩
  · have htake : line.take (min width line.indentation.length) <+: line.indentation :=
      List.prefix_of_prefix_length_le (List.take_prefix _ _) hprefix
        ((List.length_take_le _ _).trans (Nat.min_le_right _ _))
    exact isIndent_indentation line c (htake.subset hc)
  · rw [List.length_take]
    omega
  · exact (List.take_append_drop _ _).symm

/-- A line with text that loses all its indentation starts with neither a space nor a tab. -/
theorem exists_cons_cut {width : Nat} {line : Text} (htext : line.isBlankLine = false)
    (hwidth : line.indentation.length = width) :
    ∃ c t, cut width line = c :: t ∧ c.isIndent = false := by
  have hsplit : line.indentation ++ line.dropWhile CodePoint.isIndent = line :=
    List.takeWhile_append_dropWhile
  have hcut : cut width line = line.dropWhile CodePoint.isIndent :=
    calc cut width line = (line.indentation ++ line.dropWhile CodePoint.isIndent).drop
          line.indentation.length := by rw [cut, hwidth, Nat.min_self, ← hwidth, hsplit]
      _ = line.dropWhile CodePoint.isIndent := List.drop_left
  rw [hcut]
  cases hdrop : line.dropWhile CodePoint.isIndent with
  | nil =>
    have hindent : IsIndent line := List.dropWhile_eq_nil_iff.1 hdrop
    rw [hindent.isBlankLine] at htext
    cases htext
  | cons c t =>
    have hc := List.head?_dropWhile_not CodePoint.isIndent line
    rw [hdrop] at hc
    exact ⟨c, t, rfl, by simpa using hc⟩

theorem loses_cut {width : Nat} {line : Text}
    (h : line.isBlankLine = false → width ≤ line.indentation.length) :
    Loses width line (cut width line) := by
  obtain ⟨lead, hlead, hlen, hline⟩ := exists_lead width line
  have hblank : line.isBlankLine = (cut width line).isBlankLine := by
    conv => lhs; rw [hline]
    exact isBlankLine_append hlead _
  cases hb : line.isBlankLine with
  | false =>
    rw [Nat.min_eq_left (h hb)] at hlen
    have := Loses.text hlead hlen (hblank.symm.trans hb)
    rwa [← hline] at this
  | true =>
    rw [hline] at hlen
    have := Loses.blank hlead hlen (hblank.symm.trans hb)
    rwa [← hline] at this

/-! ## Bodies between blank lines -/

/-- What is left of a body whose first and last lines are blank. -/
theorem dedent_between {body first last : Text} {ls : List Text} {width : Nat}
    (hbody : lines body = first :: (ls ++ [last])) (hfirst : first.isBlankLine = true)
    (hlast : last.isBlankLine = true) (hwidth : sharedIndent? ls = some width) :
    dedent body = unlines (ls.map (cut width)) := by
  rw [dedent, hbody, dropBlank_between hfirst hlast]
  simp only [hwidth]

/-- **Uniform indentation is not seen.** Between a blank first and a blank last line a text with
some line that is not blank comes out as it does without an indent before its lines and without
one on the last line. Line by line it loses one width of spaces and tabs, blank lines as many as
they have, and then some line with text starts with neither. -/
theorem dedent_shifted {s w w' : Text} (hw : IsIndent w) (hw' : IsIndent w')
    (hs : ∃ line ∈ lines s, line.isBlankLine = false) :
    dedent (newline :: (w ++ replace [newline] (newline :: w) s ++ newline :: w')) =
        dedent (newline :: (s ++ [newline])) ∧
      ∃ width,
        List.Forall₂ (Loses width) (lines s) (lines (dedent (newline :: (s ++ [newline])))) ∧
        ∃ c t, c :: t ∈ lines (dedent (newline :: (s ++ [newline]))) ∧
          Text.isBlankLine (c :: t) = false ∧ c.isIndent = false := by
  obtain ⟨width, hwidth⟩ := exists_sharedIndent hs
  obtain ⟨⟨line, hline, htext, hleast⟩, hall⟩ := of_sharedIndent hwidth
  have hblank : Text.isBlankLine [] = true := rfl
  -- the body as it is, and the body under the indent
  have hplain : lines (newline :: (s ++ [newline])) = [] :: (lines s ++ [[]]) := by
    rw [lines_newline, lines_append_newline, lines_nil]
  have hshifted : lines (newline :: (w ++ replace [newline] (newline :: w) s ++ newline :: w')) =
      [] :: ((lines s).map (w ++ ·) ++ [w']) := by
    rw [lines_newline, lines_append_newline, lines_append_replace_newline hw.newline_not_mem,
      lines_of_not_mem hw'.newline_not_mem]
  have hdedent := dedent_between hplain hblank hblank hwidth
  have hlines : lines (dedent (newline :: (s ++ [newline]))) = (lines s).map (cut width) := by
    rw [hdedent]
    refine lines_unlines (fun h => lines_ne_nil s (List.map_eq_nil_iff.1 h)) fun l hl => ?_
    obtain ⟨l', hl', rfl⟩ := List.mem_map.1 hl
    exact fun h => newline_not_mem_of_mem_lines hl' (List.mem_of_mem_drop h)
  have hwider : sharedIndent? ((lines s).map (w ++ ·)) = some (w.length + width) := by
    rw [sharedIndent?_shifted hw, hwidth]
    rfl
  refine ⟨?_, width, ?_, ?_⟩
  · rw [hdedent, dedent_between hshifted hblank hw'.isBlankLine hwider, List.map_map]
    exact congrArg unlines (List.map_congr_left fun l _ => cut_shifted hw width l)
  · rw [hlines, List.forall₂_map_right_iff, List.forall₂_same]
    exact fun l hl => loses_cut (hall l hl)
  · obtain ⟨c, t, hcut, hc⟩ := exists_cons_cut htext hleast
    refine ⟨c, t, ?_, ?_, hc⟩
    · rw [hlines, ← hcut]
      exact List.mem_map_of_mem hline
    · obtain ⟨lead, hlead, -, hl⟩ := exists_lead width line
      rw [← hcut, ← isBlankLine_append hlead, ← hl, htext]

/-- Blank first and last lines, a deeper line, tabs and spaces, and two lines of blanks that no
indentation counts: a no-break space after a tab and a space, and a vertical tab. -/
def unevenLines : Text := "\n\t \u00a0\n \t  x\n\x0b \n\t\ty\n"

theorem dedent_shifted_unevenLines :
    (IsIndent "\t " ∧ IsIndent "   " ∧ ∃ line ∈ lines unevenLines, line.isBlankLine = false) ∧
      dedent "\n\t \n\t \t \u00a0\n\t  \t  x\n\t \x0b \n\t \t\ty\n\t \n   " =
        ("\n\u00a0\n  x\n\x0b \ny\n" : Text) := by
  have hw : IsIndent "\t " := by
    unfold IsIndent
    decide
  have hw' : IsIndent "   " := by
    unfold IsIndent
    decide
  have hs : ∃ line ∈ lines unevenLines, line.isBlankLine = false := by decide
  exact ⟨⟨hw, hw', hs⟩, (dedent_shifted hw hw' hs).1.trans (by decide)⟩

end JsLiteral.Template
