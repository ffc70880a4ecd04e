import JsLiteral.CommandLine.Markup

/-!
# Markup without tags

Only tags can keep a message from being printed: one that closes what is not open, or one whose
parameters cannot be read. A text without an opening bracket has no tags, and so it is printed.

    '[' ∉ t → all pieces of t are plain      (isPlain_of_mem_pieces)
    '[' ∉ t → render t answers               (isOk_render)
-/

namespace JsLiteral.Markup

/-- A piece that is no tag. -/
def Piece.IsPlain : Piece → Prop
  | .plain _ => True
  | .tag _ => False

theorem isPlain_of_mem_plainPiece {t : Text} {p : Piece} (h : p ∈ plainPiece t) : p.IsPlain := by
  unfold plainPiece at h
  split at h
  · cases h
  · obtain rfl := List.mem_singleton.1 h
    trivial

/-- Without an opening bracket there is no tag. -/
theorem isPlain_of_mem_pieces {t : Text} (h : CodePoint.scalar '[' ∉ t) :
    ∀ {fuel : Nat} {run : Text} {slashes : Nat} {p : Piece},
      p ∈ pieces fuel run slashes t → p.IsPlain := by
  induction t with
  | nil =>
    intro fuel run slashes p hp
    cases fuel with
    | zero => cases hp
    | succ fuel => exact isPlain_of_mem_plainPiece hp
  | cons c t ih =>
    intro fuel run slashes p hp
    rw [List.mem_cons, not_or] at h
    cases fuel with
    | zero => cases hp
    | succ fuel =>
      rw [pieces] at hp
      split at hp
      · exact ih h.2 hp
      · rw [if_neg fun hc => h.1 hc.symm] at hp
        exact ih h.2 hp

theorem printed_of_isPlain {ps : List Piece} (h : ∀ p ∈ ps, p.IsPlain) (opened : List Tag) :
    ∃ t, printed opened ps = .ok t := by
  induction ps with
  | nil => exact ⟨[], rfl⟩
  | cons p ps ih =>
    obtain ⟨t, ht⟩ := ih fun q hq => h q (List.mem_cons_of_mem _ hq)
    cases p with
    | plain u => exact ⟨_, by rw [printed, ht]; rfl⟩
    | tag tag => exact (h _ List.mem_cons_self).elim

theorem readStyle_of_isPlain {ps : List Piece} (h : ∀ p ∈ ps, p.IsPlain) :
    ps.forM readStyle = .ok () := by
  induction ps with
  | nil => rfl
  | cons p ps ih =>
    cases p with
    | plain u => exact ih fun q hq => h q (List.mem_cons_of_mem _ hq)
    | tag tag => exact (h _ List.mem_cons_self).elim

/-- A text without an opening bracket has no tags, and so it can be printed. -/
theorem isOk_render {t : Text} (h : CodePoint.scalar '[' ∉ t) : (render t).isOk = true := by
  have hplain : ∀ p ∈ pieces (t.length + 1) [] 0 t, p.IsPlain := fun p => isPlain_of_mem_pieces h
  obtain ⟨text, htext⟩ := printed_of_isPlain hplain []
  unfold render
  simp only [htext, readStyle_of_isPlain hplain]
  rfl

end JsLiteral.Markup
