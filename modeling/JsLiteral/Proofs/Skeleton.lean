import JsLiteral.Proofs.Evaluation
import JsLiteral.Proofs.Json.Printing
import JsLiteral.Proofs.Json.Reading
import JsLiteral.Proofs.Placeholder.Arrangement
import JsLiteral.Proofs.Text.Count

/-!
# Skeletons

Printed pieces as gaps with tokens between them. A marker that is counted as often as there
are tokens stands in no gap. The gaps are those of the document too: with each text's own
literal between them they evaluate to it, and with a torn body somewhere between them they
evaluate to nothing.

    emit (quotedToken marker) n ps = (gaps ps).1 ++ weave marker (tokens n (gaps ps).2)
    resolve .code ((gaps ps).1 ++ weave marker segs) = some (written ps)     if all own their texts
-/

namespace JsLiteral.Skeleton

open Text Template Json Placeholder Evaluation

/-! ## Gaps -/

/-- The text of pieces before the first hole, and after each hole up to the next one. -/
def gaps : List Piece → Text × List Text
  | [] => ([], [])
  | .plain t :: ps => (t ++ (gaps ps).1, (gaps ps).2)
  | .quoted t :: ps => (quote t ++ (gaps ps).1, (gaps ps).2)
  | .hole _ :: ps => ([], (gaps ps).1 :: (gaps ps).2)

theorem length_gaps (ps : List Piece) : (gaps ps).2.length = (holes ps).length := by
  induction ps with
  | nil => rfl
  | cons p ps ih =>
    cases p with
    | plain t => exact ih
    | quoted t => exact ih
    | hole t => exact congrArg (· + 1) ih

section

variable {marker : Text}

/-- A skeleton is its gaps and tokens. -/
theorem emit_quotedToken (hv : IsVerbatim marker) (n : Nat) (ps : List Piece) :
    emit (quotedToken marker) n ps = (gaps ps).1 ++ weave marker (tokens n (gaps ps).2) := by
  induction ps generalizing n with
  | nil => rfl
  | cons p ps ih =>
    cases p with
    | plain t => rw [emit, gaps, ih, List.append_assoc]
    | quoted t => rw [emit, gaps, ih, List.append_assoc]
    | hole t => rw [emit, gaps, ih, quotedToken, hv.quote_token]; rfl

/-- What stands after the last gap of an arrangement. -/
theorem exists_unclosed (closing : Text) {ps : List Piece} {segs : List (Fill × Text)}
    (h : segs.map Prod.snd = (gaps (ps ++ [.plain closing])).2) :
    ∃ segs', segs'.map Prod.fst = segs.map Prod.fst ∧ segs'.map Prod.snd = (gaps ps).2 ∧
      (gaps (ps ++ [.plain closing])).1 ++ weave marker segs =
        (gaps ps).1 ++ weave marker segs' ++ closing := by
  induction ps generalizing segs with
  | nil =>
    obtain rfl := List.map_eq_nil_iff.1 h
    exact ⟨[], rfl, rfl, by simp [gaps, weave]⟩
  | cons p ps ih =>
    cases p with
    | plain t =>
      obtain ⟨segs', hfst, hsnd, he⟩ := ih h
      refine ⟨segs', hfst, hsnd, ?_⟩
      rw [List.cons_append, gaps, gaps, List.append_assoc, he]
      simp
    | quoted t =>
      obtain ⟨segs', hfst, hsnd, he⟩ := ih h
      refine ⟨segs', hfst, hsnd, ?_⟩
      rw [List.cons_append, gaps, gaps, List.append_assoc, he]
      simp
    | hole t =>
      obtain ⟨⟨fill, gap⟩, rest, rfl, hgap, hrest⟩ := List.map_eq_cons_iff.1 h
      obtain ⟨segs', hfst, hsnd, he⟩ := ih hrest
      refine ⟨(fill, (gaps ps).1) :: segs', congrArg (fill :: ·) hfst,
        congrArg ((gaps ps).1 :: ·) hsnd, ?_⟩
      have hgap : gap = (gaps (ps ++ [.plain closing])).1 := hgap
      rw [List.cons_append, gaps, gaps, weave, weave, hgap, he]
      simp

/-! ## Counting markers -/

theorem count_weave_tokens (hv : IsVerbatim marker) (a gap : Text) (gs : List Text) (k : Nat) :
    count marker (a ++ weave marker (tokens k (gap :: gs))) =
      count marker a + (count marker (Text.ofNat k) + 1) +
        count marker (gap ++ weave marker (tokens (k + 1) gs)) := by
  have he : a ++ weave marker (tokens k (gap :: gs)) = a ++ CodePoint.scalar '"' ::
      ((marker ++ Text.ofNat k) ++ CodePoint.scalar '"' ::
        (gap ++ weave marker (tokens (k + 1) gs))) := by
    simp [tokens, weave, Fill.text, between, token]
  rw [he, count_append_cons hv.ne_nil hv.quote_not_mem,
    count_append_cons hv.ne_nil hv.quote_not_mem, count_append_self hv.ne_nil]
  omega

theorem length_le_count (hv : IsVerbatim marker) (a : Text) (gs : List Text) (k : Nat) :
    gs.length ≤ count marker (a ++ weave marker (tokens k gs)) := by
  induction gs generalizing a k with
  | nil => exact Nat.zero_le _
  | cons gap gs ih =>
    have := ih gap (k + 1)
    rw [count_weave_tokens hv, List.length_cons]
    omega

/-- A marker that is counted once for each token stands in no gap. -/
theorem arranged_of_count_le (hv : IsVerbatim marker) {a : Text} {gs : List Text} {k : Nat}
    (h : count marker (a ++ weave marker (tokens k gs)) ≤ gs.length) :
    Arranged marker a (tokens k gs) := by
  have hnone : ∀ {a : Text} {gs : List Text} {k : Nat},
      count marker (a ++ weave marker (tokens k gs)) ≤ gs.length →
        count marker a = 0 ∧ ∀ s ∈ tokens k gs, count marker s.2 = 0 := by
    intro a gs k h
    induction gs generalizing a k with
    | nil =>
      rw [tokens, weave, List.append_nil] at h
      exact ⟨Nat.le_zero.1 h, fun s hs => absurd hs List.not_mem_nil⟩
    | cons gap gs ih =>
      have hle := length_le_count hv gap gs (k + 1)
      rw [count_weave_tokens hv, List.length_cons] at h
      obtain ⟨hgap, hgs⟩ := ih (a := gap) (k := k + 1) (by omega)
      refine ⟨by omega, fun s hs => ?_⟩
      rcases List.mem_cons.1 hs with rfl | hs
      · exact hgap
      · exact hgs s hs
  obtain ⟨ha, hgs⟩ := hnone h
  refine ⟨(count_eq_zero_iff hv.ne_nil).1 ha,
    fun s hs => (count_eq_zero_iff hv.ne_nil).1 (hgs s hs), fun w b g hm => ?_⟩
  obtain ⟨i, hi, -⟩ := mem_tokens hm
  cases hi

/-! ## Evaluating gaps -/

/-- What a word of a tag cannot follow. -/
theorem head?_weave {ps : List Piece} (hp : ∀ p ∈ ps, IsPlainPiece p) {segs : List (Fill × Text)}
    (h : segs.map Prod.snd = (gaps ps).2) :
    ((gaps ps).1 ++ weave marker segs).head? ≠ some 'd' := by
  induction ps generalizing segs with
  | nil =>
    obtain rfl := List.map_eq_nil_iff.1 h
    exact (by decide : (none : Option CodePoint) ≠ some 'd')
  | cons p ps ih =>
    have hp' : ∀ p ∈ ps, IsPlainPiece p := fun q hq => hp q (List.mem_cons_of_mem _ hq)
    cases p with
    | plain t =>
      have ht : ∀ c ∈ t, isPlain c = true := hp _ List.mem_cons_self
      cases t with
      | nil => exact ih hp' h
      | cons c t =>
        intro he
        exact ne_of_isPlain (ht c List.mem_cons_self) (by decide) (Option.some.inj he)
    | quoted t => exact (by decide : some (CodePoint.scalar '"') ≠ some 'd')
    | hole t =>
      obtain ⟨⟨fill, gap⟩, rest, rfl, -, -⟩ := List.map_eq_cons_iff.1 h
      cases fill with
      | token i => exact (by decide : some (CodePoint.scalar '"') ≠ some 'd')
      | literal w b => exact (by decide : some (CodePoint.scalar ' ') ≠ some 'd')

/-- Gaps with each text's own literal between them evaluate to the document. -/
theorem resolve_weave {allow : Bool} {ps : List Piece} (hp : ∀ p ∈ ps, IsPlainPiece p)
    (he : ∀ t ∈ holes ps, isEligible allow t = true) {segs : List (Fill × Text)}
    (hsnd : segs.map Prod.snd = (gaps ps).2) (ho : Owns (holes ps) segs) :
    resolve .code ((gaps ps).1 ++ weave marker segs) = some (written ps) := by
  induction ps generalizing segs with
  | nil =>
    obtain rfl := List.map_eq_nil_iff.1 hsnd
    rfl
  | cons p ps ih =>
    have hp' : ∀ p ∈ ps, IsPlainPiece p := fun q hq => hp q (List.mem_cons_of_mem _ hq)
    cases p with
    | plain t =>
      have ht : ∀ c ∈ t, isPlain c = true := hp _ List.mem_cons_self
      rw [gaps, List.append_assoc, resolve_plain_append ht (head?_weave hp' hsnd),
        ih hp' he hsnd ho, written_plain]
      rfl
    | quoted t =>
      rw [gaps, List.append_assoc, quote_append,
        resolve_quoted (InString.flatMap InString.quotePoint t), ih hp' he hsnd ho, written_quoted,
        quote_append]
      rfl
    | hole t =>
      match segs, ho, hsnd with
      | (.literal w b, gap) :: segs, ⟨⟨hw, hb⟩, ho⟩, hsnd =>
        obtain ⟨hgap, hrest⟩ := List.cons.inj hsnd
        have hgap : gap = (gaps ps).1 := hgap
        rw [gaps, weave, List.nil_append, Fill.text, hb, hgap,
          resolve_fenced hw (he t List.mem_cons_self),
          ih hp' (fun u hu => he u (List.mem_cons_of_mem _ hu)) hrest ho, written_hole]
        rfl

/-- Gaps with a torn body between them evaluate to no document. -/
theorem not_torn_of_sound (hv : IsVerbatim marker) {ps : List Piece}
    (hp : ∀ p ∈ ps, IsPlainPiece p) {segs : List (Fill × Text)}
    (hsnd : segs.map Prod.snd = (gaps ps).2)
    (hb : ∀ w b g, (.literal w b, g) ∈ segs → IsIndent w ∧ ∃ torn, Woven torn b)
    (h : Sound .code ((gaps ps).1 ++ weave marker segs)) : ¬ Torn segs := by
  induction ps generalizing segs with
  | nil =>
    obtain rfl := List.map_eq_nil_iff.1 hsnd
    rintro ⟨w, b, g, hm, -⟩
    cases hm
  | cons p ps ih =>
    have hp' : ∀ p ∈ ps, IsPlainPiece p := fun q hq => hp q (List.mem_cons_of_mem _ hq)
    cases p with
    | plain t =>
      have ht : ∀ c ∈ t, isPlain c = true := hp _ List.mem_cons_self
      rw [gaps, List.append_assoc] at h
      exact ih hp' hsnd hb (h.code_plain_append ht (head?_weave hp' hsnd))
    | quoted t =>
      rw [gaps, List.append_assoc, quote_append] at h
      exact ih hp' hsnd hb (h.code_quoted (InString.flatMap InString.quotePoint t))
    | hole t =>
      obtain ⟨⟨fill, gap⟩, rest, rfl, hgap, hrest⟩ := List.map_eq_cons_iff.1 hsnd
      have hb' : ∀ w b g, (.literal w b, g) ∈ rest → IsIndent w ∧ ∃ torn, Woven torn b :=
        fun w b g hm => hb w b g (List.mem_cons_of_mem _ hm)
      have hgap : gap = (gaps ps).1 := hgap
      subst hgap
      rw [gaps, weave, List.nil_append] at h
      rintro ⟨w, b, g, hm, htorn⟩
      cases fill with
      | token i =>
        have hstring : InString (token marker i) := .of_isVerbatim fun c hc => hv.of_mem_token hc
        have h' : Sound .code ('"' :: (token marker i ++ CodePoint.scalar '"' ::
            ((gaps ps).1 ++ weave marker rest))) := by
          simpa [Fill.text, between] using h
        rcases List.mem_cons.1 hm with he | hm
        · cases he
        · exact ih hp' hrest hb' (h'.code_quoted hstring) ⟨w, b, g, hm, htorn⟩
      | literal w' b' =>
        rw [Fill.text, fenced_append] at h
        have hbody : Sound (.template [newline]) (b' ++ newline :: (w' ++ backtick ::
            ((gaps ps).1 ++ weave marker rest))) :=
          h.code_tag.template_plain (by decide) (by decide)
        obtain ⟨hw, torn, hwoven⟩ := hb w' b' _ List.mem_cons_self
        rcases List.mem_cons.1 hm with he | hm
        · cases he
          cases ((sound_of_woven htorn hw _).2.2 _ hbody).1
        · exact ih hp' hrest hb' ((sound_of_woven hwoven hw _).2.2 _ hbody).2 ⟨w, b, g, hm, htorn⟩

/-! ## Splicing into a skeleton -/

/-- A skeleton without tokens is the document. -/
theorem resolve_skeleton_of_nil (hv : IsVerbatim marker) {ps : List Piece}
    (hp : ∀ p ∈ ps, IsPlainPiece p) (hnil : holes ps = []) (n : Nat) :
    resolve .code (emit (quotedToken marker) n ps) = some (written ps) := by
  have hgaps : (gaps ps).2 = [] := by
    apply List.eq_nil_of_length_eq_zero
    rw [length_gaps, hnil, List.length_nil]
  have heligible : ∀ t ∈ holes ps, isEligible true t = true := by
    intro t ht
    rw [hnil] at ht
    cases ht
  rw [emit_quotedToken hv, hgaps]
  refine resolve_weave hp heligible ?_ ?_
  · rw [hgaps]
    rfl
  · rw [hnil]
    trivial

/-- Splicing into a skeleton between two texts in which the marker stands in tokens only. If
no text holds the token of a later one, what comes out between the two texts evaluates to the
document, and otherwise to nothing. -/
theorem spliceFrom_skeleton {σ : Type} {options : Options σ} (hv : IsVerbatim marker)
    (ho : options.templateOpening = tag) (hc : options.templateClosing = []) {allow : Bool}
    {ps : List Piece} (hp : ∀ p ∈ ps, IsPlainPiece p)
    (he : ∀ t ∈ holes ps, isEligible allow t = true) {opening closing : Text}
    (hcount : holes ps = [] ∨
      count marker (opening ++ emit (quotedToken marker) 0 ps ++ closing) ≤ (holes ps).length)
    (w : World) :
    ∃ code w', (spliceFrom options marker 0 (holes ps)
        (opening ++ emit (quotedToken marker) 0 ps ++ closing)).run w =
          (.ok (opening ++ code ++ closing), w') ∧
      ((LaterFree marker 0 (holes ps) ∧ resolve .code code = some (written ps)) ∨
        (¬ LaterFree marker 0 (holes ps) ∧ ¬ Sound .code code)) := by
  by_cases hnil : holes ps = []
  · have hresolve := resolve_skeleton_of_nil hv hp hnil 0
    rw [hnil]
    exact ⟨_, w, rfl, Or.inl ⟨trivial, hresolve⟩⟩
  · -- the pieces with the two texts around them
    have hskeleton : opening ++ emit (quotedToken marker) 0 ps ++ closing =
        opening ++ (gaps (ps ++ [.plain closing])).1 ++
          weave marker (tokens 0 (gaps (ps ++ [.plain closing])).2) := by
      rw [List.append_assoc, List.append_assoc, ← emit_quotedToken hv, emit_append, emit, emit,
        List.append_nil]
    have hlen : (gaps (ps ++ [.plain closing])).2.length = (holes ps).length := by
      rw [length_gaps, holes_append, holes, holes, List.append_nil]
    have hle := hcount.resolve_left hnil
    rw [hskeleton, ← hlen] at hle
    obtain ⟨segs, w', hrun, harr, hsnd, hend⟩ := spliceFrom_arranged hv ho hc
      (holes ps) (show (gaps (ps ++ [.plain closing])).2.length = _ from hlen)
      (show Owns [] [] from trivial) (arranged_of_count_le hv hle) w
    obtain ⟨segs', hfst, hsnd', hclosed⟩ := exists_unclosed closing hsnd
    refine ⟨(gaps ps).1 ++ weave marker segs', w', ?_, ?_⟩
    · rw [hskeleton]
      refine hrun.trans ?_
      rw [List.append_assoc, hclosed]
      simp
    rcases hend with ⟨hlater, -, hown⟩ | ⟨hnot, htorn⟩
    · exact Or.inl ⟨hlater, resolve_weave hp he hsnd' (hown.of_map_fst hfst)⟩
    · refine Or.inr ⟨fun hlater => hnot ⟨hlater, fun _ _ _ hm => absurd hm List.not_mem_nil⟩, ?_⟩
      intro hsound
      refine not_torn_of_sound hv hp hsnd' (fun w b g hm => ?_) hsound (htorn.of_map_fst hfst)
      obtain ⟨g', hm'⟩ := exists_mem_of_map_fst hfst.symm hm
      exact harr.bodies w b g' hm'

end

end JsLiteral.Skeleton
