import JsLiteral.Proofs.Collision

/-!
# The marker leaves no trace

Two conversions of one value that differ in the marker print other tokens and find them at other
places. Yet their gaps are the same, each token stands at its own place only, and a literal is
aligned with what stands before it. So what each of them answers is a function of the gaps and
of the texts between them, which does not see the marker.

    one step:    the literal comes in the place of its token     (spliceOne_own)
    a whole run: the code is aligned text by text                (spliceFrom_aligned)
    the code is that for every marker that is told apart         (convert_eq_convert)
-/

namespace JsLiteral

open Text Template Json Placeholder Evaluation Skeleton

namespace Placeholder

/-- The code that starts with `before` and goes on with the literals of texts, each aligned with
the line it starts on, and with the gaps after them. -/
def aligned (before : Text) : List Text → List Text → Text
  | t :: rest, gap :: gaps => aligned (before ++ literalAfter tag [] before t ++ gap) rest gaps
  | _, _ => before

theorem aligned_nil (before : Text) (gaps : List Text) : aligned before [] gaps = before := by
  cases gaps with
  | nil => rfl
  | cons gap gaps => rfl

section

variable {σ : Type} {options : Options σ} {marker a t gap : Text} {k : Nat}
variable {done gaps : List Text} {lits : List (Fill × Text)}

/-! ## One step -/

/-- After literals in which it does not stand, a token stands at its own place only. -/
theorem eq_length_of_standsAt (hv : IsVerbatim marker) (hown : Owns done lits)
    (h : Arranged marker a (lits ++ tokens k (gap :: gaps))) (hquiet : Quiet marker [k] lits)
    {p : Nat}
    (hp : StandsAt (token marker k) (a ++ weave marker (lits ++ tokens k (gap :: gaps))) p) :
    p = (a ++ weave marker lits).length := by
  obtain ⟨x, q, y, he, rfl, hq⟩ := hp
  have hindents : ∀ w b g, (.literal w b, g) ∈ lits ++ tokens k (gap :: gaps) → IsIndent w :=
    fun w b g hm => (h.bodies w b g hm).1
  rcases cut_weave hv hq h.first h.gaps hindents he.symm with
    ⟨before, g, after, hsplit, -, rfl, -⟩ | ⟨before, w, u, v, g, after, hsplit, -, -⟩
  · have hafter : (Fill.token k, g) ∉ tokens (k + 1) gaps := by
      intro hm
      obtain ⟨i, hi, hlt⟩ := mem_tokens hm
      cases hi
      omega
    obtain ⟨rfl, -, -⟩ :=
      (List.append_cons_inj_of_notMem (hown.token_not_mem k g) hafter).1 hsplit
    rfl
  · have hm : (Fill.literal w (u ++ q ++ v), g) ∈ lits ++ tokens k (gap :: gaps) := by
      rw [hsplit]
      exact List.mem_append_right _ List.mem_cons_self
    rcases List.mem_append.1 hm with hm | hm
    · exact absurd rfl ((hquiet w _ g hm).ne_append List.mem_cons_self hq u v)
    · obtain ⟨i, hi, -⟩ := mem_tokens hm
      cases hi

/-- A step puts the text's own literal, aligned with what stands before it, in the place of its
token. -/
theorem spliceOne_own (hv : IsVerbatim marker) (ho : options.templateOpening = tag)
    (hc : options.templateClosing = []) (hown : Owns done lits)
    (h : Arranged marker a (lits ++ tokens k (gap :: gaps))) (hquiet : Quiet marker [k] lits)
    (t : Text) (w : World) :
    ∃ v w', IsIndent v ∧ literalAfter tag [] (a ++ weave marker lits) t = fenced v (own v t) ∧
      (spliceOne options marker (a ++ weave marker (lits ++ tokens k (gap :: gaps))) k t).run w =
        (.ok (a ++ weave marker ((lits ++ [(.literal v (own v t), gap)]) ++ tokens (k + 1) gaps)),
          w') := by
  have hcode : a ++ weave marker (lits ++ tokens k (gap :: gaps)) =
      (a ++ weave marker lits) ++ between '"' (token marker k) ++
        (gap ++ weave marker (tokens (k + 1) gaps)) := by
    rw [weave_append, tokens, weave, Fill.text]
    simp
  have hfirst : ∀ p, StandsAt (token marker k) ((a ++ weave marker lits) ++
      between '"' (token marker k) ++ (gap ++ weave marker (tokens (k + 1) gaps))) p →
        (a ++ weave marker lits).length ≤ p := by
    intro p hp
    rw [← hcode] at hp
    exact Nat.le_of_eq (eq_length_of_standsAt hv hown h hquiet hp).symm
  obtain ⟨w', hrun⟩ := spliceOne_of_standsAt options t ⟨'"', Or.inl rfl, rfl⟩ hfirst w
  have hlit : literalAfter tag [] (a ++ weave marker lits) t =
      fenced (indentation (lastLine (a ++ weave marker lits)))
        (own (indentation (lastLine (a ++ weave marker lits))) t) := literal_eq_fenced _ _
  refine ⟨indentation (lastLine (a ++ weave marker lits)), w', isIndent_indentation _, hlit, ?_⟩
  rw [hcode, hrun, ho, hc, hlit, weave_append, weave_append, weave, Fill.text, weave]
  simp

/-! ## A whole run -/

/-- A run on texts none of which holds the token of a later one aligns them one after the
other. -/
theorem spliceFrom_aligned (hv : IsVerbatim marker) (ho : options.templateOpening = tag)
    (hc : options.templateClosing = []) (rest : List Text) : ∀ {done gaps : List Text} {k : Nat}
    {lits : List (Fill × Text)}, gaps.length = rest.length → Owns done lits →
      Arranged marker a (lits ++ tokens k gaps) → LaterFree marker k rest →
      Quiet marker (List.range' k rest.length) lits → ∀ w : World,
        ∃ w', (spliceFrom options marker k rest
          (a ++ weave marker (lits ++ tokens k gaps))).run w =
            (.ok (aligned (a ++ weave marker lits) rest gaps), w') := by
  induction rest with
  | nil =>
    intro done gaps k lits hlen hown h _ _ w
    obtain rfl := List.eq_nil_of_length_eq_zero hlen
    exact ⟨w, by rw [tokens, List.append_nil]; rfl⟩
  | cons t rest ih =>
    intro done gaps k lits hlen hown h hlater hquiet w
    obtain ⟨gap, gaps, rfl⟩ := List.exists_cons_of_length_eq_add_one hlen
    have hfirst : Quiet marker [k] lits := by
      refine hquiet.mono fun i hi => ?_
      rw [List.mem_singleton.1 hi, List.length_cons, List.range'_succ]
      exact List.mem_cons_self
    obtain ⟨v, w₁, hv', hlit, hrun⟩ := spliceOne_own hv ho hc hown h hfirst t w
    have hplaced : Spliced marker k t (lits ++ tokens k (gap :: gaps))
        (lits ++ (.literal v (own v t), gap) :: tokens (k + 1) gaps) := .place hv' hfirst
    have harranged := hplaced.arranged hv h
    rw [List.append_cons] at harranged
    obtain ⟨hlater', hquiet'⟩ :=
      (laterFree_cons_iff hv hv' t gap rest lits hfirst).2 ⟨hlater, hquiet⟩
    obtain ⟨w₂, hrest⟩ := ih (k := k + 1) (Nat.succ.inj hlen) (hown.concat hv' t gap) harranged
      hlater' hquiet' w₁
    refine ⟨w₂, ?_⟩
    rw [spliceFrom_cons_run hrun, hrest, aligned, hlit, weave_append, weave, weave, Fill.text]
    simp

end

end Placeholder

/-! ## What a conversion answers -/

section

variable {σ : Type} {options : Options σ} {c c₁ c₂ : Converter} {w : World} {v : Value}
variable {doc : Printed}

/-- Whether the formatter gets options it can be called with. -/
def formatterReady (heap : Heap) (options : Options σ) : Except Failure Unit :=
  if options.useFormatter then (optionMembers heap options.formatterOptions).map fun _ => ()
  else .ok ()

/-- A formatter that returns code as it is leaves it so if it is called. -/
theorem layOut_idle (hbefore : options.beforeFormat = none) {formatter : Formatter}
    (hformat : options.useFormatter = true → formatter = Formatter.none) (code : Text) (w : World) :
    (layOut formatter options code).run w =
      ((formatterReady w.heap options).map fun _ => code, w) := by
  unfold formatterReady
  by_cases huse : options.useFormatter = true
  · obtain rfl := hformat huse
    rw [layOut_eq, hbefore, if_pos huse]
    unfold formatted
    simp only [Task.run_bind, Task.run_pure, if_pos huse, Task.run_get]
    cases optionMembers w.heap options.formatterOptions with
    | error e => rfl
    | ok members => rfl
  · rw [layOut_run hbefore (Bool.eq_false_iff.2 huse), if_neg huse]
    rfl

/-- The code of pieces between two texts, the texts of its holes aligned. -/
def alignedCode (opening closing : Text) (ps : List Piece) : Text :=
  aligned (opening ++ (gaps (ps ++ [.plain closing])).1) (holes ps)
    (gaps (ps ++ [.plain closing])).2

theorem alignedCode_of_holes {opening closing marker : Text} {ps : List Piece}
    (hv : IsVerbatim marker) (h : holes ps = []) :
    opening ++ emit (quotedToken marker) 0 ps ++ closing = alignedCode opening closing ps := by
  have hnone : (gaps (ps ++ [.plain closing])).2 = [] := by
    rw [← List.length_eq_zero_iff, length_gaps, holes_wrapped, h, List.length_nil]
  rw [← emit_wrapped, emit_quotedToken hv, alignedCode, hnone, h, tokens, weave, List.append_nil,
    aligned_nil]

/-- Splicing the texts that wait into a skeleton whose marker does not collide. -/
theorem spliceFrom_alignedCode (hv : IsVerbatim c.marker.text) (ho : options.templateOpening = tag)
    (hc : options.templateClosing = []) {ps : List Piece}
    (htexts : ∀ t ∈ holes ps, ¬ c.marker.text <:+: t)
    (hcollides : ¬ Collides c.marker.text
      (options.opening ++ emit (quotedToken c.marker.text) 0 ps ++ options.closing) (holes ps))
    (w : World) :
    ∃ w', (spliceFrom options c.marker.text 0 (holes ps)
        (options.opening ++ emit (quotedToken c.marker.text) 0 ps ++ options.closing)).run w =
      (.ok (alignedCode options.opening options.closing ps), w') := by
  by_cases hnil : holes ps = []
  · rw [alignedCode_of_holes hv hnil, hnil]
    exact ⟨w, rfl⟩
  · rw [collides_iff_stray hv, not_and] at hcollides
    have harranged : Arranged c.marker.text
        (options.opening ++ (gaps (ps ++ [.plain options.closing])).1)
        ([] ++ tokens 0 (gaps (ps ++ [.plain options.closing])).2) :=
      arranged_of_not_stray hv (hcollides hnil)
    have hlen : (gaps (ps ++ [.plain options.closing])).2.length = (holes ps).length := by
      rw [length_gaps, holes_wrapped]
    have hlater : LaterFree c.marker.text 0 (holes ps) :=
      laterFree_of_forall hv.backslash_not_mem (Nat.zero_add _) fun t ht =>
        free_of_not_infix (htexts t ht) _
    have hquiet : Quiet c.marker.text (List.range' 0 (holes ps).length) [] :=
      fun _ _ _ hm => absurd hm List.not_mem_nil
    obtain ⟨w', hrun⟩ := spliceFrom_aligned hv ho hc (holes ps) hlen
      (show Owns [] [] from trivial) harranged hlater hquiet w
    refine ⟨w', ?_⟩
    rw [← emit_wrapped, emit_quotedToken hv, ← List.append_assoc]
    rw [List.nil_append, weave, List.append_nil] at hrun
    exact hrun

/-- What is left of a conversion after its skeleton is printed. -/
theorem finish_aligned (hv : IsVerbatim c.marker.text) (hbefore : options.beforeFormat = none)
    (ho : options.templateOpening = tag) (hc : options.templateClosing = [])
    (hformat : options.useFormatter = true → c.formatter = Formatter.none) {ps : List Piece}
    (htexts : ∀ t ∈ holes ps, ¬ c.marker.text <:+: t)
    (hcollides : ¬ Collides c.marker.text
      (options.opening ++ emit (quotedToken c.marker.text) 0 ps ++ options.closing) (holes ps))
    (w : World) :
    ((finish c options (emit (quotedToken c.marker.text) 0 ps) (holes ps)).run w).1 =
      (formatterReady w.heap options).map fun _ =>
        ⟨alignedCode options.opening options.closing ps, !(holes ps).isEmpty⟩ := by
  rw [finish_eq_of_not_collides c hcollides, Task.run_bind, layOut_idle hbefore hformat,
    World.serialized]
  simp only
  cases formatterReady w.heap options with
  | error e => rfl
  | ok u =>
    obtain ⟨w', hsplice⟩ := spliceFrom_alignedCode hv ho hc htexts hcollides
      (w.serialized (holes ps).length)
    rw [World.serialized] at hsplice
    simp only [Except.map]
    rw [Task.run_bind, hsplice]
    rfl

/-- What a conversion answers whose marker is told apart from the value: a failure that the
marker has no part in, or the aligned code. -/
def markerless (options : Options σ) (w : World) (doc : Printed) : Except Failure Conversion :=
  (Json.gap w.heap options.space).bind fun gap =>
    let choose := chosen options (options.backticks.getD w.settings.allowsBackticks)
    let ps := (doc.choosing choose).skeleton gap
    (formatterReady w.heap options).map fun _ =>
      ⟨alignedCode options.opening options.closing ps, !(holes ps).isEmpty⟩

theorem convert_eq_markerless (hv : IsVerbatim c.marker.text) (hreplacer : options.replacer = none)
    (hbefore : options.beforeFormat = none) (ho : options.templateOpening = tag)
    (hc : options.templateClosing = [])
    (hformat : options.useFormatter = true → c.formatter = Formatter.none)
    (hdoc : IsDocument w.heap [] v doc) (htexts : ∀ t ∈ doc.texts, ¬ c.marker.text <:+: t) (s : σ)
    (hcollision : ((c.convert options v).run (w, s)).1 ≠ .error (.markerCollision c.marker.text)) :
    ((c.convert options v).run (w, s)).1 = markerless options w doc := by
  unfold markerless
  cases hgap : Json.gap w.heap options.space with
  | error e =>
    rw [convert_of_skeleton_eq_error (skeleton_of_gap_eq_error hgap c.marker.text v s)]
    rfl
  | ok gap =>
    have hskeleton : (skeleton w options c.marker.text v).run (s, []) = _ :=
      skeleton_of_isDocument hreplacer hgap rfl hdoc s
    rw [← Printed.held_choosing _ _ (IsDocument.held doc hdoc),
      ← Printed.holes_skeleton gap] at hskeleton
    rw [convert_of_skeleton hskeleton] at hcollision ⊢
    refine finish_aligned hv hbefore ho hc hformat (fun t ht => ?_)
      (fun h => hcollision (congrArg Prod.fst (finish_run_of_collides c h w))) w
    rw [Printed.holes_skeleton, Printed.held_choosing _ _ (IsDocument.held doc hdoc)] at ht
    exact htexts t (List.mem_filter.1 ht).1

/-- **The marker is invisible in the result.** Two markers that JSON shows as they are and that
stand in no string value give the same code and the same flag, unless one of them is refused:
conversions without functions of the caller's, with the tag and with no formatter or one that
returns code as it is, answer alike. They do answer code if the gap can be used and so can the
formatter's options where it is called. -/
theorem convert_eq_convert (hv₁ : IsVerbatim c₁.marker.text) (hv₂ : IsVerbatim c₂.marker.text)
    (hreplacer : options.replacer = none) (hbefore : options.beforeFormat = none)
    (ho : options.templateOpening = tag) (hc : options.templateClosing = [])
    (hformat : options.useFormatter = true →
      c₁.formatter = Formatter.none ∧ c₂.formatter = Formatter.none)
    (hdoc : IsDocument w.heap [] v doc)
    (htexts : ∀ t ∈ doc.texts, ¬ c₁.marker.text <:+: t ∧ ¬ c₂.marker.text <:+: t) (s : σ)
    (h₁ : ((c₁.convert options v).run (w, s)).1 ≠ .error (.markerCollision c₁.marker.text))
    (h₂ : ((c₂.convert options v).run (w, s)).1 ≠ .error (.markerCollision c₂.marker.text)) :
    ((c₁.convert options v).run (w, s)).1 = ((c₂.convert options v).run (w, s)).1 ∧
      ((∃ gap, Json.gap w.heap options.space = .ok gap) →
        (options.useFormatter = true →
          ∃ ms, optionMembers w.heap options.formatterOptions = .ok ms) →
          ∃ r, ((c₁.convert options v).run (w, s)).1 = .ok r) := by
  have hfirst := convert_eq_markerless hv₁ hreplacer hbefore ho hc (fun h => (hformat h).1) hdoc
    (fun t ht => (htexts t ht).1) s h₁
  have hsecond := convert_eq_markerless hv₂ hreplacer hbefore ho hc (fun h => (hformat h).2) hdoc
    (fun t ht => (htexts t ht).2) s h₂
  refine ⟨hfirst.trans hsecond.symm, fun hgap hmembers => ?_⟩
  obtain ⟨gap, hgap⟩ := hgap
  have hready : formatterReady w.heap options = .ok () := by
    unfold formatterReady
    split
    · rename_i huse
      obtain ⟨ms, hms⟩ := hmembers huse
      rw [hms]
      rfl
    · rfl
  rw [hfirst, markerless, hgap, hready]
  exact ⟨_, rfl⟩

/-- A marker that is a part of the tag. -/
def tagConverter : Converter := ⟨⟨"dedent", by decide⟩, Formatter.none⟩

/-- A marker that overlaps itself, of quotes that tokens are looked for between. -/
def quoteConverter : Converter := ⟨⟨"\'\'", by decide⟩, Formatter.none⟩

/-- Neither of the two is refused, and nobody can tell which was used. -/
theorem convert_eq_convert_quotes :
    ((tagConverter.convert (literalsOnly Unit true) twoLines).run ({}, ())).1 =
        ((quoteConverter.convert (literalsOnly Unit true) twoLines).run ({}, ())).1 ∧
      ∃ r, ((tagConverter.convert (literalsOnly Unit true) twoLines).run ({}, ())).1 = .ok r := by
  have hcode : ∀ {c : Converter}, c = tagConverter ∨ c = quoteConverter →
      ((c.convert (literalsOnly Unit true) twoLines).run ({}, ())).1 ≠
        .error (.markerCollision c.marker.text) := by
    rintro c (rfl | rfl)
    · exact nofun
    · exact nofun
  have hdoc : IsDocument [] [] twoLines (.list [.text "a\nb", .text "c\nd"]) :=
    .list (.sequence ..) (.cons .text (.cons .text .nil))
  have hverbatim : IsVerbatim tagConverter.marker.text ∧ IsVerbatim quoteConverter.marker.text :=
    ⟨⟨by decide, by decide⟩, ⟨by decide, by decide⟩⟩
  have htexts : ∀ t ∈ (Printed.list [.text "a\nb", .text "c\nd"]).texts,
      ¬ tagConverter.marker.text <:+: t ∧ ¬ quoteConverter.marker.text <:+: t := by decide
  have hidle : (literalsOnly Unit true).useFormatter = true →
      tagConverter.formatter = Formatter.none ∧ quoteConverter.formatter = Formatter.none :=
    fun _ => ⟨rfl, rfl⟩
  obtain ⟨heq, hok⟩ := convert_eq_convert (w := {}) hverbatim.1 hverbatim.2 rfl rfl rfl rfl hidle
    hdoc htexts () (hcode (Or.inl rfl)) (hcode (Or.inr rfl))
  exact ⟨heq, hok ⟨[], rfl⟩ nofun⟩

end

end JsLiteral
