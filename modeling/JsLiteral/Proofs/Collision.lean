import JsLiteral.Proofs.Conversion

/-!
# When a marker collides

The marker is counted in the wrapped code from the left, without overlap. A quote stands on
either side of each token, and no quote stands in a marker, so no occurrence that is counted
crosses the edge of a token; each token holds one at its start. What is counted beyond these
are the occurrences that overlap the marker of no token, in a gap or in the digits of a token.

    holes ps < count marker code     exactly when the marker is astray in the code
                                                                     (stray_iff_lt_count)
    a conversion refuses its marker  exactly when texts wait and the marker is astray
                                                                        (refuses_iff_stray)
-/

namespace JsLiteral

open Text Template Json Placeholder Evaluation Skeleton

/-! ## Stray markers -/

section

variable {marker : Text}

/-- The marker stands somewhere in the code, which is `before` and the pieces with tokens from
number `n` on, and does not overlap the marker that a token starts with. -/
def Stray (marker before : Text) (n : Nat) (ps : List Piece) : Prop :=
  ∃ x y, before ++ emit (quotedToken marker) n ps = x ++ marker ++ y ∧
    ∀ a t b, ps = a ++ .hole t :: b →
      Placeholder.Disjoint marker.length marker.length x.length
        ((before ++ emit (quotedToken marker) n a).length + 1)

theorem stray_nil {before : Text} {n : Nat} : Stray marker before n [] ↔ marker <:+: before := by
  unfold Stray
  rw [emit, List.append_nil]
  constructor
  · rintro ⟨x, y, h, -⟩
    exact ⟨x, y, h.symm⟩
  · rintro ⟨x, y, h⟩
    exact ⟨x, y, h.symm, fun a t b he => by simp at he⟩

/-- A piece that is no token is as good as what stands before it. -/
theorem stray_cons {before u : Text} {n : Nat} {p : Piece} {ps : List Piece}
    (hp : ∀ t, p ≠ .hole t)
    (hu : ∀ qs, emit (quotedToken marker) n (p :: qs) = u ++ emit (quotedToken marker) n qs) :
    Stray marker before n (p :: ps) ↔ Stray marker (before ++ u) n ps := by
  unfold Stray
  rw [hu, ← List.append_assoc]
  refine exists_congr fun x => exists_congr fun y => and_congr_right fun _ => ?_
  constructor
  · intro h a t b he
    have := h (p :: a) t b (by rw [he]; rfl)
    rwa [hu, ← List.append_assoc] at this
  · intro h a t b he
    cases a with
    | nil => exact absurd (List.cons.inj he).1 (hp t)
    | cons q a =>
      obtain ⟨rfl, hps⟩ := List.cons.inj he
      rw [hu, ← List.append_assoc]
      exact h a t b hps

theorem emit_hole (hv : IsVerbatim marker) (before t : Text) (n : Nat) (ps : List Piece) :
    before ++ emit (quotedToken marker) n (.hole t :: ps) =
      before ++ CodePoint.scalar '"' :: (marker ++ Text.ofNat n ++ CodePoint.scalar '"' ::
        emit (quotedToken marker) (n + 1) ps) := by
  rw [emit, quotedToken, hv.quote_token]
  simp [between, token]

theorem length_emit_hole (hv : IsVerbatim marker) (before t : Text) (n : Nat) (ps : List Piece) :
    (before ++ emit (quotedToken marker) n (.hole t :: ps)).length =
      before.length + 1 + marker.length + (Text.ofNat n).length + 1 +
        (emit (quotedToken marker) (n + 1) ps).length := by
  rw [emit_hole hv]
  simp only [List.length_append, List.length_cons]
  omega

theorem stray_of_infix {before : Text} (h : marker <:+: before) (n : Nat) (ps : List Piece) :
    Stray marker before n ps := by
  obtain ⟨x, y, rfl⟩ := h
  refine ⟨x, y ++ emit (quotedToken marker) n ps, by simp, fun a t b hab => ?_⟩
  left
  simp only [List.length_append]
  omega

theorem stray_of_infix_digits (hv : IsVerbatim marker) {n : Nat} (h : marker <:+: Text.ofNat n)
    (before t : Text) (ps : List Piece) : Stray marker before n (.hole t :: ps) := by
  obtain ⟨x, y, hxy⟩ := h
  refine ⟨before ++ CodePoint.scalar '"' :: (marker ++ x),
    y ++ CodePoint.scalar '"' :: emit (quotedToken marker) (n + 1) ps, ?_, fun a t' b hab => ?_⟩
  · rw [emit_hole hv, ← hxy]
    simp
  · have hxl := congrArg List.length hxy
    simp only [List.length_append] at hxl
    cases a with
    | nil =>
      right
      simp only [emit, List.length_append, List.length_cons, List.length_nil]
      omega
    | cons q a =>
      obtain ⟨rfl, -⟩ := List.cons.inj hab
      left
      rw [length_emit_hole hv]
      simp only [List.length_append, List.length_cons]
      omega

theorem Stray.after_hole (hv : IsVerbatim marker) {n : Nat} {ps : List Piece}
    (h : Stray marker [] (n + 1) ps) (before t : Text) :
    Stray marker before n (.hole t :: ps) := by
  obtain ⟨x, y, he, hd⟩ := h
  refine ⟨before ++ CodePoint.scalar '"' ::
    (marker ++ Text.ofNat n ++ CodePoint.scalar '"' :: x), y, ?_, fun a t' b hab => ?_⟩
  · rw [List.nil_append] at he
    rw [emit_hole hv, he]
    simp
  · cases a with
    | nil =>
      right
      simp only [emit, List.length_append, List.length_cons, List.length_nil]
      omega
    | cons q a =>
      obtain ⟨rfl, hps⟩ := List.cons.inj hab
      have := hd a t' b hps
      rw [length_emit_hole hv]
      unfold Placeholder.Disjoint at this ⊢
      simp only [List.length_append, List.length_cons, List.nil_append] at this ⊢
      omega

/-- The marker is astray before a token, in the digits of the token or after it. -/
theorem stray_hole (hv : IsVerbatim marker) {before t : Text} {n : Nat} {ps : List Piece} :
    Stray marker before n (.hole t :: ps) ↔
      marker <:+: before ∨ marker <:+: Text.ofNat n ∨ Stray marker [] (n + 1) ps := by
  constructor
  · rintro ⟨x, y, he, hd⟩
    have hfirst := hd [] t ps rfl
    rw [emit, List.append_nil] at hfirst
    rw [emit_hole hv] at he
    rcases cut_at_separator hv.quote_not_mem he.symm with ⟨z, rfl, -⟩ | ⟨z, rfl, hz⟩
    · exact Or.inl ⟨x, z, rfl⟩
    rcases cut_at_separator hv.quote_not_mem hz.symm with ⟨z', hz', -⟩ | ⟨z', rfl, hz'⟩
    · -- in the token, and not at its start
      have hpos : 0 < marker.length := List.length_pos_of_ne_nil hv.ne_nil
      have hle : marker.length ≤ z.length := by
        unfold Placeholder.Disjoint at hfirst
        simp only [List.length_append, List.length_cons] at hfirst
        omega
      have hcut : [] ++ marker ++ Text.ofNat n = z ++ (marker ++ z') := by simpa using hz'
      obtain ⟨u, rfl, hu⟩ := cut_of_le hcut (by simpa using hle)
      exact Or.inr (Or.inl ⟨u, z', by rw [hu, List.append_assoc]⟩)
    · -- after the token
      refine Or.inr (Or.inr ⟨z', y, hz', fun a t' b hab => ?_⟩)
      have := hd (.hole t :: a) t' b (by rw [hab]; rfl)
      rw [length_emit_hole hv] at this
      unfold Placeholder.Disjoint at this ⊢
      simp only [List.length_append, List.length_cons, List.nil_append] at this ⊢
      omega
  · rintro (h | h | h)
    · exact stray_of_infix h n _
    · exact stray_of_infix_digits hv h before t ps
    · exact h.after_hole hv before t

/-- Each token holds a marker. -/
theorem holes_length_le_count (hv : IsVerbatim marker) (before : Text) (n : Nat)
    (ps : List Piece) :
    (holes ps).length ≤ count marker (before ++ emit (quotedToken marker) n ps) := by
  rw [emit_quotedToken hv, ← List.append_assoc, ← length_gaps]
  exact length_le_count hv _ _ _

theorem count_hole (hv : IsVerbatim marker) (before t : Text) (n : Nat) (ps : List Piece) :
    count marker (before ++ emit (quotedToken marker) n (.hole t :: ps)) =
      count marker before + (count marker (Text.ofNat n) + 1) +
        count marker (emit (quotedToken marker) (n + 1) ps) := by
  rw [emit_quotedToken hv n, gaps, List.nil_append, count_weave_tokens hv, ← emit_quotedToken hv]

/-- **The count is exact**: counting from the left gives more markers than there are tokens
exactly if one of them is astray. -/
theorem stray_iff_lt_count (hv : IsVerbatim marker) (before : Text) (n : Nat) (ps : List Piece) :
    Stray marker before n ps ↔
      (holes ps).length < count marker (before ++ emit (quotedToken marker) n ps) := by
  have hcount : ∀ t, marker <:+: t ↔ 0 < count marker t := by
    intro t
    rw [Nat.pos_iff_ne_zero, ne_eq, count_eq_zero_iff hv.ne_nil, not_not]
  induction ps generalizing before n with
  | nil => rw [stray_nil, hcount, holes, emit, List.append_nil, List.length_nil]
  | cons p ps ih =>
    cases p with
    | plain t =>
      refine (stray_cons (fun _ he => by cases he) fun qs => rfl).trans ?_
      rw [holes, emit, ← List.append_assoc]
      exact ih (before ++ t) n
    | quoted t =>
      refine (stray_cons (fun _ he => by cases he) fun qs => rfl).trans ?_
      rw [holes, emit, ← List.append_assoc]
      exact ih (before ++ quote t) n
    | hole t =>
      have hle := holes_length_le_count hv [] (n + 1) ps
      have hafter := ih [] (n + 1)
      rw [List.nil_append] at hle hafter
      refine (stray_hole hv).trans ?_
      rw [hcount, hcount, count_hole hv, holes, List.length_cons]
      constructor
      · rintro (h | h | h)
        · omega
        · omega
        · have := hafter.1 h
          omega
      · intro h
        by_cases hlt : (holes ps).length < count marker (emit (quotedToken marker) (n + 1) ps)
        · exact Or.inr (Or.inr (hafter.2 hlt))
        · omega

/-! ### Code without stray markers -/

theorem index_of_token {gs : List Text} {k i : Nat} {before after : List (Fill × Text)} {g : Text}
    (h : tokens k gs = before ++ (.token i, g) :: after) : i = k + before.length := by
  induction before generalizing k gs with
  | nil =>
    cases gs with
    | nil => cases h
    | cons gap gs =>
      obtain ⟨he, -⟩ := List.cons.inj h
      cases he
      rfl
  | cons s before ih =>
    cases gs with
    | nil => cases h
    | cons gap gs =>
      obtain ⟨-, hrest⟩ := List.cons.inj h
      rw [ih hrest, List.length_cons]
      omega

theorem arranged_of_not_stray (hv : IsVerbatim marker) {before : Text} {n : Nat}
    {ps : List Piece} (h : ¬ Stray marker before n ps) :
    Arranged marker (before ++ (gaps ps).1) (tokens n (gaps ps).2) := by
  rw [stray_iff_lt_count hv, Nat.not_lt, emit_quotedToken hv, ← List.append_assoc,
    ← length_gaps] at h
  exact arranged_of_count_le hv h

/-- Where no marker is astray each quoted token stands at its own place only. -/
theorem exists_unique_place (hv : IsVerbatim marker) {before : Text} {n : Nat} {ps : List Piece}
    (h : ¬ Stray marker before n ps) {i : Nat} (h1 : n ≤ i) (h2 : i < n + (holes ps).length) :
    ∃ x y, before ++ emit (quotedToken marker) n ps = x ++ between '"' (token marker i) ++ y ∧
      ∀ p, StandsAt (token marker i) (before ++ emit (quotedToken marker) n ps) p →
        p = x.length := by
  have harr := arranged_of_not_stray hv h
  rw [emit_quotedToken hv, ← List.append_assoc]
  have hbodies : ∀ w b g, (.literal w b, g) ∈ tokens n (gaps ps).2 → IsIndent w :=
    fun w b g hm => (harr.bodies w b g hm).1
  obtain ⟨g, hg⟩ := exists_mem_tokens (gaps ps).2 h1 (by rwa [length_gaps])
  obtain ⟨bs, as, hsplit⟩ := List.append_of_mem hg
  have hat := index_of_token hsplit
  refine ⟨before ++ (gaps ps).1 ++ weave marker bs, g ++ weave marker as, ?_, ?_⟩
  · rw [hsplit, weave_append, weave, Fill.text]
    simp
  · rintro p ⟨x, q, y, he, rfl, hq⟩
    rcases cut_weave hv hq harr.first harr.gaps hbodies he.symm with
      ⟨bs', g', as', hsplit', -, rfl, -⟩ | ⟨bs', w, u, v, g', as', hsplit', -⟩
    · have hat' := index_of_token hsplit'
      rw [hsplit] at hsplit'
      obtain ⟨rfl, -⟩ := List.append_inj hsplit' (by omega)
      rfl
    · have hmem : (Fill.literal w (u ++ q ++ v), g') ∈ tokens n (gaps ps).2 := by
        rw [hsplit']
        exact List.mem_append_right _ List.mem_cons_self
      obtain ⟨j, hj, -⟩ := mem_tokens hmem
      cases hj

theorem quote_infix_gaps {t : Text} {ps : List Piece} (h : .quoted t ∈ ps) :
    quote t <:+: (gaps ps).1 ∨ ∃ g ∈ (gaps ps).2, quote t <:+: g := by
  induction ps with
  | nil => cases h
  | cons p ps ih =>
    rcases List.mem_cons.1 h with rfl | hps
    · exact Or.inl (List.prefix_append _ _).isInfix
    cases p with
    | plain u =>
      rcases ih hps with hin | hin
      · exact Or.inl (hin.trans (List.suffix_append _ _).isInfix)
      · exact Or.inr hin
    | quoted u =>
      rcases ih hps with hin | hin
      · exact Or.inl (hin.trans (List.suffix_append _ _).isInfix)
      · exact Or.inr hin
    | hole u =>
      rcases ih hps with hin | ⟨g, hg, hin⟩
      · exact Or.inr ⟨_, List.mem_cons_self, hin⟩
      · exact Or.inr ⟨g, List.mem_cons_of_mem _ hg, hin⟩

/-- Where no marker is astray none stands in a gap. -/
theorem not_infix_gaps (hv : IsVerbatim marker) {before : Text} {n : Nat} {ps : List Piece}
    (h : ¬ Stray marker before n ps) :
    ¬ marker <:+: before ++ (gaps ps).1 ∧ ∀ g ∈ (gaps ps).2, ¬ marker <:+: g := by
  have harr := arranged_of_not_stray hv h
  refine ⟨harr.first, fun g hg => ?_⟩
  rw [← map_snd_tokens n (gaps ps).2] at hg
  obtain ⟨s, hs, rfl⟩ := List.mem_map.1 hg
  exact harr.gaps s hs

/-- Where no marker is astray none stands in a string. -/
theorem not_infix_quote (hv : IsVerbatim marker) {before : Text} {n : Nat} {ps : List Piece}
    (h : ¬ Stray marker before n ps) {t : Text} (ht : .quoted t ∈ ps) : ¬ marker <:+: quote t := by
  obtain ⟨hfirst, hrest⟩ := not_infix_gaps hv h
  intro hin
  rcases quote_infix_gaps ht with hgap | ⟨g, hg, hgap⟩
  · exact hfirst ((hin.trans hgap).trans (List.suffix_append _ _).isInfix)
  · exact hrest g hg (hin.trans hgap)

/-- A marker that stands in a text stands in its literal. -/
theorem Placeholder.IsVerbatim.infix_quote (hv : IsVerbatim marker) {t : Text} (h : marker <:+: t) :
    marker <:+: quote t := by
  obtain ⟨x, y, rfl⟩ := h
  refine ⟨'"' :: x.flatMap quotePoint, y.flatMap quotePoint ++ [CodePoint.scalar '"'], ?_⟩
  rw [quote, List.flatMap_append, List.flatMap_append, flatMap_quotePoint hv.verbatim]
  simp

end

/-! ## What else can fail -/

section

variable {σ : Type} {options : Options σ}

theorem spliceOne_eq_error {marker code t : Text} {i : Nat} {w w' : World} {e : Failure}
    (h : (spliceOne options marker code i t).run w = (.error e, w')) :
    e = .placeholderMissing (token marker i) := by
  unfold spliceOne at h
  simp only at h
  split at h
  · cases h
    rfl
  · cases h

/-- Splicing fails only for want of a token. -/
theorem spliceFrom_eq_error {marker code : Text} {waiting : List Text} {k : Nat} {w w' : World}
    {e : Failure} (h : (spliceFrom options marker k waiting code).run w = (.error e, w')) :
    ∃ i, e = .placeholderMissing (token marker i) := by
  induction waiting generalizing k code w with
  | nil => cases h
  | cons t rest ih =>
    unfold spliceFrom at h
    rcases Task.run_bind_eq_error h with h | ⟨code', w₁, -, h⟩
    · exact ⟨k, spliceOne_eq_error h⟩
    · exact ih h

/-- Laying out after the caller's function has changed the code. -/
def formatted (formatter : Formatter) (options : Options σ) (code : Text) : Task Text := do
  if options.useFormatter then
    let given ← Task.ofExcept (optionMembers (← get).heap options.formatterOptions)
    let members := Members.overlay [(parserKey, defaultParser)] given
    Task.wrapFailure .formatting (formatter code (.mapping .dict members))
  else pure code

theorem layOut_eq (formatter : Formatter) (code : Text) :
    layOut formatter options code = (match options.beforeFormat with
      | some f => Task.ofExcept (f code)
      | none => pure code) >>= formatted formatter options := by
  unfold layOut
  cases options.beforeFormat with
  | none => rfl
  | some f => rfl

theorem optionMembers_eq_error {heap : Heap} {v : Value} {e : Failure}
    (h : optionMembers heap v = .error e) : ∃ t, e = .notMapping t := by
  unfold optionMembers at h
  split at h
  · split at h
    · cases h
    · cases h
      exact ⟨_, rfl⟩
  · cases h

/-- A formatter's own failures are reported as such. -/
theorem kind_of_formatted {formatter : Formatter} {code : Text} {w w' : World} {e : Failure}
    (h : (formatted formatter options code).run w = (.error e, w')) :
    e.kind ≠ .markerCollision := by
  unfold formatted at h
  split at h
  · rcases Task.run_bind_eq_error h with h | ⟨w₁, w₂, hget, h⟩
    · cases h
    rcases Task.run_bind_eq_error h with h | ⟨members, w₃, -, h⟩
    · cases hm : optionMembers w₁.heap options.formatterOptions with
      | ok members =>
        rw [hm] at h
        cases h
      | error e' =>
        rw [hm] at h
        cases h
        obtain ⟨t, rfl⟩ := optionMembers_eq_error hm
        exact nofun
    · unfold Task.wrapFailure at h
      simp only [ExceptT.run] at h
      split at h
      · cases h
      · cases h
        exact nofun
  · cases h

/-- Laying out fails with a collision exactly if the caller's function does. -/
theorem layOut_collides_iff {formatter : Formatter} {code : Text} {w : World} {e : Failure}
    (he : e.kind = .markerCollision) :
    ((layOut formatter options code).run w).1 = .error e ↔
      ∃ f, options.beforeFormat = some f ∧ f code = .error e := by
  rw [layOut_eq]
  cases hf : options.beforeFormat with
  | none =>
    constructor
    · intro h
      have h : ((formatted formatter options code).run w).1 = .error e := h
      exact absurd he (kind_of_formatted (Prod.ext h rfl))
    · rintro ⟨f, hf', -⟩
      cases hf'
  | some f =>
    simp only
    cases hcode : f code with
    | ok code' =>
      constructor
      · intro h
        have h : ((formatted formatter options code').run w).1 = .error e := h
        exact absurd he (kind_of_formatted (Prod.ext h rfl))
      · rintro ⟨f', hf', hcode'⟩
        cases hf'
        rw [hcode] at hcode'
        cases hcode'
    | error e' =>
      constructor
      · intro h
        have h : Except.error e' = (Except.error e : Except Failure Text) := h
        cases h
        exact ⟨f, rfl, hcode⟩
      · rintro ⟨f', hf', hcode'⟩
        cases hf'
        rw [hcode] at hcode'
        cases hcode'
        rfl

/-- A collision is reported for a marker that collides, or by the caller's function. -/
theorem finish_collides_iff (c : Converter) {skeleton : Text} {waiting : List Text} {w : World}
    {e : Failure} (he : e.kind = .markerCollision) :
    ((finish c options skeleton waiting).run w).1 = .error e ↔
      (Collides c.marker.text (options.opening ++ skeleton ++ options.closing) waiting ∧
        e = .markerCollision c.marker.text) ∨
      (¬ Collides c.marker.text (options.opening ++ skeleton ++ options.closing) waiting ∧
        ∃ f, options.beforeFormat = some f ∧
          f (options.opening ++ skeleton ++ options.closing) = .error e) := by
  by_cases h : Collides c.marker.text (options.opening ++ skeleton ++ options.closing) waiting
  · rw [finish_run_of_collides c h]
    constructor
    · intro heq
      exact Or.inl ⟨h, (Except.error.inj heq).symm⟩
    · rintro (⟨-, rfl⟩ | ⟨hnot, -⟩)
      · rfl
      · exact absurd h hnot
  · obtain ⟨w', hrun⟩ := finish_run_of_not_collides c h w
    rw [hrun]
    constructor
    · intro heq
      refine Or.inr ⟨h, ?_⟩
      have heq := Prod.ext (y := (Except.error e, _)) heq rfl
      rcases Task.run_bind_eq_error heq with hlay | ⟨code, w₁, -, hsplice⟩
      · exact (layOut_collides_iff he).1 (congrArg Prod.fst hlay)
      · rcases Task.run_bind_eq_error hsplice with hsplice | ⟨_, _, -, hpure⟩
        · obtain ⟨i, rfl⟩ := spliceFrom_eq_error hsplice
          cases he
        · cases hpure
    · rintro (⟨hcollides, -⟩ | ⟨-, hf⟩)
      · exact absurd hcollides h
      · have hlay : ((layOut c.formatter options _).run w').1 = .error e :=
          (layOut_collides_iff he).2 hf
        rw [Task.run_bind, Prod.ext (y := (Except.error e, _)) hlay rfl]

end

/-! ## Conversions that refuse their marker -/

section

variable {σ : Type} {options : Options σ} {marker : Text} {ps : List Piece}

theorem emit_wrapped (fill : Nat → Text → Text) (opening closing : Text) :
    opening ++ emit fill 0 (ps ++ [.plain closing]) = opening ++ emit fill 0 ps ++ closing := by
  rw [emit_append, emit, emit, List.append_nil, List.append_assoc]

theorem holes_wrapped (closing : Text) : holes (ps ++ [.plain closing]) = holes ps := by
  rw [holes_append, holes, holes, List.append_nil]

/-- The count that is made is that of stray markers. -/
theorem collides_iff_stray (hv : IsVerbatim marker) (opening closing : Text) :
    Collides marker (opening ++ emit (quotedToken marker) 0 ps ++ closing) (holes ps) ↔
      holes ps ≠ [] ∧ Stray marker opening 0 (ps ++ [.plain closing]) := by
  rw [stray_iff_lt_count hv, emit_wrapped, holes_wrapped, Collides]

/-- **The collision check is exact.** A conversion whose skeleton is printed refuses its marker
exactly if texts wait and the marker stands in the wrapped code where it overlaps the marker of
no token; only the function that changes the code before it is formatted may raise such a
failure as well. Otherwise each of the tokens stands in the wrapped code once, and no string of
the skeleton, key or value, holds the marker. -/
theorem refuses_iff_stray {c : Converter} (hv : IsVerbatim c.marker.text) {w : World} {v : Value}
    {s s' : σ} {text : Text} {waiting : List Text}
    (h : (skeleton w options c.marker.text v).run (s, []) = (.ok text, (s', waiting))) :
    ∃ gap p, Json.gap w.heap options.space = .ok gap ∧
      Prints w.heap options c.marker.text (options.backticks.getD w.settings.allowsBackticks) [] []
        v (s, []) p (s', waiting) ∧
      text = emit (quotedToken c.marker.text) 0 (p.skeleton gap) ∧
      holes (p.skeleton gap) = waiting ∧
      (∀ e, e.kind = .markerCollision → (((c.convert options v).run (w, s)).1 = .error e ↔
        (waiting ≠ [] ∧
          Stray c.marker.text options.opening 0 (p.skeleton gap ++ [.plain options.closing]) ∧
          e = .markerCollision c.marker.text) ∨
        (¬ (waiting ≠ [] ∧
          Stray c.marker.text options.opening 0 (p.skeleton gap ++ [.plain options.closing])) ∧
          ∃ f, options.beforeFormat = some f ∧
            f (options.opening ++ text ++ options.closing) = .error e))) ∧
      (¬ Stray c.marker.text options.opening 0 (p.skeleton gap ++ [.plain options.closing]) →
        (∀ i < waiting.length, ∃ x y, options.opening ++ text ++ options.closing =
            x ++ between '"' (token c.marker.text i) ++ y ∧
          ∀ n, StandsAt (token c.marker.text i) (options.opening ++ text ++ options.closing) n →
            n = x.length) ∧
        ∀ t, .quoted t ∈ p.skeleton gap →
          ¬ c.marker.text <:+: t ∧ ¬ c.marker.text <:+: quote t) := by
  obtain ⟨gap, p, hgap, hp, hheld, rfl⟩ := prints_of_skeleton h
  have hholes : holes (p.skeleton gap) = waiting := by rw [Printed.holes_skeleton, hheld]
  refine ⟨gap, p, hgap, hp, rfl, hholes, ?_, ?_⟩
  · intro e he
    rw [convert_of_skeleton h, finish_collides_iff c he, ← hholes, collides_iff_stray hv, and_assoc]
  · intro hstray
    rw [← emit_wrapped]
    constructor
    · intro i hi
      rw [← hholes, ← holes_wrapped options.closing] at hi
      exact exists_unique_place hv hstray (Nat.zero_le i) (by omega)
    · intro t ht
      have hquote := not_infix_quote hv hstray (List.mem_append_left _ ht)
      exact ⟨fun hin => hquote (hv.infix_quote hin), hquote⟩

def digitConverter : Converter := ⟨⟨"1", by decide⟩, Formatter.none⟩

def twoLines : Value := .sequence .list [.text "a\nb", .text "c\nd"]

/-- A marker of digits stands in the digits of its second token. -/
theorem refuses_iff_stray_digits :
    IsVerbatim digitConverter.marker.text ∧
    (skeleton {} (literalsOnly Unit true) digitConverter.marker.text twoLines).run ((), []) =
      (Except.ok (Text.ofString "[\"10\",\"11\"]"),
        ((), [Text.ofString "a\nb", Text.ofString "c\nd"])) ∧
    ((digitConverter.convert (literalsOnly Unit true) twoLines).run ({}, ())).1 =
      .error (.markerCollision "1") := by
  have hv : IsVerbatim digitConverter.marker.text := ⟨by decide, by decide⟩
  have h : (skeleton {} (literalsOnly Unit true) digitConverter.marker.text twoLines).run
      ((), []) = (Except.ok (Text.ofString "[\"10\",\"11\"]"),
        ((), [Text.ofString "a\nb", Text.ofString "c\nd"])) := rfl
  obtain ⟨gap, p, -, -, htext, hholes, hiff, -⟩ := refuses_iff_stray hv h
  refine ⟨hv, h, (hiff _ rfl).2 (Or.inl ⟨by simp, ?_, rfl⟩)⟩
  rw [stray_iff_lt_count hv, emit_wrapped, holes_wrapped, hholes, ← htext]
  decide

end

end JsLiteral
