import JsLiteral.Proofs.Skeleton

/-!
# Markers that are told apart

A marker that starts with a code point which JSON has in texts only, and which no escape
holds, is counted in a skeleton once for each token and once for each time it stands in a
text that is printed.

    count marker (opening ++ skeleton ++ closing) = number of tokens     (count_indented_skeleton)
-/

namespace JsLiteral.Placeholder

open Text Json

/-! ## Escapes -/

/-- What stands in an escape after its backslash. -/
def escapeMarks : Text := "\"\\/bfnrtu0123456789abcdef"

theorem exists_unitEscape {n : Nat} (hn : n < 0x10000) :
    ∃ e, unitEscape n = CodePoint.scalar '\\' :: e ∧ ∀ d ∈ e, d ∈ escapeMarks := by
  have hall : ∀ d < 16, CodePoint.scalar (Nat.digitChar d) ∈ escapeMarks := by decide
  refine ⟨CodePoint.scalar 'u' :: hex 4 n, rfl, fun d hd => ?_⟩
  rw [hex_four hn] at hd
  simp only [List.mem_cons, List.not_mem_nil, or_false] at hd
  rcases hd with rfl | rfl | rfl | rfl | rfl
  · decide
  · exact hall _ (by omega)
  · exact hall _ (by omega)
  · exact hall _ (by omega)
  · exact hall _ (by omega)

theorem mem_escapeMarks {l c : CodePoint} (h : shortEscaped? l = some c) : l ∈ escapeMarks := by
  unfold shortEscaped? at h
  split at h
  · rename_i hl
    rcases hl with rfl | rfl | rfl
    · decide
    · decide
    · decide
  split at h
  · rename_i hl
    exact hl ▸ by decide
  split at h
  · rename_i hl
    exact hl ▸ by decide
  split at h
  · rename_i hl
    exact hl ▸ by decide
  split at h
  · rename_i hl
    exact hl ▸ by decide
  split at h
  · rename_i hl
    exact hl ▸ by decide
  · cases h

/-- A code point is quoted as it is or by an escape. -/
theorem quotePoint_eq (c : CodePoint) : (quotePoint c = [c] ∧ isVerbatim c = true) ∨
    ∃ e, quotePoint c = CodePoint.scalar '\\' :: e ∧ ∀ d ∈ e, d ∈ escapeMarks := by
  unfold quotePoint
  split
  · rename_i e he
    rcases shortEscape?_eq_some he with ⟨l, rfl, -, hl⟩ | ⟨hc, rfl⟩
    · refine Or.inr ⟨[l], rfl, fun d hd => ?_⟩
      rw [List.mem_singleton.1 hd]
      exact mem_escapeMarks hl
    · exact Or.inr (exists_unitEscape (by omega))
  · split
    · rename_i hs
      cases c with
      | scalar c => cases hs
      | surrogate s =>
        refine Or.inr (exists_unitEscape ?_)
        show 0xD800 + s.val < 0x10000
        omega
    · rename_i hnone hs
      obtain ⟨h1, h2, h3⟩ := shortEscape?_eq_none hnone
      exact Or.inl ⟨rfl, by simp [isVerbatim, h1, h2, h3, hs]⟩

theorem isPrefix_of_flatMap {m t : Text} (hs : CodePoint.scalar '\\' ∉ m)
    (h : m <+: t.flatMap quotePoint) : m <+: t := by
  induction m generalizing t with
  | nil => exact List.nil_prefix
  | cons d m ih =>
    cases t with
    | nil => exact h
    | cons c t =>
      rw [List.flatMap_cons] at h
      rcases quotePoint_eq c with ⟨he, -⟩ | ⟨e, he, -⟩
      · rw [he, List.singleton_append, List.cons_prefix_cons] at h
        rw [List.cons_prefix_cons]
        exact ⟨h.1, ih (fun hm => hs (List.mem_cons_of_mem _ hm)) h.2⟩
      · rw [he, List.cons_append, List.cons_prefix_cons] at h
        exact absurd (h.1 ▸ List.mem_cons_self) hs

/-- What stands in a quoted text stands in the text. -/
theorem isInfix_of_flatMap {d : CodePoint} {m t : Text} (hs : CodePoint.scalar '\\' ∉ d :: m)
    (hd : d ∉ escapeMarks) (h : d :: m <:+: t.flatMap quotePoint) : d :: m <:+: t := by
  induction t with
  | nil => exact h
  | cons c t ih =>
    have hwhole : d :: m <+: (c :: t).flatMap quotePoint → d :: m <:+: c :: t :=
      fun hpre => (isPrefix_of_flatMap hs hpre).isInfix
    rw [List.flatMap_cons] at h hwhole
    rcases quotePoint_eq c with ⟨he, -⟩ | ⟨e, he, hmarks⟩
    · rw [he, List.singleton_append] at h hwhole
      rcases List.infix_cons_iff.1 h with hpre | hin
      · exact hwhole hpre
      · exact List.infix_cons (ih hin)
    · rw [he] at h
      obtain ⟨x, y, hxy⟩ := h
      have hde : d ∉ CodePoint.scalar '\\' :: e := by
        intro hm
        rcases List.mem_cons.1 hm with rfl | hm
        · exact hs List.mem_cons_self
        · exact hd (hmarks d hm)
      obtain ⟨u, -, hu⟩ := cut_after_head hde hxy
      exact List.infix_cons (ih ⟨u, y, hu.symm⟩)

/-! ## Counting in a skeleton -/

/-- What a skeleton starts and ends with if it has tokens. -/
def brackets : Text := "\"[]\x7b\x7d"

/-- A marker that only texts can hold a part of. -/
structure IsDistinct (marker : Text) : Prop extends IsVerbatim marker where
  head : ∃ d m, marker = d :: m ∧ isPlain d = false ∧ d ∉ escapeMarks
  not_bracket : ∀ c ∈ brackets, c ∉ marker

section

variable {marker : Text}

theorem IsDistinct.count_quote (hm : IsDistinct marker) {t : Text} (h : ¬ marker <:+: t)
    (r : Text) : count marker (quote t ++ r) = count marker r := by
  have hbody : count marker (t.flatMap quotePoint) = 0 := by
    obtain ⟨d, m, rfl, -, hd⟩ := hm.head
    rw [count_eq_zero_iff hm.ne_nil]
    exact fun hin => h (isInfix_of_flatMap hm.backslash_not_mem hd hin)
  rw [quote_append, count_cons_of_not_mem hm.ne_nil hm.quote_not_mem,
    count_append_cons hm.ne_nil hm.quote_not_mem, hbody, Nat.zero_add]

/-- What a skeleton holds on lines that are indented by spaces and tabs, if the marker stands in
none of its strings. -/
def unmarked (marker : Text) : Contents :=
  ⟨fun c => isPlain c = true ∨ c.isIndent = true, fun t => ¬ marker <:+: t, fun _ => True⟩

theorem IsDistinct.count_plain (hm : IsDistinct marker) {t : Text}
    (ht : Piece.Among (unmarked marker) (.plain t)) (r : Text) :
    count marker (t ++ r) = count marker r := by
  obtain ⟨d, m, rfl, hd, -⟩ := hm.head
  refine count_append_of_not_mem (fun h => ?_) r
  rcases ht d h with hplain | hindent
  · exact ne_of_isPlain hplain hd rfl
  · rw [CodePoint.isIndent, Bool.or_eq_true, beq_iff_eq, beq_iff_eq] at hindent
    rcases hindent with rfl | rfl
    · exact absurd hd (by decide)
    · exact absurd (hm.verbatim _ List.mem_cons_self) (by decide)

theorem IsDistinct.count_quotedToken (hm : IsDistinct marker) (i : Nat) (t r : Text) :
    count marker (quotedToken marker i t ++ r) = count marker r + 1 := by
  have hdigits : count marker (Text.ofNat i) = 0 := by
    have hplain : Piece.Among (unmarked marker) (.plain (Text.ofNat i)) :=
      fun c hc => Or.inl (isPlain_of_isDigit (isDigit_of_mem_ofNat hc))
    have h := hm.count_plain hplain []
    rwa [List.append_nil] at h
  have he : quotedToken marker i t ++ r = CodePoint.scalar '"' ::
      ((marker ++ Text.ofNat i) ++ CodePoint.scalar '"' :: r) := by
    rw [quotedToken, hm.quote_token]
    simp [between, token]
  rw [he, count_cons_of_not_mem hm.ne_nil hm.quote_not_mem,
    count_append_cons hm.ne_nil hm.quote_not_mem, count_append_self hm.ne_nil, hdigits]
  omega

theorem IsDistinct.count_emit (hm : IsDistinct marker) {ps : List Piece}
    (hp : ∀ p ∈ ps, p.Among (unmarked marker)) (n : Nat) :
    count marker (emit (quotedToken marker) n ps) = (holes ps).length := by
  induction ps generalizing n with
  | nil => rfl
  | cons p ps ih =>
    have ih' := ih fun q hq => hp q (List.mem_cons_of_mem _ hq)
    have hfirst := hp p List.mem_cons_self
    cases p with
    | plain t => rw [emit, hm.count_plain hfirst, ih', holes]
    | quoted t => rw [emit, hm.count_quote hfirst, ih', holes]
    | hole t => rw [emit, hm.count_quotedToken, ih', holes, List.length_cons]

end

/-! ## Counting between two texts -/

section

variable (choose : Text → Bool) (gap : Text)

theorem suffix_emit_piecesItems (fill : Nat → Text → Text) (indent : Text) (mark : CodePoint)
    (trees : List Tree) (n : Nat) :
    [CodePoint.scalar ']'] <:+ emit fill n (piecesItems choose gap indent mark trees) := by
  induction trees generalizing mark n with
  | nil => exact ⟨trail gap indent, by rw [piecesItems, emit, emit, List.append_nil]⟩
  | cons tree rest ih =>
    rw [piecesItems, emit, emit_append]
    exact List.suffix_append_of_suffix (List.suffix_append_of_suffix (ih _ _))

theorem suffix_emit_piecesMembers (fill : Nat → Text → Text) (indent : Text) (mark : CodePoint)
    (trees : List (Text × Tree)) (n : Nat) :
    [CodePoint.scalar '\x7d'] <:+ emit fill n (piecesMembers choose gap indent mark trees) := by
  induction trees generalizing mark n with
  | nil => exact ⟨trail gap indent, by rw [piecesMembers, emit, emit, List.append_nil]⟩
  | cons member rest ih =>
    obtain ⟨name, tree⟩ := member
    rw [piecesMembers, emit, emit, emit, emit_append]
    refine List.suffix_append_of_suffix (List.suffix_append_of_suffix ?_)
    exact List.suffix_append_of_suffix (List.suffix_append_of_suffix (ih _ _))

variable {choose}

/-- A skeleton with tokens is a token or a container. -/
theorem exists_emit_brackets (marker indent : Text) {tree : Tree}
    (h : tree.texts.filter choose ≠ []) (hv : IsVerbatim marker) :
    ∃ o x c, emit (quotedToken marker) 0 (pieces choose gap indent tree) = o :: (x ++ [c]) ∧
      o ∈ brackets ∧ c ∈ brackets := by
  cases tree with
  | null => exact absurd rfl h
  | bool b => exact absurd rfl h
  | int n => exact absurd rfl h
  | float x => exact absurd rfl h
  | text t =>
    have ht : choose t = true := by
      obtain ⟨u, hu⟩ := List.exists_mem_of_ne_nil _ h
      obtain ⟨hmem, hc⟩ := List.mem_filter.1 hu
      rwa [← List.mem_singleton.1 (show u ∈ [t] from hmem)]
    refine ⟨'"', token marker 0, '"', ?_, by decide, by decide⟩
    rw [pieces, if_pos ht, emit, emit, List.append_nil, quotedToken, hv.quote_token, between]
  | list trees =>
    cases trees with
    | nil => exact absurd rfl h
    | cons tree rest =>
      obtain ⟨y, hy⟩ := suffix_emit_piecesItems choose gap (quotedToken marker)
        indent ',' rest (0 + (holes (pieces choose gap (indent ++ gap) tree)).length)
      refine ⟨'[', lead gap indent ++
        (emit (quotedToken marker) 0 (pieces choose gap (indent ++ gap) tree) ++ y), ']', ?_,
        by decide, by decide⟩
      show emit _ 0 (piecesItems choose gap indent '[' (tree :: rest)) = _
      rw [piecesItems, emit, emit_append, ← hy]
      simp
  | object members =>
    cases members with
    | nil => exact absurd rfl h
    | cons member rest =>
      obtain ⟨name, tree⟩ := member
      obtain ⟨y, hy⟩ := suffix_emit_piecesMembers choose gap
        (quotedToken marker) indent ',' rest
        (0 + (holes (pieces choose gap (indent ++ gap) tree)).length)
      refine ⟨'\x7b', lead gap indent ++ (quote name ++ (colon gap ++
        (emit (quotedToken marker) 0 (pieces choose gap (indent ++ gap) tree) ++ y))), '\x7d', ?_,
        by decide, by decide⟩
      show emit _ 0 (piecesMembers choose gap indent '\x7b' ((name, tree) :: rest)) = _
      rw [piecesMembers, emit, emit, emit, emit_append, ← hy]
      simp

variable {gap} {marker : Text}

/-- A marker that stands in no text and in none of the two texts around the skeleton is
counted once for each token. -/
theorem count_indented_skeleton (hm : IsDistinct marker) (hg : IsIndent gap) {tree : Tree}
    (htexts : ∀ t ∈ tree.texts, ¬ marker <:+: t) (hnames : ∀ t ∈ tree.names, ¬ marker <:+: t)
    {opening closing : Text} (hopening : ¬ marker <:+: opening) (hclosing : ¬ marker <:+: closing)
    (hnil : tree.texts.filter choose ≠ []) :
    count marker (opening ++ emit (quotedToken marker) 0 (pieces choose gap [] tree) ++ closing) =
      (tree.texts.filter choose).length := by
  have hlays : (unmarked marker).Lays gap :=
    ⟨fun _ hd _ => Or.inl hd, Or.inr ⟨Or.inl (by decide), fun d hd => Or.inr (hg d hd)⟩⟩
  have hamong : ∀ p ∈ pieces choose gap [] tree, p.Among (unmarked marker) :=
    Tree.among_pieces hlays (fun _ hd => absurd hd List.not_mem_nil) tree
      (fun t ht => ⟨htexts t ht, trivial⟩) hnames
  have hskeleton := hm.count_emit hamong 0
  rw [holes_pieces] at hskeleton
  obtain ⟨o, x, c, he, ho, hc⟩ := exists_emit_brackets gap marker [] hnil hm.toIsVerbatim
  have ho' : o ∉ marker := hm.not_bracket o ho
  have hc' : c ∉ marker := hm.not_bracket c hc
  have hcut : opening ++ o :: (x ++ [c]) ++ closing = opening ++ o :: (x ++ c :: closing) := by simp
  rw [he] at hskeleton ⊢
  rw [count_cons_of_not_mem hm.ne_nil ho', count_append_cons hm.ne_nil hc'] at hskeleton
  rw [hcut, count_append_cons hm.ne_nil ho', count_append_cons hm.ne_nil hc',
    (count_eq_zero_iff hm.ne_nil).2 hopening, (count_eq_zero_iff hm.ne_nil).2 hclosing, ← hskeleton]
  rw [show count marker [] = 0 from rfl, Nat.zero_add]

theorem count_skeleton (hm : IsDistinct marker) (hg : IsSpaces gap) {tree : Tree}
    (htexts : ∀ t ∈ tree.texts, ¬ marker <:+: t) (hnames : ∀ t ∈ tree.names, ¬ marker <:+: t)
    {opening closing : Text} (hopening : ¬ marker <:+: opening) (hclosing : ¬ marker <:+: closing)
    (hnil : tree.texts.filter choose ≠ []) :
    count marker (opening ++ emit (quotedToken marker) 0 (pieces choose gap [] tree) ++ closing) =
      (tree.texts.filter choose).length :=
  count_indented_skeleton hm (fun d hd => hg d hd ▸ rfl) htexts hnames hopening hclosing hnil

end

end JsLiteral.Placeholder
