import JsLiteral.Proofs.Collision
import JsLiteral.Proofs.Edges
import JsLiteral.Proofs.Pairing

/-!
# What is left of a marker

Once texts wait, the collision check leaves the marker in tokens only, whatever the caller's
replacer makes of the nodes, and each token goes when its literal comes. A marker may still
come about where a literal meets the code around it; it does not if the part of it in that code
has a code point which stands in strings only. If nothing waits nothing is checked, and a token
that the caller answers in another shape stays.

    no marker is left    (not_infix_convert)
-/

namespace JsLiteral

open Text Template Json Placeholder Evaluation Skeleton

/-! ## Texts in values -/

/-- A text stands in a value, as a text or as the name of a member. Containers that the value
refers to are parts of it. -/
inductive Holds (heap : Heap) : Value → Text → Prop
  | text (t : Text) : Holds heap (.text t) t
  | item {v u : Value} {kind : SequenceKind} {items : List Value} {t : Text} :
    v.container? heap = some (.sequence kind items) → u ∈ items → Holds heap u t → Holds heap v t
  | name {v : Value} {kind : MappingKind} {members : Members} {m : Key × Value} {t : Text} :
    v.container? heap = some (.mapping kind members) → m ∈ members → memberName m.1 = .ok t →
      Holds heap v t
  | member {v : Value} {kind : MappingKind} {members : Members} {m : Key × Value} {t : Text} :
    v.container? heap = some (.mapping kind members) → m ∈ members → Holds heap m.2 t →
      Holds heap v t

section

variable {heap : Heap}

/-- A value without parts holds no text but itself. -/
theorem eq_text_of_holds {v : Value} {t : Text} (hv : v.container? heap = none)
    (h : Holds heap v t) : v = .text t := by
  cases h with
  | text => rfl
  | item hc => rw [hv] at hc; cases hc
  | name hc => rw [hv] at hc; cases hc
  | member hc => rw [hv] at hc; cases hc

theorem holds_sequence_iff {kind : SequenceKind} {items : List Value} {t : Text} :
    Holds heap (.sequence kind items) t ↔ ∃ u ∈ items, Holds heap u t := by
  constructor
  · intro h
    cases h with
    | item hc hu ht =>
      cases hc
      exact ⟨_, hu, ht⟩
    | name hc => cases hc
    | member hc => cases hc
  · rintro ⟨u, hu, ht⟩
    exact .item rfl hu ht

theorem holds_mapping_iff {kind : MappingKind} {members : Members} {t : Text} :
    Holds heap (.mapping kind members) t ↔
      ∃ m ∈ members, memberName m.1 = .ok t ∨ Holds heap m.2 t := by
  constructor
  · intro h
    cases h with
    | item hc => cases hc
    | name hc hm ht =>
      cases hc
      exact ⟨_, hm, Or.inl ht⟩
    | member hc hm ht =>
      cases hc
      exact ⟨_, hm, Or.inr ht⟩
  · rintro ⟨m, hm, ht | ht⟩
    · exact .name rfl hm ht
    · exact .member rfl hm ht

end

/-! ## Answers -/

/-- What a replacer may answer to what it is shown: null or the omission, the value itself, a
value without the marker, the text with texts without the marker before and after it, or the
value as the one item of a sequence or the one member of a mapping. -/
inductive Fair (heap : Heap) (marker : Text) (shown : Value) : Value → Prop
  | keep : Fair heap marker shown .null
  | drop : Fair heap marker shown .absent
  | same : Fair heap marker shown shown
  | constant {u : Value} : (∀ t, Holds heap u t → ¬ marker <:+: t) → Fair heap marker shown u
  | extended {a t b : Text} : shown = .text t → ¬ marker <:+: a → ¬ marker <:+: b →
    Fair heap marker shown (.text (a ++ t ++ b))
  | item (kind : SequenceKind) : Fair heap marker shown (.sequence kind [shown])
  | member (kind : MappingKind) {name : Text} : ¬ marker <:+: name →
    Fair heap marker shown (.mapping kind [(.text name, shown)])

section

variable {σ : Type} {options : Options σ}

/-- The caller's replacer answers `u` to `shown` at some point. -/
def Answers (options : Options σ) (shown u : Value) : Prop :=
  ∃ f key s s', options.replacer = some f ∧ (f key shown).run s = (.ok u, s')

/-- What is made of a candidate is the candidate or what the caller's replacer answers. -/
theorem answer_cases {key : Text} {candidate u : Value} {s r : σ}
    (h : (answer options key candidate).run s = (.ok u, r)) :
    u = candidate ∨ Answers options candidate u := by
  unfold answer at h
  cases hr : options.replacer with
  | none =>
    rw [hr] at h
    cases h
    exact Or.inl rfl
  | some f =>
    rw [hr] at h
    obtain ⟨result, s₁, hf, hrest⟩ := Task.run_bind_eq_ok h
    cases result with
    | null =>
      cases hrest
      exact Or.inl rfl
    | _ =>
      cases hrest
      exact Or.inr ⟨f, key, s, _, hr, hf⟩

theorem shown_cases {marker : Text} {backticks : Bool} (waiting : List Text) (v : Value) :
    shown options marker backticks waiting v = v ∨
      ∃ t, tokenFor? options marker backticks waiting v =
          some (token marker waiting.length, t) ∧
        shown options marker backticks waiting v = .text (token marker waiting.length) := by
  cases v with
  | text t =>
    by_cases ht : chosen options backticks t = true
    · have htoken : tokenFor? options marker backticks waiting (.text t) =
          some (token marker waiting.length, t) := by rw [tokenFor?_text, if_pos ht]
      exact Or.inr ⟨t, htoken, by rw [shown, htoken]⟩
    · exact Or.inl (by rw [shown, tokenFor?_text, if_neg ht])
  | _ => exact Or.inl rfl

end

/-! ## What a walk carries -/

/-- A code point that neither JSON nor the options put outside of strings. -/
structure InStringsOnly {σ : Type} (heap : Heap) (options : Options σ) (e : CodePoint) : Prop where
  not_plain : isPlain e = false
  not_undefined : e ∉ ("undefined" : Text)
  not_gap : ∀ gap, Json.gap heap options.space = .ok gap → e ∉ gap
  not_opening : e ∉ options.opening
  not_closing : e ∉ options.closing
  not_templateOpening : e ∉ options.templateOpening ++ [backtick]
  not_templateClosing : e ∉ backtick :: options.templateClosing

section

variable {σ : Type} {heap : Heap} {options : Options σ} {marker : Text} {backticks : Bool}

/-- The code points outside of strings, with any condition on texts. -/
def plainContents (heap : Heap) (options : Options σ) (quoted held : Text → Prop) : Contents :=
  ⟨fun d => ¬ InStringsOnly heap options d, quoted, held⟩

theorem not_inStringsOnly_of_isPlain {d : CodePoint} (hd : isPlain d = true) :
    ¬ InStringsOnly heap options d := by
  intro h
  rw [h.not_plain] at hd
  cases hd

theorem lays_plainContents {gap : Text} (hgap : Json.gap heap options.space = .ok gap)
    (quoted held : Text → Prop) : (plainContents heap options quoted held).Lays gap where
  mark := fun _ hd _ => not_inStringsOnly_of_isPlain hd
  line := Or.inr ⟨not_inStringsOnly_of_isPlain (by decide), fun _ hd h => h.not_gap gap hgap hd⟩

/-- The texts in a value that hold the marker are on one line, so they are never eligible. -/
def Tame (heap : Heap) (marker : Text) (v : Value) : Prop :=
  ∀ t, Holds heap v t → marker <:+: t → newline ∉ t

/-- The marker does not stand in the literals of the texts in a value. -/
def Lacks (heap : Heap) (marker : Text) (v : Value) : Prop :=
  ∀ t, Holds heap v t → ¬ marker <:+: quote t

/-- No text in a value is shown as a token. -/
def Unchosen (heap : Heap) (options : Options σ) (backticks : Bool) (v : Value) : Prop :=
  ∀ t, Holds heap v t → chosen options backticks t = false

theorem tame_shown (hv : IsVerbatim marker) (waiting : List Text) {v : Value}
    (h : Tame heap marker v) : Tame heap marker (shown options marker backticks waiting v) := by
  have hcases : shown options marker backticks waiting v = v ∨ _ := shown_cases waiting v
  rcases hcases with he | ⟨t, -, he⟩
  · rwa [he]
  · rw [he]
    intro u hu _
    cases eq_text_of_holds rfl hu
    exact not_mem_token hv.newline_not_mem (by decide) _

theorem tame_of_fair {shown u : Value} (h : Tame heap marker shown)
    (hu : Fair heap marker shown u) : (∃ t, u = .text t) ∨ Tame heap marker u := by
  cases hu with
  | keep => exact Or.inr fun t ht => nomatch eq_text_of_holds rfl ht
  | drop => exact Or.inr fun t ht => nomatch eq_text_of_holds rfl ht
  | same => exact Or.inr h
  | constant hfree => exact Or.inr fun t ht hin => absurd hin (hfree t ht)
  | extended => exact Or.inl ⟨_, rfl⟩
  | item =>
    refine Or.inr fun t ht => ?_
    obtain ⟨v, hv, ht⟩ := holds_sequence_iff.1 ht
    exact h t (List.mem_singleton.1 hv ▸ ht)
  | member _ hname =>
    refine Or.inr fun t ht hin => ?_
    obtain ⟨m, hm, ht⟩ := holds_mapping_iff.1 ht
    rw [List.mem_singleton.1 hm] at ht
    rcases ht with hkey | ht
    · cases hkey
      exact absurd hin hname
    · exact h t ht hin

/-- Eligible texts that the walk meets do not hold the marker. -/
theorem carries_tame (hv : IsVerbatim marker)
    (hfair : ∀ shown u, Answers options shown u → Fair heap marker shown u) :
    Carries heap options marker backticks
      (plainContents heap options (fun _ => True) fun t => ¬ marker <:+: t)
      (Tame heap marker) (fun u => (∃ t, u = .text t) ∨ Tame heap marker u) where
  left_of_leaves := fun {key v u s r} htame hleaves => by
    have hshown : Tame heap marker (shown options marker backticks s.2 v) :=
      tame_shown hv s.2 htame
    rcases answer_cases hleaves.answered with rfl | hanswers
    · exact Or.inr hshown
    · exact tame_of_fair hshown (hfair _ _ hanswers)
  token_of_keeps := fun {key t s r} htame hkeeps hin => by
    have hchosen := hkeeps.chosen
    have hline : newline ∈ t := by
      simp only [chosen, isEligible, Bool.and_eq_true, List.contains_iff_mem] at hchosen
      exact hchosen.2.1.1.1.1
    exact htame t (.text t) hin hline
  word := fun ht d hd => not_inStringsOnly_of_isPlain (isPlain_of_word? ht d hd).1
  text := fun _ => trivial
  items := fun hu hc v hm => by
    rcases hu with ⟨t, rfl⟩ | htame
    · cases hc
    · exact fun t ht => htame t (.item hc hm ht)
  members := fun hu hc m hm => by
    rcases hu with ⟨t, rfl⟩ | htame
    · cases hc
    · exact ⟨fun t ht => htame t (.member hc hm ht), fun _ _ => trivial⟩

/-- What is walked and what the caller's replacer makes of it lack the marker, and a token is
left in its place or gives way to what lacks the marker, if any text is chosen at all. -/
structure Untouched (heap : Heap) (options : Options σ) (marker : Text) (backticks : Bool)
    (v : Value) : Prop where
  lacks : Lacks heap marker v
  answers : ∀ shown u, Answers options shown u → Lacks heap marker shown → Lacks heap marker u
  tokens :
    (∀ n u, Answers options (.text (token marker n)) u →
      u = .text (token marker n) ∨ Lacks heap marker u) ∨
    (Unchosen heap options backticks v ∧ ∀ shown u, Answers options shown u →
      Unchosen heap options backticks shown → Unchosen heap options backticks u)

/-- What is left in the place of an untouched node is untouched. -/
theorem Untouched.left_of_leaves {key : Text} {v u : Value} {s : Pending σ} {r : σ}
    (h : Untouched heap options marker backticks v)
    (hleaves : Leaves options marker backticks key v s u r) :
    Untouched heap options marker backticks u := by
  rcases shown_cases s.2 v with heq | ⟨t, htoken, heq⟩
  · -- the node itself is shown
    have hanswered := answer_cases hleaves.answered
    rw [heq] at hanswered
    rcases hanswered with rfl | hanswers
    · exact h
    · refine ⟨h.answers _ _ hanswers h.lacks, h.answers, ?_⟩
      rcases h.tokens with htokens | ⟨hunchosen, hrest⟩
      · exact Or.inl htokens
      · exact Or.inr ⟨hrest _ _ hanswers hunchosen, hrest⟩
  · -- a token is shown, and it is not left
    have hne := hleaves.not_token _ t htoken
    have hanswered := answer_cases hleaves.answered
    rw [heq] at hanswered
    rcases h.tokens with htokens | ⟨hunchosen, -⟩
    · rcases hanswered with hu | hanswers
      · exact absurd hu hne
      · exact ⟨(htokens _ _ hanswers).resolve_left hne, h.answers, Or.inl htokens⟩
    · cases v with
      | text t' =>
        rw [tokenFor?_text, hunchosen t' (.text t')] at htoken
        cases htoken
      | _ => cases htoken

/-- A part of an untouched value is untouched. -/
theorem Untouched.of_holds {v u : Value} (h : Untouched heap options marker backticks v)
    (hu : ∀ t, Holds heap u t → Holds heap v t) : Untouched heap options marker backticks u where
  lacks := fun t ht => h.lacks t (hu t ht)
  answers := h.answers
  tokens := h.tokens.imp_right fun hrest => ⟨fun t ht => hrest.1 t (hu t ht), hrest.2⟩

/-- What is printed of an untouched value without tokens lacks the marker. -/
theorem carries_untouched : Carries heap options marker backticks
    (plainContents heap options (fun t => ¬ marker <:+: quote t) fun _ => True)
    (Untouched heap options marker backticks) (Untouched heap options marker backticks) where
  left_of_leaves := Untouched.left_of_leaves
  token_of_keeps := fun _ _ => trivial
  word := fun ht d hd => not_inStringsOnly_of_isPlain (isPlain_of_word? ht d hd).1
  text := fun h => h.lacks _ (.text _)
  items := fun h hc _ hm => h.of_holds fun _ ht => .item hc hm ht
  members := fun h hc _ hm =>
    ⟨h.of_holds fun _ ht => .member hc hm ht, fun _ ht => h.lacks _ (.name hc hm ht)⟩

end

/-! ## Conversions -/

section

variable {σ : Type} {heap : Heap} {options : Options σ} {marker : Text}

/-- The marker does not come about where a literal meets other code: it does not stand in what
opens or closes literals, nor start in an indentation, and a part of it that stands beyond such
an edge has a code point of strings. -/
structure Apart (heap : Heap) (options : Options σ) (marker : Text) : Prop where
  head : ∀ d ∈ marker.head?, d.isIndent = false
  opening : ¬ marker <:+: options.templateOpening ++ [backtick]
  closing : ¬ marker <:+: backtick :: options.templateClosing
  before : ∀ v u, marker = v ++ u → v ≠ [] → u ≠ [] →
    u <+: options.templateOpening ++ [backtick] → ∃ e ∈ v, InStringsOnly heap options e
  after : ∀ v u, marker = v ++ u → v ≠ [] → u ≠ [] →
    v <:+ backtick :: options.templateClosing → ∃ e ∈ u, InStringsOnly heap options e

/-- A code point of strings keeps the marker apart. -/
theorem apart_of_inStringsOnly (hhead : ∀ d ∈ marker.head?, d.isIndent = false) {e : CodePoint}
    (he : e ∈ marker) (hs : InStringsOnly heap options e) : Apart heap options marker where
  head := hhead
  opening := fun hin => hs.not_templateOpening (hin.subset he)
  closing := fun hin => hs.not_templateClosing (hin.subset he)
  before := by
    rintro v u rfl - - hu
    rcases List.mem_append.1 he with hv | hmem
    · exact ⟨e, hv, hs⟩
    · exact absurd (hu.subset hmem) hs.not_templateOpening
  after := by
    rintro v u rfl - - hv
    rcases List.mem_append.1 he with hmem | hu
    · exact absurd (hv.subset hmem) hs.not_templateClosing
    · exact ⟨e, hu, hs⟩

/-- No marker comes about where a literal begins. -/
theorem Apart.not_infix_opening (h : Apart heap options marker) {a : Text}
    (ha : ¬ marker <:+: a) (hf : Fenced (InStringsOnly heap options) marker a) :
    ¬ marker <:+: a ++ (options.templateOpening ++ [backtick]) := by
  refine Text.not_infix_append ha h.opening fun v u heq hv hu hva hup => ?_
  obtain ⟨d, hd, hm⟩ := hf.right v hva (h.before v u heq hv hu hup)
  exact hm (heq ▸ List.mem_append_left u hd)

/-- No marker comes about where a literal ends. -/
theorem Apart.not_infix_closing (h : Apart heap options marker) {a : Text}
    (ha : ¬ marker <:+: a) (hf : Fenced (InStringsOnly heap options) marker a) :
    ¬ marker <:+: backtick :: options.templateClosing ++ a := by
  refine Text.not_infix_append h.closing ha fun v u heq hv hu hvs hua => ?_
  obtain ⟨d, hd, hm⟩ := hf.left u hua (h.after v u heq hv hu hvs)
  exact hm (heq ▸ List.mem_append_right v hd)

theorem not_collides_of_finish {c : Converter} {skeleton : Text} {waiting : List Text}
    {w w' : World} {r : Conversion}
    (h : (finish c options skeleton waiting).run w = (.ok r, w')) :
    ¬ Collides c.marker.text (options.opening ++ skeleton ++ options.closing) waiting := by
  intro hc
  rw [finish_run_of_collides c hc] at h
  cases h

/-- The gaps of wrapped code are fenced. -/
theorem fenced_gaps (hv : IsVerbatim marker) {quoted held : Text → Prop} {ps : List Piece}
    (hps : ∀ p ∈ ps, p.Among (plainContents heap options quoted held)) :
    Fenced (InStringsOnly heap options) marker
        (options.opening ++ (gaps (ps ++ [.plain options.closing])).1) ∧
      ∀ g ∈ (gaps (ps ++ [.plain options.closing])).2,
        Fenced (InStringsOnly heap options) marker g := by
  have hgaps : Fenced (InStringsOnly heap options) marker
      (gaps (ps ++ [.plain options.closing])).1 ∧
        ∀ g ∈ (gaps (ps ++ [.plain options.closing])).2,
          Fenced (InStringsOnly heap options) marker g := by
    refine forall_gaps (fenced_of_forall_not fun _ hd => absurd hd List.not_mem_nil)
      Fenced.append ?_ fun t _ => fenced_quote hv.quote_not_mem t
    intro t ht
    rcases List.mem_append.1 ht with ht | ht
    · exact fenced_of_forall_not (hps _ ht)
    · cases List.mem_singleton.1 ht
      exact fenced_of_forall_not fun _ hd h => h.not_closing hd
  exact ⟨(fenced_of_forall_not fun _ hd h => h.not_opening hd).append hgaps.1, hgaps.2⟩

/-- If texts wait, the check leaves the marker in tokens only, and splicing takes these. -/
theorem finish_free {c : Converter} (hv : IsVerbatim c.marker.text)
    (hbefore : options.beforeFormat = none) (hformat : options.useFormatter = false)
    (hapart : Apart heap options c.marker.text) {quoted : Text → Prop} {ps : List Piece}
    (hps : ∀ p ∈ ps, p.Among
      (plainContents heap options quoted fun t => ¬ c.marker.text <:+: t))
    (hwaiting : holes ps ≠ []) {w w' : World} {r : Conversion}
    (h : (finish c options (emit (quotedToken c.marker.text) 0 ps) (holes ps)).run w =
      (.ok r, w')) : ¬ c.marker.text <:+: r.code := by
  have hcollides := not_collides_of_finish h
  obtain ⟨w₁, hrun⟩ := finish_run hbefore hformat c hcollides w
  rw [collides_iff_stray hv, not_and] at hcollides
  obtain ⟨hfree, hgaps⟩ := not_infix_gaps hv (hcollides hwaiting)
  obtain ⟨hfirst, hrest⟩ := fenced_gaps hv hps
  have hlen : (gaps (ps ++ [.plain options.closing])).2.length = (holes ps).length := by
    rw [length_gaps, holes_wrapped]
  have hedges : ∀ g ∈ (gaps (ps ++ [.plain options.closing])).2, ¬ c.marker.text <:+:
      backtick :: options.templateClosing ++ g ++ (options.templateOpening ++ [backtick]) := by
    intro g hg
    have hclosing : Fenced (InStringsOnly heap options) c.marker.text
        (backtick :: options.templateClosing) :=
      fenced_of_forall_not fun _ hd h => h.not_templateClosing hd
    exact hapart.not_infix_opening (hapart.not_infix_closing (hgaps g hg) (hrest g hg))
      (hclosing.append (hrest g hg))
  obtain ⟨code, w₂, hsplice, hcode⟩ := spliceFrom_free hv hapart.head (holes ps) hlen
    (hapart.not_infix_opening hfree hfirst) hedges (fun t ht => hps _ (mem_of_mem_holes ht)) w₁
  rw [List.append_assoc, ← emit_quotedToken hv, emit_wrapped] at hsplice
  rw [hrun, Task.run_bind, hsplice] at h
  cases h
  exact hcode

/-- If nothing waits, the code is the skeleton. -/
theorem finish_free_of_holes {c : Converter} (hv : IsVerbatim c.marker.text)
    (hbefore : options.beforeFormat = none) (hformat : options.useFormatter = false)
    (hinner : ∃ e ∈ c.marker.text, InStringsOnly heap options e) {held : Text → Prop}
    {ps : List Piece} (hps : ∀ p ∈ ps, p.Among
      (plainContents heap options (fun t => ¬ c.marker.text <:+: quote t) held))
    (hwaiting : holes ps = []) {w w' : World} {r : Conversion}
    (h : (finish c options (emit (quotedToken c.marker.text) 0 ps) (holes ps)).run w =
      (.ok r, w')) : ¬ c.marker.text <:+: r.code := by
  obtain ⟨w₁, hrun⟩ := finish_run hbefore hformat c (not_collides_of_finish h) w
  rw [hrun, hwaiting] at h
  cases h
  have hplain : ∀ {a : Text}, (∀ d ∈ a, ¬ InStringsOnly heap options d) →
      Fenced (InStringsOnly heap options) c.marker.text a ∧ ¬ c.marker.text <:+: a := by
    intro a ha
    obtain ⟨e, he, hs⟩ := hinner
    exact ⟨fenced_of_forall_not ha, fun hin => ha e (hin.subset he) hs⟩
  have happend : ∀ {a b : Text},
      Fenced (InStringsOnly heap options) c.marker.text a ∧ ¬ c.marker.text <:+: a →
      Fenced (InStringsOnly heap options) c.marker.text b ∧ ¬ c.marker.text <:+: b →
      Fenced (InStringsOnly heap options) c.marker.text (a ++ b) ∧ ¬ c.marker.text <:+: a ++ b :=
    fun ha hb => ⟨ha.1.append hb.1, ha.1.not_infix_append hinner hb.1 ha.2 hb.2⟩
  have hgaps := (forall_gaps (hplain fun _ hd => absurd hd List.not_mem_nil) happend
    (fun t ht => hplain (hps (.plain t) ht))
    fun t ht => ⟨fenced_quote hv.quote_not_mem t, hps (.quoted t) ht⟩).1
  have hnone : (gaps ps).2 = [] := by
    rw [← List.length_eq_zero_iff, length_gaps, hwaiting, List.length_nil]
  rw [emit_quotedToken hv, hnone, tokens, weave, List.append_nil]
  exact (happend (happend (hplain fun _ hd h => h.not_opening hd) hgaps)
    (hplain fun _ hd h => h.not_closing hd)).2

/-- **No marker is left in the code** of a conversion that succeeds without a formatter, if the
value and what the caller's replacer adds do not hold the marker. If some text has waited the
marker has to stay apart from the literals, and else it has to be told from what stands outside
of strings, and no escape and no answer may bring it about. -/
theorem not_infix_convert {c : Converter} (hv : IsVerbatim c.marker.text)
    (hbefore : options.beforeFormat = none) (hformat : options.useFormatter = false)
    {w w' : World} {v : Value} {s s' : σ} {r : Conversion}
    (hvalue : ∀ t, Holds w.heap v t → ¬ c.marker.text <:+: t)
    (hfair : ∀ shown u, Answers options shown u → Fair w.heap c.marker.text shown u)
    (h : (c.convert options v).run (w, s) = (.ok r, (w', s')))
    (hused : r.usedTemplates = true → Apart w.heap options c.marker.text)
    (hunused : r.usedTemplates = false →
      (∃ e ∈ c.marker.text, InStringsOnly w.heap options e) ∧
        Untouched w.heap options c.marker.text
          (options.backticks.getD w.settings.allowsBackticks) v) :
    ¬ c.marker.text <:+: r.code := by
  obtain ⟨text, waiting, hskeleton, hfinish⟩ := skeleton_of_convert h
  obtain ⟨gap, p, hgap, hp, hheld, rfl⟩ := prints_of_skeleton hskeleton
  have hholes : holes (p.skeleton gap) = waiting := by rw [Printed.holes_skeleton, hheld]
  have htemplates := usedTemplates_of_convert hskeleton h
  rw [← hholes] at hfinish htemplates
  have hundefined : ∀ d ∈ ("undefined" : Text), ¬ InStringsOnly w.heap options d :=
    fun _ hd h => h.not_undefined hd
  by_cases hwaiting : holes (p.skeleton gap) = []
  · rw [hwaiting] at htemplates
    obtain ⟨hinner, huntouched⟩ := hunused htemplates
    exact finish_free_of_holes hv hbefore hformat hinner
      (Printed.among_skeleton (lays_plainContents hgap _ _) hundefined
        (Prints.has carries_untouched p hp huntouched)) hwaiting hfinish
  · rw [List.isEmpty_eq_false_iff.2 hwaiting] at htemplates
    have htame : Tame w.heap c.marker.text v := fun t ht hin => absurd hin (hvalue t ht)
    exact finish_free hv hbefore hformat (hused htemplates)
      (Printed.among_skeleton (lays_plainContents hgap _ _) hundefined
        (Prints.has (carries_tame hv hfair) p hp htame)) hwaiting hfinish

/-- A replacer that puts the values with one key into lists. -/
def wrapping (name : Text) : Options Unit where
  useFormatter := false
  useTemplates := true
  replacer := some (.ofFun fun key v =>
    if key = name then .ok (.sequence .list [v]) else .ok .null)

theorem answers_wrapping {name : Text} {shown u : Value} (h : Answers (wrapping name) shown u) :
    u = .null ∨ u = .sequence .list [shown] := by
  obtain ⟨f, key, s, s', hf, hrun⟩ := h
  cases hf
  unfold Json.Replacer.ofFun at hrun
  by_cases hk : key = name
  · simp only [if_pos hk] at hrun
    cases hrun
    exact Or.inr rfl
  · simp only [if_neg hk] at hrun
    cases hrun
    exact Or.inl rfl

theorem fair_wrapping {name marker : Text} (shown u : Value)
    (h : Answers (wrapping name) shown u) : Fair heap marker shown u := by
  rcases answers_wrapping h with rfl | rfl
  · exact .keep
  · exact .item .list

/-- What holds of all texts in what is shown holds of those in what the replacer answers. -/
theorem holds_wrapping {name : Text} {P : Text → Prop} (shown u : Value)
    (h : Answers (wrapping name) shown u) (hshown : ∀ t, Holds heap shown t → P t) :
    ∀ t, Holds heap u t → P t := by
  intro t ht
  rcases answers_wrapping h with rfl | rfl
  · cases eq_text_of_holds rfl ht
  · obtain ⟨v, hv, ht⟩ := holds_sequence_iff.1 ht
    exact hshown t (List.mem_singleton.1 hv ▸ ht)

theorem inStringsOnly_wrapping {name : Text} : InStringsOnly [] (wrapping name) 'M' where
  not_plain := by decide
  not_undefined := by decide
  not_gap := fun gap hgap => by
    cases hgap
    decide
  not_opening := (by decide : CodePoint.scalar 'M' ∉ ("(" : Text))
  not_closing := (by decide : CodePoint.scalar 'M' ∉ (")" : Text))
  not_templateOpening := (by decide : CodePoint.scalar 'M' ∉ (" dedent\x60" : Text))
  not_templateClosing := (by decide : CodePoint.scalar 'M' ∉ ("\x60" : Text))

def shortConverter : Converter := ⟨shortMarker, Formatter.none⟩

def lineAndNumber : Value := .mapping .dict [(.text "a", .text "x\ny"), (.text "c", .int 1)]

def lineAndNumberCode : Text := "(\x7b\"a\": dedent\x60\n  x\n  y\n\x60,\"c\":[1]\x7d)"

theorem holds_lineAndNumber {t : Text} (h : Holds [] lineAndNumber t) :
    t = "a" ∨ t = "x\ny" ∨ t = "c" := by
  obtain ⟨m, hm, ht⟩ := holds_mapping_iff.1 h
  simp only [List.mem_cons, List.not_mem_nil, or_false] at hm
  rcases hm with rfl | rfl
  · rcases ht with hkey | ht
    · cases hkey
      exact Or.inl rfl
    · cases eq_text_of_holds rfl ht
      exact Or.inr (Or.inl rfl)
  · rcases ht with hkey | ht
    · cases hkey
      exact Or.inr (Or.inr rfl)
    · cases eq_text_of_holds rfl ht

theorem holds_items {t : Text} (h : Holds [] (.sequence .list [.text "ab", .int 1]) t) :
    t = "ab" := by
  obtain ⟨v, hv, ht⟩ := holds_sequence_iff.1 h
  simp only [List.mem_cons, List.not_mem_nil, or_false] at hv
  rcases hv with rfl | rfl
  · cases eq_text_of_holds rfl ht
    rfl
  · cases eq_text_of_holds rfl ht

/-- A number in a list leaves no marker, beside a literal or where nothing waits. -/
theorem not_infix_convert_number :
    (((shortConverter.convert (wrapping "c") lineAndNumber).run ({}, ())).1 =
        .ok ⟨lineAndNumberCode, true⟩ ∧ ¬ ("M_" : Text) <:+: lineAndNumberCode) ∧
    ((shortConverter.convert (wrapping "1") (.sequence .list [.text "ab", .int 1])).run
        ({}, ())).1 = .ok ⟨"([\"ab\",[1]])", false⟩ ∧ ¬ ("M_" : Text) <:+: "([\"ab\",[1]])" := by
  have hrun : ((shortConverter.convert (wrapping "c") lineAndNumber).run ({}, ())).1 =
      .ok ⟨lineAndNumberCode, true⟩ := rfl
  have hitems : ((shortConverter.convert (wrapping "1")
      (.sequence .list [.text "ab", .int 1])).run ({}, ())).1 = .ok ⟨"([\"ab\",[1]])", false⟩ := rfl
  have hmem : CodePoint.scalar 'M' ∈ shortConverter.marker.text := List.mem_cons_self
  refine ⟨⟨hrun, ?_⟩, hitems, ?_⟩
  · refine not_infix_convert isVerbatim_shortMarker rfl rfl (fun t ht => ?_) fair_wrapping
      (Prod.ext hrun rfl) (fun _ => apart_of_inStringsOnly (by decide) hmem inStringsOnly_wrapping)
      nofun
    rcases holds_lineAndNumber ht with rfl | rfl | rfl
    · decide
    · decide
    · decide
  · refine not_infix_convert isVerbatim_shortMarker rfl rfl (fun t ht => ?_) fair_wrapping
      (Prod.ext hitems rfl) nofun fun _ => ⟨⟨_, hmem, inStringsOnly_wrapping⟩, fun t ht => ?_,
        holds_wrapping, Or.inr ⟨fun t ht => ?_, holds_wrapping⟩⟩
    · rw [holds_items ht]
      decide
    · rw [holds_items ht]
      decide
    · rw [holds_items ht]
      decide

/-- A replacer that adds a text to every text. -/
def adding (added : Text) : Options Unit where
  useFormatter := false
  useTemplates := true
  replacer := some (.ofFun fun _ v => match v with
    | .text t => .ok (.text (t ++ added))
    | _ => .ok .null)

theorem fair_adding {marker added : Text} (hadded : ¬ marker <:+: added) (hne : marker ≠ [])
    (shown u : Value) (h : Answers (adding added) shown u) : Fair heap marker shown u := by
  obtain ⟨f, key, s, s', hf, hrun⟩ := h
  cases hf
  cases shown with
  | text t =>
    cases hrun
    have hnil : ¬ marker <:+: [] := fun hin => hne (List.eq_nil_of_infix_nil hin)
    exact .extended (a := []) rfl hnil hadded
  | _ =>
    cases hrun
    exact .keep

/-- A token in a list stays if nothing else waits. So does a marker that the caller's replacer
puts together, that an escape spells, that JSON has outside of strings, that starts in an
indentation or that comes about where a literal begins. -/
theorem infix_convert_token :
    (IsVerbatim shortMarker.text ∧ InStringsOnly [] (wrapping "") 'M' ∧
      (∀ t, Holds [] (.text "a\nb") t → ¬ ("M_" : Text) <:+: t) ∧
      (∀ shown u, Answers (wrapping "") shown u → Fair [] "M_" shown u) ∧
      ((shortConverter.convert (wrapping "") (.text "a\nb")).run ({}, ())).1 =
        .ok ⟨"([\"M_0\"])", false⟩ ∧ ("M_" : Text) <:+: "([\"M_0\"])") ∧
    ((∀ shown u, Answers (adding "q") shown u → Fair [] "pq" shown u) ∧
      (((⟨⟨"pq", by decide⟩, Formatter.none⟩ : Converter).convert (adding "q")
        (.text "p")).run ({}, ())).1 = .ok ⟨"(\"pq\")", false⟩) ∧
    (((⟨⟨"b_", by decide⟩, Formatter.none⟩ : Converter).convert (literalsOnly Unit false)
        (.text "\x08_")).run ({}, ())).1 = .ok ⟨"(\"\\b_\")", false⟩ ∧
    (((⟨⟨"[", by decide⟩, Formatter.none⟩ : Converter).convert (literalsOnly Unit false)
        (.sequence .list [.int 1])).run ({}, ())).1 = .ok ⟨"([1])", false⟩ ∧
    (((⟨⟨" x", by decide⟩, Formatter.none⟩ : Converter).convert (literalsOnly Unit false)
        (.text "a\nx")).run ({}, ())).1 = .ok ⟨"( dedent\x60\n  a\n  x\n\x60)", true⟩ ∧
    (((⟨⟨": d", by decide⟩, Formatter.none⟩ : Converter).convert (literalsOnly Unit false)
        (.mapping .dict [(.text "a", .text "x\ny")])).run ({}, ())).1 =
      .ok ⟨"(\x7b\"a\": dedent\x60\n  x\n  y\n\x60\x7d)", true⟩ := by
  refine ⟨⟨isVerbatim_shortMarker, inStringsOnly_wrapping, fun t ht => ?_, fair_wrapping, rfl,
    by decide⟩, ⟨fair_adding (by decide) (by decide), rfl⟩, rfl, rfl, rfl, rfl⟩
  cases eq_text_of_holds rfl ht
  decide

end

end JsLiteral
