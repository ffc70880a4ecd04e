import JsLiteral.Proofs.Marker

/-!
# What a conversion answers

A conversion without a formatter and without functions of the caller's either refuses its
marker or answers code. The code evaluates to the value unless some text that becomes a
literal holds, between quotes of either kind, the token of a text after it. The marker is
counted before the first literal is spliced in, so it does not show whether this is so.

    refused     exactly when some text waits and the marker is counted more often than texts wait
    faithful    exactly when no text holds the token of a later one         (convert_run)
-/

namespace JsLiteral

open Text Template Json Placeholder Evaluation Skeleton

section

variable {σ : Type} {options : Options σ}

/-- Options of a conversion that neither the caller nor a formatter takes part in, with the
tag that evaluating knows. -/
structure Options.Unassisted (options : Options σ) : Prop where
  replacer : options.replacer = none
  beforeFormat : options.beforeFormat = none
  useFormatter : options.useFormatter = false
  templateOpening : options.templateOpening = tag
  templateClosing : options.templateClosing = []

/-- Whether the marker of tokens for `waiting` stands somewhere else in the code. -/
def Collides (marker code : Text) (waiting : List Text) : Prop :=
  waiting ≠ [] ∧ waiting.length < count marker code

instance {marker code : Text} {waiting : List Text} : Decidable (Collides marker code waiting) :=
  inferInstanceAs (Decidable (_ ∧ _))

theorem not_collides_iff {marker code : Text} {waiting : List Text} :
    ¬ Collides marker code waiting ↔ waiting = [] ∨ count marker code ≤ waiting.length := by
  unfold Collides
  rw [not_and_or, not_not, Nat.not_lt]

theorem collides_iff {marker code : Text} {waiting : List Text} :
    (!waiting.isEmpty && decide (waiting.length < count marker code)) = true ↔
      Collides marker code waiting := by
  unfold Collides
  rw [Bool.and_eq_true, decide_eq_true_iff, Bool.not_eq_true', List.isEmpty_eq_false_iff]

/-! ## From skeleton to code -/

theorem finish_run_of_collides (c : Converter) {skeleton : Text} {waiting : List Text}
    (h : Collides c.marker.text (options.opening ++ skeleton ++ options.closing) waiting)
    (w : World) :
    (finish c options skeleton waiting).run w = (.error (.markerCollision c.marker.text), w) := by
  unfold finish
  simp only
  rw [if_pos (collides_iff.2 h), Task.run_bind]
  rfl

/-- The note that is made of how many texts wait. -/
def World.serialized (w : World) (n : Nat) : World :=
  { w with journal := w.journal ++ [.noted .debug .conversion
    (("Serialized value with " : Text) ++ Text.ofNat n ++ (" multiline placeholder(s)" : Text))] }

/-- Without a collision what is left to do is to lay the code out and to splice. -/
theorem finish_eq_of_not_collides (c : Converter) {skeleton : Text} {waiting : List Text}
    (h : ¬ Collides c.marker.text (options.opening ++ skeleton ++ options.closing) waiting)
    (w : World) : (finish c options skeleton waiting).run w =
      (do
        let code ← layOut c.formatter options (options.opening ++ skeleton ++ options.closing)
        let code ← spliceFrom options c.marker.text 0 waiting code
        pure ⟨code, !waiting.isEmpty⟩ : Task Conversion).run (w.serialized waiting.length) := by
  unfold finish
  simp only
  rw [if_neg (mt collides_iff.1 h), Task.run_bind, Task.run_note]
  rfl

theorem finish_run_of_not_collides (c : Converter) {skeleton : Text} {waiting : List Text}
    (h : ¬ Collides c.marker.text (options.opening ++ skeleton ++ options.closing) waiting)
    (w : World) : ∃ w', (finish c options skeleton waiting).run w =
      (do
        let code ← layOut c.formatter options (options.opening ++ skeleton ++ options.closing)
        let code ← spliceFrom options c.marker.text 0 waiting code
        pure ⟨code, !waiting.isEmpty⟩ : Task Conversion).run w' :=
  ⟨_, finish_eq_of_not_collides c h w⟩

theorem layOut_run (hbefore : options.beforeFormat = none) (hformat : options.useFormatter = false)
    (formatter : Formatter) (code : Text) (w : World) :
    (layOut formatter options code).run w = (.ok code, w) := by
  unfold layOut
  simp only [hbefore, hformat]
  rw [Task.run_bind, Task.run_pure]
  simp only [Bool.false_eq_true, if_false]
  rfl

/-- If neither the caller nor a formatter changes the code, what is left to do is splicing. -/
theorem finish_run (hbefore : options.beforeFormat = none) (hformat : options.useFormatter = false)
    (c : Converter) {skeleton : Text} {waiting : List Text}
    (h : ¬ Collides c.marker.text (options.opening ++ skeleton ++ options.closing) waiting)
    (w : World) : ∃ w', (finish c options skeleton waiting).run w =
      (do
        let code ← spliceFrom options c.marker.text 0 waiting
          (options.opening ++ skeleton ++ options.closing)
        pure ⟨code, !waiting.isEmpty⟩ : Task Conversion).run w' := by
  obtain ⟨w', hrun⟩ := finish_run_of_not_collides c h w
  rw [Task.run_bind, layOut_run hbefore hformat] at hrun
  exact ⟨w', hrun⟩

/-! ## A whole conversion -/

/-- The code with tokens that the marker is counted in. -/
def tokenized (options : Options σ) (marker : Text) (backticks : Bool) (gap : Text)
    (tree : Tree) : Text :=
  options.opening ++ emit (quotedToken marker) 0 (pieces (chosen options backticks) gap [] tree) ++
    options.closing

/-- The texts of a tree that become literals. -/
def pending (options : Options σ) (backticks : Bool) (tree : Tree) : List Text :=
  tree.texts.filter (chosen options backticks)

theorem choosesScalars (options : Options σ) (backticks : Bool) :
    ChoosesScalars (chosen options backticks) := by
  intro t ht c hc
  simp only [chosen, isEligible, Bool.and_eq_true, Bool.not_eq_true', List.any_eq_false] at ht
  have hforbidden := ht.2.1.1.2 c hc
  rw [isForbidden, Bool.or_eq_true, not_or, Bool.not_eq_true] at hforbidden
  exact Bool.eq_false_iff.2 hforbidden.2

variable {c : Converter} {w : World} {gap : Text} {backticks : Bool} {v : Value} {tree : Tree}

theorem convert_run_of_collides (ho : options.Unassisted)
    (hg : Json.gap w.heap options.space = .ok gap)
    (hb : backticks = options.backticks.getD w.settings.allowsBackticks)
    (h : Denotes w.heap [] v tree)
    (hcollides : Collides c.marker.text (tokenized options c.marker.text backticks gap tree)
      (pending options backticks tree)) (s : σ) :
    (c.convert options v).run (w, s) = (.error (.markerCollision c.marker.text), (w, s)) := by
  have hskeleton : (skeleton w options c.marker.text v).run (s, []) = _ :=
    skeleton_run ho.replacer hg hb h s
  have hfinish := finish_run_of_collides c hcollides w
  rw [pending] at hfinish
  rw [convert_of_skeleton hskeleton, hfinish]

/-- A conversion whose marker does not collide answers code. The code evaluates to the value
exactly when no text that becomes a literal holds the token of a later one. -/
theorem convert_run (hv : IsVerbatim c.marker.text) (ho : options.Unassisted)
    (hg : Json.gap w.heap options.space = .ok gap) (hs : IsSpaces gap)
    (hb : backticks = options.backticks.getD w.settings.allowsBackticks)
    (h : Denotes w.heap [] v tree)
    (hcollides : ¬ Collides c.marker.text (tokenized options c.marker.text backticks gap tree)
      (pending options backticks tree)) (s : σ) :
    ∃ r w', (c.convert options v).run (w, s) = (.ok r, (w', s)) ∧
      (evaluate options.opening options.closing r.code = some tree.value ↔
        LaterFree c.marker.text 0 (pending options backticks tree)) := by
  have hnil : IsSpaces [] := fun _ hc => absurd hc List.not_mem_nil
  have hplain : ∀ p ∈ pieces (chosen options backticks) gap [] tree, IsPlainPiece p :=
    isPlainPiece_pieces hs tree hnil
  have hholes : holes (pieces (chosen options backticks) gap [] tree) =
      pending options backticks tree := holes_pieces _ _ _ _
  have heligible : ∀ t ∈ holes (pieces (chosen options backticks) gap [] tree),
      isEligible backticks t = true := by
    intro t ht
    rw [hholes] at ht
    have := (List.mem_filter.1 ht).2
    rw [chosen, Bool.and_eq_true] at this
    exact this.2
  have hread := read_written hs (choosesScalars options backticks) h
  obtain ⟨w₁, hfinish⟩ := finish_run ho.beforeFormat ho.useFormatter c hcollides w
  obtain ⟨code, w₂, hsplice, hcode⟩ := spliceFrom_skeleton hv ho.templateOpening
    ho.templateClosing hplain heligible (hholes.symm ▸ not_collides_iff.1 hcollides) w₁
  rw [hholes] at hsplice hcode
  refine ⟨⟨options.opening ++ code ++ options.closing, !(pending options backticks tree).isEmpty⟩,
    w₂, ?_, ?_⟩
  · have hskeleton : (skeleton w options c.marker.text v).run (s, []) = _ :=
      skeleton_run ho.replacer hg hb h s
    rw [convert_of_skeleton hskeleton, ← pending, hfinish, Task.run_bind, hsplice]
    rfl
  · rcases hcode with ⟨hlater, hresolve⟩ | ⟨hnot, hunsound⟩
    · refine ⟨fun _ => hlater, fun _ => ?_⟩
      show evaluate options.opening options.closing (options.opening ++ code ++ options.closing) = _
      rw [evaluate_enclosed, hresolve, Option.bind_some, hread]
      rfl
    · exact ⟨fun he => absurd (sound_of_evaluate he) hunsound, fun hlater => absurd hlater hnot⟩

/-! ## The standard marker -/

theorem isDistinct_standard : IsDistinct Marker.standard.text where
  ne_nil := Marker.standard.text_ne_nil
  verbatim := by decide
  head := ⟨'M', _, rfl, by decide, by decide⟩
  not_bracket := by decide

/-- The settings of a gap that give spaces or nothing. -/
def IsCount (space : Value) : Prop :=
  space = .null ∨ (∃ b, space = .bool b) ∨ ∃ n, space = .int n

theorem exists_gap (heap : Heap) {space : Value} (h : IsCount space) :
    ∃ gap, Json.gap heap space = .ok gap ∧ IsSpaces gap := by
  rcases h with rfl | ⟨b, rfl⟩ | ⟨n, rfl⟩
  · exact ⟨[], rfl, fun _ hc => absurd hc List.not_mem_nil⟩
  · exact ⟨[], rfl, fun _ hc => absurd hc List.not_mem_nil⟩
  · exact ⟨_, rfl, fun _ hc => List.eq_of_mem_replicate hc⟩

theorem free_of_not_infix {marker t : Text} (h : ¬ marker <:+: t) (is : List Nat) :
    Free marker is t := by
  rintro i - p ⟨x, q, y, rfl, -, mark, -, rfl⟩
  exact h ⟨x ++ [mark], Text.ofNat i ++ [mark] ++ y, by simp [between, token]⟩

/-- **No spurious failure, and a faithful result**: a value without the standard marker is
converted, whatever its shape, between texts without the marker, and the code evaluates to
the value. -/
theorem evaluate_convert_standard (formatter : Formatter) (ho : options.Unassisted)
    (hspace : IsCount options.space) (h : Denotes w.heap [] v tree)
    (htexts : ∀ t ∈ tree.texts, ¬ Marker.standard.text <:+: t)
    (hnames : ∀ t ∈ tree.names, ¬ Marker.standard.text <:+: t)
    (hopening : ¬ Marker.standard.text <:+: options.opening)
    (hclosing : ¬ Marker.standard.text <:+: options.closing) (s : σ) :
    ∃ r w', ((⟨.standard, formatter⟩ : Converter).convert options v).run (w, s) = (.ok r, (w', s)) ∧
      evaluate options.opening options.closing r.code = some tree.value := by
  obtain ⟨gap, hg, hs⟩ := exists_gap w.heap hspace
  have hm := isDistinct_standard
  have hcollides : ¬ Collides Marker.standard.text
      (tokenized options Marker.standard.text
        (options.backticks.getD w.settings.allowsBackticks) gap tree)
      (pending options (options.backticks.getD w.settings.allowsBackticks) tree) := by
    rintro ⟨hnil, hlt⟩
    have := count_skeleton hm hs htexts hnames hopening hclosing hnil
    rw [tokenized, pending] at hlt
    omega
  obtain ⟨r, w', hrun, hiff⟩ := convert_run (c := ⟨.standard, formatter⟩) hm.toIsVerbatim ho hg hs
    rfl h hcollides s
  refine ⟨r, w', hrun, hiff.2 ?_⟩
  refine laterFree_of_forall hm.backslash_not_mem (Nat.zero_add _) fun t ht => ?_
  exact free_of_not_infix (htexts t (List.mem_filter.1 ht).1) _

/-- Texts around the code that hold parts of the marker, and a gap of two spaces. -/
def sampleOptions : Options Unit :=
  { opening := "MARKER_b", closing := "_0;", useFormatter := false, useTemplates := true,
    space := .int 2, backticks := some true }

/-- A text with a backtick and a quoted part of the marker, a negative zero, a text with a
backslash. -/
def sample : Value :=
  .mapping .dict
    [(.text "MARKER_", .sequence .tuple [.text "\"MARKER_b\"\n\x600", .float (.zero true)]),
      (.text "b", .text "\n\\")]

def sampleTree : Tree :=
  .object [("MARKER_", .list [.text "\"MARKER_b\"\n\x600", .float (.zero true)]),
    ("b", .text "\n\\")]

theorem denotes_sampleTree : Denotes [] [] sample sampleTree :=
  ⟨_, _, _, .mapping .., ⟨⟨rfl, by decide⟩, ⟨_, _, _, .sequence .., ⟨rfl, by decide⟩,
    ⟨rfl, by decide⟩, trivial⟩, ⟨rfl, by decide⟩, ⟨rfl, by decide⟩, trivial⟩, by decide⟩

theorem evaluate_convert_standard_sample :
    ∃ r w', ((⟨.standard, Formatter.none⟩ : Converter).convert sampleOptions sample).run ({}, ()) =
        (.ok r, (w', ())) ∧
      evaluate "MARKER_b" "_0;" r.code = some (.mapping .dict
        [(.text "MARKER_", .sequence .list [.text "\"MARKER_b\"\n\x600", .int 0]),
          (.text "b", .text "\n\\")]) := by
  have ho : sampleOptions.Unassisted := ⟨rfl, rfl, rfl, rfl, rfl⟩
  have hspace : IsCount sampleOptions.space := Or.inr (Or.inr ⟨2, rfl⟩)
  have htexts : ∀ t ∈ sampleTree.texts, ¬ Marker.standard.text <:+: t := by decide
  have hnames : ∀ t ∈ sampleTree.names, ¬ Marker.standard.text <:+: t := by decide
  have hopening : ¬ Marker.standard.text <:+: sampleOptions.opening := by decide
  have hclosing : ¬ Marker.standard.text <:+: sampleOptions.closing := by decide
  exact evaluate_convert_standard Formatter.none (w := {}) ho hspace denotes_sampleTree htexts
    hnames hopening hclosing ()

/-! ## Any marker -/

/-- The options that ask for template literals and leave everything else out. -/
def literalsOnly (σ : Type) (backticks : Bool) : Options σ :=
  { useFormatter := false, useTemplates := true, backticks := some backticks }

/-- **When a conversion is silently wrong**: a marker that collides is refused, and otherwise
the conversion answers code, which evaluates to the value exactly when no eligible text holds
the token of a later eligible text between quotes. -/
theorem refuses_or_evaluates_iff {c : Converter} (hv : IsVerbatim c.marker.text)
    (h : Denotes w.heap [] v tree) (s : σ) :
    (Collides c.marker.text (tokenized (literalsOnly σ backticks) c.marker.text backticks [] tree)
        (tree.texts.filter (isEligible backticks)) →
      (c.convert (literalsOnly σ backticks) v).run (w, s) =
        (.error (.markerCollision c.marker.text), (w, s))) ∧
    (¬ Collides c.marker.text (tokenized (literalsOnly σ backticks) c.marker.text backticks [] tree)
        (tree.texts.filter (isEligible backticks)) →
      ∃ r w', (c.convert (literalsOnly σ backticks) v).run (w, s) = (.ok r, (w', s)) ∧
        (evaluate "(" ")" r.code = some tree.value ↔
          LaterFree c.marker.text 0 (tree.texts.filter (isEligible backticks)))) := by
  have ho : (literalsOnly σ backticks).Unassisted := ⟨rfl, rfl, rfl, rfl, rfl⟩
  have hspaces : IsSpaces [] := fun _ hc => absurd hc List.not_mem_nil
  constructor
  · intro hcollides
    exact convert_run_of_collides ho rfl rfl h hcollides s
  · intro hcollides
    exact convert_run hv ho rfl hspaces rfl h hcollides s

/-- Two texts, the first of which holds a token. -/
def twoTexts (i : Text) : Tree := .list [.text ("x\n\"M_" ++ i ++ "\"\ny"), .text "p\nq"]

theorem denotes_twoTexts {i : Text} (hi : isUnpaired ("x\n\"M_" ++ i ++ "\"\ny") = true) :
    Denotes [] [] (twoTexts i).value (twoTexts i) :=
  ⟨_, _, _, .sequence .., ⟨rfl, hi⟩, ⟨rfl, by decide⟩, trivial⟩

def shortMarker : Marker := ⟨"M_", by decide⟩

theorem isVerbatim_shortMarker : IsVerbatim shortMarker.text := ⟨by decide, by decide⟩

/-- The token of an earlier text does no harm. -/
theorem refuses_or_evaluates_iff_earlier :
    IsVerbatim shortMarker.text ∧ Denotes [] [] (twoTexts "0").value (twoTexts "0") ∧
    ∃ r w', ((⟨shortMarker, Formatter.none⟩ : Converter).convert (literalsOnly Unit true)
        (twoTexts "0").value).run ({}, ()) = (.ok r, (w', ())) ∧
      evaluate "(" ")" r.code = some (twoTexts "0").value := by
  have hcollides : ¬ Collides shortMarker.text
      (tokenized (literalsOnly Unit true) shortMarker.text true [] (twoTexts "0"))
      ((twoTexts "0").texts.filter (isEligible true)) := by decide
  have hfree : Free "M_" [1] (escape "x\n\"M_0\"\ny") := by decide
  have hlast : Free "M_" [] (escape "p\nq") := by decide
  have hdenotes := denotes_twoTexts (i := "0") (by decide)
  obtain ⟨r, w', hrun, hiff⟩ := (refuses_or_evaluates_iff (w := {})
    (c := ⟨shortMarker, Formatter.none⟩) isVerbatim_shortMarker hdenotes ()).2 hcollides
  exact ⟨isVerbatim_shortMarker, hdenotes, r, w', hrun, hiff.2 ⟨hfree, hlast, trivial⟩⟩

/-- The token of a later text does: the marker is not refused, and the literal of that text
tears the one it is spliced into. -/
theorem not_evaluates_later :
    IsVerbatim shortMarker.text ∧ Denotes [] [] (twoTexts "1").value (twoTexts "1") ∧
    ∃ r w', ((⟨shortMarker, Formatter.none⟩ : Converter).convert (literalsOnly Unit true)
        (twoTexts "1").value).run ({}, ()) = (.ok r, (w', ())) ∧
      evaluate "(" ")" r.code ≠ some (twoTexts "1").value := by
  have ho : (literalsOnly Unit true).Unassisted := ⟨rfl, rfl, rfl, rfl, rfl⟩
  have hspaces : IsSpaces [] := fun _ hc => absurd hc List.not_mem_nil
  have hcollides : ¬ Collides shortMarker.text
      (tokenized (literalsOnly Unit true) shortMarker.text true [] (twoTexts "1"))
      (pending (literalsOnly Unit true) true (twoTexts "1")) := by decide
  have hdenotes := denotes_twoTexts (i := "1") (by decide)
  obtain ⟨r, w', hrun, hiff⟩ := convert_run (w := {}) (c := ⟨shortMarker, Formatter.none⟩)
    isVerbatim_shortMarker ho rfl hspaces rfl hdenotes hcollides ()
  refine ⟨isVerbatim_shortMarker, hdenotes, r, w', hrun, fun he => ?_⟩
  exact (hiff.1 he).1 1 (by decide) 2 (by decide)

end

end JsLiteral
