import JsLiteral.Proofs.Collision

/-!
# Markers that JSON escapes

A token is printed as a JSON string, and then its marker is counted and the token is looked for
as they are. If JSON escapes a part of the marker the two differ. What is looked for holds no
control code and no surrogate, as printed JSON has none of them; a marker with a quote or a
backslash may be spelled by other strings and by the marks between them.

    splicing answers   exactly if each token stands in the code left before it
                                                        (spliceFrom_of_resolves, spliceFrom_of_not)
    with a control code or a surrogate in the marker the first token is missing
                                                        (refuses_or_resolves)
-/

namespace JsLiteral

open Text Template Json Placeholder Evaluation Skeleton

variable {σ : Type} {options : Options σ}

/-! ## Tokens that are found -/

/-- Each token from number `k` on stands in quotes in the code that is left when the literals
of the texts before it stand in the first places of theirs. -/
def Resolves (options : Options σ) (marker : Text) : Nat → List Text → Text → Prop
  | _, [], _ => True
  | k, t :: rest, code => ∃ x q y, code = x ++ q ++ y ∧ IsQuoted (token marker k) q ∧
      (∀ p, StandsAt (token marker k) code p → x.length ≤ p) ∧
      Resolves options marker (k + 1) rest
        (x ++ literalAfter options.templateOpening options.templateClosing x t ++ y)

theorem spliceFrom_of_resolves {marker : Text} {waiting : List Text} {k : Nat} {code : Text}
    (h : Resolves options marker k waiting code) (w : World) :
    ∃ code' w', (spliceFrom options marker k waiting code).run w = (.ok code', w') := by
  induction waiting generalizing k code w with
  | nil => exact ⟨code, w, rfl⟩
  | cons t rest ih =>
    obtain ⟨x, q, y, rfl, hq, hfirst, hrest⟩ := h
    obtain ⟨w₁, hrun⟩ := spliceOne_of_standsAt options t hq hfirst w
    rw [spliceFrom_cons_run hrun]
    exact ih hrest w₁

/-- Else the first token that stands nowhere is reported. -/
theorem spliceFrom_of_not {marker : Text} {waiting : List Text} {k : Nat} {code : Text}
    (h : ¬ Resolves options marker k waiting code) (w : World) :
    ∃ i w', k ≤ i ∧ i < k + waiting.length ∧ (spliceFrom options marker k waiting code).run w =
      (.error (.placeholderMissing (token marker i)), w') := by
  induction waiting generalizing k code w with
  | nil => exact absurd trivial h
  | cons t rest ih =>
    rw [List.length_cons]
    by_cases hstands : ∃ p, StandsAt (token marker k) code p
    · obtain ⟨x, q, y, rfl, hq, hfirst⟩ := exists_first hstands
      obtain ⟨w₁, hrun⟩ := spliceOne_of_standsAt options t hq hfirst w
      obtain ⟨i, w', h1, h2, hmissing⟩ :=
        ih (fun hrest => h ⟨x, q, y, rfl, hq, hfirst, hrest⟩) w₁
      refine ⟨i, w', by omega, by omega, ?_⟩
      rw [spliceFrom_cons_run hrun, hmissing]
    · have hmissing : (spliceOne options marker code k t).run w = _ :=
        spliceOne_of_missing (fun p hp => hstands ⟨p, hp⟩) w
      refine ⟨k, w, Nat.le_refl k, by omega, ?_⟩
      rw [spliceFrom, Task.run_bind, hmissing]

theorem spliceFrom_of_missing {marker code : Text} {waiting : List Text} {k : Nat}
    (hwaiting : waiting ≠ []) (h : ∀ p, ¬ StandsAt (token marker k) code p) (w : World) :
    (spliceFrom options marker k waiting code).run w =
      (.error (.placeholderMissing (token marker k)), w) := by
  obtain ⟨t, rest, rfl⟩ := List.exists_cons_of_ne_nil hwaiting
  rw [spliceFrom, Task.run_bind, spliceOne_of_missing h]

/-! ## What printed JSON does not hold -/

/-- Control codes and surrogates. -/
def IsHidden (d : CodePoint) : Prop := d.toNat < 0x20 ∨ d.isSurrogate = true

instance {d : CodePoint} : Decidable (IsHidden d) := inferInstanceAs (Decidable (_ ∨ _))

theorem not_isHidden_of_mem_quotePoint {c d : CodePoint} (hd : d ∈ quotePoint c) :
    ¬ IsHidden d := by
  rcases quotePoint_eq c with ⟨he, hc⟩ | ⟨e, he, hmarks⟩
  · rw [he] at hd
    obtain rfl := List.mem_singleton.1 hd
    simp only [isVerbatim, Bool.and_eq_true, decide_eq_true_eq, Bool.not_eq_true'] at hc
    rintro (hlow | hsurrogate)
    · omega
    · rw [hc.2] at hsurrogate
      cases hsurrogate
  · rw [he] at hd
    have hall : ∀ d ∈ escapeMarks, ¬ IsHidden d := by decide
    rcases List.mem_cons.1 hd with rfl | hd
    · decide
    · exact hall d (hmarks d hd)

theorem not_isHidden_of_mem_quote {t : Text} {d : CodePoint} (hd : d ∈ quote t) :
    ¬ IsHidden d := by
  rcases List.mem_cons.1 hd with rfl | hd
  · decide
  rcases List.mem_append.1 hd with hd | hd
  · obtain ⟨c, -, hc⟩ := List.mem_flatMap.1 hd
    exact not_isHidden_of_mem_quotePoint hc
  · rw [List.mem_singleton.1 hd]
    decide

/-- Strings, tokens and marks that are not hidden. -/
def shownContents : Contents := ⟨fun d => ¬ IsHidden d, fun _ => True, fun _ => True⟩

theorem not_isHidden_of_isPlain {d : CodePoint} (hd : isPlain d = true) (hn : d ≠ newline) :
    ¬ IsHidden d := by
  rw [isPlain, Bool.or_eq_true, List.contains_iff_mem] at hd
  rcases hd with hdigit | hmark
  · have hrange : 0x30 ≤ d.toNat ∧ d.toNat < 0x3A := by
      unfold CodePoint.isDigit CodePoint.digit? at hdigit
      split at hdigit
      · assumption
      · cases hdigit
    cases d with
    | scalar c =>
      rintro (hlow | hsurrogate)
      · omega
      · cases hsurrogate
    | surrogate u =>
      have hu : 0xD800 + u.val < 0x3A := hrange.2
      omega
  · have hall : ∀ e ∈ (" \n[]\x7b\x7d,:+-.aeflnrstu" : Text), e ≠ newline → ¬ IsHidden e := by
      decide
    exact hall d hmark hn

theorem not_isHidden_of_mem_emit {marker : Text} {ps : List Piece}
    (h : ∀ p ∈ ps, p.Among shownContents) (n : Nat) :
    ∀ d ∈ emit (quotedToken marker) n ps, ¬ IsHidden d := by
  intro d hd
  rcases mem_emit hd with ⟨t, ht, hd⟩ | ⟨t, hd⟩
  · exact h _ ht d hd
  · exact not_isHidden_of_mem_quote hd

/-! ## Conversions with any marker -/

/-- The options that ask for template literals and for no formatter. -/
def literalsBySettings (σ : Type) : Options σ := { useFormatter := false, useTemplates := true }

/-- The texts of a document that become literals. -/
def eligibleTexts (backticks : Bool) (doc : Printed) : List Text :=
  doc.texts.filter (isEligible backticks)

/-- The wrapped code of a document with tokens. -/
def tokenizedDocument (marker : Text) (backticks : Bool) (doc : Printed) : Text :=
  "(" ++ emit (quotedToken marker) 0 ((doc.choosing (isEligible backticks)).skeleton []) ++ ")"

theorem not_isHidden_of_mem_tokenizedDocument {heap : Heap} {marker : Text} {backticks : Bool}
    {v : Value} {doc : Printed} (hdoc : IsDocument heap [] v doc) :
    ∀ d ∈ tokenizedDocument marker backticks doc, ¬ IsHidden d := by
  have hcarries : Carries heap (literalsBySettings Unit) marker backticks shownContents
      (fun _ => True) (fun _ => True) :=
    ⟨fun _ _ => trivial, fun _ _ => trivial,
      fun ht d hd => (isPlain_of_word? ht d hd).elim not_isHidden_of_isPlain,
      fun _ => trivial, fun _ _ _ _ => trivial, fun _ _ _ _ => ⟨trivial, fun _ _ => trivial⟩⟩
  have hnone : (literalsBySettings Unit).replacer = none := rfl
  obtain ⟨waiting, hp⟩ : ∃ waiting, Prints heap (literalsBySettings Unit) marker backticks [] [] v
      ((), []) (doc.choosing (chosen (literalsBySettings Unit) backticks)) ((), waiting) :=
    IsDocument.prints hnone doc hdoc
  have hlays : shownContents.Lays [] := ⟨fun d => not_isHidden_of_isPlain, Or.inl rfl⟩
  have hundefined : ∀ d ∈ ("undefined" : Text), ¬ IsHidden d := by decide
  have hpieces := Printed.among_skeleton hlays hundefined (Prints.has hcarries _ hp trivial)
  intro d hd
  rcases List.mem_append.1 hd with hd | hd
  · rcases List.mem_append.1 hd with hd | hd
    · rw [List.mem_singleton.1 hd]
      decide
    · exact not_isHidden_of_mem_emit hpieces 0 d hd
  · rw [List.mem_singleton.1 hd]
    decide

variable {c : Converter} {w : World} {v : Value} {doc : Printed}

theorem skeleton_literalsBySettings (hdoc : IsDocument w.heap [] v doc) (marker : Text) (s : σ) :
    (skeleton w (literalsBySettings σ) marker v).run (s, []) =
      (.ok (emit (quotedToken marker) 0
          ((doc.choosing (isEligible w.settings.allowsBackticks)).skeleton [])),
        (s, eligibleTexts w.settings.allowsBackticks doc)) := by
  have hnone : (literalsBySettings σ).replacer = none := rfl
  exact skeleton_of_isDocument hnone rfl rfl hdoc s

/-- Without a collision a conversion answers what splicing does. -/
theorem convert_of_not_collides (hdoc : IsDocument w.heap [] v doc)
    (h : ¬ Collides c.marker.text (tokenizedDocument c.marker.text w.settings.allowsBackticks doc)
      (eligibleTexts w.settings.allowsBackticks doc)) (s : σ) :
    ∃ w₁, ∀ r w₂, (spliceFrom (literalsBySettings σ) c.marker.text 0
        (eligibleTexts w.settings.allowsBackticks doc)
        (tokenizedDocument c.marker.text w.settings.allowsBackticks doc)).run w₁ = (r, w₂) →
      (c.convert (literalsBySettings σ) v).run (w, s) = (r.map fun code =>
        ⟨code, !(eligibleTexts w.settings.allowsBackticks doc).isEmpty⟩, (w₂, s)) := by
  have hbefore : (literalsBySettings σ).beforeFormat = none := rfl
  obtain ⟨w₁, hfinish⟩ := finish_run hbefore rfl c h w
  have hcode : (literalsBySettings σ).opening ++ emit (quotedToken c.marker.text) 0
      ((doc.choosing (isEligible w.settings.allowsBackticks)).skeleton []) ++
        (literalsBySettings σ).closing =
          tokenizedDocument c.marker.text w.settings.allowsBackticks doc := rfl
  rw [hcode] at hfinish
  refine ⟨w₁, fun r w₂ hsplice => ?_⟩
  rw [convert_of_skeleton (skeleton_literalsBySettings hdoc c.marker.text s), hfinish,
    Task.run_bind, hsplice]
  cases r with
  | ok code => rfl
  | error e => rfl

/-- A token that holds what printed JSON does not stands nowhere, and its marker is not
counted. -/
theorem not_standsAt_of_isHidden (hdoc : IsDocument w.heap [] v doc) {marker : Text}
    {backticks : Bool} (hm : ∃ d ∈ marker, IsHidden d) (waiting : List Text) :
    (∀ p, ¬ StandsAt (token marker 0) (tokenizedDocument marker backticks doc) p) ∧
      ¬ Collides marker (tokenizedDocument marker backticks doc) waiting := by
  obtain ⟨d, hd, hidden⟩ := hm
  have hcode : ∀ x y, tokenizedDocument marker backticks doc ≠ x ++ marker ++ y := by
    intro x y he
    have hmem : d ∈ tokenizedDocument marker backticks doc := by
      rw [he]
      exact List.mem_append_left _ (List.mem_append_right _ hd)
    exact not_isHidden_of_mem_tokenizedDocument hdoc d hmem hidden
  constructor
  · rintro p ⟨x, q, y, he, -, mark, -, rfl⟩
    exact hcode (x ++ [mark]) (Text.ofNat 0 ++ [mark] ++ y) (by rw [he]; simp [between, token])
  · rintro ⟨-, hlt⟩
    have hzero : count marker (tokenizedDocument marker backticks doc) = 0 := by
      rw [count_eq_zero_iff (List.ne_nil_of_mem hd)]
      rintro ⟨x, y, he⟩
      exact hcode x y he.symm
    omega

/-- **What a conversion answers under any marker.** It refuses the marker if this is counted
more often than texts wait. Otherwise it answers code exactly if each raw token, between quotes
of either kind, stands in the code that is left before it, and else reports a token that does
not; nothing else happens. In particular the first token is reported if it stands nowhere in
the wrapped code, and always if the marker has a control code or a surrogate. -/
theorem refuses_or_resolves (hdoc : IsDocument w.heap [] v doc)
    (heligible : ∃ t ∈ doc.texts, isEligible w.settings.allowsBackticks t = true) (s : σ) :
    (Collides c.marker.text (tokenizedDocument c.marker.text w.settings.allowsBackticks doc)
        (eligibleTexts w.settings.allowsBackticks doc) →
      (c.convert (literalsBySettings σ) v).run (w, s) =
        (.error (.markerCollision c.marker.text), (w, s))) ∧
    (¬ Collides c.marker.text (tokenizedDocument c.marker.text w.settings.allowsBackticks doc)
        (eligibleTexts w.settings.allowsBackticks doc) →
      (Resolves (literalsBySettings σ) c.marker.text 0
          (eligibleTexts w.settings.allowsBackticks doc)
          (tokenizedDocument c.marker.text w.settings.allowsBackticks doc) →
        ∃ r w', (c.convert (literalsBySettings σ) v).run (w, s) = (.ok r, (w', s))) ∧
      (¬ Resolves (literalsBySettings σ) c.marker.text 0
          (eligibleTexts w.settings.allowsBackticks doc)
          (tokenizedDocument c.marker.text w.settings.allowsBackticks doc) →
        ∃ i w', i < (eligibleTexts w.settings.allowsBackticks doc).length ∧
          (c.convert (literalsBySettings σ) v).run (w, s) =
            (.error (.placeholderMissing (token c.marker.text i)), (w', s))) ∧
      ((∀ p, ¬ StandsAt (token c.marker.text 0)
          (tokenizedDocument c.marker.text w.settings.allowsBackticks doc) p) →
        ∃ w', (c.convert (literalsBySettings σ) v).run (w, s) =
          (.error (.placeholderMissing (token c.marker.text 0)), (w', s)))) ∧
    ((∃ d ∈ c.marker.text, IsHidden d) →
      ∃ w', (c.convert (literalsBySettings σ) v).run (w, s) =
        (.error (.placeholderMissing (token c.marker.text 0)), (w', s))) := by
  have hwaiting : eligibleTexts w.settings.allowsBackticks doc ≠ [] := by
    obtain ⟨t, ht, he⟩ := heligible
    exact List.ne_nil_of_mem (List.mem_filter.2 ⟨ht, he⟩)
  have hmissing : ¬ Collides c.marker.text
      (tokenizedDocument c.marker.text w.settings.allowsBackticks doc)
      (eligibleTexts w.settings.allowsBackticks doc) →
        (∀ p, ¬ StandsAt (token c.marker.text 0)
          (tokenizedDocument c.marker.text w.settings.allowsBackticks doc) p) →
        ∃ w', (c.convert (literalsBySettings σ) v).run (w, s) =
          (.error (.placeholderMissing (token c.marker.text 0)), (w', s)) := by
    intro hcollides hnowhere
    obtain ⟨w₁, hconvert⟩ := convert_of_not_collides hdoc hcollides s
    exact ⟨w₁, hconvert _ _ (spliceFrom_of_missing hwaiting hnowhere w₁)⟩
  refine ⟨fun hcollides => ?_, fun hcollides => ⟨fun hresolves => ?_, fun hnot => ?_,
    hmissing hcollides⟩, fun hhidden => ?_⟩
  · have hcollides : Collides c.marker.text ((literalsBySettings σ).opening ++ _ ++
      (literalsBySettings σ).closing) _ := hcollides
    rw [convert_of_skeleton (skeleton_literalsBySettings hdoc c.marker.text s),
      finish_run_of_collides c hcollides w]
  · obtain ⟨w₁, hconvert⟩ := convert_of_not_collides hdoc hcollides s
    obtain ⟨code, w₂, hsplice⟩ := spliceFrom_of_resolves hresolves w₁
    exact ⟨_, w₂, hconvert _ _ hsplice⟩
  · obtain ⟨w₁, hconvert⟩ := convert_of_not_collides hdoc hcollides s
    obtain ⟨i, w₂, -, hi, hsplice⟩ := spliceFrom_of_not hnot w₁
    exact ⟨i, w₂, by omega, hconvert _ _ hsplice⟩
  · obtain ⟨hnowhere, hcollides⟩ := not_standsAt_of_isHidden hdoc hhidden
      (eligibleTexts w.settings.allowsBackticks doc)
    exact hmissing hcollides hnowhere

/-- A marker that is a line end, which JSON escapes. -/
def lineConverter : Converter := ⟨⟨"\n", by decide⟩, Formatter.none⟩

/-- A line end is never found in printed JSON. -/
theorem refuses_or_resolves_line :
    IsDocument [] [] (.text "x\ny") (.text "x\ny") ∧
    (∃ t ∈ (Printed.text "x\ny").texts, isEligible false t = true) ∧
    ∃ w', (lineConverter.convert (literalsBySettings Unit) (.text "x\ny")).run ({}, ()) =
      (.error (.placeholderMissing "\n0"), (w', ())) := by
  have heligible : ∃ t ∈ (Printed.text "x\ny").texts, isEligible false t = true :=
    ⟨"x\ny", List.mem_cons_self, by decide⟩
  refine ⟨.text, heligible, ?_⟩
  exact (refuses_or_resolves (c := lineConverter) (w := {}) (.text (t := "x\ny")) heligible ()).2.2
    ⟨'\n', List.mem_cons_self, by decide⟩

/-- A marker of a letter, a backslash and a letter, which stands in the escape of a tab. -/
def escapeConverter : Converter := ⟨⟨"a\\t", by decide⟩, Formatter.none⟩

/-- A text that is escaped to the token of the text after it. -/
def escapedTwins : Value := .sequence .list [.text "a\t0", .text "x\ny"]

/-- The literal comes in the place of the escaped text, and the token is left. -/
theorem answers_code_under_escaped_marker :
    (¬ ∀ d ∈ escapeConverter.marker.text, isVerbatim d = true) ∧
    IsDocument [] [] escapedTwins (.list [.text "a\t0", .text "x\ny"]) ∧
    (∃ t ∈ (Printed.list [.text "a\t0", .text "x\ny"]).texts, isEligible false t = true) ∧
    ((escapeConverter.convert (literalsBySettings Unit) escapedTwins).run ({}, ())).1 =
      .ok ⟨"([ dedent\x60\n  x\n  y\n\x60,\"a\\\\t0\"])", true⟩ := by
  refine ⟨by decide, .list (.sequence ..) (.cons .text (.cons .text .nil)), ?_, ?_⟩
  · exact ⟨"x\ny", by decide, by decide⟩
  · rfl

end JsLiteral
