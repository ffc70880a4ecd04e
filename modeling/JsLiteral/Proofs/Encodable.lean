import JsLiteral.Proofs.Escaped
import JsLiteral.Proofs.Residue
import JsLiteral.Proofs.Text.Utf8

/-!
# Code that can be written

A text can be written as UTF-8 exactly if no lone surrogate stands in it. JSON escapes those in
strings, names and tokens, and a text with one is not eligible for a literal, so no value and no
replacer brings one into the code. What is left are the texts that are put there as they are:
those around the code and around the literals, and the gap.

    encode? t answers                 exactly if t is writable           (encode?_isSome_iff)
    splicing keeps code writable      whatever token it finds            (IsWritable.spliceFrom)
    a conversion answers writable code                                   (isWritable_convert)
-/

namespace JsLiteral

open Text Template Json Placeholder

/-! ## Texts without surrogates -/

/-- No lone surrogate stands in a text. -/
def Text.IsWritable (t : Text) : Prop := ∀ d ∈ t, d.isSurrogate = false

instance {t : Text} : Decidable t.IsWritable :=
  inferInstanceAs (Decidable (∀ d ∈ t, d.isSurrogate = false))

theorem Text.isWritable_append {a b : Text} :
    IsWritable (a ++ b) ↔ IsWritable a ∧ IsWritable b := List.forall_mem_append

theorem Text.isWritable_cons {c : CodePoint} {t : Text} :
    IsWritable (c :: t) ↔ c.isSurrogate = false ∧ IsWritable t := List.forall_mem_cons

/-- The texts that have bytes are those without surrogates. -/
theorem encode?_isSome_iff {t : Text} : (encode? t).isSome = true ↔ t.IsWritable := by
  induction t with
  | nil => exact ⟨fun _ _ hd => absurd hd List.not_mem_nil, fun _ => rfl⟩
  | cons c t ih =>
    rw [encode?_cons, isWritable_cons]
    cases c with
    | scalar c =>
      rw [← ih]
      simp [CodePoint.toChar?, CodePoint.isSurrogate]
    | surrogate u => simp [CodePoint.toChar?, CodePoint.isSurrogate]

/-! ## Literals -/

theorem Text.isWritable_escape {t : Text} (ht : t.IsWritable) : (escape t).IsWritable := by
  induction t with
  | nil => exact ht
  | cons c t ih =>
    obtain ⟨hc, ht⟩ := isWritable_cons.1 ht
    obtain ⟨s, hs, he⟩ := exists_escape_cons c t
    have hbackslash : s.IsWritable := by
      rcases hs with rfl | rfl
      · decide
      · decide
    rw [he, isWritable_append, isWritable_cons]
    exact ⟨hbackslash, hc, ih ht⟩

theorem Text.isWritable_reindent {indent t : Text} (hi : indent.IsWritable) (ht : t.IsWritable) :
    (reindent indent t).IsWritable := by
  have hstep : step.IsWritable := by decide
  intro d hd
  obtain ⟨c, hc, hd⟩ := List.mem_flatMap.1 hd
  split at hd
  · rcases List.mem_cons.1 hd with rfl | hd
    · exact ht d hc
    · exact isWritable_append.2 ⟨hi, hstep⟩ d hd
  · rw [List.mem_singleton.1 hd]
    exact ht c hc

theorem Text.IsIndent.isWritable {w : Text} (hw : IsIndent w) : w.IsWritable := by
  intro d hd
  cases d with
  | scalar c => rfl
  | surrogate u => exact absurd (hw _ hd) (by simp [CodePoint.isIndent])

theorem Text.isWritable_literal {opening closing indent t : Text} (hopening : opening.IsWritable)
    (hclosing : closing.IsWritable) (hi : indent.IsWritable) (ht : t.IsWritable) :
    (literal opening closing indent t).IsWritable := by
  have hstep : step.IsWritable := by decide
  have hfirst : IsWritable [backtick, newline] := by decide
  have hlast : IsWritable [newline] := by decide
  have hclose : IsWritable [backtick] := by decide
  have hbody := isWritable_reindent hi (isWritable_escape ht)
  unfold literal
  simp only [isWritable_append]
  exact ⟨⟨⟨⟨⟨⟨⟨⟨hopening, hfirst⟩, hi⟩, hstep⟩, hbody⟩, hlast⟩, hi⟩, hclose⟩, hclosing⟩

/-! ## Splicing -/

section

variable {σ : Type} {options : Options σ} {marker : Text}

/-- What a step of splicing can do: a literal comes in the place of a token in quotes. -/
theorem exists_of_spliceOne {code code' t : Text} {i : Nat} {w w' : World}
    (h : (spliceOne options marker code i t).run w = (.ok code', w')) :
    ∃ x q y, code = x ++ q ++ y ∧ IsQuoted (token marker i) q ∧
      code' = x ++ literalAfter options.templateOpening options.templateClosing x t ++ y := by
  by_cases hstands : ∃ p, StandsAt (token marker i) code p
  · obtain ⟨x, q, y, rfl, hq, hfirst⟩ := exists_first hstands
    obtain ⟨w₁, hrun⟩ := spliceOne_of_standsAt options t hq hfirst w
    rw [hrun] at h
    cases h
    exact ⟨x, q, y, rfl, hq, rfl⟩
  · rw [spliceOne_of_missing (fun p hp => hstands ⟨p, hp⟩)] at h
    cases h

/-- Wherever the token is found, code and literal stay writable. -/
theorem Text.IsWritable.spliceOne {code code' t : Text} {i : Nat} {w w' : World}
    (hcode : code.IsWritable) (hopening : options.templateOpening.IsWritable)
    (hclosing : options.templateClosing.IsWritable) (ht : t.IsWritable)
    (h : (spliceOne options marker code i t).run w = (.ok code', w')) : code'.IsWritable := by
  obtain ⟨x, q, y, rfl, -, rfl⟩ := exists_of_spliceOne h
  obtain ⟨hxq, hy⟩ := isWritable_append.1 hcode
  have hliteral := isWritable_literal hopening hclosing
    (isIndent_indentation (lastLine x)).isWritable ht
  exact isWritable_append.2 ⟨isWritable_append.2 ⟨(isWritable_append.1 hxq).1, hliteral⟩, hy⟩

theorem Text.IsWritable.spliceFrom {waiting : List Text} {code code' : Text} {k : Nat}
    {w w' : World} (hcode : code.IsWritable) (hopening : options.templateOpening.IsWritable)
    (hclosing : options.templateClosing.IsWritable) (hwaiting : ∀ t ∈ waiting, t.IsWritable)
    (h : (spliceFrom options marker k waiting code).run w = (.ok code', w')) :
    code'.IsWritable := by
  induction waiting generalizing k code w with
  | nil =>
    cases h
    exact hcode
  | cons t rest ih =>
    obtain ⟨code₁, w₁, hone, hrest⟩ := Task.run_bind_eq_ok h
    have hcode₁ := hcode.spliceOne hopening hclosing (hwaiting t List.mem_cons_self) hone
    exact ih hcode₁ (fun u hu => hwaiting u (List.mem_cons_of_mem _ hu)) hrest

/-! ## A whole conversion -/

/-- Code points outside of strings that can be written, any strings, and texts for literals
that can be written. -/
def writableContents : Contents := ⟨fun d => d.isSurrogate = false, fun _ => True, IsWritable⟩

theorem isSurrogate_of_isPlain {d : CodePoint} (hd : isPlain d = true) : d.isSurrogate = false := by
  by_cases hn : d = newline
  · subst hn
    rfl
  · have hhidden := not_isHidden_of_isPlain hd hn
    rw [IsHidden, not_or, Bool.not_eq_true] at hhidden
    exact hhidden.2

theorem isSurrogate_of_mem_quote {t : Text} {d : CodePoint} (hd : d ∈ quote t) :
    d.isSurrogate = false := by
  have hhidden := not_isHidden_of_mem_quote hd
  rw [IsHidden, not_or, Bool.not_eq_true] at hhidden
  exact hhidden.2

/-- A walk puts no surrogate outside of strings and lets no text with one wait, whatever the
value is and whatever the caller's replacer answers. -/
theorem carries_writable (heap : Heap) (options : Options σ) (marker : Text) (backticks : Bool) :
    Carries heap options marker backticks writableContents (fun _ => True) (fun _ => True) where
  left_of_leaves := fun _ _ => trivial
  token_of_keeps := fun _ h => choosesScalars options backticks _ h.chosen
  word := fun ht d hd => isSurrogate_of_isPlain (isPlain_of_word? ht d hd).1
  text := fun _ => trivial
  items := fun _ _ _ _ => trivial
  members := fun _ _ _ _ => ⟨trivial, fun _ _ => trivial⟩

theorem isWritable_emit {ps : List Piece} (h : ∀ p ∈ ps, p.Among writableContents) (n : Nat) :
    (emit (quotedToken marker) n ps).IsWritable := by
  intro d hd
  rcases mem_emit hd with ⟨t, ht, hd⟩ | ⟨t, hd⟩
  · exact h _ ht d hd
  · exact isSurrogate_of_mem_quote hd

/-- A skeleton can be written if its gap can, and so can the texts that wait. -/
theorem isWritable_skeleton {w : World} {v : Value} {s s' : σ} {text : Text} {waiting : List Text}
    (hgap : ∀ gap, Json.gap w.heap options.space = .ok gap → gap.IsWritable)
    (h : (skeleton w options marker v).run (s, []) = (.ok text, (s', waiting))) :
    text.IsWritable ∧ ∀ t ∈ waiting, t.IsWritable := by
  obtain ⟨gap, p, hg, hp, hheld, rfl⟩ := prints_of_skeleton h
  have hlays : writableContents.Lays gap :=
    ⟨fun _ hd _ => isSurrogate_of_isPlain hd, Or.inr ⟨rfl, hgap gap hg⟩⟩
  have hundefined : ∀ d ∈ ("undefined" : Text), d.isSurrogate = false := by decide
  have hpieces := Printed.among_skeleton hlays hundefined
    (Prints.has (carries_writable w.heap options marker _) p hp trivial)
  refine ⟨isWritable_emit hpieces 0, fun t ht => ?_⟩
  rw [hheld, ← Printed.holes_skeleton gap] at ht
  exact hpieces _ (mem_of_mem_holes ht)

/-- A formatter that answers what can be written, whatever it is called with. -/
def Formatter.AnswersWritable (f : Formatter) : Prop :=
  ∀ ⦃code : Text⦄ ⦃given : Value⦄ ⦃w w' : World⦄ ⦃out : Text⦄,
    (f code given).run w = (.ok out, w') → out.IsWritable

/-- Code that is laid out can be written if it could be before, and what a formatter answers
can be if there is one. -/
theorem isWritable_layOut {formatter : Formatter} (hbefore : options.beforeFormat = none)
    (hformat : options.useFormatter = true → formatter.AnswersWritable) {code out : Text}
    (hcode : code.IsWritable) {w w' : World}
    (h : (layOut formatter options code).run w = (.ok out, w')) : out.IsWritable := by
  by_cases huse : options.useFormatter = true
  · rw [layOut_eq, hbefore] at h
    obtain ⟨code, w₁, -, h⟩ := Task.run_bind_eq_ok h
    unfold formatted at h
    rw [if_pos huse] at h
    obtain ⟨w₂, w₃, -, h⟩ := Task.run_bind_eq_ok h
    obtain ⟨members, w₄, -, h⟩ := Task.run_bind_eq_ok h
    exact hformat huse (Task.wrapFailure_eq_ok h)
  · rw [layOut_run hbefore (Bool.eq_false_iff.2 huse)] at h
    cases h
    exact hcode

/-- The code of a conversion that succeeds has no surrogate if the texts that come into it as
they are have none and what a formatter answers has none. -/
theorem isWritable_code {c : Converter} (hbefore : options.beforeFormat = none)
    (hformat : options.useFormatter = true → c.formatter.AnswersWritable)
    (hopening : options.opening.IsWritable) (hclosing : options.closing.IsWritable)
    (htagged : options.templateOpening.IsWritable) (hended : options.templateClosing.IsWritable)
    {w w' : World} {v : Value} {s s' : σ} {r : Conversion}
    (hgap : ∀ gap, Json.gap w.heap options.space = .ok gap → gap.IsWritable)
    (h : (c.convert options v).run (w, s) = (.ok r, (w', s'))) : r.code.IsWritable := by
  obtain ⟨text, waiting, hskeleton, hfinish⟩ := skeleton_of_convert h
  obtain ⟨htext, hwaiting⟩ := isWritable_skeleton hgap hskeleton
  rw [finish_eq_of_not_collides c (not_collides_of_finish hfinish)] at hfinish
  obtain ⟨code, w₁, hlaid, hfinish⟩ := Task.run_bind_eq_ok hfinish
  obtain ⟨spliced, w₂, hsplice, hend⟩ := Task.run_bind_eq_ok hfinish
  cases hend
  have hwrapped : (options.opening ++ text ++ options.closing).IsWritable :=
    isWritable_append.2 ⟨isWritable_append.2 ⟨hopening, htext⟩, hclosing⟩
  have hcode : code.IsWritable := isWritable_layOut hbefore hformat hwrapped hlaid
  exact hcode.spliceFrom htagged hended hwaiting hsplice

/-- **The code can always be written as UTF-8** if no formatter and no function of the caller's
changes it and no surrogate stands in the texts that come into it as they are: whatever the
value, the replacer and the marker are, the code of a conversion that succeeds has no
surrogate, and so it has bytes. -/
theorem isWritable_convert {c : Converter} (hbefore : options.beforeFormat = none)
    (hformat : options.useFormatter = false) (hopening : options.opening.IsWritable)
    (hclosing : options.closing.IsWritable) (htagged : options.templateOpening.IsWritable)
    (hended : options.templateClosing.IsWritable) {w w' : World} {v : Value} {s s' : σ}
    {r : Conversion} (hgap : ∀ gap, Json.gap w.heap options.space = .ok gap → gap.IsWritable)
    (h : (c.convert options v).run (w, s) = (.ok r, (w', s'))) :
    (∀ d ∈ r.code, d.isSurrogate = false) ∧ (encode? r.code).isSome = true := by
  have hnone : options.useFormatter = true → c.formatter.AnswersWritable := by
    intro huse
    rw [hformat] at huse
    cases huse
  have hcode := isWritable_code hbefore hnone hopening hclosing htagged hended hgap h
  exact ⟨hcode, encode?_isSome_iff.2 hcode⟩

/-- A replacer that puts a surrogate in the place of one member, and a gap of a tab. -/
def surrogateOptions : Options Unit where
  useFormatter := false
  useTemplates := true
  replacer := some (.ofFun fun key _ =>
    if key = "b" then .ok (.text [.surrogate 0x400]) else .ok .null)
  space := .text "\t"

/-- Surrogates in a name and in a text of two lines, and a text that becomes a literal. -/
def surrogates : Value :=
  .mapping .dict [(.text [.surrogate 0], .text ('x' :: newline :: [.surrogate 0x7FF])),
    (.text "b", .null), (.text "c", .text "x\ny")]

def surrogatesCode : Text :=
  "(\x7b\n\t\"\\ud800\": \"x\\n\\udfff\",\n\t\"b\": \"\\udc00\",\n\t\"c\": " ++
    " dedent\x60\n\t  x\n\t  y\n\t\x60\n\x7d)"

/-- Surrogates in a name, in a text and in what a replacer answers are escaped, and the code
has bytes. -/
theorem isWritable_convert_surrogates :
    ((shortConverter.convert surrogateOptions surrogates).run
        ({}, ())).1 = .ok ⟨surrogatesCode, true⟩ ∧
      (∀ d ∈ surrogatesCode, d.isSurrogate = false) ∧ (encode? surrogatesCode).isSome = true := by
  have hrun : ((shortConverter.convert surrogateOptions surrogates).run
      ({}, ())).1 = .ok ⟨surrogatesCode, true⟩ := rfl
  have hgap : ∀ gap, Json.gap [] surrogateOptions.space = .ok gap → gap.IsWritable := by
    intro gap hg
    cases hg
    decide
  refine ⟨hrun, ?_⟩
  exact isWritable_convert rfl rfl (by decide) (by decide) (by decide) (by decide) hgap
    (Prod.ext hrun rfl)

end

end JsLiteral
