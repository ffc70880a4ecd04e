import JsLiteral.Proofs.Json.Lexing
import JsLiteral.Proofs.Json.Pieces
import JsLiteral.Proofs.Template.Woven
import JsLiteral.Template.Dedent

/-!
# What converted code evaluates to

Code between known texts is turned into a JSON document: a template literal after the tag,
outside of strings, becomes the JSON string of its dedented body. The document is read. A
literal that is a text's own becomes that text; code in which the body of a literal is torn
becomes no document, as what follows the first inner backtick ends in a backtick outside of
strings or in a line feed inside of one.

    resolve .code (fenced w (own w t) ++ rest) = (resolve .code rest).map (quoteAscii t ++ ·)
    Woven torn b → Sound (.template raw) (b ++ …) → torn = false            (Woven.sound)
-/

namespace JsLiteral.Evaluation

open Text Template Json

/-! ## Evaluating -/

/-- Where reading code stands. -/
inductive Place where
  | code
  | string
  /-- In a tag and its backtick, with so many code points left after the next one. -/
  | tag (left : Nat)
  /-- In a literal whose raw body so far is given, last code point first. -/
  | template (raw : Text)

/-- The JSON document that code stands for; `none` if a string or a literal is not closed. -/
def resolve : Place → Text → Option Text
  | .code, [] => some []
  | .code, c :: t =>
    if c = '"' then (resolve .string t).map (c :: ·)
    else if (tag ++ [backtick]).isPrefixOf (c :: t) then resolve (.tag (tag.length - 1)) t
    else (resolve .code t).map (c :: ·)
  | .string, [] => none
  | .string, .scalar '\\' :: c :: t => (resolve .string t).map ('\\' :: c :: ·)
  | .string, c :: t => (resolve (if c = '"' then .code else .string) t).map (c :: ·)
  | .tag _, [] => none
  | .tag 0, _ :: t => resolve (.template []) t
  | .tag (left + 1), _ :: t => resolve (.tag left) t
  | .template _, [] => none
  | .template raw, .scalar '\\' :: c :: t => resolve (.template (c :: '\\' :: raw)) t
  | .template raw, c :: t =>
    if c = backtick then (resolve .code t).map (quoteAscii (dedent (cook raw.reverse)) ++ ·)
    else if c = '\\' then none
    else resolve (.template (c :: raw)) t

/-- The value of code between two texts. -/
def evaluate (opening closing code : Text) : Option Value := do
  guard (opening.isPrefixOf code && closing.isSuffixOf code)
  let doc ← resolve .code ((code.take (code.length - closing.length)).drop opening.length)
  (read doc).toOption

/-! ## Steps -/

theorem resolve_code_cons (c : CodePoint) (t : Text) :
    resolve .code (c :: t) =
      if c = '"' then (resolve .string t).map (c :: ·)
      else if (tag ++ [backtick]).isPrefixOf (c :: t) then resolve (.tag (tag.length - 1)) t
      else (resolve .code t).map (c :: ·) := rfl

theorem resolve_quote (t : Text) :
    resolve .code ('"' :: t) = (resolve .string t).map (CodePoint.scalar '"' :: ·) := by
  rw [resolve_code_cons, if_pos rfl]

theorem resolve_plain {c : CodePoint} {t : Text} (h1 : c ≠ '"')
    (h2 : (tag ++ [backtick]).isPrefixOf (c :: t) = false) :
    resolve .code (c :: t) = (resolve .code t).map (c :: ·) := by
  rw [resolve_code_cons, if_neg h1, h2]
  rfl

/-- The rest of a tag is passed over. -/
theorem resolve_tag_rest (a : Text) (c : CodePoint) (t : Text) :
    resolve (.tag a.length) (a ++ c :: t) = resolve (.template []) t := by
  induction a with
  | nil => rfl
  | cons d a ih => exact ih

theorem resolve_tag (t : Text) :
    resolve .code ((tag ++ [backtick]) ++ t) = resolve (.template []) t := by
  have hpre : (tag ++ [backtick]).isPrefixOf ((tag ++ [backtick]) ++ t) = true :=
    isPrefixOf_iff.2 ⟨t, rfl⟩
  obtain ⟨a, htag⟩ : ∃ a : Text, tag = CodePoint.scalar ' ' :: a := ⟨_, rfl⟩
  have hlen : tag.length - 1 = a.length := by rw [htag, List.length_cons, Nat.add_sub_cancel]
  have hcons : (tag ++ [backtick]) ++ t = CodePoint.scalar ' ' :: (a ++ backtick :: t) := by
    rw [htag]
    simp
  rw [hcons] at hpre ⊢
  rw [resolve_code_cons, if_neg (by decide), if_pos hpre, hlen, resolve_tag_rest]

theorem resolve_string_escaped (c : CodePoint) (t : Text) :
    resolve .string ('\\' :: c :: t) =
      (resolve .string t).map (CodePoint.scalar '\\' :: c :: ·) := rfl

theorem resolve_string_cons {c : CodePoint} (h : c ≠ '\\') (t : Text) :
    resolve .string (c :: t) =
      (resolve (if c = '"' then .code else .string) t).map (c :: ·) := by
  rw [resolve]
  rintro d r rfl
  exact absurd rfl h

theorem resolve_template_escaped (raw : Text) (c : CodePoint) (t : Text) :
    resolve (.template raw) ('\\' :: c :: t) = resolve (.template (c :: '\\' :: raw)) t := rfl

theorem resolve_template_plain {c : CodePoint} (h1 : c ≠ backtick) (h2 : c ≠ '\\') (raw t : Text) :
    resolve (.template raw) (c :: t) = resolve (.template (c :: raw)) t := by
  rw [resolve, if_neg h1, if_neg h2]
  rintro d r rfl
  exact absurd rfl h2

theorem resolve_template_close (raw t : Text) :
    resolve (.template raw) (backtick :: t) =
      (resolve .code t).map (quoteAscii (dedent (cook raw.reverse)) ++ ·) := rfl

/-! ## Strings and literals -/

theorem resolve_string_append {a : Text} (ha : InString a) (t : Text) :
    resolve .string (a ++ t) = (resolve .string t).map (a ++ ·) := by
  induction ha with
  | nil =>
    show resolve .string t = Option.map id (resolve .string t)
    rw [Option.map_id, id]
  | plain h1 h2 _ _ ih =>
    rw [List.cons_append, resolve_string_cons h2, if_neg h1, ih, Option.map_map]
    rfl
  | escaped _ ih =>
    rw [List.cons_append, List.cons_append, resolve_string_escaped, ih, Option.map_map]
    rfl

/-- A string is left as it is. -/
theorem resolve_quoted {a : Text} (ha : InString a) (t : Text) :
    resolve .code ('"' :: (a ++ CodePoint.scalar '"' :: t)) =
      (resolve .code t).map fun out =>
        CodePoint.scalar '"' :: (a ++ CodePoint.scalar '"' :: out) := by
  rw [resolve_quote, resolve_string_append ha, resolve_string_cons (by decide), if_pos rfl,
    Option.map_map, Option.map_map]
  rfl

theorem resolve_plain_append {t r : Text} (ht : ∀ c ∈ t, isPlain c = true)
    (hr : r.head? ≠ some 'd') : resolve .code (t ++ r) = (resolve .code r).map (t ++ ·) := by
  induction t with
  | nil =>
    show resolve .code r = Option.map id (resolve .code r)
    rw [Option.map_id, id]
  | cons c t ih =>
    have hc := ht c List.mem_cons_self
    have ht' : ∀ d ∈ t, isPlain d = true := fun d hd => ht d (List.mem_cons_of_mem _ hd)
    have hhead : (t ++ r).head? ≠ some 'd' := by
      cases t with
      | nil => exact hr
      | cons d t =>
        intro he
        exact ne_of_isPlain (ht' d List.mem_cons_self) (by decide) (Option.some.inj he)
    rw [List.cons_append, resolve_plain (ne_of_isPlain hc (by decide)) (not_tag hhead c), ih ht',
      Option.map_map]
    rfl

/-- A raw body is taken in whole. -/
theorem resolve_template_append {a : Text} (ha : IsRaw a) (raw t : Text) :
    resolve (.template raw) (a ++ t) = resolve (.template (a.reverse ++ raw)) t := by
  induction ha generalizing raw with
  | nil => rfl
  | plain h1 h2 _ ih =>
    rw [List.cons_append, resolve_template_plain h1 h2, ih, List.reverse_cons, List.append_assoc]
    rfl
  | escaped _ ih =>
    rw [List.cons_append, List.cons_append, resolve_template_escaped, ih]
    simp only [List.reverse_cons, List.append_assoc, List.cons_append, List.nil_append]

/-- A text's own literal is evaluated to the text. -/
theorem resolve_fenced {allow : Bool} {w t : Text} (hw : IsIndent w)
    (ht : isEligible allow t = true) (rest : Text) :
    resolve .code (fenced w (own w t) ++ rest) = (resolve .code rest).map (quoteAscii t ++ ·) := by
  obtain ⟨c, r, rfl, hc⟩ := exists_cons_of_isEligible ht
  have hraw : newline :: (own w (c :: r) ++ newline :: (w ++ backtick :: rest)) =
      (newline :: (own w (c :: r) ++ newline :: w)) ++ backtick :: rest := by simp
  rw [fenced_append, resolve_tag, hraw, resolve_template_append (isRaw_own hw _),
    resolve_template_close, List.append_nil, List.reverse_reverse, cook_own hw, dedent_body hw hc]

theorem inString_tag : InString (tag ++ [backtick]) :=
  .of_forall (by decide)

/-! ## Code that may be a document -/

/-- Whether strings and literals of a text are closed and what it resolves to lexes. -/
def Sound (place : Place) (t : Text) : Prop :=
  ∃ out, resolve place t = some out ∧ lexes (place matches .string) out = true

namespace Sound

section

variable {c : CodePoint} {raw t : Text}

theorem code_quote (h : Sound .code ('"' :: t)) : Sound .string t := by
  obtain ⟨out, hr, hl⟩ := h
  rw [resolve_quote, Option.map_eq_some_iff] at hr
  obtain ⟨out, hr, rfl⟩ := hr
  refine ⟨out, hr, ?_⟩
  rwa [lexes_code_cons (by decide) (by decide)] at hl

theorem code_plain (h1 : c ≠ '"') (h2 : (tag ++ [backtick]).isPrefixOf (c :: t) = false)
    (h : Sound .code (c :: t)) : (c ≠ backtick ∧ c ≠ '\\') ∧ Sound .code t := by
  obtain ⟨out, hr, hl⟩ := h
  rw [resolve_plain h1 h2, Option.map_eq_some_iff] at hr
  obtain ⟨out, hr, rfl⟩ := hr
  have hl : lexes false (c :: out) = true := hl
  rw [lexes, Bool.and_eq_true, Bool.and_eq_true, bne_iff_ne, bne_iff_ne,
    beq_eq_false_iff_ne.2 h1] at hl
  exact ⟨hl.1, out, hr, hl.2⟩

theorem code_plain_append {r : Text} (ht : ∀ c ∈ t, isPlain c = true)
    (hr : r.head? ≠ some 'd') (h : Sound .code (t ++ r)) : Sound .code r := by
  obtain ⟨out, he, hl⟩ := h
  rw [resolve_plain_append ht hr, Option.map_eq_some_iff] at he
  obtain ⟨out, he, rfl⟩ := he
  refine ⟨out, he, ?_⟩
  have hl : lexes false (t ++ out) = true := hl
  rwa [lexes_bare_append fun c hc => ⟨ne_of_isPlain (ht c hc) (by decide),
    ne_of_isPlain (ht c hc) (by decide), ne_of_isPlain (ht c hc) (by decide)⟩] at hl

theorem code_tag (h : Sound .code ((tag ++ [backtick]) ++ t)) : Sound (.template []) t := by
  obtain ⟨out, hr, hl⟩ := h
  rw [resolve_tag] at hr
  exact ⟨out, hr, hl⟩

theorem string_escaped (h : Sound .string ('\\' :: c :: t)) : Sound .string t := by
  obtain ⟨out, hr, hl⟩ := h
  rw [resolve_string_escaped, Option.map_eq_some_iff] at hr
  obtain ⟨out, hr, rfl⟩ := hr
  refine ⟨out, hr, ?_⟩
  have hl : lexes true ('\\' :: c :: out) = true := hl
  rwa [lexes_string_escaped] at hl

theorem string_quote (h : Sound .string ('"' :: t)) : Sound .code t := by
  obtain ⟨out, hr, hl⟩ := h
  rw [resolve_string_cons (by decide), if_pos rfl, Option.map_eq_some_iff] at hr
  obtain ⟨out, hr, rfl⟩ := hr
  refine ⟨out, hr, ?_⟩
  have hl : lexes true ('"' :: out) = true := hl
  rwa [lexes_string_quote] at hl

theorem string_plain (h1 : c ≠ '"') (h2 : c ≠ '\\') (h : Sound .string (c :: t)) :
    0x20 ≤ c.toNat ∧ Sound .string t := by
  obtain ⟨out, hr, hl⟩ := h
  rw [resolve_string_cons h2, if_neg h1, Option.map_eq_some_iff] at hr
  obtain ⟨out, hr, rfl⟩ := hr
  have hl : lexes true (c :: out) = true := hl
  rw [lexes_string_cons h2, Bool.and_eq_true, decide_eq_true_iff, bne_iff_ne.2 h1] at hl
  exact ⟨hl.1, out, hr, hl.2⟩

theorem string_append {a : Text} (ha : InString a) (h : Sound .string (a ++ t)) :
    Sound .string t := by
  obtain ⟨out, hr, hl⟩ := h
  rw [resolve_string_append ha, Option.map_eq_some_iff] at hr
  obtain ⟨out, hr, rfl⟩ := hr
  refine ⟨out, hr, ?_⟩
  have hl : lexes true (a ++ out) = true := hl
  rwa [lexes_string_append ha] at hl

theorem code_quoted {a : Text} (ha : InString a)
    (h : Sound .code ('"' :: (a ++ CodePoint.scalar '"' :: t))) : Sound .code t :=
  (h.code_quote.string_append ha).string_quote

theorem template_escaped (h : Sound (.template raw) ('\\' :: c :: t)) :
    Sound (.template (c :: '\\' :: raw)) t := by
  obtain ⟨out, hr, hl⟩ := h
  rw [resolve_template_escaped] at hr
  exact ⟨out, hr, hl⟩

theorem template_plain (h1 : c ≠ backtick) (h2 : c ≠ '\\') (h : Sound (.template raw) (c :: t)) :
    Sound (.template (c :: raw)) t := by
  obtain ⟨out, hr, hl⟩ := h
  rw [resolve_template_plain h1 h2] at hr
  exact ⟨out, hr, hl⟩

theorem template_append {a : Text} (ha : IsRaw a) (h : Sound (.template raw) (a ++ t)) :
    Sound (.template (a.reverse ++ raw)) t := by
  obtain ⟨out, hr, hl⟩ := h
  rw [resolve_template_append ha] at hr
  exact ⟨out, hr, hl⟩

theorem template_close (h : Sound (.template raw) (backtick :: t)) : Sound .code t := by
  obtain ⟨out, hr, hl⟩ := h
  rw [resolve_template_close, Option.map_eq_some_iff] at hr
  obtain ⟨out, hr, rfl⟩ := hr
  refine ⟨out, hr, ?_⟩
  have hl : lexes false (quoteAscii _ ++ out) = true := hl
  rwa [quoteAscii, List.cons_append, List.append_assoc, List.singleton_append,
    lexes_quoted (InString.flatMap InString.quoteAsciiPoint _)] at hl

end

end Sound

/-! ## Torn bodies -/

/-- What closes a literal does not stand in code. -/
theorem not_sound_indent {w : Text} (hw : IsIndent w) (rest : Text) :
    ¬ Sound .code (w ++ backtick :: rest) := by
  induction w with
  | nil =>
    intro h
    exact (h.code_plain (by decide) (not_tag_of_ne (by decide) _)).1.1 rfl
  | cons c w ih =>
    intro h
    have hc : c.isIndent = true := hw c List.mem_cons_self
    have hw' : IsIndent w := fun d hd => hw d (List.mem_cons_of_mem _ hd)
    have hquote : c ≠ '"' := by
      rintro rfl
      cases hc
    have hhead : (w ++ backtick :: rest).head? ≠ some 'd' := by
      cases w with
      | nil => exact (by decide : some backtick ≠ some (CodePoint.scalar 'd'))
      | cons d w =>
        intro he
        have hd : d.isIndent = true := hw' d List.mem_cons_self
        rw [Option.some.inj he] at hd
        cases hd
    exact ih hw' (h.code_plain hquote (not_tag hhead c)).2

/-- A body and the end of its literal: what may come before them where code, a string or a
literal has been read. In a literal that is read to its end no other one stands. -/
theorem sound_of_woven {torn : Bool} {b : Text} (h : Woven torn b) : ∀ {w : Text}, IsIndent w →
    ∀ rest : Text,
      ¬ Sound .code (b ++ newline :: (w ++ backtick :: rest)) ∧
      ¬ Sound .string (b ++ newline :: (w ++ backtick :: rest)) ∧
      ∀ raw, Sound (.template raw) (b ++ newline :: (w ++ backtick :: rest)) →
        torn = false ∧ Sound .code rest := by
  -- a line feed in code leads to what follows it, and in a string there is none
  have hcode : ∀ {t : Text}, Sound .code (newline :: t) → Sound .code t :=
    fun h => (h.code_plain (by decide) (not_tag_of_ne (by decide) _)).2
  have hstring : ∀ t : Text, ¬ Sound .string (newline :: t) := by
    intro t h
    exact absurd (h.string_plain (by decide) (by decide)).1 (by decide)
  induction h with
  | nil =>
    intro w hw rest
    refine ⟨fun h => not_sound_indent hw rest (hcode h), hstring _, fun raw h => ?_⟩
    have h' := (h.template_plain (by decide) (by decide)).template_append (.of_isIndent hw)
    exact ⟨rfl, h'.template_close⟩
  | @plain torn c t h1 h2 ht ih =>
    intro w hw rest
    obtain ⟨ihCode, ihString, ihTemplate⟩ := ih hw rest
    rw [List.cons_append]
    refine ⟨fun h => ?_, fun h => ?_, fun raw h => ?_⟩
    · by_cases hc : c = '"'
      · subst hc
        exact ihString h.code_quote
      · exact ihCode (h.code_plain hc (ht.not_tag c _)).2
    · by_cases hc : c = '"'
      · subst hc
        exact ihCode h.string_quote
      · exact ihString (h.string_plain hc h2).2
    · exact ihTemplate _ (h.template_plain h1 h2)
  | escaped _ _ ih =>
    intro w hw rest
    obtain ⟨-, ihString, ihTemplate⟩ := ih hw rest
    rw [List.cons_append, List.cons_append]
    refine ⟨fun h => ?_, fun h => ihString h.string_escaped,
      fun raw h => ihTemplate _ h.template_escaped⟩
    exact (h.code_plain (by decide) (not_tag_of_ne (by decide) _)).1.2 rfl
  | @literal torn torn' w' b t hw' _ _ ihb iht =>
    intro w hw rest
    obtain ⟨ihCode, -, -⟩ := iht hw rest
    obtain ⟨ihbCode, -, ihbTemplate⟩ := ihb hw' (t ++ newline :: (w ++ backtick :: rest))
    rw [List.append_assoc, fenced_append]
    refine ⟨fun h => ?_, fun h => ?_, fun raw h => ?_⟩
    · -- the inner literal is read, and what follows it is read as code
      exact ihCode (ihbTemplate _ (h.code_tag.template_plain (by decide) (by decide))).2
    · exact hstring _ (h.string_append inString_tag)
    · -- the inner backtick ends the literal, and the inner body is read as code
      rw [List.append_assoc, List.singleton_append] at h
      have hend := (h.template_append (.of_not_mem (by decide) (by decide))).template_close
      exact absurd (hcode hend) ihbCode

/-! ## Code between two texts -/

theorem evaluate_enclosed (opening closing t : Text) :
    evaluate opening closing (opening ++ t ++ closing) =
      (resolve .code t).bind fun doc => (read doc).toOption := by
  have hpre : opening.isPrefixOf (opening ++ t ++ closing) = true :=
    isPrefixOf_iff.2 ⟨t ++ closing, List.append_assoc _ _ _⟩
  have hsuf : closing.isSuffixOf (opening ++ t ++ closing) = true :=
    List.isSuffixOf_iff_suffix.2 ⟨opening ++ t, rfl⟩
  have hlen : (opening ++ t ++ closing).length - closing.length = (opening ++ t).length := by
    rw [List.length_append, Nat.add_sub_cancel]
  have hinner : ((opening ++ t ++ closing).take ((opening ++ t ++ closing).length -
      closing.length)).drop opening.length = t := by
    rw [hlen, List.take_left, List.drop_left]
  unfold evaluate
  rw [hpre, hsuf, hinner]
  rfl

/-- Code that evaluates to a value is sound. -/
theorem sound_of_evaluate {opening closing t : Text} {v : Value}
    (h : evaluate opening closing (opening ++ t ++ closing) = some v) : Sound .code t := by
  rw [evaluate_enclosed, Option.bind_eq_some_iff] at h
  obtain ⟨out, hout, hread⟩ := h
  refine ⟨out, hout, ?_⟩
  cases he : read out with
  | ok u => exact lexes_of_read he
  | error e =>
    rw [he] at hread
    cases hread

end JsLiteral.Evaluation
