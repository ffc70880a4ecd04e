import JsLiteral.Proofs.Encodable
import JsLiteral.Proofs.Script.Literal

/-!
# Quoting

What stands between the quotes of a quoted text is a string body of the JSON grammar, so the
closing quote is the first one that no backslash escapes, and a reader of JSON takes the whole
literal in. It gives back the code units of the text: an escaped surrogate is one code unit, and
where a high one stands right before a low one the reader joins them into the code point that
has these two units.

Quoting may be done in two passes, the escapes that JSON asks for and then the surrogates of
the text so far: no escape has a surrogate in it and no surrogate escapes anything.

    escapeSurrogates (plainQuote t) = quote t                     (escapeSurrogates_plainQuote)
    a quote in a string body stands after an odd number of backslashes
                                                                  (IsStringBody.odd_of_quote)
    units (joinPairs us) = units (us.map Prod.snd)                (units_joinPairs)
-/

namespace JsLiteral.Json

open Text Script

/-! ## Two passes -/

/-- The literal of a text in which the surrogates stay as they are. -/
def plainQuote (t : Text) : Text :=
  '"' :: (t.flatMap (fun c => (shortEscape? c).getD [c]) ++ [CodePoint.scalar '"'])

/-- A text with its surrogates escaped. -/
def escapeSurrogates (t : Text) : Text :=
  t.flatMap fun c => if c.isSurrogate then unitEscape c.toNat else [c]

theorem escapeSurrogates_append (a b : Text) :
    escapeSurrogates (a ++ b) = escapeSurrogates a ++ escapeSurrogates b :=
  List.flatMap_append

theorem escapeSurrogates_cons {c : CodePoint} (hc : c.isSurrogate = false) (t : Text) :
    escapeSurrogates (c :: t) = c :: escapeSurrogates t := by
  rw [escapeSurrogates, List.flatMap_cons, hc]
  rfl

theorem escapeSurrogates_of_isWritable {t : Text} (ht : t.IsWritable) :
    escapeSurrogates t = t := by
  induction t with
  | nil => rfl
  | cons c t ih =>
    obtain ⟨hc, ht⟩ := isWritable_cons.1 ht
    rw [escapeSurrogates_cons hc, ih ht]

theorem isWritable_of_shortEscape? {c : CodePoint} {e : Text} (h : shortEscape? c = some e) :
    e.IsWritable := by
  have hquoted : quotePoint c = e := by rw [quotePoint, h]
  intro d hd
  have hhidden := not_isHidden_of_mem_quotePoint (hquoted ▸ hd)
  rw [IsHidden, not_or, Bool.not_eq_true] at hhidden
  exact hhidden.2

theorem escapeSurrogates_plainQuote (t : Text) : escapeSurrogates (plainQuote t) = quote t := by
  have hpoint : ∀ c, escapeSurrogates ((shortEscape? c).getD [c]) = quotePoint c := by
    intro c
    unfold quotePoint
    cases h : shortEscape? c with
    | none => exact List.flatMap_singleton _ _
    | some e => exact escapeSurrogates_of_isWritable (isWritable_of_shortEscape? h)
  have hbody : escapeSurrogates (t.flatMap fun c => (shortEscape? c).getD [c]) =
      t.flatMap quotePoint := by
    induction t with
    | nil => rfl
    | cons c t ih =>
      rw [List.flatMap_cons, escapeSurrogates_append, hpoint, ih, List.flatMap_cons]
  rw [plainQuote, escapeSurrogates_cons rfl, escapeSurrogates_append, hbody]
  rfl

/-! ## String bodies -/

/-- What JSON's grammar has between the quotes of a string. -/
inductive IsStringBody : Text → Prop
  | nil : IsStringBody []
  | plain {c : CodePoint} {t : Text} :
    c ≠ '"' → c ≠ '\\' → 0x20 ≤ c.toNat → IsStringBody t → IsStringBody (c :: t)
  | letter {l : CodePoint} {t : Text} :
    l ∈ ("\"\\/bfnrt" : Text) → IsStringBody t → IsStringBody ('\\' :: l :: t)
  | unit {a b c d : CodePoint} {t : Text} :
    (∀ x ∈ [a, b, c, d], x.hexDigit?.isSome = true) → IsStringBody t →
      IsStringBody ('\\' :: 'u' :: a :: b :: c :: d :: t)

/-- How many backslashes a text ends with. -/
def backslashesAtEnd (t : Text) : Nat :=
  t.foldl (fun n c => if c = CodePoint.scalar '\\' then n + 1 else 0) 0

theorem ne_of_hexDigit? {c : CodePoint} (h : c.hexDigit?.isSome = true) : c ≠ '"' ∧ c ≠ '\\' := by
  constructor
  · rintro rfl
    cases h
  · rintro rfl
    cases h

namespace IsStringBody

theorem append {a b : Text} (ha : IsStringBody a) (hb : IsStringBody b) :
    IsStringBody (a ++ b) := by
  induction ha with
  | nil => exact hb
  | plain h1 h2 h3 _ ih => exact .plain h1 h2 h3 ih
  | letter hl _ ih => exact .letter hl ih
  | unit hhex _ ih => exact .unit hhex ih

/-- A body ends with an even number of backslashes, also where an even number comes before. -/
theorem even_foldl {t : Text} (h : IsStringBody t) : ∀ n, n % 2 = 0 →
    t.foldl (fun n c => if c = CodePoint.scalar '\\' then n + 1 else 0) n % 2 = 0 := by
  induction h with
  | nil => exact fun n hn => hn
  | plain _ h2 _ _ ih =>
    intro n _
    rw [List.foldl_cons, if_neg h2]
    exact ih 0 rfl
  | @letter l t _ _ ih =>
    intro n hn
    rw [List.foldl_cons, List.foldl_cons, if_pos rfl]
    -- the letter is a second backslash, or it ends the run
    refine ih _ ?_
    split
    · omega
    · rfl
  | @unit a b c d t hhex _ ih =>
    intro n _
    have hd : d ≠ '\\' := (ne_of_hexDigit? (hhex d (by simp))).2
    simp only [List.foldl_cons, if_neg hd]
    exact ih 0 rfl

/-- The body up to a quote is a body and the backslash that escapes the quote. -/
theorem before_quote {t : Text} (h : IsStringBody t) : ∀ {a b : Text},
    a ++ [CodePoint.scalar '"'] ++ b = t →
      ∃ a', IsStringBody a' ∧ a = a' ++ [CodePoint.scalar '\\'] := by
  induction h with
  | nil =>
    intro a b he
    simp at he
  | @plain c t h1 h2 h3 _ ih =>
    intro a b he
    have hc : CodePoint.scalar '"' ∉ [c] := fun hc => h1 (List.mem_singleton.1 hc).symm
    obtain ⟨u, rfl, ht⟩ := cut_after_head hc he
    obtain ⟨a', ha', rfl⟩ := ih ht.symm
    exact ⟨c :: a', .plain h1 h2 h3 ha', rfl⟩
  | @letter l t hl _ ih =>
    intro a b he
    have hbackslash : CodePoint.scalar '"' ∉ [CodePoint.scalar '\\'] := by decide
    obtain ⟨u, rfl, ht⟩ := cut_after_head hbackslash he
    -- the quote is the letter itself, or it comes after the letter
    cases u with
    | nil => exact ⟨[], .nil, rfl⟩
    | cons d u =>
      rw [List.cons_append, List.cons_append, List.cons.injEq] at ht
      obtain ⟨rfl, ht⟩ := ht
      obtain ⟨a', ha', rfl⟩ := ih ht.symm
      exact ⟨'\\' :: l :: a', .letter hl ha', rfl⟩
  | @unit a b c d t hhex _ ih =>
    intro s r he
    have hdigits : CodePoint.scalar '"' ∉ [a, b, c, d] :=
      fun hx => (ne_of_hexDigit? (hhex _ hx)).1 rfl
    have hunit : CodePoint.scalar '"' ∉ [CodePoint.scalar '\\', .scalar 'u'] ++ [a, b, c, d] :=
      List.not_mem_append (by decide) hdigits
    obtain ⟨u, rfl, ht⟩ := cut_after_head (p := []) (b := t) hunit he
    obtain ⟨s', hs', rfl⟩ := ih ht.symm
    exact ⟨'\\' :: 'u' :: a :: b :: c :: d :: s', .unit hhex hs', rfl⟩

/-- Each quote in a body is escaped. -/
theorem odd_of_quote {a b : Text} (h : IsStringBody (a ++ CodePoint.scalar '"' :: b)) :
    backslashesAtEnd a % 2 = 1 := by
  obtain ⟨a', ha', rfl⟩ := h.before_quote (List.append_cons _ _ _).symm
  have heven := ha'.even_foldl 0 rfl
  rw [backslashesAtEnd, List.foldl_append, List.foldl_cons, List.foldl_nil, if_pos rfl]
  omega

theorem unitEscape {n : Nat} (hn : n < 0x10000) : IsStringBody (unitEscape n) := by
  have hdigit : ∀ d < 16, (CodePoint.scalar (Nat.digitChar d)).hexDigit?.isSome = true :=
    fun d hd => by rw [hexDigit?_digitChar hd]; rfl
  rw [Json.unitEscape, Text.hex_four hn]
  refine .unit ?_ .nil
  intro x hx
  simp only [List.mem_cons, List.not_mem_nil, or_false] at hx
  rcases hx with rfl | rfl | rfl | rfl
  · exact hdigit _ (by omega)
  · exact hdigit _ (by omega)
  · exact hdigit _ (by omega)
  · exact hdigit _ (by omega)

theorem shortEscape {c : CodePoint} {e : Text} (h : shortEscape? c = some e) :
    IsStringBody e := by
  rcases shortEscape?_eq_some h with ⟨l, rfl, -, hl⟩ | ⟨hc, rfl⟩
  · refine .letter ?_ .nil
    unfold shortEscaped? at hl
    split at hl
    · rename_i hself
      rcases hself with rfl | rfl | rfl
      · decide
      · decide
      · decide
    split at hl
    · rename_i hb
      exact hb ▸ by decide
    split at hl
    · rename_i hf
      exact hf ▸ by decide
    split at hl
    · rename_i hn
      exact hn ▸ by decide
    split at hl
    · rename_i hr
      exact hr ▸ by decide
    split at hl
    · rename_i ht
      exact ht ▸ by decide
    · cases hl
  · exact unitEscape (by omega)

theorem quotePoint (c : CodePoint) : IsStringBody (quotePoint c) := by
  unfold Json.quotePoint
  split
  · rename_i e he
    exact shortEscape he
  · rename_i hnone
    split
    · rename_i hs
      cases c with
      | scalar c => cases hs
      | surrogate s =>
        have hn : (CodePoint.surrogate s).toNat = 0xD800 + s.val := rfl
        exact unitEscape (by omega)
    · obtain ⟨h1, h2, h3⟩ := shortEscape?_eq_none hnone
      exact .plain h1 h2 h3 .nil

theorem flatMap {f : CodePoint → Text} (hf : ∀ c, IsStringBody (f c)) (t : Text) :
    IsStringBody (t.flatMap f) := by
  induction t with
  | nil => exact .nil
  | cons c t ih =>
    rw [List.flatMap_cons]
    exact (hf c).append ih

end IsStringBody

/-! ## Code units -/

theorem isSurrogate_eq_false_iff {c : CodePoint} :
    c.isSurrogate = false ↔ c.toNat < 0xD800 ∨ 0xE000 ≤ c.toNat := by
  cases c with
  | scalar c =>
    have hv : c.toNat.isValidChar := c.valid
    have hn : (CodePoint.scalar c).toNat = c.toNat := rfl
    unfold Nat.isValidChar at hv
    exact ⟨fun _ => by omega, fun _ => rfl⟩
  | surrogate s =>
    have hn : (CodePoint.surrogate s).toNat = 0xD800 + s.val := rfl
    exact ⟨nofun, fun h => by omega⟩

/-- A pair has the units of its two halves. -/
theorem units_pair {hi lo : CodePoint} (hpair : (hi.isHigh && lo.isLow) = true) :
    (CodePoint.ofNat (0x10000 + (hi.toNat - 0xD800) * 0x400 + (lo.toNat - 0xDC00))).units =
      hi.units ++ lo.units := by
  rw [Bool.and_eq_true, CodePoint.isHigh_iff, CodePoint.isLow_iff] at hpair
  obtain ⟨⟨h1, h2⟩, h3, h4⟩ := hpair
  unfold CodePoint.units
  rw [CodePoint.toNat_ofNat (by omega)]
  simp only
  rw [if_neg (by omega), if_pos (by omega), if_pos (by omega)]
  simp only [List.singleton_append, List.cons.injEq, and_true]
  omega

theorem units_joinPairs (us : List (Bool × CodePoint)) :
    units (joinPairs us) = units (us.map Prod.snd) := by
  fun_induction joinPairs us with
  | case1 => rfl
  | case2 hi lo rest hpair ih =>
    have hrest : units (hi :: lo :: rest.map Prod.snd) =
        hi.units ++ lo.units ++ units (rest.map Prod.snd) := by
      simp only [units, List.flatMap_cons, List.append_assoc]
    rw [List.map_cons, List.map_cons, hrest, ← ih, ← units_pair hpair]
    rfl
  | case3 hi lo rest hpair ih => exact congrArg (hi.units ++ ·) ih
  | case4 b c rest _ ih => exact congrArg (c.units ++ ·) ih

/-! ## Literals -/

theorem read_string {r t : Text} (h : readString r = .ok (t, [])) :
    read ('"' :: r) = .ok (.text t) := by
  have hskip : skipBlanks (CodePoint.scalar '"' :: r) = CodePoint.scalar '"' :: r := rfl
  rw [read, if_neg (by decide), read.go, hskip, readValue_string h]
  rfl

/-- **A quoted text is a JSON string with the code units of the text**, wherever surrogates stand
in it. Between its quotes stands a string body of the grammar, in which each quote is escaped and
neither a control code nor a surrogate stands, and a reader takes the whole literal in. What it
reads has the code units of the text, and is the text if no high surrogate stands right before a
low one there. -/
theorem read_quote (t : Text) :
    ∃ inner, quote t = CodePoint.scalar '"' :: (inner ++ [CodePoint.scalar '"']) ∧
      (∀ a b, inner = a ++ CodePoint.scalar '"' :: b → backslashesAtEnd a % 2 = 1) ∧
      (∀ c ∈ inner, 0x20 ≤ c.toNat ∧ (c.toNat < 0xD800 ∨ 0xE000 ≤ c.toNat)) ∧
      IsStringBody inner ∧
      ∃ u, read (quote t) = .ok (.text u) ∧ units u = units t ∧ (isUnpaired t = true → u = t) := by
  have hbody : IsStringBody (t.flatMap quotePoint) := .flatMap .quotePoint t
  refine ⟨t.flatMap quotePoint, rfl, ?_, ?_, hbody, ?_⟩
  · rintro a b he
    rw [he] at hbody
    exact hbody.odd_of_quote
  · intro c hc
    obtain ⟨d, -, hc⟩ := List.mem_flatMap.1 hc
    have hhidden := not_isHidden_of_mem_quotePoint hc
    rw [IsHidden, not_or, Nat.not_lt, Bool.not_eq_true, isSurrogate_eq_false_iff] at hhidden
    exact hhidden
  · obtain ⟨us, hus, hread⟩ := readStringBody_flatMap_quotePoint t [] []
    refine ⟨joinPairs us, read_string ?_, ?_, ?_⟩
    · rw [readString, hread]
      rfl
    · rw [units_joinPairs, hus]
    · intro ht
      rw [← hus] at ht
      rw [joinPairs_of_isUnpaired ht, hus]

/-- Surrogates after a backslash and after a quote, and a low one before a high one. -/
def loneSurrogates : Text := ['\\', .ofNat 0xD800, '"', .ofNat 0xDC00, .ofNat 0xD800]

theorem read_quote_loneSurrogates :
    isUnpaired loneSurrogates = true ∧
      quote loneSurrogates = "\"\\\\\\ud800\\\"\\udc00\\ud800\"" ∧
        read (quote loneSurrogates) = .ok (.text loneSurrogates) := by
  have hunpaired : isUnpaired loneSurrogates = true := rfl
  obtain ⟨inner, -, -, -, -, u, hread, -, hu⟩ := read_quote loneSurrogates
  exact ⟨hunpaired, rfl, by rw [hread, hu hunpaired]⟩

/-- A pair is read as the code point that it stands for. -/
example : read (quote [.ofNat 0xD800, .ofNat 0xDC00]) = .ok (.text [.ofNat 0x10000]) := rfl

end JsLiteral.Json
