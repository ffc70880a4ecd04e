import JsLiteral.Proofs.Json.Strings
import JsLiteral.Template.Literal
import Mathlib.Data.List.TakeWhile

/-!
# What JSON is made of

Outside of strings a document has no backtick and no backslash, inside of them no control
code, and each string is closed. This is far less than being JSON, but it can be told from
left to right, and every document that is read has it.

    InString t → lexes true (t ++ rest) = lexes true rest        (lexes_string_append)
    read doc = .ok v → lexes false doc                           (lexes_of_read)
-/

namespace JsLiteral.Json

open Template

/-! ## Insides of strings -/

/-- What may stand in a string: code points as they are, and escapes. -/
inductive InString : Text → Prop
  | nil : InString []
  | plain {c : CodePoint} {t : Text} :
    c ≠ '"' → c ≠ '\\' → 0x20 ≤ c.toNat → InString t → InString (c :: t)
  | escaped {c : CodePoint} {t : Text} : InString t → InString ('\\' :: c :: t)

namespace InString

theorem append {a b : Text} (ha : InString a) (hb : InString b) : InString (a ++ b) := by
  induction ha with
  | nil => exact hb
  | plain h1 h2 h3 _ ih => exact .plain h1 h2 h3 ih
  | escaped _ ih => exact .escaped ih

theorem of_forall {t : Text} (h : ∀ c ∈ t, c ≠ '"' ∧ c ≠ '\\' ∧ 0x20 ≤ c.toNat) : InString t := by
  induction t with
  | nil => exact .nil
  | cons c t ih =>
    obtain ⟨h1, h2, h3⟩ := h c List.mem_cons_self
    exact .plain h1 h2 h3 (ih fun d hd => h d (List.mem_cons_of_mem _ hd))

theorem of_isVerbatim {t : Text} (h : ∀ c ∈ t, isVerbatim c = true) : InString t := by
  apply of_forall
  intro c hc
  have hv := h c hc
  simp only [isVerbatim, Bool.and_eq_true, bne_iff_ne, decide_eq_true_eq] at hv
  exact ⟨hv.1.1.1, hv.1.1.2, hv.1.2⟩

theorem flatMap {f : CodePoint → Text} (hf : ∀ c, InString (f c)) (t : Text) :
    InString (t.flatMap f) := by
  induction t with
  | nil => exact .nil
  | cons c t ih =>
    rw [List.flatMap_cons]
    exact (hf c).append ih

theorem hexDigit {d : Nat} (hd : d < 16) {t : Text} (h : InString t) :
    InString (.scalar (Nat.digitChar d) :: t) := by
  have hall : ∀ d < 16, CodePoint.scalar (Nat.digitChar d) ≠ '"' ∧
      CodePoint.scalar (Nat.digitChar d) ≠ '\\' ∧
        0x20 ≤ (CodePoint.scalar (Nat.digitChar d)).toNat := by decide
  obtain ⟨h1, h2, h3⟩ := hall d hd
  exact .plain h1 h2 h3 h

theorem unitEscape {n : Nat} (hn : n < 0x10000) : InString (unitEscape n) := by
  rw [Json.unitEscape, Text.hex_four hn]
  exact .escaped (hexDigit (by omega) (hexDigit (by omega) (hexDigit (by omega)
    (hexDigit (by omega) .nil))))

theorem shortEscape {c : CodePoint} {e : Text} (h : shortEscape? c = some e) : InString e := by
  rcases shortEscape?_eq_some h with ⟨l, rfl, -, -⟩ | ⟨hc, rfl⟩
  · exact .escaped .nil
  · exact unitEscape (by omega)

theorem quotePoint (c : CodePoint) : InString (quotePoint c) := by
  unfold Json.quotePoint
  split
  · rename_i e he
    exact shortEscape he
  · rename_i hnone
    split
    · rename_i hs
      cases c with
      | scalar c => cases hs
      | surrogate s =>
        refine unitEscape ?_
        show 0xD800 + s.val < 0x10000
        omega
    · obtain ⟨h1, h2, h3⟩ := shortEscape?_eq_none hnone
      exact .plain h1 h2 h3 .nil

theorem quoteAsciiPoint (c : CodePoint) : InString (quoteAsciiPoint c) := by
  unfold Json.quoteAsciiPoint
  split
  · rename_i e he
    exact shortEscape he
  · rename_i hnone
    obtain ⟨h1, h2, h3⟩ := shortEscape?_eq_none hnone
    have hmax := c.toNat_lt
    simp only
    split
    · exact .plain h1 h2 h3 .nil
    split
    · rename_i hlt
      exact unitEscape hlt
    · exact (unitEscape (by omega)).append (unitEscape (by omega))

end InString

/-! ## Lexing -/

/-- Whether a text goes on like a document, inside a string or not. -/
def lexes : Bool → Text → Bool
  | false, [] => true
  | true, [] => false
  | false, c :: t => c != backtick && c != '\\' && lexes (c == '"') t
  | true, .scalar '\\' :: _ :: t => lexes true t
  | true, c :: t => decide (0x20 ≤ c.toNat) && lexes (c != '"') t

theorem lexes_code_cons {c : CodePoint} (h1 : c ≠ backtick) (h2 : c ≠ '\\') (t : Text) :
    lexes false (c :: t) = lexes (c == '"') t := by
  rw [lexes, bne_iff_ne.2 h1, bne_iff_ne.2 h2, Bool.true_and, Bool.true_and]

theorem lexes_string_escaped (c : CodePoint) (t : Text) :
    lexes true ('\\' :: c :: t) = lexes true t := by
  rw [lexes]

theorem lexes_string_cons {c : CodePoint} (h : c ≠ '\\') (t : Text) :
    lexes true (c :: t) = (decide (0x20 ≤ c.toNat) && lexes (c != '"') t) := by
  rw [lexes]
  rintro d r rfl
  exact absurd rfl h

theorem lexes_string_quote (t : Text) : lexes true ('"' :: t) = lexes false t := by
  rw [lexes_string_cons (by decide)]
  rfl

theorem lexes_string_plain {c : CodePoint} (h1 : c ≠ '"') (h2 : c ≠ '\\') (h3 : 0x20 ≤ c.toNat)
    (t : Text) : lexes true (c :: t) = lexes true t := by
  rw [lexes_string_cons h2, decide_eq_true h3, Bool.true_and, bne_iff_ne.2 h1]

theorem lexes_string_append {a : Text} (ha : InString a) (t : Text) :
    lexes true (a ++ t) = lexes true t := by
  induction ha with
  | nil => rfl
  | plain h1 h2 h3 _ ih => rw [List.cons_append, lexes_string_plain h1 h2 h3, ih]
  | escaped _ ih => rw [List.cons_append, List.cons_append, lexes_string_escaped, ih]

/-- A whole string is passed over. -/
theorem lexes_quoted {a : Text} (ha : InString a) (t : Text) :
    lexes false ('"' :: (a ++ CodePoint.scalar '"' :: t)) = lexes false t := by
  rw [lexes_code_cons (by decide) (by decide)]
  show lexes true _ = _
  rw [lexes_string_append ha, lexes_string_quote]

/-- A code point that stands for itself outside of strings. -/
def IsBare (c : CodePoint) : Prop := c ≠ '"' ∧ c ≠ '\\' ∧ c ≠ backtick

theorem lexes_bare_cons {c : CodePoint} (h : IsBare c) (t : Text) :
    lexes false (c :: t) = lexes false t := by
  rw [lexes_code_cons h.2.2 h.2.1, beq_eq_false_iff_ne.2 h.1]

theorem lexes_bare_append {a : Text} (ha : ∀ c ∈ a, IsBare c) (t : Text) :
    lexes false (a ++ t) = lexes false t := by
  induction a with
  | nil => rfl
  | cons c a ih =>
    rw [List.cons_append, lexes_bare_cons (ha c List.mem_cons_self),
      ih fun d hd => ha d (List.mem_cons_of_mem _ hd)]

/-! ## What is read lexes -/

theorem isBare_of_isDigit {c : CodePoint} (h : c.isDigit = true) : IsBare c := by
  refine ⟨?_, ?_, ?_⟩ <;> rintro rfl <;> cases h

theorem lexes_skipBlanks (t : Text) : lexes false (skipBlanks t) = lexes false t := by
  have hblank : ∀ c ∈ t.takeWhile isJsonBlank, IsBare c := by
    intro c hc
    have := List.mem_takeWhile_imp hc
    refine ⟨?_, ?_, ?_⟩ <;> rintro rfl <;> cases this
  have h := lexes_bare_append hblank (t.dropWhile isJsonBlank)
  rw [List.takeWhile_append_dropWhile] at h
  exact h.symm

theorem lexes_spanDigits (t : Text) : lexes false (spanDigits t).2 = lexes false t := by
  have hdigit : ∀ c ∈ t.takeWhile CodePoint.isDigit, IsBare c :=
    fun c hc => isBare_of_isDigit (List.mem_takeWhile_imp hc)
  have h := lexes_bare_append hdigit (t.dropWhile CodePoint.isDigit)
  rw [List.takeWhile_append_dropWhile] at h
  exact h.symm

/-- The digits of an escaped code unit may stand in a string. -/
theorem inString_of_hexDigit? {c : CodePoint} {n : Nat} (h : c.hexDigit? = some n) {t : Text}
    (ht : InString t) : InString (c :: t) := by
  have hge : 0x30 ≤ c.toNat ∧ c.toNat ≠ 0x5C := by
    unfold CodePoint.hexDigit? at h
    simp only at h
    split at h
    · omega
    split at h
    · omega
    split at h
    · omega
    · cases h
  refine .plain ?_ ?_ (by omega) ht
  · rintro rfl
    exact absurd hge.1 (by decide)
  · rintro rfl
    exact absurd rfl hge.2

theorem inString_of_hex4? {a b c d : CodePoint} {n : Nat} (h : hex4? a b c d = some n) :
    InString [a, b, c, d] := by
  simp only [hex4?, Option.bind_eq_bind, Option.bind_eq_some_iff] at h
  obtain ⟨x, ha, y, hb, z, hc, u, hd, -⟩ := h
  exact inString_of_hexDigit? ha (inString_of_hexDigit? hb (inString_of_hexDigit? hc
    (inString_of_hexDigit? hd .nil)))

theorem lexes_of_readStringBody {acc us : List (Bool × CodePoint)} {t rest : Text}
    (h : readStringBody acc t = .ok (us, rest)) : lexes true t = lexes false rest := by
  fun_induction readStringBody acc t with
  | case1 => cases h
  | case2 acc t =>
    cases h
    exact lexes_string_quote _
  | case3 => cases h
  | case4 acc a b c d next r n hn _ ih =>
    rw [← ih h, lexes_string_escaped]
    exact lexes_string_append (inString_of_hex4? hn) (next :: r)
  | case5 => cases h
  | case6 => cases h
  | case7 acc e r _ x _ _ ih => rw [← ih h, lexes_string_escaped]
  | case8 => cases h
  | case9 => cases h
  | case10 acc c t h1 h2 h3 ih => rw [← ih h, lexes_string_plain h1 h2 (Nat.le_of_not_lt h3)]

theorem lexes_of_readString {t s rest : Text} (h : readString t = .ok (s, rest)) :
    lexes true t = lexes false rest := by
  unfold readString at h
  split at h
  · rename_i us r he
    cases h
    exact lexes_of_readStringBody he
  · cases h
  · cases h

instance {c : CodePoint} : Decidable (IsBare c) :=
  inferInstanceAs (Decidable (_ ∧ _ ∧ _))

theorem lexes_of_readWord? {t rest : Text} {v : Value} (h : readWord? t = some (v, rest)) :
    lexes false t = lexes false rest := by
  have hbare : ∀ p ∈ wordValues, ∀ c ∈ p.1, IsBare c := by
    intro p hp
    simp only [wordValues, List.mem_cons, List.not_mem_nil, or_false] at hp
    rcases hp with rfl | rfl | rfl | rfl | rfl | rfl
    · exact (by decide : ∀ c ∈ ("null" : Text), IsBare c)
    · exact (by decide : ∀ c ∈ ("true" : Text), IsBare c)
    · exact (by decide : ∀ c ∈ ("false" : Text), IsBare c)
    · exact (by decide : ∀ c ∈ ("NaN" : Text), IsBare c)
    · exact (by decide : ∀ c ∈ ("Infinity" : Text), IsBare c)
    · exact (by decide : ∀ c ∈ ("-Infinity" : Text), IsBare c)
  obtain ⟨⟨word, u⟩, hp, hfound⟩ := List.exists_of_findSome?_eq_some h
  obtain ⟨r, hr, he⟩ := Option.map_eq_some_iff.1 hfound
  cases he
  unfold after? at hr
  split at hr
  · rename_i hpre
    cases hr
    obtain ⟨y, rfl⟩ := List.isPrefixOf_iff_prefix.1 hpre
    rw [List.drop_left, lexes_bare_append (hbare _ hp)]
  · cases hr

theorem lexes_takeFraction (t : Text) : lexes false (takeFraction t).2 = lexes false t := by
  unfold takeFraction
  split
  · rename_i r
    split
    · rfl
    · rw [lexes_spanDigits, lexes_bare_cons (by decide)]
  · rfl

theorem lexes_takeSign (t : Text) : lexes false (Numeral.takeSign t).2 = lexes false t := by
  unfold Numeral.takeSign
  split
  · rw [lexes_bare_cons (by decide)]
  · rw [lexes_bare_cons (by decide)]
  · rfl

theorem lexes_takeExponent (t : Text) : lexes false (takeExponent t).2 = lexes false t := by
  unfold takeExponent
  split
  · rename_i c r
    split
    · rename_i hc
      have hbare : IsBare c := by
        rcases hc with rfl | rfl
        · decide
        · decide
      simp only
      split
      · rfl
      · rw [lexes_spanDigits, lexes_takeSign, lexes_bare_cons hbare]
    · rfl
  · rfl

theorem lexes_of_readNumber? {t rest : Text} {v : Value} (h : readNumber? t = some (v, rest)) :
    lexes false t = lexes false rest := by
  unfold readNumber? at h
  split at h
  rename_i negative t₁ hsign
  have h1 : lexes false t₁ = lexes false t := by
    split at hsign
    · cases hsign
      rw [lexes_bare_cons (by decide)]
    · cases hsign
      rfl
  split at h
  rename_i whole t₂ hwhole
  have h2 : lexes false t₂ = lexes false t₁ := by
    split at hwhole
    · cases hwhole
      rw [lexes_bare_cons (by decide)]
    · rw [← lexes_spanDigits t₁, hwhole]
  have h3 := lexes_takeFraction t₂
  have h4 := lexes_takeExponent (takeFraction t₂).2
  rw [← h1, ← h2, ← h3, ← h4]
  split at h
  · cases h
  simp only at h
  split at h
  · cases h
    rfl
  · cases h
    rfl

/-- What readers with so much fuel take from a text changes nothing in how the text goes on. -/
structure TakeLexed (fuel : Nat) : Prop where
  value : ∀ {t rest v}, readValue fuel t = .ok (v, rest) → lexes false t = lexes false rest
  items : ∀ {t rest vs}, readItems fuel t = .ok (vs, rest) → lexes false t = lexes false rest
  members : ∀ {t rest ms}, readMembers fuel t = .ok (ms, rest) → lexes false t = lexes false rest

namespace TakeLexed

variable {fuel : Nat} {t rest : Text}

theorem value_succ (ih : TakeLexed fuel) {v : Value} (h : readValue (fuel + 1) t = .ok (v, rest)) :
    lexes false t = lexes false rest := by
  rw [readValue.eq_def] at h
  simp only at h
  split at h
  · -- a string
    rename_i r
    split at h
    · rename_i s rest' hs
      cases h
      rw [lexes_code_cons (by decide) (by decide)]
      exact lexes_of_readString hs
    · cases h
  · -- a list
    rename_i r
    rw [lexes_bare_cons (by decide), ← lexes_skipBlanks r]
    split at h
    · rename_i r' hr
      cases h
      rw [hr, lexes_bare_cons (by decide)]
    · split at h
      · rename_i hitems
        cases h
        exact ih.items hitems
      · cases h
  · -- an object
    rename_i r
    rw [lexes_bare_cons (by decide), ← lexes_skipBlanks r]
    split at h
    · rename_i r' hr
      cases h
      rw [hr, lexes_bare_cons (by decide)]
    · split at h
      · rename_i hmembers
        cases h
        exact ih.members hmembers
      · cases h
  · split at h
    · rename_i hw
      cases h
      exact lexes_of_readWord? hw
    · split at h
      · rename_i hn
        cases h
        exact lexes_of_readNumber? hn
      · cases h

theorem items_succ (ih : TakeLexed fuel) {vs : List Value}
    (h : readItems (fuel + 1) t = .ok (vs, rest)) : lexes false t = lexes false rest := by
  rw [readItems] at h
  split at h
  · cases h
  · rename_i v r hv
    rw [ih.value hv, ← lexes_skipBlanks r]
    split at h
    · rename_i rest' hr
      cases h
      rw [hr, lexes_bare_cons (by decide)]
    · rename_i rest' hr
      rw [hr, lexes_bare_cons (by decide), ← lexes_skipBlanks rest']
      split at h
      · rename_i hitems
        cases h
        exact ih.items hitems
      · cases h
    · cases h

theorem members_succ (ih : TakeLexed fuel) {ms : Members}
    (h : readMembers (fuel + 1) t = .ok (ms, rest)) : lexes false t = lexes false rest := by
  rw [readMembers.eq_def] at h
  simp only at h
  split at h
  · rename_i r
    rw [lexes_code_cons (by decide) (by decide)]
    show lexes true r = _
    split at h
    · cases h
    · rename_i name r' hname
      rw [lexes_of_readString hname, ← lexes_skipBlanks r']
      split at h
      · rename_i r'' hr''
        rw [hr'', lexes_bare_cons (by decide), ← lexes_skipBlanks r'']
        split at h
        · cases h
        · rename_i v u hv
          rw [ih.value hv, ← lexes_skipBlanks u]
          split at h
          · rename_i rest' hu
            cases h
            rw [hu, lexes_bare_cons (by decide)]
          · rename_i rest' hu
            rw [hu, lexes_bare_cons (by decide), ← lexes_skipBlanks rest']
            split at h
            · rename_i hmembers
              cases h
              exact ih.members hmembers
            · cases h
          · cases h
      · cases h
  · cases h

end TakeLexed

theorem takeLexed (fuel : Nat) : TakeLexed fuel := by
  induction fuel with
  | zero =>
    constructor
    · intro t rest v h
      rw [readValue] at h
      cases h
    · intro t rest vs h
      rw [readItems] at h
      cases h
    · intro t rest ms h
      rw [readMembers] at h
      cases h
  | succ fuel ih => exact ⟨ih.value_succ, ih.items_succ, ih.members_succ⟩

/-- A document that is read lexes. -/
theorem lexes_of_read {doc : Text} {v : Value} (h : read doc = .ok v) : lexes false doc = true := by
  have hgo : ∀ {doc : Text}, read.go doc = .ok v → lexes false doc = true := by
    intro doc h
    unfold read.go at h
    split at h
    · cases h
    · rename_i u r hv
      rw [← lexes_skipBlanks doc, (takeLexed _).value hv, ← lexes_skipBlanks r]
      split at h
      · rename_i hr
        rw [hr]
        rfl
      · cases h
  unfold read at h
  split at h
  · split at h
    · cases h
    · exact hgo h
  · exact hgo h

end JsLiteral.Json
