import JsLiteral.Json.Reader
import JsLiteral.Proofs.Text.Digits

/-!
# Strings are read as they were quoted

Both ways to quote a text escape what ends a string or must not stand in one, so a reader
takes the literal in whole. It joins two escaped surrogates that make a pair: a text is
given back if no high surrogate stands right before a low one in it.

    readString (t.flatMap quotePoint ++ '"' :: rest) = .ok (t, rest)     (readString_quote)
-/

namespace JsLiteral

namespace CodePoint

theorem ofNat_toNat (c : CodePoint) : ofNat c.toNat = c := by
  cases c with
  | scalar c =>
    have hc : ¬ (0xD800 ≤ c.toNat ∧ c.toNat < 0xE000) := by
      have hv : c.toNat.isValidChar := c.valid
      unfold Nat.isValidChar at hv
      omega
    show ofNat c.toNat = scalar c
    rw [ofNat, dif_neg hc, Char.ofNat_toNat]
  | surrogate s =>
    have hn : (surrogate s).toNat = 0xD800 + s.val := rfl
    have hs : 0xD800 ≤ (surrogate s).toNat ∧ (surrogate s).toNat < 0xE000 := by omega
    rw [ofNat, dif_pos hs]
    refine congrArg surrogate (Fin.ext ?_)
    show (surrogate s).toNat - 0xD800 = s.val
    omega

theorem toNat_lt (c : CodePoint) : c.toNat < 0x110000 := by
  cases c with
  | scalar c =>
    have hv : c.toNat.isValidChar := c.valid
    show c.toNat < 0x110000
    unfold Nat.isValidChar at hv
    omega
  | surrogate s =>
    show 0xD800 + s.val < 0x110000
    omega

theorem isHigh_iff (c : CodePoint) : c.isHigh = true ↔ 0xD800 ≤ c.toNat ∧ c.toNat < 0xDC00 := by
  rw [isHigh, Bool.and_eq_true, decide_eq_true_eq, decide_eq_true_eq]

theorem isLow_iff (c : CodePoint) : c.isLow = true ↔ 0xDC00 ≤ c.toNat ∧ c.toNat < 0xE000 := by
  rw [isLow, Bool.and_eq_true, decide_eq_true_eq, decide_eq_true_eq]

theorem isSurrogate_of_isHigh {c : CodePoint} (h : c.isHigh = true) : c.isSurrogate = true := by
  cases c with
  | scalar c =>
    have hv : c.toNat.isValidChar := c.valid
    have hn : (scalar c).toNat = c.toNat := rfl
    rw [isHigh_iff] at h
    unfold Nat.isValidChar at hv
    omega
  | surrogate s => rfl

end CodePoint

namespace Text

/-- No high surrogate stands right before a low one. -/
def isUnpaired : Text → Bool
  | hi :: lo :: t => !(hi.isHigh && lo.isLow) && isUnpaired (lo :: t)
  | _ => true

theorem isUnpaired_tail {c : CodePoint} {t : Text} (h : isUnpaired (c :: t) = true) :
    isUnpaired t = true := by
  cases t with
  | nil => rfl
  | cons d t =>
    rw [isUnpaired, Bool.and_eq_true] at h
    exact h.2

/-- The digits of a code unit, one by one. -/
theorem hex_four {n : Nat} (h : n < 0x10000) :
    hex 4 n = [.scalar (Nat.digitChar (n / 0x1000)), .scalar (Nat.digitChar (n / 0x100 % 16)),
      .scalar (Nat.digitChar (n / 16 % 16)), .scalar (Nat.digitChar (n % 16))] := by
  have hzero : Nat.digitChar 0 = '0' := rfl
  unfold hex
  by_cases h1 : n < 16
  · have e1 : n / 0x1000 = 0 := by omega
    have e2 : n / 0x100 % 16 = 0 := by omega
    have e3 : n / 16 % 16 = 0 := by omega
    have e4 : n % 16 = n := by omega
    rw [Nat.toDigits_of_lt_base h1, e1, e2, e3, e4, hzero]
    rfl
  have h1' : 16 ≤ n := by omega
  rw [Nat.toDigits_of_base_le (by decide) h1']
  by_cases h2 : n / 16 < 16
  · have e1 : n / 0x1000 = 0 := by omega
    have e2 : n / 0x100 % 16 = 0 := by omega
    have e3 : n / 16 % 16 = n / 16 := by omega
    rw [Nat.toDigits_of_lt_base h2, e1, e2, e3, hzero]
    rfl
  have h2' : 16 ≤ n / 16 := by omega
  rw [Nat.toDigits_of_base_le (by decide) h2']
  by_cases h3 : n / 16 / 16 < 16
  · have e1 : n / 0x1000 = 0 := by omega
    have e2 : n / 0x100 % 16 = n / 16 / 16 := by omega
    rw [Nat.toDigits_of_lt_base h3, e1, e2, hzero]
    rfl
  have h3' : 16 ≤ n / 16 / 16 := by omega
  have h4 : n / 16 / 16 / 16 < 16 := by omega
  have e1 : n / 0x1000 = n / 16 / 16 / 16 := by omega
  have e2 : n / 0x100 % 16 = n / 16 / 16 % 16 := by omega
  rw [Nat.toDigits_of_base_le (by decide) h3', Nat.toDigits_of_lt_base h4, e1, e2]
  rfl

end Text

namespace Json

open Text

/-! ## Escapes -/

theorem hexDigit?_digitChar {d : Nat} (h : d < 16) :
    CodePoint.hexDigit? (.scalar (Nat.digitChar d)) = some d := by
  revert d
  decide

theorem hex4?_digits {n : Nat} (h : n < 0x10000) :
    hex4? (.scalar (Nat.digitChar (n / 0x1000))) (.scalar (Nat.digitChar (n / 0x100 % 16)))
      (.scalar (Nat.digitChar (n / 16 % 16))) (.scalar (Nat.digitChar (n % 16))) = some n := by
  have h1 : n / 0x1000 < 16 := by omega
  have hn : ((n / 0x1000 * 16 + n / 0x100 % 16) * 16 + n / 16 % 16) * 16 + n % 16 = n := by omega
  unfold hex4?
  rw [hexDigit?_digitChar h1, hexDigit?_digitChar (Nat.mod_lt _ (by decide)),
    hexDigit?_digitChar (Nat.mod_lt _ (by decide)), hexDigit?_digitChar (Nat.mod_lt _ (by decide))]
  show some _ = some n
  rw [hn]

variable {acc : List (Bool × CodePoint)} {rest : Text}

theorem readStringBody_quote :
    readStringBody acc ('"' :: rest) = .ok (acc.reverse, rest) := by
  unfold readStringBody
  rfl

theorem readStringBody_plain {c : CodePoint} (h1 : c ≠ '"') (h2 : c ≠ '\\')
    (h3 : 0x20 ≤ c.toNat) :
    readStringBody acc (c :: rest) = readStringBody ((false, c) :: acc) rest := by
  have h3' : ¬ c.toNat < 0x20 := by omega
  rw [readStringBody.eq_def]
  simp only [if_neg h1, if_neg h2, if_neg h3']

theorem readStringBody_short {e x : CodePoint} (he : e ≠ 'u') (hx : shortEscaped? e = some x) :
    readStringBody acc ('\\' :: e :: rest) = readStringBody ((false, x) :: acc) rest := by
  rw [readStringBody.eq_def]
  simp only [hx, if_neg he]
  rfl

theorem unitEscape_append_ne_nil (n : Nat) (rest : Text) : unitEscape n ++ rest ≠ [] :=
  List.cons_ne_nil _ _

theorem readStringBody_unit {n : Nat} (hn : n < 0x10000) (hr : rest ≠ []) :
    readStringBody acc (unitEscape n ++ rest) =
      readStringBody ((true, CodePoint.ofNat n) :: acc) rest := by
  obtain ⟨next, rest, rfl⟩ := List.exists_cons_of_ne_nil hr
  rw [unitEscape, hex_four hn, readStringBody.eq_def]
  simp only [List.cons_append, List.nil_append, hex4?_digits hn]
  rfl

/-- What the short escape of a code point is: a letter that stands for it, or its number. -/
theorem shortEscape?_eq_some {c : CodePoint} {e : Text} (h : shortEscape? c = some e) :
    (∃ l : CodePoint, e = [.scalar '\\', l] ∧ l ≠ 'u' ∧ shortEscaped? l = some c) ∨
      (c.toNat < 0x20 ∧ e = unitEscape c.toNat) := by
  have hnum : ∀ {n : Nat} (l : Char), c.toNat = n → CodePoint.ofNat n = CodePoint.scalar l →
      c = CodePoint.scalar l := by
    intro n l hn hl
    rw [← c.ofNat_toNat, hn, hl]
  unfold shortEscape? at h
  split at h
  · rename_i hc
    cases h
    exact Or.inl ⟨'"', rfl, by decide, by rw [hc]; rfl⟩
  split at h
  · rename_i hc
    cases h
    exact Or.inl ⟨'\\', rfl, by decide, by rw [hc]; rfl⟩
  split at h
  · rename_i hc
    cases h
    exact Or.inl ⟨'n', rfl, by decide, hc ▸ rfl⟩
  split at h
  · rename_i hc
    cases h
    exact Or.inl ⟨'r', rfl, by decide, hc ▸ rfl⟩
  split at h
  · rename_i hc
    cases h
    exact Or.inl ⟨'t', rfl, by decide, hc ▸ rfl⟩
  split at h
  · rename_i hc
    cases h
    exact Or.inl ⟨'b', rfl, by decide, hnum '\x08' hc rfl ▸ rfl⟩
  split at h
  · rename_i hc
    cases h
    exact Or.inl ⟨'f', rfl, by decide, hnum '\x0c' hc rfl ▸ rfl⟩
  split at h
  · rename_i hc
    cases h
    exact Or.inr ⟨hc, rfl⟩
  · cases h

/-- A code point without a short escape may stand in a string as it is. -/
theorem shortEscape?_eq_none {c : CodePoint} (h : shortEscape? c = none) :
    c ≠ '"' ∧ c ≠ '\\' ∧ 0x20 ≤ c.toNat := by
  refine ⟨?_, ?_, ?_⟩
  · rintro rfl
    cases h
  · rintro rfl
    cases h
  · refine Nat.le_of_not_lt fun hlt => ?_
    unfold shortEscape? at h
    rw [if_pos hlt] at h
    split at h
    · cases h
    split at h
    · cases h
    split at h
    · cases h
    split at h
    · cases h
    split at h
    · cases h
    split at h
    · cases h
    split at h
    · cases h
    · cases h

theorem readStringBody_shortEscape {c : CodePoint} {e : Text} (h : shortEscape? c = some e) :
    ∃ b, ∀ acc rest, rest ≠ [] →
      readStringBody acc (e ++ rest) = readStringBody ((b, c) :: acc) rest := by
  rcases shortEscape?_eq_some h with ⟨l, rfl, hl, hx⟩ | ⟨hc, rfl⟩
  · exact ⟨false, fun acc rest _ => readStringBody_short hl hx⟩
  · refine ⟨true, fun acc rest hr => ?_⟩
    rw [readStringBody_unit (by omega) hr, c.ofNat_toNat]

/-- What is read of a quoted code point is the code point. -/
theorem readStringBody_quotePoint (c : CodePoint) :
    ∃ b, ∀ acc rest, rest ≠ [] →
      readStringBody acc (quotePoint c ++ rest) = readStringBody ((b, c) :: acc) rest := by
  unfold quotePoint
  split
  · rename_i e he
    exact readStringBody_shortEscape he
  · rename_i hnone
    split
    · rename_i hs
      have hc : c.toNat < 0x10000 := by
        cases c with
        | scalar c => cases hs
        | surrogate s =>
          show 0xD800 + s.val < 0x10000
          omega
      refine ⟨true, fun acc rest hr => ?_⟩
      rw [readStringBody_unit hc hr, c.ofNat_toNat]
    · obtain ⟨h1, h2, h3⟩ := shortEscape?_eq_none hnone
      exact ⟨false, fun acc rest _ => readStringBody_plain h1 h2 h3⟩

/-- A code point that a quoted text shows as it is. -/
def isVerbatim (c : CodePoint) : Bool :=
  c != '"' && c != '\\' && decide (0x20 ≤ c.toNat) && !c.isSurrogate

theorem quotePoint_of_isVerbatim {c : CodePoint} (h : isVerbatim c = true) :
    quotePoint c = [c] := by
  simp only [isVerbatim, Bool.and_eq_true, bne_iff_ne, ne_eq, decide_eq_true_eq,
    Bool.not_eq_true'] at h
  obtain ⟨⟨⟨h1, h2⟩, h3⟩, h4⟩ := h
  unfold quotePoint
  cases he : shortEscape? c with
  | none => simp only [h4, Bool.false_eq_true, if_false]
  | some e =>
    exfalso
    unfold shortEscape? at he
    have hne : ∀ {d : CodePoint}, d.toNat < 0x20 → c ≠ d := by
      rintro d hd rfl
      omega
    have h5 : ¬ c.toNat = 8 := by omega
    have h6 : ¬ c.toNat = 12 := by omega
    have h7 : ¬ c.toNat < 0x20 := by omega
    have hn : c ≠ '\n' := hne (by decide)
    have hr : c ≠ '\r' := hne (by decide)
    have ht : c ≠ '\t' := hne (by decide)
    rw [if_neg h1, if_neg h2, if_neg hn, if_neg hr, if_neg ht, if_neg h5, if_neg h6,
      if_neg h7] at he
    cases he

theorem isVerbatim_of_mem_ofNat {n : Nat} {c : CodePoint} (h : c ∈ Text.ofNat n) :
    isVerbatim c = true := by
  obtain ⟨d, rfl, hd⟩ := exists_of_mem_ofNat h
  have hne : ∀ e : Char, e.isDigit = false → CodePoint.scalar d ≠ .scalar e := by
    rintro e he ⟨⟩
    rw [hd] at he
    cases he
  have hge : 0x20 ≤ (CodePoint.scalar d).toNat := by
    show 0x20 ≤ d.val.toNat
    have h0 : '0'.val.toNat = 48 := rfl
    simp only [Char.isDigit, Bool.and_eq_true, decide_eq_true_eq, ge_iff_le,
      UInt32.le_iff_toNat_le, h0] at hd
    omega
  simp [isVerbatim, hne '"' (by decide), hne '\\' (by decide), hge, CodePoint.isSurrogate]

theorem flatMap_quotePoint {t : Text} (h : ∀ c ∈ t, isVerbatim c = true) :
    t.flatMap quotePoint = t := by
  induction t with
  | nil => rfl
  | cons c t ih =>
    rw [List.flatMap_cons, quotePoint_of_isVerbatim (h c List.mem_cons_self),
      ih fun d hd => h d (List.mem_cons_of_mem _ hd), List.singleton_append]

/-! ## Joining pairs -/

theorem joinPairs_cons {b : Bool} {c : CodePoint} (hc : c.isHigh = false)
    (us : List (Bool × CodePoint)) : joinPairs ((b, c) :: us) = c :: joinPairs us := by
  rw [joinPairs.eq_def]
  split
  · rename_i h
    cases h
  · rename_i hi lo rest h
    cases h
    simp only [hc, Bool.false_and, Bool.false_eq_true, if_false]
  · rename_i b' c' rest _ h
    cases h
    rfl

/-- Of an unpaired text nothing is joined, whatever was escaped. -/
theorem joinPairs_of_isUnpaired {us : List (Bool × CodePoint)}
    (h : isUnpaired (us.map Prod.snd) = true) : joinPairs us = us.map Prod.snd := by
  fun_induction joinPairs us with
  | case1 => rfl
  | case2 hi lo rest hpair ih =>
    rw [List.map_cons, List.map_cons, isUnpaired] at h
    simp only [hpair] at h
    cases h
  | case3 hi lo rest hpair ih =>
    rw [ih (isUnpaired_tail h)]
    rfl
  | case4 b c rest _ ih =>
    rw [ih (isUnpaired_tail h)]
    rfl

/-! ## Literals -/

theorem readStringBody_flatMap_quotePoint (t : Text) (acc : List (Bool × CodePoint))
    (rest : Text) :
    ∃ us : List (Bool × CodePoint), us.map Prod.snd = t ∧
      readStringBody acc (t.flatMap quotePoint ++ CodePoint.scalar '"' :: rest) =
        .ok (acc.reverse ++ us, rest) := by
  induction t generalizing acc with
  | nil => exact ⟨[], rfl, by rw [List.append_nil]; exact readStringBody_quote⟩
  | cons c t ih =>
    obtain ⟨b, hb⟩ := readStringBody_quotePoint c
    obtain ⟨us, hus, hread⟩ := ih ((b, c) :: acc)
    refine ⟨(b, c) :: us, by rw [List.map_cons, hus], ?_⟩
    rw [List.flatMap_cons, List.append_assoc, hb _ _ (by simp), hread, List.reverse_cons,
      List.append_assoc]
    rfl

/-- A quoted text is read back after its opening quote. -/
theorem readString_quote {t : Text} (h : isUnpaired t = true) (rest : Text) :
    readString (t.flatMap quotePoint ++ CodePoint.scalar '"' :: rest) = .ok (t, rest) := by
  obtain ⟨us, rfl, hread⟩ := readStringBody_flatMap_quotePoint t [] rest
  rw [readString, hread]
  simp only [List.reverse_nil, List.nil_append, joinPairs_of_isUnpaired h]

theorem joinPairs_pair {hi lo : CodePoint} (hpair : (hi.isHigh && lo.isLow) = true)
    (us : List (Bool × CodePoint)) :
    joinPairs ((true, hi) :: (true, lo) :: us) =
      .ofNat (0x10000 + (hi.toNat - 0xD800) * 0x400 + (lo.toNat - 0xDC00)) :: joinPairs us := by
  rw [joinPairs, if_pos hpair]

/-- The two halves of a code point past U+FFFF make a pair and spell its number. -/
theorem halves {n : Nat} (h1 : 0x10000 ≤ n) (h2 : n < 0x110000) {hi lo : CodePoint}
    (hhi : hi = .ofNat (0xD800 + (n - 0x10000) / 0x400))
    (hlo : lo = .ofNat (0xDC00 + (n - 0x10000) % 0x400)) :
    (hi.isHigh && lo.isLow) = true ∧
      0x10000 + (hi.toNat - 0xD800) * 0x400 + (lo.toNat - 0xDC00) = n := by
  have hhi' : hi.toNat = 0xD800 + (n - 0x10000) / 0x400 := by
    rw [hhi]
    exact CodePoint.toNat_ofNat (by omega)
  have hlo' : lo.toNat = 0xDC00 + (n - 0x10000) % 0x400 := by
    rw [hlo]
    exact CodePoint.toNat_ofNat (by omega)
  constructor
  · rw [Bool.and_eq_true, CodePoint.isHigh_iff, CodePoint.isLow_iff]
    omega
  · omega

/-- Each surrogate was escaped. -/
def IsMarked (us : List (Bool × CodePoint)) : Prop := ∀ p ∈ us, p.2.isSurrogate = true → p.1 = true

theorem IsMarked.append {us vs : List (Bool × CodePoint)} (hu : IsMarked us) (hv : IsMarked vs) :
    IsMarked (us ++ vs) := by
  intro p hp
  rcases List.mem_append.1 hp with hp | hp
  · exact hu p hp
  · exact hv p hp

theorem isMarked_singleton {b : Bool} {c : CodePoint} (h : c.isSurrogate = true → b = true) :
    IsMarked [(b, c)] := by
  intro p hp
  rw [List.mem_singleton.1 hp]
  exact h

/-- What is read of an ASCII escape joins to the code point. -/
theorem readStringBody_quoteAsciiPoint {c : CodePoint} (hc : c.isSurrogate = false) :
    ∃ us : List (Bool × CodePoint), IsMarked us ∧
      (∀ vs, joinPairs (us ++ vs) = c :: joinPairs vs) ∧
      ∀ acc rest, rest ≠ [] →
        readStringBody acc (quoteAsciiPoint c ++ rest) =
          readStringBody (us.reverse ++ acc) rest := by
  have hhigh : c.isHigh = false := by
    cases h : c.isHigh with
    | false => rfl
    | true => rw [CodePoint.isSurrogate_of_isHigh h] at hc; cases hc
  have hmarked : ∀ b, IsMarked [(b, c)] := fun b => isMarked_singleton (by rw [hc]; nofun)
  unfold quoteAsciiPoint
  split
  · rename_i e he
    obtain ⟨b, hb⟩ := readStringBody_shortEscape he
    exact ⟨[(b, c)], hmarked b, fun vs => joinPairs_cons hhigh vs,
      fun acc rest hr => hb acc rest hr⟩
  · rename_i hnone
    obtain ⟨h1, h2, h3⟩ := shortEscape?_eq_none hnone
    simp only
    split
    · exact ⟨[(false, c)], hmarked false, fun vs => joinPairs_cons hhigh vs,
        fun acc rest _ => readStringBody_plain h1 h2 h3⟩
    split
    · rename_i hlt
      refine ⟨[(true, c)], hmarked true, fun vs => joinPairs_cons hhigh vs, fun acc rest hr => ?_⟩
      rw [readStringBody_unit hlt hr, c.ofNat_toNat]
      rfl
    · -- a code point past U+FFFF: its two halves are escaped one after the other
      rename_i hge
      have hmax := c.toNat_lt
      obtain ⟨hi, hhi⟩ : ∃ hi, hi = CodePoint.ofNat (0xD800 + (c.toNat - 0x10000) / 0x400) :=
        ⟨_, rfl⟩
      obtain ⟨lo, hlo⟩ : ∃ lo, lo = CodePoint.ofNat (0xDC00 + (c.toNat - 0x10000) % 0x400) :=
        ⟨_, rfl⟩
      obtain ⟨hpair, hnum⟩ := halves (Nat.le_of_not_lt hge) hmax hhi hlo
      refine ⟨[(true, hi)] ++ [(true, lo)],
        (isMarked_singleton fun _ => rfl).append (isMarked_singleton fun _ => rfl),
        fun vs => ?_, fun acc rest hr => ?_⟩
      · have hjoin := joinPairs_pair hpair vs
        rw [hnum, c.ofNat_toNat] at hjoin
        exact hjoin
      · rw [List.append_assoc, readStringBody_unit (by omega) (unitEscape_append_ne_nil _ _),
          readStringBody_unit (by omega) hr, ← hhi, ← hlo]
        rfl

/-- A surrogate is read as it is, to be joined with what follows. -/
theorem readStringBody_quoteAsciiPoint_surrogate (s : Fin 0x800) (acc : List (Bool × CodePoint))
    {rest : Text} (hr : rest ≠ []) :
    readStringBody acc (quoteAsciiPoint (.surrogate s) ++ rest) =
      readStringBody ((true, .surrogate s) :: acc) rest := by
  have hn : (CodePoint.surrogate s).toNat = 0xD800 + s.val := rfl
  have hshort : shortEscape? (.surrogate s) = none := by
    unfold shortEscape?
    simp only [reduceCtorEq, if_false]
    rw [if_neg (by omega), if_neg (by omega), if_neg (by omega)]
  unfold quoteAsciiPoint
  simp only [hshort]
  rw [if_neg (by omega), if_pos (by omega), readStringBody_unit (by omega) hr,
    CodePoint.ofNat_toNat]

theorem readStringBody_flatMap_quoteAsciiPoint {t : Text} (h : ∀ c ∈ t, c.isSurrogate = false)
    (acc : List (Bool × CodePoint)) (rest : Text) :
    ∃ us, joinPairs us = t ∧
      readStringBody acc (t.flatMap quoteAsciiPoint ++ CodePoint.scalar '"' :: rest) =
        .ok (acc.reverse ++ us, rest) := by
  induction t generalizing acc with
  | nil => exact ⟨[], rfl, by rw [List.append_nil]; exact readStringBody_quote⟩
  | cons c t ih =>
    obtain ⟨vs, -, hvs, hread'⟩ := readStringBody_quoteAsciiPoint (h c List.mem_cons_self)
    obtain ⟨us, hus, hread⟩ := ih (fun d hd => h d (List.mem_cons_of_mem _ hd)) (vs.reverse ++ acc)
    refine ⟨vs ++ us, by rw [hvs, hus], ?_⟩
    rw [List.flatMap_cons, List.append_assoc, hread' _ _ (by simp), hread, List.reverse_append,
      List.reverse_reverse, List.append_assoc]

/-- A text in ASCII is read back after its opening quote. -/
theorem readString_quoteAscii {t : Text} (h : ∀ c ∈ t, c.isSurrogate = false) (rest : Text) :
    readString (t.flatMap quoteAsciiPoint ++ CodePoint.scalar '"' :: rest) = .ok (t, rest) := by
  obtain ⟨us, rfl, hread⟩ := readStringBody_flatMap_quoteAsciiPoint h [] rest
  rw [readString, hread]
  simp only [List.reverse_nil, List.nil_append]

end Json

end JsLiteral
