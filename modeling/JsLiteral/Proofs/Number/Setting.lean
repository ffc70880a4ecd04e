import Mathlib.Data.List.TakeWhile
import JsLiteral.Proofs.Json.Numerals

/-!
# Numbers in settings

A number of seconds in a setting has blanks around it or none, a sign or none, and then one of the
words for an infinity or for no number, in any case, or a decimal: digits, a point or none and
digits, an exponent or none. There are digits before the point or after it. Single underscores may
stand between digits. Blanks and digits of other scripts count as those of ASCII.

    underscores are dropped where digits stand around them      (joinDigits_eq_some_iff)
    readDecimal t = some d ↔ IsDecimal t d                       (readDecimal_eq_some_iff)
    the numbers among the texts, and what number each is        (readBinary64_eq_some_iff)
    blanks around a number in ASCII are dropped                 (readBinary64_append)
-/

namespace JsLiteral.Numeral

open Text Json

/-! ## Underscores -/

/-- Each underscore of a text stands between two digits; `afterDigit` tells whether a digit stands
before the text. -/
def IsGrouped (afterDigit : Bool) (t : Text) : Prop :=
  ∀ a b, t = a ++ CodePoint.scalar '_' :: b →
    (a.getLast?.map CodePoint.isDigit).getD afterDigit = true ∧
      (b.head?.map CodePoint.isDigit).getD false = true

theorem isGrouped_nil (afterDigit : Bool) : IsGrouped afterDigit [] := by
  intro a b h
  simp at h

theorem isGrouped_cons {afterDigit : Bool} {c : CodePoint} {t : Text} :
    IsGrouped afterDigit (c :: t) ↔
      (c = '_' → afterDigit = true ∧ (t.head?.map CodePoint.isDigit).getD false = true) ∧
        IsGrouped c.isDigit t := by
  have hlast : ∀ a : Text, ((c :: a).getLast?.map CodePoint.isDigit).getD afterDigit =
      (a.getLast?.map CodePoint.isDigit).getD c.isDigit := by
    intro a
    rw [List.getLast?_cons]
    cases a.getLast? with
    | none => rfl
    | some d => rfl
  constructor
  · intro h
    refine ⟨?_, ?_⟩
    · rintro rfl
      exact h [] t rfl
    · rintro a b rfl
      have := h (c :: a) b rfl
      rwa [hlast] at this
  · rintro ⟨hfirst, hrest⟩ a b hcut
    cases a with
    | nil =>
      obtain ⟨rfl, rfl⟩ := List.cons.inj hcut
      exact hfirst rfl
    | cons d a =>
      obtain ⟨rfl, rfl⟩ := List.cons.inj hcut
      rw [hlast]
      exact hrest a b rfl

theorem isGrouped_cons_of_ne {afterDigit : Bool} {c : CodePoint} {t : Text} (hc : c ≠ '_') :
    IsGrouped afterDigit (c :: t) ↔ IsGrouped c.isDigit t := by
  rw [isGrouped_cons]
  exact and_iff_right fun h => absurd h hc

/-- A text without its underscores. -/
def withoutUnderscores (t : Text) : Text := t.filter fun (c : CodePoint) => c ≠ '_'

theorem withoutUnderscores_cons {c : CodePoint} (hc : c ≠ '_') (t : Text) :
    withoutUnderscores (c :: t) = c :: withoutUnderscores t :=
  List.filter_cons_of_pos (decide_eq_true hc)

/-- Underscores between digits are dropped, and no others may stand in a numeral. -/
theorem joinDigits_eq_some_iff {afterDigit : Bool} {t s : Text} :
    joinDigits afterDigit t = some s ↔ IsGrouped afterDigit t ∧ withoutUnderscores t = s := by
  fun_induction joinDigits afterDigit t generalizing s with
  | case1 afterDigit =>
    rw [Option.some_inj, and_iff_right (isGrouped_nil afterDigit)]
    rfl
  | case2 afterDigit c t hdigit ih =>
    rw [Bool.and_eq_true] at hdigit
    have hc : c ≠ '_' := by
      rintro rfl
      exact absurd hdigit.2 (by decide)
    have hfirst : afterDigit = true ∧ (Option.map CodePoint.isDigit (c :: t).head?).getD false =
        true := hdigit
    have hskip : withoutUnderscores (CodePoint.scalar '_' :: c :: t) =
        c :: withoutUnderscores t := withoutUnderscores_cons hc t
    rw [isGrouped_cons, and_iff_right fun _ => hfirst, isGrouped_cons_of_ne hc, hdigit.2, hskip,
      Option.map_eq_some_iff]
    simp only [ih, and_assoc, exists_and_left, exists_eq_left']
  | case3 afterDigit c t hdigit =>
    rw [Bool.and_eq_true] at hdigit
    refine ⟨nofun, fun ⟨hgrouped, _⟩ => ?_⟩
    obtain ⟨hbefore, hafter⟩ := (isGrouped_cons.1 hgrouped).1 rfl
    exact (hdigit ⟨hbefore, hafter⟩).elim
  | case4 afterDigit t ht =>
    refine ⟨nofun, fun ⟨hgrouped, _⟩ => ?_⟩
    obtain ⟨-, hafter⟩ := (isGrouped_cons.1 hgrouped).1 rfl
    cases t with
    | nil => cases hafter
    | cons c t => exact (ht c t rfl rfl).elim
  | case5 afterDigit c t _ hc ih =>
    rw [isGrouped_cons_of_ne hc, withoutUnderscores_cons hc, Option.map_eq_some_iff]
    simp only [ih, and_assoc, exists_and_left, exists_eq_left']

/-! ## Signs -/

/-- A text is a sign or none and what follows. -/
theorem exists_isExponentSign (t : Text) :
    ∃ s, IsExponentSign s (takeSign t).1 ∧ t = s ++ (takeSign t).2 := by
  unfold takeSign
  split
  · exact ⟨_, .minus, rfl⟩
  · exact ⟨_, .plus, rfl⟩
  · exact ⟨_, .none, rfl⟩

/-! ## Decimals -/

/-- A point or none and the digits after it. -/
inductive IsFractionPart : Text → Text → Prop
  | none : IsFractionPart [] []
  | point {ds : Text} (h : ∀ c ∈ ds, c.isDigit = true) :
    IsFractionPart (CodePoint.scalar '.' :: ds) ds

/-- A decimal without a sign. There is a digit before the point or after it. -/
inductive IsDecimal : Text → Decimal → Prop
  | mk {whole fraction ds exponent : Text} {k : Int} (hw : ∀ c ∈ whole, c.isDigit = true)
    (hf : IsFractionPart fraction ds) (hne : whole ≠ [] ∨ ds ≠ []) (he : IsExponent exponent k) :
    IsDecimal (whole ++ (fraction ++ exponent))
      ⟨digitsValue 0 (whole ++ ds), k - (ds.length : Int)⟩

/-- The digits after a point, if one comes next, and what follows. -/
def takePart (t : Text) : Text × Text :=
  match t with
  | .scalar '.' :: r => spanDigits r
  | _ => ([], t)

/-- The exponent that a text is, if it is one. -/
def readExponent (t : Text) : Option Int :=
  match t with
  | [] => some 0
  | c :: r =>
    if c = 'e' ∨ c = 'E' then
      let (negative, ds) := takeSign r
      if !ds.isEmpty && ds.all CodePoint.isDigit then
        some (if negative then -((digitsValue 0 ds : Nat) : Int) else (digitsValue 0 ds : Nat))
      else none
    else none

/-- A decimal is read part by part. -/
theorem readDecimal_eq (t : Text) : readDecimal t =
    if (spanDigits t).1.isEmpty && (takePart (spanDigits t).2).1.isEmpty then none
    else (readExponent (takePart (spanDigits t).2).2).map fun k =>
      ⟨digitsValue 0 ((spanDigits t).1 ++ (takePart (spanDigits t).2).1),
        k - ((takePart (spanDigits t).2).1.length : Int)⟩ := by
  simp only [digitsValue_append]
  refine if_congr Iff.rfl rfl ?_
  show (match (takePart (spanDigits t).2).2 with | [] => _ | c :: r => _) = _
  cases (takePart (spanDigits t).2).2 with
  | nil => exact congrArg (fun k => some (Decimal.mk _ k)) (Int.zero_sub _).symm
  | cons c r =>
    unfold readExponent
    simp only
    split
    · split
      · rfl
      · rfl
    · rfl

theorem takePart_eq {t ds rest : Text} (hr : EndsDigits rest)
    (hpoint : ∀ r, rest ≠ CodePoint.scalar '.' :: r) (h : IsFractionPart t ds) :
    takePart (t ++ rest) = (ds, rest) := by
  cases h with
  | none =>
    unfold takePart
    split
    · rename_i r hrest
      exact absurd hrest (hpoint r)
    · rfl
  | point hd => exact spanDigits_append hd hr

theorem exists_isFractionPart (t : Text) :
    ∃ fraction, t = fraction ++ (takePart t).2 ∧ IsFractionPart fraction (takePart t).1 := by
  unfold takePart
  split
  · rename_i r
    refine ⟨CodePoint.scalar '.' :: (spanDigits r).1, ?_, .point fun c hc => ?_⟩
    · exact congrArg (CodePoint.scalar '.' :: ·) List.takeWhile_append_dropWhile.symm
    · exact List.mem_takeWhile_imp hc
  · exact ⟨[], rfl, .none⟩

theorem readExponent_eq_some_iff {t : Text} {k : Int} :
    readExponent t = some k ↔ IsExponent t k := by
  constructor
  · intro h
    unfold readExponent at h
    split at h
    · cases h
      exact .none
    · rename_i c r
      split at h
      · rename_i hc
        obtain ⟨s, hs, hr⟩ := exists_isExponentSign r
        simp only at h
        split at h
        · rename_i hd
          rw [Bool.and_eq_true, Bool.not_eq_true'] at hd
          cases h
          have hpower := IsExponent.power hc hs
            ⟨List.isEmpty_eq_false_iff.1 hd.1, List.all_eq_true.1 hd.2⟩
          rwa [← hr] at hpower
        · cases h
      · cases h
  · intro h
    cases h with
    | none => rfl
    | power he hs hd =>
      unfold readExponent
      simp only [if_pos he, hs.takeSign hd, List.isEmpty_eq_false_iff.2 hd.ne_nil,
        List.all_eq_true.2 hd.isDigit, Bool.not_false, Bool.and_self, if_true]

/-- The texts that are read as decimals. -/
theorem readDecimal_eq_some_iff {t : Text} {d : Decimal} :
    readDecimal t = some d ↔ IsDecimal t d := by
  constructor
  · intro h
    rw [readDecimal_eq] at h
    split at h
    · cases h
    · rename_i hempty
      obtain ⟨k, hk, hd⟩ := Option.map_eq_some_iff.1 h
      obtain ⟨fraction, hrest, hfraction⟩ := exists_isFractionPart (spanDigits t).2
      have hwhole : ∀ c ∈ (spanDigits t).1, c.isDigit = true := fun c hc =>
        List.mem_takeWhile_imp hc
      have hne : (spanDigits t).1 ≠ [] ∨ (takePart (spanDigits t).2).1 ≠ [] := by
        rw [Bool.and_eq_true, List.isEmpty_iff, List.isEmpty_iff] at hempty
        exact Decidable.not_and_iff_not_or_not.1 hempty
      have hdecimal := IsDecimal.mk hwhole hfraction hne (readExponent_eq_some_iff.1 hk)
      rw [hd, ← hrest] at hdecimal
      have ht : (spanDigits t).1 ++ (spanDigits t).2 = t := List.takeWhile_append_dropWhile
      rwa [ht] at hdecimal
  · rintro @⟨whole, fraction, ds, exponent, k, hw, hf, hne, he⟩
    have hpoint : ∀ r, exponent ≠ CodePoint.scalar '.' :: r := by
      rintro r rfl
      cases he with
      | power hc => exact absurd rfl (isDigit_of_mark hc).2
    have hrest : EndsDigits (fraction ++ exponent) := by
      cases hf with
      | none => exact he.endsDigits
      | point => exact endsDigits_cons (by decide) _
    have hempty : ¬ (whole.isEmpty && ds.isEmpty) = true := by
      rw [Bool.and_eq_true, List.isEmpty_iff, List.isEmpty_iff]
      exact Decidable.not_and_iff_not_or_not.2 hne
    rw [readDecimal_eq, spanDigits_append hw hrest, takePart_eq he.endsDigits hpoint hf,
      if_neg hempty, readExponent_eq_some_iff.2 he]
    rfl

/-! ## Numbers -/

/-- A sign or none, and a word in any case or a decimal. The number is what the word says or the
nearest to the decimal. -/
inductive IsSigned : Text → Binary64 → Prop
  | infinity {s word : Text} {negative : Bool} (hs : IsExponentSign s negative)
    (hw : word.map lowered = "inf" ∨ word.map lowered = "infinity") :
    IsSigned (s ++ word) (.infinity negative)
  | nan {s word : Text} {negative : Bool} (hs : IsExponentSign s negative)
    (hw : word.map lowered = "nan") : IsSigned (s ++ word) .nan
  | decimal {s t : Text} {d : Decimal} {negative : Bool} (hs : IsExponentSign s negative)
    (h : IsDecimal t d) : IsSigned (s ++ t) (d.toBinary64 negative)

/-- The number that follows a sign. -/
def readUnsigned (negative : Bool) (t : Text) : Option Binary64 :=
  if t.map lowered = "inf" ∨ t.map lowered = "infinity" then some (.infinity negative)
  else if t.map lowered = "nan" then some .nan
  else (readDecimal t).map (·.toBinary64 negative)

theorem readBinary64_eq (t : Text) : readBinary64 t =
    (joinDigits false (prepare t)).bind fun s => readUnsigned (takeSign s).1 (takeSign s).2 := rfl

theorem lowered_of_lt {c : CodePoint} (h : c.toNat < 0x41) : lowered c = c :=
  if_neg fun hc => absurd hc.1 (Nat.not_le_of_lt h)

/-- A decimal begins with a digit or a point. -/
theorem IsDecimal.exists_cons {t : Text} {d : Decimal} (h : IsDecimal t d) :
    ∃ c r, t = c :: r ∧ (c.isDigit = true ∨ c = '.') := by
  obtain @⟨whole, fraction, ds, exponent, k, hw, hf, hne, -⟩ := h
  cases whole with
  | cons c whole => exact ⟨c, _, rfl, Or.inl (hw c List.mem_cons_self)⟩
  | nil =>
    cases hf with
    | none => exact absurd hne (by simp)
    | point => exact ⟨_, _, rfl, Or.inr rfl⟩

theorem takeSign_append {s t : Text} {negative : Bool} (hs : IsExponentSign s negative)
    (ht : ∀ c r, t = c :: r → c ≠ '-' ∧ c ≠ '+') : takeSign (s ++ t) = (negative, t) := by
  cases hs with
  | none =>
    cases t with
    | nil => rfl
    | cons c r =>
      obtain ⟨hminus, hplus⟩ := ht c r rfl
      exact takeSign_of_ne hminus hplus r
  | plus => rfl
  | minus => rfl

/-- No word begins with a sign. -/
theorem ne_sign_of_map_lowered {word : Text} {c : CodePoint} {r : Text}
    (h : word.map lowered = c :: r) (hc : 0x61 ≤ c.toNat) :
    ∀ c' r', word = c' :: r' → c' ≠ '-' ∧ c' ≠ '+' := by
  rintro c' r' rfl
  rw [List.map_cons, List.cons.injEq] at h
  rw [← h.1] at hc
  constructor
  · rintro rfl
    exact absurd hc (by decide)
  · rintro rfl
    exact absurd hc (by decide)

/-- And no decimal does. -/
theorem IsDecimal.ne_sign {t : Text} {d : Decimal} (h : IsDecimal t d) :
    ∀ c r, t = c :: r → c ≠ '-' ∧ c ≠ '+' := by
  obtain ⟨c', r', rfl, hc⟩ := h.exists_cons
  intro c r he
  obtain ⟨rfl, -⟩ := List.cons.inj he
  constructor
  · rintro rfl
    exact absurd hc (by decide)
  · rintro rfl
    exact absurd hc (by decide)

/-- No decimal is a word. -/
theorem IsDecimal.map_lowered_ne {t : Text} {d : Decimal} (h : IsDecimal t d) {c : CodePoint}
    (hc : 0x61 ≤ c.toNat) (r : Text) : t.map lowered ≠ c :: r := by
  obtain ⟨c', r', rfl, hd⟩ := h.exists_cons
  have hlow : c'.toNat < 0x41 := by
    rcases hd with hd | rfl
    · unfold CodePoint.isDigit CodePoint.digit? at hd
      split at hd
      · rename_i hdigit
        omega
      · cases hd
    · decide
  rw [List.map_cons, lowered_of_lt hlow, Ne, List.cons.injEq]
  rintro ⟨rfl, -⟩
  omega

/-- The texts that are read as numbers when no underscores are left. -/
theorem readUnsigned_eq_some_iff {s : Text} {x : Binary64} :
    readUnsigned (takeSign s).1 (takeSign s).2 = some x ↔ IsSigned s x := by
  constructor
  · intro h
    obtain ⟨sign, hs, hcut⟩ := exists_isExponentSign s
    have hsigned : IsSigned (sign ++ (takeSign s).2) x := by
      unfold readUnsigned at h
      split at h
      · rename_i hw
        cases h
        exact .infinity hs hw
      · split at h
        · rename_i hw
          cases h
          exact .nan hs hw
        · obtain ⟨d, hd, rfl⟩ := Option.map_eq_some_iff.1 h
          exact .decimal hs (readDecimal_eq_some_iff.1 hd)
    rwa [← hcut] at hsigned
  · intro h
    cases h with
    | infinity hs hw =>
      rw [takeSign_append hs (by
        rcases hw with hw | hw
        · exact ne_sign_of_map_lowered hw (by decide)
        · exact ne_sign_of_map_lowered hw (by decide))]
      exact if_pos hw
    | @nan _ word _ hs hw =>
      have hinf : ¬ (word.map lowered = "inf" ∨ word.map lowered = "infinity") := by
        rw [hw]
        decide
      rw [takeSign_append hs (ne_sign_of_map_lowered hw (by decide))]
      exact (if_neg hinf).trans (if_pos hw)
    | decimal hs hd =>
      rw [takeSign_append hs hd.ne_sign, readUnsigned, if_neg, if_neg,
        readDecimal_eq_some_iff.2 hd]
      · rfl
      · exact hd.map_lowered_ne (by decide) _
      · rintro (hw | hw)
        · exact hd.map_lowered_ne (by decide) _ hw
        · exact hd.map_lowered_ne (by decide) _ hw

/-- **The texts that are numbers**, and the number that each is. -/
theorem readBinary64_eq_some_iff {t : Text} {x : Binary64} :
    readBinary64 t = some x ↔
      IsGrouped false (prepare t) ∧ IsSigned (withoutUnderscores (prepare t)) x := by
  rw [readBinary64_eq, Option.bind_eq_some_iff]
  constructor
  · rintro ⟨s, hs, hx⟩
    obtain ⟨hgrouped, rfl⟩ := joinDigits_eq_some_iff.1 hs
    exact ⟨hgrouped, readUnsigned_eq_some_iff.1 hx⟩
  · rintro ⟨hgrouped, hx⟩
    exact ⟨_, joinDigits_eq_some_iff.2 ⟨hgrouped, rfl⟩, readUnsigned_eq_some_iff.2 hx⟩

/-- Minus one hundred and five. -/
example : readBinary64 " -1_0.5E+1\n" = some (.ofBits 0xC05A400000000000) := by decide +kernel

/-! ## Blanks -/

theorem isNumberBlank_simplify {a : Text} (ha : ∀ c ∈ a, c.isNumberBlank = true) :
    ∀ c ∈ simplify a, c.isNumberBlank = true := by
  intro c hc
  obtain ⟨d, hd, rfl⟩ := List.mem_map.1 hc
  split
  · exact ha d hd
  · rw [if_pos (ha d hd)]
    rfl

theorem simplify_of_ascii {t : Text} (h : ∀ c ∈ t, c.toNat < 0x7F) : simplify t = t :=
  (List.map_congr_left fun c hc => if_pos (h c hc)).trans (List.map_id _)

/-- Blanks of any script around a text in ASCII are dropped. -/
theorem prepare_append {a t b : Text} (ha : ∀ c ∈ a, c.isNumberBlank = true)
    (hb : ∀ c ∈ b, c.isNumberBlank = true) (ht : ∀ c ∈ t, c.toNat < 0x7F)
    (hfirst : ∀ c ∈ t.head?, c.isNumberBlank = false)
    (hlast : ∀ c ∈ t.getLast?, c.isNumberBlank = false) : prepare (a ++ (t ++ b)) = t := by
  have hsimple : simplify (a ++ (t ++ b)) = simplify a ++ (t ++ simplify b) := by
    have hmid := simplify_of_ascii ht
    unfold simplify at hmid ⊢
    rw [List.map_append, List.map_append, hmid]
  have hback : ∀ c ∈ (simplify b).reverse, c.isNumberBlank = true := fun c hc =>
    isNumberBlank_simplify hb c (List.mem_reverse.1 hc)
  rw [prepare, hsimple, Text.strip, List.dropWhile_append_of_pos (isNumberBlank_simplify ha)]
  cases t with
  | nil =>
    rw [List.nil_append, List.dropWhile_eq_nil_iff.2 (isNumberBlank_simplify hb)]
    rfl
  | cons c t =>
    have hc : ¬ c.isNumberBlank = true := by
      rw [hfirst c rfl]
      exact Bool.false_ne_true
    rw [List.cons_append, List.dropWhile_cons_of_neg hc, ← List.cons_append, List.reverse_append,
      List.dropWhile_append_of_pos hback]
    cases hr : (c :: t).reverse with
    | nil => cases List.reverse_eq_nil_iff.1 hr
    | cons d r =>
      have hd : ¬ d.isNumberBlank = true := by
        rw [hlast d (by rw [← List.head?_reverse, hr]; rfl)]
        exact Bool.false_ne_true
      rw [List.dropWhile_cons_of_neg hd, ← hr, List.reverse_reverse]

/-- The texts in ASCII that are numbers, with blanks around them. -/
theorem readBinary64_append {a t b : Text} {x : Binary64} (ha : ∀ c ∈ a, c.isNumberBlank = true)
    (hb : ∀ c ∈ b, c.isNumberBlank = true) (ht : ∀ c ∈ t, c.toNat < 0x7F)
    (hfirst : ∀ c ∈ t.head?, c.isNumberBlank = false)
    (hlast : ∀ c ∈ t.getLast?, c.isNumberBlank = false) :
    readBinary64 (a ++ (t ++ b)) = some x ↔
      IsGrouped false t ∧ IsSigned (withoutUnderscores t) x := by
  rw [readBinary64_eq_some_iff, prepare_append ha hb ht hfirst hlast]

end JsLiteral.Numeral
