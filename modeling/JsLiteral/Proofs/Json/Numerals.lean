import JsLiteral.Proofs.Json.Floats
import JsLiteral.Proofs.Number.Nearest

/-!
# Printed numbers keep their value

A number of the JSON grammar has a whole part without superfluous zeros, a fraction or none and
an exponent or none, and it spells one rational number. An integer, and a float of an integral
value below `10 ^ 21` in size, is printed as a plain integer with exactly its value; any other
finite float is printed as a decimal that rounds to it.

    a text of the grammar has one value                       (IsNumeral.eq_worth)
    a spelling has the value of its decimal                   (Spelling.IsFloat.isNumeral)
    a float by its shortest decimal rounds to itself          (exists_isNumeral_write)
    numbers and the values of their texts                     (hasWorth_number)
-/

namespace JsLiteral.Json

open Text Numeral

/-! ## The grammar -/

/-- Digits, at least one. -/
structure AreDigits (ds : Text) : Prop where
  ne_nil : ds ≠ []
  isDigit : ∀ c ∈ ds, c.isDigit = true

/-- A point and the digits after it, or nothing. -/
inductive IsFraction : Text → Text → Prop
  | none : IsFraction [] []
  | point {ds : Text} (h : AreDigits ds) : IsFraction (CodePoint.scalar '.' :: ds) ds

/-- The sign of an exponent, and whether it is a minus. -/
inductive IsExponentSign : Text → Bool → Prop
  | none : IsExponentSign [] false
  | plus : IsExponentSign [CodePoint.scalar '+'] false
  | minus : IsExponentSign [CodePoint.scalar '-'] true

/-- A mark, a sign and digits, or nothing, and the power of ten that they spell. -/
inductive IsExponent : Text → Int → Prop
  | none : IsExponent [] 0
  | power {e : CodePoint} {s ds : Text} {negative : Bool} (he : e = 'e' ∨ e = 'E')
      (hs : IsExponentSign s negative) (hd : AreDigits ds) :
      IsExponent (e :: (s ++ ds))
        (if negative then -((digitsValue 0 ds : Nat) : Int) else (digitsValue 0 ds : Nat))

/-- A number of the grammar and its exact value. -/
inductive IsNumeral : Text → ℚ → Prop
  | mk {negative : Bool} {whole fraction ds exponent : Text} {k : Int} (hw : IsWhole whole)
      (hf : IsFraction fraction ds) (he : IsExponent exponent k) :
      IsNumeral (signText negative ++ (whole ++ (fraction ++ exponent)))
        (sign negative * (digitsValue 0 (whole ++ ds) * 10 ^ (k - (ds.length : Int))))

/-- A number of the grammar with the value `q` and no other. -/
def HasWorth (t : Text) (q : ℚ) : Prop := ∀ r, IsNumeral t r ↔ r = q

/-- A plain integer: a sign or none and digits of which none is superfluous; a zero has no
sign. -/
def IsPlainInteger (t : Text) : Prop :=
  ∃ negative ds, t = signText negative ++ ds ∧ IsWhole ds ∧ (negative = true → ds ≠ "0")

/-! ## One value -/

theorem takeSign_of_ne {c : CodePoint} (hminus : c ≠ '-') (hplus : c ≠ '+') (t : Text) :
    takeSign (c :: t) = (false, c :: t) := by
  unfold takeSign
  split
  · rename_i h
    exact absurd (List.cons.inj h).1 hminus
  · rename_i h
    exact absurd (List.cons.inj h).1 hplus
  · rfl

theorem takeSign_of_isDigit {c : CodePoint} (hc : c.isDigit = true) (t : Text) :
    takeSign (c :: t) = (false, c :: t) := by
  refine takeSign_of_ne ?_ ?_ t
  · rintro rfl
    exact absurd hc (by decide)
  · rintro rfl
    exact absurd hc (by decide)

theorem AreDigits.takeSign {ds : Text} (h : AreDigits ds) (t : Text) :
    takeSign (ds ++ t) = (false, ds ++ t) := by
  obtain ⟨c, r, rfl⟩ := List.exists_cons_of_ne_nil h.ne_nil
  exact takeSign_of_isDigit (h.isDigit c List.mem_cons_self) _

theorem IsWhole.areDigits {ds : Text} (h : IsWhole ds) : AreDigits ds := ⟨h.ne_nil, h.isDigit⟩

theorem IsExponentSign.takeSign {s ds : Text} {negative : Bool} (h : IsExponentSign s negative)
    (hd : AreDigits ds) : Numeral.takeSign (s ++ ds) = (negative, ds) := by
  cases h with
  | none =>
    have := hd.takeSign []
    rwa [List.append_nil] at this
  | plus => rfl
  | minus => rfl

theorem takeSign_signText (negative : Bool) {ds : Text} (h : AreDigits ds) (t : Text) :
    Numeral.takeSign (signText negative ++ (ds ++ t)) = (negative, ds ++ t) := by
  cases negative with
  | false => exact h.takeSign t
  | true => rfl

theorem endsDigits_nil : EndsDigits [] := nofun

theorem AreDigits.spanDigits {ds : Text} (h : AreDigits ds) : spanDigits ds = (ds, []) := by
  have := spanDigits_append h.isDigit endsDigits_nil
  rwa [List.append_nil] at this

theorem IsExponent.takeExponent {t : Text} {k : Int} (h : IsExponent t k) :
    (takeExponent t).1.getD 0 = k := by
  cases h with
  | none => rfl
  | power he hs hd =>
    unfold Json.takeExponent
    simp only [if_pos he, hs.takeSign hd, hd.spanDigits, List.isEmpty_eq_false_iff.2 hd.ne_nil,
      Bool.false_eq_true, if_false, Option.getD_some]

/-- A mark is no digit and no point. -/
theorem isDigit_of_mark {e : CodePoint} (he : e = 'e' ∨ e = 'E') : e.isDigit = false ∧ e ≠ '.' := by
  rcases he with rfl | rfl <;> decide

theorem IsExponent.endsDigits {t : Text} {k : Int} (h : IsExponent t k) : EndsDigits t := by
  cases h with
  | none => exact endsDigits_nil
  | power he hs hd => exact endsDigits_cons (isDigit_of_mark he).1 _

theorem IsFraction.endsDigits {t ds rest : Text} (h : IsFraction t ds) (hr : EndsDigits rest) :
    EndsDigits (t ++ rest) := by
  cases h with
  | none => exact hr
  | point hd => exact endsDigits_cons (by decide) _

theorem IsFraction.takeFraction {t ds rest : Text} {k : Int} (h : IsFraction t ds)
    (hr : IsExponent rest k) : takeFraction (t ++ rest) = (ds, rest) := by
  cases h with
  | none =>
    unfold Json.takeFraction
    split
    · rename_i r hrest
      cases hr with
      | none => cases hrest
      | power he hs hd => exact absurd (List.cons.inj hrest).1 (isDigit_of_mark he).2
    · rfl
  | point hd =>
    have hspan := spanDigits_append hd.isDigit hr.endsDigits
    rw [List.cons_append]
    unfold Json.takeFraction
    simp only [hspan, List.isEmpty_eq_false_iff.2 hd.ne_nil, Bool.false_eq_true, if_false]

/-- The value of a number, read part by part. -/
def worth (t : Text) : ℚ :=
  let (negative, t) := takeSign t
  let (whole, t) := spanDigits t
  let (fraction, t) := takeFraction t
  sign negative *
    (digitsValue 0 (whole ++ fraction) * 10 ^ ((takeExponent t).1.getD 0 - (fraction.length : Int)))

/-- A number of the grammar has one value. -/
theorem IsNumeral.eq_worth {t : Text} {q : ℚ} (h : IsNumeral t q) : q = worth t := by
  cases h with
  | mk hw hf he =>
    unfold worth
    simp only [takeSign_signText _ hw.areDigits,
      spanDigits_append hw.isDigit (hf.endsDigits he.endsDigits), hf.takeFraction he,
      he.takeExponent]

theorem IsNumeral.hasWorth {t : Text} {q : ℚ} (h : IsNumeral t q) : HasWorth t q := by
  intro r
  constructor
  · intro hr
    rw [hr.eq_worth, h.eq_worth]
  · rintro rfl
    exact h

/-- No word is a number. -/
theorem IsNumeral.exists_digit {t : Text} {q : ℚ} (h : IsNumeral t q) :
    ∃ c ∈ t, c.isDigit = true := by
  cases h with
  | mk hw hf he =>
    obtain ⟨c, r, rfl⟩ := List.exists_cons_of_ne_nil hw.ne_nil
    exact ⟨c, by simp, hw.isDigit c List.mem_cons_self⟩

theorem IsNumeral.ne_null {t : Text} {q : ℚ} (h : IsNumeral t q) : t ≠ "null" := by
  rintro rfl
  obtain ⟨c, hc, hdigit⟩ := h.exists_digit
  have hnone : ∀ c ∈ ("null" : Text), c.isDigit = false := by decide
  rw [hnone c hc] at hdigit
  cases hdigit

/-! ## Integers -/

theorem IsWhole.isNumeral {ds : Text} (h : IsWhole ds) (negative : Bool) :
    IsNumeral (signText negative ++ ds) (sign negative * digitsValue 0 ds) := by
  have hnumeral : IsNumeral (signText negative ++ (ds ++ ([] ++ [])))
      (sign negative *
        (digitsValue 0 (ds ++ []) * 10 ^ ((0 : Int) - (([] : Text).length : Int)))) :=
    .mk h .none .none
  simpa using hnumeral

theorem isNumeral_intText (n : Int) : IsNumeral (intText n) n := by
  have h := (isWhole_ofNat n.natAbs).isNumeral (decide (n < 0))
  have hvalue : sign (decide (n < 0)) * (digitsValue 0 (Text.ofNat n.natAbs) : Nat) = n := by
    rw [digitsValue_ofNat, sign, Nat.cast_natAbs, Int.cast_abs]
    by_cases hn : n < 0
    · have hcast : (n : ℚ) < 0 := by exact_mod_cast hn
      rw [decide_eq_true hn, if_pos rfl, abs_of_neg hcast, neg_one_mul, neg_neg]
    · have hcast : (0 : ℚ) ≤ n := by exact_mod_cast Int.not_lt.1 hn
      rw [decide_eq_false hn, if_neg (by decide), abs_of_nonneg hcast, one_mul]
  rw [hvalue, ← ofInt_eq] at h
  exact h

theorem isPlainInteger_intText (n : Int) : IsPlainInteger (intText n) := by
  refine ⟨_, _, ofInt_eq n, isWhole_ofNat _, fun hneg hzero => ?_⟩
  have hn : n.natAbs = 0 := Text.ofNat_injective (hzero.trans rfl)
  rw [decide_eq_true_eq] at hneg
  omega

/-! ## Floats -/

theorem isFraction_fractionText {ds : Text} (h : ∀ c ∈ ds, c.isDigit = true) :
    IsFraction (Spelling.fractionText ds) ds := by
  cases ds with
  | nil => exact .none
  | cons c ds => exact .point ⟨List.cons_ne_nil _ _, h⟩

theorem isExponent_exponentText {e : Option (Bool × Text)}
    (h : ∀ negative ds, e = some (negative, ds) → ds ≠ [] ∧ ∀ c ∈ ds, c.isDigit = true) :
    IsExponent (Spelling.exponentText e) (Spelling.power e) := by
  cases e with
  | none => exact .none
  | some p =>
    obtain ⟨negative, ds⟩ := p
    obtain ⟨hne, hd⟩ := h negative ds rfl
    cases negative with
    | false => exact .power (Or.inl rfl) .plus ⟨hne, hd⟩
    | true => exact .power (Or.inl rfl) .minus ⟨hne, hd⟩

/-- The text of a spelling has the value of its decimal. -/
theorem Spelling.IsFloat.isNumeral {s : Spelling} (h : s.IsFloat) (negative : Bool) :
    IsNumeral (signText negative ++ s.text) (sign negative * s.decimal.value) := by
  have hvalue : s.decimal.value = (digitsValue 0 (s.whole ++ s.fraction) : Nat) *
      10 ^ (power s.exponent - (s.fraction.length : Int)) := by
    rw [digitsValue_append]
    rfl
  rw [hvalue]
  exact .mk h.whole (isFraction_fractionText h.fraction) (isExponent_exponentText h.exponent)

/-- A float by its shortest decimal is a number that rounds to it. -/
theorem exists_isNumeral_write {x : Binary64} (hx : x.isFinite = true) (h0 : x.isZero = false) :
    ∃ q, IsNumeral (NumberLayout.canonical.write x) q ∧ x.IsNearest q := by
  obtain ⟨s, hs, hfloat, hvalue⟩ := spells_writeDecimal (digits_shortest_ne_zero hx h0)
  have hread : s.decimal.toBinary64 x.negative = x :=
    (hvalue x.negative).trans (x.toBinary64_shortest hx h0)
  have hnearest := @Binary64.isNearest_toBinary64 s.decimal x.negative
  rw [hread] at hnearest
  refine ⟨_, ?_, hnearest hx⟩
  rw [write_of_isFinite hx, ← hs]
  exact hfloat.isNumeral x.negative

/-- The text of a float whose value is an integer below `10 ^ 21` in size. -/
theorem floatText_of_value {x : Binary64} (hx : x.isFinite = true)
    (h : (∃ k : Int, x.value = k) ∧ |x.value| < 10 ^ 21) :
    floatText x = intText x.truncate ∧ x.value = x.truncate := by
  have hint := (Binary64.isIntegral_iff hx).2 h.1
  have hsmall := (Binary64.natAbs_truncate_lt_iff hint 21).2 h.2
  refine ⟨?_, Binary64.value_eq_truncate hint⟩
  unfold floatText
  rw [hx, hint, decide_eq_true hsmall]
  rfl

/-- The text of any other finite float. -/
theorem floatText_of_not_value {x : Binary64} (hx : x.isFinite = true)
    (h : ¬ ((∃ k : Int, x.value = k) ∧ |x.value| < 10 ^ 21)) :
    floatText x = NumberLayout.canonical.write x ∧ x.isZero = false := by
  have hlarge : ¬ (x.isIntegral && x.truncate.natAbs < tenTo 21) = true := by
    intro hsmall
    rw [Bool.and_eq_true, decide_eq_true_eq] at hsmall
    exact h ⟨(Binary64.isIntegral_iff hx).1 hsmall.1,
      (Binary64.natAbs_truncate_lt_iff hsmall.1 21).1 hsmall.2⟩
  refine ⟨?_, isZero_eq_false hlarge⟩
  unfold floatText
  rw [hx, if_neg (by decide), if_neg hlarge]

theorem not_isFinite_iff (x : Binary64) :
    ¬ x.isFinite = true ↔ x.isNaN = true ∨ x.isInfinite = true := by
  unfold Binary64.isFinite Binary64.isNaN Binary64.isInfinite
  by_cases he : x.exponent.val = 0x7FF
  · by_cases hf : x.fraction.val = 0 <;> simp [he, hf]
  · simp [he]

theorem floatText_eq_null_iff (x : Binary64) :
    floatText x = "null" ↔ x.isNaN = true ∨ x.isInfinite = true := by
  rw [← not_isFinite_iff]
  constructor
  · intro hnull hx
    by_cases h : (∃ k : Int, x.value = k) ∧ |x.value| < 10 ^ 21
    · obtain ⟨htext, -⟩ := floatText_of_value hx h
      exact (isNumeral_intText _).ne_null (htext.symm.trans hnull)
    · obtain ⟨htext, h0⟩ := floatText_of_not_value hx h
      obtain ⟨q, hq, -⟩ := exists_isNumeral_write hx h0
      exact hq.ne_null (htext.symm.trans hnull)
  · exact floatText_of_not_isFinite

/-- Numbers keep their value: an integer is printed as a plain integer of its value. A float
that is no finite number is printed as null, and no other is. Of the finite ones those with
integral values below `10 ^ 21` in size are printed as plain integers of the same value, all
others as decimals that round to them. -/
theorem hasWorth_number :
    (∀ n : Int, intText n ≠ "null" ∧ IsPlainInteger (intText n) ∧ HasWorth (intText n) n) ∧
    ∀ x : Binary64,
      (floatText x = "null" ↔ x.isNaN = true ∨ x.isInfinite = true) ∧
      (x.isFinite = true → (∃ k : Int, x.value = k) ∧ |x.value| < 10 ^ 21 →
        IsPlainInteger (floatText x) ∧ HasWorth (floatText x) x.value) ∧
      (x.isFinite = true → ¬ ((∃ k : Int, x.value = k) ∧ |x.value| < 10 ^ 21) →
        ∃ q, HasWorth (floatText x) q ∧ x.IsNearest q) := by
  refine ⟨fun n => ?_, fun x => ⟨floatText_eq_null_iff x, fun hx h => ?_, fun hx h => ?_⟩⟩
  · exact ⟨(isNumeral_intText n).ne_null, isPlainInteger_intText n, (isNumeral_intText n).hasWorth⟩
  · obtain ⟨htext, hvalue⟩ := floatText_of_value hx h
    rw [htext, hvalue]
    exact ⟨isPlainInteger_intText _, (isNumeral_intText _).hasWorth⟩
  · obtain ⟨htext, h0⟩ := floatText_of_not_value hx h
    obtain ⟨q, hq, hnearest⟩ := exists_isNumeral_write hx h0
    rw [htext]
    exact ⟨q, hq.hasWorth, hnearest⟩

/-- The number nearest to one tenth. -/
def tenth : Binary64 := .ofBits 0x3FB999999999999A

/-- The number `-123456789012345683968`, beyond what 53 bits hold. -/
def manyDigits : Binary64 := .ofBits 0xC41AC53A7E04BCDA

theorem hasWorth_number_tenth :
    tenth.isFinite = true ∧ ¬ ((∃ k : Int, tenth.value = k) ∧ |tenth.value| < 10 ^ 21) ∧
      floatText tenth = "0.1" ∧ HasWorth (floatText tenth) (1 / 10) ∧ tenth.IsNearest (1 / 10) ∧
    manyDigits.isFinite = true ∧
      ((∃ k : Int, manyDigits.value = k) ∧ |manyDigits.value| < 10 ^ 21) ∧
      floatText manyDigits = "-123456789012345683968" ∧ IsPlainInteger (floatText manyDigits) ∧
      HasWorth (floatText manyDigits) manyDigits.value := by
  have hpart : ¬ ((∃ k : Int, tenth.value = k) ∧ |tenth.value| < 10 ^ 21) := by
    rw [← Binary64.isIntegral_iff (by decide)]
    exact fun h => absurd h.1 (by decide)
  have hwhole : manyDigits.isIntegral = true := by decide
  have hsmall : (∃ k : Int, manyDigits.value = k) ∧ |manyDigits.value| < 10 ^ 21 :=
    ⟨(Binary64.isIntegral_iff (by decide)).1 hwhole,
      (Binary64.natAbs_truncate_lt_iff hwhole 21).1 (by decide)⟩
  have htext : floatText tenth = "0.1" := by decide +kernel
  obtain ⟨q, hq, hnearest⟩ := (hasWorth_number.2 tenth).2.2 (by decide) hpart
  have hvalue : q = 1 / 10 := by
    rw [((hq q).2 rfl).eq_worth, htext]
    decide +kernel
  rw [hvalue] at hq hnearest
  obtain ⟨hplain, hworth⟩ := (hasWorth_number.2 manyDigits).2.1 (by decide) hsmall
  exact ⟨by decide, hpart, htext, hq, hnearest, by decide, hsmall, by decide +kernel, hplain,
    hworth⟩

example : floatText (Binary64.zero true) = "0" := by decide

example : floatText (.ofBits 0x444B1AE4D6E2EF50) = "1e+21" := by decide +kernel

end JsLiteral.Json
