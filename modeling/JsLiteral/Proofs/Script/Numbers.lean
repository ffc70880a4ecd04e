import JsLiteral.Proofs.Json.Pieces
import JsLiteral.Proofs.Script.Literal

/-!
# Printed numbers in a script

A script rounds the digits of a number to the nearest binary64 number. So it has a float as it
was, but for the sign of a zero, and of the integers those that some binary64 number is.

    number? (floatText x) = some x                 if x is finite and no zero   (number?_floatText)
    number? (intText n) = some (nearest n)         (number?_intText)
    nearest n has the value n    exactly if a binary64 number has               (isExact_iff)
    integers of at most 53 bits are exact                              (isExact_of_natAbs_lt)
-/

namespace JsLiteral.Script

open Json Binary64

/-- The binary64 number nearest to an integer. -/
def nearest (n : Int) : Binary64 := (⟨n.natAbs, 0⟩ : Decimal).toBinary64 (decide (n < 0))

/-- Some binary64 number has the value of an integer. -/
def IsExact (n : Int) : Prop := ∃ x : Binary64, worth? (.float x) = some (n : ℚ)

/-! ## Integers that are numbers -/

section

variable {x : Binary64} {n : Int}

theorem worth?_of_isFinite (hx : x.isFinite = true) :
    worth? (.float x) =
      some ((if x.negative then -1 else 1) * ((x.ratio.1 : ℚ) / x.ratio.2)) := if_pos hx

theorem isFinite_of_worth? {q : ℚ} (h : worth? (.float x) = some q) : x.isFinite = true := by
  by_contra hx
  rw [worth?, if_neg hx] at h
  cases h

theorem worth?_zero (s : Bool) : worth? (.float (zero s)) = some 0 := by
  have hfinite : (zero s).isFinite = true := rfl
  have hratio : (zero s).ratio.1 = 0 := rfl
  rw [worth?_of_isFinite hfinite, hratio, Nat.cast_zero, zero_div, mul_zero]

/-- A number whose value is an integer has the integer's sign, and its quotient is one of the
integer's absolute value. -/
theorem ratio_of_worth? (h0 : x.isZero = false) (h : worth? (.float x) = some (n : ℚ)) :
    x.negative = decide (n < 0) ∧ x.ratio.1 = x.ratio.2 * n.natAbs := by
  have hd : (0 : ℚ) < x.ratio.2 := Nat.cast_pos.2 x.ratio_pos
  have hn : (0 : ℚ) < x.ratio.1 := Nat.cast_pos.2 (Nat.pos_of_ne_zero (ratio_ne_zero h0))
  have hpos : (0 : ℚ) < (x.ratio.1 : ℚ) / x.ratio.2 := div_pos hn hd
  rw [worth?_of_isFinite (isFinite_of_worth? h), Option.some.injEq] at h
  have habs : ((n.natAbs : Nat) : ℚ) = (x.ratio.1 : ℚ) / x.ratio.2 := by
    rw [Nat.cast_natAbs, Int.cast_abs, ← h, abs_mul, abs_of_pos hpos]
    split <;> simp
  constructor
  · by_cases hs : x.negative = true
    · rw [hs, if_pos rfl] at h
      have hlt : (n : ℚ) < 0 := by
        rw [← h]
        linarith
      rw [hs, decide_eq_true (Int.cast_lt_zero.1 hlt)]
    · rw [if_neg hs, one_mul] at h
      have hlt : (0 : ℚ) < n := by rwa [← h]
      have := Int.cast_pos.1 hlt
      rw [Bool.eq_false_iff.2 hs, decide_eq_false (by omega)]
  · rw [eq_div_iff hd.ne', mul_comm] at habs
    exact_mod_cast habs.symm

theorem natAbs_lt_of_worth? (h0 : x.isZero = false) (h : worth? (.float x) = some (n : ℚ)) :
    n.natAbs < 10 ^ 400 := by
  obtain ⟨-, hratio⟩ := ratio_of_worth? h0 h
  have hx := isFinite_of_worth? h
  have hle : n.natAbs ≤ x.ratio.1 := by
    rw [hratio]
    exact Nat.le_mul_of_pos_left _ x.ratio_pos
  have hbig : x.ratio.1 < 10 ^ 400 := by
    unfold ratio
    split
    · exact significand_shiftLeft_lt hx
    · calc x.significand < 0x20000000000000 := x.significand_lt
        _ ≤ 10 ^ 400 := by decide +kernel
  omega

/-- The number that has the value of an integer is the nearest. -/
theorem nearest_eq (h0 : x.isZero = false) (h : worth? (.float x) = some (n : ℚ)) :
    nearest n = x := by
  obtain ⟨hsign, hratio⟩ := ratio_of_worth? h0 h
  have hcount := (digitCount_le_iff (by decide : 0 < 400)).2 (natAbs_lt_of_worth? h0 h)
  have hn : n.natAbs ≠ 0 := by
    intro hzero
    rw [hzero, Nat.mul_zero] at hratio
    exact ratio_ne_zero h0 hratio
  have hround : ofRatio x.negative n.natAbs 1 = x := by
    have hreduced := ofRatio_mul (n := n.natAbs) (d := 1) (k := x.ratio.2) Nat.one_pos x.ratio_pos
      x.negative
    rw [← hreduced, ← hratio, Nat.mul_one]
    exact ofRatio_ratio (isFinite_of_worth? h) h0
  unfold nearest Decimal.toBinary64
  simp only
  rw [if_neg hn, if_neg (by omega), if_neg (by omega), if_pos (Int.le_refl 0), ← hsign]
  show ofRatio x.negative (n.natAbs * 1) 1 = x
  rw [Nat.mul_one, hround]

theorem nearest_zero : nearest 0 = zero false := rfl

/-- An integer is exact if rounding leaves it as it is. -/
theorem isExact_iff : IsExact n ↔ worth? (.float (nearest n)) = some (n : ℚ) := by
  constructor
  · rintro ⟨x, hx⟩
    by_cases h0 : x.isZero = true
    · have hzero : n = 0 := by
        obtain ⟨s, rfl⟩ := exists_eq_zero h0
        have hw := (worth?_zero s).symm.trans hx
        exact_mod_cast (Option.some.inj hw).symm
      rw [hzero, nearest_zero, worth?_zero, Int.cast_zero]
    · rw [nearest_eq (Bool.eq_false_iff.2 h0) hx]
      exact hx
  · exact fun h => ⟨_, h⟩

end

/-- Below `2 ^ 53` the leading bit of a natural number can be that of a significand. -/
theorem exists_float {m : Nat} (h0 : m ≠ 0) (h : m < 0x20000000000000) (negative : Bool) :
    ∃ x : Binary64, x.isFinite = true ∧ x.negative = negative ∧
      (x.ratio.1 : ℚ) / x.ratio.2 = m := by
  have hlow : 2 ^ m.log2 ≤ m := (Nat.le_log2 h0).1 (Nat.le_refl _)
  have hhigh : m < 2 ^ (m.log2 + 1) := (Nat.log2_lt h0).1 (Nat.lt_succ_self _)
  have hlog : m.log2 ≤ 52 := Nat.le_of_lt_succ ((Nat.log2_lt h0).2 h)
  have hsplit : 2 ^ m.log2 * 2 ^ (52 - m.log2) = 0x10000000000000 := by
    rw [← Nat.pow_add, Nat.add_sub_cancel' hlog]
  have hge : 0x10000000000000 ≤ m * 2 ^ (52 - m.log2) := by
    rw [← hsplit]
    exact Nat.mul_le_mul_right _ hlow
  have hlt : m * 2 ^ (52 - m.log2) < 0x20000000000000 := by
    have hmul := Nat.mul_lt_mul_of_pos_right hhigh (Nat.two_pow_pos (52 - m.log2))
    rw [Nat.pow_succ, Nat.mul_right_comm, hsplit] at hmul
    exact hmul
  refine ⟨⟨negative, ⟨m.log2 + 1023, by omega⟩,
    ⟨m * 2 ^ (52 - m.log2) - 0x10000000000000, by omega⟩⟩, ?_, rfl, ?_⟩
  · rw [isFinite, bne_iff_ne]
    show m.log2 + 1023 ≠ 0x7FF
    omega
  · have hexp : m.log2 + 1023 ≠ 0 := Nat.succ_ne_zero _
    have hscale : ((m.log2 + 1023 : Nat) : Int) - 1075 = -((52 - m.log2 : Nat) : Int) := by omega
    rw [ratio_eq, significand, scale, if_neg hexp, if_neg hexp, hscale, Nat.add_sub_cancel' hge,
      Nat.cast_mul, zpow_neg, zpow_natCast, Nat.cast_pow, Nat.cast_ofNat, mul_assoc,
      mul_inv_cancel₀ (by positivity), mul_one]

/-- Integers of at most 53 bits are binary64 numbers. -/
theorem isExact_of_natAbs_lt {n : Int} (h : n.natAbs < 0x20000000000000) : IsExact n := by
  by_cases h0 : n = 0
  · exact ⟨zero false, by rw [h0, worth?_zero, Int.cast_zero]⟩
  · obtain ⟨x, hfinite, hsign, hratio⟩ := exists_float (Int.natAbs_ne_zero.2 h0) h (decide (n < 0))
    refine ⟨x, ?_⟩
    rw [worth?_of_isFinite hfinite, hratio, hsign, Option.some.injEq, Nat.cast_natAbs]
    by_cases hn : n < 0
    · rw [decide_eq_true hn, if_pos rfl, abs_of_neg hn, Int.cast_neg, neg_one_mul, neg_neg]
    · rw [decide_eq_false hn, if_neg (by decide), abs_of_nonneg (Int.not_lt.1 hn), one_mul]

/-! ## What is printed -/

theorem endsNumber_nil : EndsNumber [] := nofun

theorem head?_ofInt (n : Int) :
    decide ((Text.ofInt n).head? = some (CodePoint.scalar '-')) = decide (n < 0) := by
  rw [ofInt_eq]
  by_cases hn : n < 0
  · rw [decide_eq_true hn]
    rfl
  · rw [decide_eq_false hn]
    obtain ⟨c, ds, hds⟩ := List.exists_cons_of_ne_nil (Text.ofNat_ne_nil n.natAbs)
    have hc : c.isDigit = true := by
      refine Text.isDigit_of_mem_ofNat (n := n.natAbs) ?_
      rw [hds]
      exact List.mem_cons_self
    have hne : c ≠ '-' := by
      rintro rfl
      exact absurd hc (by decide)
    rw [hds]
    simp [signText, hne]

theorem number?_intText (n : Int) : number? (intText n) = some (nearest n) := by
  have hread := readNumber?_ofInt n endsNumber_nil
  rw [List.append_nil] at hread
  unfold number? intText
  rw [hread]
  simp only [head?_ofInt]
  rfl

/-- A float as a script has it: no zero has a sign. -/
def unsigned (x : Binary64) : Binary64 := if x.isZero then zero false else x

theorem worth?_unsigned (x : Binary64) : worth? (.float (unsigned x)) = worth? (.float x) := by
  unfold unsigned
  split
  · rename_i h0
    obtain ⟨s, rfl⟩ := exists_eq_zero h0
    rw [worth?_zero]
    exact (worth?_zero s).symm
  · rfl

theorem unsigned_of_isZero {x : Binary64} (h0 : x.isZero = true) : unsigned x = zero false :=
  if_pos h0

theorem number?_floatText {x : Binary64} (hx : x.isFinite = true) :
    number? (floatText x) = some (unsigned x) := by
  by_cases hsmall : (x.isIntegral && x.truncate.natAbs < tenTo 21) = true
  · -- an integer is printed
    have htext : floatText x = intText x.truncate := by
      unfold floatText
      rw [hx, if_neg (by decide), if_pos hsmall]
      rfl
    have hworth : worth? (.float x) = some (x.truncate : ℚ) := by
      rw [← worth?_numberValue hx, numberValue, if_pos hsmall]
      rfl
    rw [htext, number?_intText]
    by_cases h0 : x.isZero = true
    · have hw : worth? (.float (unsigned x)) = _ := worth?_unsigned x
      rw [unsigned_of_isZero h0, worth?_zero, hworth] at hw
      have htruncate : x.truncate = 0 := by exact_mod_cast (Option.some.inj hw).symm
      rw [htruncate, nearest_zero, unsigned_of_isZero h0]
    · rw [nearest_eq (Bool.eq_false_iff.2 h0) hworth, unsigned, if_neg h0]
  · have hread := readNumber?_floatText hx endsNumber_nil
    rw [List.append_nil, numberValue, if_neg hsmall] at hread
    unfold number?
    rw [hread]
    simp only [unsigned, isZero_eq_false hsmall, Bool.false_eq_true, if_false]

/-! ## Words -/

/-- Words that are no number stand for themselves. -/
theorem wordLiteral?_of_isNumber {w : Text} (h : IsNumber w) :
    wordLiteral? w = (number? w).map .number := by
  have hne : ∀ {c : CodePoint} {t : Text},
      c.isDigit = false → c ∉ (".e+-" : Text) → w ≠ c :: t := by
    rintro c t hc hm rfl
    rcases h.isDigit_or_mem (List.mem_cons_self (a := c)) with hd | hd
    · rw [hc] at hd
      cases hd
    · exact hm hd
  have hnull : w ≠ "null" := hne (c := .scalar 'n') (by decide) (by decide)
  have htrue : w ≠ "true" := hne (c := .scalar 't') (by decide) (by decide)
  have hfalse : w ≠ "false" := hne (c := .scalar 'f') (by decide) (by decide)
  unfold wordLiteral?
  rw [if_neg hnull, if_neg htrue, if_neg hfalse]

end JsLiteral.Script
