import JsLiteral.Number.Binary64
import Mathlib.Algebra.Order.Field.Power
import Mathlib.Data.Int.Log
import Mathlib.Data.Nat.Cast.Field
import Mathlib.Data.Rat.Floor
import Mathlib.Tactic.Positivity
import Mathlib.Tactic.Ring

/-!
# Rounding depends on the value

The number nearest to a quotient does not depend on how the quotient is written, and that
nearest to the value of a finite number is the number itself.

    scaleFor n d = max (-1074) (⌊log₂ (n / d)⌋ - 52)      (scaleFor_eq)
    ofRatio s (k * n) (k * d) = ofRatio s n d             (ofRatio_mul)
    ofRatio x.negative x.ratio.1 x.ratio.2 = x            (ofRatio_ratio)
-/

namespace JsLiteral.Binary64

/-! ## The scale of a quotient -/

theorem shiftLeft_cast (n k : Nat) : ((n <<< k : Nat) : ℚ) = n * 2 ^ (k : ℤ) := by
  rw [Nat.shiftLeft_eq]
  push_cast
  rw [zpow_natCast]

/-- The guess is low by one exactly if the quotient has 54 bits there. -/
theorem exceeds_iff {n d : Nat} (hd : 0 < d) (g : Int) :
    (if 0 ≤ g then decide (d <<< (g.toNat + 53) ≤ n)
      else decide (d <<< 53 ≤ n <<< (-g).toNat)) = true ↔ (2 : ℚ) ^ (g + 53) ≤ (n : ℚ) / d := by
  have hd' : (0 : ℚ) < d := Nat.cast_pos.2 hd
  rw [le_div_iff₀ hd', mul_comm]
  split <;> rw [decide_eq_true_eq]
  · rename_i hg
    rw [← Nat.cast_le (α := ℚ), shiftLeft_cast]
    have he : ((g.toNat + 53 : Nat) : ℤ) = g + 53 := by omega
    rw [he]
  · rename_i hg
    rw [← Nat.cast_le (α := ℚ), shiftLeft_cast, shiftLeft_cast]
    have he : (((-g).toNat : Nat) : ℤ) = -g := by omega
    rw [he, zpow_neg, zpow_add₀ (by norm_num), ← div_eq_mul_inv, le_div_iff₀ (by positivity),
      mul_assoc, mul_comm ((2 : ℚ) ^ ((53 : Nat) : ℤ))]
    rfl

theorem log2_bounds {n : Nat} (hn : 0 < n) :
    (2 : ℚ) ^ (n.log2 : ℤ) ≤ n ∧ (n : ℚ) < 2 ^ ((n.log2 : ℤ) + 1) := by
  have h1 : 2 ^ n.log2 ≤ n := (Nat.le_log2 (by omega)).1 (Nat.le_refl _)
  have h2 : n < 2 ^ (n.log2 + 1) := (Nat.log2_lt (by omega)).1 (Nat.lt_succ_self _)
  have e1 : ((2 ^ n.log2 : Nat) : ℚ) = 2 ^ (n.log2 : ℤ) := by
    push_cast
    rw [zpow_natCast]
  have e2 : ((2 ^ (n.log2 + 1) : Nat) : ℚ) = 2 ^ ((n.log2 : ℤ) + 1) := by
    push_cast
    rw [← zpow_natCast]
    push_cast
    rfl
  constructor
  · rw [← e1]
    exact Nat.cast_le.2 h1
  · rw [← e2]
    exact Nat.cast_lt.2 h2

/-- The scale puts the leading bit of a quotient at the place of the 53rd. -/
theorem scaleFor_eq {n d : Nat} (hn : 0 < n) (hd : 0 < d) :
    scaleFor n d = max (-1074) (Int.log 2 ((n : ℚ) / d) - 52) := by
  have hd' : (0 : ℚ) < d := Nat.cast_pos.2 hd
  have hpos : (0 : ℚ) < (n : ℚ) / d := div_pos (Nat.cast_pos.2 hn) hd'
  have hex := exceeds_iff (n := n) hd ((n.log2 : Int) - (d.log2 : Int) - 53)
  obtain ⟨hn1, hn2⟩ := log2_bounds hn
  obtain ⟨hd1, hd2⟩ := log2_bounds hd
  have hlow : (2 : ℚ) ^ ((n.log2 : ℤ) - d.log2 - 1) ≤ (n : ℚ) / d := by
    rw [le_div_iff₀ hd']
    calc (2 : ℚ) ^ ((n.log2 : ℤ) - d.log2 - 1) * d
        ≤ 2 ^ ((n.log2 : ℤ) - d.log2 - 1) * 2 ^ ((d.log2 : ℤ) + 1) :=
          mul_le_mul_of_nonneg_left hd2.le (by positivity)
      _ = 2 ^ (n.log2 : ℤ) := by
          rw [← zpow_add₀ (by norm_num)]
          congr 1
          ring
      _ ≤ n := hn1
  have hhigh : (n : ℚ) / d < 2 ^ ((n.log2 : ℤ) - d.log2 + 1) := by
    rw [div_lt_iff₀ hd']
    calc (n : ℚ) < 2 ^ ((n.log2 : ℤ) + 1) := hn2
      _ = 2 ^ ((n.log2 : ℤ) - d.log2 + 1) * 2 ^ (d.log2 : ℤ) := by
          rw [← zpow_add₀ (by norm_num)]
          congr 1
          ring
      _ ≤ 2 ^ ((n.log2 : ℤ) - d.log2 + 1) * d :=
          mul_le_mul_of_nonneg_left hd1 (by positivity)
  have hlog1 : (n.log2 : ℤ) - d.log2 - 1 ≤ Int.log 2 ((n : ℚ) / d) :=
    (Int.zpow_le_iff_le_log (by decide) hpos).1 hlow
  have hlog2 : Int.log 2 ((n : ℚ) / d) < (n.log2 : ℤ) - d.log2 + 1 :=
    (Int.lt_zpow_iff_log_lt (by decide) hpos).1 hhigh
  have hlog3 : (2 : ℚ) ^ ((n.log2 : ℤ) - d.log2 - 53 + 53) ≤ (n : ℚ) / d ↔
      (n.log2 : ℤ) - d.log2 - 53 + 53 ≤ Int.log 2 ((n : ℚ) / d) :=
    Int.zpow_le_iff_le_log (by decide) hpos
  unfold scaleFor
  simp only
  congr 1
  by_cases h : (2 : ℚ) ^ ((n.log2 : ℤ) - d.log2 - 53 + 53) ≤ (n : ℚ) / d
  · rw [if_pos (hex.2 h)]
    have := hlog3.1 h
    omega
  · rw [if_neg fun he => h (hex.1 he)]
    have : ¬ (n.log2 : ℤ) - d.log2 - 53 + 53 ≤ Int.log 2 ((n : ℚ) / d) := fun hle => h (hlog3.2 hle)
    omega

/-! ## Equal quotients -/

theorem scaleFor_mul {n d k : Nat} (hn : 0 < n) (hd : 0 < d) (hk : 0 < k) :
    scaleFor (k * n) (k * d) = scaleFor n d := by
  have hk' : (k : ℚ) ≠ 0 := Nat.cast_ne_zero.2 (by omega)
  rw [scaleFor_eq (Nat.mul_pos hk hn) (Nat.mul_pos hk hd), scaleFor_eq hn hd]
  push_cast
  rw [mul_div_mul_left _ _ hk']

theorem roundQuotient_mul {n d k : Nat} (hk : 0 < k) :
    roundQuotient (k * n) (k * d) = roundQuotient n d := by
  have hlt : ∀ a b : Nat, k * a < k * b ↔ a < b := fun a b => Nat.mul_lt_mul_left hk
  have h1 : 2 * (k * (n % d)) = k * (2 * (n % d)) := by ring
  unfold roundQuotient
  simp only [Nat.mul_div_mul_left _ _ hk, Nat.mul_mod_mul_left, h1, hlt]

/-- Rounding a quotient does not depend on how it is written. -/
theorem ofRatio_mul {n d k : Nat} (hd : 0 < d) (hk : 0 < k) (s : Bool) :
    ofRatio s (k * n) (k * d) = ofRatio s n d := by
  by_cases hn : n = 0
  · rw [hn, Nat.mul_zero, ofRatio, ofRatio, if_pos rfl, if_pos rfl]
  · have hkn : k * n ≠ 0 := Nat.mul_ne_zero (by omega) hn
    unfold ofRatio
    rw [if_neg hn, if_neg hkn, scaleFor_mul (by omega) hd hk]
    simp only [Nat.shiftLeft_eq, Nat.mul_assoc, roundQuotient_mul hk]

/-! ## The value of a number -/

theorem roundQuotient_self_mul {d : Nat} (hd : 0 < d) (m : Nat) : roundQuotient (m * d) d = m := by
  have h0 : 2 * 0 < d := by omega
  unfold roundQuotient
  simp only [Nat.mul_div_left _ hd, Nat.mul_mod_left, if_pos h0]

theorem ratio_pos (x : Binary64) : 0 < x.ratio.2 := by
  unfold ratio
  split
  · exact Nat.one_pos
  · show 0 < 1 <<< _
    rw [Nat.shiftLeft_eq, Nat.one_mul]
    exact Nat.two_pow_pos _

theorem ratio_eq (x : Binary64) :
    (x.ratio.1 : ℚ) / x.ratio.2 = x.significand * (2 : ℚ) ^ x.scale := by
  unfold ratio
  split
  · rename_i h
    have he : ((x.scale.toNat : Nat) : ℤ) = x.scale := by omega
    simp only [shiftLeft_cast, he]
    simp
  · rename_i h
    have he : (((-x.scale).toNat : Nat) : ℤ) = -x.scale := by omega
    simp only [shiftLeft_cast, he, zpow_neg]
    simp

/-- The integer part of a number without a fractional part is its value. -/
theorem truncate_eq_ratio {x : Binary64} (h : x.isIntegral = true) :
    (x.truncate : ℚ) = (if x.negative then -1 else 1) * ((x.ratio.1 : ℚ) / x.ratio.2) := by
  rw [isIntegral, Bool.and_eq_true, beq_iff_eq] at h
  have hdvd : x.ratio.2 ∣ x.ratio.1 := Nat.dvd_of_mod_eq_zero h.2
  have hpos : (x.ratio.2 : ℚ) ≠ 0 := Nat.cast_ne_zero.2 x.ratio_pos.ne'
  rw [← Nat.cast_div hdvd hpos, truncate]
  split
  · simp only [Int.cast_neg, Int.cast_natCast, neg_mul, one_mul]
  · simp only [Int.cast_natCast, one_mul]

/-- A number that is no zero has a significand. -/
theorem significand_pos {x : Binary64} (h0 : x.isZero = false) : 0 < x.significand := by
  unfold significand
  split
  · rename_i he
    simp only [isZero, he, beq_self_eq_true, Bool.true_and, beq_eq_false_iff_ne] at h0
    omega
  · omega

theorem ratio_ne_zero {x : Binary64} (h0 : x.isZero = false) : x.ratio.1 ≠ 0 := by
  have hs := significand_pos h0
  unfold ratio
  split
  · show x.significand <<< _ ≠ 0
    rw [Nat.shiftLeft_eq]
    exact Nat.mul_ne_zero (by omega) (Nat.two_pow_pos _).ne'
  · show x.significand ≠ 0
    omega

/-- There are two zeros. -/
theorem exists_eq_zero {x : Binary64} (h0 : x.isZero = true) : ∃ s, x = zero s := by
  obtain ⟨s, e, f⟩ := x
  simp only [isZero, Bool.and_eq_true, beq_iff_eq] at h0
  obtain ⟨rfl, rfl⟩ : e = ⟨0, by decide⟩ ∧ f = ⟨0, by decide⟩ := ⟨Fin.ext h0.1, Fin.ext h0.2⟩
  exact ⟨s, rfl⟩

theorem significand_lt (x : Binary64) : x.significand < 0x20000000000000 := by
  have := x.fraction.isLt
  unfold significand
  split <;> omega

theorem scale_ge (x : Binary64) : -1074 ≤ x.scale := by
  unfold scale
  split <;> omega

/-- The value of a finite number has the scale of the number. -/
theorem scaleFor_ratio {x : Binary64} (hs : 0 < x.significand) :
    scaleFor x.ratio.1 x.ratio.2 = x.scale := by
  have hs' : (0 : ℚ) < x.significand := Nat.cast_pos.2 hs
  have hd : (0 : ℚ) < x.ratio.2 := Nat.cast_pos.2 x.ratio_pos
  have hpos : (0 : ℚ) < (x.ratio.1 : ℚ) / x.ratio.2 := by
    rw [ratio_eq]
    positivity
  have hn : 0 < x.ratio.1 := by
    rcases Nat.eq_zero_or_pos x.ratio.1 with h | h
    · rw [h, Nat.cast_zero, zero_div] at hpos
      exact absurd hpos (lt_irrefl _)
    · exact h
  have hlt : (x.ratio.1 : ℚ) / x.ratio.2 < (2 : ℚ) ^ (53 + x.scale) := by
    rw [ratio_eq, zpow_add₀ (by norm_num)]
    refine mul_lt_mul_of_pos_right ?_ (by positivity)
    have := Nat.cast_lt (α := ℚ).2 x.significand_lt
    calc (x.significand : ℚ) < ((0x20000000000000 : Nat) : ℚ) := this
      _ = 2 ^ (53 : ℤ) := by norm_num
  have hlog1 : Int.log 2 ((x.ratio.1 : ℚ) / x.ratio.2) < 53 + x.scale :=
    (Int.lt_zpow_iff_log_lt (by decide) hpos).1 hlt
  have hge := x.scale_ge
  rw [scaleFor_eq hn x.ratio_pos]
  by_cases he : x.exponent.val = 0
  · -- a subnormal number has the least scale
    have hscale : x.scale = -1074 := by rw [scale, if_pos he]
    rw [hscale] at hlog1 ⊢
    have hlt' : (x.ratio.1 : ℚ) / x.ratio.2 < (2 : ℚ) ^ (52 + x.scale) := by
      rw [ratio_eq, zpow_add₀ (by norm_num)]
      refine mul_lt_mul_of_pos_right ?_ (by positivity)
      have hf : x.significand < 0x10000000000000 := by
        rw [significand, if_pos he]
        exact x.fraction.isLt
      calc (x.significand : ℚ) < ((0x10000000000000 : Nat) : ℚ) := Nat.cast_lt.2 hf
        _ = 2 ^ (52 : ℤ) := by norm_num
    have := (Int.lt_zpow_iff_log_lt (b := 2) (by decide) hpos).1 hlt'
    omega
  · -- a normal number has the leading bit
    have hle : (2 : ℚ) ^ (52 + x.scale) ≤ (x.ratio.1 : ℚ) / x.ratio.2 := by
      rw [ratio_eq, zpow_add₀ (by norm_num)]
      refine mul_le_mul_of_nonneg_right ?_ (by positivity)
      have hf : 0x10000000000000 ≤ x.significand := by
        rw [significand, if_neg he]
        omega
      calc (2 : ℚ) ^ (52 : ℤ) = ((0x10000000000000 : Nat) : ℚ) := by norm_num
        _ ≤ x.significand := Nat.cast_le.2 hf
    have hlog2 : 52 + x.scale ≤ Int.log 2 ((x.ratio.1 : ℚ) / x.ratio.2) :=
      (Int.zpow_le_iff_le_log (by decide) hpos).1 hle
    omega

theorem ofSignificand_significand {x : Binary64} (hx : x.isFinite = true) :
    ofSignificand x.negative x.significand x.scale = x := by
  obtain ⟨s, e, f⟩ := x
  have hfin : e.val ≠ 0x7FF := by
    intro h
    simp only [isFinite, h] at hx
    cases hx
  have he := e.isLt
  have hf := f.isLt
  by_cases h0 : e.val = 0
  · have hm : significand ⟨s, e, f⟩ = f.val := if_pos h0
    unfold ofSignificand
    rw [hm, if_pos hf]
    simp only [Binary64.mk.injEq, Fin.ext_iff, true_and]
    exact ⟨h0.symm, Nat.mod_eq_of_lt hf⟩
  · have hm : significand ⟨s, e, f⟩ = 0x10000000000000 + f.val := if_neg h0
    have hq : scale ⟨s, e, f⟩ = (e.val : Int) - 1075 := if_neg h0
    have hsmall : ¬ 0x10000000000000 + f.val < 0x10000000000000 := by omega
    have hcarry : ¬ 0x20000000000000 ≤ 0x10000000000000 + f.val := by omega
    have hexp : (e.val : Int) - 1075 + 1075 < 0x7FF := by omega
    unfold ofSignificand
    rw [hm, hq, if_neg hsmall]
    simp only [decide_eq_false hcarry, Bool.false_eq_true, if_false, if_pos hexp,
      Binary64.mk.injEq, Fin.ext_iff, true_and]
    constructor
    · omega
    · omega

/-- The number nearest to the value of a finite number is the number. -/
theorem ofRatio_ratio {x : Binary64} (hx : x.isFinite = true) (h0 : x.isZero = false) :
    ofRatio x.negative x.ratio.1 x.ratio.2 = x := by
  have hscale := scaleFor_ratio (significand_pos h0)
  have hn : x.ratio.1 ≠ 0 := ratio_ne_zero h0
  have hround : (if 0 ≤ x.scale then roundQuotient x.ratio.1 (x.ratio.2 <<< x.scale.toNat)
      else roundQuotient (x.ratio.1 <<< (-x.scale).toNat) x.ratio.2) = x.significand := by
    unfold ratio
    split
    · simp only [Nat.shiftLeft_eq, Nat.one_mul]
      exact roundQuotient_self_mul (Nat.two_pow_pos _) _
    · simp only [Nat.shiftLeft_eq, Nat.one_mul]
      exact roundQuotient_self_mul (Nat.two_pow_pos _) _
  unfold ofRatio
  simp only [if_neg hn, hscale, hround]
  exact ofSignificand_significand hx

end JsLiteral.Binary64
