import JsLiteral.Proofs.Number.Shortest
import Mathlib.Tactic.FieldSimp
import Mathlib.Tactic.Linarith

/-!
# Rounding gives the nearest number

A finite number has an exact rational value. In units of the scale of a quotient the numbers
of that scale and of greater ones are integers, and the others lie below the least integer of
53 bits. So the integer that the quotient is rounded to is the significand of the nearest
number, and a tie goes to the even one.

    ofRatio s n d is nearest to ± n / d, a tie to the even significand     (isNearest_ofRatio)
    d.toBinary64 s is nearest to ± the value of d, a tie likewise          (isNearest_toBinary64)
-/

namespace JsLiteral

/-- The factor of a sign. -/
def sign (negative : Bool) : ℚ := if negative then -1 else 1

/-- The exact value of a decimal. -/
def Decimal.value (d : Decimal) : ℚ := d.digits * 10 ^ d.exponent

theorem abs_sign (s : Bool) : |sign s| = 1 := by
  cases s <;> simp [sign]

theorem sign_mul_sign (s : Bool) : sign s * sign s = 1 := by
  cases s <;> simp [sign]

theorem exists_int_sign (s : Bool) : ∃ i : Int, sign s = i := by
  cases s
  · exact ⟨1, by simp [sign]⟩
  · exact ⟨-1, by simp [sign]⟩

/-- A sign may change sides in a distance. -/
theorem abs_sign_mul_sub (s : Bool) (a b : ℚ) : |sign s * a - b| = |a - sign s * b| := by
  have hb : sign s * a - b = sign s * (a - sign s * b) := by
    rw [mul_sub, ← mul_assoc, sign_mul_sign, one_mul]
  rw [hb, abs_mul, abs_sign, one_mul]

theorem cast_tenTo (e : Nat) : ((tenTo e : Nat) : ℚ) = 10 ^ e := by
  show ((10 ^ e : Nat) : ℚ) = 10 ^ e
  push_cast
  rfl

namespace Binary64

/-- The exact value of a finite number. -/
def value (x : Binary64) : ℚ := sign x.negative * (x.significand * 2 ^ x.scale)

/-- `x` is the number that `q` is rounded to: no other is nearer, and of two nearest ones it
is the one with the even significand. From half a unit beyond the greatest number on nothing
finite is. -/
structure IsNearest (q : ℚ) (x : Binary64) : Prop where
  isFinite : x.isFinite = true
  abs_lt : |q| < 2 ^ 1024 - 2 ^ 970
  abs_sub_le : ∀ y : Binary64, y.isFinite = true → |q - x.value| ≤ |q - y.value|
  even : ∀ y : Binary64, y.isFinite = true → y.value ≠ x.value →
    |q - y.value| = |q - x.value| → x.significand % 2 = 0

/-! ## Integral numbers -/

theorem value_eq_ratio (x : Binary64) :
    x.value = sign x.negative * ((x.ratio.1 : ℚ) / x.ratio.2) := by
  rw [ratio_eq, value]

theorem value_eq_truncate {x : Binary64} (h : x.isIntegral = true) : x.value = x.truncate := by
  rw [value_eq_ratio, truncate_eq_ratio h, sign]

/-- A finite number has no fractional part exactly if its value is an integer. -/
theorem isIntegral_iff {x : Binary64} (hx : x.isFinite = true) :
    x.isIntegral = true ↔ ∃ k : Int, x.value = k := by
  constructor
  · intro h
    exact ⟨_, value_eq_truncate h⟩
  · rintro ⟨k, hk⟩
    have hpos : (x.ratio.2 : ℚ) ≠ 0 := Nat.cast_ne_zero.2 x.ratio_pos.ne'
    rw [value_eq_ratio] at hk
    have habs : (x.ratio.1 : ℚ) / x.ratio.2 = (k.natAbs : Nat) := by
      rw [Nat.cast_natAbs, Int.cast_abs, ← hk, abs_mul, abs_sign, one_mul,
        abs_of_nonneg (by positivity)]
    rw [div_eq_iff hpos] at habs
    have hmul : x.ratio.1 = k.natAbs * x.ratio.2 := by exact_mod_cast habs
    rw [isIntegral, hx, Bool.true_and, beq_iff_eq, hmul, Nat.mul_mod_left]

theorem natAbs_truncate_lt_iff {x : Binary64} (h : x.isIntegral = true) (e : Nat) :
    x.truncate.natAbs < tenTo e ↔ |x.value| < 10 ^ e := by
  rw [value_eq_truncate h, ← cast_tenTo, ← Nat.cast_lt (α := ℚ), Nat.cast_natAbs, Int.cast_abs]

/-! ## The nearest integer -/

section

variable {n d : Nat}

theorem abs_sub_roundQuotient (hd : 0 < d) :
    |(n : ℚ) / d - roundQuotient n d| = |(n : ℚ) - roundQuotient n d * d| / d := by
  have hd' : (0 : ℚ) < d := Nat.cast_pos.2 hd
  have hsub : (n : ℚ) / d - roundQuotient n d = (n - roundQuotient n d * d) / d := by
    rw [sub_div, mul_div_cancel_right₀ _ hd'.ne']
  rw [hsub, abs_div, abs_of_pos hd']

theorem abs_sub_roundQuotient_le (hd : 0 < d) : |(n : ℚ) / d - roundQuotient n d| ≤ 1 / 2 := by
  have hlow : (2 : ℚ) * n ≤ 2 * (roundQuotient n d * d) + d := by
    exact_mod_cast le_roundQuotient hd
  have hhigh : (2 : ℚ) * (roundQuotient n d * d) ≤ 2 * n + d := by
    exact_mod_cast roundQuotient_le hd
  rw [abs_sub_roundQuotient hd, div_le_iff₀ (Nat.cast_pos.2 hd), abs_le]
  constructor <;> linarith

/-- A tie goes to the even integer. -/
theorem even_roundQuotient (hd : 0 < d) (h : |(n : ℚ) / d - roundQuotient n d| = 1 / 2) :
    roundQuotient n d % 2 = 0 := by
  have htie : 2 * n = 2 * (roundQuotient n d * d) + d ∨
      2 * n + d = 2 * (roundQuotient n d * d) := by
    rw [abs_sub_roundQuotient hd, div_eq_iff (Nat.cast_ne_zero.2 hd.ne')] at h
    rcases abs_cases ((n : ℚ) - roundQuotient n d * d) with ⟨he, -⟩ | ⟨he, -⟩
    · left
      have : (2 : ℚ) * n = 2 * (roundQuotient n d * d) + d := by linarith
      exact_mod_cast this
    · right
      have : (2 : ℚ) * n + d = 2 * (roundQuotient n d * d) := by linarith
      exact_mod_cast this
  have hn := Nat.div_add_mod n d
  have hr := Nat.mod_lt n hd
  revert htie
  unfold roundQuotient
  simp only [Nat.mul_comm _ d]
  split
  · intro htie
    omega
  split
  · rw [Nat.mul_add]
    intro htie
    omega
  split
  · intro htie
    assumption
  · intro htie
    omega

end

/-- An integer within one half is nearest among integers, and nearer than what lies below an
integer that is not above. -/
theorem abs_sub_le_of_half {w b : ℚ} {m c : Int} (hm : |w - m| ≤ 1 / 2)
    (hb : (∃ k : Int, b = k) ∨ b < c ∧ c ≤ w) :
    |w - m| ≤ |w - b| ∧ (b ≠ m → |w - b| = |w - m| → |w - m| = 1 / 2) := by
  -- two different integers are at least one apart
  have hint : ∀ k : Int, k ≠ m → 1 - |w - m| ≤ |w - k| := by
    intro k hk
    have hone : (1 : ℚ) ≤ |(m : ℚ) - k| := by
      exact_mod_cast Int.one_le_abs (sub_ne_zero.2 (Ne.symm hk))
    have htri := abs_sub_le (m : ℚ) w k
    rw [abs_sub_comm (m : ℚ) w] at htri
    linarith
  have hle : ∀ k : Int, |w - m| ≤ |w - k| := by
    intro k
    by_cases hk : k = m
    · rw [hk]
    · have := hint k hk
      linarith
  rcases hb with ⟨k, rfl⟩ | ⟨hb, hc⟩
  · refine ⟨hle k, fun hne heq => ?_⟩
    have := hint k fun e => hne (by rw [e])
    linarith
  · have hlt : |w - c| < |w - b| := by
      rw [abs_of_nonneg (by linarith), abs_of_pos (by linarith)]
      linarith
    have := hle c
    exact ⟨by linarith, fun _ heq => by linarith⟩

/-! ## Numbers in units of a scale -/

/-- A number of at least the scale `q` is an integer times `2 ^ q`; one of a lesser scale is
less than the least significand with the leading bit there. -/
theorem value_at_scale (y : Binary64) (s : Bool) {q : Int} (hq : -1074 ≤ q) :
    (∃ k : Int, sign s * y.value = k * 2 ^ q) ∨
      -1074 < q ∧ sign s * y.value < 0x10000000000000 * 2 ^ q := by
  have hge := y.scale_ge
  rcases Int.lt_or_le y.scale q with hlt | hle
  · right
    refine ⟨by omega, lt_of_le_of_lt (le_abs_self _) ?_⟩
    have hsig : (y.significand : ℚ) < 0x20000000000000 := by exact_mod_cast y.significand_lt
    have hpow : (2 : ℚ) ^ y.scale ≤ 2 ^ (q - 1) := zpow_le_zpow_right₀ (by norm_num) (by omega)
    rw [value, abs_mul, abs_mul, abs_sign, abs_sign, one_mul, one_mul,
      abs_of_nonneg (by positivity)]
    calc (y.significand : ℚ) * 2 ^ y.scale
        ≤ y.significand * 2 ^ (q - 1) := mul_le_mul_of_nonneg_left hpow (by positivity)
      _ < 0x20000000000000 * 2 ^ (q - 1) := mul_lt_mul_of_pos_right hsig (by positivity)
      _ = 0x10000000000000 * 2 ^ q := by
          rw [zpow_sub_one₀ (by norm_num)]
          ring
  · left
    have hpow : (2 : ℚ) ^ y.scale = 2 ^ (y.scale - q).toNat * 2 ^ q := by
      rw [← zpow_natCast, ← zpow_add₀ (by norm_num)]
      congr 1
      omega
    obtain ⟨i, hi⟩ := exists_int_sign s
    obtain ⟨j, hj⟩ := exists_int_sign y.negative
    refine ⟨i * (j * (y.significand * 2 ^ (y.scale - q).toNat)), ?_⟩
    rw [value, hi, hj, hpow]
    push_cast
    ring

/-- A significand at its scale: 53 bits or, at the least scale, fewer. -/
structure IsScaled (m : Nat) (q : Int) : Prop where
  le : m ≤ 0x20000000000000
  scale_ge : -1074 ≤ q
  least : m < 0x10000000000000 → q = -1074

/-- The number with a significand and scale has them, but for a carry into a 54th bit. -/
theorem ofSignificand_cases (s : Bool) {m : Nat} {q : Int} (h : IsScaled m q)
    (hx : (ofSignificand s m q).isFinite = true) :
    (ofSignificand s m q).negative = s ∧
      (((ofSignificand s m q).significand = m ∧ (ofSignificand s m q).scale = q ∧
          m < 0x20000000000000 ∧ q ≤ 971) ∨
        ((ofSignificand s m q).significand = 0x10000000000000 ∧
          (ofSignificand s m q).scale = q + 1 ∧ m = 0x20000000000000 ∧ q ≤ 970)) := by
  have hle := h.le
  have hge := h.scale_ge
  revert hx
  unfold ofSignificand
  split
  · rename_i hsmall
    have hq := h.least hsmall
    intro _
    refine ⟨rfl, Or.inl ⟨Nat.mod_eq_of_lt hsmall, hq.symm, by omega, by omega⟩⟩
  · rename_i hbits
    by_cases hcarry : 0x20000000000000 ≤ m
    · simp only [decide_eq_true hcarry, if_true]
      split
      · rename_i he
        intro _
        have hexp : (q + 1 + 1075).toNat % 0x800 ≠ 0 := by omega
        refine ⟨rfl, Or.inr ⟨if_neg hexp, (if_neg hexp).trans ?_, by omega, by omega⟩⟩
        show (((q + 1 + 1075).toNat % 0x800 : Nat) : Int) - 1075 = q + 1
        omega
      · intro hx
        cases hx
    · simp only [decide_eq_false hcarry, Bool.false_eq_true, if_false]
      split
      · rename_i he
        intro _
        have hexp : (q + 1075).toNat % 0x800 ≠ 0 := by omega
        refine ⟨rfl, Or.inl ⟨(if_neg hexp).trans ?_, (if_neg hexp).trans ?_, by omega, by omega⟩⟩
        · show 0x10000000000000 + (m - 0x10000000000000) % 0x10000000000000 = m
          omega
        · show (((q + 1075).toNat % 0x800 : Nat) : Int) - 1075 = q
          omega
      · intro hx
        cases hx

/-- A carry does not change the value, and no significand becomes odd by one. -/
theorem value_ofSignificand (s : Bool) {m : Nat} {q : Int} (h : IsScaled m q)
    (hx : (ofSignificand s m q).isFinite = true) :
    (ofSignificand s m q).value = sign s * (m * 2 ^ q) ∧
      (m % 2 = 0 → (ofSignificand s m q).significand % 2 = 0) := by
  obtain ⟨hs, ⟨hm, hq, -, -⟩ | ⟨hm, hq, rfl, -⟩⟩ := ofSignificand_cases s h hx
  · rw [value, hs, hm, hq]
    exact ⟨rfl, id⟩
  · rw [value, hs, hm, hq, zpow_add_one₀ (by norm_num)]
    refine ⟨?_, fun _ => rfl⟩
    push_cast
    ring

/-- `m` is the integer nearest to `w`, a tie going to the even one, and `w` has as many bits
before the point as the scale `q` asks for. -/
structure RoundsTo (w : ℚ) (m : Nat) (q : Int) : Prop where
  nonneg : 0 ≤ w
  half : |w - m| ≤ 1 / 2
  even : |w - m| = 1 / 2 → m % 2 = 0
  lt : w < 0x20000000000000
  scale_ge : -1074 ≤ q
  le : -1074 < q → 0x10000000000000 ≤ w

namespace RoundsTo

variable {w : ℚ} {m : Nat} {q : Int}

theorem isScaled (h : RoundsTo w m q) : IsScaled m q := by
  obtain ⟨h1, h2⟩ := abs_le.1 h.half
  have hlt := h.lt
  refine ⟨?_, h.scale_ge, fun hsmall => ?_⟩
  · have hm : (m : ℚ) < (0x20000000000000 + 1 : Nat) := by
      push_cast
      linarith
    exact Nat.lt_succ_iff.1 (Nat.cast_lt.1 hm)
  · by_contra hne
    have hge := h.scale_ge
    have hw := h.le (by omega)
    have hm : ((0x10000000000000 : Nat) : ℚ) < (m + 1 : Nat) := by
      push_cast
      linarith
    have := Nat.cast_lt.1 hm
    omega

/-- What is rounded to the greatest odd significand or less lies below the middle between it
and the next integer, for the middle itself goes to that integer. -/
theorem lt_half (h : RoundsTo w m q) (hm : m < 0x20000000000000) :
    w < 0x1FFFFFFFFFFFFF + 1 / 2 := by
  have hm' : (m : ℚ) ≤ 0x1FFFFFFFFFFFFF := by exact_mod_cast Nat.le_of_lt_succ hm
  obtain ⟨-, hhigh⟩ := abs_le.1 h.half
  rcases lt_or_eq_of_le (by linarith : w ≤ 0x1FFFFFFFFFFFFF + 1 / 2) with hw | hw
  · exact hw
  · have hodd : (m : ℚ) = (0x1FFFFFFFFFFFFF : Nat) := by
      push_cast
      linarith
    have htie : |w - m| = 1 / 2 := by
      rw [hodd, hw]
      norm_num
    have heven := h.even htie
    rw [Nat.cast_inj] at hodd
    omega

/-- What is rounded to a finite number lies below the middle between the greatest one and the
next power of two. -/
theorem lt_overflow (h : RoundsTo w m q) (s : Bool)
    (hx : (ofSignificand s m q).isFinite = true) : w * 2 ^ q < 2 ^ 1024 - 2 ^ 970 := by
  have hle : ∀ {e : Int}, q ≤ e → w * 2 ^ q ≤ w * 2 ^ e := fun he =>
    mul_le_mul_of_nonneg_left (zpow_le_zpow_right₀ (by norm_num) he) h.nonneg
  -- the powers are too large to be computed
  obtain ⟨t, ht⟩ : ∃ t, (2 : ℚ) ^ 970 = t := ⟨_, rfl⟩
  have hpos : 0 < t := ht ▸ pow_pos (by norm_num) 970
  have h970 : (2 : ℚ) ^ (970 : Int) = t := (zpow_natCast 2 970).trans ht
  have h971 : (2 : ℚ) ^ (971 : Int) = 2 * t := by
    rw [← ht, ← pow_succ']
    exact zpow_natCast 2 971
  have h1024 : (2 : ℚ) ^ 1024 = 0x40000000000000 * t := by
    rw [← ht, show 1024 = 54 + 970 from rfl, pow_add]
    norm_num
  rw [ht, h1024]
  obtain ⟨-, ⟨-, -, hm, hq⟩ | ⟨-, -, -, hq⟩⟩ := ofSignificand_cases s h.isScaled hx
  · calc w * 2 ^ q ≤ w * 2 ^ (971 : Int) := hle hq
      _ < (0x1FFFFFFFFFFFFF + 1 / 2) * 2 ^ (971 : Int) :=
          mul_lt_mul_of_pos_right (h.lt_half hm) (by positivity)
      _ = 0x40000000000000 * t - t := by
          rw [h971]
          ring
  · calc w * 2 ^ q ≤ w * 2 ^ (970 : Int) := hle hq
      _ < 0x20000000000000 * 2 ^ (970 : Int) := mul_lt_mul_of_pos_right h.lt (by positivity)
      _ ≤ 0x40000000000000 * t - t := by
          rw [h970]
          linarith only [hpos]

/-- Among the numbers, each in units of the scale, the rounded one is nearest. -/
theorem abs_sub_le (h : RoundsTo w m q) {c : ℚ}
    (hc : (∃ k : Int, c = k) ∨ -1074 < q ∧ c < 0x10000000000000) :
    |w - m| ≤ |w - c| ∧ (c ≠ m → |w - c| = |w - m| → m % 2 = 0) := by
  have hbelow : (∃ k : Int, c = k) ∨
      c < (0x10000000000000 : Int) ∧ (0x10000000000000 : Int) ≤ w := by
    rcases hc with hk | ⟨hq, hlt⟩
    · exact Or.inl hk
    · exact Or.inr ⟨by exact_mod_cast hlt, by exact_mod_cast h.le hq⟩
  obtain ⟨hle, htie⟩ := abs_sub_le_of_half (m := (m : Int)) (by exact_mod_cast h.half) hbelow
  rw [Int.cast_natCast] at hle htie
  exact ⟨hle, fun hne he => h.even (htie hne he)⟩

/-- The number with the rounded significand is nearest. -/
theorem isNearest (h : RoundsTo w m q) (s : Bool) (hx : (ofSignificand s m q).isFinite = true) :
    IsNearest (sign s * (w * 2 ^ q)) (ofSignificand s m q) := by
  have hpos : (0 : ℚ) < 2 ^ q := zpow_pos (by norm_num) q
  obtain ⟨hvalue, hparity⟩ := value_ofSignificand s h.isScaled hx
  -- distances in units of the scale
  have hdist : ∀ {y c : ℚ}, sign s * y = c * 2 ^ q →
      |sign s * (w * 2 ^ q) - y| = |w - c| * 2 ^ q := by
    intro y c hy
    rw [abs_sign_mul_sub, hy, ← sub_mul, abs_mul, abs_of_pos hpos]
  have hown : sign s * (ofSignificand s m q).value = m * 2 ^ q := by
    rw [hvalue, ← mul_assoc, sign_mul_sign, one_mul]
  have hother : ∀ y : Binary64, ∃ c, sign s * y.value = c * 2 ^ q ∧
      ((∃ k : Int, c = k) ∨ -1074 < q ∧ c < 0x10000000000000) := by
    intro y
    rcases value_at_scale y s h.scale_ge with ⟨k, hk⟩ | ⟨hq, hy⟩
    · exact ⟨k, hk, Or.inl ⟨k, rfl⟩⟩
    · exact ⟨_, (div_mul_cancel₀ _ hpos.ne').symm, Or.inr ⟨hq, (div_lt_iff₀ hpos).2 hy⟩⟩
  refine ⟨hx, ?_, fun y _ => ?_, fun y _ hne htie => ?_⟩
  · rw [abs_mul, abs_sign, one_mul, abs_of_nonneg (mul_nonneg h.nonneg hpos.le)]
    exact h.lt_overflow s hx
  · obtain ⟨c, hy, hc⟩ := hother y
    rw [hdist hown, hdist hy]
    exact mul_le_mul_of_nonneg_right (h.abs_sub_le hc).1 hpos.le
  · obtain ⟨c, hy, hc⟩ := hother y
    rw [hdist hown, hdist hy] at htie
    refine hparity ((h.abs_sub_le hc).2 ?_ (mul_right_cancel₀ hpos.ne' htie))
    rintro rfl
    -- the same multiple of the scale is the same value
    have hsame := congrArg (sign s * ·) (hy.trans hown.symm)
    simp only [← mul_assoc, sign_mul_sign, one_mul] at hsame
    exact hne hsame

end RoundsTo

/-! ## Quotients -/

section

variable {n d : Nat}

/-- In units of its scale a quotient has at most 53 bits before the point, and exactly so many
unless the scale is the least. -/
theorem scaleFor_bounds (hn : 0 < n) (hd : 0 < d) :
    (n : ℚ) / d < 0x20000000000000 * 2 ^ scaleFor n d ∧
      (-1074 < scaleFor n d → 0x10000000000000 * 2 ^ scaleFor n d ≤ (n : ℚ) / d) := by
  have hpos : (0 : ℚ) < (n : ℚ) / d := div_pos (Nat.cast_pos.2 hn) (Nat.cast_pos.2 hd)
  have hunit : ∀ k q : Int, (2 : ℚ) ^ k * 2 ^ q = 2 ^ (k + q) :=
    fun k q => (zpow_add₀ (by norm_num) k q).symm
  have h53 : (0x20000000000000 : ℚ) = 2 ^ (53 : Int) := by norm_num
  have h52 : (0x10000000000000 : ℚ) = 2 ^ (52 : Int) := by norm_num
  have hscale := scaleFor_eq hn hd
  rw [h53, h52, hunit, hunit]
  constructor
  · have hlog : Int.log 2 ((n : ℚ) / d) < 53 + scaleFor n d := by omega
    exact_mod_cast (Int.lt_zpow_iff_log_lt (by decide) hpos).2 hlog
  · intro hlarge
    have hlog : 52 + scaleFor n d ≤ Int.log 2 ((n : ℚ) / d) := by omega
    exact_mod_cast (Int.zpow_le_iff_le_log (by decide) hpos).2 hlog

/-- The significand is the quotient in units of its scale, rounded to an integer. -/
theorem exists_roundQuotient (s : Bool) (hn : 0 < n) (hd : 0 < d) :
    ∃ a b : Nat, 0 < b ∧ (n : ℚ) / d = (a : ℚ) / b * 2 ^ scaleFor n d ∧
      ofRatio s n d = ofSignificand s (roundQuotient a b) (scaleFor n d) := by
  have hd' : (d : ℚ) ≠ 0 := Nat.cast_ne_zero.2 (by omega)
  have hn' : n ≠ 0 := by omega
  unfold ofRatio
  rw [if_neg hn']
  by_cases hq : 0 ≤ scaleFor n d
  · refine ⟨n, d <<< (scaleFor n d).toNat, ?_, ?_, by simp only [if_pos hq]⟩
    · rw [Nat.shiftLeft_eq]
      exact Nat.mul_pos hd (Nat.two_pow_pos _)
    · have he : (((scaleFor n d).toNat : Nat) : Int) = scaleFor n d := by omega
      rw [shiftLeft_cast, he]
      field_simp
  · refine ⟨n <<< (-scaleFor n d).toNat, d, hd, ?_, by simp only [if_neg hq]⟩
    have he : (((-scaleFor n d).toNat : Nat) : Int) = -scaleFor n d := by omega
    rw [shiftLeft_cast, he, zpow_neg]
    field_simp

theorem roundsTo_roundQuotient {a b : Nat} (hn : 0 < n) (hd : 0 < d) (hb : 0 < b)
    (hw : (n : ℚ) / d = (a : ℚ) / b * 2 ^ scaleFor n d) :
    RoundsTo ((a : ℚ) / b) (roundQuotient a b) (scaleFor n d) := by
  have hpos : (0 : ℚ) < 2 ^ scaleFor n d := zpow_pos (by norm_num) _
  obtain ⟨hlt, hle⟩ := scaleFor_bounds hn hd
  rw [hw] at hlt hle
  refine ⟨by positivity, abs_sub_roundQuotient_le hb, even_roundQuotient hb,
    lt_of_mul_lt_mul_right hlt hpos.le, ?_, fun hq => le_of_mul_le_mul_right (hle hq) hpos⟩
  rw [scaleFor_eq hn hd]
  exact le_max_left _ _

theorem value_zero (s : Bool) : (zero s).value = 0 := by
  have hsig : (zero s).significand = 0 := rfl
  rw [value, hsig, Nat.cast_zero, zero_mul, mul_zero]

/-- A number other than zero has at least the value of the least one. -/
theorem le_abs_value {y : Binary64} (hy : y.value ≠ 0) : (2 : ℚ) ^ (-1074 : Int) ≤ |y.value| := by
  have hsig : (1 : ℚ) ≤ y.significand := by
    have hne : y.significand ≠ 0 := by
      intro h0
      rw [value, h0, Nat.cast_zero, zero_mul, mul_zero] at hy
      exact hy rfl
    exact_mod_cast Nat.one_le_iff_ne_zero.2 hne
  have hpow : (2 : ℚ) ^ (-1074 : Int) ≤ 2 ^ y.scale := zpow_le_zpow_right₀ (by norm_num) y.scale_ge
  rw [value, abs_mul, abs_sign, one_mul, abs_of_nonneg (by positivity)]
  calc (2 : ℚ) ^ (-1074 : Int) = 1 * 2 ^ (-1074 : Int) := (one_mul _).symm
    _ ≤ y.significand * 2 ^ y.scale := mul_le_mul hsig hpow (by positivity) (by positivity)

/-- What is less than half the least number is rounded to zero. -/
theorem isNearest_zero (s : Bool) {q : ℚ} (hq : |q| < 2 ^ (-1075 : Int)) :
    IsNearest q (zero s) := by
  have hhalf : (2 : ℚ) ^ (-1074 : Int) = 2 * 2 ^ (-1075 : Int) := by
    rw [show (-1074 : Int) = -1075 + 1 from rfl, zpow_add_one₀ (by norm_num), mul_comm]
  have hfar : ∀ y : Binary64, y.value ≠ 0 → |q| < |q - y.value| := by
    intro y hy
    have hle := le_abs_value hy
    have htri := abs_sub_abs_le_abs_sub y.value q
    rw [abs_sub_comm] at htri
    linarith
  refine ⟨rfl, ?_, fun y _ => ?_, fun _ _ _ _ => rfl⟩
  · calc |q| < 2 ^ (-1075 : Int) := hq
      _ ≤ 1 := zpow_le_one_of_nonpos₀ (by norm_num) (by decide)
      _ ≤ 2 ^ 970 := one_le_pow₀ (by norm_num)
      _ ≤ 2 ^ 1024 - 2 ^ 970 := by
          rw [le_sub_iff_add_le, ← two_mul, ← pow_succ']
          exact pow_le_pow_right₀ (by norm_num) (by decide)
  · rw [value_zero, sub_zero]
    by_cases hy : y.value = 0
    · rw [hy, sub_zero]
    · exact (hfar y hy).le

/-- A quotient is rounded to the nearest number, a tie to the even significand. -/
theorem isNearest_ofRatio (s : Bool) (hd : 0 < d) (hx : (ofRatio s n d).isFinite = true) :
    IsNearest (sign s * ((n : ℚ) / d)) (ofRatio s n d) := by
  rcases Nat.eq_zero_or_pos n with rfl | hn
  · rw [Nat.cast_zero, zero_div, mul_zero]
    exact isNearest_zero s (by rw [abs_zero]; positivity)
  obtain ⟨a, b, hb, hw, he⟩ := exists_roundQuotient s hn hd
  have hrounds := roundsTo_roundQuotient hn hd hb hw
  rw [he] at hx ⊢
  rw [hw]
  exact hrounds.isNearest s hx

end

/-- A decimal of an order of magnitude below `-400` is less than half the least number. -/
theorem abs_value_lt_of_order {d : Decimal}
    (h : (digitCount d.digits : Int) + d.exponent < -400) (s : Bool) :
    |sign s * d.value| < 2 ^ (-1075 : Int) := by
  have hdigits : (d.digits : ℚ) < 10 ^ ((digitCount d.digits : Nat) : Int) := by
    have := (digitCount_le_iff (digitCount_pos d.digits)).1 (Nat.le_refl _)
    rw [zpow_natCast]
    exact_mod_cast this
  have hten : (10 : ℚ) ^ (-401 : Int) ≤ 2 ^ (-1075 : Int) := by
    obtain ⟨m, n, hm, hn, hpow⟩ : ∃ m n, m = 1075 ∧ n = 401 ∧ 2 ^ m ≤ 10 ^ n :=
      ⟨1075, 401, rfl, rfl, by decide +kernel⟩
    have hcast : (2 : ℚ) ^ m ≤ 10 ^ n := by exact_mod_cast hpow
    have hm' : (-1075 : Int) = -(m : Int) := by omega
    have hn' : (-401 : Int) = -(n : Int) := by omega
    rw [hm', hn', zpow_neg, zpow_neg, zpow_natCast, zpow_natCast]
    exact inv_anti₀ (by positivity) hcast
  rw [abs_mul, abs_sign, one_mul, Decimal.value, abs_of_nonneg (by positivity)]
  calc (d.digits : ℚ) * 10 ^ d.exponent
      < 10 ^ ((digitCount d.digits : Nat) : Int) * 10 ^ d.exponent :=
        mul_lt_mul_of_pos_right hdigits (by positivity)
    _ = 10 ^ (((digitCount d.digits : Nat) : Int) + d.exponent) :=
        (zpow_add₀ (by norm_num) _ _).symm
    _ ≤ 10 ^ (-401 : Int) := zpow_le_zpow_right₀ (by norm_num) (by omega)
    _ ≤ 2 ^ (-1075 : Int) := hten

/-- A decimal is rounded to the nearest number, a tie to the even significand. -/
theorem isNearest_toBinary64 {d : Decimal} {s : Bool} (hx : (d.toBinary64 s).isFinite = true) :
    IsNearest (sign s * d.value) (d.toBinary64 s) := by
  revert hx
  unfold Decimal.toBinary64
  simp only
  split
  · rename_i h0
    intro _
    rw [Decimal.value, h0, Nat.cast_zero, zero_mul, mul_zero]
    exact isNearest_zero s (by rw [abs_zero]; positivity)
  split
  · intro hx
    cases hx
  split
  · rename_i horder
    intro _
    exact isNearest_zero s (abs_value_lt_of_order horder s)
  split
  · rename_i he
    intro hx
    have hvalue : d.value = ((d.digits * tenTo d.exponent.toNat : Nat) : ℚ) / (1 : Nat) := by
      have hexp : ((d.exponent.toNat : Nat) : Int) = d.exponent := by omega
      rw [Decimal.value, Nat.cast_one, div_one, Nat.cast_mul, cast_tenTo, ← zpow_natCast, hexp]
    rw [hvalue]
    exact isNearest_ofRatio s Nat.one_pos hx
  · rename_i he
    intro hx
    have hvalue : d.value = (d.digits : ℚ) / (tenTo (-d.exponent).toNat : Nat) := by
      have hexp : (((-d.exponent).toNat : Nat) : Int) = -d.exponent := by omega
      rw [Decimal.value, cast_tenTo, ← zpow_natCast, hexp, zpow_neg, div_inv_eq_mul]
    rw [hvalue]
    exact isNearest_ofRatio s (tenTo_pos _) hx

end Binary64

end JsLiteral
