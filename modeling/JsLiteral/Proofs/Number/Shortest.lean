import JsLiteral.Number.Decimal
import JsLiteral.Proofs.Number.Rounding

/-!
# Shortest decimals read back

A decimal that the search gives was found by reading it back, and the exact expansion reads
back because rounding it is exact. Moving zeros between the digits and the exponent does not
change what is read.

    x.shortest.toBinary64 x.negative = x      (toBinary64_shortest)
-/

namespace JsLiteral

/-! ## How many digits -/

theorem digitCount_pos (n : Nat) : 0 < digitCount n := Nat.length_toDigits_pos

theorem digitCount_le_iff {n k : Nat} (hk : 0 < k) : digitCount n ≤ k ↔ n < 10 ^ k :=
  Nat.length_toDigits_le_iff (by decide) hk

theorem digitCount_mul_ten {n : Nat} (hn : n ≠ 0) : digitCount (10 * n) = digitCount n + 1 := by
  have hdiv : 10 * n / 10 = n := by omega
  unfold digitCount
  rw [Nat.toDigits_of_base_le (by decide) (by omega : 10 ≤ 10 * n), hdiv, List.length_append]
  rfl

theorem tenTo_succ (e : Nat) : tenTo (e + 1) = 10 * tenTo e := by
  show 10 ^ (e + 1) = 10 * 10 ^ e
  rw [Nat.pow_succ, Nat.mul_comm]

theorem tenTo_pos (e : Nat) : 0 < tenTo e := Nat.pow_pos (by decide)

namespace Decimal

open Binary64

/-- A zero at the end may go into the exponent. -/
theorem toBinary64_mul_ten (s : Bool) (n : Nat) (e : Int) :
    toBinary64 s ⟨10 * n, e⟩ = toBinary64 s ⟨n, e + 1⟩ := by
  by_cases hn : n = 0
  · rw [hn]
    rfl
  have hn' : 10 * n ≠ 0 := by omega
  have horder : ((digitCount (10 * n) : Nat) : Int) + e = (digitCount n : Int) + (e + 1) := by
    rw [digitCount_mul_ten hn]
    push_cast
    omega
  unfold toBinary64
  simp only [if_neg hn, if_neg hn', horder]
  split
  · rfl
  split
  · rfl
  by_cases he : 0 ≤ e
  · have he' : 0 ≤ e + 1 := by omega
    have ht : (e + 1).toNat = e.toNat + 1 := by omega
    rw [if_pos he, if_pos he', ht, tenTo_succ]
    congr 1
    rw [Nat.mul_comm 10 n, Nat.mul_assoc]
  · have hneg : (-e).toNat = (-(e + 1)).toNat + 1 := by omega
    rw [if_neg he, hneg, tenTo_succ, ofRatio_mul (tenTo_pos _) (by decide)]
    by_cases he' : 0 ≤ e + 1
    · have h1 : (-(e + 1)).toNat = 0 := by omega
      have h2 : (e + 1).toNat = 0 := by omega
      rw [if_pos he', h1, h2]
      show ofRatio s n 1 = ofRatio s (n * 1) 1
      rw [Nat.mul_one]
    · rw [if_neg he']

/-- So may any number of zeros. -/
theorem toBinary64_mul_tenTo (s : Bool) (n k : Nat) (e : Int) :
    toBinary64 s ⟨n * tenTo k, e⟩ = toBinary64 s ⟨n, e + k⟩ := by
  induction k generalizing e with
  | zero =>
    show toBinary64 s ⟨n * 1, e⟩ = toBinary64 s ⟨n, e + 0⟩
    rw [Nat.mul_one, Int.add_zero]
  | succ k ih =>
    have hn : n * tenTo (k + 1) = 10 * (n * tenTo k) := by
      rw [tenTo_succ, Nat.mul_left_comm]
    have he : e + 1 + (k : Int) = e + ((k + 1 : Nat) : Int) := by omega
    rw [hn, toBinary64_mul_ten, ih, he]

theorem toBinary64_trim (s : Bool) (fuel : Nat) (d : Decimal) :
    (d.trim fuel).toBinary64 s = d.toBinary64 s := by
  induction fuel generalizing d with
  | zero => rfl
  | succ fuel ih =>
    unfold trim
    split
    · rename_i h
      have hd : 10 * (d.digits / 10) = d.digits := by omega
      have hten := toBinary64_mul_ten s (d.digits / 10) d.exponent
      rw [hd] at hten
      rw [ih]
      exact hten.symm
    · rfl

end Decimal

namespace Binary64

/-! ## Decimals that read back -/

theorem toBinary64_onGrid? {x : Binary64} {e : Int} {d : Decimal} (h : x.onGrid? e = some d) :
    d.toBinary64 x.negative = x := by
  unfold onGrid? at h
  simp only at h
  split at h
  · rename_i hits
    rw [Bool.and_eq_true, beq_iff_eq, beq_iff_eq] at hits
    cases h
    split
    · exact hits.1
    split
    · exact hits.2
    split
    · exact hits.1
    · exact hits.2
  split at h
  · rename_i hits
    cases h
    exact beq_iff_eq.1 hits
  split at h
  · rename_i hits
    cases h
    exact beq_iff_eq.1 hits
  · cases h

theorem scale_le {x : Binary64} (hx : x.isFinite = true) : x.scale ≤ 971 := by
  have he := x.exponent.isLt
  have hfin : x.exponent.val ≠ 0x7FF := by
    intro h
    simp only [isFinite, h] at hx
    cases hx
  unfold scale
  split <;> omega

theorem significand_shiftLeft_lt {x : Binary64} (hx : x.isFinite = true) :
    x.significand <<< x.scale.toNat < 10 ^ 400 := by
  have hle := scale_le hx
  rw [Nat.shiftLeft_eq]
  calc x.significand * 2 ^ x.scale.toNat
      < 0x20000000000000 * 2 ^ x.scale.toNat :=
        Nat.mul_lt_mul_of_pos_right x.significand_lt (Nat.two_pow_pos _)
    _ ≤ 0x20000000000000 * 2 ^ 971 :=
        Nat.mul_le_mul_left _ (Nat.pow_le_pow_right (by decide) (by omega))
    _ ≤ 10 ^ 400 := by decide +kernel

/-- The order of magnitude of the exact expansion is one that is rounded. -/
theorem order_exact {x : Binary64} (hx : x.isFinite = true) (hs : 0 < x.significand) :
    (digitCount x.exact.digits : Int) + x.exact.exponent ≤ 400 ∧
      -400 ≤ (digitCount x.exact.digits : Int) + x.exact.exponent := by
  have hlt := x.significand_lt
  have hge := x.scale_ge
  have hle := scale_le hx
  unfold exact
  split
  · have := (digitCount_le_iff (by decide)).2 (significand_shiftLeft_lt hx)
    simp only
    omega
  · -- the powers of five make up for most of the exponent
    rename_i hneg
    obtain ⟨s, hs'⟩ : ∃ s, s = (-x.scale).toNat := ⟨_, rfl⟩
    have hscale : x.scale = -(s : Int) := by omega
    have hsixteen : 0x20000000000000 ≤ 10 ^ 16 := by decide
    have hbound : x.significand * 5 ^ s < 10 ^ (16 + s) := by
      calc x.significand * 5 ^ s < 0x20000000000000 * 5 ^ s :=
            Nat.mul_lt_mul_of_pos_right hlt (Nat.pow_pos (by decide))
        _ ≤ 10 ^ 16 * 10 ^ s :=
            Nat.mul_le_mul hsixteen (Nat.pow_le_pow_left (by decide) s)
        _ = 10 ^ (16 + s) := (Nat.pow_add 10 16 s).symm
    have hupper := (digitCount_le_iff (by omega)).2 hbound
    have hlower : s ≤ digitCount (x.significand * 5 ^ s) + 400 := by
      by_contra hcon
      obtain ⟨m, n, hm, hn, hpow⟩ : ∃ m n, m = 1074 ∧ n = 401 ∧ 2 ^ m ≤ 10 ^ n :=
        ⟨1074, 401, rfl, rfl, by decide +kernel⟩
      have hk : digitCount (x.significand * 5 ^ s) ≤ s - n := by omega
      have hpos := digitCount_pos (x.significand * 5 ^ s)
      have hlt' := (digitCount_le_iff (by omega)).1 hk
      have hfive : 10 ^ (s - n) ≤ 5 ^ s := by
        refine Nat.le_of_mul_le_mul_right ?_ (Nat.pow_pos (by decide) : 0 < 10 ^ n)
        calc 10 ^ (s - n) * 10 ^ n = 10 ^ s := by
              rw [← Nat.pow_add]
              congr 1
              omega
          _ = 5 ^ s * 2 ^ s := by rw [← Nat.mul_pow]
          _ ≤ 5 ^ s * 2 ^ m :=
              Nat.mul_le_mul_left _ (Nat.pow_le_pow_right (by decide) (by omega))
          _ ≤ 5 ^ s * 10 ^ n := Nat.mul_le_mul_left _ hpow
      have hsig : 5 ^ s ≤ x.significand * 5 ^ s := Nat.le_mul_of_pos_left _ hs
      omega
    have hdigits : x.significand * Nat.pow 5 (-x.scale).toNat = x.significand * 5 ^ s := by
      rw [hs']
      rfl
    show (digitCount (x.significand * Nat.pow 5 (-x.scale).toNat) : Int) + x.scale ≤ 400 ∧
      -400 ≤ (digitCount (x.significand * Nat.pow 5 (-x.scale).toNat) : Int) + x.scale
    rw [hdigits]
    omega

theorem toBinary64_exact {x : Binary64} (hx : x.isFinite = true) (h0 : x.isZero = false) :
    x.exact.toBinary64 x.negative = x := by
  have hs : 0 < x.significand := significand_pos h0
  obtain ⟨h1, h2⟩ := order_exact hx hs
  have hdigits : x.exact.digits ≠ 0 := by
    unfold exact
    split
    · show x.significand <<< _ ≠ 0
      rw [Nat.shiftLeft_eq]
      exact Nat.mul_ne_zero (by omega) (Nat.two_pow_pos _).ne'
    · exact Nat.mul_ne_zero (by omega) (Nat.pow_pos (by decide) : 0 < 5 ^ (-x.scale).toNat).ne'
  have hratio := ofRatio_ratio hx h0
  unfold Decimal.toBinary64
  simp only
  rw [if_neg hdigits, if_neg (by omega), if_neg (by omega)]
  unfold exact
  unfold ratio at hratio
  split
  · rename_i hscale
    rw [if_pos hscale] at hratio
    show ofRatio x.negative (x.significand <<< x.scale.toNat * 1) 1 = x
    rw [Nat.mul_one]
    exact hratio
  · rename_i hscale
    rw [if_neg hscale, Nat.shiftLeft_eq, Nat.one_mul] at hratio
    show ofRatio x.negative (x.significand * 5 ^ (-x.scale).toNat) (tenTo (-x.scale).toNat) = x
    have hten : tenTo (-x.scale).toNat = 5 ^ (-x.scale).toNat * 2 ^ (-x.scale).toNat := by
      rw [← Nat.mul_pow]
      rfl
    rw [hten, Nat.mul_comm x.significand]
    exact (ofRatio_mul (Nat.two_pow_pos _) (Nat.pow_pos (by decide)) _).trans hratio

/-- The shortest decimal of a number reads back as the number. -/
theorem toBinary64_shortest {x : Binary64} (hx : x.isFinite = true) (h0 : x.isZero = false) :
    x.shortest.toBinary64 x.negative = x := by
  unfold shortest
  rw [h0, if_neg (by decide)]
  simp only
  rw [Decimal.toBinary64_trim]
  cases h : (List.range 17).findSome? fun i =>
      x.onGrid? (decimalOrder x.ratio.1 x.ratio.2 - (i + 1 : Nat)) with
  | none => exact toBinary64_exact hx h0
  | some d =>
    obtain ⟨i, -, hi⟩ := List.exists_of_findSome?_eq_some h
    exact toBinary64_onGrid? hi

end Binary64

end JsLiteral
