import JsLiteral.Number.Numeral

/-!
# Digits

The decimal digits of a natural number: they are digits, they spell the number, and only
zero starts with the digit zero.

    digitsValue 0 (ofNat n) = n      (Numeral.digitsValue_ofNat)
-/

namespace JsLiteral

namespace Text

theorem exists_of_mem_ofNat {n : Nat} {c : CodePoint} (h : c ∈ ofNat n) :
    ∃ d : Char, c = .scalar d ∧ d.isDigit = true := by
  obtain ⟨d, hd, rfl⟩ := List.mem_map.1 h
  exact ⟨d, rfl, Nat.isDigit_of_mem_toDigits (by decide) (by decide) hd⟩

theorem not_mem_ofNat {c : Char} (hc : c.isDigit = false) (n : Nat) :
    CodePoint.scalar c ∉ ofNat n := by
  intro h
  obtain ⟨d, hd, hdig⟩ := exists_of_mem_ofNat h
  cases hd
  rw [hdig] at hc
  cases hc

theorem ofNat_ne_nil (n : Nat) : ofNat n ≠ [] := by
  intro h
  exact Nat.toDigits_ne_nil (List.map_eq_nil_iff.1 h)

theorem ofNat_injective {m n : Nat} (h : ofNat m = ofNat n) : m = n := by
  have hd : Nat.toDigits 10 m = Nat.toDigits 10 n :=
    List.map_inj_right (fun _ _ e => CodePoint.scalar.inj e) |>.1 h
  rw [← Nat.ofDigitChars_ten_toDigits (n := m), hd, Nat.ofDigitChars_ten_toDigits]

theorem isDigit_scalar (c : Char) : CodePoint.isDigit (.scalar c) = c.isDigit := by
  have hn : (CodePoint.scalar c).toNat = c.val.toNat := rfl
  have h0 : '0'.val.toNat = 48 := rfl
  have h9 : '9'.val.toNat = 57 := rfl
  rw [Bool.eq_iff_iff]
  unfold CodePoint.isDigit CodePoint.digit? Char.isDigit
  simp only [hn, Bool.and_eq_true, decide_eq_true_eq, ge_iff_le, UInt32.le_iff_toNat_le, h0, h9]
  split
  · rename_i h
    simp only [Option.isSome_some, true_iff]
    omega
  · rename_i h
    simp only [Option.isSome_none, Bool.false_eq_true, false_iff]
    omega

theorem isDigit_of_mem_ofNat {n : Nat} {c : CodePoint} (h : c ∈ ofNat n) : c.isDigit = true := by
  obtain ⟨d, rfl, hd⟩ := exists_of_mem_ofNat h
  rw [isDigit_scalar, hd]

/-- The last digit and the digits before it. -/
theorem ofNat_of_le {n : Nat} (h : 10 ≤ n) :
    ofNat n = ofNat (n / 10) ++ [CodePoint.scalar (Nat.digitChar (n % 10))] := by
  unfold ofNat
  rw [Nat.toDigits_of_base_le (by decide) h]
  simp [ofChars]

theorem ofNat_of_lt {n : Nat} (h : n < 10) : ofNat n = [CodePoint.scalar (Nat.digitChar n)] := by
  unfold ofNat
  rw [Nat.toDigits_of_lt_base h]
  rfl

/-- Only zero starts with the digit zero. -/
theorem ofNat_eq_zero_cons {n : Nat} {r : Text} (h : ofNat n = CodePoint.scalar '0' :: r) :
    r = [] := by
  induction n using Nat.strongRecOn generalizing r with
  | ind n ih =>
    by_cases hn : n < 10
    · rw [ofNat_of_lt hn] at h
      exact (List.cons.inj h).2.symm
    · rw [ofNat_of_le (by omega)] at h
      obtain ⟨d, ds, hds⟩ := List.exists_cons_of_ne_nil (ofNat_ne_nil (n / 10))
      rw [hds, List.cons_append] at h
      obtain ⟨rfl, -⟩ := List.cons.inj h
      obtain rfl := ih (n / 10) (by omega) hds
      have hzero : n / 10 = 0 := ofNat_injective (hds.trans rfl)
      omega

end Text

namespace Numeral

open Text

theorem digitsValue_nil (n : Nat) : digitsValue n [] = n := rfl

theorem digitsValue_append (n : Nat) (a b : Text) :
    digitsValue n (a ++ b) = digitsValue (digitsValue n a) b := by
  unfold digitsValue
  rw [List.foldl_append]

theorem digit?_digitChar {d : Nat} (h : d < 10) :
    CodePoint.digit? (.scalar (Nat.digitChar d)) = some d := by
  revert d
  decide

theorem digitsValue_ofNat (n : Nat) : digitsValue 0 (ofNat n) = n := by
  induction n using Nat.strongRecOn with
  | ind n ih =>
    by_cases hn : n < 10
    · rw [ofNat_of_lt hn]
      show 10 * 0 + (CodePoint.digit? _).getD 0 = n
      rw [digit?_digitChar hn]
      simp
    · rw [ofNat_of_le (by omega), digitsValue_append, ih (n / 10) (by omega)]
      show 10 * (n / 10) + (CodePoint.digit? _).getD 0 = n
      rw [digit?_digitChar (Nat.mod_lt _ (by decide))]
      simp only [Option.getD_some]
      omega

end Numeral

end JsLiteral
