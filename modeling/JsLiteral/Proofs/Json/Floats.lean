import JsLiteral.Proofs.Json.Numbers
import JsLiteral.Proofs.Number.Shortest

/-!
# Floats are read as they were printed

A float is spelled by digits, a fraction and an exponent. The three layouts of a decimal
spell it, but for zeros that one of them moves from the exponent to the digits. So a float by
its shortest decimal is read as the float. An integral one that is not too large is printed,
and read, as an integer of the same value.

    readNumber? (floatText x ++ rest) = some (numberValue x, rest)     (readNumber?_floatText)
-/

namespace JsLiteral.Json

open Text Numeral

/-! ## Spellings -/

/-- The parts of a number that is no integer: an exponent has a sign and digits. -/
structure Spelling where
  whole : Text
  fraction : Text
  exponent : Option (Bool × Text)

namespace Spelling

def fractionText : Text → Text
  | [] => []
  | ds => CodePoint.scalar '.' :: ds

def exponentText : Option (Bool × Text) → Text
  | none => []
  | some (negative, ds) =>
    CodePoint.scalar 'e' :: (if negative then CodePoint.scalar '-' else CodePoint.scalar '+') :: ds

def text (s : Spelling) : Text := s.whole ++ (fractionText s.fraction ++ exponentText s.exponent)

def power : Option (Bool × Text) → Int
  | none => 0
  | some (negative, ds) =>
    if negative then -((digitsValue 0 ds : Nat) : Int) else (digitsValue 0 ds : Nat)

/-- The number spelled. -/
def decimal (s : Spelling) : Decimal :=
  ⟨digitsValue (digitsValue 0 s.whole) s.fraction, power s.exponent - (s.fraction.length : Int)⟩

/-- The parts are digits, and there is a fraction or an exponent. -/
structure IsFloat (s : Spelling) : Prop where
  whole : IsWhole s.whole
  fraction : ∀ c ∈ s.fraction, c.isDigit = true
  exponent : ∀ negative ds, s.exponent = some (negative, ds) →
    ds ≠ [] ∧ ∀ c ∈ ds, c.isDigit = true
  ne_int : s.fraction ≠ [] ∨ s.exponent ≠ none

end Spelling

open Spelling

theorem endsDigits_cons {c : CodePoint} (hc : c.isDigit = false) (t : Text) :
    EndsDigits (c :: t) := by
  intro d r he
  obtain ⟨rfl, -⟩ := List.cons.inj he
  exact hc

theorem endsDigits_exponentText (e : Option (Bool × Text)) {rest : Text} (hr : EndsDigits rest) :
    EndsDigits (exponentText e ++ rest) := by
  cases e with
  | none => exact hr
  | some p => exact endsDigits_cons (by decide) _

theorem endsDigits_fractionText (fs : Text) {rest : Text} (hr : EndsDigits rest) :
    EndsDigits (fractionText fs ++ rest) := by
  cases fs with
  | nil => exact hr
  | cons c fs => exact endsDigits_cons (by decide) _

theorem takeExponent_exponentText {e : Option (Bool × Text)} {rest : Text}
    (he : ∀ negative ds, e = some (negative, ds) → ds ≠ [] ∧ ∀ c ∈ ds, c.isDigit = true)
    (hr : EndsNumber rest) :
    takeExponent (exponentText e ++ rest) = (e.map fun p => power (some p), rest) := by
  cases e with
  | none => exact takeExponent_of_endsNumber hr
  | some p =>
    obtain ⟨negative, ds⟩ := p
    obtain ⟨hne, hd⟩ := he negative ds rfl
    have hempty : ds.isEmpty = false := by
      cases ds with
      | nil => exact absurd rfl hne
      | cons c ds => rfl
    have hsign : takeSign ((if negative then CodePoint.scalar '-' else CodePoint.scalar '+')
        :: (ds ++ rest)) = (negative, ds ++ rest) := by
      cases negative with
      | true => rfl
      | false => rfl
    show takeExponent (CodePoint.scalar 'e' ::
      (if negative then CodePoint.scalar '-' else CodePoint.scalar '+') :: (ds ++ rest)) = _
    unfold takeExponent
    simp only [true_or, if_true, hsign, spanDigits_append hd hr.endsDigits, hempty,
      Bool.false_eq_true, if_false]
    rfl

theorem takeFraction_fractionText {fs : Text} (hf : ∀ c ∈ fs, c.isDigit = true)
    (e : Option (Bool × Text)) {rest : Text} (hr : EndsNumber rest) :
    takeFraction (fractionText fs ++ (exponentText e ++ rest)) = (fs, exponentText e ++ rest) := by
  cases fs with
  | nil =>
    cases e with
    | none => exact takeFraction_of_endsNumber hr
    | some p =>
      show takeFraction (CodePoint.scalar 'e' :: _) = _
      unfold takeFraction
      split
      · rename_i r he
        exact absurd (List.cons.inj he).1 (by decide)
      · rfl
  | cons c fs =>
    have hspan := spanDigits_append hf (endsDigits_exponentText e hr.endsDigits)
    show takeFraction (CodePoint.scalar '.' :: (c :: fs ++ (exponentText e ++ rest))) = _
    unfold takeFraction
    simp only [hspan, List.isEmpty_cons, Bool.false_eq_true, if_false]

/-- A number that is no integer is read as the float nearest to what it spells. -/
theorem readNumber?_spelling {s : Spelling} (hs : s.IsFloat) (negative : Bool) {rest : Text}
    (hr : EndsNumber rest) :
    readNumber? (signText negative ++ s.text ++ rest) =
      some (.float (s.decimal.toBinary64 negative), rest) := by
  have htext : signText negative ++ s.text ++ rest =
      signText negative ++ s.whole ++
        (fractionText s.fraction ++ (exponentText s.exponent ++ rest)) := by
    simp only [Spelling.text, List.append_assoc]
  have hfloat :
      (s.fraction.isEmpty && (s.exponent.map fun p => power (some p)).isNone) = false := by
    rcases hs.ne_int with h | h
    · cases hf : s.fraction with
      | nil => exact absurd hf h
      | cons c fs => rfl
    · cases he : s.exponent with
      | none => exact absurd he h
      | some p => exact Bool.and_false _
  have hpower : (s.exponent.map fun p => power (some p)).getD 0 = power s.exponent := by
    cases s.exponent with
    | none => rfl
    | some p => rfl
  rw [htext, readNumber?_append hs.whole
    (endsDigits_fractionText _ (endsDigits_exponentText _ hr.endsDigits)),
    takeFraction_fractionText hs.fraction _ hr]
  simp only [takeExponent_exponentText hs.exponent hr, hfloat, hpower, Bool.false_eq_true, if_false]
  rfl

/-! ## Layouts -/

theorem isDigit_of_mem_replicate {k : Nat} {c : CodePoint}
    (h : c ∈ List.replicate k (CodePoint.scalar '0')) : c.isDigit = true := by
  rw [List.eq_of_mem_replicate h]
  decide

theorem digitsValue_replicate (n k : Nat) :
    digitsValue n (List.replicate k (CodePoint.scalar '0')) = n * tenTo k := by
  induction k generalizing n with
  | zero => exact (Nat.mul_one n).symm
  | succ k ih =>
    rw [List.replicate_succ]
    show digitsValue (10 * n + 0) (List.replicate k (CodePoint.scalar '0')) = _
    rw [ih, tenTo_succ, Nat.add_zero, Nat.mul_comm 10 n, Nat.mul_assoc]

/-- The first digits of a number other than zero, and zeros. -/
theorem isWhole_take {n k : Nat} (hn : n ≠ 0) (hk : 0 < k) (zeros : Nat) :
    IsWhole ((Text.ofNat n).take k ++ List.replicate zeros (CodePoint.scalar '0')) := by
  obtain ⟨d, ds, hds⟩ := List.exists_cons_of_ne_nil (Text.ofNat_ne_nil n)
  obtain ⟨k, rfl⟩ : ∃ m, k = m + 1 := ⟨k - 1, by omega⟩
  refine ⟨?_, ?_, ?_⟩
  · rw [hds]
    simp
  · intro c hc
    rcases List.mem_append.1 hc with hc | hc
    · exact Text.isDigit_of_mem_ofNat (List.mem_of_mem_take hc)
    · exact isDigit_of_mem_replicate hc
  · intro r hr
    rw [hds, List.take_succ_cons, List.cons_append] at hr
    obtain ⟨rfl, -⟩ := List.cons.inj hr
    obtain rfl := Text.ofNat_eq_zero_cons hds
    exact absurd (Text.ofNat_injective (hds.trans rfl : Text.ofNat n = Text.ofNat 0)) hn

/-- A layout of a decimal: parts whose number rounds to what the decimal rounds to. -/
def Spells (t : Text) (d : Decimal) : Prop :=
  ∃ s : Spelling, s.text = t ∧ s.IsFloat ∧
    ∀ negative, s.decimal.toBinary64 negative = d.toBinary64 negative

section

variable {d : Decimal} {lead : Int}

theorem length_ofNat_pos (n : Nat) : 0 < (Text.ofNat n).length :=
  List.length_pos_iff.2 (Text.ofNat_ne_nil n)

/-- Zeros stand between the point and the digits. -/
theorem spells_positional_of_neg
    (hlead : lead = ((Text.ofNat d.digits).length : Int) - 1 + d.exponent)
    (hneg : lead < 0) :
    Spells (NumberLayout.canonical.positional (Text.ofNat d.digits) lead) d := by
  obtain ⟨k, hk⟩ : ∃ k, k = (-lead).toNat - 1 := ⟨_, rfl⟩
  have hlen := length_ofNat_pos d.digits
  refine ⟨⟨[CodePoint.scalar '0'],
    List.replicate k (CodePoint.scalar '0') ++ Text.ofNat d.digits, none⟩, ?_, ⟨?_, ?_, ?_, ?_⟩, ?_⟩
  · obtain ⟨c, fs, hfs⟩ := List.exists_cons_of_ne_nil
      (fun h => Text.ofNat_ne_nil d.digits (List.append_eq_nil_iff.1 h).2 :
        List.replicate k (CodePoint.scalar '0') ++ Text.ofNat d.digits ≠ [])
    unfold NumberLayout.positional
    simp only [if_pos hneg, ← hk, Spelling.text, exponentText, List.append_nil]
    rw [hfs, fractionText]
    · rw [← hfs]
      rfl
    · exact List.cons_ne_nil _ _
  · exact isWhole_ofNat 0
  · intro c hc
    rcases List.mem_append.1 hc with hc | hc
    · exact isDigit_of_mem_replicate hc
    · exact Text.isDigit_of_mem_ofNat hc
  · intro negative ds h
    cases h
  · left
    intro h
    exact Text.ofNat_ne_nil _ (List.append_eq_nil_iff.1 h).2
  · intro negative
    have hvalue : digitsValue (digitsValue 0 [CodePoint.scalar '0'])
        (List.replicate k (CodePoint.scalar '0') ++ Text.ofNat d.digits) = d.digits := by
      rw [digitsValue_append, digitsValue_replicate]
      show digitsValue (0 * tenTo k) (Text.ofNat d.digits) = d.digits
      rw [Nat.zero_mul, digitsValue_ofNat]
    have hexp : (0 : Int) - ((List.replicate k (CodePoint.scalar '0')
        ++ Text.ofNat d.digits).length : Int) = d.exponent := by
      rw [List.length_append, List.length_replicate]
      push_cast
      omega
    unfold Spelling.decimal power
    simp only [hvalue, hexp]

/-- The digits reach up to the point, with zeros after them, or beyond it. -/
theorem spells_positional_of_nonneg (hd : d.digits ≠ 0)
    (hlead : lead = ((Text.ofNat d.digits).length : Int) - 1 + d.exponent) (hnonneg : ¬ lead < 0) :
    Spells (NumberLayout.canonical.positional (Text.ofNat d.digits) lead) d := by
  obtain ⟨w, hw⟩ : ∃ w, w = lead.toNat + 1 := ⟨_, rfl⟩
  obtain ⟨ds, hds⟩ : ∃ ds, ds = Text.ofNat d.digits := ⟨_, rfl⟩
  have hwhole : ∀ zeros, IsWhole (ds.take w ++ List.replicate zeros (CodePoint.scalar '0')) := by
    intro zeros
    rw [hds]
    exact isWhole_take hd (by omega) zeros
  have hdigit : ∀ c ∈ ds, c.isDigit = true := by
    rw [hds]
    exact fun c hc => Text.isDigit_of_mem_ofNat hc
  have hvalue : digitsValue 0 ds = d.digits := by rw [hds, digitsValue_ofNat]
  rw [← hds] at hlead
  rw [← hds]
  unfold NumberLayout.positional
  simp only [if_neg hnonneg, ← hw]
  split
  · rename_i hempty
    rw [List.isEmpty_iff, List.drop_eq_nil_iff] at hempty
    refine ⟨⟨ds.take w ++ List.replicate (w - ds.length) (CodePoint.scalar '0'),
      [CodePoint.scalar '0'], none⟩, rfl, ⟨hwhole _, ?_, ?_, ?_⟩, ?_⟩
    · intro c hc
      rw [List.mem_singleton.1 hc]
      decide
    · intro negative es h
      cases h
    · exact Or.inl (List.cons_ne_nil _ _)
    · intro negative
      have hnumber : digitsValue (digitsValue 0 (ds.take w ++
          List.replicate (w - ds.length) (CodePoint.scalar '0'))) [CodePoint.scalar '0'] =
            d.digits * tenTo (w - ds.length + 1) := by
        rw [digitsValue_append, digitsValue_replicate, List.take_of_length_le hempty, hvalue,
          tenTo_succ, Nat.mul_left_comm]
        rfl
      have hexp : (0 : Int) - (([CodePoint.scalar '0'] : Text).length : Int)
          + ((w - ds.length + 1 : Nat) : Int) = d.exponent := by
        rw [List.length_singleton]
        push_cast
        omega
      unfold Spelling.decimal power
      simp only [hnumber]
      rw [Decimal.toBinary64_mul_tenTo, hexp]
  · rename_i hrest
    rw [List.isEmpty_iff, List.drop_eq_nil_iff] at hrest
    have hzeros : w - ds.length = 0 := by omega
    obtain ⟨c, fs, hfs⟩ := List.exists_cons_of_ne_nil
      (fun h => hrest (List.drop_eq_nil_iff.1 h) : ds.drop w ≠ [])
    refine ⟨⟨ds.take w ++ List.replicate 0 (CodePoint.scalar '0'), ds.drop w, none⟩, ?_,
      ⟨hwhole 0, ?_, ?_, ?_⟩, ?_⟩
    · simp only [Spelling.text, exponentText, List.append_nil, hzeros]
      rw [hfs, fractionText]
      exact List.cons_ne_nil _ _
    · exact fun c hc => hdigit c (List.mem_of_mem_drop hc)
    · intro negative es h
      cases h
    · left
      show ds.drop w ≠ []
      rw [hfs]
      exact List.cons_ne_nil _ _
    · intro negative
      have hnumber : digitsValue (digitsValue 0 (ds.take w ++
          List.replicate 0 (CodePoint.scalar '0'))) (ds.drop w) = d.digits := by
        rw [List.replicate_zero, List.append_nil, ← digitsValue_append, List.take_append_drop,
          hvalue]
      have hexp : (0 : Int) - ((ds.drop w).length : Int) = d.exponent := by
        rw [List.length_drop]
        omega
      unfold Spelling.decimal power
      simp only [hnumber, hexp]

/-- One digit stands before the point. -/
theorem spells_scientific (hd : d.digits ≠ 0)
    (hlead : lead = ((Text.ofNat d.digits).length : Int) - 1 + d.exponent) :
    Spells (NumberLayout.canonical.scientific (Text.ofNat d.digits) lead) d := by
  obtain ⟨ds, hds⟩ : ∃ ds, ds = Text.ofNat d.digits := ⟨_, rfl⟩
  have hdigit : ∀ c ∈ ds, c.isDigit = true := by
    rw [hds]
    exact fun c hc => Text.isDigit_of_mem_ofNat hc
  have hvalue : digitsValue 0 ds = d.digits := by rw [hds, digitsValue_ofNat]
  have hlen : 0 < ds.length := hds ▸ length_ofNat_pos d.digits
  have hwhole : IsWhole (ds.take 1) := by
    have := isWhole_take hd Nat.one_pos 0
    rwa [List.replicate_zero, List.append_nil, ← hds] at this
  rw [← hds] at hlead
  rw [← hds]
  obtain ⟨es, hes⟩ : ∃ es, es = List.replicate (NumberLayout.canonical.exponentWidth -
      (Text.ofNat lead.natAbs).length) (CodePoint.scalar '0') ++ Text.ofNat lead.natAbs := ⟨_, rfl⟩
  refine ⟨⟨ds.take 1, ds.drop 1, some (decide (lead < 0), es)⟩, ?_, ⟨hwhole, ?_, ?_, ?_⟩, ?_⟩
  · unfold NumberLayout.scientific
    simp only [Spelling.text, exponentText, decide_eq_true_eq]
    have hfraction : fractionText (ds.drop 1) =
        if ds.length ≤ 1 then [] else CodePoint.scalar '.' :: ds.drop 1 := by
      split
      · rename_i hone
        rw [List.drop_eq_nil_iff.2 hone]
        rfl
      · rename_i hmany
        obtain ⟨c, fs, hfs⟩ := List.exists_cons_of_ne_nil
          (fun h => hmany (List.drop_eq_nil_iff.1 h) : ds.drop 1 ≠ [])
        rw [hfs, fractionText]
        exact List.cons_ne_nil _ _
    rw [hfraction, hes, List.append_assoc]
    rfl
  · exact fun c hc => hdigit c (List.mem_of_mem_drop hc)
  · intro negative ts h
    cases h
    constructor
    · intro h
      rw [hes, List.append_eq_nil_iff] at h
      exact Text.ofNat_ne_nil _ h.2
    · intro c hc
      rw [hes] at hc
      rcases List.mem_append.1 hc with hc | hc
      · exact isDigit_of_mem_replicate hc
      · exact Text.isDigit_of_mem_ofNat hc
  · exact Or.inr (Option.some_ne_none _)
  · intro negative
    have hnumber : digitsValue (digitsValue 0 (ds.take 1)) (ds.drop 1) = d.digits := by
      rw [← digitsValue_append, List.take_append_drop, hvalue]
    have hsize : digitsValue 0 es = lead.natAbs := by
      rw [hes, digitsValue_append, digitsValue_replicate, Nat.zero_mul, digitsValue_ofNat]
    have hpower : (if decide (lead < 0) = true then -((digitsValue 0 es : Nat) : Int)
        else (digitsValue 0 es : Nat)) - ((ds.drop 1).length : Int) = d.exponent := by
      rw [hsize, List.length_drop]
      by_cases h : lead < 0
      · rw [if_pos (decide_eq_true h)]
        omega
      · rw [if_neg (by simpa using h)]
        omega
    unfold Spelling.decimal power
    simp only [hnumber, hpower]

/-- The canonical layout of a decimal other than zero spells it. -/
theorem spells_writeDecimal (hd : d.digits ≠ 0) :
    Spells (NumberLayout.canonical.writeDecimal d) d := by
  unfold NumberLayout.writeDecimal
  simp only [if_neg hd]
  split
  · by_cases hneg : ((Text.ofNat d.digits).length : Int) - 1 + d.exponent < 0
    · exact spells_positional_of_neg rfl hneg
    · exact spells_positional_of_nonneg hd rfl hneg
  · exact spells_scientific hd rfl

end

/-! ## Floats -/

/-- What is read where a float was printed. -/
def numberValue (x : Binary64) : Value :=
  if x.isIntegral && x.truncate.natAbs < tenTo 21 then .int x.truncate else .float x

theorem digits_shortest_ne_zero {x : Binary64} (hx : x.isFinite = true) (h0 : x.isZero = false) :
    x.shortest.digits ≠ 0 := by
  intro h
  have hread := x.toBinary64_shortest hx h0
  unfold Decimal.toBinary64 at hread
  simp only [if_pos h] at hread
  rw [← hread] at h0
  cases h0

theorem write_of_isFinite {x : Binary64} (hx : x.isFinite = true) :
    NumberLayout.canonical.write x =
      signText x.negative ++ NumberLayout.canonical.writeDecimal x.shortest := by
  have hexp : x.exponent.val ≠ 0x7FF := by
    intro h
    simp only [Binary64.isFinite, h] at hx
    cases hx
  have hnan : x.isNaN = false := by
    simp only [Binary64.isNaN, beq_eq_false_iff_ne.2 hexp, Bool.false_and]
  have hinf : x.isInfinite = false := by
    simp only [Binary64.isInfinite, beq_eq_false_iff_ne.2 hexp, Bool.false_and]
  unfold NumberLayout.write
  simp only [hnan, hinf, Bool.false_eq_true, if_false]
  rfl

/-- A finite float other than zero is read back from its shortest decimal. -/
theorem readNumber?_write {x : Binary64} (hx : x.isFinite = true) (h0 : x.isZero = false)
    {rest : Text} (hr : EndsNumber rest) :
    readNumber? (NumberLayout.canonical.write x ++ rest) = some (.float x, rest) := by
  obtain ⟨s, hs, hfloat, hvalue⟩ := spells_writeDecimal (digits_shortest_ne_zero hx h0)
  rw [write_of_isFinite hx, ← hs, readNumber?_spelling hfloat x.negative hr, hvalue,
    x.toBinary64_shortest hx h0]

/-- Both zeros are printed as an integer. -/
theorem isZero_eq_false {x : Binary64}
    (h : ¬ (x.isIntegral && x.truncate.natAbs < tenTo 21) = true) : x.isZero = false := by
  by_contra h0
  obtain ⟨s, rfl⟩ := Binary64.exists_eq_zero (Bool.not_eq_false _ ▸ h0)
  cases s
  · exact h (by decide)
  · exact h (by decide)

theorem readNumber?_floatText {x : Binary64} (hx : x.isFinite = true) {rest : Text}
    (hr : EndsNumber rest) :
    readNumber? (floatText x ++ rest) = some (numberValue x, rest) := by
  unfold floatText numberValue
  rw [hx]
  simp only [Bool.not_true, Bool.false_eq_true, if_false]
  split
  · exact readNumber?_ofInt _ hr
  · rename_i hlarge
    exact readNumber?_write hx (isZero_eq_false hlarge) hr

/-- The number that a value is, without the sign of a zero. -/
def worth? : Value → Option ℚ
  | .int n => some n
  | .float x =>
    if x.isFinite then some ((if x.negative then -1 else 1) * ((x.ratio.1 : ℚ) / x.ratio.2))
    else none
  | _ => none

/-- What is read is the same number as what was printed. -/
theorem worth?_numberValue {x : Binary64} (hx : x.isFinite = true) :
    worth? (numberValue x) = worth? (.float x) := by
  unfold numberValue
  split
  · rename_i hint
    rw [Bool.and_eq_true] at hint
    unfold worth?
    simp only [if_pos hx, Binary64.truncate_eq_ratio hint.1]
  · rfl

/-! ## The shape of a number -/

/-- A printed number: a sign or none, digits, and what else numbers are written with. -/
def IsNumber (t : Text) : Prop :=
  ∃ negative ds tail, t = signText negative ++ ds ++ tail ∧ IsWhole ds ∧
    ∀ c ∈ tail, c.isDigit = true ∨ c ∈ (".e+-" : Text)

theorem isNumber_ofInt (n : Int) : IsNumber (Text.ofInt n) :=
  ⟨_, _, [], by rw [ofInt_eq, List.append_nil], isWhole_ofNat _,
    fun _ hc => absurd hc List.not_mem_nil⟩

theorem Spelling.IsFloat.isNumber_text {s : Spelling} (hs : s.IsFloat) (negative : Bool) :
    IsNumber (signText negative ++ s.text) := by
  refine ⟨negative, s.whole, _, (List.append_assoc _ _ _).symm, hs.whole, fun c hc => ?_⟩
  rcases List.mem_append.1 hc with hc | hc
  · cases hf : s.fraction with
    | nil =>
      rw [hf] at hc
      cases hc
    | cons d ds =>
      rw [hf] at hc
      rcases List.mem_cons.1 hc with rfl | hc
      · exact Or.inr (by decide)
      · exact Or.inl (hs.fraction c (by rw [hf]; exact hc))
  · cases he : s.exponent with
    | none =>
      rw [he] at hc
      cases hc
    | some p =>
      obtain ⟨b, ds⟩ := p
      rw [he] at hc
      rcases List.mem_cons.1 hc with rfl | hc
      · exact Or.inr (by decide)
      rcases List.mem_cons.1 hc with rfl | hc
      · cases b
        · exact Or.inr (by decide)
        · exact Or.inr (by decide)
      · exact Or.inl ((hs.exponent b ds he).2 c hc)

/-- What is no number is printed as null. -/
theorem floatText_of_not_isFinite {x : Binary64} (hx : ¬ x.isFinite = true) :
    floatText x = "null" := by
  unfold floatText
  rw [Bool.eq_false_iff.2 hx]
  rfl

theorem isNumber_floatText {x : Binary64} (hx : x.isFinite = true) : IsNumber (floatText x) := by
  unfold floatText
  rw [hx]
  simp only [Bool.not_true, Bool.false_eq_true, if_false]
  split
  · exact isNumber_ofInt _
  · rename_i hlarge
    obtain ⟨s, hs, hfloat, -⟩ :=
      spells_writeDecimal (digits_shortest_ne_zero hx (isZero_eq_false hlarge))
    rw [write_of_isFinite hx, ← hs]
    exact hfloat.isNumber_text x.negative

end JsLiteral.Json
