import JsLiteral.Json.Number
import JsLiteral.Json.Reader
import JsLiteral.Proofs.Text.Digits

/-!
# Numbers are read as they were printed

A reader takes as many digits as there are, so a number is read in whole if nothing follows
that could go on with it.

    readNumber? (Text.ofInt n ++ rest) = some (.int n, rest)     (readNumber?_ofInt)
-/

namespace JsLiteral.Json

open Text

/-- What follows a number does not go on with it. -/
def EndsNumber (rest : Text) : Prop :=
  ∀ c t, rest = c :: t → c.isDigit = false ∧ c ≠ '.' ∧ c ≠ 'e' ∧ c ≠ 'E'

/-- What follows digits is no digit. -/
def EndsDigits (rest : Text) : Prop := ∀ c t, rest = c :: t → c.isDigit = false

theorem EndsNumber.endsDigits {rest : Text} (h : EndsNumber rest) : EndsDigits rest :=
  fun c t he => (h c t he).1

/-! ## Parts of a number -/

theorem spanDigits_append {ds rest : Text} (hd : ∀ c ∈ ds, c.isDigit = true)
    (hr : EndsDigits rest) : spanDigits (ds ++ rest) = (ds, rest) := by
  induction ds with
  | nil =>
    cases rest with
    | nil => rfl
    | cons c t =>
      have hc := hr c t rfl
      simp only [spanDigits, List.nil_append, List.takeWhile_cons, List.dropWhile_cons, hc,
        Bool.false_eq_true, if_false]
  | cons d ds ih =>
    have hds := ih fun c hc => hd c (List.mem_cons_of_mem _ hc)
    have hd' := hd d List.mem_cons_self
    simp only [spanDigits, Prod.mk.injEq] at hds ⊢
    simp only [List.cons_append, List.takeWhile_cons, List.dropWhile_cons, hd', if_true, hds,
      and_self]

theorem takeFraction_of_endsNumber {rest : Text} (h : EndsNumber rest) :
    takeFraction rest = ([], rest) := by
  unfold takeFraction
  split
  · rename_i r
    exact absurd rfl (h _ r rfl).2.1
  · rfl

theorem takeExponent_of_endsNumber {rest : Text} (h : EndsNumber rest) :
    takeExponent rest = (none, rest) := by
  unfold takeExponent
  split
  · rename_i c r
    obtain ⟨-, -, he, hE⟩ := h c r rfl
    rw [if_neg]
    rintro (h | h)
    · exact he h
    · exact hE h
  · rfl

/-- The digits before a point: zero alone, or digits that start with another one. -/
structure IsWhole (ds : Text) : Prop where
  ne_nil : ds ≠ []
  isDigit : ∀ c ∈ ds, c.isDigit = true
  eq_zero : ∀ r, ds = CodePoint.scalar '0' :: r → r = []

/-- The minus sign of a negative number. -/
def signText (negative : Bool) : Text := if negative then [CodePoint.scalar '-'] else []

/-- A number is read part by part. -/
theorem readNumber?_append {negative : Bool} {whole t : Text} (hw : IsWhole whole)
    (ht : EndsDigits t) :
    readNumber? (signText negative ++ whole ++ t) =
      let (fraction, t) := takeFraction t
      let (exponent, t) := takeExponent t
      let n := Numeral.digitsValue (Numeral.digitsValue 0 whole) fraction
      if fraction.isEmpty && exponent.isNone then
        some (.int (if negative then -(n : Int) else n), t)
      else
        let d : Decimal := ⟨n, exponent.getD 0 - (fraction.length : Int)⟩
        some (.float (d.toBinary64 negative), t) := by
  obtain ⟨d, ds, rfl⟩ := List.exists_cons_of_ne_nil hw.ne_nil
  have hd := hw.isDigit d List.mem_cons_self
  have hminus : d ≠ '-' := by
    rintro rfl
    exact absurd hd (by decide)
  have hspan := spanDigits_append hw.isDigit ht
  rw [List.append_assoc, List.cons_append] at *
  unfold readNumber?
  split
  rename_i negative' t' hsign
  have hsign' : negative' = negative ∧ t' = d :: (ds ++ t) := by
    cases negative with
    | true =>
      cases hsign
      exact ⟨rfl, rfl⟩
    | false =>
      simp only [signText, Bool.false_eq_true, if_false, List.nil_append] at hsign
      split at hsign
      · rename_i he
        exact absurd (List.cons.inj he).1 hminus
      · cases hsign
        exact ⟨rfl, rfl⟩
  obtain ⟨rfl, rfl⟩ := hsign'
  split
  rename_i whole t' hwhole
  have hwhole' : whole = d :: ds ∧ t' = t := by
    split at hwhole
    · rename_i r he
      obtain ⟨rfl, rfl⟩ := List.cons.inj he
      cases hwhole
      rw [hw.eq_zero ds rfl]
      exact ⟨rfl, rfl⟩
    · rw [hspan] at hwhole
      cases hwhole
      exact ⟨rfl, rfl⟩
  obtain ⟨rfl, rfl⟩ := hwhole'
  rfl

/-! ## Integers -/

theorem isWhole_ofNat (n : Nat) : IsWhole (Text.ofNat n) where
  ne_nil := Text.ofNat_ne_nil n
  isDigit := fun _ hc => Text.isDigit_of_mem_ofNat hc
  eq_zero := fun _ h => Text.ofNat_eq_zero_cons h

theorem ofInt_eq (n : Int) : Text.ofInt n = signText (decide (n < 0)) ++ Text.ofNat n.natAbs := by
  cases n with
  | ofNat n => rfl
  | negSucc n =>
    rw [decide_eq_true (Int.negSucc_lt_zero n)]
    rfl

/-- An integer is read back. -/
theorem readNumber?_ofInt (n : Int) {rest : Text} (hr : EndsNumber rest) :
    readNumber? (Text.ofInt n ++ rest) = some (.int n, rest) := by
  rw [ofInt_eq, readNumber?_append (isWhole_ofNat _) hr.endsDigits,
    takeFraction_of_endsNumber hr]
  simp only [takeExponent_of_endsNumber hr, List.isEmpty_nil, Option.isNone_none, Bool.and_self,
    if_true, Numeral.digitsValue_nil, Numeral.digitsValue_ofNat, decide_eq_true_eq]
  split
  · rename_i hn
    congr
    omega
  · rename_i hn
    congr
    omega

end JsLiteral.Json
