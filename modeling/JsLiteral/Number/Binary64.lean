/-!
# Binary64 numbers

A 64-bit floating-point number as its three fields. A finite number has the value
± significand · 2 ^ scale, exactly; a quotient of natural numbers is rounded to the
nearest number, a tie to the even significand.

    ofBits (toBits x) = x                        (ofBits_toBits)
    roundQuotient n d is within half a unit      (roundQuotient_le, le_roundQuotient)
-/

namespace JsLiteral

/-- Sign, eleven bits of exponent and fifty-two of fraction. -/
structure Binary64 where
  negative : Bool
  exponent : Fin 0x800
  fraction : Fin 0x10000000000000
deriving DecidableEq, Repr, Inhabited

namespace Binary64

/-! ## Fields and bits -/

/-- The number with the pattern `n`, taken modulo `2 ^ 64`. -/
def ofBits (n : Nat) : Binary64 where
  negative := n / 0x8000000000000000 % 2 == 1
  exponent := ⟨n / 0x10000000000000 % 0x800, Nat.mod_lt _ (by decide)⟩
  fraction := ⟨n % 0x10000000000000, Nat.mod_lt _ (by decide)⟩

def toBits (x : Binary64) : Nat :=
  (if x.negative then 0x8000000000000000 else 0) + x.exponent.val * 0x10000000000000
    + x.fraction.val

theorem ofBits_toBits (x : Binary64) : ofBits x.toBits = x := by
  obtain ⟨s, e, f⟩ := x
  have he := e.isLt
  have hf := f.isLt
  cases s <;>
    · simp only [ofBits, toBits, Binary64.mk.injEq, Fin.ext_iff]
      refine ⟨?_, ?_, ?_⟩ <;> simp <;> omega

/-! ## Kinds -/

def isNaN (x : Binary64) : Bool := x.exponent.val == 0x7FF && x.fraction.val != 0

def isInfinite (x : Binary64) : Bool := x.exponent.val == 0x7FF && x.fraction.val == 0

def isFinite (x : Binary64) : Bool := x.exponent.val != 0x7FF

/-- Either zero. -/
def isZero (x : Binary64) : Bool := x.exponent.val == 0 && x.fraction.val == 0

def nan : Binary64 := ⟨false, ⟨0x7FF, by decide⟩, ⟨0x8000000000000, by decide⟩⟩

def infinity (negative : Bool) : Binary64 := ⟨negative, ⟨0x7FF, by decide⟩, ⟨0, by decide⟩⟩

def zero (negative : Bool) : Binary64 := ⟨negative, ⟨0, by decide⟩, ⟨0, by decide⟩⟩

/-! ## Values -/

/-- The significand of a finite number, the leading bit included. -/
def significand (x : Binary64) : Nat :=
  if x.exponent.val = 0 then x.fraction.val else 0x10000000000000 + x.fraction.val

/-- The power of two that the significand counts. -/
def scale (x : Binary64) : Int :=
  if x.exponent.val = 0 then -1074 else (x.exponent.val : Int) - 1075

/-- The absolute value of a finite number as a quotient of natural numbers. -/
def ratio (x : Binary64) : Nat × Nat :=
  if 0 ≤ x.scale then (x.significand <<< x.scale.toNat, 1)
  else (x.significand, 1 <<< (-x.scale).toNat)

/-- A finite number without a fractional part. -/
def isIntegral (x : Binary64) : Bool := x.isFinite && x.ratio.1 % x.ratio.2 == 0

/-- The integer part of a finite number, toward zero. -/
def truncate (x : Binary64) : Int :=
  let n := x.ratio.1 / x.ratio.2
  if x.negative then -(n : Int) else n

/-! ## Rounding -/

/-- `n / d` to the nearest natural number, a tie to the even one. -/
def roundQuotient (n d : Nat) : Nat :=
  let q := n / d
  let r := n % d
  if 2 * r < d then q
  else if d < 2 * r then q + 1
  else if q % 2 = 0 then q else q + 1

theorem roundQuotient_le {n d : Nat} (hd : 0 < d) : 2 * (roundQuotient n d * d) ≤ 2 * n + d := by
  have hn := Nat.div_add_mod n d
  have hr := Nat.mod_lt n hd
  have hc : n / d * d = d * (n / d) := Nat.mul_comm _ _
  unfold roundQuotient
  simp only
  split
  · omega
  · split
    · rw [Nat.add_mul, hc]; omega
    · split
      · omega
      · rw [Nat.add_mul, hc]; omega

theorem le_roundQuotient {n d : Nat} (hd : 0 < d) : 2 * n ≤ 2 * (roundQuotient n d * d) + d := by
  have hn := Nat.div_add_mod n d
  have hr := Nat.mod_lt n hd
  have hc : n / d * d = d * (n / d) := Nat.mul_comm _ _
  unfold roundQuotient
  simp only
  split
  · rw [hc]; omega
  · split
    · rw [Nat.add_mul, hc]; omega
    · split
      · rw [hc]; omega
      · rw [Nat.add_mul, hc]; omega

/-- The number with significand `m ≤ 2 ^ 53` and scale `q ≥ -1074`, or the infinity if it
is too large. -/
def ofSignificand (negative : Bool) (m : Nat) (q : Int) : Binary64 :=
  if m < 0x10000000000000 then
    ⟨negative, ⟨0, by decide⟩, ⟨m % 0x10000000000000, Nat.mod_lt _ (by decide)⟩⟩
  else
    let carried := decide (0x20000000000000 ≤ m)
    let e := (if carried then q + 1 else q) + 1075
    if e < 0x7FF then
      ⟨negative, ⟨e.toNat % 0x800, Nat.mod_lt _ (by decide)⟩,
        ⟨(if carried then 0 else m - 0x10000000000000) % 0x10000000000000,
          Nat.mod_lt _ (by decide)⟩⟩
    else infinity negative

/-- The scale at which `n / d` has a significand of 53 bits, but not below -1074. -/
def scaleFor (n d : Nat) : Int :=
  let guess : Int := (n.log2 : Int) - (d.log2 : Int) - 53
  let exceeds : Bool :=
    if 0 ≤ guess then d <<< (guess.toNat + 53) ≤ n else d <<< 53 ≤ n <<< (-guess).toNat
  max (-1074) (if exceeds then guess + 1 else guess)

/-- The number nearest to `n / d`, a tie to the even significand. -/
def ofRatio (negative : Bool) (n d : Nat) : Binary64 :=
  if n = 0 then zero negative
  else
    let q := scaleFor n d
    let m := if 0 ≤ q then roundQuotient n (d <<< q.toNat)
      else roundQuotient (n <<< (-q).toNat) d
    ofSignificand negative m q

end Binary64

end JsLiteral
