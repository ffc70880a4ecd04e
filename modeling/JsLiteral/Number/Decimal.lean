import JsLiteral.Number.Binary64

/-!
# Decimal numbers

A decimal is an integer times a power of ten. Reading one as a binary64 number rounds to
the nearest, and the shortest decimal of a number is the one with the fewest digits that
reads back: among those of that length the nearest to the value, a tie to the even digit.
Seventeen digits always suffice; the exact expansion stands in the code as the last resort.
-/

namespace JsLiteral

/-- The value `digits · 10 ^ exponent`. -/
structure Decimal where
  digits : Nat
  exponent : Int
deriving DecidableEq, Repr, Inhabited

/-- A power of ten. -/
def tenTo (e : Nat) : Nat := Nat.pow 10 e

/-- How many decimal digits a natural number has; zero has one. -/
def digitCount (n : Nat) : Nat := (Nat.toDigits 10 n).length

namespace Decimal

/-- The binary64 number nearest to a decimal. Decimals of 400 orders of magnitude and more
are infinite, those below the smallest number by far are zero. -/
def toBinary64 (negative : Bool) (d : Decimal) : Binary64 :=
  let order : Int := (digitCount d.digits : Int) + d.exponent
  if d.digits = 0 then Binary64.zero negative
  else if 400 < order then Binary64.infinity negative
  else if order < -400 then Binary64.zero negative
  else if 0 ≤ d.exponent then Binary64.ofRatio negative (d.digits * tenTo d.exponent.toNat) 1
  else Binary64.ofRatio negative d.digits (tenTo (-d.exponent).toNat)

/-- Trailing zeros go into the exponent, at most `fuel` of them. -/
def trim : Nat → Decimal → Decimal
  | 0, d => d
  | fuel + 1, d =>
    if d.digits ≠ 0 ∧ d.digits % 10 = 0 then trim fuel ⟨d.digits / 10, d.exponent + 1⟩ else d

/-- The distance between `n / d` and a decimal, times the common denominator. -/
def distance (n d : Nat) (x : Decimal) : Nat :=
  let (a, b) := if 0 ≤ x.exponent then (n, x.digits * tenTo x.exponent.toNat * d)
    else (n * tenTo (-x.exponent).toNat, x.digits * d)
  if a ≤ b then b - a else a - b

end Decimal

namespace Binary64

/-! ## Shortest decimals -/

/-- The exponent `k` with `10 ^ (k - 1) ≤ n / d < 10 ^ k`. -/
def decimalOrder (n d : Nat) : Int :=
  if d ≤ n then (digitCount (n / d) : Int)
  else
    let r := d / n
    let k : Int := 1 - (digitCount r : Int)
    if d % n = 0 ∧ r = tenTo (digitCount r - 1) then k + 1 else k

/-- The two points of the grid `10 ^ e` around `n / d`, the lower one first. -/
def neighbours (n d : Nat) (e : Int) : Decimal × Decimal :=
  let low := if 0 ≤ e then n / (d * tenTo e.toNat) else n * tenTo (-e).toNat / d
  (⟨low, e⟩, ⟨low + 1, e⟩)

/-- Of the two points of the grid `10 ^ e` around `x` the one that reads back; of two such
the nearer, a tie to the even digit. -/
def onGrid? (x : Binary64) (e : Int) : Option Decimal :=
  let (n, d) := x.ratio
  let (low, high) := neighbours n d e
  let lowHits := low.toBinary64 x.negative == x
  let highHits := high.toBinary64 x.negative == x
  if lowHits && highHits then
    let below := low.distance n d
    let above := high.distance n d
    some (if below < above then low
      else if above < below then high
      else if low.digits % 2 = 0 then low else high)
  else if lowHits then some low
  else if highHits then some high
  else none

/-- The exact decimal value of a finite number. -/
def exact (x : Binary64) : Decimal :=
  if 0 ≤ x.scale then ⟨x.significand <<< x.scale.toNat, 0⟩
  else ⟨x.significand * Nat.pow 5 (-x.scale).toNat, x.scale⟩

/-- The decimal with the fewest digits that reads back as the finite number `x`. -/
def shortest (x : Binary64) : Decimal :=
  if x.isZero then ⟨0, 0⟩
  else
    let (n, d) := x.ratio
    let order := decimalOrder n d
    let found := (List.range 17).findSome? fun i => x.onGrid? (order - (i + 1 : Nat))
    ((found.getD x.exact).trim 1100)

end Binary64

end JsLiteral
