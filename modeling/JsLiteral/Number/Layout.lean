import JsLiteral.Number.Decimal
import JsLiteral.Text

/-!
# Layouts of decimals

How the digits of a decimal are laid out: positionally between two orders of magnitude,
else as one digit, a point, the others and a power of ten.
-/

namespace JsLiteral

/-- The decisions of a number format. -/
structure NumberLayout where
  /-- The least and the greatest power of ten of the leading digit written positionally. -/
  leastPositional : Int
  greatestPositional : Int
  /-- Whether an integral value written positionally ends in `.0`. -/
  pointZero : Bool
  /-- How many digits an exponent has at least. -/
  exponentWidth : Nat
  notANumber : Text
  infinity : Text

namespace NumberLayout

/-- Numbers are positional from `0.0001` to below `10 ^ 16` and always show a point or an
exponent; an exponent has a sign and two digits. -/
def canonical : NumberLayout :=
  ⟨-4, 15, true, 2, "nan", "inf"⟩

/-- The digits `ds` with the leading one at the power of ten `lead`, written positionally. -/
def positional (layout : NumberLayout) (ds : Text) (lead : Int) : Text :=
  let zero : CodePoint := '0'
  if lead < 0 then
    zero :: .scalar '.' :: List.replicate ((-lead).toNat - 1) zero ++ ds
  else
    let whole := lead.toNat + 1
    let integer := ds.take whole ++ List.replicate (whole - ds.length) zero
    let rest := ds.drop whole
    if rest.isEmpty then integer ++ (if layout.pointZero then (".0" : Text) else [])
    else integer ++ (.scalar '.' :: rest)

/-- The digits `ds` with the leading one at the power of ten `lead`, with an exponent. -/
def scientific (layout : NumberLayout) (ds : Text) (lead : Int) : Text :=
  let size := Text.ofNat lead.natAbs
  let sign : CodePoint := if lead < 0 then '-' else '+'
  ds.take 1 ++ (if ds.length ≤ 1 then [] else .scalar '.' :: ds.drop 1)
    ++ (.scalar 'e' :: sign :: List.replicate (layout.exponentWidth - size.length) '0' ++ size)

/-- A decimal without sign. -/
def writeDecimal (layout : NumberLayout) (d : Decimal) : Text :=
  let ds := Text.ofNat d.digits
  let lead : Int := if d.digits = 0 then 0 else (ds.length : Int) - 1 + d.exponent
  if layout.leastPositional ≤ lead ∧ lead ≤ layout.greatestPositional then
    layout.positional ds lead
  else layout.scientific ds lead

/-- A number by its shortest decimal. -/
def write (layout : NumberLayout) (x : Binary64) : Text :=
  if x.isNaN then layout.notANumber
  else
    let sign : Text := if x.negative then ['-'] else []
    if x.isInfinite then sign ++ layout.infinity
    else sign ++ layout.writeDecimal x.shortest

end NumberLayout

end JsLiteral
