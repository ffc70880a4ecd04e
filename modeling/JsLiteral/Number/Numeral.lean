import JsLiteral.Number.Decimal
import JsLiteral.Text.Blank
import JsLiteral.Text.Decimal

/-!
# Numerals in settings and arguments

The grammar of a number in a setting: blanks around it, an optional sign, digits of any
script with single underscores between them, and for fractional numbers a point, an
exponent, or one of the words `inf`, `infinity` and `nan` in any case. An argument has the
digits `0` to `9` only, but zeros and underscores may come first and zeros after a point.

    readInteger "  -1_000 " = some (-1000)
    readArgument " -0__4.00" = some (-4)
    readBinary64 "1e400" = some (infinity false)
-/

namespace JsLiteral.Numeral

/-- Digits of other scripts become the digits `0` to `9`, blanks of other scripts spaces;
ASCII stays as it is. -/
def simplify (t : Text) : Text := t.map fun (c : CodePoint) =>
  if c.toNat < 0x7F then c
  else if c.isNumberBlank then ' '
  else match c.decimal? with
    | some d => CodePoint.ofNat (0x30 + d)
    | none => c

/-- A simplified numeral without the blanks around it. -/
def prepare (t : Text) : Text := Text.strip CodePoint.isNumberBlank (simplify t)

/-- The sign a numeral starts with and what follows it. -/
def takeSign : Text → Bool × Text
  | .scalar '-' :: t => (true, t)
  | .scalar '+' :: t => (false, t)
  | t => (false, t)

/-- Removes underscores that stand between two digits; `none` if one stands elsewhere.
`afterDigit` tells whether a digit came just before. -/
def joinDigits : Bool → Text → Option Text
  | _, [] => some []
  | afterDigit, .scalar '_' :: c :: t =>
    if afterDigit && c.isDigit then (joinDigits true t).map (c :: ·) else none
  | _, c :: t => if c = '_' then none else (joinDigits c.isDigit t).map (c :: ·)

/-- The natural number that digits spell, read after `n`. -/
def digitsValue (n : Nat) (ds : Text) : Nat :=
  ds.foldl (fun n (c : CodePoint) => 10 * n + (c.digit?.getD 0)) n

/-- Reads an integer. -/
def readInteger (t : Text) : Option Int := do
  let (negative, t) := takeSign (prepare t)
  let ds ← joinDigits false t
  if !ds.isEmpty && ds.all CodePoint.isDigit then
    let n := digitsValue 0 ds
    some (if negative then -(n : Int) else n)
  else none

/-- A numeral from its first digit other than zero on. Zeros and underscores before it go, all
but the last one if a point or nothing follows them; `last` is the one just read. -/
def dropZeros (last : CodePoint) : Text → Option Text
  | [] => some [last]
  | c :: t =>
    if c = '0' ∨ c = '_' then dropZeros c t
    else if c.isDigit then some (c :: t)
    else if c = '.' then some (last :: c :: t)
    else none

/-- A numeral without a point that zeros alone follow. -/
def dropFraction (t : Text) : Text :=
  let whole := t.takeWhile fun (c : CodePoint) => c != '.'
  if (t.drop (whole.length + 1)).all (· == '0') then whole else t

/-- Reads an integer that is given as an argument. -/
def readArgument (t : Text) : Option Int := do
  let (negative, t) := takeSign (Text.strip CodePoint.isNumberBlank t)
  let t ← match t with
    | [] => none
    | c :: rest =>
      if c = '0' then dropZeros c rest else if c.isDigit then some (c :: rest) else none
  let ds ← joinDigits false (dropFraction t)
  if !ds.isEmpty && ds.all CodePoint.isDigit then
    let n := digitsValue 0 ds
    some (if negative then -(n : Int) else n)
  else none

/-- Reads `digits . digits e digits` without a sign; at least one digit stands before the
exponent, and an exponent has at least one. -/
def readDecimal (t : Text) : Option Decimal := do
  let whole := t.takeWhile CodePoint.isDigit
  let t := t.dropWhile CodePoint.isDigit
  let (fraction, t) := match t with
    | .scalar '.' :: r => (r.takeWhile CodePoint.isDigit, r.dropWhile CodePoint.isDigit)
    | _ => ([], t)
  if whole.isEmpty && fraction.isEmpty then none
  else
    let digits := digitsValue (digitsValue 0 whole) fraction
    let places : Int := (fraction.length : Int)
    match t with
    | [] => some ⟨digits, -places⟩
    | c :: r =>
      if c = 'e' ∨ c = 'E' then
        let (negative, r) := takeSign r
        if !r.isEmpty && r.all CodePoint.isDigit then
          let n : Int := digitsValue 0 r
          some ⟨digits, (if negative then -n else n) - places⟩
        else none
      else none

/-- An ASCII letter in lower case. -/
def lowered (c : CodePoint) : CodePoint :=
  if 0x41 ≤ c.toNat ∧ c.toNat ≤ 0x5A then CodePoint.ofNat (c.toNat + 0x20) else c

/-- Reads a binary64 number. -/
def readBinary64 (t : Text) : Option Binary64 := do
  let (negative, t) := takeSign (← joinDigits false (prepare t))
  let word := t.map lowered
  if word = Text.ofString "inf" ∨ word = Text.ofString "infinity" then
    some (Binary64.infinity negative)
  else if word = Text.ofString "nan" then some Binary64.nan
  else (readDecimal t).map (·.toBinary64 negative)

end JsLiteral.Numeral
