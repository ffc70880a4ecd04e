import JsLiteral.Number.Layout

/-!
# JSON numbers

An integer is written with all its digits. A float that is no number is null; one with an
integral value below `10 ^ 21` is written as an integer, so that neither zero has a sign;
any other is written by its shortest decimal.
-/

namespace JsLiteral.Json

/-- The JSON text of a float. -/
def floatText (x : Binary64) : Text :=
  if !x.isFinite then "null"
  else if x.isIntegral && x.truncate.natAbs < tenTo 21 then Text.ofInt x.truncate
  else NumberLayout.canonical.write x

/-- The JSON text of an integer. -/
def intText (n : Int) : Text := Text.ofInt n

end JsLiteral.Json
