import JsLiteral.Text.Printable

/-!
# Texts quoted in messages

A text in a message stands between single quotes, or between double quotes if it holds a
single quote and no double one. A backslash stands before the quote and the backslash;
tab, line feed and carriage return are written as letters, other unprintable code points
by two, four or eight hexadecimal digits.
-/

namespace JsLiteral.Text

/-- The quote that `quoted` puts around a text. -/
def quoteMark (t : Text) : CodePoint :=
  if t.contains '\'' && !t.contains '"' then '"' else '\''

/-- One code point between quotes `mark`. -/
def quotedPoint (mark c : CodePoint) : Text :=
  if c = mark ∨ c = '\\' then ['\\', c]
  else if c = '\t' then ['\\', 't']
  else if c = '\n' then ['\\', 'n']
  else if c = '\r' then ['\\', 'r']
  else if c.isPrintable then [c]
  else if c.toNat < 0x100 then '\\' :: 'x' :: hex 2 c.toNat
  else if c.toNat < 0x10000 then '\\' :: 'u' :: hex 4 c.toNat
  else '\\' :: 'U' :: hex 8 c.toNat

/-- A text as messages quote it. -/
def quoted (t : Text) : Text :=
  let mark := t.quoteMark
  mark :: t.flatMap (quotedPoint mark) ++ [mark]

end JsLiteral.Text
