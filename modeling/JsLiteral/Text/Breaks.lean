import JsLiteral.Text

/-!
# Line breaks

Two ways to break a text: every line end becomes a line feed when a file is read as text,
and a text is cut at every mandatory break when it is read line by line.
-/

namespace JsLiteral.Text

/-- A carriage return, alone or before a line feed, becomes a line feed. -/
def normalizeBreaks : Text → Text
  | [] => []
  | .scalar '\r' :: .scalar '\n' :: t => newline :: normalizeBreaks t
  | .scalar '\r' :: t => newline :: normalizeBreaks t
  | c :: t => c :: normalizeBreaks t

/-- A code point that ends a line: line feed, vertical tab, form feed, carriage return,
U+001C to U+001E, U+0085, U+2028, U+2029. -/
def isBreak (c : CodePoint) : Bool :=
  let n := c.toNat
  (0x0A ≤ n && n ≤ 0x0D) || (0x1C ≤ n && n ≤ 0x1E) || n == 0x85 || n == 0x2028 || n == 0x2029

/-- The lines of a text whose line ends are single code points; a break at the very end
opens no line. -/
def breakLines (t : Text) : List Text :=
  let pieces := splitBy isBreak t
  if pieces.getLast? = some [] then pieces.dropLast else pieces

end JsLiteral.Text
