import JsLiteral.Text

/-!
# JSON string literals

Two ways to write a text between double quotes. Both escape the quote, the backslash and
the control codes below U+0020. `quote` keeps every other scalar value and escapes lone
surrogates; `quoteAscii` escapes everything but printable ASCII, scalar values past U+FFFF
as surrogate pairs.
-/

namespace JsLiteral.Json

/-- A code unit as `\u` and four hexadecimal digits. -/
def unitEscape (n : Nat) : Text := '\\' :: 'u' :: Text.hex 4 n

/-- The escape of a code point that both ways escape. -/
def shortEscape? (c : CodePoint) : Option Text :=
  if c = '"' then some ['\\', '"']
  else if c = '\\' then some ['\\', '\\']
  else if c = '\n' then some ['\\', 'n']
  else if c = '\r' then some ['\\', 'r']
  else if c = '\t' then some ['\\', 't']
  else if c.toNat = 8 then some ['\\', 'b']
  else if c.toNat = 12 then some ['\\', 'f']
  else if c.toNat < 0x20 then some (unitEscape c.toNat)
  else none

def quotePoint (c : CodePoint) : Text :=
  match shortEscape? c with
  | some e => e
  | none => if c.isSurrogate then unitEscape c.toNat else [c]

/-- The JSON literal of a text; its scalar values stay as they are. -/
def quote (t : Text) : Text := '"' :: (t.flatMap quotePoint ++ [CodePoint.scalar '"'])

def quoteAsciiPoint (c : CodePoint) : Text :=
  match shortEscape? c with
  | some e => e
  | none =>
    let n := c.toNat
    if n < 0x7F then [c]
    else if n < 0x10000 then unitEscape n
    else
      unitEscape (0xD800 + (n - 0x10000) / 0x400) ++ unitEscape (0xDC00 + (n - 0x10000) % 0x400)

/-- The JSON literal of a text in ASCII. -/
def quoteAscii (t : Text) : Text := '"' :: (t.flatMap quoteAsciiPoint ++ [CodePoint.scalar '"'])

end JsLiteral.Json
