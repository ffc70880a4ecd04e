import JsLiteral.Text

/-!
# UTF-8

The bytes of a text without lone surrogates, and the text that well-formed bytes spell.
A leading byte fixes how many bytes follow and, for the first of them, a range that rules
out overlong forms, surrogates and numbers past the last code point.

Bytes that spell nothing can be kept in a text: the byte `b` becomes the surrogate
`0xDC00 + b`, and `encodeBytes?` takes such a surrogate for its byte.
-/

namespace JsLiteral.Text

/-! ## Encoding -/

/-- The bytes of one scalar value. -/
def encodeChar (c : Char) : List UInt8 :=
  let n := c.toNat
  let tail (shift : Nat) : UInt8 := (0x80 + (n >>> shift) % 0x40).toUInt8
  if n < 0x80 then [n.toUInt8]
  else if n < 0x800 then [(0xC0 + n / 0x40).toUInt8, tail 0]
  else if n < 0x10000 then [(0xE0 + n / 0x1000).toUInt8, tail 6, tail 0]
  else [(0xF0 + n / 0x40000).toUInt8, tail 12, tail 6, tail 0]

/-- The UTF-8 bytes of a text; a lone surrogate has none. -/
def encode? (t : Text) : Option (List UInt8) :=
  (t.mapM fun (c : CodePoint) => c.toChar?.map encodeChar).map List.flatten

/-! ## Decoding -/

/-- A character begun: how many bytes are owed, the range of the next one, and the bits
read so far. -/
structure Pending where
  owed : Nat
  low : Nat
  high : Nat
  bits : Nat

/-- What the leading byte `b` begins. -/
def leading? (b : Nat) : Option Pending :=
  if 0xC2 ≤ b ∧ b ≤ 0xDF then some ⟨1, 0x80, 0xBF, b - 0xC0⟩
  else if b = 0xE0 then some ⟨2, 0xA0, 0xBF, 0⟩
  else if b = 0xED then some ⟨2, 0x80, 0x9F, 0xD⟩
  else if 0xE1 ≤ b ∧ b ≤ 0xEF then some ⟨2, 0x80, 0xBF, b - 0xE0⟩
  else if b = 0xF0 then some ⟨3, 0x90, 0xBF, 0⟩
  else if b = 0xF4 then some ⟨3, 0x80, 0x8F, 4⟩
  else if 0xF1 ≤ b ∧ b ≤ 0xF3 then some ⟨3, 0x80, 0xBF, b - 0xF0⟩
  else none

/-- Reads bytes one after the other; `acc` holds the text so far, last code point first. -/
def decodeFrom : Option Pending → Text → List UInt8 → Option Text
  | none, acc, [] => some acc.reverse
  | some _, _, [] => none
  | none, acc, b :: bytes =>
    if b.toNat < 0x80 then decodeFrom none (.ofNat b.toNat :: acc) bytes
    else match leading? b.toNat with
      | some p => decodeFrom (some p) acc bytes
      | none => none
  | some p, acc, b :: bytes =>
    if p.low ≤ b.toNat ∧ b.toNat ≤ p.high then
      let bits := p.bits * 0x40 + b.toNat % 0x40
      if p.owed ≤ 1 then decodeFrom none (.ofNat bits :: acc) bytes
      else decodeFrom (some ⟨p.owed - 1, 0x80, 0xBF, bits⟩) acc bytes
    else none

/-- The text that bytes spell, if they are well-formed. -/
def decode? (bytes : List UInt8) : Option Text := decodeFrom none [] bytes

/-! ## Bytes kept in a text -/

/-- The byte that a surrogate is kept for. -/
def keptByte? (c : CodePoint) : Option UInt8 :=
  if 0xDC80 ≤ c.toNat ∧ c.toNat ≤ 0xDCFF then some (c.toNat - 0xDC00).toUInt8 else none

/-- The bytes of a text in which surrogates may stand for bytes. -/
def encodeBytes? (t : Text) : Option (List UInt8) :=
  (t.mapM fun (c : CodePoint) => match keptByte? c with
    | some b => some [b]
    | none => c.toChar?.map encodeChar).map List.flatten

/-- The first character that bytes spell and how many bytes it takes. -/
def firstChar? (bytes : List UInt8) : Option (CodePoint × Nat) :=
  [1, 2, 3, 4].findSome? fun n => match decode? (bytes.take n) with
    | some [c] => some (c, n)
    | _ => none

/-- The text of any bytes: each byte that is part of no character is kept. The bytes of a
character read before are skipped. -/
def decodeBytes (skip : Nat) : List UInt8 → Text
  | [] => []
  | b :: bytes =>
    match skip with
    | skip + 1 => decodeBytes skip bytes
    | 0 => match firstChar? (b :: bytes) with
      | some (c, n) => c :: decodeBytes (n - 1) bytes
      | none => CodePoint.ofNat (0xDC00 + b.toNat) :: decodeBytes 0 bytes

end JsLiteral.Text
