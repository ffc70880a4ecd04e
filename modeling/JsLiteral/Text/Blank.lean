import JsLiteral.Text.Search

/-!
# Blank code points

Three classes of blanks, each used where its rule is called for:

* `isBlank`: the code points with the White_Space property and the four separators
  U+001C to U+001F, 29 in all;
* `isScriptBlank`: these and the byte order mark, what a script engine trims;
* `isNumberBlank`: what may stand around a numeral: the White_Space property alone.

Indentation is narrower still: spaces and tabs.
-/

namespace JsLiteral

namespace CodePoint

/-- The White_Space property. -/
def hasWhiteSpace (c : CodePoint) : Bool :=
  let n := c.toNat
  (0x09 ≤ n && n ≤ 0x0D) || n == 0x20 || n == 0x85 || n == 0xA0 || n == 0x1680
    || (0x2000 ≤ n && n ≤ 0x200A) || n == 0x2028 || n == 0x2029 || n == 0x202F
    || n == 0x205F || n == 0x3000

def isBlank (c : CodePoint) : Bool :=
  c.hasWhiteSpace || (0x1C ≤ c.toNat && c.toNat ≤ 0x1F)

def isScriptBlank (c : CodePoint) : Bool := c.isBlank || c.toNat == 0xFEFF

def isNumberBlank (c : CodePoint) : Bool := c.hasWhiteSpace

/-- A space or a tab. -/
def isIndent (c : CodePoint) : Bool := c == ' ' || c == '\t'

theorem isBlank_of_isIndent {c : CodePoint} (h : c.isIndent = true) : c.isBlank = true := by
  simp only [isIndent, Bool.or_eq_true, beq_iff_eq] at h
  rcases h with rfl | rfl <;> rfl

end CodePoint

namespace Text

/-- A text without its blanks at both ends. -/
def trim (t : Text) : Text := strip CodePoint.isBlank t

/-- Holds nothing but blanks. -/
def isBlankLine (t : Text) : Bool := t.all CodePoint.isBlank

/-- The spaces and tabs a line starts with. -/
def indentation (line : Text) : Text := line.takeWhile CodePoint.isIndent

end Text

end JsLiteral
