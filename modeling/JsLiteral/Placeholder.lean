import JsLiteral.Text.Search
import JsLiteral.Template.Literal

/-!
# Placeholders

A placeholder stands in the code for a text that becomes a template literal: a token, the
marker followed by a number, between quotes of either kind. The first one found is
replaced, and the literal is aligned with the line it starts on.
-/

namespace JsLiteral.Placeholder

/-- The token with number `i`. -/
def token (marker : Text) (i : Nat) : Text := marker ++ Text.ofNat i

/-- A text between two marks. -/
def between (mark : CodePoint) (t : Text) : Text := mark :: (t ++ [mark])

/-- The first place where a token stands between double or single quotes, and the quoted
token that stands there. -/
def find? (token code : Text) : Option (Nat × Text) :=
  let double := between '"' token
  let single := between '\'' token
  match Text.find? double code, Text.find? single code with
  | some i, some j => if j < i then some (j, single) else some (i, double)
  | some i, none => some (i, double)
  | none, some j => some (j, single)
  | none, none => none

/-- The indentation of the line that position `start` of the code is on. -/
def indentAt (code : Text) (start : Nat) : Text :=
  Text.indentation (Text.lastLine (code.take start))

/-- The code with `length` code points at `start` replaced. -/
def splice (code : Text) (start length : Nat) (body : Text) : Text :=
  code.take start ++ body ++ code.drop (start + length)

end JsLiteral.Placeholder
