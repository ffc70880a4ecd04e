import JsLiteral.Template.Literal

/-!
# Reading template literals

The bodies of the template literals of a source text, in order. A backtick opens a literal,
the next one that no backslash precedes closes it; in a body a backslash before a backtick,
a dollar sign or a backslash goes. Code outside literals holds no other backticks.
-/

namespace JsLiteral.Template

/-- The text a raw body stands for. -/
def cook : Text → Text
  | [] => []
  | .scalar '\\' :: c :: t =>
    if c = backtick ∨ c = '$' ∨ c = '\\' then c :: cook t else '\\' :: cook (c :: t)
  | c :: t => c :: cook t

/-- Reads on outside a literal (`none`) or inside one whose raw body so far is given, last
code point first. A literal that is never closed is none. -/
def scan : Option Text → Text → List Text
  | _, [] => []
  | none, c :: t => if c = backtick then scan (some []) t else scan none t
  | some body, .scalar '\\' :: c :: t => scan (some (c :: '\\' :: body)) t
  | some body, c :: t =>
    if c = backtick then cook body.reverse :: scan none t
    else if c = '\\' then []
    else scan (some (c :: body)) t

/-- The bodies of all template literals, cooked. -/
def bodies (code : Text) : List Text := scan none code

end JsLiteral.Template
