import JsLiteral.Text.Blank

/-!
# Removing indentation

What the tag of a template literal does to its body: a blank first line and a blank last
line go, and every line loses the indentation that all lines with text share; a blank line
loses at most what it has.
-/

namespace JsLiteral.Template

/-- Lines without a blank first one. -/
def dropBlankFirst : List Text → List Text
  | [] => []
  | line :: rest => if line.isBlankLine then rest else line :: rest

/-- Lines without a blank last one. -/
def dropBlankLast (ls : List Text) : List Text := (dropBlankFirst ls.reverse).reverse

/-- The least indentation of the lines that are not blank. -/
def sharedIndent? (ls : List Text) : Option Nat :=
  ((ls.filter fun line => !line.isBlankLine).map fun line => line.indentation.length).min?

/-- A line without `width` leading spaces and tabs, or as many as it has. -/
def cut (width : Nat) (line : Text) : Text := line.drop (min width line.indentation.length)

/-- The text that an indented template body stands for. -/
def dedent (body : Text) : Text :=
  let ls := dropBlankLast (dropBlankFirst body.lines)
  match sharedIndent? ls with
  | none => Text.unlines ls
  | some width => Text.unlines (ls.map (cut width))

end JsLiteral.Template
