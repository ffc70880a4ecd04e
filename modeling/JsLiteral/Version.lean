import JsLiteral.Text.Blank
import JsLiteral.Text.Breaks

/-!
# Versions

The version of the program is that of the installed distribution; without one it is the
first `version` line of the project file, and `0.0.0` as the last resort.
-/

namespace JsLiteral.Version

/-- The version of this library. -/
def current : Text := "0.3.0"

def fallback : Text := "0.0.0"

/-- The key and the value of a line with an equals sign. -/
def assignment? (line : Text) : Option (Text × Text) :=
  if line.contains '=' then
    let other (c : CodePoint) : Bool := c != '='
    some (line.takeWhile other, (line.dropWhile other).drop 1)
  else none

/-- What a `version` line says. -/
def lineVersion? (line : Text) : Option Text :=
  match assignment? line with
  | some (key, value) => if key.trim = Text.ofString "version" then some value else none
  | none => none

/-- A value without blanks and quotes around it. -/
def unquote (value : Text) : Text :=
  Text.strip (fun c => c == '"' || c == '\'') value.trim

/-- The version a project file gives: its first `version` line counts, even if empty. -/
def ofProject? (project : Text) : Option Text :=
  match (Text.breakLines (Text.normalizeBreaks project)).findSome? lineVersion? with
  | some value => if (unquote value).isEmpty then none else some (unquote value)
  | none => none

/-- The version from the installed one and the text of the project file. -/
def resolve (installed project : Option Text) : Text :=
  match installed with
  | some v => v
  | none => (project.bind ofProject?).getD fallback

end JsLiteral.Version
