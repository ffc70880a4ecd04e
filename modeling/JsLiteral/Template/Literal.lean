import JsLiteral.Text.Blank

/-!
# Template literals

The source of a template literal of several lines: the tag, a backtick, the body one step
deeper than the line the literal starts on, and the closing backtick under that line's
indentation.

    reindent indent (a ++ b) = reindent indent a ++ reindent indent b     (reindent_append)
-/

namespace JsLiteral.Template

def backtick : CodePoint := '\x60'

/-- One step of indentation. -/
def step : Text := "  "

/-- A text as the raw body of a template: a backslash before each backslash and backtick,
and before a dollar sign that a brace follows. -/
def escape : Text → Text
  | [] => []
  | .scalar '$' :: .scalar '\x7b' :: t => '\\' :: '$' :: '\x7b' :: escape t
  | c :: t => if c = '\\' ∨ c = backtick then '\\' :: c :: escape t else c :: escape t

/-- Every line but the first goes one step deeper than `indent`. -/
def reindent (indent body : Text) : Text :=
  body.flatMap fun c => if c = Text.newline then c :: (indent ++ step) else [c]

/-- The literal for `body` on a line indented by `indent`. -/
def literal (opening closing indent body : Text) : Text :=
  opening ++ [backtick, Text.newline]
    ++ indent ++ step ++ reindent indent (escape body) ++ [Text.newline]
    ++ indent ++ [backtick] ++ closing

theorem reindent_append (indent a b : Text) :
    reindent indent (a ++ b) = reindent indent a ++ reindent indent b := by
  simp [reindent]

end JsLiteral.Template
