import JsLiteral.Formatter
import JsLiteral.Json.Stringify
import JsLiteral.Placeholder
import JsLiteral.Template.Eligible

/-!
# Conversions

A value becomes JavaScript source in five stages: it is printed as JSON with a placeholder
for each text that can be a template literal, the text before and after is added, markers
that stand there already are ruled out, the code is formatted, and each placeholder is
replaced by its literal. The first stage that fails decides the failure. The placeholders of
a conversion are `token marker 0`, `token marker 1` and so on, in the order of the texts.
-/

namespace JsLiteral

/-! ## Options and results -/

/-- The options of a conversion whose replacer keeps a state `σ`. -/
structure Options (σ : Type) where
  /-- Text before and after the value. -/
  opening : Text := "("
  closing : Text := ")"
  useFormatter : Bool := true
  /-- A mapping of formatter options, or something that counts as false. -/
  formatterOptions : Value := .null
  /-- Changes the code before it is formatted. -/
  beforeFormat : Option (Text → Except Failure Text) := none
  useTemplates : Bool := false
  /-- Text before and after the backticks of a literal. -/
  templateOpening : Text := " dedent"
  templateClosing : Text := ""
  /-- Sees each node before it is printed; null keeps what it sees. -/
  replacer : Option (Json.Replacer σ) := none
  space : Value := .null
  /-- Whether texts with backticks become literals; without it the settings decide. -/
  backticks : Option Bool := none

/-- Source code, and whether it has template literals. -/
structure Conversion where
  code : Text
  usedTemplates : Bool
deriving DecidableEq, Repr, Inhabited

/-- What the tokens of placeholders start with, a text that is not empty. -/
structure Marker where
  text : Text
  text_ne_nil : text ≠ []

namespace Marker

/-- A marker from a text. -/
def ofText (t : Text) : Except Failure Marker :=
  if h : t = [] then .error .emptyMarker else .ok ⟨t, h⟩

/-- The marker of converters that are given none. -/
def standard : Marker :=
  ⟨CodePoint.scalar 'M' :: Text.ofString "ARKER_b67575ae-db24-47f3-9c7d-e8b46b84228b_", by simp⟩

/-- The marker that is given, if it is not empty, else the standard one. -/
def orStandard : Option Text → Marker
  | none => standard
  | some t => match ofText t with
    | .ok m => m
    | .error _ => standard

theorem ofText_eq_error_iff {t : Text} {e : Failure} :
    ofText t = .error e ↔ t = [] ∧ e = .emptyMarker := by
  unfold ofText
  split
  · simp_all [eq_comm]
  · simp_all

theorem ofText_text (m : Marker) : ofText m.text = .ok m := by
  unfold ofText
  rw [dif_neg m.text_ne_nil]

theorem orStandard_text (m : Marker) : orStandard (some m.text) = m := by
  simp only [orStandard, ofText_text]

end Marker

/-- A marker and a formatter. -/
structure Converter where
  marker : Marker
  formatter : Formatter

/-! ## Placeholders for texts -/

/-- The state of a replacer and the texts that wait for their literals. -/
abbrev Pending (σ : Type) := σ × List Text

section

variable {σ : Type}

/-- Runs a step of the caller's replacer, which does not see the waiting texts. -/
def outside {α : Type} (step : Json.Walk σ α) : Json.Walk (Pending σ) α := fun s =>
  let (r, state) := step.run s.1
  (r, (state, s.2))

/-- What a node is shown as: the next token in place of an eligible text. -/
def tokenFor? (options : Options σ) (marker : Text) (backticks : Bool) (waiting : List Text) :
    Value → Option (Text × Text)
  | .text t =>
    if options.useTemplates && Template.isEligible backticks t then
      some (Placeholder.token marker waiting.length, t)
    else none
  | _ => none

/-- Shows an eligible text to the caller's replacer as a token; a text waits for its literal
if the token is what is printed. -/
def placing (options : Options σ) (marker : Text) (backticks : Bool) :
    Json.Replacer (Pending σ) := fun key node => do
  let waiting := (← get).2
  let token := tokenFor? options marker backticks waiting node
  let candidate := match token with
    | some (token, _) => .text token
    | none => node
  let result ← match options.replacer with
    | some f => outside (f key candidate)
    | none => pure .null
  let candidate := match result with
    | .null => candidate
    | v => v
  match token, candidate with
  | some (token, t), .text printed =>
    if printed = token then modify fun s => (s.1, s.2 ++ [t])
    pure candidate
  | _, _ => pure candidate

/-- How many containers a replacer may open beyond those of the value. -/
def spareDepth : Nat := 1000

/-- The JSON text of a value with placeholders; an absent root is `undefined`. -/
def skeleton (w : World) (options : Options σ) (marker : Text) (v : Value) :
    Json.Walk (Pending σ) Text := do
  let backticks := options.backticks.getD w.settings.allowsBackticks
  let text ← Json.stringify w.heap (placing options marker backticks) options.space v spareDepth
  pure (text.getD "undefined")

/-! ## From skeleton to code -/

/-- The members of formatter options; null and empty values have none. -/
def optionMembers (heap : Heap) (v : Value) : Except Failure Members :=
  if v.isTruthy heap then
    match v.container? heap with
    | some (.mapping _ ms) => .ok ms
    | _ => .error (.notMapping (v.fullTypeName heap))
  else .ok []

/-- Replaces the placeholder of one text by its literal. -/
def spliceOne (options : Options σ) (marker : Text) (code : Text) (i : Nat) (t : Text) :
    Task Text := do
  let token := Placeholder.token marker i
  match Placeholder.find? token code with
  | none => throw (.placeholderMissing token)
  | some (start, quoted) =>
    let indent := Placeholder.indentAt code start
    let literal := Template.literal options.templateOpening options.templateClosing indent t
    Task.note .debug .conversion
      (("Splicing " : Text) ++ token ++ (" at column " : Text) ++ Text.ofNat indent.length)
    pure (Placeholder.splice code start quoted.length literal)

/-- Replaces the placeholders of texts numbered from `i`. -/
def spliceFrom (options : Options σ) (marker : Text) : Nat → List Text → Text → Task Text
  | _, [], code => pure code
  | i, t :: rest, code => do
    let code ← spliceOne options marker code i t
    spliceFrom options marker (i + 1) rest code

/-- Formats code if the options ask for it. -/
def layOut (formatter : Formatter) (options : Options σ) (code : Text) : Task Text := do
  let code ← match options.beforeFormat with
    | some f => Task.ofExcept (f code)
    | none => pure code
  if options.useFormatter then
    let given ← Task.ofExcept (optionMembers (← get).heap options.formatterOptions)
    let members := Members.overlay [(parserKey, defaultParser)] given
    Task.wrapFailure .formatting (formatter code (.mapping .dict members))
  else pure code

/-- The code of a skeleton whose placeholders stand for the texts `waiting`. -/
def finish (c : Converter) (options : Options σ) (skeleton : Text) (waiting : List Text) :
    Task Conversion := do
  let marker := c.marker.text
  let code := options.opening ++ skeleton ++ options.closing
  if !waiting.isEmpty && waiting.length < Text.count marker code then
    throw (.markerCollision marker)
  Task.note .debug .conversion
    (("Serialized value with " : Text) ++ Text.ofNat waiting.length
      ++ (" multiline placeholder(s)" : Text))
  let code ← layOut c.formatter options code
  let code ← spliceFrom options marker 0 waiting code
  pure ⟨code, !waiting.isEmpty⟩

/-- Converts a value. The state of the caller's replacer goes on from `state`. -/
def Converter.convert (c : Converter) (options : Options σ) (v : Value) :
    ExceptT Failure (StateM (World × σ)) Conversion := fun (w, state) =>
  match (skeleton w options c.marker.text v).run (state, []) with
  | (.error e, (state, _)) => (.error e, (w, state))
  | (.ok text, (state, waiting)) =>
    let (r, w') := (finish c options text waiting).run w
    (r, (w', state))

/-- Converts a value with a converter that is made for it. -/
def convertOnce (marker : Option Text) (formatter : Formatter) (options : Options σ) (v : Value) :
    ExceptT Failure (StateM (World × σ)) Conversion :=
  Converter.convert ⟨Marker.orStandard marker, formatter⟩ options v

end

end JsLiteral
