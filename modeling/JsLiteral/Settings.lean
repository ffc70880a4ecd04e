import JsLiteral.Display
import JsLiteral.Failure
import JsLiteral.Number.Numeral
import JsLiteral.Text.Utf8
import JsLiteral.Text.Words

/-!
# Settings

Three variables of the environment: whether texts with backticks may become template
literals, the formatter's command line, and how many seconds the formatter may take. A
variable is read when it is needed, so a malformed one does no harm before.
-/

namespace JsLiteral

structure Settings where
  backticks : Option Text := none
  formatter : Option Text := none
  timeout : Option Text := none
deriving DecidableEq, Repr, Inhabited

/-- The names of the variables. -/
inductive Variable where
  | backticks
  | formatter
  | timeout
deriving DecidableEq, Repr

def Variable.name : Variable → Text
  | backticks => "JSON_TO_JS_DEBUG_ALLOW_BACKTICKS"
  | formatter => "JSON_TO_JS_PRETTIER"
  | timeout => "JSON_TO_JS_FORMATTER_TIMEOUT"

namespace Settings

/-! ## Variables -/

def get (s : Settings) : Variable → Option Text
  | .backticks => s.backticks
  | .formatter => s.formatter
  | .timeout => s.timeout

def set (s : Settings) (v : Variable) (t : Option Text) : Settings :=
  match v with
  | .backticks => { s with backticks := t }
  | .formatter => { s with formatter := t }
  | .timeout => { s with timeout := t }

/-- What a variable holds when a text is put into it. A variable holds bytes other than NUL,
so of the surrogates only those that are kept for bytes can go in, and bytes that spell a
character come back as that character. -/
def storable (t : Text) : Except Failure Text :=
  match Text.encodeBytes? t with
  | none => .error .unencodable
  | some bytes => if t.contains '\x00' then .error .embeddedNul else .ok (Text.decodeBytes 0 bytes)

/-- Sets a variable to a text. -/
def store (s : Settings) (v : Variable) (t : Text) : Except Failure Settings :=
  (storable t).map fun t => s.set v (some t)

@[simp] theorem get_set_self (s : Settings) (v : Variable) (t : Option Text) :
    (s.set v t).get v = t := by
  cases v <;> rfl

theorem get_set_of_ne (s : Settings) {v w : Variable} (t : Option Text) (h : w ≠ v) :
    (s.set v t).get w = s.get w := by
  cases v <;> cases w <;> first | rfl | exact absurd rfl h

/-! ## Reading -/

def allowsBackticks (s : Settings) : Bool := s.backticks == some (Text.ofString "1")

/-- The words of the formatter's command line, if it is set and not empty. -/
def command? (s : Settings) : Except Failure (Option (List Text)) :=
  match s.formatter with
  | none => .ok none
  | some t =>
    if t.isEmpty then .ok none
    else match Text.words t with
      | .ok words => .ok (some words)
      | .error .unclosedQuote => .error .unclosedQuote
      | .error .danglingEscape => .error .danglingEscape

/-- The formatter's seconds, if they are set and not empty. -/
def timeout? (s : Settings) : Except Failure (Option Binary64) :=
  match s.timeout with
  | none => .ok none
  | some t =>
    if t.isEmpty then .ok none
    else match Numeral.readBinary64 t with
      | some x => .ok (some x)
      | none => .error (.badTimeout t)

/-! ## Assigning values -/

/-- Assigns a value to a setting: a flag is set or removed by its truth, a command line is a
text or null, seconds are written out. -/
def assign (s : Settings) (heap : Heap) : Variable → Value → Except Failure Settings
  | .backticks, v => .ok (s.set .backticks (if v.isTruthy heap then some "1" else none))
  | .formatter, .null => .ok (s.set .formatter none)
  | .formatter, .text t => s.store .formatter t
  | .formatter, v => .error (.settingNotText (v.typeName heap))
  | .timeout, .null => .ok (s.set .timeout none)
  | .timeout, v => s.store .timeout (v.display heap)

end Settings

end JsLiteral
