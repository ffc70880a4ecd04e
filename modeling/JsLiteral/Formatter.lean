import JsLiteral.Json.Compact
import JsLiteral.Pairs
import JsLiteral.Text.Blank
import JsLiteral.World

/-!
# Formatters

A formatter lays out code anew. One returns code as it is; another starts a program, which
finds its options in a configuration file and the code on its input.

The program's command line is the given one, else the one in the settings, else `npx --yes
prettier`, each only if it has words; its time limit is the given one, else the one in the
settings, which then is not read. The configuration file lives as long as the program runs.
-/

namespace JsLiteral

/-- Lays out code under options, which are meant to be a mapping. -/
abbrev Formatter := Text → Value → Task Text

/-- How a program ends: with an exit code and what it wrote, or not at all. -/
inductive Outcome where
  | finished (code : Int) (stdout stderr : Text)
  | failed (cause : Failure)
deriving Repr, Inhabited

/-- What starting a program comes to. -/
abbrev Launcher := Run → Outcome

/-- A formatter program. -/
structure External where
  command : List Text := []
  timeout : Value := .null
deriving Repr, Inhabited

def parserKey : Key := .text "parser"

/-- The parser that options name if they name none. -/
def defaultParser : Value := .text "babel"

/-- Options with a parser. -/
def withParser (options : Members) : Members :=
  if (options.get? parserKey).isSome then options else options ++ [(parserKey, defaultParser)]

/-- The base of the names of configuration files. -/
def configName : Text := "<config>"

namespace Formatter

/-- Returns code as it is. -/
def none : Formatter := fun code _ => pure code

/-- A formatter from a function of the code and the options. -/
def ofFun (f : Text → Value → Except Failure Text) : Formatter := fun code options =>
  Task.ofExcept (f code options)

/-- A formatter that notes each call in the journal. -/
def recorded (f : Formatter) : Formatter := fun code options => do
  Task.record (.called code options)
  f code options

end Formatter

namespace External

def defaultCommand : List Text := ["npx", "--yes", "prettier"].map Text.ofString

/-- The command line without the formatter's own arguments. -/
def resolveCommand (x : External) (s : Settings) : Except Failure (List Text) :=
  if !x.command.isEmpty then .ok x.command
  else match s.command? with
    | .error e => .error e
    | .ok (some (word :: words)) => .ok (word :: words)
    | .ok _ => .ok defaultCommand

/-- The time limit in seconds. -/
def resolveTimeout (x : External) (s : Settings) : Except Failure Value :=
  match x.timeout with
  | .null => s.timeout?.map fun t => match t with
    | some seconds => .float seconds
    | Option.none => .null
  | v => .ok v

/-- What is reported of a program that is not run to its end. -/
def reported (program timeout : Text) (cause : Failure) : Failure :=
  match cause.kind with
  | .missingFile => .formatterMissing program cause
  | .timeout => .formatterTimedOut timeout cause
  | _ => cause

/-- Writes the configuration, then starts the program. -/
def start (x : External) (launch : Launcher) (code : Text) (config : Members) (timeout : Value)
    (path : Text) : Task (Run × Outcome) := do
  let w ← get
  let text ← Task.ofExcept (Json.Compact.text w.heap (.mapping .dict config))
  modify fun w => { w with files := w.files.put path (.file (text.map fun c => c.toNat.toUInt8)) }
  let command ← Task.ofExcept (x.resolveCommand w.settings)
  let parser := (config.get? parserKey).getD defaultParser
  let arguments :=
    command ++ [("--config" : Text), path, ("--parser" : Text), parser.display w.heap]
  Task.note .debug .formatter (("Running formatter: " : Text) ++ Text.join " " arguments)
  let run : Run := ⟨arguments, path, code, timeout, (← get).files⟩
  Task.record (.started run)
  match launch run with
  | .failed e => throw (reported (arguments.headD []) (timeout.display w.heap) e)
  | outcome => pure (run, outcome)

/-- Formats by starting the program. -/
def format (x : External) (launch : Launcher) : Formatter := fun code options => do
  let config := withParser (← Task.ofExcept (Members.ofValue (← get).heap options))
  let timeout ← Task.ofExcept (x.resolveTimeout (← get).settings)
  let (_, outcome) ← Task.withFile configName (x.start launch code config timeout)
  match outcome with
  | .failed e => throw e
  | .finished exit stdout stderr =>
    if exit = 0 then pure stdout
    else
      let stderr := stderr.trim
      let failure := Failure.formatterExited exit stderr
      Task.note .warning .formatter failure.message
      throw failure

end External

end JsLiteral
