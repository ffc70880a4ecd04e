import JsLiteral.CommandLine.Paths
import JsLiteral.Number.Numeral

/-!
# Command line arguments

The options of the command line. A value follows its option or an equals sign; the last of
several counts. Everything after `--` and every argument without a dash is one too many.
A request for help wins over whatever else is wrong with options that can be read.
-/

namespace JsLiteral

/-- Options that take a value. -/
inductive ValueOption where
  | inputFile
  | outputFile
  | opening
  | closing
  | formatterOptions
  | templateOpening
  | templateClosing
  | space
deriving DecidableEq, Repr

/-- Options that take none. -/
inductive FlagOption where
  | formatter (on : Bool)
  | templates (on : Bool)
  | verbose
  | help
deriving DecidableEq, Repr

/-- What a command line asks for. -/
structure Arguments where
  inputFile : Text
  outputFile : Text
  opening : Text
  closing : Text
  useFormatter : Bool
  formatterOptions : Option Text
  useTemplates : Bool
  templateOpening : Text
  templateClosing : Text
  space : Option Int
  verbose : Bool
deriving DecidableEq, Repr, Inhabited

/-- What becomes of a command line. -/
inductive Usage where
  | run (arguments : Arguments)
  | help
  | wrong
deriving DecidableEq, Repr

namespace Arguments

/-- The options with values by name. -/
def valueOptions : List (Text × ValueOption) := [
  ("--input-file", .inputFile), ("--output-file", .outputFile),
  ("--prefix", .opening), ("--suffix", .closing),
  ("--formatter-options", .formatterOptions),
  ("--multiline-literal-prefix", .templateOpening),
  ("--multiline-literal-suffix", .templateClosing),
  ("--stringify-space", .space)]

/-- The options without values by name. -/
def flagOptions : List (Text × FlagOption) := [
  ("--use-formatter", .formatter true), ("--no-use-formatter", .formatter false),
  ("--use-multiline-literals", .templates true),
  ("--no-use-multiline-literals", .templates false),
  ("--verbose", .verbose), ("--help", .help)]

/-- The options of a command line in order, and the arguments left over. -/
structure Given where
  values : List (ValueOption × Text) := []
  flags : List FlagOption := []
  extra : List Text := []
deriving DecidableEq, Repr, Inhabited

namespace Given

/-- The last value of an option. -/
def value? (g : Given) (o : ValueOption) : Option Text := List.lookup o g.values.reverse

/-- The last of the flags that `f` reads. -/
def flag (g : Given) (f : FlagOption → Option Bool) (default : Bool) : Bool :=
  (g.flags.reverse.findSome? f).getD default

end Given

/-- A long option and the value after its equals sign. -/
def splitOption (arg : Text) : Text × Option Text :=
  let name := arg.takeWhile fun (c : CodePoint) => c != '='
  match arg.drop name.length with
  | [] => (name, none)
  | _ :: value => (name, some value)

/-- Reads the arguments from left to right; `none` if one is no option or lacks its value. -/
def scan (g : Given) : List Text → Option Given
  | [] => some g
  | arg :: rest =>
    let dash : CodePoint := '-'
    if arg = Text.ofString "--" then some { g with extra := g.extra ++ rest }
    else if arg.head? = some dash ∧ 1 < arg.length then
      let (name, value) := splitOption arg
      match List.lookup name valueOptions, value with
      | some o, some v => scan { g with values := g.values ++ [(o, v)] } rest
      | some o, none =>
        match rest with
        | v :: rest => scan { g with values := g.values ++ [(o, v)] } rest
        | [] => none
      | none, value =>
        match List.lookup name flagOptions with
        | some f =>
          if value.isNone then scan { g with flags := g.flags ++ [f] } rest else none
        | none =>
          if (arg.drop 1).all (fun (c : CodePoint) => c == 'v') then
            scan { g with flags := g.flags ++ [.verbose] } rest
          else none
    else scan { g with extra := g.extra ++ [arg] } rest

/-- The arguments that the given options make, once none of them asks for help. -/
def ofGiven? (g : Given) : Option Arguments := do
  let inputFile ← g.value? .inputFile
  let outputFile ← g.value? .outputFile
  let space ← match g.value? .space with
    | none => some none
    | some t => (Numeral.readArgument t).map some
  if g.extra.isEmpty && Path.isNameable inputFile && Path.isNameable outputFile then
    some {
      inputFile := Path.normalize inputFile
      outputFile := Path.normalize outputFile
      opening := (g.value? .opening).getD "("
      closing := (g.value? .closing).getD ")"
      useFormatter := g.flag (fun f => match f with | .formatter on => some on | _ => none) true
      formatterOptions := g.value? .formatterOptions
      useTemplates := g.flag (fun f => match f with | .templates on => some on | _ => none) false
      templateOpening := (g.value? .templateOpening).getD " dedent"
      templateClosing := (g.value? .templateClosing).getD []
      space
      verbose := g.flags.contains .verbose }
  else none

/-- Reads a command line. -/
def parse (args : List Text) : Usage :=
  match scan {} args with
  | none => .wrong
  | some g =>
    if g.flags.contains .help then .help
    else match ofGiven? g with
      | some a => .run a
      | none => .wrong

end Arguments

end JsLiteral
