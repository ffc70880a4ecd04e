import JsLiteral.CommandLine.Arguments
import JsLiteral.CommandLine.Markup
import JsLiteral.Conversion
import JsLiteral.Json.Reader
import JsLiteral.Text.Breaks
import JsLiteral.Text.Utf8

/-!
# The program

Reads a JSON document from a file, converts it and writes the source to another file. What
is wrong with the options, the input or the conversion is reported on standard error with
exit code 1, and nothing is written; a wrong command line has exit code 2, a request for help
is answered on standard output. A failure that is not reported ends the program with exit
code 1 and stands in the result.
-/

namespace JsLiteral.Program

/-- How a run of the program ends. -/
structure Result where
  exitCode : Nat
  stdout : Text
  stderr : Text
  failure : Option Failure
  world : World
deriving Repr, Inhabited

/-! ## Input -/

/-- The formatter options of the command line: null without any, else a mapping. -/
def parseFormatterOptions : Option Text → Except Failure Value
  | none => .ok .null
  | some raw =>
    match Json.read raw with
    | .error e => .error (.badFormatterOptions e.fault.message)
    | .ok (.mapping kind ms) => .ok (.mapping kind ms)
    | .ok _ => .error .formatterOptionsNotObject

/-- Why the system refuses a path. -/
def systemReason : Failure → Text
  | .missingFile _ => "No such file or directory"
  | .isDirectory _ => "Is a directory"
  | .notDirectory _ => "Not a directory"
  | .nameTooLong _ => "File name too long"
  | e => e.message

/-! ## Messages -/

/-- A line that reports a failure. -/
def report (message : Text) : Text := ("❌ " : Text) ++ Markup.escape message

/-- The markup of the lines that report a failed conversion, if it is one to report. -/
def conversionReport? (e : Failure) : Option (List Text) :=
  match e with
  | .formatting cause =>
    some [report e.message,
      ("   [dim]" : Text) ++ Markup.escape cause.message ++ ("[/dim]" : Text)]
  | e => if .conversion ∈ e.kind.lineage 5 then some [report e.message] else none

/-- The name of the tag that the literals of the output need. -/
def tagName (templateOpening : Text) : Text :=
  if templateOpening.trim.isEmpty then "dedent" else templateOpening.trim

def scopeNote (templateOpening : Text) : Text :=
  ("ℹ️  Output uses template literals; make sure \x60" : Text) ++ tagName templateOpening
    ++ ("\x60 is in scope" : Text)

/-- What the journal puts on standard error: warnings, and all notes if asked. -/
def journalText (verbose : Bool) (journal : List Event) : Text :=
  journal.flatMap fun e => match e with
    | .noted level _ message =>
      if verbose || level == .warning then message ++ [Text.newline] else []
    | _ => []

/-! ## Running -/

/-- The exit of a run that prints lines of markup after the journal. -/
def finish (verbose : Bool) (w : World) (exitCode : Nat) (markup : List Text) : Result :=
  let before := journalText verbose w.journal
  match markup.mapM Markup.render with
  | .ok lines => ⟨exitCode, [], before ++ lines.flatten, none, w⟩
  | .error e => ⟨1, [], before, some e, w⟩

/-- The exit of a run that a failure ends. -/
def escaped (verbose : Bool) (w : World) (e : Failure) : Result :=
  ⟨1, [], journalText verbose w.journal, some e, w⟩

/-- The options that a command line gives a conversion. -/
def conversionOptions (a : Arguments) (formatterOptions : Value) : Options Unit where
  opening := a.opening
  closing := a.closing
  useFormatter := a.useFormatter
  formatterOptions := formatterOptions
  useTemplates := a.useTemplates
  templateOpening := a.templateOpening
  templateClosing := a.templateClosing
  space := match a.space with
    | some n => .int n
    | none => .null

/-- Writes the output file. A file is emptied before it is written. -/
def writeOutput (a : Arguments) (w : World) (code : Text) : Except Failure Unit × World :=
  let bytes := Text.encode? code
  match Path.write w.files a.outputFile (bytes.getD []) with
  | .error e => (.error e, w)
  | .ok files => (if bytes.isSome then .ok () else .error .unencodable, { w with files })

/-- Converts a value that was read and writes the output file. -/
def convertAndWrite (launch : Launcher) (a : Arguments) (w : World) (options : Options Unit)
    (v : Value) : Result :=
  let converter : Converter := ⟨.standard, External.format {} launch⟩
  match (converter.convert options v).run (w, ()) with
  | (.error e, (w, _)) =>
    match conversionReport? e with
    | some lines => finish a.verbose w 1 lines
    | none => escaped a.verbose w e
  | (.ok c, (w, _)) =>
    match writeOutput a w c.code with
    | (.error e, w) => escaped a.verbose w e
    | (.ok _, w) =>
      finish a.verbose w 0 (if c.usedTemplates then [scopeNote a.templateOpening] else [])

/-- Runs the program with arguments that were read. -/
def convertFile (launch : Launcher) (a : Arguments) (w : World) : Result :=
  match parseFormatterOptions a.formatterOptions with
  | .error e => finish a.verbose w 1 [report e.message]
  | .ok formatterOptions =>
    match Path.read w.files a.inputFile with
    | .error e =>
      finish a.verbose w 1 [("❌ Cannot read " : Text) ++ Markup.escape a.inputFile
        ++ (": " : Text) ++ Markup.escape (systemReason e)]
    | .ok bytes =>
      match Text.decode? bytes with
      | none => escaped a.verbose w .undecodable
      | some doc =>
        let doc := doc.normalizeBreaks
        match Json.read doc with
        | .error e =>
          finish a.verbose w 1 [("❌ " : Text) ++ Markup.escape a.inputFile
            ++ (" is not valid JSON: " : Text) ++ Markup.escape (e.message doc)]
        | .ok v => convertAndWrite launch a w (conversionOptions a formatterOptions) v

def usage : Text :=
  "Usage: json-to-javascript --input-file FILE --output-file FILE [OPTIONS]\n"

/-- Runs the program. -/
def run (launch : Launcher) (args : List Text) (w : World) : Result :=
  match Arguments.parse args with
  | .wrong => ⟨2, [], usage, none, w⟩
  | .help => ⟨0, usage, [], none, w⟩
  | .run a => convertFile launch a w

end JsLiteral.Program
