import JsLiteral.Text.Quoted

/-!
# Failures

Everything that can go wrong, by cause. `message` is the wording of a failure, `kind` its
place in the taxonomy of failures, `cause?` the failure it reports.
-/

namespace JsLiteral

/-- The taxonomy of failures. The first nine are the library's own, the others are general. -/
inductive FailureKind where
  | conversion
  | formatting
  | consistency
  | placeholderMissing
  | markerCollision
  | formatter
  | formatterMissing
  | formatterProcess
  | timeout
  | value
  | type
  | runtime
  | system
  | missingFile
  | permission
  | directory
  | notDirectory
  | nesting
  | decoding
  | encoding
  | markup
deriving DecidableEq, Repr

/-- The kind a kind is a case of. -/
def FailureKind.parent? : FailureKind → Option FailureKind
  | .formatting => some .conversion
  | .consistency => some .conversion
  | .placeholderMissing => some .consistency
  | .markerCollision => some .consistency
  | .formatter => some .runtime
  | .formatterMissing => some .formatter
  | .formatterProcess => some .formatter
  | .missingFile => some .system
  | .permission => some .system
  | .directory => some .system
  | .notDirectory => some .system
  | _ => none

/-- A kind and all it is a case of, at most `fuel` of them. -/
def FailureKind.lineage : Nat → FailureKind → List FailureKind
  | 0, _ => []
  | fuel + 1, k =>
    k :: match k.parent? with
      | some p => p.lineage fuel
      | none => []

inductive Failure where
  /-- A container is met inside itself. -/
  | circular
  | unsupportedValue (typeName : Text)
  | unsupportedKey (typeName : Text)
  | unsupportedSpace (typeName : Text)
  /-- Options that should be a mapping. -/
  | notMapping (typeName : Text)
  /-- A value without items in a place of one with them. -/
  | notIterable (typeName : Text)
  /-- An item, by its number, that should be a pair and has no items. -/
  | notSequence (index : Nat)
  /-- An item, by its number, that should be a pair and has another length. -/
  | notPair (index length : Nat)
  /-- A key that may change. -/
  | unhashable (typeName : Text)
  /-- Containers nested past the limit of a walk. -/
  | tooDeep
  | emptyMarker
  | markerCollision (marker : Text)
  | placeholderMissing (token : Text)
  /-- The formatter failed with `cause`. -/
  | formatting (cause : Failure)
  | formatterMissing (program : Text) (cause : Failure)
  | formatterTimedOut (timeout : Text) (cause : Failure)
  | formatterExited (code : Int) (stderr : Text)
  | badTimeout (raw : Text)
  | unclosedQuote
  | danglingEscape
  /-- A program or file that does not exist. -/
  | missingFile (path : Text)
  | permissionDenied (path : Text)
  | isDirectory (path : Text)
  | notDirectory (path : Text)
  /-- A name or a path of more bytes than the file system takes. -/
  | nameTooLong (path : Text)
  | processTimedOut
  /-- A variable can hold text only. -/
  | settingNotText (typeName : Text)
  | embeddedNul
  | undecodable
  | unencodable
  | unbalancedMarkup
  /-- A tag's parameters are no datum. -/
  | badTagParameters
  /-- A number without digits. -/
  | emptyNumber
  /-- Formatter options on the command line that are no JSON; `reason` says why. -/
  | badFormatterOptions (reason : Text)
  | formatterOptionsNotObject
  /-- Raised by a caller's function, in the caller's words. -/
  | raised (kind : FailureKind) (words : Text)
  /-- A process failure in a caller's words. -/
  | processFailed (words : Text) (code : Option Int) (stderr : Text)
deriving DecidableEq, Repr, Inhabited

namespace Failure

/-- What a formatting failure says. -/
def formattingAdvice : Text :=
  "Failed to format the generated code, consider turning off formatting with --no-use-formatter"

/-- A system error with its number and the path it is about. -/
def systemMessage (number : Nat) (what : Text) (path : Text) : Text :=
  ("[Errno " : Text) ++ Text.ofNat number ++ ("] " : Text) ++ what ++ (": " : Text) ++ path.quoted

def message : Failure → Text
  | circular => "Circular reference detected"
  | unsupportedValue t => ("Object of type " : Text) ++ t ++ (" is not JSON serializable" : Text)
  | unsupportedKey t => ("keys must be str, int, float, bool or None, not " : Text) ++ t
  | unsupportedSpace t => ("space must be int, str or None, not " : Text) ++ t
  | notMapping t => Text.quoted t ++ (" object is not a mapping" : Text)
  | notIterable t => Text.quoted t ++ (" object is not iterable" : Text)
  | notSequence i =>
    ("cannot convert dictionary update sequence element #" : Text) ++ Text.ofNat i
      ++ (" to a sequence" : Text)
  | notPair i n =>
    ("dictionary update sequence element #" : Text) ++ Text.ofNat i ++ (" has length " : Text)
      ++ Text.ofNat n ++ ("; 2 is required" : Text)
  | unhashable t => ("unhashable type: " : Text) ++ Text.quoted t
  | tooDeep => "maximum recursion depth exceeded"
  | emptyMarker => "marker must be a non-empty string"
  | markerCollision m =>
    ("Input already contains the placeholder marker " : Text) ++ m.quoted
      ++ ("; use a different marker" : Text)
  | placeholderMissing t =>
    ("Placeholder " : Text) ++ t.quoted ++ (" is missing from the formatted code" : Text)
  | formatting _ => formattingAdvice
  | formatterMissing p _ => ("Formatter executable not found: " : Text) ++ p
  | formatterTimedOut t _ =>
    ("Formatter timed out after " : Text) ++ t ++ (" seconds" : Text)
  | formatterExited code stderr =>
    ("Formatter exited with code " : Text) ++ Text.ofInt code ++ (": " : Text) ++ stderr
  | badTimeout raw =>
    ("JSON_TO_JS_FORMATTER_TIMEOUT must be a number of seconds, got " : Text) ++ raw.quoted
  | unclosedQuote => "No closing quotation"
  | danglingEscape => "No escaped character"
  | missingFile p => systemMessage 2 "No such file or directory" p
  | permissionDenied p => systemMessage 13 "Permission denied" p
  | isDirectory p => systemMessage 21 "Is a directory" p
  | notDirectory p => systemMessage 20 "Not a directory" p
  | nameTooLong p => systemMessage 36 "File name too long" p
  | processTimedOut => "Command 'formatter' timed out after 1 seconds"
  | settingNotText t => ("str expected, not " : Text) ++ t
  | embeddedNul => "embedded null byte"
  | undecodable => "invalid UTF-8"
  | unencodable => "surrogates not allowed"
  | unbalancedMarkup => "closing tag doesn't match any open tag"
  | badTagParameters => "error parsing tag parameters"
  | emptyNumber => "invalid literal for int() with base 10: ''"
  | badFormatterOptions reason =>
    ("--formatter-options is not valid JSON (" : Text) ++ reason ++ (")" : Text)
  | formatterOptionsNotObject => "--formatter-options must be a JSON object"
  | raised _ words => words
  | processFailed words _ _ => words

def kind : Failure → FailureKind
  | circular => .value
  | unsupportedValue _ => .type
  | unsupportedKey _ => .type
  | unsupportedSpace _ => .type
  | notMapping _ => .type
  | notIterable _ => .type
  | notSequence _ => .type
  | notPair _ _ => .value
  | unhashable _ => .type
  | tooDeep => .nesting
  | emptyMarker => .value
  | markerCollision _ => .markerCollision
  | placeholderMissing _ => .placeholderMissing
  | formatting _ => .formatting
  | formatterMissing _ _ => .formatterMissing
  | formatterTimedOut _ _ => .formatterProcess
  | formatterExited _ _ => .formatterProcess
  | badTimeout _ => .value
  | unclosedQuote => .value
  | danglingEscape => .value
  | missingFile _ => .missingFile
  | permissionDenied _ => .permission
  | isDirectory _ => .directory
  | notDirectory _ => .notDirectory
  | nameTooLong _ => .system
  | processTimedOut => .timeout
  | settingNotText _ => .type
  | embeddedNul => .value
  | undecodable => .decoding
  | unencodable => .encoding
  | unbalancedMarkup => .markup
  | badTagParameters => .markup
  | emptyNumber => .value
  | badFormatterOptions _ => .value
  | formatterOptionsNotObject => .value
  | raised k _ => k
  | processFailed _ _ _ => .formatterProcess

/-- The failure that a failure reports. -/
def cause? : Failure → Option Failure
  | formatting c => some c
  | formatterMissing _ c => some c
  | formatterTimedOut _ c => some c
  | _ => none

/-- The exit code and the standard error of a failed formatter process. -/
def process? : Failure → Option (Option Int × Text)
  | formatterTimedOut _ _ => some (none, [])
  | formatterExited code stderr => some (some code, stderr)
  | processFailed _ code stderr => some (code, stderr)
  | _ => none

end Failure

end JsLiteral
