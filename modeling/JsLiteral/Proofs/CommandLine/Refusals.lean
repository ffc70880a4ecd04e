import JsLiteral.Proofs.CommandLine.AllOrNothing
import JsLiteral.Proofs.CommandLine.Escaping
import JsLiteral.Proofs.Text.Digits

/-!
# Problems before a conversion

Formatter options that are no JSON object, an input file that cannot be read and one that holds no
JSON are reported: the run exits with 1, a line on standard error names the problem, and the world
is as it was, so no file has changed and no program was started. What the line says about the path
and the document does not keep it from being printed, whatever they hold. The exception is an input
file whose bytes are no text. It ends the run as well, but nothing is reported.

    the first problem, if there is one, is reported        (convertFile_of_meets)
    unless the bytes are no text                           (convertFile_of_undecodable)
    without a problem the conversion starts                (meets_or_reads)
-/

namespace JsLiteral

namespace Markup

/-! ## Words and numbers -/

theorem isInert_of_isDigit {c : CodePoint} (h : c.isDigit = true) : isInert c = true := by
  unfold CodePoint.isDigit CodePoint.digit? at h
  split at h
  · rename_i hrange
    have hne : ∀ d : CodePoint, d.toNat < 0x30 ∨ 0x3A ≤ d.toNat → (c != d) = true := by
      intro d hd
      rw [bne_iff_ne]
      rintro rfl
      omega
    have hcode : isCursorCode c = false := by
      unfold isCursorCode
      simp only [Bool.or_eq_false_iff, beq_eq_false_iff_ne]
      omega
    unfold isInert
    rw [hne ':' (by decide), hne '[' (by decide), hne ']' (by decide), hne '\t' (by decide),
      hne Text.newline (by decide), hcode]
    rfl
  · cases h

theorem isInert_ofNat (n : Nat) : IsInert (Text.ofNat n) :=
  fun _ hc => isInert_of_isDigit (Text.isDigit_of_mem_ofNat hc)

end Markup

namespace Program

open Text Markup

/-! ## Problems -/

/-- What keeps a conversion from starting. -/
inductive Problem where
  | optionsNotJson (fault : Json.Fault)
  | optionsNotObject
  | unreadable (e : Failure)
  | undecodable
  | notJson (doc : Text) (e : Json.ReadError)

/-- The problem a run meets first. -/
inductive Meets (a : Arguments) (w : World) : Problem → Prop where
  | optionsNotJson {raw : Text} {e : Json.ReadError} (hraw : a.formatterOptions = some raw)
    (hjson : Json.read raw = .error e) : Meets a w (.optionsNotJson e.fault)
  | optionsNotObject {raw : Text} {v : Value} (hraw : a.formatterOptions = some raw)
    (hjson : Json.read raw = .ok v) (hobject : ∀ kind ms, v ≠ .mapping kind ms) :
    Meets a w .optionsNotObject
  | unreadable {given : Value} {e : Failure}
    (hoptions : parseFormatterOptions a.formatterOptions = .ok given)
    (hread : Path.read w.files a.inputFile = .error e) : Meets a w (.unreadable e)
  | undecodable {given : Value} {bytes : List UInt8}
    (hoptions : parseFormatterOptions a.formatterOptions = .ok given)
    (hread : Path.read w.files a.inputFile = .ok bytes) (hbytes : ∀ doc, encode? doc ≠ some bytes) :
    Meets a w .undecodable
  | notJson {given : Value} {bytes : List UInt8} {doc : Text} {e : Json.ReadError}
    (hoptions : parseFormatterOptions a.formatterOptions = .ok given)
    (hread : Path.read w.files a.inputFile = .ok bytes) (hbytes : encode? doc = some bytes)
    (hjson : Json.read doc.normalizeBreaks = .error e) : Meets a w (.notJson doc.normalizeBreaks e)

/-- The line names the problem with the file at the path. The console shows an ordinary path as it
is; of another it may draw, fill or leave out parts. -/
inductive Names (path : Text) : Problem → Text → Prop where
  | optionsNotJson (fault : Json.Fault) : Names path (.optionsNotJson fault)
    (("❌ --formatter-options is not valid JSON (" : Text) ++ fault.message ++ (")\n" : Text))
  | optionsNotObject : Names path .optionsNotObject "❌ --formatter-options must be a JSON object\n"
  | unreadable (e : Failure) {shown : Text}
    (hshown : IsOrdinary path → shown = path ++ (":" : Text)) : Names path (.unreadable e)
      (("❌ Cannot read " : Text) ++ shown ++ (" " : Text) ++ systemReason e ++ [newline])
  | notJson (doc : Text) (e : Json.ReadError) {shown : Text}
    (hshown : IsOrdinary path → shown = path) : Names path (.notJson doc e)
      (("❌ " : Text) ++ shown ++ (" is not valid JSON: " : Text) ++ e.message doc ++ [newline])

/-- The run exits with 1 and names the problem after what was noted before; the world is as it
was. -/
structure Reports (a : Arguments) (w : World) (p : Problem) (r : Result) : Prop where
  exitCode : r.exitCode = 1
  failure : r.failure = none
  stdout : r.stdout = []
  stderr : ∃ line, Names a.inputFile p line ∧ r.stderr = journalText a.verbose w.journal ++ line
  world : r.world = w

section

variable {launch : Launcher} {a : Arguments} {w : World} {p q : Problem}

/-! ## One problem or none -/

theorem parseFormatterOptions_of_error {raw : Text} {e : Json.ReadError}
    (h : Json.read raw = .error e) :
    parseFormatterOptions (some raw) = .error (.badFormatterOptions e.fault.message) := by
  rw [parseFormatterOptions, h]

theorem parseFormatterOptions_of_mapping {raw : Text} {kind : MappingKind} {ms : Members}
    (h : Json.read raw = .ok (.mapping kind ms)) :
    parseFormatterOptions (some raw) = .ok (.mapping kind ms) := by
  rw [parseFormatterOptions, h]

theorem parseFormatterOptions_of_not_mapping {raw : Text} {v : Value} (h : Json.read raw = .ok v)
    (hobject : ∀ kind ms, v ≠ .mapping kind ms) :
    parseFormatterOptions (some raw) = .error .formatterOptionsNotObject := by
  rw [parseFormatterOptions, h]
  cases v with
  | mapping kind ms => exact absurd rfl (hobject kind ms)
  | _ => rfl

/-- Formatter options are read, or they are the first problem. -/
theorem meets_or_options (a : Arguments) (w : World) :
    (∃ p, Meets a w p) ∨ ∃ given, parseFormatterOptions a.formatterOptions = .ok given := by
  cases hraw : a.formatterOptions with
  | none => exact Or.inr ⟨_, rfl⟩
  | some raw =>
    cases hjson : Json.read raw with
    | error e => exact Or.inl ⟨_, .optionsNotJson hraw hjson⟩
    | ok v =>
      by_cases hobject : ∃ kind ms, v = .mapping kind ms
      · obtain ⟨kind, ms, rfl⟩ := hobject
        exact Or.inr ⟨_, parseFormatterOptions_of_mapping hjson⟩
      · exact Or.inl ⟨_, .optionsNotObject hraw hjson fun kind ms he => hobject ⟨kind, ms, he⟩⟩

/-- A run meets a problem, or it reads a value to convert. -/
theorem meets_or_reads (a : Arguments) (w : World) :
    (∃ p, Meets a w p) ∨ ∃ given v, Reads a w given v := by
  rcases meets_or_options a w with hmeets | ⟨given, hoptions⟩
  · exact Or.inl hmeets
  · cases hread : Path.read w.files a.inputFile with
    | error e => exact Or.inl ⟨_, .unreadable hoptions hread⟩
    | ok bytes =>
      cases hdecode : decode? bytes with
      | none => exact Or.inl ⟨_, .undecodable hoptions hread (decode?_eq_none_iff.1 hdecode)⟩
      | some doc =>
        cases hjson : Json.read doc.normalizeBreaks with
        | error e =>
          exact Or.inl ⟨_, .notJson hoptions hread (decode?_eq_some_iff.1 hdecode) hjson⟩
        | ok v => exact Or.inr ⟨given, v, hoptions, hread, hdecode, hjson⟩

/-! ## The words of the messages -/

theorem isInert_fault {fault : Json.Fault} (h : fault ≠ .colon) :
    IsInert fault.message := by
  cases fault with
  | colon => exact absurd rfl h
  | _ => decide +kernel

/-- The colon that one of the faults names stands between quotes, where it starts no picture. -/
theorem isPhrase_fault (fault : Json.Fault) : IsPhrase fault.message := by
  by_cases h : fault = .colon
  · have hcolon : Json.Fault.colon.message =
        ("Expecting ':'" : Text) ++ [CodePoint.scalar ' '] ++ ("delimiter" : Text) := by
      simp [Json.Fault.message, ofString, ofChars]
    rw [h, hcolon]
    exact (IsPhrase.of_isShown (by decide +kernel) (by decide +kernel)).append
      (.of_isInert (by decide +kernel))
  · exact .of_isInert (isInert_fault h)

theorem isPhrase_message (doc : Text) (e : Json.ReadError) : IsPhrase (e.message doc) := by
  have hline : (": line " : Text) = (": line" : Text) ++ [CodePoint.scalar ' '] := by
    simp [ofString, ofChars]
  have hnumber : ∀ n, IsPhrase (Text.ofNat n) := fun n => .of_isInert (isInert_ofNat n)
  unfold Json.ReadError.message
  rw [hline]
  exact ((((((isPhrase_fault e.fault).append (.of_isShown (by decide) (by decide))).append
    (hnumber _)).append (.of_isInert (by decide))).append (hnumber _)).append
      (.of_isInert (by decide))).append (hnumber _) |>.append (.of_isInert (by decide))

/-- A text that ends with a bracket does not end with a backslash. -/
theorem not_mem_getLast?_bracket (t : Text) :
    CodePoint.scalar '\\' ∉ (t ++ (")" : Text)).getLast? := by
  rw [show (")" : Text) = [CodePoint.scalar ')'] from rfl, List.getLast?_concat]
  decide

theorem isOrdinary_systemReason {fs : Files} {path : Text} {e : Failure}
    (h : Path.read fs path = .error e) : IsOrdinary (systemReason e) := by
  have hreason : systemReason e ∈ ([ofString "Is a directory", ofString "No such file or directory",
      ofString "Not a directory", ofString "File name too long"] : List Text) := by
    unfold Path.read at h
    split at h <;> cases h <;> simp [systemReason]
  revert hreason
  generalize systemReason e = reason
  revert reason
  decide

theorem surrounds_unreadable {reason : Text} (h : IsOrdinary reason) :
    Surrounds ("❌ Cannot read" : Text) (":" : Text) reason :=
  ⟨by decide, by decide, by decide, by decide, h.inert.isShown, h.inert.unbracketed⟩

theorem surrounds_notJson (doc : Text) (e : Json.ReadError) :
    Surrounds ("❌" : Text) [] (("is not valid JSON: " : Text) ++ e.message doc) := by
  have hverdict : ("is not valid JSON: " : Text) =
      ("is not valid JSON:" : Text) ++ [CodePoint.scalar ' '] := by
    simp [ofString, ofChars]
  have hending : IsPhrase (("is not valid JSON: " : Text) ++ e.message doc) := by
    rw [hverdict]
    exact (IsPhrase.of_isShown (by decide) (by decide)).append (isPhrase_message doc e)
  exact ⟨by decide, by decide, isShown_nil, unbracketed_nil, hending.isShown, hending.unbracketed⟩

/-! ## Reports -/

theorem reports_finish {line message : Text} (hrender : render message = .ok line)
    (hnames : Names a.inputFile p line) : Reports a w p (finish a.verbose w 1 [message]) := by
  have hfinish : finish a.verbose w 1 [message] =
      ⟨1, [], journalText a.verbose w.journal ++ line, none, w⟩ := by
    unfold finish
    simp only [List.mapM_cons, List.mapM_nil, hrender]
    simp
  rw [hfinish]
  exact ⟨rfl, rfl, rfl, ⟨line, hnames, rfl⟩, rfl⟩

/-- A message that is a phrase is reported in its own words. -/
theorem render_report {message : Text} (h : IsPhrase message)
    (hlast : CodePoint.scalar '\\' ∉ message.getLast?) :
    render (report message) = .ok (("❌ " : Text) ++ message ++ [newline]) := by
  have hsign : IsPhrase ("❌ " : Text) := .of_isInert (by decide)
  have hall := hsign.append h
  rw [report, h.escape_eq hlast]
  exact render_of_isShown hall.isShown hall.open_not_mem
    (List.append_ne_nil_of_left_ne_nil (by decide) _)

/-- Formatter options that are no JSON are reported. -/
theorem reports_optionsNotJson (fault : Json.Fault) : Reports a w (.optionsNotJson fault)
    (finish a.verbose w 1 [report (Failure.badFormatterOptions fault.message).message]) := by
  have hphrase : IsPhrase (Failure.badFormatterOptions fault.message).message :=
    ((IsPhrase.of_isInert (by decide +kernel)).append (isPhrase_fault fault)).append
      (.of_isInert (by decide))
  have hline : ("❌ " : Text) ++ (Failure.badFormatterOptions fault.message).message ++ [newline] =
      ("❌ --formatter-options is not valid JSON (" : Text) ++ fault.message ++ (")\n" : Text) := by
    simp [Failure.message, ofString, ofChars, newline]
  have hrender := render_report hphrase (not_mem_getLast?_bracket _)
  rw [hline] at hrender
  exact reports_finish hrender (.optionsNotJson fault)

/-- Formatter options that are no object are reported. -/
theorem reports_optionsNotObject : Reports a w .optionsNotObject
    (finish a.verbose w 1 [report Failure.formatterOptionsNotObject.message]) := by
  have hline : ("❌ " : Text) ++ Failure.formatterOptionsNotObject.message ++ [newline] =
      ("❌ --formatter-options must be a JSON object\n" : Text) := by
    simp [Failure.message, ofString, ofChars, newline]
  have hphrase : IsPhrase Failure.formatterOptionsNotObject.message :=
    .of_isInert (by decide +kernel)
  have hrender := render_report hphrase (by decide +kernel)
  rw [hline] at hrender
  exact reports_finish hrender .optionsNotObject

/-- An input file that cannot be read is reported. -/
theorem reports_unreadable {fs : Files} {e : Failure} (h : Path.read fs a.inputFile = .error e) :
    Reports a w (.unreadable e) (finish a.verbose w 1
      [("❌ Cannot read " : Text) ++ escape a.inputFile ++ (": " : Text) ++
        escape (systemReason e)]) := by
  have hreason := isOrdinary_systemReason h
  obtain ⟨shown, hshown, hrender⟩ := render_message (surrounds_unreadable hreason) a.inputFile
  have hmessage : ("❌ Cannot read " : Text) ++ escape a.inputFile ++ (": " : Text) ++
      escape (systemReason e) = ("❌ Cannot read" : Text) ++ [CodePoint.scalar ' '] ++
        (escape a.inputFile ++ ((":" : Text) ++ CodePoint.scalar ' ' :: systemReason e)) := by
    rw [hreason.escape_eq]
    simp [ofString, ofChars]
  have hline : ("❌ Cannot read" : Text) ++ [CodePoint.scalar ' '] ++ shown ++
      CodePoint.scalar ' ' :: systemReason e ++ [newline] =
        ("❌ Cannot read " : Text) ++ shown ++ (" " : Text) ++ systemReason e ++ [newline] := by
    simp [ofString, ofChars]
  rw [hline] at hrender
  rw [hmessage]
  exact reports_finish hrender (.unreadable e hshown)

/-- A document that is no JSON is reported. -/
theorem reports_notJson (doc : Text) (e : Json.ReadError) :
    Reports a w (.notJson doc e) (finish a.verbose w 1
      [("❌ " : Text) ++ escape a.inputFile ++ (" is not valid JSON: " : Text) ++
        escape (e.message doc)]) := by
  have hwords := surrounds_notJson doc e
  obtain ⟨shown, hshown, hrender⟩ := render_message hwords a.inputFile
  have hescape : escape (e.message doc) = e.message doc :=
    (isPhrase_message doc e).escape_eq (not_mem_getLast?_bracket _)
  have hmessage : ("❌ " : Text) ++ escape a.inputFile ++ (" is not valid JSON: " : Text) ++
      escape (e.message doc) = ("❌" : Text) ++ [CodePoint.scalar ' '] ++ (escape a.inputFile ++
        ([] ++ CodePoint.scalar ' ' :: (("is not valid JSON: " : Text) ++ e.message doc))) := by
    rw [hescape]
    simp [ofString, ofChars]
  have hline : ("❌" : Text) ++ [CodePoint.scalar ' '] ++ shown ++
      CodePoint.scalar ' ' :: (("is not valid JSON: " : Text) ++ e.message doc) ++ [newline] =
        ("❌ " : Text) ++ shown ++ (" is not valid JSON: " : Text) ++ e.message doc ++
          [newline] := by
    simp [ofString, ofChars]
  rw [hline] at hrender
  rw [List.append_nil] at hshown
  rw [hmessage]
  exact reports_finish hrender (.notJson doc e hshown)

/-- What a run meets first is reported, unless it is an input file without text. -/
theorem convertFile_of_meets (h : Meets a w p) (hp : p ≠ .undecodable) :
    Reports a w p (convertFile launch a w) := by
  unfold convertFile
  cases h with
  | optionsNotJson hraw hjson =>
    simp only [hraw, parseFormatterOptions_of_error hjson]
    exact reports_optionsNotJson _
  | optionsNotObject hraw hjson hobject =>
    simp only [hraw, parseFormatterOptions_of_not_mapping hjson hobject]
    exact reports_optionsNotObject
  | unreadable hoptions hread =>
    simp only [hoptions, hread]
    exact reports_unreadable hread
  | undecodable => exact absurd rfl hp
  | notJson hoptions hread hbytes hjson =>
    simp only [hoptions, hread, decode?_eq_some_iff.2 hbytes, hjson]
    exact reports_notJson _ _

/-- An input file without text ends the run, and nothing is reported. -/
theorem convertFile_of_undecodable (h : Meets a w .undecodable) : convertFile launch a w =
    ⟨1, [], journalText a.verbose w.journal, some .undecodable, w⟩ := by
  cases h with
  | undecodable hoptions hread hbytes =>
    unfold convertFile
    simp only [hoptions, hread, decode?_eq_none_iff.2 hbytes]
    rfl

/-- **Problems before a conversion.** Whatever the command line, the files and the launcher are,
options that are no JSON object, an input file that cannot be read and one with a document that is
no JSON are reported: the run exits with 1, its line names the problem, and no file has changed and
no program was started. Bytes of no text end the run as well, with 1 and without a change, but with
a failure instead of a line. Without a problem the conversion starts. -/
theorem convertFile_reports (launch : Launcher) (a : Arguments) (w : World) :
    (∀ p, Meets a w p → p ≠ .undecodable → Reports a w p (convertFile launch a w)) ∧
    (Meets a w .undecodable → convertFile launch a w =
      ⟨1, [], journalText a.verbose w.journal, some .undecodable, w⟩) ∧
    ((∃ p, Meets a w p) ∨ ∃ given v, Reads a w given v ∧
      convertFile launch a w = convertAndWrite launch a w (conversionOptions a given) v) := by
  refine ⟨fun p => convertFile_of_meets, convertFile_of_undecodable, ?_⟩
  rcases meets_or_reads a w with hmeets | ⟨given, v, hreads⟩
  · exact Or.inl hmeets
  · exact Or.inr ⟨given, v, hreads, convertFile_of_reads hreads⟩

end

/-- A directory, and a file that ends in the middle of a list. -/
def brokenWorld : World :=
  { files := [("in", .directory), ("in.json", .file [91, 49, 44])] }

/-- A list as formatter options, a directory as input, and half a document are reported. -/
theorem convertFile_reports_broken :
    Reports { sampleArguments with formatterOptions := some "[1]" } brokenWorld .optionsNotObject
      (convertFile echo { sampleArguments with formatterOptions := some "[1]" } brokenWorld) ∧
    Reports { sampleArguments with inputFile := "in" } brokenWorld (.unreadable (.isDirectory "in"))
      (convertFile echo { sampleArguments with inputFile := "in" } brokenWorld) ∧
    Reports sampleArguments brokenWorld (.notJson "[1," ⟨.value, 0⟩)
      (convertFile echo sampleArguments brokenWorld) := by
  have hlist : Json.read "[1]" = .ok (.sequence .list [.int 1]) := rfl
  have hnot : ∀ kind ms, Value.sequence .list [.int 1] ≠ .mapping kind ms := nofun
  have hoptions : Meets { sampleArguments with formatterOptions := some "[1]" } brokenWorld
      .optionsNotObject := .optionsNotObject rfl hlist hnot
  have hdirectory : Meets { sampleArguments with inputFile := "in" } brokenWorld
      (.unreadable (.isDirectory "in")) := .unreadable rfl rfl
  have hhalf : Meets sampleArguments brokenWorld (.notJson (normalizeBreaks "[1,") ⟨.value, 0⟩) :=
    .notJson rfl rfl (by decide +kernel) rfl
  rw [show normalizeBreaks "[1," = "[1," by decide +kernel] at hhalf
  exact ⟨(convertFile_reports echo _ _).1 _ hoptions nofun,
    (convertFile_reports echo _ _).1 _ hdirectory nofun,
    (convertFile_reports echo _ _).1 _ hhalf nofun⟩

/-- A file with one byte that is no UTF-8. -/
def latinWorld : World := { files := [("in.json", .file [0xFF])] }

/-- No line names the problem with it: the run ends with a failure. -/
theorem not_reports_latin :
    Meets sampleArguments latinWorld .undecodable ∧
      (∀ p, ¬ Reports sampleArguments latinWorld p (convertFile echo sampleArguments latinWorld)) ∧
      (convertFile echo sampleArguments latinWorld).failure = some .undecodable ∧
      (convertFile echo sampleArguments latinWorld).exitCode = 1 ∧
      (convertFile echo sampleArguments latinWorld).stderr = [] := by
  have hfailure : (convertFile echo sampleArguments latinWorld).failure = some .undecodable := by
    decide +kernel
  have hbytes : ∀ doc, encode? doc ≠ some [0xFF] := decode?_eq_none_iff.1 (by decide +kernel)
  refine ⟨.undecodable rfl (by decide +kernel) hbytes, fun p h => ?_, hfailure, by decide +kernel,
    by decide +kernel⟩
  have := h.failure
  rw [hfailure] at this
  cases this

end Program

end JsLiteral
