import JsLiteral.Proofs.Frame
import JsLiteral.Proofs.Json.Loading
import JsLiteral.Proofs.Number.Setting

/-!
# The formatter's program

Before a program is started everything about its run is settled: the members of the options, the
time limit, the text of the configuration, the command line. The first of these that fails is what
formatting fails with, and no program is started. If none does, one program is started, which finds
the configuration under the path on its command line, and how it ends decides the answer. Either
way the configuration is gone afterwards.

    what does not prepare a run fails and changes nothing      (format_of_prepared_eq_error)
    what prepares a run starts it once and answers for it      (format_of_prepared_eq_ok)
    the files are those from before, whatever happened, and
    what a program found was the text of the configuration     (format_leaves_no_configuration)
    a setting is in force as the number that its text is       (hasTimeout_setting_iff)
    what stands against a run, or the run and what comes of it (format_outcome)
-/

namespace JsLiteral

open Text Json

/-- The run that an event started. -/
def Event.run? : Event → Option Run
  | .started run => some run
  | _ => none

/-- The runs that the journal holds. -/
def World.runs (w : World) : List Run := w.journal.filterMap Event.run?

/-! ## Options with a parser -/

theorem get?_withParser (ms : Members) :
    (withParser ms).get? parserKey = some ((ms.get? parserKey).getD defaultParser) := by
  unfold withParser
  cases h : ms.get? parserKey with
  | some v => simpa using h
  | none =>
    have hfind : List.find? (fun p => p.1.same parserKey) ms = none := by
      simpa [Members.get?] using h
    simp only [Option.isSome_none, Bool.false_eq_true, if_false, Members.get?, List.find?_append,
      hfind]
    rfl

/-- The members of a configuration: those of the options, and after them the parser `babel` if
they name none. -/
inductive Configures (members : Members) : Members → Prop where
  | named {v : Value} (h : members.get? (.text "parser") = some v) : Configures members members
  | added (h : members.get? (.text "parser") = none) :
    Configures members (members ++ [(.text "parser", .text "babel")])

theorem Configures.eq_append {members config : Members} (h : Configures members config)
    (hnone : members.get? (.text "parser") = none) :
    config = members ++ [(.text "parser", .text "babel")] := by
  cases h with
  | named h =>
    rw [hnone] at h
    cases h
  | added => rfl

theorem configures_withParser (members : Members) : Configures members (withParser members) := by
  unfold withParser
  cases h : members.get? parserKey with
  | some v => exact .named h
  | none => exact .added h

namespace External

/-! ## Preparing a run -/

/-- A run under the configuration `text`, which is in the file under `path`. -/
def runWith (files : Files) (code path : Text) (timeout : Value) (text : Text)
    (command : List Text) (parser : Text) : Run :=
  ⟨command ++ [("--config" : Text), path, ("--parser" : Text), parser], path, code, timeout,
    files.put path (.file (text.map fun c => c.toNat.toUInt8))⟩

/-- A run with its configuration in the file under `path`, or what stands against it. -/
def configured (x : External) (w : World) (code : Text) (config : Members) (timeout : Value)
    (path : Text) : Except Failure Run := do
  let text ← Compact.text w.heap (.mapping .dict config)
  let command ← x.resolveCommand w.settings
  let parser := (config.get? parserKey).getD defaultParser
  pure (runWith w.files code path timeout text command (parser.display w.heap))

/-- The run that options ask for, or what stands against it. -/
def prepared (x : External) (w : World) (code : Text) (options : Value) : Except Failure Run := do
  let members ← Members.ofValue w.heap options
  let timeout ← x.resolveTimeout w.settings
  let path := w.files.fresh configName
  let w₁ : World := { w with files := w.files.put path (.file []) }
  x.configured w₁ code (withParser members) timeout path

/-- A program that is started with the configuration's path and a parser after a command line, and
that finds the text of the configuration under the path, which was free before. -/
structure Finds (files : Files) (command : List Text) (parser text : Text) (run : Run) : Prop where
  arguments : run.arguments =
    command ++ [("--config" : Text), run.configPath, ("--parser" : Text), parser]
  fresh : files.get? run.configPath = none
  config : run.config? = some text

/-- The answer for a run that ends in some way. -/
def answered (heap : Heap) (run : Run) : Outcome → Except Failure Text
  | .finished exit stdout stderr =>
    if exit = 0 then .ok stdout else .error (.formatterExited exit stderr.trim)
  | .failed cause => .error (reported (run.arguments.headD []) (run.timeout.display heap) cause)

/-- The note that a run is started. -/
def announced (run : Run) : Event :=
  .noted .debug .formatter (("Running formatter: " : Text) ++ Text.join " " run.arguments)

section

variable {x : External} {launch : Launcher} {code path : Text} {config : Members}
variable {timeout options : Value} {w : World} {run : Run} {e : Failure}

theorem configured_eq_error_of_text
    (h : Compact.text w.heap (.mapping .dict config) = .error e) :
    x.configured w code config timeout path = .error e := by
  unfold configured
  rw [h]
  rfl

theorem configured_eq_error_of_command {text : Text}
    (hjson : Compact.text w.heap (.mapping .dict config) = .ok text)
    (h : x.resolveCommand w.settings = .error e) :
    x.configured w code config timeout path = .error e := by
  unfold configured
  rw [hjson, h]
  rfl

theorem configured_eq_ok {text : Text} {command : List Text}
    (hjson : Compact.text w.heap (.mapping .dict config) = .ok text)
    (hcommand : x.resolveCommand w.settings = .ok command) :
    x.configured w code config timeout path = .ok (runWith w.files code path timeout text command
      (((config.get? parserKey).getD defaultParser).display w.heap)) := by
  unfold configured
  rw [hjson, hcommand]
  rfl

/-- What a run is configured with. -/
theorem of_configured_eq_ok (h : x.configured w code config timeout path = .ok run) :
    ∃ text command, Compact.text w.heap (.mapping .dict config) = .ok text ∧
      x.resolveCommand w.settings = .ok command ∧
      run = runWith w.files code path timeout text command
        (((config.get? parserKey).getD defaultParser).display w.heap) := by
  obtain ⟨text, hjson, h⟩ := bind_eq_ok h
  obtain ⟨command, hcommand, h⟩ := bind_eq_ok h
  exact ⟨text, command, hjson, hcommand, (Except.ok.inj h).symm⟩

/-- A run that is not configured is not started; only its own file may have been written. -/
theorem start_of_configured_eq_error (launch : Launcher)
    (h : x.configured w code config timeout path = .error e) :
    ∃ files, files.remove path = w.files.remove path ∧
      (x.start launch code config timeout path).run w = (.error e, { w with files }) := by
  unfold configured at h
  unfold start
  simp only [Task.run_bind, Task.run_get]
  cases hjson : Compact.text w.heap (.mapping .dict config) with
  | error e' =>
    rw [hjson] at h
    cases h
    exact ⟨w.files, rfl, rfl⟩
  | ok text =>
    rw [hjson] at h
    cases hcommand : x.resolveCommand w.settings with
    | error e' =>
      -- the configuration is written before the command line is read
      rw [hcommand] at h
      cases h
      exact ⟨_, Files.remove_put _ _ _, rfl⟩
    | ok command =>
      rw [hcommand] at h
      cases h

/-- A run that is configured is started, and how it ends decides the answer. -/
theorem start_of_configured_eq_ok (launch : Launcher)
    (h : x.configured w code config timeout path = .ok run) :
    (x.start launch code config timeout path).run w =
      (match launch run with
        | .failed cause =>
          .error (reported (run.arguments.headD []) (run.timeout.display w.heap) cause)
        | outcome => .ok (run, outcome),
      { w with
        files := run.files
        journal := w.journal ++ [announced run] ++ [.started run] }) := by
  obtain ⟨text, command, hjson, hcommand, rfl⟩ := of_configured_eq_ok h
  unfold start runWith
  simp only [Task.run_bind, Task.run_get, hjson, Task.run_ofExcept_ok, Task.run_modify, hcommand,
    Task.run_note, Task.run_record]
  cases launch _ with
  | failed cause => rfl
  | finished exit stdout stderr => rfl

theorem finds_runWith {text parser : Text} {command : List Text} (h : IsAscii text) :
    Finds w.files command parser text (runWith (w.files.put (w.files.fresh configName) (.file []))
      code (w.files.fresh configName) timeout text command parser) where
  arguments := rfl
  fresh := Files.get?_fresh _ _
  config := by
    unfold Run.config? runWith
    simp only [Files.get?_put, h.map_bytes]

theorem remove_fresh (fs : Files) (base : Text) (e : Entry) :
    (fs.put (fs.fresh base) e).remove (fs.fresh base) = fs := by
  rw [Files.remove_put, Files.remove_of_get?_eq_none (Files.get?_fresh fs base)]

theorem filterMap_run?_started (events : List Event) (run : Run) :
    (events ++ [announced run] ++ [Event.started run]).filterMap Event.run? =
      events.filterMap Event.run? ++ [run] := by
  rw [List.filterMap_append, List.filterMap_append]
  exact congrArg (· ++ [run]) (List.append_nil _)

theorem format_of_prepared_eq_error (h : x.prepared w code options = .error e) :
    (x.format launch code options).run w = (.error e, w) := by
  unfold prepared at h
  unfold format
  simp only [Task.run_bind, Task.run_get]
  cases hmembers : Members.ofValue w.heap options with
  | error e' =>
    rw [hmembers] at h
    cases h
    rfl
  | ok members =>
    cases htimeout : x.resolveTimeout w.settings with
    | error e' =>
      rw [hmembers, htimeout] at h
      cases h
      simp only [Task.run_ofExcept_ok, htimeout]
      rfl
    | ok timeout =>
      rw [hmembers, htimeout] at h
      obtain ⟨files, hfiles, hstart⟩ := start_of_configured_eq_error launch h
      simp only [Task.run_ofExcept_ok, htimeout, Task.run_withFile, hstart]
      rw [hfiles, remove_fresh]

theorem format_of_prepared_eq_ok (launch : Launcher) (h : x.prepared w code options = .ok run) :
    ∃ w', (x.format launch code options).run w = (answered w.heap run (launch run), w') ∧
      w'.files = w.files ∧ w'.runs = w.runs ++ [run] := by
  obtain ⟨members, hmembers, h⟩ := bind_eq_ok h
  obtain ⟨timeout, htimeout, h⟩ := bind_eq_ok h
  have hstart := start_of_configured_eq_ok launch h
  -- the configuration is the only file that is written, and nothing had its name
  have hfiles : run.files.remove (w.files.fresh configName) = w.files := by
    obtain ⟨text, command, -, -, rfl⟩ := of_configured_eq_ok h
    exact (Files.remove_put _ _ _).trans (remove_fresh _ _ _)
  unfold format
  simp only [Task.run_bind, Task.run_get, hmembers, Task.run_ofExcept_ok, htimeout,
    Task.run_withFile, hstart]
  have hruns := filterMap_run?_started w.journal run
  cases launch run with
  | failed cause => exact ⟨_, rfl, hfiles, hruns⟩
  | finished exit stdout stderr =>
    by_cases hexit : exit = 0
    · simp only [if_pos hexit, answered]
      exact ⟨_, rfl, hfiles, hruns⟩
    · simp only [if_neg hexit, answered]
      refine ⟨_, rfl, hfiles, ?_⟩
      exact List.filterMap_append.trans ((List.append_nil _).trans hruns)

/-! ## Nothing is left behind -/

/-- What a run is prepared with. -/
theorem of_prepared_eq_ok (h : x.prepared w code options = .ok run) :
    ∃ members timeout text command, Members.ofValue w.heap options = .ok members ∧
      x.resolveTimeout w.settings = .ok timeout ∧
      Compact.text w.heap (.mapping .dict (withParser members)) = .ok text ∧
      x.resolveCommand w.settings = .ok command ∧
      run = runWith (w.files.put (w.files.fresh configName) (.file [])) code
        (w.files.fresh configName) timeout text command
        (((members.get? parserKey).getD defaultParser).display w.heap) := by
  obtain ⟨members, hmembers, h⟩ := bind_eq_ok h
  obtain ⟨timeout, htimeout, h⟩ := bind_eq_ok h
  obtain ⟨text, command, hjson, hcommand, hrun⟩ := of_configured_eq_ok h
  rw [get?_withParser] at hrun
  exact ⟨members, timeout, text, command, hmembers, htimeout, hjson, hcommand, hrun⟩

/-- **No configuration is left behind**, whatever the formatter is called with and however its
program ends: the files are those from before the call. At most one program is started. It finds a
new file under the path on its command line, and the file holds the whole text of the options with
a parser. This is one JSON document, in which every member is read back, and the parser `babel` if
the options name none. -/
theorem format_leaves_no_configuration (x : External) (launch : Launcher) (code : Text)
    (options : Value) (w : World) :
    ((x.format launch code options).run w).2.files = w.files ∧
      ∃ started : List Run, ((x.format launch code options).run w).2.runs = w.runs ++ started ∧
        started.length ≤ 1 ∧ ∀ run ∈ started, ∃ command parser members config pairs text,
          Members.ofValue w.heap options = .ok members ∧
          (∀ kind ms, options.container? w.heap = some (.mapping kind ms) → members = ms) ∧
          Configures members config ∧
          config.get? (.text "parser") =
            some ((members.get? (.text "parser")).getD (.text "babel")) ∧
          Finds w.files command parser text run ∧
          (encode? text).map .file = run.files.get? run.configPath ∧
          Compact.text w.heap (.mapping .dict config) = .ok text ∧
          MembersLoad w.heap config pairs ∧
          Json.read text = .ok (.mapping .dict (Members.ofPairs pairs)) ∧
          (members.get? (.text "parser") = none →
            (Members.ofPairs pairs).get? (.text "parser") = some (.text "babel")) := by
  cases hprepared : x.prepared w code options with
  | error e =>
    rw [format_of_prepared_eq_error hprepared]
    exact ⟨rfl, [], (List.append_nil _).symm, Nat.zero_le 1, fun _ h => absurd h List.not_mem_nil⟩
  | ok run =>
    obtain ⟨w', hrun, hfiles, hruns⟩ := format_of_prepared_eq_ok launch hprepared
    obtain ⟨members, timeout, text, command, hmembers, -, hjson, -, hwith⟩ :=
      of_prepared_eq_ok hprepared
    obtain ⟨pairs, hloads, hread⟩ := exists_read_members hjson
    rw [hrun]
    refine ⟨hfiles, [run], hruns, Nat.le_refl 1, fun run' h => ?_⟩
    rw [List.mem_singleton.1 h, hwith]
    have hascii := Compact.isAscii_text hjson
    refine ⟨command, _, members, _, pairs, text, hmembers, fun kind ms hc => ?_,
      configures_withParser members, get?_withParser members, finds_runWith hascii, ?_, hjson,
      hloads, hread, fun hnone => ?_⟩
    · unfold Members.ofValue at hmembers
      rw [hc] at hmembers
      exact (Except.ok.inj hmembers).symm
    · rw [hascii.encode?_eq]
      exact (Files.get?_put _ _ _).symm
    · rw [(configures_withParser members).eq_append hnone] at hloads
      exact hloads.get?_concat (by decide) (by decide)

/-- A list that options refer to: a text past U+FFFF with a lone surrogate, and a tuple. -/
def plugins : Container :=
  .sequence .list [.text [.ofNat 0x1F600, .ofNat 0xD800], .sequence .tuple [.null, .int (-7)]]

/-- There is a file by the name that configurations have. -/
def crowded : World := { heap := [plugins], files := [(configName, .file [0x31])] }

def pluginOptions : Members :=
  [(.text "plugins", .shared 0), (.int 4, .float (.ofBits 0x3FE0000000000000))]

/-- The text of the options with a parser. -/
def pluginText : Text :=
  ("\x7b\"plugins\": [\"\\ud83d\\ude00\\ud800\", [null, -7]], " : Text) ++
    ("\"4\": 0.5, \"parser\": \"babel\"\x7d" : Text)

/-- What is read of the text. -/
def pluginMembers : Members :=
  [(.text "plugins", .sequence .list [.text [.ofNat 0x1F600, .ofNat 0xD800],
      .sequence .list [.null, .int (-7)]]),
    (.text "4", .float (.ofBits 0x3FE0000000000000)), (.text "parser", .text "babel")]

/-- Options whose text breaks off at the second member. -/
def unwritable : Members :=
  [(.text "plugins", .shared 0), (.text "semi", .other "set" "set()" none)]

/-- No program is found. -/
def absent : Launcher := fun run => .failed (.missingFile (run.arguments.headD []))

/-- The world after formatting under options. -/
def afterFormat (options : Members) : World :=
  ((format {} absent "1" (.mapping .dict options)).run crowded).2

/-- A program is started, is not found, and the file that was there before is left; where the
options cannot be written there is none. -/
theorem format_leaves_no_configuration_crowded :
    (afterFormat pluginOptions).files = crowded.files ∧
    (∃ run, (afterFormat pluginOptions).runs = [run] ∧ run.config? = some pluginText) ∧
    Json.read pluginText = .ok (.mapping .dict pluginMembers) ∧
    (afterFormat unwritable).files = crowded.files ∧ (afterFormat unwritable).runs = [] := by
  obtain ⟨hfiles, started, hruns, -, hall⟩ :=
    format_leaves_no_configuration {} absent "1" (.mapping .dict pluginOptions) crowded
  have hunwritten :=
    (format_leaves_no_configuration {} absent "1" (.mapping .dict unwritable) crowded).1
  have hone : (afterFormat pluginOptions).runs.length = 1 := by decide +kernel
  have hnone : (afterFormat unwritable).runs = [] :=
    List.eq_nil_of_length_eq_zero (by decide +kernel)
  obtain ⟨run, rfl⟩ : ∃ run, started = [run] := by
    rw [afterFormat, hruns] at hone
    exact List.length_eq_one_iff.1 hone
  obtain ⟨command, parser, members, config, pairs, text, hmembers, -, hconfig, -, hfinds, -, hjson,
    hloads, hread, -⟩ := hall run List.mem_cons_self
  obtain rfl : members = pluginOptions := (Except.ok.inj hmembers).symm
  obtain rfl := hconfig.eq_append rfl
  have htext : Compact.text crowded.heap (.mapping .dict
      (pluginOptions ++ [(.text "parser", .text "babel")])) = .ok pluginText := by decide +kernel
  obtain rfl : text = pluginText := Except.ok.inj (hjson.symm.trans htext)
  have hitems : Loads crowded.heap (.shared 0) (.sequence .list
      [.text [.ofNat 0x1F600, .ofNat 0xD800], .sequence .list [.null, .int (-7)]]) :=
    .sequence rfl (Or.inl rfl) (.cons (.leaf (.text (joins_self rfl)))
      (.cons (.sequence rfl (Or.inr rfl) (.cons (.leaf .null) (.cons (.leaf (.int _)) .nil))) .nil))
  have hmembersLoad : MembersLoad crowded.heap
      (pluginOptions ++ [(.text "parser", .text "babel")]) pluginMembers :=
    .cons (.text (joins_self rfl)) hitems (.cons (.int 4) (.leaf (.float rfl))
      (.cons (.text (joins_self rfl)) (.leaf (.text (joins_self rfl))) .nil))
  obtain rfl : pairs = pluginMembers := hmembersLoad.unique hloads
  exact ⟨hfiles, ⟨run, hruns, hfinds.config⟩, hread, hunwritten, hnone⟩

/-! ## What stands against a run -/

/-- The command line that a program is started with: the formatter's own, else the words of the
setting, else the default, each only if it has words. -/
inductive HasCommand (x : External) (s : Settings) : List Text → Prop where
  | own (h : x.command ≠ []) : HasCommand x s x.command
  | setting {t : Text} {words : List Text} (h : x.command = []) (hs : s.formatter = some t)
    (hw : Text.words t = .ok words) (hne : words ≠ []) : HasCommand x s words
  | blank {t : Text} (h : x.command = []) (hs : s.formatter = some t)
    (hw : Text.words t = .ok []) : HasCommand x s defaultCommand
  | unset (h : x.command = []) (hs : s.formatter = none) : HasCommand x s defaultCommand

/-- The time limit that a program is started with: the formatter's own, else the number in the
setting, else none. -/
inductive HasTimeout (x : External) (s : Settings) : Value → Prop where
  | own (h : x.timeout ≠ .null) : HasTimeout x s x.timeout
  | setting {t : Text} {seconds : Binary64} (h : x.timeout = .null) (hs : s.timeout = some t)
    (hne : t ≠ []) (hr : Numeral.readBinary64 t = some seconds) : HasTimeout x s (.float seconds)
  | unset (h : x.timeout = .null) (hs : s.timeout = none ∨ s.timeout = some []) :
    HasTimeout x s .null

/-- The failure of a command line that has no words. -/
def unreadable : WordsError → Failure
  | .unclosedQuote => .unclosedQuote
  | .danglingEscape => .danglingEscape

/-- What stands against a run under `members`: the time limit before the configuration, and this
before the command line. -/
inductive Refuses (x : External) (w : World) (members : Members) : Failure → Prop where
  | timeout {t : Text} (h : x.timeout = .null) (hs : w.settings.timeout = some t) (hne : t ≠ [])
    (hr : Numeral.readBinary64 t = none) : Refuses x w members (.badTimeout t)
  | config {timeout : Value} {e : Failure} (ht : HasTimeout x w.settings timeout)
    (he : Compact.text w.heap (.mapping .dict (withParser members)) = .error e) :
    Refuses x w members e
  | command {timeout : Value} {text t : Text} {fault : WordsError}
    (ht : HasTimeout x w.settings timeout)
    (hj : Compact.text w.heap (.mapping .dict (withParser members)) = .ok text)
    (h : x.command = []) (hs : w.settings.formatter = some t) (hw : Text.words t = .error fault) :
    Refuses x w members (unreadable fault)

/-- A setting without words is as good as none. -/
theorem resolveCommand_of_setting {s : Settings} {t : Text} (h : x.command = [])
    (hs : s.formatter = some t) :
    x.resolveCommand s = match Text.words t with
      | .ok [] => .ok defaultCommand
      | .ok words => .ok words
      | .error fault => .error (unreadable fault) := by
  unfold resolveCommand Settings.command?
  cases t with
  | nil => simp [h, hs, Text.words, wordsFrom]
  | cons c t =>
    cases hw : Text.words (c :: t) with
    | error fault => cases fault <;> simp [h, hs, hw, unreadable]
    | ok words => cases words <;> simp [h, hs, hw]

theorem resolveTimeout_of_setting {s : Settings} {t : Text} (h : x.timeout = .null)
    (hs : s.timeout = some t) (hne : t ≠ []) :
    x.resolveTimeout s = match Numeral.readBinary64 t with
      | some seconds => .ok (.float seconds)
      | none => .error (.badTimeout t) := by
  unfold resolveTimeout Settings.timeout?
  cases hr : Numeral.readBinary64 t <;> simp [h, hs, hne, hr, Except.map]

theorem HasCommand.resolveCommand_eq {s : Settings} {command : List Text}
    (h : HasCommand x s command) : x.resolveCommand s = .ok command := by
  cases h with
  | own h =>
    unfold resolveCommand
    rw [if_pos (by simpa using h)]
  | setting h hs hw hne =>
    obtain ⟨word, words, rfl⟩ := List.exists_cons_of_ne_nil hne
    rw [resolveCommand_of_setting h hs, hw]
  | blank h hs hw => rw [resolveCommand_of_setting h hs, hw]
  | unset h hs =>
    unfold resolveCommand Settings.command?
    simp [h, hs]

theorem HasTimeout.resolveTimeout_eq {s : Settings} (h : HasTimeout x s timeout) :
    x.resolveTimeout s = .ok timeout := by
  cases h with
  | own h =>
    unfold resolveTimeout
    split
    · rename_i hnull
      exact absurd hnull h
    · rfl
  | setting h hs hne hr => rw [resolveTimeout_of_setting h hs hne, hr]
  | unset h hs =>
    unfold resolveTimeout Settings.timeout?
    rcases hs with hs | hs
    · simp [h, hs, Except.map]
    · simp [h, hs, Except.map]

/-- A setting is in force as the number that its text is. -/
theorem hasTimeout_setting_iff {s : Settings} {t : Text} (h : x.timeout = .null)
    (hs : s.timeout = some t) (hne : t ≠ []) : HasTimeout x s timeout ↔
      ∃ seconds, timeout = .float seconds ∧ Numeral.IsGrouped false (Numeral.prepare t) ∧
        Numeral.IsSigned (Numeral.withoutUnderscores (Numeral.prepare t)) seconds := by
  constructor
  · rintro (hown | @⟨t', seconds, -, hs', -, hr⟩ | ⟨-, hunset⟩)
    · exact absurd h hown
    · obtain rfl : t = t' := Option.some.inj (hs.symm.trans hs')
      exact ⟨seconds, rfl, Numeral.readBinary64_eq_some_iff.1 hr⟩
    · rw [hs] at hunset
      rcases hunset with hunset | hunset
      · cases hunset
      · exact absurd (Option.some.inj hunset) hne
  · rintro ⟨seconds, rfl, hr⟩
    exact .setting h hs hne (Numeral.readBinary64_eq_some_iff.2 hr)

theorem prepared_eq_configured {members : Members}
    (hmembers : Members.ofValue w.heap options = .ok members)
    (htimeout : x.resolveTimeout w.settings = .ok timeout) :
    x.prepared w code options = x.configured
      { w with files := w.files.put (w.files.fresh configName) (.file []) } code
      (withParser members) timeout (w.files.fresh configName) := by
  unfold prepared
  rw [hmembers, htimeout]
  rfl

theorem Refuses.prepared_eq {members : Members} (h : Refuses x w members e)
    (hmembers : Members.ofValue w.heap options = .ok members) :
    x.prepared w code options = .error e := by
  cases h with
  | timeout h hs hne hr =>
    unfold prepared
    rw [hmembers, resolveTimeout_of_setting h hs hne, hr]
    rfl
  | config ht he =>
    rw [prepared_eq_configured hmembers ht.resolveTimeout_eq]
    exact configured_eq_error_of_text he
  | command ht hj h hs hw =>
    rw [prepared_eq_configured hmembers ht.resolveTimeout_eq]
    refine configured_eq_error_of_command hj ?_
    exact (resolveCommand_of_setting h hs).trans (by rw [hw])

theorem exists_hasTimeout_or (x : External) (s : Settings) :
    (∃ timeout, HasTimeout x s timeout) ∨ x.timeout = .null ∧
      ∃ t, s.timeout = some t ∧ t ≠ [] ∧ Numeral.readBinary64 t = none := by
  by_cases h : x.timeout = .null
  · cases hs : s.timeout with
    | none => exact Or.inl ⟨_, .unset h (Or.inl hs)⟩
    | some t =>
      by_cases hne : t = []
      · exact Or.inl ⟨_, .unset h (Or.inr (hne ▸ hs))⟩
      · cases hr : Numeral.readBinary64 t with
        | none => exact Or.inr ⟨h, t, rfl, hne, hr⟩
        | some seconds => exact Or.inl ⟨_, .setting h hs hne hr⟩
  · exact Or.inl ⟨_, .own h⟩

theorem exists_hasCommand_or (x : External) (s : Settings) :
    (∃ command, HasCommand x s command) ∨ x.command = [] ∧
      ∃ t fault, s.formatter = some t ∧ Text.words t = .error fault := by
  by_cases h : x.command = []
  · cases hs : s.formatter with
    | none => exact Or.inl ⟨_, .unset h hs⟩
    | some t =>
      cases hw : Text.words t with
      | error fault => exact Or.inr ⟨h, t, fault, rfl, hw⟩
      | ok words =>
        by_cases hne : words = []
        · exact Or.inl ⟨_, .blank h hs (hne ▸ hw)⟩
        · exact Or.inl ⟨_, .setting h hs hw hne⟩
  · exact Or.inl ⟨_, .own h⟩

/-- Nothing else stands against a run. -/
theorem exists_refuses_or (x : External) (w : World) (members : Members) :
    (∃ e, Refuses x w members e) ∨ ∃ command timeout text, HasCommand x w.settings command ∧
      HasTimeout x w.settings timeout ∧
      Compact.text w.heap (.mapping .dict (withParser members)) = .ok text := by
  rcases exists_hasTimeout_or x w.settings with ⟨timeout, htimeout⟩ | ⟨h, t, hs, hne, hr⟩
  · cases hjson : Compact.text w.heap (.mapping .dict (withParser members)) with
    | error e => exact Or.inl ⟨e, .config htimeout hjson⟩
    | ok text =>
      rcases exists_hasCommand_or x w.settings with ⟨command, hcommand⟩ | ⟨h, t, fault, hs, hw⟩
      · exact Or.inr ⟨command, timeout, text, hcommand, htimeout, rfl⟩
      · exact Or.inl ⟨_, .command htimeout hjson h hs hw⟩
  · exact Or.inl ⟨_, .timeout h hs hne hr⟩

/-! ## What a run comes to -/

/-- What the caller is told about the way a program ends. -/
inductive ComesTo : Outcome → Except Failure Text → Prop where
  | success {stdout stderr : Text} : ComesTo (.finished 0 stdout stderr) (.ok stdout)
  | exited {exit : Int} {stdout stderr : Text} {e : Failure} (h : exit ≠ 0)
    (hkind : e.kind = .formatterProcess) (hprocess : e.process? = some (some exit, stderr.trim)) :
    ComesTo (.finished exit stdout stderr) (.error e)
  | missing {cause e : Failure} (h : cause.kind = .missingFile)
    (hkind : e.kind = .formatterMissing) (hcause : e.cause? = some cause) :
    ComesTo (.failed cause) (.error e)
  | timedOut {cause e : Failure} (h : cause.kind = .timeout) (hkind : e.kind = .formatterProcess)
    (hprocess : e.process? = some (none, [])) (hcause : e.cause? = some cause) :
    ComesTo (.failed cause) (.error e)
  | other {cause : Failure} (hmissing : cause.kind ≠ .missingFile)
    (htimeout : cause.kind ≠ .timeout) : ComesTo (.failed cause) (.error cause)

theorem comesTo_answered (heap : Heap) (run : Run) (outcome : Outcome) :
    ComesTo outcome (answered heap run outcome) := by
  cases outcome with
  | finished exit stdout stderr =>
    by_cases hexit : exit = 0
    · subst hexit
      exact .success
    · rw [answered, if_neg hexit]
      exact .exited hexit rfl rfl
  | failed cause =>
    rw [answered, reported]
    split
    · rename_i hmissing
      exact .missing hmissing rfl rfl
    · rename_i htimeout
      exact .timedOut htimeout rfl rfl rfl
    · rename_i hmissing htimeout
      exact .other hmissing htimeout

/-- The parser of a configuration is the caller's, else the default. -/
theorem parser_cases {members : Members}
    (hparser : ∀ v, members.get? parserKey = some v → ∃ t, v = .text t) :
    ∃ parser : Text, (members.get? parserKey).getD defaultParser = .text parser ∧
      (members.get? parserKey = some (.text parser) ∨
        members.get? parserKey = none ∧ parser = ("babel" : Text)) := by
  cases h : members.get? parserKey with
  | none => exact ⟨"babel", rfl, Or.inr ⟨rfl, rfl⟩⟩
  | some v =>
    obtain ⟨t, rfl⟩ := hparser v h
    exact ⟨t, rfl, Or.inl rfl⟩

/-- A formatter with a time limit of its own does not read the setting. -/
theorem prepared_of_timeout (h : x.timeout ≠ .null) (raw : Option Text) :
    x.prepared { w with settings := { w.settings with timeout := raw } } code options =
      x.prepared w code options := by
  have htimeout : ∀ s, x.resolveTimeout s = .ok x.timeout :=
    fun s => (HasTimeout.own (s := s) h).resolveTimeout_eq
  unfold prepared
  rw [htimeout, htimeout]
  rfl

/-- **What the program's run comes to.** Something stands against a run or all of it is settled.
What stands against it is what formatting fails with, in the order of the checks, and then nothing
has happened. Otherwise one program is started: with the command line in force and after it the
configuration's path and a parser, the code on its input, and the time limit in force. How it ends
decides what the caller gets. A formatter with a time limit of its own does not read the setting. -/
theorem format_outcome (launch : Launcher) (code : Text) {members : Members}
    (hmembers : Members.ofValue w.heap options = .ok members)
    (hparser : ∀ v, members.get? parserKey = some v → ∃ t, v = .text t) :
    ((∃ e, Refuses x w members e) ∨ ∃ command timeout text, HasCommand x w.settings command ∧
      HasTimeout x w.settings timeout ∧
      Compact.text w.heap (.mapping .dict (withParser members)) = .ok text) ∧
    (∀ e, Refuses x w members e → (x.format launch code options).run w = (.error e, w)) ∧
    (∀ command timeout text, HasCommand x w.settings command → HasTimeout x w.settings timeout →
      Compact.text w.heap (.mapping .dict (withParser members)) = .ok text →
      ∃ (parser : Text) (run : Run) (r : Except Failure Text) (w' : World),
        (members.get? parserKey = some (.text parser) ∨
          members.get? parserKey = none ∧ parser = ("babel" : Text)) ∧
        (withParser members).get? parserKey = some (.text parser) ∧
        Finds w.files command parser text run ∧ run.input = code ∧ run.timeout = timeout ∧
        (x.format launch code options).run w = (r, w') ∧ w'.runs = w.runs ++ [run] ∧
        ComesTo (launch run) r) ∧
    (x.timeout ≠ .null → ∀ raw,
      let w₁ := { w with settings := { w.settings with timeout := raw } }
      ((x.format launch code options).run w₁).1 = ((x.format launch code options).run w).1 ∧
        ((x.format launch code options).run w₁).2.runs =
          ((x.format launch code options).run w).2.runs) := by
  refine ⟨exists_refuses_or x w members,
    fun e h => format_of_prepared_eq_error (h.prepared_eq hmembers), ?_, ?_⟩
  · intro command timeout text hcommand htimeout hjson
    obtain ⟨parser, hdefault, hcaller⟩ := parser_cases hparser
    have hprepared : x.prepared w code options = _ :=
      (prepared_eq_configured hmembers htimeout.resolveTimeout_eq).trans
        (configured_eq_ok hjson hcommand.resolveCommand_eq)
    rw [get?_withParser, hdefault] at hprepared
    obtain ⟨w', hrun, -, hruns⟩ := format_of_prepared_eq_ok launch hprepared
    refine ⟨parser, _, _, w', hcaller, ?_, finds_runWith (Compact.isAscii_text hjson), rfl, rfl,
      hrun, hruns, comesTo_answered _ _ _⟩
    rw [get?_withParser, hdefault]
  · intro h raw w₁
    have hprepared : x.prepared w₁ code options = x.prepared w code options :=
      prepared_of_timeout h raw
    cases hrun : x.prepared w code options with
    | error e =>
      rw [format_of_prepared_eq_error hrun, format_of_prepared_eq_error (hprepared.trans hrun)]
      exact ⟨rfl, rfl⟩
    | ok run =>
      obtain ⟨w', hformat, -, hruns⟩ := format_of_prepared_eq_ok launch hrun
      obtain ⟨w₁', hformat₁, -, hruns₁⟩ := format_of_prepared_eq_ok launch (hprepared.trans hrun)
      rw [hformat, hformat₁]
      exact ⟨rfl, hruns₁.trans hruns.symm⟩

/-- A formatter with a time limit of its own, where the setting holds no number. -/
def timed : External := { timeout := .int 1 }

def malformed : World :=
  { settings := { formatter := some "bunx 'a b'", timeout := some "soon" } }

def noSemicolons : Members := [(.text "semi", .bool false)]

/-- A program that refuses its input. -/
def refusing : Launcher := fun run => .finished 2 run.input " no\n"

/-- Two and a half seconds in the setting, with blanks around the number. -/
def patient : World := { settings := { timeout := some " 2.5\n" } }

/-- One program is started all the same, and its exit code and complaint are reported. Without a
time limit of its own a formatter has the one of the setting, and starts no program if this is no
number. -/
theorem format_outcome_refusing :
    (∃ run e w', (timed.format refusing "1" (.mapping .dict noSemicolons)).run malformed =
        (.error e, w') ∧ w'.runs = [run] ∧
      run.arguments = [("bunx" : Text), ("a b" : Text), ("--config" : Text), run.configPath,
        ("--parser" : Text), ("babel" : Text)] ∧
      run.config? = some (Text.ofString "\x7b\"semi\": false, \"parser\": \"babel\"\x7d") ∧
      run.timeout = .int 1 ∧ e.kind = .formatterProcess ∧
      e.process? = some (some 2, Text.ofString "no")) ∧
    (∃ run r w', (format {} refusing "1" (.mapping .dict noSemicolons)).run patient = (r, w') ∧
      w'.runs = [run] ∧ run.timeout = .float (.ofBits 0x4004000000000000)) ∧
    (format {} refusing "1" (.mapping .dict noSemicolons)).run malformed =
      (.error (.badTimeout "soon"), malformed) := by
  have hmembers : ∀ heap, Members.ofValue heap (.mapping .dict noSemicolons) = .ok noSemicolons :=
    fun _ => rfl
  have hparser : ∀ v, noSemicolons.get? parserKey = some v → ∃ t, v = .text t := nofun
  refine ⟨?_, ?_, ?_⟩
  · have hcommand : HasCommand timed malformed.settings ["bunx", "a b"] :=
      .setting rfl rfl rfl (by decide)
    have htimeout : HasTimeout timed malformed.settings (.int 1) := .own nofun
    obtain ⟨-, -, hstarts, -⟩ :=
      format_outcome refusing "1" (hmembers _) hparser (x := timed) (w := malformed)
    obtain ⟨parser, run, r, w', hcaller, -, hfinds, -, hlimit, hrun, hruns, hcomes⟩ :=
      hstarts _ _ _ hcommand htimeout rfl
    rcases hcaller with hcaller | ⟨-, rfl⟩
    · cases hcaller
    · cases hcomes with
      | exited h hkind hprocess =>
        exact ⟨run, _, w', hrun, hruns, hfinds.arguments, hfinds.config, hlimit, hkind, hprocess⟩
  · have hcommand : HasCommand {} patient.settings defaultCommand := .unset rfl rfl
    have hseconds : Numeral.readBinary64 " 2.5\n" = some (.ofBits 0x4004000000000000) := by
      decide +kernel
    have htimeout : HasTimeout {} patient.settings (.float (.ofBits 0x4004000000000000)) :=
      .setting rfl rfl (by decide) hseconds
    obtain ⟨-, -, hstarts, -⟩ :=
      format_outcome refusing "1" (hmembers _) hparser (x := {}) (w := patient)
    obtain ⟨-, run, r, w', -, -, -, -, hlimit, hrun, hruns, -⟩ :=
      hstarts _ _ _ hcommand htimeout rfl
    exact ⟨run, r, w', hrun, hruns, hlimit⟩
  · obtain ⟨-, hrefuses, -, -⟩ :=
      format_outcome refusing "1" (hmembers _) hparser (x := {}) (w := malformed)
    exact hrefuses _ (.timeout rfl rfl (by decide) (by decide +kernel))

end

end External

end JsLiteral
