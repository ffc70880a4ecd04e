import JsLiteral.CommandLine.Program
import JsLiteral.Proofs.CommandLine.Markup
import JsLiteral.Proofs.Encodable
import JsLiteral.Proofs.Process

/-!
# All or nothing

A run of the program that exits with 0 has written the code of the conversion to the output file
and changed nothing else. One that exits with another code has changed nothing, unless the
conversion answered code that has no bytes, or its tag is no markup that can be printed: then the
output file is empty or whole, and the run fails after it was written.

    without code to write        the run fails and nothing is written  (convertFile_of_not_converts)
    with code and a place for it it is written, and the run succeeds
                                 exactly if the code is deliverable         (convertFile_of_leadsTo)
    without surrogates and brackets on the command line it is           (Converts.isDeliverable)
-/

namespace JsLiteral.Program

open Text JsLiteral.Path

section

variable {launch : Launcher} {args : List Text} {a : Arguments} {w : World} {c : Conversion}

/-! ## What the run is about -/

/-- The converter of the program. -/
def converter (launch : Launcher) : Converter := ⟨.standard, External.format {} launch⟩

/-- The command line gives the formatter options `given`, and the input file holds `v`. -/
inductive Reads (a : Arguments) (w : World) (given v : Value) : Prop where
  | intro {bytes : List UInt8} {doc : Text}
    (hoptions : parseFormatterOptions a.formatterOptions = .ok given)
    (hread : Path.read w.files a.inputFile = .ok bytes) (hdecode : decode? bytes = some doc)
    (hjson : Json.read doc.normalizeBreaks = .ok v)

/-- The input is read, and converted under the options of the command line it becomes `c`. -/
inductive Converts (launch : Launcher) (a : Arguments) (w : World) (c : Conversion) : Prop where
  | intro {given v : Value} {w' : World} (hreads : Reads a w given v)
    (hconvert : ((converter launch).convert (conversionOptions a given) v).run (w, ()) =
      (.ok c, (w', ())))

/-- Nothing that is left to do for a conversion can fail once its output file is open: the code
has bytes, and the note about its tag can be printed, if one is due. -/
structure IsDeliverable (a : Arguments) (c : Conversion) : Prop where
  encodes : (encode? c.code).isSome = true
  renders : c.usedTemplates = true → (Markup.render (scopeNote a.templateOpening)).isOk = true

/-- The path leads to a file with these bytes, and no other entry has changed. -/
def WritesOnly (before after : Files) (path : Text) (bytes : List UInt8) : Prop :=
  ∃ name, locate after path = .file name bytes ∧ ∀ n, n ≠ name → after.get? n = before.get? n

theorem writesOnly_put {fs : Files} {path name : Text} (h : LeadsTo fs path name)
    (bytes : List UInt8) : WritesOnly fs (fs.put name (.file bytes)) path bytes :=
  ⟨name, h.locate_put bytes, fun _ hn => Files.get?_put_of_ne hn _⟩

/-! ## What can be delivered -/

/-- Arguments that come into the code as they are hold no surrogate, and the tag of the literals
holds no bracket, which could be one of a tag of markup. -/
structure HasPlainTexts (a : Arguments) : Prop where
  opening : a.opening.IsWritable
  closing : a.closing.IsWritable
  templateOpening : a.templateOpening.IsWritable
  templateClosing : a.templateClosing.IsWritable
  bracket : CodePoint.scalar '[' ∉ a.templateOpening

/-- A launcher whose programs print what can be written. -/
def PrintsWritable (launch : Launcher) : Prop :=
  ∀ ⦃r : Run⦄ ⦃exit : Int⦄ ⦃out err : Text⦄, launch r = .finished exit out err → out.IsWritable

theorem mem_of_mem_trim {t : Text} {d : CodePoint} (h : d ∈ t.trim) : d ∈ t := by
  unfold Text.trim Text.strip at h
  have hend := (List.dropWhile_sublist _).mem (List.mem_reverse.1 h)
  exact (List.dropWhile_sublist _).mem (List.mem_reverse.1 hend)

theorem mem_of_mem_tagName {t : Text} {d : CodePoint} (h : d ∈ tagName t) :
    d ∈ t ∨ d ∈ ("dedent" : Text) := by
  unfold tagName at h
  split at h
  · exact Or.inr h
  · exact Or.inl (mem_of_mem_trim h)

theorem isOk_render_scopeNote {t : Text} (h : CodePoint.scalar '[' ∉ t) :
    (Markup.render (scopeNote t)).isOk = true := by
  refine Markup.isOk_render fun hm => ?_
  unfold scopeNote at hm
  simp only [List.mem_append] at hm
  rcases hm with (hm | hm) | hm
  · exact absurd hm (by decide)
  · rcases mem_of_mem_tagName hm with hm | hm
    · exact h hm
    · exact absurd hm (by decide)
  · exact absurd hm (by decide)

/-- What formatting answers is what the program printed. -/
theorem answersWritable_format (hl : PrintsWritable launch) (x : External) :
    Formatter.AnswersWritable (x.format launch) := by
  intro code given w w' out h
  cases hprepared : x.prepared w code given with
  | error e =>
    rw [External.format_of_prepared_eq_error hprepared] at h
    cases h
  | ok run =>
    obtain ⟨_, hrun, -, -⟩ := External.format_of_prepared_eq_ok launch hprepared
    have hanswer : External.answered w.heap run (launch run) = .ok out :=
      congrArg Prod.fst (hrun.symm.trans h)
    cases houtcome : launch run with
    | failed cause =>
      rw [houtcome] at hanswer
      cases hanswer
    | finished exit stdout stderr =>
      rw [houtcome] at hanswer
      unfold External.answered at hanswer
      simp only at hanswer
      split at hanswer
      · cases hanswer
        exact hl houtcome
      · cases hanswer

/-- What is converted can be delivered, unless a text of the command line stands against it. -/
theorem Converts.isDeliverable (h : Converts launch a w c) (ha : HasPlainTexts a)
    (hl : PrintsWritable launch) : IsDeliverable a c := by
  obtain @⟨given, _, _, -, hconvert⟩ := h
  have hgap : ∀ gap, Json.gap w.heap (conversionOptions a given).space = .ok gap →
      gap.IsWritable := by
    intro gap hgap d hd
    have hcount : IsCount (conversionOptions a given).space := by
      unfold conversionOptions
      cases a.space with
      | none => exact Or.inl rfl
      | some n => exact Or.inr (Or.inr ⟨n, rfl⟩)
    obtain ⟨gap', hgap', hspaces⟩ := exists_gap w.heap hcount
    cases hgap.symm.trans hgap'
    rw [hspaces d hd]
    rfl
  have hcode : c.code.IsWritable := isWritable_code rfl (fun _ => answersWritable_format hl {})
    ha.opening ha.closing ha.templateOpening ha.templateClosing hgap hconvert
  exact ⟨encode?_isSome_iff.2 hcode, fun _ => isOk_render_scopeNote ha.bracket⟩

/-! ## Exits -/

@[simp] theorem finish_world (verbose : Bool) (w : World) (exitCode : Nat) (markup : List Text) :
    (finish verbose w exitCode markup).world = w := by
  unfold finish
  simp only
  split <;> rfl

/-- A run that reports a failure exits with 1, also if the report cannot be printed. -/
theorem finish_one_exitCode (verbose : Bool) (w : World) (markup : List Text) :
    (finish verbose w 1 markup).exitCode = 1 := by
  unfold finish
  simp only
  split <;> rfl

theorem finish_zero_exitCode (verbose : Bool) (w : World) (markup : List Text) :
    (finish verbose w 0 markup).exitCode = 0 ↔ (markup.mapM Markup.render).isOk = true := by
  unfold finish
  simp only
  cases markup.mapM Markup.render with
  | ok lines => exact ⟨fun _ => rfl, fun _ => rfl⟩
  | error e => exact ⟨nofun, nofun⟩

theorem isOk_mapM_singleton (t : Text) :
    ([t].mapM Markup.render).isOk = (Markup.render t).isOk := by
  rw [List.mapM_cons, List.mapM_nil]
  cases Markup.render t <;> rfl

/-! ## The last steps -/

/-- What is left to do when the conversion has answered. -/
def deliver (a : Arguments) (w : World) (c : Conversion) : Result :=
  match writeOutput a w c.code with
  | (.error e, w) => escaped a.verbose w e
  | (.ok _, w) =>
    finish a.verbose w 0 (if c.usedTemplates then [scopeNote a.templateOpening] else [])

theorem deliver_of_not_leadsTo (h : ∀ name, ¬ LeadsTo w.files a.outputFile name) :
    (deliver a w c).exitCode = 1 ∧ (deliver a w c).world.files = w.files := by
  unfold deliver writeOutput
  simp only
  cases hwrite : Path.write w.files a.outputFile ((encode? c.code).getD []) with
  | error e => exact ⟨rfl, rfl⟩
  | ok files =>
    obtain ⟨name, hname, -⟩ := write_eq_ok_iff.1 hwrite
    exact absurd hname (h name)

/-- The file is written before it is known whether the run succeeds. -/
theorem deliver_of_leadsTo {name : Text} (h : LeadsTo w.files a.outputFile name) :
    (deliver a w c).world.files = w.files.put name (.file ((encode? c.code).getD [])) ∧
      ((deliver a w c).exitCode = 0 ↔ IsDeliverable a c) := by
  have hwrite : Path.write w.files a.outputFile ((encode? c.code).getD []) = .ok _ :=
    write_eq_ok_iff.2 ⟨name, h, rfl⟩
  unfold deliver writeOutput
  simp only [hwrite]
  cases hencode : encode? c.code with
  | none =>
    refine ⟨rfl, nofun, fun hd => ?_⟩
    have := hd.encodes
    rw [hencode] at this
    cases this
  | some bytes =>
    simp only [Option.isSome_some, if_true]
    refine ⟨by rw [finish_world], ?_⟩
    rw [finish_zero_exitCode]
    have hencodes : (encode? c.code).isSome = true := by rw [hencode]; rfl
    split
    · rename_i hused
      rw [isOk_mapM_singleton]
      exact ⟨fun hr => ⟨hencodes, fun _ => hr⟩, fun hd => hd.renders hused⟩
    · rename_i hused
      exact ⟨fun _ => ⟨hencodes, fun hu => absurd hu hused⟩, fun _ => rfl⟩

/-! ## The steps before -/

theorem finish_one (verbose : Bool) (markup : List Text) :
    (finish verbose w 1 markup).exitCode = 1 ∧ (finish verbose w 1 markup).world.files = w.files :=
  ⟨finish_one_exitCode .., by rw [finish_world]⟩

theorem convertFile_of_reads {given v : Value} (h : Reads a w given v) :
    convertFile launch a w = convertAndWrite launch a w (conversionOptions a given) v := by
  obtain ⟨hoptions, hread, hdecode, hjson⟩ := h
  unfold convertFile
  simp only [hoptions, hread, hdecode, hjson]

/-- What cannot be read is reported, and nothing is written. -/
theorem convertFile_of_not_reads (h : ∀ given v, ¬ Reads a w given v) :
    (convertFile launch a w).exitCode = 1 ∧ (convertFile launch a w).world.files = w.files := by
  unfold convertFile
  split
  · exact finish_one ..
  · rename_i given hoptions
    split
    · exact finish_one ..
    · rename_i bytes hread
      split
      · exact ⟨rfl, rfl⟩
      · rename_i doc hdecode
        simp only
        split
        · exact finish_one ..
        · rename_i v hjson
          exact absurd ⟨hoptions, hread, hdecode, hjson⟩ (h given v)

/-- A conversion that fails is reported or ends the run, and nothing is written. -/
theorem convertAndWrite_of_error {options : Options Unit} {v : Value} {e : Failure} {w' : World}
    (h : ((converter launch).convert options v).run (w, ()) = (.error e, (w', ()))) :
    (convertAndWrite launch a w options v).exitCode = 1 ∧
      (convertAndWrite launch a w options v).world.files = w'.files := by
  unfold converter at h
  unfold convertAndWrite
  simp only [h]
  split
  · exact finish_one ..
  · exact ⟨rfl, rfl⟩

theorem convertAndWrite_of_ok {options : Options Unit} {v : Value} {w' : World}
    (h : ((converter launch).convert options v).run (w, ()) = (.ok c, (w', ()))) :
    convertAndWrite launch a w options v = deliver a w' c := by
  unfold converter at h
  unfold convertAndWrite
  simp only [h]
  rfl

theorem files_of_convert {options : Options Unit} {v : Value} {w' : World}
    {r : Except Failure Conversion}
    (h : ((converter launch).convert options v).run (w, ()) = (r, (w', ()))) :
    w'.files = w.files := by
  have hfiles : (((converter launch).convert options v).run (w, ())).2.1.files = w.files :=
    convert_files (External.leavesFiles_format {} launch) v w ()
  rwa [h] at hfiles

/-- Without code to write a run fails and changes nothing. -/
theorem convertFile_of_not_converts (h : ∀ c, ¬ Converts launch a w c) :
    (convertFile launch a w).exitCode = 1 ∧ (convertFile launch a w).world.files = w.files := by
  by_cases hreads : ∃ given v, Reads a w given v
  · obtain ⟨given, v, hreads⟩ := hreads
    rcases hconvert : ((converter launch).convert (conversionOptions a given) v).run (w, ())
      with ⟨r, w', u⟩
    cases r with
    | ok c => exact absurd ⟨hreads, hconvert⟩ (h c)
    | error e =>
      rw [convertFile_of_reads hreads, ← files_of_convert hconvert]
      exact convertAndWrite_of_error hconvert
  · exact convertFile_of_not_reads fun given v hr => hreads ⟨given, v, hr⟩

/-- With code to write it is up to the last steps. -/
theorem convertFile_of_converts (h : Converts launch a w c) :
    ∃ w', w'.files = w.files ∧ convertFile launch a w = deliver a w' c := by
  obtain ⟨hreads, hconvert⟩ := h
  exact ⟨_, files_of_convert hconvert,
    (convertFile_of_reads hreads).trans (convertAndWrite_of_ok hconvert)⟩

/-- Once the input is converted and the output path leads to an entry, this entry is written,
whether the run succeeds or not. -/
theorem convertFile_of_leadsTo (h : Converts launch a w c) {name : Text}
    (hname : LeadsTo w.files a.outputFile name) :
    ((convertFile launch a w).exitCode = 0 ↔ IsDeliverable a c) ∧
      WritesOnly w.files (convertFile launch a w).world.files a.outputFile
        ((encode? c.code).getD []) := by
  obtain ⟨w', hw', hdeliver⟩ := convertFile_of_converts h
  rw [← hw'] at hname ⊢
  obtain ⟨hfiles, hexit⟩ := deliver_of_leadsTo (c := c) hname
  rw [hdeliver, hfiles]
  exact ⟨hexit, writesOnly_put hname _⟩

/-! ## The whole run -/

/-- A run fails and changes nothing, unless there is code to write and a place for it. -/
theorem convertFile_cases (launch : Launcher) (a : Arguments) (w : World) :
    ((convertFile launch a w).exitCode = 1 ∧ (convertFile launch a w).world.files = w.files) ∨
      ∃ c name, Converts launch a w c ∧ LeadsTo w.files a.outputFile name := by
  by_cases hsome : ∃ c, Converts launch a w c
  · obtain ⟨c, hc⟩ := hsome
    by_cases hname : ∃ name, LeadsTo w.files a.outputFile name
    · obtain ⟨name, hname⟩ := hname
      exact Or.inr ⟨c, name, hc, hname⟩
    · obtain ⟨w', hw', hdeliver⟩ := convertFile_of_converts hc
      rw [← hw'] at hname ⊢
      rw [hdeliver]
      exact Or.inl (deliver_of_not_leadsTo fun name hn => hname ⟨name, hn⟩)
  · exact Or.inl (convertFile_of_not_converts fun c hc => hsome ⟨c, hc⟩)

/-- **All or nothing, but for the last steps**: whatever the files, the settings and the outcomes
of the formatter's program are, a run that exits with 0 has written the bytes of the conversion's
code to the output file and changed nothing else. A run that exits with 1 has changed nothing,
unless the input was converted to what is not deliverable; then the output file is written
nevertheless, with all bytes of the code or with none. -/
theorem run_all_or_nothing (h : Arguments.parse args = .run a) :
    ((run launch args w).exitCode = 0 →
      ∃ c bytes, Converts launch a w c ∧ encode? c.code = some bytes ∧
        WritesOnly w.files (run launch args w).world.files a.outputFile bytes) ∧
    ((run launch args w).exitCode ≠ 0 →
      (∀ c, Converts launch a w c → IsDeliverable a c) →
        (run launch args w).world.files = w.files) ∧
    ∀ c name, Converts launch a w c → LeadsTo w.files a.outputFile name →
      ((run launch args w).exitCode = 0 ↔ IsDeliverable a c) ∧
        WritesOnly w.files (run launch args w).world.files a.outputFile
          ((encode? c.code).getD []) := by
  have hrun : run launch args w = convertFile launch a w := by
    unfold run
    rw [h]
  rw [hrun]
  refine ⟨fun hzero => ?_, fun hfails hall => ?_,
    fun c name hc hname => convertFile_of_leadsTo hc hname⟩
  · rcases convertFile_cases launch a w with ⟨hone, -⟩ | ⟨c, name, hc, hname⟩
    · rw [hone] at hzero
      cases hzero
    · obtain ⟨hexit, hwrites⟩ := convertFile_of_leadsTo hc hname
      obtain ⟨bytes, hbytes⟩ := Option.isSome_iff_exists.1 (hexit.1 hzero).encodes
      rw [hbytes] at hwrites
      exact ⟨c, bytes, hc, hbytes, hwrites⟩
  · rcases convertFile_cases launch a w with ⟨-, hfiles⟩ | ⟨c, name, hc, hname⟩
    · exact hfiles
    · obtain ⟨hexit, -⟩ := convertFile_of_leadsTo hc hname
      exact absurd (hexit.2 (hall c hc)) hfails

end

/-- A file with the text `"a\nb"` of two lines, and an output file from before. -/
def sampleWorld : World :=
  { files := [("in.json", .file [34, 97, 92, 110, 98, 34]), ("out.js", .file [49])] }

/-- A command line with options of one's own after the files. -/
def sampleArgs (given : List Text) : List Text :=
  "--input-file" :: "in.json" :: "--output-file" :: "out.js" :: "--use-multiline-literals" :: given

def sampleArguments : Arguments where
  inputFile := "in.json"
  outputFile := "out.js"
  opening := "("
  closing := ")"
  useFormatter := true
  formatterOptions := none
  useTemplates := true
  templateOpening := " dedent"
  templateClosing := []
  space := none
  verbose := false

/-- A program that prints its input. -/
def echo : Launcher := fun r => .finished 0 r.input []

/-- No program is found. -/
def missing : Launcher := fun r => .failed (.missingFile (r.arguments.headD []))

/-- The same command line writes the code if the formatter's program prints it, and leaves the
output file as it was if there is no such program. -/
theorem run_all_or_nothing_sample :
    (∃ c bytes, Converts echo sampleArguments sampleWorld c ∧ encode? c.code = some bytes ∧
        WritesOnly sampleWorld.files (run echo (sampleArgs []) sampleWorld).world.files "out.js"
          bytes) ∧
      (run missing (sampleArgs []) sampleWorld).exitCode = 1 ∧
      (run missing (sampleArgs []) sampleWorld).world.files = sampleWorld.files := by
  have hparse : Arguments.parse (sampleArgs []) = .run sampleArguments := by decide +kernel
  have hwritten : (run echo (sampleArgs []) sampleWorld).exitCode = 0 := by decide +kernel
  have hfailed : (run missing (sampleArgs []) sampleWorld).exitCode = 1 := by decide +kernel
  have hplain : HasPlainTexts sampleArguments :=
    ⟨by decide, by decide, by decide, by decide, by decide⟩
  have hprints : PrintsWritable missing := nofun
  refine ⟨(run_all_or_nothing hparse).1 hwritten, hfailed, ?_⟩
  refine (run_all_or_nothing hparse).2.1 ?_ fun c hc => hc.isDeliverable hplain hprints
  rw [hfailed]
  exact Nat.one_ne_zero

/-- A tag that is no markup is found out when the file is written already, and text that has no
bytes when it is emptied already: both runs fail and the output file from before is lost. -/
theorem run_loses_output :
    (run missing (sampleArgs ["--no-use-formatter", "--multiline-literal-prefix", "[/x]"])
        sampleWorld).exitCode = 1 ∧
      (run missing (sampleArgs ["--no-use-formatter", "--multiline-literal-prefix", "[/x]"])
        sampleWorld).world.files.get? "out.js" =
          (encode? "([/x]\x60\n  a\n  b\n\x60)").map .file ∧
      (run missing (sampleArgs ["--no-use-formatter", "--prefix", [.surrogate 0x480]])
        sampleWorld).exitCode = 1 ∧
      (run missing (sampleArgs ["--no-use-formatter", "--prefix", [.surrogate 0x480]])
        sampleWorld).world.files.get? "out.js" = some (.file []) := by
  decide +kernel

end JsLiteral.Program
