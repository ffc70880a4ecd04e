import JsLiteral.Proofs.Collision
import JsLiteral.Proofs.Json.Calls

/-!
# The stages of a conversion

A conversion prints the skeleton, rules out a collision, lets the caller's function change the
code, reads the formatter's options, calls the formatter and splices. It fails as the first stage
does that fails, and only the formatter's failure is reported as another one. The formatter is
called if the stages before it succeed, once and never else; the replacer's calls are those of
the walk, and the first one that fails is what the conversion fails with.

    a conversion fails exactly if one of its stages does         (convert_eq_error_iff)
    no two of them fail                                          (atMostOne_failsAt)
    the journal gains the one call of the formatter              (called_of_callsFormatter)
-/

namespace JsLiteral

open Text Json Placeholder

/-! ## Calls of formatters -/

/-- The calls of formatters that the journal holds. -/
def World.called (w : World) : List (Text × Value) :=
  w.journal.filterMap fun
    | .called code given => some (code, given)
    | _ => none

/-- A formatter that calls no recorded one. -/
def Formatter.IsQuiet (f : Formatter) : Prop :=
  ∀ code given w, ((f code given).run w).2.called = w.called

theorem Formatter.isQuiet_ofFun (f : Text → Value → Except Failure Text) : (ofFun f).IsQuiet := by
  intro code given w
  unfold ofFun
  cases f code given with
  | ok code => rfl
  | error e => rfl

/-- The world in which a recorded formatter begins. -/
def World.calling (w : World) (code : Text) (given : Value) : World :=
  { w with journal := w.journal ++ [.called code given] }

theorem called_calling (w : World) (code : Text) (given : Value) :
    (w.calling code given).called = w.called ++ [(code, given)] := List.filterMap_append

theorem called_serialized (w : World) (n : Nat) : (w.serialized n).called = w.called :=
  List.filterMap_append.trans (List.append_nil _)

theorem called_spliceFrom {σ : Type} (options : Options σ) (marker : Text) (texts : List Text) :
    ∀ (i : Nat) (code : Text) (w : World),
      ((spliceFrom options marker i texts code).run w).2.called = w.called := by
  induction texts with
  | nil => exact fun _ _ _ => rfl
  | cons t rest ih =>
    intro i code w
    have hone : ((spliceOne options marker code i t).run w).2.called = w.called := by
      unfold spliceOne
      simp only
      split
      · rfl
      · exact List.filterMap_append.trans (List.append_nil _)
    rw [spliceFrom, Task.run_bind]
    rcases hrun : (spliceOne options marker code i t).run w with ⟨r, w'⟩
    rw [hrun] at hone
    cases r with
    | error e => exact hone
    | ok code => exact (ih (i + 1) code w').trans hone

/-! ## Stages -/

inductive Stage where
  | printing
  | collision
  | adjusting
  | options
  | formatting
  | splicing
deriving DecidableEq, Repr

/-- A stage fails with `r`, or it succeeds and one of the stages after it fails. -/
def Fails {α : Type} (stage : Stage) (r : Except Failure α)
    (rest : α → Stage → Failure → Prop) (failing : Stage) (e : Failure) : Prop :=
  (failing = stage ∧ r = .error e) ∨ ∃ a, r = .ok a ∧ rest a failing e

/-- At most one stage fails, and in one way. -/
def AtMostOne (fails : Stage → Failure → Prop) : Prop :=
  ∀ stage stage' e e', fails stage e → fails stage' e' → stage = stage' ∧ e = e'

theorem Fails.atMostOne {α : Type} {stage : Stage} {r : Except Failure α}
    {rest : α → Stage → Failure → Prop} (hrest : ∀ a, AtMostOne (rest a)) :
    AtMostOne (Fails stage r rest) := by
  rintro s s' e e' (⟨rfl, h⟩ | ⟨a, h, hr⟩) (⟨rfl, h'⟩ | ⟨a', h', hr'⟩)
  · exact ⟨rfl, Except.error.inj (h.symm.trans h')⟩
  · cases h.symm.trans h'
  · cases h.symm.trans h'
  · cases h.symm.trans h'
    exact hrest a s s' e e' hr hr'

theorem bind_eq_error_iff {α β : Type} (stage : Stage) {r : Except Failure α}
    {k : α → Except Failure β} {rest : α → Stage → Failure → Prop} {e : Failure}
    (hrest : ∀ a, k a = .error e ↔ ∃ s, rest a s e) :
    (r >>= k) = .error e ↔ ∃ s, Fails stage r rest s e := by
  cases r with
  | error e' =>
    constructor
    · intro h
      cases h
      exact ⟨stage, .inl ⟨rfl, rfl⟩⟩
    · rintro ⟨s, ⟨-, h⟩ | ⟨a, h, -⟩⟩
      · cases h
        rfl
      · cases h
  | ok a =>
    constructor
    · intro h
      obtain ⟨s, hs⟩ := (hrest a).1 h
      exact ⟨s, .inr ⟨a, rfl, hs⟩⟩
    · rintro ⟨s, ⟨-, h⟩ | ⟨a', h, hs⟩⟩
      · cases h
      · cases h
        exact (hrest a).2 ⟨s, hs⟩

section

variable {σ : Type} (c : Converter) (options : Options σ) (v : Value) (w : World) (s : σ)

/-- The skeleton and the texts that wait. -/
def printing : Except Failure (Text × List Text) :=
  let (r, (_, waiting)) := (skeleton w options c.marker.text v).run (s, [])
  r.map fun text => (text, waiting)

/-- A skeleton with the text before and after it. -/
def wrapped (skeleton : Text) : Text := options.opening ++ skeleton ++ options.closing

def ruleOut (skeleton : Text) (waiting : List Text) : Except Failure Unit :=
  if Collides c.marker.text (wrapped options skeleton) waiting then
    .error (.markerCollision c.marker.text)
  else .ok ()

/-- What the caller's function makes of code. -/
def adjusting (code : Text) : Except Failure Text :=
  match options.beforeFormat with
  | some f => f code
  | none => .ok code

/-- The options that a formatter is called with: the caller's over the default parser. -/
def parserOptions (given : Members) : Value :=
  .mapping .dict (Members.overlay [(parserKey, defaultParser)] given)

/-- The options of the formatter if it is to be called. -/
def readOptions : Except Failure (Option Value) :=
  if options.useFormatter then
    (optionMembers w.heap options.formatterOptions).map fun given => some (parserOptions given)
  else .ok none

/-- Calls the formatter if there are options to call it with. -/
def callFormatter (formatter : Formatter) (code : Text) : Option Value → Task Text
  | none => pure code
  | some given => Task.wrapFailure .formatting (formatter code given)

/-- The code that is laid out and the world in which it is spliced. -/
def formatting (waiting : List Text) (code : Text) (given : Option Value) :
    Except Failure (Text × World) :=
  let (r, w') := (callFormatter c.formatter code given).run (w.serialized waiting.length)
  r.map fun code => (code, w')

/-- The code with literals. -/
def splicing (waiting : List Text) (laid : Text × World) : Except Failure Text :=
  ((spliceFrom options c.marker.text 0 waiting laid.1).run laid.2).1

/-- All stages before `failing` succeed, and it fails with `e`. -/
def FailsAt : Stage → Failure → Prop :=
  Fails .printing (printing c options v w s) fun (text, waiting) =>
    Fails .collision (ruleOut c options text waiting) fun _ =>
      Fails .adjusting (adjusting options (wrapped options text)) fun code =>
        Fails .options (readOptions options w) fun given =>
          Fails .formatting (formatting c w waiting code given) fun laid =>
            Fails .splicing (splicing c options waiting laid) fun _ _ _ => False

/-- The stages before the formatter succeed, with texts that wait, and it is to be called with
`code` and `given`. -/
structure CallsFormatter (waiting : List Text) (code : Text) (given : Value) : Prop where
  skeleton : ∃ text, printing c options v w s = .ok (text, waiting) ∧
    ruleOut c options text waiting = .ok () ∧ adjusting options (wrapped options text) = .ok code
  options : readOptions options w = .ok (some given)

end

section

variable {σ : Type} {c : Converter} {options : Options σ} {v : Value} {w : World} {s : σ}

theorem atMostOne_failsAt : AtMostOne (FailsAt c options v w s) := by
  refine Fails.atMostOne fun (_, _) => Fails.atMostOne fun _ => Fails.atMostOne fun _ => ?_
  refine Fails.atMostOne fun _ => Fails.atMostOne fun _ => Fails.atMostOne fun _ => ?_
  exact fun _ _ _ _ h => h.elim

theorem failsAt_printing_iff {e : Failure} :
    FailsAt c options v w s .printing e ↔ printing c options v w s = .error e := by
  simp [FailsAt, Fails]

theorem failsAt_collision_iff {e : Failure} : FailsAt c options v w s .collision e ↔
    ∃ p, printing c options v w s = .ok p ∧ ruleOut c options p.1 p.2 = .error e := by
  simp [FailsAt, Fails]

theorem failsAt_adjusting_iff {e : Failure} : FailsAt c options v w s .adjusting e ↔
    ∃ p, printing c options v w s = .ok p ∧ ruleOut c options p.1 p.2 = .ok () ∧
      adjusting options (wrapped options p.1) = .error e := by
  simp [FailsAt, Fails, Unique.exists_iff]

theorem failsAt_options_iff {e : Failure} : FailsAt c options v w s .options e ↔
    ∃ p, printing c options v w s = .ok p ∧ ruleOut c options p.1 p.2 = .ok () ∧
      ∃ code, adjusting options (wrapped options p.1) = .ok code ∧
        readOptions options w = .error e := by
  simp [FailsAt, Fails, Unique.exists_iff]

theorem failsAt_formatting_iff {e : Failure} : FailsAt c options v w s .formatting e ↔
    ∃ p, printing c options v w s = .ok p ∧ ruleOut c options p.1 p.2 = .ok () ∧
      ∃ code, adjusting options (wrapped options p.1) = .ok code ∧
        ∃ given, readOptions options w = .ok given ∧ formatting c w p.2 code given = .error e := by
  simp [FailsAt, Fails, Unique.exists_iff]

theorem failsAt_splicing_iff {e : Failure} : FailsAt c options v w s .splicing e ↔
    ∃ p, printing c options v w s = .ok p ∧ ruleOut c options p.1 p.2 = .ok () ∧
      ∃ code, adjusting options (wrapped options p.1) = .ok code ∧
        ∃ given, readOptions options w = .ok given ∧
          ∃ laid, formatting c w p.2 code given = .ok laid ∧
            splicing c options p.2 laid = .error e := by
  simp [FailsAt, Fails, Unique.exists_iff]

/-! ## What each stage fails with -/

theorem eq_of_failsAt_collision {e : Failure} (h : FailsAt c options v w s .collision e) :
    e = .markerCollision c.marker.text := by
  obtain ⟨p, -, hruleOut⟩ := failsAt_collision_iff.1 h
  unfold ruleOut at hruleOut
  split at hruleOut
  · exact (Except.error.inj hruleOut).symm
  · cases hruleOut

theorem exists_of_failsAt_adjusting {e : Failure} (h : FailsAt c options v w s .adjusting e) :
    ∃ f text, options.beforeFormat = some f ∧ f (wrapped options text) = .error e := by
  obtain ⟨p, -, -, hadjusting⟩ := failsAt_adjusting_iff.1 h
  unfold adjusting at hadjusting
  split at hadjusting
  · exact ⟨_, _, ‹_›, hadjusting⟩
  · cases hadjusting

theorem exists_of_failsAt_options {e : Failure} (h : FailsAt c options v w s .options e) :
    ∃ typeName, e = .notMapping typeName := by
  obtain ⟨p, -, -, code, -, hread⟩ := failsAt_options_iff.1 h
  unfold readOptions at hread
  split at hread
  · cases hmembers : optionMembers w.heap options.formatterOptions with
    | ok given =>
      rw [hmembers] at hread
      cases hread
    | error e' =>
      rw [hmembers] at hread
      cases hread
      exact optionMembers_eq_error hmembers
  · cases hread

/-- Formatting fails only if the formatter does, and reports its failure. -/
theorem exists_of_failsAt_formatting {e : Failure} (h : FailsAt c options v w s .formatting e) :
    ∃ waiting code given e', CallsFormatter c options v w s waiting code given ∧
      ((c.formatter code given).run (w.serialized waiting.length)).1 = .error e' ∧
        e = .formatting e' := by
  obtain ⟨⟨text, waiting⟩, hprinting, hruleOut, code, hadjusting, given, hread, hformat⟩ :=
    failsAt_formatting_iff.1 h
  unfold formatting at hformat
  cases given with
  | none => cases hformat
  | some given =>
    have hwrap : (callFormatter c.formatter code (some given)).run (w.serialized waiting.length) =
      Task.wrapFailure .formatting (c.formatter code given) _ := rfl
    rw [hwrap, Task.wrapFailure] at hformat
    rcases hrun : (c.formatter code given).run (w.serialized waiting.length) with ⟨r, w'⟩
    rw [hrun] at hformat
    cases r with
    | ok code => cases hformat
    | error e' =>
      cases hformat
      exact ⟨waiting, code, given, e', ⟨⟨text, hprinting, hruleOut, hadjusting⟩, hread⟩,
        by rw [hrun], rfl⟩

theorem exists_of_failsAt_splicing {e : Failure} (h : FailsAt c options v w s .splicing e) :
    ∃ i, e = .placeholderMissing (token c.marker.text i) := by
  obtain ⟨p, -, -, code, -, given, -, laid, -, hsplice⟩ := failsAt_splicing_iff.1 h
  exact spliceFrom_eq_error (Prod.ext hsplice rfl)

/-! ## From stage to stage -/

theorem convert_of_printing_eq_error {e : Failure} (h : printing c options v w s = .error e) :
    ∃ s', (c.convert options v).run (w, s) = (.error e, (w, s')) := by
  unfold printing at h
  rcases hrun : (skeleton w options c.marker.text v).run (s, []) with ⟨r, s', waiting⟩
  rw [hrun] at h
  cases r with
  | ok text => cases h
  | error e' =>
    cases h
    exact ⟨s', convert_of_skeleton_eq_error hrun⟩

theorem convert_of_printing {text : Text} {waiting : List Text}
    (h : printing c options v w s = .ok (text, waiting)) :
    ∃ s', (c.convert options v).run (w, s) =
      (((finish c options text waiting).run w).1,
        (((finish c options text waiting).run w).2, s')) := by
  unfold printing at h
  rcases hrun : (skeleton w options c.marker.text v).run (s, []) with ⟨r, s', waiting'⟩
  rw [hrun] at h
  cases r with
  | ok text' =>
    cases h
    exact ⟨s', convert_of_skeleton hrun⟩
  | error e => cases h

theorem layOut_run_stages (formatter : Formatter) (code : Text) :
    (layOut formatter options code).run w =
      match adjusting options code with
      | .error e => (.error e, w)
      | .ok code => match readOptions options w with
        | .error e => (.error e, w)
        | .ok given => (callFormatter formatter code given).run w := by
  have hformatted : ∀ code, (formatted formatter options code).run w =
      match readOptions options w with
      | .error e => (.error e, w)
      | .ok given => (callFormatter formatter code given).run w := by
    intro code
    unfold formatted readOptions
    by_cases huse : options.useFormatter = true
    · rw [if_pos huse, if_pos huse, Task.run_bind, Task.run_get]
      simp only
      cases optionMembers w.heap options.formatterOptions with
      | error e => rfl
      | ok given => rfl
    · rw [if_neg huse, if_neg huse]
      rfl
  rw [layOut_eq]
  unfold adjusting
  cases options.beforeFormat with
  | none => exact hformatted code
  | some f =>
    simp only
    cases f code with
    | error e => rfl
    | ok code => exact hformatted code

theorem finish_run_of_ruleOut {text : Text} {waiting : List Text} {e : Failure}
    (h : ruleOut c options text waiting = .error e) :
    (finish c options text waiting).run w = (.error e, w) := by
  unfold ruleOut at h
  split at h
  · cases h
    exact finish_run_of_collides c ‹_› w
  · cases h

/-- What is left of a conversion after the collision is ruled out. -/
theorem finish_run_stages {text : Text} {waiting : List Text}
    (h : ruleOut c options text waiting = .ok ()) :
    (finish c options text waiting).run w =
      match adjusting options (wrapped options text) with
      | .error e => (.error e, w.serialized waiting.length)
      | .ok code => match readOptions options w with
        | .error e => (.error e, w.serialized waiting.length)
        | .ok given =>
          match (callFormatter c.formatter code given).run (w.serialized waiting.length) with
          | (.error e, w') => (.error e, w')
          | (.ok code, w') =>
            (((spliceFrom options c.marker.text 0 waiting code).run w').1.map fun code =>
              ⟨code, !waiting.isEmpty⟩,
            ((spliceFrom options c.marker.text 0 waiting code).run w').2) := by
  have hcollides : ¬ Collides c.marker.text (wrapped options text) waiting := by
    intro hcollides
    rw [ruleOut, if_pos hcollides] at h
    cases h
  rw [finish_eq_of_not_collides c hcollides, Task.run_bind, layOut_run_stages]
  have hread : readOptions options (w.serialized waiting.length) = readOptions options w := rfl
  rw [hread]
  unfold wrapped
  cases adjusting options (options.opening ++ text ++ options.closing) with
  | error e => rfl
  | ok code =>
    cases readOptions options w with
    | error e => rfl
    | ok given =>
      simp only
      rcases (callFormatter c.formatter code given).run (w.serialized waiting.length) with ⟨r, w'⟩
      cases r with
      | error e => rfl
      | ok code =>
        simp only
        rw [Task.run_bind]
        rcases (spliceFrom options c.marker.text 0 waiting code).run w' with ⟨r, w''⟩
        cases r with
        | error e => rfl
        | ok code => rfl

/-- What a conversion answers, stage by stage. -/
theorem convert_eq_stages : ((c.convert options v).run (w, s)).1 =
    (do
      let (text, waiting) ← printing c options v w s
      ruleOut c options text waiting
      let code ← adjusting options (wrapped options text)
      let given ← readOptions options w
      let laid ← formatting c w waiting code given
      let code ← splicing c options waiting laid
      pure ⟨code, !waiting.isEmpty⟩) := by
  cases hprinting : printing c options v w s with
  | error e =>
    obtain ⟨s', hrun⟩ := convert_of_printing_eq_error hprinting
    rw [hrun]
    rfl
  | ok p =>
    obtain ⟨text, waiting⟩ := p
    obtain ⟨s', hrun⟩ := convert_of_printing hprinting
    rw [hrun]
    simp only [bind, Except.bind]
    cases hruleOut : ruleOut c options text waiting with
    | error e => rw [finish_run_of_ruleOut hruleOut]
    | ok u =>
      rw [finish_run_stages hruleOut]
      simp only
      cases adjusting options (wrapped options text) with
      | error e => rfl
      | ok code =>
        cases readOptions options w with
        | error e => rfl
        | ok given =>
          simp only [formatting, splicing]
          rcases (callFormatter c.formatter code given).run (w.serialized waiting.length) with
            ⟨r, w'⟩
          cases r with
          | error e => rfl
          | ok code =>
            simp only [Except.map]
            cases ((spliceFrom options c.marker.text 0 waiting code).run w').1 with
            | error e => rfl
            | ok code => rfl

theorem convert_eq_error_iff {e : Failure} : ((c.convert options v).run (w, s)).1 = .error e ↔
    ∃ stage, FailsAt c options v w s stage e := by
  rw [convert_eq_stages]
  refine bind_eq_error_iff .printing fun (text, waiting) => ?_
  refine bind_eq_error_iff .collision fun _ => ?_
  refine bind_eq_error_iff .adjusting fun code => ?_
  refine bind_eq_error_iff .options fun given => ?_
  refine bind_eq_error_iff .formatting fun laid => ?_
  refine bind_eq_error_iff .splicing fun code => ?_
  exact ⟨nofun, fun ⟨_, h⟩ => h.elim⟩

/-! ## The formatter -/

/-- Once the formatter is called its failure is reported as that of formatting, and nothing
happens after it; else its code is spliced. -/
theorem convert_of_callsFormatter {waiting : List Text} {code : Text} {given : Value}
    (h : CallsFormatter c options v w s waiting code given) :
    ∃ s', (c.convert options v).run (w, s) =
      match (c.formatter code given).run (w.serialized waiting.length) with
      | (.error e, w') => (.error (.formatting e), (w', s'))
      | (.ok code, w') =>
        ((splicing c options waiting (code, w')).map fun code => ⟨code, !waiting.isEmpty⟩,
          (((spliceFrom options c.marker.text 0 waiting code).run w').2, s')) := by
  obtain ⟨⟨text, hprinting, hruleOut, hadjusting⟩, hread⟩ := h
  obtain ⟨s', hrun⟩ := convert_of_printing hprinting
  refine ⟨s', ?_⟩
  rw [hrun, finish_run_stages hruleOut, hadjusting]
  simp only [hread, callFormatter]
  have hwrap : (Task.wrapFailure .formatting (c.formatter code given)).run
      (w.serialized waiting.length) = Task.wrapFailure .formatting (c.formatter code given) _ := rfl
  rw [hwrap, Task.wrapFailure]
  rcases (c.formatter code given).run (w.serialized waiting.length) with ⟨r, w'⟩
  cases r with
  | error e => rfl
  | ok code => rfl

/-- A recorded formatter is called once, with what `CallsFormatter` says. -/
theorem called_of_callsFormatter {f : Formatter} (hf : f.IsQuiet) {m : Marker}
    {waiting : List Text} {code : Text} {given : Value}
    (h : CallsFormatter ⟨m, f.recorded⟩ options v w s waiting code given) :
    (((Converter.mk m f.recorded).convert options v).run (w, s)).2.1.called =
      w.called ++ [(code, given)] := by
  obtain ⟨s', hrun⟩ := convert_of_callsFormatter h
  have hcall : (f.recorded code given).run (w.serialized waiting.length) =
    (f code given).run ((w.serialized waiting.length).calling code given) := rfl
  have hquiet := hf code given ((w.serialized waiting.length).calling code given)
  rw [called_calling, called_serialized] at hquiet
  rw [hrun, hcall]
  rcases hformat : (f code given).run ((w.serialized waiting.length).calling code given) with
    ⟨r, w'⟩
  rw [hformat] at hquiet
  cases r with
  | error e => exact hquiet
  | ok code => exact (called_spliceFrom _ _ _ _ _ _).trans hquiet

/-- Else the formatter is not called. -/
theorem called_of_not_callsFormatter
    (h : ∀ waiting code given, ¬ CallsFormatter c options v w s waiting code given) :
    ((c.convert options v).run (w, s)).2.1.called = w.called := by
  cases hprinting : printing c options v w s with
  | error e =>
    obtain ⟨s', hrun⟩ := convert_of_printing_eq_error hprinting
    rw [hrun]
  | ok p =>
    obtain ⟨text, waiting⟩ := p
    obtain ⟨s', hrun⟩ := convert_of_printing hprinting
    rw [hrun]
    cases hruleOut : ruleOut c options text waiting with
    | error e => rw [finish_run_of_ruleOut hruleOut]
    | ok u =>
      rw [finish_run_stages hruleOut]
      cases hadjusting : adjusting options (wrapped options text) with
      | error e => exact called_serialized w _
      | ok code =>
        cases hread : readOptions options w with
        | error e => exact called_serialized w _
        | ok given =>
          cases given with
          | some given => exact absurd ⟨⟨text, hprinting, hruleOut, hadjusting⟩, hread⟩ (h _ _ _)
          | none => exact (called_spliceFrom _ _ _ _ _ _).trans (called_serialized w _)

/-! ## Options of the formatter -/

theorem same_parserKey_of_ne {key : Key} (h : key ≠ parserKey) :
    key.same parserKey = false ∧ parserKey.same key = false := by
  cases key with
  | text t =>
    have hne : t ≠ "parser" := fun he => h (by rw [he]; rfl)
    exact ⟨beq_false_of_ne hne, beq_false_of_ne hne.symm⟩
  | _ => simp [Key.same, parserKey, Key.number?]

theorem same_parserKey : parserKey.same parserKey = true := by decide

/-- A mapping of options is one that the formatter can be called with. -/
theorem readOptions_of_mapping (huse : options.useFormatter = true) {kind : MappingKind}
    {given : Members}
    (h : options.formatterOptions.container? w.heap = some (.mapping kind given)) :
    readOptions options w = .ok (some (parserOptions given)) := by
  have htruthy : options.formatterOptions.isTruthy w.heap = !given.isEmpty := by
    generalize options.formatterOptions = v at h
    cases v with
    | mapping => cases h; rfl
    | shared place => simp only [Value.isTruthy, h, Container.isEmpty]
    | _ => cases h
  have hmembers : optionMembers w.heap options.formatterOptions = .ok given := by
    unfold optionMembers
    rw [htruthy, h]
    cases given with
    | nil => rfl
    | cons p rest => rfl
  rw [readOptions, if_pos huse, hmembers]
  rfl

/-- The caller's parser comes in the place of the default one, the other options come after it. -/
theorem parserOptions_eq {given : Members}
    (h : given.Pairwise fun p q => p.1.same q.1 = false) :
    parserOptions given = .mapping .dict
      ((parserKey, (given.get? parserKey).getD defaultParser) ::
        given.filter fun p => !p.1.same parserKey) := by
  unfold parserOptions Members.overlay
  by_cases hparser : ∃ p ∈ given, p.1 = parserKey
  · obtain ⟨⟨key, x⟩, hmem, rfl⟩ := hparser
    obtain ⟨before, after, rfl⟩ := List.append_of_mem hmem
    obtain ⟨hbefore, hrest, hcross⟩ := List.pairwise_append.1 h
    obtain ⟨hafter, hafters⟩ := List.pairwise_cons.1 hrest
    have hne : ∀ p : Key × Value, p.1.same parserKey = false ∨ parserKey.same p.1 = false →
        p.1 ≠ parserKey := by
      rintro p hp he
      rw [he, same_parserKey] at hp
      rcases hp with hp | hp <;> cases hp
    have hleft : ∀ p ∈ before, p.1 ≠ parserKey := fun p hp =>
      hne p (.inl (hcross p hp _ List.mem_cons_self))
    have hright : ∀ p ∈ after, p.1 ≠ parserKey := fun p hp => hne p (.inr (hafter p hp))
    have hget : Members.get? (before ++ (parserKey, x) :: after) parserKey = some x := by
      unfold Members.get?
      rw [List.find?_append, List.find?_eq_none.2 fun p hp => by
        rw [(same_parserKey_of_ne (hleft p hp)).1]; exact nofun]
      rfl
    have hkept : ((before ++ (parserKey, x) :: after).filter fun p => !p.1.same parserKey) =
        before ++ after := by
      rw [List.filter_append, List.filter_cons_of_neg (by simp [same_parserKey]),
        List.filter_eq_self.2 fun p hp => by rw [(same_parserKey_of_ne (hleft p hp)).1]; rfl,
        List.filter_eq_self.2 fun p hp => by rw [(same_parserKey_of_ne (hright p hp)).1]; rfl]
    have hinsert : Members.insert ([(parserKey, defaultParser)] ++ before) parserKey x =
        (parserKey, x) :: before := rfl
    rw [hget, hkept, List.foldl_append, Members.foldl_insert _ hbefore, List.foldl_cons, hinsert,
      Members.foldl_insert _ hafters]
    · rfl
    · intro p hp q hq
      rcases List.mem_cons.1 hp with rfl | hp
      · exact hafter q hq
      · exact hcross p hp q (List.mem_cons_of_mem _ hq)
    · intro p hp q hq
      rw [List.mem_singleton.1 hp]
      exact (same_parserKey_of_ne (hleft q hq)).2
  · have hne : ∀ p ∈ given, p.1 ≠ parserKey := fun p hp he => hparser ⟨p, hp, he⟩
    have hnone : given.get? parserKey = none := by
      unfold Members.get?
      rw [List.find?_eq_none.2 fun p hp => by rw [(same_parserKey_of_ne (hne p hp)).1]; exact nofun]
      rfl
    have hall : (given.filter fun p => !p.1.same parserKey) = given :=
      List.filter_eq_self.2 fun p hp => by rw [(same_parserKey_of_ne (hne p hp)).1]; rfl
    rw [hnone, hall, Members.foldl_insert _ h]
    · rfl
    · intro p hp q hq
      rw [List.mem_singleton.1 hp]
      exact (same_parserKey_of_ne (hne q hq)).2

end

/-! ## The replacer -/

section

variable {σ : Type} {c : Converter} {options : Options σ} {v : Value} {w : World} {s : σ}

/-- Options whose replacer's calls are recorded. -/
def Options.recorded (options : Options σ) : Options (σ × List Call) :=
  { options with replacer := options.replacer.map Replacer.recorded }

/-- Recording a call does not change its answer. -/
theorem relates_recorded (f : Replacer σ) (key : Text) (v : Value) :
    Relates (fun p t => p.1 = t ∧ AllAnswered p.2) (fun e p t => p.1 = t ∧ Reports p.2 e)
      (f.recorded key v) (f key v) := by
  rintro ⟨s, calls⟩ t ⟨rfl, hcalls⟩
  have hrun : (f.recorded key v).run (s, calls) = (((f key v).run s).1,
    (((f key v).run s).2, calls ++ [⟨key, v, ((f key v).run s).1⟩])) := rfl
  rw [hrun]
  rcases (f key v).run s with ⟨r, s'⟩
  cases r with
  | ok u =>
    refine .inl ⟨u, _, s', rfl, rfl, rfl, fun call hcall => ?_⟩
    rcases List.mem_append.1 hcall with hcall | hcall
    · exact hcalls call hcall
    · exact ⟨u, by rw [List.mem_singleton.1 hcall]⟩
  | error e =>
    refine .inr ⟨e, _, s', rfl, rfl, rfl, fun call hcall e' he' => ?_,
      .inl ⟨⟨key, v, .error e⟩, ?_, rfl⟩⟩
    · rcases List.mem_append.1 hcall with hcall | hcall
      · obtain ⟨u, hu⟩ := hcalls call hcall
        cases hu.symm.trans he'
      · rw [List.mem_singleton.1 hcall] at he'
        exact (Except.error.inj he').symm
    · exact List.mem_append_right _ (List.mem_singleton.2 rfl)

theorem relates_answer (key : Text) (candidate : Value) :
    Relates (fun p t => p.1 = t ∧ AllAnswered p.2) (fun e p t => p.1 = t ∧ Reports p.2 e)
      (answer options.recorded key candidate) (answer options key candidate) := by
  unfold answer Options.recorded
  cases options.replacer with
  | none => exact .answer candidate
  | some f =>
    refine (relates_recorded f key candidate).bind fun u => ?_
    cases u <;> exact .answer _

/-- A walk whose calls are recorded is in the state of the walk itself, and no call has failed. -/
def InStep (p : Pending (σ × List Call)) (q : Pending σ) : Prop :=
  p.1.1 = q.1 ∧ p.2 = q.2 ∧ AllAnswered p.1.2

/-- A walk whose calls are recorded has failed in the state in which the walk itself has, and the
calls account for the failure. -/
def Stopped (e : Failure) (p : Pending (σ × List Call)) (q : Pending σ) : Prop :=
  p.1.1 = q.1 ∧ p.2 = q.2 ∧ Reports p.1.2 e

theorem relates_placing (marker : Text) (backticks : Bool) (key : Text) (v : Value) :
    Relates InStep Stopped (placing options.recorded marker backticks key v)
      (placing options marker backticks key v) := by
  rintro ⟨⟨s, calls⟩, waiting⟩ ⟨t, waiting'⟩ ⟨hs, hwaiting, hcalls⟩
  obtain rfl : s = t := hs
  obtain rfl : waiting = waiting' := hwaiting
  rw [placing_run, placing_run]
  have hshown : shown options.recorded marker backticks waiting v =
    shown options marker backticks waiting v := rfl
  simp only [hshown]
  rcases relates_answer key (shown options marker backticks waiting v) (s, calls) s
      ⟨rfl, hcalls⟩ with
    ⟨u, p, s', hrecorded, hplain, rfl, hanswered⟩ | ⟨e, p, s', hrecorded, hplain, rfl, hreports⟩
  · rw [hrecorded, hplain]
    exact .inl ⟨u, _, _, rfl, rfl, rfl, rfl, hanswered⟩
  · rw [hrecorded, hplain]
    exact .inr ⟨e, _, _, rfl, rfl, rfl, rfl, hreports⟩

theorem relates_skeleton (marker : Text) :
    Relates InStep Stopped (skeleton w options.recorded marker v)
      (skeleton w options marker v) := by
  refine (relates_stringify (fun e p q he h => ?_) (fun key v => relates_placing marker _ key v)
    w.heap options.space v spareDepth).bind fun _ => .answer _
  exact ⟨h.1, h.2.1, h.2.2.reports he⟩

theorem finish_recorded (text : Text) (waiting : List Text) :
    finish c options.recorded text waiting = finish c options text waiting := by
  have hsplice : ∀ (marker : Text) (texts : List Text) (i : Nat) (code : Text),
      spliceFrom options.recorded marker i texts code = spliceFrom options marker i texts code := by
    intro marker texts
    induction texts with
    | nil => exact fun _ _ => rfl
    | cons t rest ih =>
      intro i code
      rw [spliceFrom, spliceFrom]
      exact congrArg _ (funext fun code => ih (i + 1) code)
  unfold finish
  simp only [hsplice]
  rfl

/-- Recording its calls does not change a conversion; it fails as a call fails, and if printing
fails then as a call did or for a reason of its own. -/
theorem convert_recorded :
    let noted := (c.convert options.recorded v).run (w, (s, []))
    let plain := (c.convert options v).run (w, s)
    (noted.1 = plain.1 ∧ noted.2.1 = plain.2.1 ∧ noted.2.2.1 = plain.2.2) ∧
    (∀ call ∈ noted.2.2.2, ∀ e, call.answer = .error e → FailsAt c options v w s .printing e) ∧
    (∀ e, FailsAt c options v w s .printing e →
      (∃ call ∈ noted.2.2.2, call.answer = .error e) ∨ IsPrinting e) := by
  have hnone : AllAnswered [] := fun _ h => absurd h List.not_mem_nil
  have hskeleton : Relates InStep Stopped (skeleton w options.recorded c.marker.text v)
    (skeleton w options c.marker.text v) := relates_skeleton _
  simp only [failsAt_printing_iff, printing]
  rcases hskeleton ((s, []), []) (s, []) ⟨rfl, rfl, hnone⟩ with
    ⟨text, ⟨⟨s', calls⟩, waiting⟩, t, hrecorded, hplain, rfl, rfl, hanswered⟩ |
    ⟨e, ⟨⟨s', calls⟩, waiting⟩, t, hrecorded, hplain, rfl, rfl, hreports⟩
  · rw [convert_of_skeleton hrecorded, convert_of_skeleton hplain, finish_recorded, hplain]
    refine ⟨⟨rfl, rfl, rfl⟩, fun call hcall e he => ?_, nofun⟩
    obtain ⟨u, hu⟩ := hanswered call hcall
    cases hu.symm.trans he
  · rw [convert_of_skeleton_eq_error hrecorded, convert_of_skeleton_eq_error hplain, hplain]
    refine ⟨⟨rfl, rfl, rfl⟩, fun call hcall e' he' => ?_, fun e' he' => ?_⟩
    · rw [hreports.only call hcall e' he']
      rfl
    · cases he'
      exact hreports.origin

/-! ## All stages -/

/-- **The stages of a conversion.** The formatter is called if the stages before it succeed, once
and with their code and options, and else not at all; these are the caller's options, with the
default parser if they have none. If the formatter fails the conversion fails with that failure
for its cause, and nothing happens after it. A conversion fails exactly if a stage fails when
those before it have succeeded, and no two do: the failures of the replacer, of printing, of the
caller's function and of splicing, and a collision, come out as they are. Nobody can tell whether
the replacer's calls are recorded: a call that fails is the failure of the conversion, and if
printing fails then as a call did or for a reason of its own. -/
theorem convert_stages {f : Formatter} (hf : f.IsQuiet) (hc : c.formatter = f.recorded) :
    (∀ waiting code given, CallsFormatter c options v w s waiting code given →
      ((c.convert options v).run (w, s)).2.1.called = w.called ++ [(code, given)] ∧
      ∀ e w', (f code given).run ((w.serialized waiting.length).calling code given) =
          (.error e, w') →
        ((c.convert options v).run (w, s)).1 = .error (.formatting e) ∧
          ((c.convert options v).run (w, s)).2.1 = w') ∧
    ((∀ waiting code given, ¬ CallsFormatter c options v w s waiting code given) →
      ((c.convert options v).run (w, s)).2.1.called = w.called) ∧
    (∀ kind given, options.useFormatter = true →
      options.formatterOptions.container? w.heap = some (.mapping kind given) →
        readOptions options w = .ok (some (parserOptions given)) ∧
          ((given.Pairwise fun p q => p.1.same q.1 = false) → parserOptions given =
            .mapping .dict ((parserKey, (given.get? parserKey).getD defaultParser) ::
              given.filter fun p => !p.1.same parserKey))) ∧
    (∀ e, ((c.convert options v).run (w, s)).1 = .error e ↔
      ∃ stage, FailsAt c options v w s stage e) ∧
    AtMostOne (FailsAt c options v w s) ∧
    (∀ e, FailsAt c options v w s .collision e → e = .markerCollision c.marker.text) ∧
    (∀ e, FailsAt c options v w s .adjusting e →
      ∃ g text, options.beforeFormat = some g ∧ g (wrapped options text) = .error e) ∧
    (∀ e, FailsAt c options v w s .options e → ∃ typeName, e = .notMapping typeName) ∧
    (∀ e, FailsAt c options v w s .formatting e → ∃ waiting code given e',
      CallsFormatter c options v w s waiting code given ∧
        ((f code given).run ((w.serialized waiting.length).calling code given)).1 = .error e' ∧
          e = .formatting e') ∧
    (∀ e, FailsAt c options v w s .splicing e →
      ∃ i, e = .placeholderMissing (token c.marker.text i)) ∧
    (let noted := (c.convert options.recorded v).run (w, (s, []))
    let plain := (c.convert options v).run (w, s)
    (noted.1 = plain.1 ∧ noted.2.1 = plain.2.1 ∧ noted.2.2.1 = plain.2.2) ∧
    (∀ call ∈ noted.2.2.2, ∀ e, call.answer = .error e → FailsAt c options v w s .printing e) ∧
    (∀ e, FailsAt c options v w s .printing e →
      (∃ call ∈ noted.2.2.2, call.answer = .error e) ∨ IsPrinting e)) := by
  obtain ⟨m, formatter⟩ := c
  obtain rfl : formatter = f.recorded := hc
  have hrecorded : ∀ code given (w : World), (f.recorded code given).run w =
    (f code given).run (w.calling code given) := fun _ _ _ => rfl
  refine ⟨fun waiting code given h => ⟨called_of_callsFormatter hf h, fun e w' he => ?_⟩,
    called_of_not_callsFormatter,
    fun kind given huse h => ⟨readOptions_of_mapping huse h, parserOptions_eq⟩,
    fun e => convert_eq_error_iff, atMostOne_failsAt, fun e => eq_of_failsAt_collision,
    fun e => exists_of_failsAt_adjusting, fun e => exists_of_failsAt_options,
    fun e => exists_of_failsAt_formatting, fun e => exists_of_failsAt_splicing, convert_recorded⟩
  obtain ⟨s', hrun⟩ := convert_of_callsFormatter h
  rw [hrun, hrecorded, he]
  exact ⟨rfl, rfl⟩

/-- A formatter that fails whatever it is called with. -/
def brokenFormatter : Formatter := .ofFun fun _ _ => .error (.raised .value "boom")

/-- The options it is called with keep the default parser, and its failure is the cause of the
conversion's. -/
theorem convert_stages_broken :
    let c : Converter := ⟨⟨"M_", by decide⟩, brokenFormatter.recorded⟩
    let options : Options Unit :=
      { useTemplates := true, formatterOptions := .mapping .dict [(.text "semi", .bool false)] }
    brokenFormatter.IsQuiet ∧ c.formatter = brokenFormatter.recorded ∧
    ((c.convert options (.text "x\ny")).run ({}, ())).1 =
      .error (.formatting (.raised .value "boom")) ∧
    ((c.convert options (.text "x\ny")).run ({}, ())).2.1.called =
      [(Text.ofString "(\"M_0\")",
        .mapping .dict [(parserKey, defaultParser), (.text "semi", .bool false)])] := by
  intro c options
  have hf : brokenFormatter.IsQuiet := Formatter.isQuiet_ofFun _
  have hcalls : CallsFormatter c options (.text "x\ny") {} () ["x\ny"] "(\"M_0\")"
      (.mapping .dict [(parserKey, defaultParser), (.text "semi", .bool false)]) :=
    ⟨⟨"\"M_0\"", rfl, rfl, rfl⟩, rfl⟩
  obtain ⟨hcalled, hfails⟩ :=
    (convert_stages (c := c) (w := {}) (s := ()) hf rfl).1 _ _ _ hcalls
  exact ⟨hf, rfl, (hfails _ _ rfl).1, hcalled⟩

end

end JsLiteral
