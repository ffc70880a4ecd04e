import JsLiteral.Proofs.Frame
import JsLiteral.Session

/-!
# What a session remembers

A session remembers its marker, the settings, and nothing else. Requests that fail change
neither. A conversion, successful or not, only adds to the journal, which nothing reads: what it
answers is what a new converter with the same marker answers under the same settings, and what
comes after it is answered as if it had not been.

    a step does not see the journal                     (Steady.bind)
    a conversion only adds to the journal               (convert_run_of_steady)
    a whole run with and without its conversions        (after_unconverted)
-/

namespace JsLiteral

/-! ## Tasks that do not see the journal -/

namespace Task

/-- A task whose answer, and what it does to the files and adds to the journal, do not depend on
the journal; it leaves the heap and the settings alone. -/
def Steady {α : Type} (t : Task α) : Prop :=
  ∀ w : World, ∃ r files events, ∀ journal, t.run { w with journal } =
    (r, { w with files, journal := journal ++ events })

section

variable {α β : Type}

theorem Steady.pure (a : α) : Steady (pure a : Task α) := fun w =>
  ⟨.ok a, w.files, [], fun journal => by rw [List.append_nil]; rfl⟩

theorem Steady.throw (e : Failure) : Steady (throw e : Task α) := fun w =>
  ⟨.error e, w.files, [], fun journal => by rw [List.append_nil]; rfl⟩

theorem Steady.record (e : Event) : Steady (record e) := fun w =>
  ⟨.ok (), w.files, [e], fun _ => rfl⟩

theorem Steady.ofExcept (r : Except Failure α) : Steady (ofExcept r) := by
  cases r with
  | ok a => exact .pure a
  | error e => exact .throw e

theorem Steady.put (files : Files → Files) :
    Steady (modify fun w => { w with files := files w.files } : Task Unit) := fun w =>
  ⟨.ok (), files w.files, [], fun journal => by rw [List.append_nil]; rfl⟩

theorem Steady.bind {t : Task α} {f : α → Task β} (ht : Steady t) (hf : ∀ a, Steady (f a)) :
    Steady (t >>= f) := by
  intro w
  obtain ⟨r, files, events, hrun⟩ := ht w
  cases r with
  | error e => exact ⟨.error e, files, events, fun journal => by rw [run_bind, hrun]⟩
  | ok a =>
    obtain ⟨r, files', events', hrun'⟩ := hf a { w with files }
    refine ⟨r, files', events ++ events', fun journal => ?_⟩
    rw [run_bind, hrun, ← List.append_assoc]
    exact hrun' (journal ++ events)

/-- What is read of the world is not the journal. -/
theorem Steady.get {f : World → Task α} (hf : ∀ w, Steady (f w))
    (hjournal : ∀ w journal, f { w with journal } = f w) : Steady (get >>= f) := by
  intro w
  obtain ⟨r, files, events, hrun⟩ := hf w w
  refine ⟨r, files, events, fun journal => ?_⟩
  rw [run_bind, run_get]
  simp only [hjournal]
  exact hrun journal

theorem Steady.wrapFailure {t : Task α} (wrap : Failure → Failure) (ht : Steady t) :
    Steady (wrapFailure wrap t) := by
  intro w
  obtain ⟨r, files, events, hrun⟩ := ht w
  cases r with
  | ok a =>
    refine ⟨.ok a, files, events, fun journal => ?_⟩
    show Task.wrapFailure wrap t _ = _
    rw [Task.wrapFailure, hrun]
  | error e =>
    refine ⟨.error (wrap e), files, events, fun journal => ?_⟩
    show Task.wrapFailure wrap t _ = _
    rw [Task.wrapFailure, hrun]

theorem Steady.withFile (base : Text) {body : Text → Task α} (hbody : ∀ path, Steady (body path)) :
    Steady (withFile base body) := by
  intro w
  obtain ⟨r, files, events, hrun⟩ := hbody (w.files.fresh base)
    { w with files := w.files.put (w.files.fresh base) (.file []) }
  refine ⟨r, files.remove (w.files.fresh base), events, fun journal => ?_⟩
  show Task.withFile base body _ = _
  unfold Task.withFile
  simp only [hrun journal]

end

end Task

open Json JsLiteral.Task

/-! ## Formatters -/

namespace Formatter

/-- A formatter whose answers depend on the code, its options and the world but for the journal,
and which changes nothing else. -/
structure IsSteady (f : Formatter) : Prop where
  steady : ∀ code options, Steady (f code options)
  files : f.LeavesFiles

theorem isSteady_ofFun (f : Text → Value → Except Failure Text) : (ofFun f).IsSteady :=
  ⟨fun code options => .ofExcept (f code options), fun code options => .ofExcept (f code options)⟩

theorem IsSteady.recorded {f : Formatter} (hf : f.IsSteady) : f.recorded.IsSteady :=
  ⟨fun code options => .bind (.record _) fun _ => hf.steady code options,
    fun code options => .bind (.record _) fun _ => hf.files code options⟩

end Formatter

theorem External.steady_start (x : External) (launch : Launcher) (code : Text) (config : Members)
    (timeout : Value) (path : Text) : Steady (x.start launch code config timeout path) := by
  refine .get (fun w => ?_) fun _ _ => rfl
  refine .bind (.ofExcept _) fun text => .bind (.put fun files => files.put path _) fun _ => ?_
  refine .bind (.ofExcept _) fun command => .bind (.record _) fun _ => ?_
  refine .get (fun w => .bind (.record _) fun _ => ?_) fun _ _ => rfl
  split
  · exact .throw _
  · exact .pure _

/-- A program that always ends alike is steady. -/
theorem External.isSteady_format (x : External) (launch : Launcher) :
    (x.format launch).IsSteady := by
  refine ⟨fun code options => ?_, x.leavesFiles_format launch⟩
  refine .get (fun w => .bind (.ofExcept _) fun config => ?_) fun _ _ => rfl
  refine .get (fun w => .bind (.ofExcept _) fun timeout => ?_) fun _ _ => rfl
  refine .bind (.withFile configName (x.steady_start launch code _ timeout)) fun (_, outcome) => ?_
  cases outcome with
  | failed e => exact .throw e
  | finished exit stdout stderr =>
    simp only
    split
    · exact .pure _
    · exact .bind (.record _) fun _ => .throw _

/-! ## Conversions -/

section

variable {σ : Type} {options : Options σ} {c : Converter}

theorem steady_spliceOne (options : Options σ) (marker code : Text) (i : Nat) (t : Text) :
    Steady (spliceOne options marker code i t) := by
  unfold spliceOne
  simp only
  split
  · exact .throw _
  · exact .bind (.record _) fun _ => .pure _

theorem steady_spliceFrom (options : Options σ) (marker : Text) (texts : List Text) :
    ∀ (i : Nat) (code : Text), Steady (spliceFrom options marker i texts code) := by
  induction texts with
  | nil => exact fun i code => .pure code
  | cons t rest ih =>
    exact fun i code => .bind (steady_spliceOne options marker code i t) fun _ => ih _ _

theorem steady_layOut {formatter : Formatter} (hf : formatter.IsSteady) (code : Text) :
    Steady (layOut formatter options code) := by
  rw [layOut_eq]
  refine .bind ?_ fun code => ?_
  · split
    · exact .ofExcept _
    · exact .pure _
  · unfold formatted
    split
    · exact .get (fun w => .bind (.ofExcept _) fun given => .wrapFailure _ (hf.steady _ _))
        fun _ _ => rfl
    · exact .pure _

theorem steady_finish (hf : c.formatter.IsSteady) (skeleton : Text) (waiting : List Text) :
    Steady (finish c options skeleton waiting) := by
  unfold finish
  simp only
  split
  · exact .bind (.throw _) fun _ => .bind (.record _) fun _ =>
      .bind (steady_layOut hf _) fun code => .bind (steady_spliceFrom options _ waiting 0 code) fun _ => .pure _
  · exact .bind (.record _) fun _ => .bind (steady_layOut hf _) fun code =>
      .bind (steady_spliceFrom options _ waiting 0 code) fun _ => .pure _

/-- A conversion answers alike whatever the journal holds, and only adds to it. -/
theorem convert_run_of_steady (hf : c.formatter.IsSteady) (v : Value) (w : World) (s : σ) :
    ∃ r events s', ∀ journal, (c.convert options v).run ({ w with journal }, s) =
      (r, ({ w with journal := journal ++ events }, s')) := by
  have hskeleton : ∀ journal, skeleton { w with journal } options c.marker.text v =
    skeleton w options c.marker.text v := fun _ => rfl
  rcases hrun : (skeleton w options c.marker.text v).run (s, []) with ⟨r, s', waiting⟩
  cases r with
  | error e =>
    refine ⟨.error e, [], s', fun journal => ?_⟩
    rw [convert_of_skeleton_eq_error (hskeleton journal ▸ hrun), List.append_nil]
  | ok text =>
    have hsteady : Steady (finish c options text waiting) := steady_finish hf text waiting
    have hleaves : LeavesFiles (finish c options text waiting) :=
      leavesFiles_finish hf.files text waiting
    obtain ⟨r, files, events, hfinish⟩ := hsteady w
    have hfiles : files = w.files := by
      have hafter := hleaves { w with journal := [] }
      rwa [hfinish] at hafter
    refine ⟨r, events, s', fun journal => ?_⟩
    rw [convert_of_skeleton (hskeleton journal ▸ hrun), hfinish, hfiles]

end

/-! ## Sessions -/

namespace Request

variable {σ : Type}

/-- The marker that a request asks for, if it is not refused. -/
def proposed : Request σ → Option Text
  | .renew t | .setMarker t => if t = [] then none else some t
  | _ => none

/-- Whether a request makes a new converter. -/
def makesConverter : Request σ → Bool
  | .renew t => t ≠ []
  | _ => false

def isConversion : Request σ → Bool
  | .convert _ _ => true
  | _ => false

end Request

namespace Session

/-- A session with another journal. -/
def withJournal (s : Session) (journal : List Event) : Session :=
  { s with world := { s.world with journal } }

/-- Two sessions that differ in the journal only. -/
def Alike (s s' : Session) : Prop := ∃ journal, s' = s.withJournal journal

theorem Alike.refl (s : Session) : Alike s s := ⟨s.world.journal, rfl⟩

theorem Alike.trans {s s' s'' : Session} (h : Alike s s') (h' : Alike s' s'') : Alike s s'' := by
  obtain ⟨journal, rfl⟩ := h
  obtain ⟨journal', rfl⟩ := h'
  exact ⟨journal', rfl⟩

theorem Alike.symm {s s' : Session} (h : Alike s s') : Alike s' s := by
  obtain ⟨journal, rfl⟩ := h
  exact ⟨s.world.journal, rfl⟩

variable {f : Formatter}

/-- What a session replies to a request whose functions keep no state. -/
def reply (f : Formatter) (s : Session) (r : Request Unit) : Except Failure Reply :=
  (s.step f () r).1

/-- The session after a request. -/
def next (f : Formatter) (s : Session) (r : Request Unit) : Session := (s.step f () r).2.1

/-- The session after a run of requests. -/
def after (f : Formatter) (s : Session) (rs : List (Request Unit)) : Session := rs.foldl (next f) s

/-! ### One request -/

theorem withMarker_of_nil (s : Session) : s.withMarker [] = (.error .emptyMarker, s) := rfl

theorem withMarker_of_ne_nil (s : Session) {t : Text} (ht : t ≠ []) :
    s.withMarker t = (.ok (.marker t), { s with marker := some ⟨t, ht⟩ }) := by
  unfold withMarker Marker.ofText
  rw [dif_neg ht]

theorem withSettings_marker (s : Session) (r : Except Failure Settings) (g : Settings → Reply) :
    (s.withSettings r g).2.marker = s.marker := by
  cases r with
  | ok settings => rfl
  | error e => rfl

/-- An empty marker is refused, and nothing changes. -/
theorem step_of_nil (s : Session) {r : Request Unit} (hr : r = .renew [] ∨ r = .setMarker []) :
    s.next f r = s ∧ ∃ e, s.reply f r = .error e := by
  rcases hr with rfl | rfl
  · exact ⟨rfl, .emptyMarker, rfl⟩
  · unfold next reply step
    simp only [withMarker_of_nil]
    split
    · exact ⟨rfl, noConverter, rfl⟩
    · exact ⟨rfl, .emptyMarker, rfl⟩

theorem next_renew (s : Session) {t : Text} (ht : t ≠ []) :
    s.next f (.renew t) = { s with marker := some ⟨t, ht⟩ } := by
  unfold next step
  simp only [withMarker_of_ne_nil s ht]

theorem next_setMarker (s : Session) {t : Text} (ht : t ≠ []) {m : Marker}
    (hm : s.marker = some m) :
    s.next f (.setMarker t) = { s with marker := some ⟨t, ht⟩ } := by
  unfold next step
  simp only [withMarker_of_ne_nil s ht, hm, Option.isNone_some, Bool.false_eq_true, if_false]

theorem proposed_eq_some {r : Request Unit} {t : Text} (h : r.proposed = some t) :
    t ≠ [] ∧ (r = .renew t ∨ r = .setMarker t) := by
  unfold Request.proposed at h
  split at h
  · split at h
    · cases h
    · cases h
      exact ⟨‹_›, .inl rfl⟩
  · split at h
    · cases h
    · cases h
      exact ⟨‹_›, .inr rfl⟩
  · cases h

/-- A request that proposes no marker leaves the marker alone. -/
theorem next_marker_of_none (s : Session) {r : Request Unit} (h : r.proposed = none) :
    (s.next f r).marker = s.marker := by
  have hnil : ∀ {t : Text}, (if t = [] then none else some t) = none → t = [] := by
    intro t ht
    split at ht
    · assumption
    · cases ht
  cases r with
  | renew t =>
    obtain rfl := hnil h
    rw [(step_of_nil s (.inl rfl)).1]
  | setMarker t =>
    obtain rfl := hnil h
    rw [(step_of_nil s (.inr rfl)).1]
  | getMarker =>
    simp only [next, step]
    split <;> rfl
  | convert options v =>
    simp only [next, step]
    split <;> rfl
  | store name t =>
    cases t with
    | none => rfl
    | some t => exact withSettings_marker s _ _
  | readSetting setting =>
    cases setting <;> rfl
  | assignSetting setting v => exact withSettings_marker s _ _
  | command x => rfl

/-- Only conversions write to the journal, and the other requests do not see it either. -/
theorem step_withJournal (s : Session) (journal : List Event) {r : Request Unit}
    (hr : r.isConversion = false) :
    (s.withJournal journal).step f () r =
      (s.reply f r, (s.next f r).withJournal journal, ()) := by
  have hsettings : ∀ (r : Except Failure Settings) (g : Settings → Reply),
      (s.withJournal journal).withSettings r g =
        ((s.withSettings r g).1, (s.withSettings r g).2.withJournal journal) := by
    intro r g
    cases r with
    | ok settings => rfl
    | error e => rfl
  have hmarker : ∀ t, (s.withJournal journal).withMarker t =
      ((s.withMarker t).1, (s.withMarker t).2.withJournal journal) := by
    intro t
    unfold withMarker
    split <;> rfl
  cases r with
  | renew t => simp only [reply, next, step, hmarker]
  | setMarker t =>
    simp only [reply, next, step, hmarker]
    cases hm : s.marker with
    | none => simp [withJournal, hm]
    | some m => simp [withJournal, hm]
  | getMarker =>
    simp only [reply, next, step]
    cases hm : s.marker with
    | none => simp [withJournal, hm]
    | some m => simp [withJournal, hm]
  | convert options v => cases hr
  | store name t =>
    cases t with
    | none => rfl
    | some t =>
      simp only [reply, next, step, hsettings]
      rfl
  | readSetting setting => cases setting <;> rfl
  | assignSetting setting v =>
    simp only [reply, next, step, hsettings]
    rfl
  | command x => rfl

/-- What a conversion replies, and what it adds to the journal, does not depend on the journal;
the reply is that of a converter which is made for it. -/
theorem step_convert (hf : f.IsSteady) {s : Session} {m : Marker} (hm : s.marker = some m)
    (options : Options Unit) (v : Value) : ∃ r events, ∀ journal,
      (s.withJournal journal).step f () (.convert options v) =
        (r, s.withJournal (journal ++ events), ()) ∧
      (((convertOnce (some m.text) f options v).run ({ s.world with journal }, ())).1.map
        Reply.converted) = r := by
  have hrun : ∃ r events s', ∀ journal,
      (Converter.convert ⟨m, f⟩ options v).run ({ s.world with journal }, ()) =
        (r, ({ s.world with journal := journal ++ events }, s')) :=
    convert_run_of_steady (c := ⟨m, f⟩) hf v s.world ()
  obtain ⟨r, events, s', hrun⟩ := hrun
  have hmarker : ∀ journal, (s.withJournal journal).marker = some m := fun _ => hm
  refine ⟨r.map .converted, events, fun journal => ⟨?_, ?_⟩⟩
  · simp only [step, hmarker]
    have hjournal := hrun journal
    simp only [withJournal, hjournal, hm]
  · rw [convertOnce, Marker.orStandard_text, hrun journal]

/-- A conversion adds to the journal, and nothing else changes. -/
theorem alike_next_convert (hf : f.IsSteady) (s : Session) (options : Options Unit) (v : Value) :
    Alike s (s.next f (.convert options v)) := by
  cases hm : s.marker with
  | none =>
    simp only [next, step, hm]
    exact .refl s
  | some m =>
    obtain ⟨r, events, hstep⟩ := step_convert hf hm options v
    have hnext : s.next f (.convert options v) = _ :=
      congrArg (fun p => p.2.1) (hstep s.world.journal).1
    exact ⟨_, hnext⟩

/-- Sessions that differ in the journal only reply alike, and go on so. -/
theorem Alike.step (hf : f.IsSteady) {s s' : Session} (h : Alike s s') (r : Request Unit) :
    s'.reply f r = s.reply f r ∧ Alike (s.next f r) (s'.next f r) := by
  cases hr : r.isConversion with
  | false =>
    obtain ⟨journal, rfl⟩ := h
    exact ⟨by rw [reply, step_withJournal s journal hr], journal,
      by rw [next, step_withJournal s journal hr]⟩
  | true =>
    obtain ⟨options, v, rfl⟩ : ∃ options v, r = .convert options v := by
      cases r with
      | convert options v => exact ⟨options, v, rfl⟩
      | _ => cases hr
    refine ⟨?_, (alike_next_convert hf s options v).symm.trans
      (h.trans (alike_next_convert hf s' options v))⟩
    obtain ⟨journal, rfl⟩ := h
    cases hm : s.marker with
    | none =>
      have hmarker : (s.withJournal journal).marker = none := hm
      simp only [reply, Session.step, hm, hmarker]
    | some m =>
      obtain ⟨r, events, hstep⟩ := step_convert hf hm options v
      have hwith : (s.withJournal journal).reply f (.convert options v) = r :=
        congrArg Prod.fst (hstep journal).1
      have hself : s.reply f (.convert options v) = r :=
        congrArg Prod.fst (hstep s.world.journal).1
      rw [hwith, hself]

/-! ### A run of requests -/

theorem after_append (s : Session) (rs rs' : List (Request Unit)) :
    s.after f (rs ++ rs') = (s.after f rs).after f rs' := List.foldl_append

theorem Alike.after (hf : f.IsSteady) {s s' : Session} (h : Alike s s') (rs : List (Request Unit)) :
    Alike (s.after f rs) (s'.after f rs) := by
  induction rs generalizing s s' with
  | nil => exact h
  | cons r rest ih => exact ih (h.step hf r).2

/-- Leaving the conversions of a run out leaves out what they add to the journal. -/
theorem after_unconverted (hf : f.IsSteady) (s : Session) (rs : List (Request Unit)) :
    Alike (s.after f (rs.filter fun r => !r.isConversion)) (s.after f rs) := by
  induction rs generalizing s with
  | nil => exact .refl s
  | cons r rest ih =>
    cases r with
    | convert options v =>
      exact (ih s).trans ((alike_next_convert hf s options v).after hf rest)
    | _ => exact ih _

/-- The marker is the one that the last accepted request proposed. -/
theorem after_marker_of_some (rs : List (Request Unit)) : ∀ {s : Session} {m : Marker},
    s.marker = some m → (s.after f rs).marker.map Marker.text =
      some ((rs.filterMap Request.proposed).getLast?.getD m.text) := by
  induction rs with
  | nil =>
    intro s m hm
    show s.marker.map Marker.text = _
    rw [hm]
    rfl
  | cons r rest ih =>
    intro s m hm
    show ((s.next f r).after f rest).marker.map Marker.text = _
    cases hr : r.proposed with
    | none =>
      rw [List.filterMap_cons_none hr]
      exact ih ((next_marker_of_none s hr).trans hm)
    | some t =>
      rw [List.filterMap_cons_some hr, List.getLast?_cons, Option.getD_some]
      obtain ⟨ht, rfl | rfl⟩ := proposed_eq_some hr
      · have hmarker : (s.next f (.renew t)).marker = some ⟨t, ht⟩ := by rw [next_renew s ht]
        exact ih hmarker
      · have hmarker : (s.next f (.setMarker t)).marker = some ⟨t, ht⟩ := by
          rw [next_setMarker s ht hm]
        exact ih hmarker

/-- Without a converter there is no marker before one is made. -/
theorem after_marker_of_none (rs : List (Request Unit)) : ∀ {s : Session},
    s.marker = none → (s.after f rs).marker.map Marker.text =
      ((rs.dropWhile fun r => !r.makesConverter).filterMap Request.proposed).getLast? := by
  induction rs with
  | nil =>
    intro s hm
    show s.marker.map Marker.text = _
    rw [hm]
    rfl
  | cons r rest ih =>
    intro s hm
    show ((s.next f r).after f rest).marker.map Marker.text = _
    cases hmakes : r.makesConverter with
    | true =>
      obtain ⟨t, ht, rfl⟩ : ∃ t, t ≠ [] ∧ r = .renew t := by
        cases r with
        | renew t => exact ⟨t, of_decide_eq_true hmakes, rfl⟩
        | _ => cases hmakes
      have hmarker : (s.next f (.renew t)).marker = some ⟨t, ht⟩ := by rw [next_renew s ht]
      have hproposed : (Request.renew t : Request Unit).proposed = some t := if_neg ht
      rw [List.dropWhile_cons_of_neg (by simp [hmakes]), List.filterMap_cons_some hproposed,
        List.getLast?_cons]
      exact after_marker_of_some rest hmarker
    | false =>
      rw [List.dropWhile_cons_of_pos (by simp [hmakes])]
      refine ih ?_
      cases hr : r.proposed with
      | none => exact (next_marker_of_none s hr).trans hm
      | some t =>
        obtain ⟨ht, rfl | rfl⟩ := proposed_eq_some hr
        · exact absurd ht (of_decide_eq_false hmakes)
        · simp [next, step, hm]

/-- **A session remembers its marker and the settings.** Over any run of requests, some of which
fail: the marker is never empty, and it is the one that the last request that was not refused
proposed, or the first one. A request for an empty marker is refused and changes nothing. After a
conversion, successful or not, only the journal may differ; what it replies is what a converter
made for it with the present marker answers, under the present settings and whatever the journal
holds. And every request is replied to as if the conversions before it had not been. -/
theorem session_remembers (hf : f.IsSteady) (s : Session) (rs : List (Request Unit)) :
    (∀ m, s.marker = some m → (s.after f rs).marker.map Marker.text =
      some ((rs.filterMap Request.proposed).getLast?.getD m.text)) ∧
    (s.marker = none → (s.after f rs).marker.map Marker.text =
      ((rs.dropWhile fun r => !r.makesConverter).filterMap Request.proposed).getLast?) ∧
    (∀ m, (s.after f rs).marker = some m → m.text ≠ []) ∧
    (∀ r, r = .renew [] ∨ r = .setMarker [] →
      s.after f (rs ++ [r]) = s.after f rs ∧ ∃ e, (s.after f rs).reply f r = .error e) ∧
    (∀ options v, ∃ journal,
      s.after f (rs ++ [.convert options v]) = (s.after f rs).withJournal journal) ∧
    (∀ options v m, (s.after f rs).marker = some m → ∀ journal,
      (s.after f rs).reply f (.convert options v) =
        (((convertOnce (some m.text) f options v).run
          ({ (s.after f rs).world with journal }, ())).1.map Reply.converted)) ∧
    (∀ r, (s.after f rs).reply f r =
      (s.after f (rs.filter fun r => !r.isConversion)).reply f r) := by
  refine ⟨fun m hm => after_marker_of_some rs hm, after_marker_of_none rs,
    fun m _ => m.text_ne_nil, fun r hr => ?_, fun options v => ?_, fun options v m hm journal => ?_,
    fun r => ((after_unconverted hf s rs).step hf r).1⟩
  · obtain ⟨hnext, hrefused⟩ := step_of_nil (f := f) (s.after f rs) hr
    exact ⟨by rw [after_append]; exact hnext, hrefused⟩
  · obtain ⟨journal, hnext⟩ := alike_next_convert hf (s.after f rs) options v
    exact ⟨journal, by rw [after_append]; exact hnext⟩
  · obtain ⟨r, events, hstep⟩ := step_convert hf hm options v
    rw [(hstep journal).2]
    exact congrArg Prod.fst (hstep (s.after f rs).world.journal).1

/-- A run in which a conversion and a change of the marker fail. -/
def bumpyRun : List (Request Unit) :=
  [.renew "A_", .convert {} (.other "set" "set()" none), .setMarker [],
    .store .backticks (some "1"), .setMarker "B_"]

/-- The text with a backtick becomes a literal, as the settings allow it by now. -/
theorem session_remembers_bumpyRun :
    Formatter.none.recorded.IsSteady ∧
    (({} : Session).after Formatter.none.recorded bumpyRun).marker.map Marker.text = some "B_" ∧
    (({} : Session).after Formatter.none.recorded bumpyRun).reply Formatter.none.recorded
        (.convert { useTemplates := true } (.text "x\n\x60")) =
      ((convertOnce (some "B_") Formatter.none.recorded { useTemplates := true }
        (.text "x\n\x60")).run ({ settings := { backticks := some "1" } }, ())).1.map
          Reply.converted ∧
    (({} : Session).after Formatter.none.recorded bumpyRun).reply Formatter.none.recorded
        (.convert { useTemplates := true } (.text "x\n\x60")) =
      .ok (.converted ⟨"( dedent\x60\n  x\n  \\\x60\n\x60)", true⟩) := by
  have hf : Formatter.none.recorded.IsSteady :=
    (Formatter.isSteady_ofFun fun code _ => .ok code).recorded
  obtain ⟨-, hmarker, -, -, -, hconvert, -⟩ := session_remembers hf {} bumpyRun
  refine ⟨hf, hmarker rfl, hconvert _ _ ⟨"B_", by decide⟩ rfl [], ?_⟩
  rw [hconvert _ _ ⟨"B_", by decide⟩ rfl []]
  rfl

end Session

end JsLiteral
