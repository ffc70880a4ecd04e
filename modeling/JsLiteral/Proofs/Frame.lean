import JsLiteral.Proofs.Collision
import JsLiteral.Proofs.CommandLine.Writing

/-!
# What a conversion leaves alone

Of the files only the formatter's configuration is ever written, under a name that is free, and
it is removed when the formatter's program has ended, however it ended. So after a conversion,
successful or not, the files are those from before it.

    what a task keeps of the files is kept by each step of it     (Keeps.bind)
    a body that writes its own file only leaves all files alone   (leavesFiles_withFile)
    conversions leave all files alone                             (convert_files)
-/

namespace JsLiteral

namespace Task

/-- What `view` shows of the files is the same after a task, whatever it answers. -/
def Keeps {α β : Type} (view : Files → β) (t : Task α) : Prop :=
  ∀ w, view (t.run w).2.files = view w.files

/-- The files are the same after a task. -/
abbrev LeavesFiles {α : Type} (t : Task α) : Prop := Keeps id t

section

variable {α β γ : Type} {view : Files → γ}

theorem Keeps.pure (a : α) : Keeps view (pure a : Task α) := fun _ => rfl

theorem Keeps.throw (e : Failure) : Keeps view (throw e : Task α) := fun _ => rfl

theorem Keeps.get : Keeps view (get : Task World) := fun _ => rfl

theorem Keeps.record (e : Event) : Keeps view (record e) := fun _ => rfl

theorem Keeps.ofExcept (r : Except Failure α) : Keeps view (ofExcept r) := by
  cases r with
  | ok a => exact .pure a
  | error e => exact .throw e

theorem Keeps.bind {t : Task α} {f : α → Task β} (ht : Keeps view t) (hf : ∀ a, Keeps view (f a)) :
    Keeps view (t >>= f) := by
  intro w
  have hw := ht w
  rw [run_bind]
  rcases hrun : t.run w with ⟨r, w'⟩
  rw [hrun] at hw
  cases r with
  | ok a => exact (hf a w').trans hw
  | error e => exact hw

theorem Keeps.wrapFailure {t : Task α} (wrap : Failure → Failure) (ht : Keeps view t) :
    Keeps view (wrapFailure wrap t) := by
  intro w
  have hw := ht w
  show view (Task.wrapFailure wrap t w).2.files = _
  unfold Task.wrapFailure
  rcases hrun : t.run w with ⟨r, w'⟩
  rw [hrun] at hw
  cases r with
  | ok a => exact hw
  | error e => exact hw

/-- A new file is gone after a task that touches no other file. -/
theorem leavesFiles_withFile (base : Text) {body : Text → Task α}
    (hbody : ∀ path, Keeps (Files.remove · path) (body path)) :
    LeavesFiles (withFile base body) := by
  intro w
  have hw := hbody (w.files.fresh base)
    { w with files := w.files.put (w.files.fresh base) (.file []) }
  refine hw.trans ?_
  simp only [Files.remove_put]
  exact Files.remove_of_get?_eq_none (Files.get?_fresh _ _)

end

end Task

open Json

/-! ## Formatters -/

/-- A formatter that leaves the files alone, whatever it is called with. -/
def Formatter.LeavesFiles (f : Formatter) : Prop :=
  ∀ code options, Task.LeavesFiles (f code options)

/-- A program is started with a configuration under its path, and no other file is written. -/
theorem External.keeps_start (x : External) (launch : Launcher) (code : Text) (config : Members)
    (timeout : Value) (path : Text) :
    Task.Keeps (Files.remove · path) (x.start launch code config timeout path) := by
  refine .bind .get fun w => .bind (.ofExcept _) fun text => .bind (fun w => ?_) fun _ =>
    .bind (.ofExcept _) fun command => .bind (.record _) fun _ => .bind .get fun w =>
      .bind (.record _) fun _ => ?_
  · exact Files.remove_put _ _ _
  · split
    · exact .throw _
    · exact .pure _

theorem External.leavesFiles_format (x : External) (launch : Launcher) :
    Formatter.LeavesFiles (x.format launch) := by
  intro code options
  refine .bind .get fun w => .bind (.ofExcept _) fun config => .bind .get fun w =>
    .bind (.ofExcept _) fun timeout => .bind ?_ fun (_, outcome) => ?_
  · exact Task.leavesFiles_withFile configName (x.keeps_start launch code _ timeout)
  · cases outcome with
    | failed e => exact .throw e
    | finished exit stdout stderr =>
      simp only
      split
      · exact .pure _
      · exact .bind (.record _) fun _ => .throw _

/-! ## Conversions -/

section

variable {σ : Type} {options : Options σ} {c : Converter}

theorem leavesFiles_spliceOne (options : Options σ) (marker code : Text) (i : Nat) (t : Text) :
    Task.LeavesFiles (spliceOne options marker code i t) := by
  unfold spliceOne
  simp only
  split
  · exact .throw _
  · exact .bind (.record _) fun _ => .pure _

theorem leavesFiles_spliceFrom (options : Options σ) (marker : Text) (texts : List Text) :
    ∀ (i : Nat) (code : Text), Task.LeavesFiles (spliceFrom options marker i texts code) := by
  induction texts with
  | nil => exact fun i code => .pure code
  | cons t rest ih =>
    exact fun i code => .bind (leavesFiles_spliceOne options marker code i t) fun _ => ih _ _

theorem leavesFiles_layOut {formatter : Formatter} (hf : formatter.LeavesFiles) (code : Text) :
    Task.LeavesFiles (layOut formatter options code) := by
  rw [layOut_eq]
  refine .bind ?_ fun code => ?_
  · split
    · exact .ofExcept _
    · exact .pure _
  · unfold formatted
    split
    · exact .bind .get fun w => .bind (.ofExcept _) fun given => .wrapFailure _ (hf _ _)
    · exact .pure _

theorem leavesFiles_finish (hf : c.formatter.LeavesFiles) (skeleton : Text) (waiting : List Text) :
    Task.LeavesFiles (finish c options skeleton waiting) := by
  intro w
  by_cases hcollides :
      Collides c.marker.text (options.opening ++ skeleton ++ options.closing) waiting
  · rw [finish_run_of_collides c hcollides]
  · rw [finish_eq_of_not_collides c hcollides]
    exact Task.Keeps.bind (leavesFiles_layOut hf _) (fun code =>
      .bind (leavesFiles_spliceFrom options _ waiting 0 code) fun _ => .pure _) (w.serialized _)

/-- After a conversion, successful or not, the files are those from before it. -/
theorem convert_files (hf : c.formatter.LeavesFiles) (v : Value) (w : World) (s : σ) :
    ((c.convert options v).run (w, s)).2.1.files = w.files := by
  rcases hskeleton : (skeleton w options c.marker.text v).run (s, []) with ⟨r, s', waiting⟩
  cases r with
  | error e => rw [convert_of_skeleton_eq_error hskeleton]
  | ok text =>
    rw [convert_of_skeleton hskeleton]
    exact leavesFiles_finish hf text waiting w

end

end JsLiteral
