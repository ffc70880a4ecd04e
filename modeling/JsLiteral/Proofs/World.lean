import JsLiteral.World

/-!
# Running tasks

What a step that may fail and changes a state answers in a given state, one lemma for each
way such a step is built. A task is such a step whose state is the world.
-/

namespace JsLiteral

/-- What is left to do after an answer. -/
theorem bind_eq_ok {α β : Type} {x : Except Failure α} {f : α → Except Failure β} {b : β}
    (h : (x >>= f) = .ok b) : ∃ a, x = .ok a ∧ f a = .ok b := by
  cases x with
  | error e => cases h
  | ok a => exact ⟨a, rfl, h⟩

namespace Task

theorem run_bind {σ α β : Type} (x : ExceptT Failure (StateM σ) α)
    (f : α → ExceptT Failure (StateM σ) β) (s : σ) :
    (x >>= f).run s = match x.run s with
      | (.ok a, s') => (f a).run s'
      | (.error e, s') => (.error e, s') := by
  unfold ExceptT.run
  simp only [bind, ExceptT.bind, ExceptT.mk, StateT.bind]
  rcases x s with ⟨r, s'⟩
  cases r with
  | ok a => rfl
  | error e => rfl

/-- What is left to do after a step that answered. -/
theorem run_bind_eq_ok {σ α β : Type} {x : ExceptT Failure (StateM σ) α}
    {f : α → ExceptT Failure (StateM σ) β} {s s' : σ} {b : β}
    (h : (x >>= f).run s = (.ok b, s')) :
    ∃ a s₁, x.run s = (.ok a, s₁) ∧ (f a).run s₁ = (.ok b, s') := by
  rw [run_bind] at h
  rcases hx : x.run s with ⟨r, s₁⟩
  rw [hx] at h
  cases r with
  | error e => cases h
  | ok a => exact ⟨a, s₁, rfl, h⟩

/-- A failure is that of a step or of what is left to do after it. -/
theorem run_bind_eq_error {σ α β : Type} {x : ExceptT Failure (StateM σ) α}
    {f : α → ExceptT Failure (StateM σ) β} {s s' : σ} {e : Failure}
    (h : (x >>= f).run s = (.error e, s')) :
    x.run s = (.error e, s') ∨
      ∃ a s₁, x.run s = (.ok a, s₁) ∧ (f a).run s₁ = (.error e, s') := by
  rw [run_bind] at h
  rcases hx : x.run s with ⟨r, s₁⟩
  rw [hx] at h
  cases r with
  | error e' =>
    cases h
    exact Or.inl rfl
  | ok a => exact Or.inr ⟨a, s₁, rfl, h⟩

theorem run_pure {σ α : Type} (a : α) (s : σ) :
    ExceptT.run (pure a : ExceptT Failure (StateM σ) α) s = (.ok a, s) := rfl

theorem run_get {σ : Type} (s : σ) :
    ExceptT.run (get : ExceptT Failure (StateM σ) σ) s = (.ok s, s) := rfl

theorem run_modify {σ : Type} (f : σ → σ) (s : σ) :
    ExceptT.run (modify f : ExceptT Failure (StateM σ) PUnit) s = (.ok ⟨⟩, f s) := rfl

theorem run_ofExcept_ok {α : Type} (a : α) (w : World) :
    (ofExcept (.ok a)).run w = (.ok a, w) := rfl

theorem run_record (e : Event) (w : World) :
    (record e).run w = (.ok (), { w with journal := w.journal ++ [e] }) := rfl

theorem run_note (level : Level) (source : Source) (message : Text) (w : World) :
    (note level source message).run w =
      (.ok (), { w with journal := w.journal ++ [.noted level source message] }) := rfl

theorem wrapFailure_eq_ok {α : Type} {wrap : Failure → Failure} {t : Task α} {w w' : World} {a : α}
    (h : (Task.wrapFailure wrap t).run w = (.ok a, w')) : t.run w = (.ok a, w') := by
  have h : Task.wrapFailure wrap t w = _ := h
  unfold Task.wrapFailure at h
  rcases hrun : t.run w with ⟨r, w₁⟩
  rw [hrun] at h
  cases r with
  | ok a' => exact h
  | error e => cases h

theorem run_withFile {α : Type} (base : Text) (body : Text → Task α) (w : World) :
    (withFile base body).run w =
      (((body (w.files.fresh base)).run
          { w with files := w.files.put (w.files.fresh base) (.file []) }).1,
        { ((body (w.files.fresh base)).run
            { w with files := w.files.put (w.files.fresh base) (.file []) }).2 with
          files := ((body (w.files.fresh base)).run
            { w with files := w.files.put (w.files.fresh base) (.file []) }).2.files.remove
              (w.files.fresh base) }) := rfl

end Task

end JsLiteral
