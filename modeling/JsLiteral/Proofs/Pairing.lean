import Mathlib.Logic.Relation
import JsLiteral.Proofs.Json.Printing

/-!
# Tokens and the texts that wait

Each token that stands in a skeleton belongs to the text of the node it was printed for, and
the tokens are numbered from the left. The number of a token is how many texts wait when its
node is shown to the caller. So a token that the caller does not leave in its place leaves no
text behind, and its number is free for the next eligible text.

    the i-th hole of the skeleton is `token marker i` and stands for `waiting[i]`
                                                                   (waiting_of_skeleton)
-/

namespace JsLiteral

open Template Json Placeholder

variable {σ : Type} {options : Options σ} {marker : Text} {backticks : Bool}

/-! ## Numbers of tokens -/

/-- A chosen text is shown as the token whose number is that of the texts that wait. -/
theorem shown_of_chosen {t : Text} (ht : chosen options backticks t = true)
    (waiting : List Text) :
    shown options marker backticks waiting (.text t) = .text (token marker waiting.length) := by
  rw [shown, tokenFor?_text, if_pos ht]

/-- A chosen text waits if its token is left in its place, and else nothing changes. -/
theorem waiting_of_chosen {key t : Text} (ht : chosen options backticks t = true) {u : Value}
    {s s' : Pending σ} (h : (placing options marker backticks key (.text t)).run s = (.ok u, s')) :
    (u = .text (token marker s.2.length) → s'.2 = s.2 ++ [t]) ∧
      (u ≠ .text (token marker s.2.length) → s'.2 = s.2) := by
  rcases keeps_or_leaves h with ⟨t', he, hu, -, hwaiting⟩ | ⟨hleaves, hwaiting⟩
  · cases he
    exact ⟨fun _ => hwaiting, fun hne => absurd hu hne⟩
  · have hne : u ≠ .text (token marker s.2.length) :=
      hleaves.not_token _ t (by rw [tokenFor?_text, if_pos ht])
    exact ⟨fun he => absurd he hne, fun _ => hwaiting⟩

/-- A node that is not a chosen text changes nothing. -/
theorem waiting_of_not_chosen {key : Text} {v u : Value}
    (hv : ∀ t, v = .text t → chosen options backticks t = false) {s s' : Pending σ}
    (h : (placing options marker backticks key v).run s = (.ok u, s')) : s'.2 = s.2 := by
  rcases keeps_or_leaves h with ⟨t, rfl, -, hkeeps, -⟩ | ⟨-, hwaiting⟩
  · exact absurd hkeeps.chosen (Bool.eq_false_iff.1 (hv t rfl))
  · exact hwaiting

/-- Nodes that are not chosen texts are visited one after the other. -/
def Passes (options : Options σ) (marker : Text) (backticks : Bool) :
    Pending σ → Pending σ → Prop :=
  Relation.ReflTransGen fun s s' => ∃ key v u,
    (∀ t, v = .text t → chosen options backticks t = false) ∧
      (placing options marker backticks key v).run s = (.ok u, s')

theorem Passes.waiting {s s' : Pending σ} (h : Passes options marker backticks s s') :
    s'.2 = s.2 := by
  induction h with
  | refl => rfl
  | tail _ hstep ih =>
    obtain ⟨key, v, u, hv, hrun⟩ := hstep
    rw [waiting_of_not_chosen hv hrun, ih]

/-! ## The texts that wait -/

/-- A conversion says that it has used literals exactly if texts waited. -/
theorem usedTemplates_of_convert {c : Converter} {w w' : World} {v : Value} {s s' s₁ : σ}
    {text : Text} {waiting : List Text} {r : Conversion}
    (hskeleton : (skeleton w options c.marker.text v).run (s, []) = (.ok text, (s₁, waiting)))
    (h : (c.convert options v).run (w, s) = (.ok r, (w', s'))) :
    r.usedTemplates = !waiting.isEmpty := by
  rw [convert_of_skeleton hskeleton] at h
  obtain ⟨hr, -⟩ := Prod.mk.inj h
  have hfinish : (finish c options text waiting).run w =
      (.ok r, ((finish c options text waiting).run w).2) := Prod.ext hr rfl
  unfold finish at hfinish
  simp only at hfinish
  split at hfinish
  · cases hfinish
  · obtain ⟨_, w₁, -, h₁⟩ := Task.run_bind_eq_ok hfinish
    obtain ⟨_, w₂, -, h₂⟩ := Task.run_bind_eq_ok h₁
    obtain ⟨_, w₃, -, h₃⟩ := Task.run_bind_eq_ok h₂
    cases h₃
    rfl

/-- **Tokens and waiting texts stay paired**, whatever the caller's replacer makes of the nodes.
The holes of the skeleton, filled with the tokens from number 0 on, stand for the texts that
wait, in order, and each of them is the text of the node that the token was printed for. An
eligible text is shown as the token whose number is that of the texts that wait; left in its
place, it makes the text wait, and otherwise it is what the next eligible text is shown as. -/
theorem waiting_of_skeleton {c : Converter} {w : World} {v : Value} {s s' : σ} {text : Text}
    {waiting : List Text} (huse : options.useTemplates = true)
    (hb : backticks = options.backticks.getD w.settings.allowsBackticks)
    (h : (skeleton w options c.marker.text v).run (s, []) = (.ok text, (s', waiting))) :
    (∃ gap p, Json.gap w.heap options.space = .ok gap ∧
      Prints w.heap options c.marker.text backticks [] [] v (s, []) p (s', waiting) ∧
      text = emit (quotedToken c.marker.text) 0 (p.skeleton gap) ∧
      holes (p.skeleton gap) = waiting) ∧
    (∀ key t u state state', isEligible backticks t = true →
      (placing options c.marker.text backticks key (.text t)).run state = (.ok u, state') →
      shown options c.marker.text backticks state.2 (.text t) =
          .text (token c.marker.text state.2.length) ∧
        (u = .text (token c.marker.text state.2.length) → state'.2 = state.2 ++ [t]) ∧
        (u ≠ .text (token c.marker.text state.2.length) → state'.2 = state.2 ∧
          ∀ later next, Passes options c.marker.text backticks state' later →
            isEligible backticks next = true →
            shown options c.marker.text backticks later.2 (.text next) =
              .text (token c.marker.text state.2.length))) ∧
    (∀ r w' s₁, (c.convert options v).run (w, s) = (.ok r, (w', s₁)) →
      (r.usedTemplates = true ↔ waiting ≠ [])) ∧
    (options.replacer = none → ∃ doc, IsDocument w.heap [] v doc ∧
      waiting = doc.texts.filter (isEligible backticks)) := by
  subst hb
  have hchosen : chosen options (options.backticks.getD w.settings.allowsBackticks) =
      isEligible (options.backticks.getD w.settings.allowsBackticks) := by
    funext t
    rw [chosen, huse, Bool.true_and]
  obtain ⟨gap, p, hgap, hp, hheld, htext⟩ := prints_of_skeleton h
  refine ⟨⟨gap, p, hgap, hp, htext, ?_⟩, ?_, ?_, ?_⟩
  · rw [Printed.holes_skeleton, hheld]
  · intro key t u state state' ht hrun
    rw [← hchosen] at ht
    obtain ⟨hkept, hfree⟩ := waiting_of_chosen ht hrun
    refine ⟨shown_of_chosen ht state.2, hkept, fun hne => ⟨hfree hne, ?_⟩⟩
    intro later next hpasses hnext
    rw [← hchosen] at hnext
    rw [hpasses.waiting, hfree hne, shown_of_chosen hnext]
  · intro r w' s₁ hconvert
    rw [usedTemplates_of_convert h hconvert, Bool.not_eq_true', List.isEmpty_eq_false_iff]
  · intro hr
    obtain ⟨doc, hdoc, rfl⟩ := isDocument_of_prints hr p hp
    refine ⟨doc, hdoc, ?_⟩
    rw [hheld, Printed.held_choosing _ _ (IsDocument.held doc hdoc), hchosen]

/-- A replacer that drops one member and puts an eligible text in the place of another. -/
def rewriting : Json.Replacer Unit := .ofFun fun key _ =>
  if key = Text.ofString "a" then .ok .absent
  else if key = Text.ofString "b" then .ok (.sequence .list [.text "k\nl"])
  else .ok .null

def rewritten : Options Unit := { useTemplates := true, replacer := some rewriting }

/-- Three texts, of which the last one is left in its place. -/
def threeTexts : Value :=
  .mapping .dict [(.text "a", .text "x\ny"), (.text "b", .text "p\nq"), (.text "c", .text "u\nv")]

def rewrittenTexts : List Text := ["k\nl", "u\nv"]

def underscoreConverter : Converter := ⟨⟨"_", by decide⟩, Formatter.none⟩

/-- The two tokens stand for the text that was put in and for the one that was left. -/
theorem waiting_of_skeleton_rewritten :
    (skeleton {} rewritten underscoreConverter.marker.text threeTexts).run ((), []) =
      (Except.ok (Text.ofString "\x7b\"b\":[\"_0\"],\"c\":\"_1\"\x7d"), ((), rewrittenTexts)) ∧
    ∃ gap p, Prints [] rewritten underscoreConverter.marker.text false [] [] threeTexts ((), []) p
        ((), rewrittenTexts) ∧ holes (p.skeleton gap) = rewrittenTexts := by
  have h : (skeleton {} rewritten underscoreConverter.marker.text threeTexts).run ((), []) =
      (Except.ok (Text.ofString "\x7b\"b\":[\"_0\"],\"c\":\"_1\"\x7d"),
        ((), rewrittenTexts)) := rfl
  obtain ⟨⟨gap, p, -, hp, -, hholes⟩, -⟩ :=
    waiting_of_skeleton (c := underscoreConverter) rfl rfl h
  exact ⟨h, gap, p, hp, hholes⟩

end JsLiteral
