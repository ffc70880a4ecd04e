import JsLiteral.Proofs.Json.Strings
import JsLiteral.Proofs.Placeholder.Sequence
import JsLiteral.Proofs.Template.Woven
import Mathlib.Data.List.Basic

/-!
# Code during splicing

The code between two steps of splicing: gaps that hold no marker, and between them what
stands for each text, its quoted token or a literal. A quoted token that is looked for stands
at its own place or in the body of a literal, never across two parts. So a step either puts a
literal in the token's place or puts it into the body of another literal, which is torn then
and stays so.

    one step:    Spliced k t segs segs'                                  (exists_spliced)
    a whole run: every literal is the text's own, or some body is torn   (spliceFrom_arranged)
-/

namespace JsLiteral.Placeholder

open Text Template

/-! ## Parts -/

/-- What stands for a text: its token in quotes, or a literal with the raw lines `b`. -/
inductive Fill where
  | token (i : Nat)
  | literal (w b : Text)

def Fill.text (marker : Text) : Fill → Text
  | .token i => between '"' (Placeholder.token marker i)
  | .literal w b => fenced w b

/-- The code after its first gap: each fill and the gap that follows it. -/
def weave (marker : Text) : List (Fill × Text) → Text
  | [] => []
  | (fill, gap) :: rest => fill.text marker ++ (gap ++ weave marker rest)

theorem weave_append (marker : Text) (ss ss' : List (Fill × Text)) :
    weave marker (ss ++ ss') = weave marker ss ++ weave marker ss' := by
  induction ss with
  | nil => rfl
  | cons s ss ih => simp only [List.cons_append, weave, ih, List.append_assoc]

/-- A marker that a quoted text shows as it is. -/
structure IsVerbatim (marker : Text) : Prop where
  ne_nil : marker ≠ []
  verbatim : ∀ c ∈ marker, Json.isVerbatim c = true

namespace IsVerbatim

variable {marker : Text} (hv : IsVerbatim marker)
include hv

theorem not_mem {c : CodePoint} (hc : Json.isVerbatim c = false) : c ∉ marker := by
  intro h
  rw [hv.verbatim c h] at hc
  cases hc

theorem quote_not_mem : CodePoint.scalar '"' ∉ marker := hv.not_mem (by decide)

theorem backslash_not_mem : CodePoint.scalar '\\' ∉ marker := hv.not_mem (by decide)

theorem newline_not_mem : newline ∉ marker := hv.not_mem (by decide)

theorem of_mem_token {i : Nat} {c : CodePoint} (hc : c ∈ token marker i) :
    Json.isVerbatim c = true := by
  rcases List.mem_append.1 hc with hc | hc
  · exact hv.verbatim c hc
  · exact Json.isVerbatim_of_mem_ofNat hc

/-- The JSON literal of a token is the token between double quotes. -/
theorem quote_token (i : Nat) : Json.quote (token marker i) = between '"' (token marker i) := by
  unfold Json.quote between
  rw [Json.flatMap_quotePoint fun c hc => hv.of_mem_token hc]

end IsVerbatim

/-! ## Where a quoted token stands -/

section

variable {marker q x y a : Text} {k : Nat}

/-- A quoted token in a text with another one in it stands there or after it. -/
theorem cut_token (hv : IsVerbatim marker) (hq : IsQuoted (token marker k) q)
    (ha : ¬ marker <:+: a) {j : Nat} {r : Text}
    (h : x ++ q ++ y = a ++ (between '"' (token marker j) ++ r)) :
    (j = k ∧ q = between '"' (token marker j) ∧ x = a ∧ y = r) ∨
      ∃ u, x = a ++ (CodePoint.scalar '"' :: token marker j ++ u) ∧
        u ++ q ++ y = CodePoint.scalar '"' :: r := by
  obtain ⟨mark, hmark, rfl⟩ := hq
  have hdq : CodePoint.scalar '"' ∉ token marker j := not_mem_token hv.quote_not_mem (by decide) j
  have h1 : (x ++ [mark]) ++ marker ++ (Text.ofNat k ++ [mark] ++ y) =
      a ++ CodePoint.scalar '"' :: (token marker j ++ CodePoint.scalar '"' :: r) := by
    simpa [between, token] using h
  rcases cut_at_separator hv.quote_not_mem h1 with ⟨z, hz, -⟩ | ⟨z, hz, hr⟩
  · exact absurd ⟨_, _, hz.symm⟩ ha
  rcases cut_at_separator hv.quote_not_mem hr.symm with ⟨z', hz', hy⟩ | ⟨z', rfl, hr'⟩
  · -- the marker stands in the other token: at its start, as a quote stands before it
    rcases List.eq_nil_or_concat z with rfl | ⟨z₀, d, rfl⟩
    · obtain ⟨hx, hm⟩ := List.append_inj' hz rfl
      obtain ⟨rfl, -⟩ := List.cons.inj hm
      have hdigits : Text.ofNat j = z' := List.append_cancel_left (show marker ++ _ = _ from hz')
      rw [← hdigits, List.append_assoc, List.singleton_append] at hy
      have hjk := eq_of_append_separator (hmark.not_mem_ofNat k) (hmark.not_mem_ofNat j) hy
      obtain rfl := ofNat_injective hjk
      refine Or.inl ⟨rfl, rfl, hx, ?_⟩
      exact (List.cons.inj (List.append_cancel_left hy)).2
    · exfalso
      have hlast : x ++ [mark] = (a ++ CodePoint.scalar '"' :: z₀) ++ [d] := by rw [hz]; simp
      obtain ⟨-, hd⟩ := List.append_inj' hlast rfl
      obtain ⟨rfl, -⟩ := List.cons.inj hd
      rcases hmark with rfl | rfl
      · exact hdq (hz' ▸ by simp)
      · have hsq : CodePoint.scalar '"' ∉ Text.ofNat k ++ [CodePoint.scalar '\''] := by
          intro hmem
          rcases List.mem_append.1 hmem with hmem | hmem
          · exact Text.not_mem_ofNat (by decide) k hmem
          · exact absurd (List.mem_singleton.1 hmem) (by decide)
        have hy' : [] ++ (Text.ofNat k ++ [CodePoint.scalar '\'']) ++ y =
            z' ++ CodePoint.scalar '"' :: r := hy
        rcases cut_at_separator hsq hy' with ⟨z'', rfl, -⟩ | ⟨z'', hz'', -⟩
        · have hlast : [] ++ ((z₀ ++ [CodePoint.scalar '\''] ++ marker ++ Text.ofNat k) ++
              [CodePoint.scalar '\'']) ++ z'' = marker ++ Text.ofNat j := by
            rw [show marker ++ Text.ofNat j = _ from hz']
            simp
          obtain ⟨u, hu, -⟩ := cut_before_tail (Text.not_mem_ofNat (by decide) j) hlast
          have := congrArg List.length hu
          simp only [List.length_append, List.length_cons, List.length_nil] at this
          omega
        · simp at hz''
  · -- the marker stands after the other token
    have hz : x ++ [mark] = (a ++ CodePoint.scalar '"' :: token marker j) ++
        (CodePoint.scalar '"' :: z') := by rw [hz]; simp
    obtain ⟨u, rfl, hu⟩ := cut_last (List.cons_ne_nil _ _) hz
    refine Or.inr ⟨u, by simp, ?_⟩
    rw [hr', ← List.cons_append, ← List.cons_append, hu]
    simp [between, token]

/-- Where a quoted token stands between gaps that hold no marker: at its own place, or in the
body of a literal. -/
theorem cut_weave (hv : IsVerbatim marker) (hq : IsQuoted (token marker k) q)
    {segs : List (Fill × Text)} (ha : ¬ marker <:+: a) (hg : ∀ s ∈ segs, ¬ marker <:+: s.2)
    (hi : ∀ w b g, (.literal w b, g) ∈ segs → IsIndent w)
    (h : x ++ q ++ y = a ++ weave marker segs) :
    (∃ before gap after, segs = before ++ (.token k, gap) :: after ∧
      q = between '"' (token marker k) ∧ x = a ++ weave marker before ∧
        y = gap ++ weave marker after) ∨
    ∃ before w u v gap after, segs = before ++ (.literal w (u ++ q ++ v), gap) :: after ∧
      x = a ++ weave marker before ++ (tag ++ backtick :: newline :: u) ∧
        y = v ++ newline :: (w ++ backtick :: (gap ++ weave marker after)) := by
  induction segs generalizing a x with
  | nil =>
    exfalso
    obtain ⟨mark, -, rfl⟩ := hq
    refine ha ⟨x ++ [mark], Text.ofNat k ++ [mark] ++ y, ?_⟩
    rw [weave, List.append_nil] at h
    rw [← h]
    simp [between, token]
  | cons s segs ih =>
    obtain ⟨fill, gap⟩ := s
    have hgap : ¬ marker <:+: gap := hg _ List.mem_cons_self
    have hg' : ∀ s ∈ segs, ¬ marker <:+: s.2 := fun s hs => hg s (List.mem_cons_of_mem _ hs)
    have hi' : ∀ w b g, (.literal w b, g) ∈ segs → IsIndent w :=
      fun w b g hs => hi w b g (List.mem_cons_of_mem _ hs)
    cases fill with
    | token j =>
      rcases cut_token hv hq ha h with ⟨rfl, hqj, rfl, rfl⟩ | ⟨u, rfl, hu⟩
      · exact Or.inl ⟨[], gap, segs, rfl, hqj, by rw [weave, List.append_nil], rfl⟩
      · have hgap' : ¬ marker <:+: CodePoint.scalar '"' :: gap := by
          rw [List.infix_cons_iff]
          rintro (hpre | hin)
          · obtain ⟨c, m, rfl⟩ := List.exists_cons_of_ne_nil hv.ne_nil
            obtain ⟨_, he⟩ := hpre
            obtain ⟨rfl, -⟩ := List.cons.inj he
            exact hv.quote_not_mem List.mem_cons_self
          · exact hgap hin
        rcases ih hgap' hg' hi' hu with ⟨before, g, after, rfl, hqk, rfl, rfl⟩ |
          ⟨before, w, u', v, g, after, rfl, rfl, rfl⟩
        · refine Or.inl ⟨(.token j, gap) :: before, g, after, rfl, hqk, ?_, rfl⟩
          simp [weave, Fill.text, between]
        · refine Or.inr ⟨(.token j, gap) :: before, w, u', v, g, after, rfl, ?_, rfl⟩
          simp [weave, Fill.text, between]
    | literal w b =>
      have hw : IsIndent w := hi w b gap List.mem_cons_self
      have hnq := newline_not_mem_quoted hv.newline_not_mem hq
      obtain ⟨mark, hmark, rfl⟩ := hq
      have h1 : x ++ between mark (token marker k) ++ y = (a ++ (tag ++ [backtick])) ++
          newline :: (b ++ newline :: ((w ++ [backtick]) ++ (gap ++ weave marker segs))) := by
        rw [h, weave, Fill.text, fenced_append]
        simp
      rcases cut_at_separator hnq h1 with ⟨z, hz, -⟩ | ⟨z, rfl, hz⟩
      · -- before the literal: in the gap
        exfalso
        have hm : mark ∉ tag ++ [backtick] := fun hm => not_isQuote_of_mem_tag hm hmark
        obtain ⟨u, rfl, -⟩ := cut_before_tail (p := mark :: token marker k) hm hz.symm
        exact ha ⟨x ++ [mark], Text.ofNat k ++ [mark] ++ u, by simp [token]⟩
      rcases cut_at_separator hnq hz.symm with ⟨z', rfl, rfl⟩ | ⟨z', rfl, hz'⟩
      · refine Or.inr ⟨[], w, z, z', gap, segs, rfl, ?_, by simp⟩
        simp [weave]
      · -- after the literal
        have hm : mark ∉ w ++ [backtick] := by
          intro hm
          rcases List.mem_append.1 hm with hm | hm
          · exact hmark.not_mem_of_isIndent hw hm
          · obtain rfl := List.mem_singleton.1 hm
            exact absurd hmark (by decide)
        obtain ⟨u, rfl, hu⟩ := cut_after_head (p := token marker k ++ [mark]) hm hz'.symm
        rcases ih hgap hg' hi' hu.symm with ⟨before, g, after, rfl, hqk, rfl, rfl⟩ |
          ⟨before, w', u', v, g, after, rfl, rfl, rfl⟩
        · refine Or.inl ⟨(.literal w b, gap) :: before, g, after, rfl, hqk, ?_, rfl⟩
          simp [weave, Fill.text, fenced]
        · refine Or.inr ⟨(.literal w b, gap) :: before, w', u', v, g, after, rfl, ?_, rfl⟩
          simp [weave, Fill.text, fenced]

end

/-! ## One step -/

/-- Gaps hold no marker, and bodies are raw with or without literals in them. -/
structure Arranged (marker a : Text) (segs : List (Fill × Text)) : Prop where
  first : ¬ marker <:+: a
  gaps : ∀ s ∈ segs, ¬ marker <:+: s.2
  bodies : ∀ w b g, (.literal w b, g) ∈ segs → IsIndent w ∧ ∃ torn, Woven torn b

/-- No body holds a quoted token with a number in `is`. -/
def Quiet (marker : Text) (is : List Nat) (segs : List (Fill × Text)) : Prop :=
  ∀ w b g, (.literal w b, g) ∈ segs → Free marker is b

/-- Some body has a literal in it. -/
def Torn (segs : List (Fill × Text)) : Prop :=
  ∃ w b g, (.literal w b, g) ∈ segs ∧ Woven true b

/-- What a step makes of the parts: the literal of `t` comes in the place of token `k`, or
into a body that holds this token and stands before it. -/
inductive Spliced (marker : Text) (k : Nat) (t : Text) :
    List (Fill × Text) → List (Fill × Text) → Prop
  | place {before after : List (Fill × Text)} {gap w : Text} :
    IsIndent w → Quiet marker [k] before →
      Spliced marker k t (before ++ (.token k, gap) :: after)
        (before ++ (.literal w (own w t), gap) :: after)
  | body {before after : List (Fill × Text)} {gap w u q v w' : Text} :
    IsIndent w' → IsQuoted (token marker k) q →
      Spliced marker k t (before ++ (.literal w (u ++ q ++ v), gap) :: after)
        (before ++ (.literal w (u ++ fenced w' (own w' t) ++ v), gap) :: after)

section

variable {σ : Type} {options : Options σ} {marker a t : Text} {k : Nat}
variable {segs segs' : List (Fill × Text)}

theorem standsAt_of_mem_body (a : Text) (before after : List (Fill × Text)) (w : Text) {b : Text}
    (g : Text) {p : Nat} (h : StandsAt (token marker k) b p) :
    ∃ p', StandsAt (token marker k) (a ++ weave marker (before ++ (.literal w b, g) :: after)) p' ∧
      p' < (a ++ weave marker (before ++ [(.literal w b, g)])).length := by
  obtain ⟨u, q, v, rfl, rfl, hq⟩ := h
  refine ⟨_, ⟨a ++ weave marker before ++ (tag ++ backtick :: newline :: u), q,
    v ++ newline :: (w ++ backtick :: (g ++ weave marker after)), ?_, rfl, hq⟩, ?_⟩
  · rw [weave_append, weave, Fill.text, fenced]
    simp
  · have := hq.length_eq
    rw [weave_append, weave, Fill.text, fenced]
    simp only [List.length_append, List.length_cons]
    omega

/-- A step answers, and what it makes of the code is one of the two. -/
theorem exists_spliced (hv : IsVerbatim marker) (ho : options.templateOpening = tag)
    (hc : options.templateClosing = []) (h : Arranged marker a segs)
    (hk : ∃ g, (.token k, g) ∈ segs) (t : Text) (w : World) :
    ∃ segs' w', (spliceOne options marker (a ++ weave marker segs) k t).run w =
      (.ok (a ++ weave marker segs'), w') ∧ Spliced marker k t segs segs' := by
  have hstands : ∃ p, StandsAt (token marker k) (a ++ weave marker segs) p := by
    obtain ⟨g, hg⟩ := hk
    obtain ⟨before, after, rfl⟩ := List.append_of_mem hg
    refine ⟨_, a ++ weave marker before, between '"' (token marker k), g ++ weave marker after,
      ?_, rfl, '"', Or.inl rfl, rfl⟩
    rw [weave_append, weave, Fill.text]
    simp
  obtain ⟨x, q, y, he, hq, hfirst⟩ := exists_first hstands
  obtain ⟨w', hrun⟩ := spliceOne_of_standsAt options t hq (he ▸ hfirst) w
  rw [ho, hc] at hrun
  have hlit : literalAfter tag [] x t =
      fenced (indentation (lastLine x)) (own (indentation (lastLine x)) t) :=
    literal_eq_fenced _ _
  have hindent : IsIndent (indentation (lastLine x)) := isIndent_indentation _
  rw [he, hrun, hlit]
  rcases cut_weave hv hq h.first h.gaps (fun w b g hm => (h.bodies w b g hm).1) he.symm with
    ⟨before, gap, after, rfl, -, rfl, rfl⟩ | ⟨before, u', u, v, gap, after, rfl, rfl, rfl⟩
  · refine ⟨_, w', ?_, .place hindent ?_⟩
    · rw [weave_append, weave, Fill.text]
      simp
    · rintro v b g hm i hi p hp
      obtain rfl := List.mem_singleton.1 hi
      obtain ⟨l, l', rfl⟩ := List.append_of_mem hm
      obtain ⟨p', hp', hlt⟩ := standsAt_of_mem_body a l (l' ++ (.token i, gap) :: after) v g hp
      have hle := hfirst p' (by simpa using hp')
      have hsplit : weave marker (l ++ (.literal v b, g) :: l') =
          weave marker (l ++ [(.literal v b, g)]) ++ weave marker l' := by
        rw [← weave_append]
        simp
      rw [hsplit] at hle
      simp only [List.length_append] at hle hlt
      omega
  · refine ⟨_, w', ?_, .body hindent hq⟩
    rw [weave_append, weave, Fill.text]
    simp [fenced]

/-! ### What a step keeps -/

theorem Spliced.map_snd (hs : Spliced marker k t segs segs') :
    segs'.map Prod.snd = segs.map Prod.snd := by
  cases hs with
  | place => simp
  | body => simp

/-- The body that a literal is put into is torn. -/
theorem woven_body (hv : IsVerbatim marker) {torn : Bool} {u q v w : Text}
    (hq : IsQuoted (token marker k) q) (hw : IsIndent w) (h : Woven torn (u ++ q ++ v)) (t : Text) :
    Woven true (u ++ fenced w (own w t) ++ v) :=
  Woven.splice hq (not_mem_token hv.newline_not_mem (by decide) k)
    (not_mem_token hv.backslash_not_mem (by decide) k) hw (Woven.own hw t) h

theorem Spliced.arranged (hv : IsVerbatim marker) (hs : Spliced marker k t segs segs')
    (h : Arranged marker a segs) : Arranged marker a segs' := by
  refine ⟨h.first, fun s hm => ?_, fun v b g hm => ?_⟩
  · have hsnd : s.2 ∈ segs.map Prod.snd := hs.map_snd ▸ List.mem_map_of_mem hm
    obtain ⟨s', hs', he⟩ := List.mem_map.1 hsnd
    rw [← he]
    exact h.gaps s' hs'
  · cases hs with
    | @place before after gap w hi hquiet =>
      rcases List.mem_append.1 hm with hm | hm
      · exact h.bodies v b g (List.mem_append_left _ hm)
      rcases List.mem_cons.1 hm with he | hm
      · cases he
        exact ⟨hi, false, Woven.own hi t⟩
      · exact h.bodies v b g (List.mem_append_right _ (List.mem_cons_of_mem _ hm))
    | @body before after gap w u q u' w' hi hq =>
      rcases List.mem_append.1 hm with hm | hm
      · exact h.bodies v b g (List.mem_append_left _ hm)
      rcases List.mem_cons.1 hm with he | hm
      · cases he
        obtain ⟨hw, torn, hwoven⟩ := h.bodies v _ g (List.mem_append_right _ List.mem_cons_self)
        exact ⟨hw, true, woven_body hv hq hi hwoven t⟩
      · exact h.bodies v b g (List.mem_append_right _ (List.mem_cons_of_mem _ hm))

/-- What is torn stays torn. -/
theorem Spliced.torn (hv : IsVerbatim marker) (hs : Spliced marker k t segs segs')
    (h : Torn segs) : Torn segs' := by
  obtain ⟨v, b, g, hm, hb⟩ := h
  cases hs with
  | @place before after gap w hi hquiet =>
    refine ⟨v, b, g, ?_, hb⟩
    rcases List.mem_append.1 hm with hm | hm
    · exact List.mem_append_left _ hm
    rcases List.mem_cons.1 hm with he | hm
    · cases he
    · exact List.mem_append_right _ (List.mem_cons_of_mem _ hm)
  | @body before after gap w u q u' w' hi hq =>
    rcases List.mem_append.1 hm with hm | hm
    · exact ⟨v, b, g, List.mem_append_left _ hm, hb⟩
    rcases List.mem_cons.1 hm with he | hm
    · cases he
      exact ⟨v, _, g, List.mem_append_right _ List.mem_cons_self, woven_body hv hq hi hb t⟩
    · exact ⟨v, b, g, List.mem_append_right _ (List.mem_cons_of_mem _ hm), hb⟩

/-- The tokens of other texts stay. -/
theorem Spliced.token_mem (hs : Spliced marker k t segs segs') {i : Nat} (hi : i ≠ k)
    (h : ∃ g, (.token i, g) ∈ segs) : ∃ g, (.token i, g) ∈ segs' := by
  obtain ⟨g, hm⟩ := h
  refine ⟨g, ?_⟩
  cases hs with
  | place =>
    rcases List.mem_append.1 hm with hm | hm
    · exact List.mem_append_left _ hm
    rcases List.mem_cons.1 hm with he | hm
    · cases he
      exact absurd rfl hi
    · exact List.mem_append_right _ (List.mem_cons_of_mem _ hm)
  | body =>
    rcases List.mem_append.1 hm with hm | hm
    · exact List.mem_append_left _ hm
    rcases List.mem_cons.1 hm with he | hm
    · cases he
    · exact List.mem_append_right _ (List.mem_cons_of_mem _ hm)

/-! ## A whole run -/

/-- Each literal is the one of its text. -/
def Owns : List Text → List (Fill × Text) → Prop
  | [], [] => True
  | t :: ts, (.literal w b, _) :: segs => (IsIndent w ∧ b = own w t) ∧ Owns ts segs
  | _, _ => False

theorem Owns.concat {ts : List Text} {segs : List (Fill × Text)} (h : Owns ts segs) {w : Text}
    (hw : IsIndent w) (t gap : Text) :
    Owns (ts ++ [t]) (segs ++ [(.literal w (own w t), gap)]) := by
  induction ts generalizing segs with
  | nil =>
    cases segs with
    | nil => exact ⟨⟨hw, rfl⟩, trivial⟩
    | cons s segs => exact h.elim
  | cons u ts ih =>
    match segs, h with
    | (.literal v b, g) :: segs, ⟨hu, hrest⟩ => exact ⟨hu, ih hrest⟩

/-- Whose a literal is does not depend on the gap after it. -/
theorem Owns.of_map_fst {ts : List Text} {segs segs' : List (Fill × Text)} (h : Owns ts segs)
    (hfst : segs'.map Prod.fst = segs.map Prod.fst) : Owns ts segs' := by
  induction ts generalizing segs segs' with
  | nil =>
    cases segs with
    | nil =>
      obtain rfl := List.map_eq_nil_iff.1 hfst
      trivial
    | cons s segs => exact h.elim
  | cons t ts ih =>
    match segs, h with
    | (.literal w b, g) :: segs, ⟨hb, hrest⟩ =>
      obtain ⟨⟨fill, g'⟩, rest, rfl, hfill, hrest'⟩ := List.map_eq_cons_iff.1 hfst
      have hfill : fill = .literal w b := hfill
      subst hfill
      exact ⟨hb, ih hrest hrest'⟩

theorem exists_mem_of_map_fst {segs segs' : List (Fill × Text)} {fill : Fill} {g : Text}
    (hfst : segs'.map Prod.fst = segs.map Prod.fst) (h : (fill, g) ∈ segs) :
    ∃ g', (fill, g') ∈ segs' := by
  have hmap : fill ∈ segs'.map Prod.fst := hfst ▸ List.mem_map_of_mem h
  obtain ⟨⟨_, g'⟩, hm, rfl⟩ := List.mem_map.1 hmap
  exact ⟨g', hm⟩

theorem Torn.of_map_fst {segs segs' : List (Fill × Text)} (h : Torn segs)
    (hfst : segs'.map Prod.fst = segs.map Prod.fst) : Torn segs' := by
  obtain ⟨w, b, g, hm, hb⟩ := h
  obtain ⟨g', hm'⟩ := exists_mem_of_map_fst hfst hm
  exact ⟨w, b, g', hm', hb⟩

theorem Owns.token_not_mem {ts : List Text} {segs : List (Fill × Text)} (h : Owns ts segs)
    (i : Nat) (g : Text) : (.token i, g) ∉ segs := by
  induction ts generalizing segs with
  | nil =>
    cases segs with
    | nil => exact List.not_mem_nil
    | cons s segs => exact h.elim
  | cons u ts ih =>
    match segs, h with
    | (.literal v b, g') :: segs, ⟨_, hrest⟩ =>
      intro hm
      rcases List.mem_cons.1 hm with he | hm
      · cases he
      · exact ih hrest hm

/-- The tokens of the texts from number `k` on, each before its gap. -/
def tokens : Nat → List Text → List (Fill × Text)
  | _, [] => []
  | k, gap :: gaps => (.token k, gap) :: tokens (k + 1) gaps

theorem mem_tokens {k : Nat} {gaps : List Text} {fill : Fill} {g : Text}
    (h : (fill, g) ∈ tokens k gaps) : ∃ i, fill = .token i ∧ k ≤ i := by
  induction gaps generalizing k with
  | nil => cases h
  | cons gap gaps ih =>
    rcases List.mem_cons.1 h with he | hm
    · cases he
      exact ⟨k, rfl, Nat.le_refl k⟩
    · obtain ⟨i, rfl, hi⟩ := ih hm
      exact ⟨i, rfl, by omega⟩

theorem map_snd_tokens (k : Nat) (gaps : List Text) : (tokens k gaps).map Prod.snd = gaps := by
  induction gaps generalizing k with
  | nil => rfl
  | cons gap gaps ih => exact congrArg (gap :: ·) (ih (k + 1))

theorem exists_mem_tokens {k i : Nat} (gaps : List Text) (h1 : k ≤ i) (h2 : i < k + gaps.length) :
    ∃ g, (.token i, g) ∈ tokens k gaps := by
  induction gaps generalizing k with
  | nil => exact absurd h2 (by simp only [List.length_nil]; omega)
  | cons gap gaps ih =>
    by_cases hk : k = i
    · subst hk
      exact ⟨gap, List.mem_cons_self⟩
    · rw [List.length_cons] at h2
      obtain ⟨g, hg⟩ := ih (by omega : k + 1 ≤ i) (by omega)
      exact ⟨g, List.mem_cons_of_mem _ hg⟩

/-- Once a body is torn, the steps that follow answer and leave it torn. -/
theorem spliceFrom_torn (hv : IsVerbatim marker) (ho : options.templateOpening = tag)
    (hc : options.templateClosing = []) (rest : List Text) : ∀ {k : Nat}
    {segs : List (Fill × Text)}, Arranged marker a segs → Torn segs →
      (∀ i, k ≤ i → i < k + rest.length → ∃ g, (.token i, g) ∈ segs) → ∀ w : World,
        ∃ segs' w', (spliceFrom options marker k rest (a ++ weave marker segs)).run w =
          (.ok (a ++ weave marker segs'), w') ∧ Arranged marker a segs' ∧ Torn segs' ∧
            segs'.map Prod.snd = segs.map Prod.snd := by
  induction rest with
  | nil =>
    intro k segs h ht _ w
    exact ⟨segs, w, rfl, h, ht, rfl⟩
  | cons t rest ih =>
    intro k segs h ht hk w
    obtain ⟨segs', w', hrun, hs⟩ :=
      exists_spliced hv ho hc h (hk k (Nat.le_refl k) (by rw [List.length_cons]; omega)) t w
    obtain ⟨segs'', w'', hrun', h', ht', hsnd⟩ :=
      ih (k := k + 1) (hs.arranged hv h) (hs.torn hv ht)
        (fun i h1 h2 => hs.token_mem (by omega) (hk i (by omega) (by rw [List.length_cons]; omega)))
        w'
    refine ⟨segs'', w'', ?_, h', ht', hsnd.trans hs.map_snd⟩
    rw [spliceFrom_cons_run hrun]
    exact hrun'

/-! ### Bodies of their own -/

theorem reindent_of_not_mem {t : Text} (h : newline ∉ t) (w : Text) : reindent w t = t := by
  induction t with
  | nil => rfl
  | cons c t ih =>
    have hc : c ≠ newline := fun e => h (e ▸ List.mem_cons_self)
    rw [reindent_cons hc, ih fun hm => h (List.mem_cons_of_mem _ hm)]

/-- A quoted token stands in the raw lines of a literal if it stands in the escaped text. -/
theorem free_own_iff (hn : newline ∉ marker) {w : Text} (hw : IsIndent w) (is : List Nat)
    (t : Text) : Free marker is (own w t) ↔ Free marker is (escape t) := by
  constructor
  · rintro h i hi _ ⟨x, q, y, he, rfl, hq⟩
    refine h.ne_append hi hq (w ++ step ++ reindent w x) (reindent w y) ?_
    rw [own, he, reindent_append, reindent_append,
      reindent_of_not_mem (newline_not_mem_quoted hn hq)]
    simp
  · rintro h i hi _ ⟨x, q, y, he, rfl, hq⟩
    have hnq := newline_not_mem_quoted hn hq
    obtain ⟨mark, hmark, rfl⟩ := hq
    have hm : mark ∉ w ++ step := hmark.not_mem_of_isIndent (hw.append isIndent_step)
    obtain ⟨u, -, hu⟩ := cut_after_head (p := token marker i ++ [mark]) hm he.symm
    obtain ⟨u', v', he'⟩ := exists_of_reindent hw hmark.isIndent_eq_false hnq hu
    exact h.ne_append hi ⟨mark, hmark, rfl⟩ u' v' he'

theorem Quiet.mono {is js : List Nat} (hsub : ∀ i ∈ is, i ∈ js) (h : Quiet marker js segs) :
    Quiet marker is segs :=
  fun w b g hm i hi => h w b g hm i (hsub i hi)

/-- A step on texts whose literals are their own: the next literal is its text's own too, or
a body was found to hold the token and is torn. -/
theorem Spliced.settle (hv : IsVerbatim marker) {done gaps : List Text} {gap : Text}
    {lits : List (Fill × Text)} (ho : Owns done lits)
    (h : Arranged marker a (lits ++ tokens k (gap :: gaps)))
    (hs : Spliced marker k t (lits ++ tokens k (gap :: gaps)) segs') :
    (∃ w, IsIndent w ∧ Quiet marker [k] lits ∧
      segs' = (lits ++ [(.literal w (own w t), gap)]) ++ tokens (k + 1) gaps) ∨
    (Torn segs' ∧ ¬ Quiet marker [k] lits) := by
  generalize he : lits ++ tokens k (gap :: gaps) = x at h hs
  cases hs with
  | @place before after g w hw hquiet =>
    have hafter : (Fill.token k, g) ∉ tokens (k + 1) gaps := by
      intro hm
      obtain ⟨i, hi, hlt⟩ := mem_tokens hm
      cases hi
      omega
    obtain ⟨rfl, hfill, rfl⟩ :=
      (List.append_cons_inj_of_notMem (ho.token_not_mem k g) hafter).1 he
    cases hfill
    exact Or.inl ⟨w, hw, hquiet, by simp⟩
  | @body before after g w u q v w' hw hq =>
    obtain ⟨-, torn, hwoven⟩ := h.bodies w _ g (List.mem_append_right _ List.mem_cons_self)
    refine Or.inr ⟨⟨w, _, g, List.mem_append_right _ List.mem_cons_self,
      woven_body hv hq hw hwoven t⟩, fun hquiet => ?_⟩
    have hm : (Fill.literal w (u ++ q ++ v), g) ∈ lits ++ tokens k (gap :: gaps) := by
      rw [he]
      exact List.mem_append_right _ List.mem_cons_self
    rcases List.mem_append.1 hm with hm | hm
    · exact (hquiet w _ g hm).ne_append List.mem_cons_self hq u v rfl
    · obtain ⟨i, hi, -⟩ := mem_tokens hm
      cases hi

/-- What a run needs of its texts and literals is the same before and after a step. -/
theorem laterFree_cons_iff (hv : IsVerbatim marker) {v : Text} (hw : IsIndent v) (t gap : Text)
    (rest : List Text) (lits : List (Fill × Text)) (hquiet : Quiet marker [k] lits) :
    (LaterFree marker (k + 1) rest ∧ Quiet marker (List.range' (k + 1) rest.length)
      (lits ++ [(.literal v (own v t), gap)])) ↔
    (LaterFree marker k (t :: rest) ∧ Quiet marker (List.range' k (t :: rest).length) lits) := by
  rw [List.length_cons, List.range'_succ]
  constructor
  · rintro ⟨hlater, hq⟩
    have hfree := hq v _ gap (List.mem_append_right _ List.mem_cons_self)
    refine ⟨⟨(free_own_iff hv.newline_not_mem hw _ _).1 hfree, hlater⟩, ?_⟩
    intro w b g hm i hi
    rcases List.mem_cons.1 hi with rfl | hi
    · exact hquiet w b g hm i List.mem_cons_self
    · exact hq w b g (List.mem_append_left _ hm) i hi
  · rintro ⟨⟨hfree, hlater⟩, hq⟩
    refine ⟨hlater, fun w b g hm => ?_⟩
    rcases List.mem_append.1 hm with hm | hm
    · exact hq.mono (fun i hi => List.mem_cons_of_mem _ hi) w b g hm
    · cases List.mem_singleton.1 hm
      exact (free_own_iff hv.newline_not_mem hw _ _).2 hfree

/-- A run on texts none of which holds the token of a later one leaves each text its own
literal; a run on other texts leaves some body torn. Both answer. -/
theorem spliceFrom_arranged (hv : IsVerbatim marker) (ho : options.templateOpening = tag)
    (hc : options.templateClosing = []) (rest : List Text) : ∀ {done gaps : List Text} {k : Nat}
    {lits : List (Fill × Text)}, gaps.length = rest.length → Owns done lits →
      Arranged marker a (lits ++ tokens k gaps) → ∀ w : World,
        ∃ segs w', (spliceFrom options marker k rest
            (a ++ weave marker (lits ++ tokens k gaps))).run w =
          (.ok (a ++ weave marker segs), w') ∧ Arranged marker a segs ∧
            segs.map Prod.snd = lits.map Prod.snd ++ gaps ∧
            ((LaterFree marker k rest ∧ Quiet marker (List.range' k rest.length) lits ∧
                Owns (done ++ rest) segs) ∨
              (¬ (LaterFree marker k rest ∧ Quiet marker (List.range' k rest.length) lits) ∧
                Torn segs)) := by
  induction rest with
  | nil =>
    intro done gaps k lits hlen hown h w
    obtain rfl := List.eq_nil_of_length_eq_zero hlen
    rw [tokens, List.append_nil] at h ⊢
    exact ⟨lits, w, rfl, h, (List.append_nil _).symm,
      Or.inl ⟨trivial, fun _ _ _ _ i hi => absurd hi List.not_mem_nil, by rwa [List.append_nil]⟩⟩
  | cons t rest ih =>
    intro done gaps k lits hlen hown h w
    obtain ⟨gap, gaps, rfl⟩ := List.exists_cons_of_length_eq_add_one hlen
    have hlen' : gaps.length = rest.length := Nat.succ.inj hlen
    obtain ⟨segs', w', hrun, hs⟩ := exists_spliced hv ho hc h
      ⟨gap, List.mem_append_right _ List.mem_cons_self⟩ t w
    have h' := hs.arranged hv h
    rw [spliceFrom_cons_run hrun]
    rcases hs.settle hv hown h with ⟨v, hv', hquiet, rfl⟩ | ⟨htorn, hnot⟩
    · -- the literal stands in the place of the token
      have hiff := laterFree_cons_iff hv hv' t gap rest lits hquiet
      obtain ⟨segs, w'', he, harr, hsnd, hend⟩ :=
        ih (k := k + 1) hlen' (hown.concat hv' t gap) h' w'
      refine ⟨segs, w'', he, harr, by rw [hsnd]; simp, ?_⟩
      rcases hend with ⟨hlater, hq, hown'⟩ | ⟨hnot, htorn⟩
      · obtain ⟨hlater', hq'⟩ := hiff.1 ⟨hlater, hq⟩
        refine Or.inl ⟨hlater', hq', ?_⟩
        rwa [List.append_assoc, List.singleton_append] at hown'
      · exact Or.inr ⟨fun hp => hnot (hiff.2 hp), htorn⟩
    · -- the literal stands in the body of another one
      have hkeep : ∀ i, k + 1 ≤ i → i < k + 1 + rest.length → ∃ g, (Fill.token i, g) ∈ segs' := by
        intro i h1 h2
        obtain ⟨g, hg⟩ := exists_mem_tokens (gap :: gaps) (by omega : k ≤ i)
          (by rw [List.length_cons, hlen']; omega)
        exact hs.token_mem (by omega) ⟨g, List.mem_append_right _ hg⟩
      obtain ⟨segs, w'', he, harr, ht, hsnd⟩ := spliceFrom_torn hv ho hc rest h' htorn hkeep w'
      have hk : ∀ i ∈ [k], i ∈ List.range' k (t :: rest).length := by
        intro i hi
        rw [List.mem_singleton.1 hi, List.length_cons, List.range'_succ]
        exact List.mem_cons_self
      refine ⟨segs, w'', he, harr, ?_, Or.inr ⟨fun hp => hnot (hp.2.mono hk), ht⟩⟩
      rw [hsnd, hs.map_snd, List.map_append, map_snd_tokens]

end

end JsLiteral.Placeholder
