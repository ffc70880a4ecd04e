import JsLiteral.Proofs.Template.RoundTrip
import JsLiteral.Text.Search

/-!
# Code with template literals in it

The bodies of all literals in code are read back in order, whatever texts the literals were made
for, if no other backtick stands in the code. Escaping takes one pass; three replacements of the
whole text, of backslashes, of backticks and of dollar signs before a brace, come to the same, as
none of them changes what one before it put in.

    escape t = the three replacements of t one after the other       (escape_eq_replace)
    scan none (l.code ++ rest) = body l.indent l.text :: scan none rest  (Placed.scan_code)
-/

namespace JsLiteral.Template

open Text

/-! ## Escaping by replacements -/

theorem replace_singleton (p : CodePoint) (q t : Text) :
    replace [p] q t = t.flatMap fun c => if c = p then q else [c] := by
  have hfrom : replaceFrom [p] q 0 t = t.flatMap fun c => if c = p then q else [c] := by
    induction t with
    | nil => rfl
    | cons c t ih =>
      rw [replaceFrom, List.flatMap_cons]
      by_cases hc : c = p
      · subst hc
        simp [List.isPrefixOf, ih]
      · have hne : ¬ p = c := fun e => hc e.symm
        simp [List.isPrefixOf, hc, hne, ih]
  exact hfrom

theorem flatMap_newline_eq_replace (w t : Text) :
    (t.flatMap fun c => if c = newline then c :: w else [c]) =
      replace [newline] (newline :: w) t := by
  rw [replace_singleton]
  refine congrArg (List.flatMap · t) (funext fun c => ?_)
  by_cases hc : c = newline
  · rw [if_pos hc, if_pos hc, hc]
  · rw [if_neg hc, if_neg hc]

theorem reindent_eq_replace (indent t : Text) :
    reindent indent t = replace [newline] (newline :: (indent ++ step)) t :=
  flatMap_newline_eq_replace (indent ++ step) t

/-- A code point after a backslash if it is a backslash or a backtick. -/
def escapePoint (c : CodePoint) : Text := if c = '\\' ∨ c = backtick then ['\\', c] else [c]

theorem replace_backtick_backslash (t : Text) :
    replace [backtick] ['\\', backtick] (replace ['\\'] ['\\', '\\'] t) =
      t.flatMap escapePoint := by
  rw [replace_singleton, replace_singleton, List.flatMap_assoc]
  refine congrArg (List.flatMap · t) (funext fun c => ?_)
  unfold escapePoint
  by_cases h1 : c = '\\'
  · subst h1
    rfl
  · by_cases h2 : c = backtick
    · subst h2
      rfl
    · simp [h1, h2]

/-- Where a brace comes first, one came first before. -/
theorem exists_of_flatMap_escapePoint {t r : Text}
    (h : t.flatMap escapePoint = CodePoint.scalar '\x7b' :: r) :
    ∃ t', t = CodePoint.scalar '\x7b' :: t' := by
  cases t with
  | nil => cases h
  | cons c t =>
    rw [List.flatMap_cons, escapePoint] at h
    split at h
    · cases (List.cons.inj h).1
    · exact ⟨t, by rw [(List.cons.inj h).1]⟩

theorem escape_eq_replace (t : Text) :
    escape t = replace ['$', '\x7b'] ['\\', '$', '\x7b']
      (replace [backtick] ['\\', backtick] (replace ['\\'] ['\\', '\\'] t)) := by
  have hskip : ∀ (c : CodePoint) (r : Text), ¬ (['$', '\x7b'] : Text).isPrefixOf (c :: r) = true →
      replaceFrom ['$', '\x7b'] ['\\', '$', '\x7b'] 0 (c :: r) =
        c :: replaceFrom ['$', '\x7b'] ['\\', '$', '\x7b'] 0 r := by
    intro c r h
    rw [replaceFrom, if_neg h]
  rw [replace_backtick_backslash]
  show _ = replaceFrom ['$', '\x7b'] ['\\', '$', '\x7b'] 0 (t.flatMap escapePoint)
  fun_induction escape t with
  | case1 => rfl
  | case2 t ih =>
    rw [ih]
    rfl
  | case3 c t _ hc ih =>
    have hne : ¬ CodePoint.scalar '$' = c := by
      rcases hc with rfl | rfl <;> decide
    rw [List.flatMap_cons, escapePoint, if_pos hc, List.cons_append, List.singleton_append, ih,
      hskip _ _ (by simp [List.isPrefixOf]), hskip _ _ (by simp [List.isPrefixOf, hne])]
  | case4 c t hnot hc ih =>
    rw [List.flatMap_cons, escapePoint, if_neg hc, List.singleton_append, ih, hskip]
    -- a brace after this dollar sign would have stood there before
    intro hprefix
    obtain ⟨r, hr⟩ := List.isPrefixOf_iff_prefix.1 hprefix
    obtain ⟨hdollar, htail⟩ := List.cons.inj hr
    obtain ⟨t', ht⟩ := exists_of_flatMap_escapePoint htail.symm
    exact hnot t' hdollar.symm ht

/-! ## Literals in code -/

/-- A template literal in code: the text it was made for, its indentation, what stands right
before and after its backticks, and the code up to the next literal. -/
structure Placed where
  opening : Text
  closing : Text
  indent : Text
  text : Text
  after : Text
  opening_apart : backtick ∉ opening
  closing_apart : backtick ∉ closing
  after_apart : backtick ∉ after
  isIndent : IsIndent indent

namespace Placed

/-- The literal and the code after it. -/
def code (l : Placed) : Text := literal l.opening l.closing l.indent l.text ++ l.after

theorem scan_code (l : Placed) (rest : Text) :
    scan none (l.code ++ rest) = body l.indent l.text :: scan none rest := by
  rw [code, List.append_assoc, scan_literal l.opening_apart l.closing_apart l.isIndent,
    scan_none_append l.after_apart]

end Placed

/-- **Template literals are read back in order**, whatever texts they were made for. If code has no
backtick but those of its literals, its bodies are the texts of these, each one step deeper than
its indentation and between two line feeds. This is so since cooking undoes escaping on every
text. -/
theorem bodies_placed {first : Text} (hfirst : backtick ∉ first) (ls : List Placed) :
    bodies (first ++ ls.flatMap Placed.code) =
        ls.map (fun l =>
          newline :: (l.indent ++ step ++ reindent l.indent l.text ++ newline :: l.indent)) ∧
      ∀ t, cook (escape t) = t := by
  refine ⟨?_, cook_escape⟩
  have hscan : scan none (ls.flatMap Placed.code) = ls.map fun l => body l.indent l.text := by
    induction ls with
    | nil => rfl
    | cons l ls ih => rw [List.flatMap_cons, Placed.scan_code, ih, List.map_cons]
  rw [bodies, scan_none_append hfirst, hscan]
  rfl

/-- A text with backslashes before a backtick, before a line feed and at its end. -/
def backslashed : Placed where
  opening := " f($"
  closing := ")"
  indent := "\t "
  text := "\\\\\x60$\\\n$\x7b$\x60\\"
  after := ", \\"
  opening_apart := by decide
  closing_apart := by decide
  after_apart := by decide
  isIndent := by unfold IsIndent; decide

/-- Its body, read back. -/
def backslashedBody : Text := "\n\t   \\\\\x60$\\\n\t   $\x7b$\x60\\\n\t "

theorem bodies_placed_twice :
    backtick ∉ ("[" : Text) ∧
      bodies (("[" : Text) ++ (backslashed.code ++ backslashed.code)) =
        [backslashedBody, backslashedBody] := by
  have hfirst : backtick ∉ ("[" : Text) := by decide
  exact ⟨hfirst, (bodies_placed hfirst [backslashed, backslashed]).1⟩

end JsLiteral.Template
