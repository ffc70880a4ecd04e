import JsLiteral.Proofs.Text.Lines
import JsLiteral.Template.Bodies
import JsLiteral.Template.Dedent
import JsLiteral.Template.Eligible

/-!
# Template literals give their text back

The body of a literal is read back as it was written, and removing its indentation leaves
the text it was made for. The two steps need different things of the text: reading back
needs nothing, as escaping makes every text a raw body; removing the indentation needs a
text that starts with a code point that is no blank.

    cook (escape t) = t                                               (cook_escape)
    scan none (literal o c w t ++ rest) = body w t :: scan none rest  (scan_literal)
    dedent (body w t) = t                                             (dedent_body)
-/

namespace JsLiteral.Template

open Text

/-! ## Raw bodies -/

/-- A raw body that goes on to its end: a backtick stands only after a backslash, and no
backslash stands last. -/
inductive IsRaw : Text → Prop
  | nil : IsRaw []
  | plain {c : CodePoint} {t : Text} : c ≠ backtick → c ≠ '\\' → IsRaw t → IsRaw (c :: t)
  | escaped {c : CodePoint} {t : Text} : IsRaw t → IsRaw ('\\' :: c :: t)

namespace IsRaw

theorem append {a b : Text} (ha : IsRaw a) (hb : IsRaw b) : IsRaw (a ++ b) := by
  induction ha with
  | nil => exact hb
  | plain h1 h2 _ ih => exact .plain h1 h2 ih
  | escaped _ ih => exact .escaped ih

theorem of_not_mem {t : Text} (hb : backtick ∉ t) (hs : CodePoint.scalar '\\' ∉ t) : IsRaw t := by
  induction t with
  | nil => exact .nil
  | cons c t ih =>
    refine .plain (fun e => hb (e ▸ List.mem_cons_self)) (fun e => hs (e ▸ List.mem_cons_self)) ?_
    exact ih (fun h => hb (List.mem_cons_of_mem c h)) fun h => hs (List.mem_cons_of_mem c h)

theorem of_isIndent {w : Text} (hw : IsIndent w) : IsRaw w := by
  apply of_not_mem
  · intro h
    exact absurd (hw _ h) (by decide)
  · intro h
    exact absurd (hw _ h) (by decide)

end IsRaw

theorem isIndent_step : IsIndent step := by
  intro c hc
  have hc : c ∈ ([' ', ' '] : Text) := hc
  simp only [List.mem_cons, List.not_mem_nil, or_false, or_self] at hc
  subst hc
  decide

theorem isRaw_escape (t : Text) : IsRaw (escape t) := by
  fun_induction escape t with
  | case1 => exact .nil
  | case2 t ih => exact .escaped (.plain (by decide) (by decide) ih)
  | case3 c t _ _ ih => exact .escaped ih
  | case4 c t _ hc ih => exact .plain (fun e => hc (Or.inr e)) (fun e => hc (Or.inl e)) ih

theorem reindent_cons_newline (indent t : Text) :
    reindent indent (newline :: t) = newline :: (indent ++ step ++ reindent indent t) := by
  simp [reindent]

theorem reindent_cons {c : CodePoint} (hc : c ≠ newline) (indent t : Text) :
    reindent indent (c :: t) = c :: reindent indent t := by
  simp [reindent, hc]

/-- What comes after a code point that starts a line, or does not. -/
theorem exists_reindent_cons {indent : Text} (hi : IsIndent indent) (c : CodePoint) (t : Text) :
    ∃ s, IsIndent s ∧ reindent indent (c :: t) = c :: (s ++ reindent indent t) := by
  by_cases hc : c = newline
  · exact ⟨indent ++ step, hi.append isIndent_step, hc ▸ reindent_cons_newline indent t⟩
  · exact ⟨[], fun _ h => absurd h List.not_mem_nil, reindent_cons hc indent t⟩

/-- A raw body of several lines stays one when its lines move. -/
theorem IsRaw.reindent {indent t : Text} (hi : IsIndent indent) (h : IsRaw t) :
    IsRaw (reindent indent t) := by
  induction h with
  | nil => exact .nil
  | @plain c t h1 h2 _ ih =>
    obtain ⟨s, hs, he⟩ := exists_reindent_cons hi c t
    rw [he]
    exact .plain h1 h2 ((IsRaw.of_isIndent hs).append ih)
  | @escaped c t _ ih =>
    obtain ⟨s, hs, he⟩ := exists_reindent_cons hi c t
    rw [reindent_cons (by decide), he]
    exact .escaped ((IsRaw.of_isIndent hs).append ih)

/-! ## Cooking -/

theorem cook_cons {c : CodePoint} (hc : c ≠ '\\') (t : Text) : cook (c :: t) = c :: cook t := by
  rw [cook]
  rintro c' t' rfl
  exact absurd rfl hc

theorem cook_append {a : Text} (ha : IsRaw a) (b : Text) : cook (a ++ b) = cook a ++ cook b := by
  induction ha with
  | nil => rfl
  | plain _ h2 _ ih => rw [List.cons_append, cook_cons h2, cook_cons h2, ih, List.cons_append]
  | @escaped c t ht ih =>
    simp only [List.cons_append, cook]
    split
    · rw [ih, List.cons_append]
    · rename_i hc
      have h2 : c ≠ '\\' := fun e => hc (Or.inr (Or.inr e))
      rw [cook_cons h2, cook_cons h2, ih]
      rfl

theorem cook_of_not_mem {t : Text} (hs : CodePoint.scalar '\\' ∉ t) : cook t = t := by
  induction t with
  | nil => rfl
  | cons c t ih =>
    rw [cook_cons (fun e => hs (e ▸ List.mem_cons_self)),
      ih fun h => hs (List.mem_cons_of_mem c h)]

theorem cook_of_isIndent {w : Text} (hw : IsIndent w) : cook w = w :=
  cook_of_not_mem fun h => absurd (hw _ h) (by decide)

theorem cook_escaped {c : CodePoint} (hc : c = backtick ∨ c = '$' ∨ c = '\\') (t : Text) :
    cook ('\\' :: c :: t) = c :: cook t := by
  simp only [cook, hc, if_true]

/-- Escaping is undone, also where lines moved in between. -/
theorem cook_reindent_escape {indent : Text} (hi : IsIndent indent) (t : Text) :
    cook (reindent indent (escape t)) = reindent indent t := by
  have hw : cook (indent ++ step) = indent ++ step := cook_of_isIndent (hi.append isIndent_step)
  have hraw : IsRaw (indent ++ step) := .of_isIndent (hi.append isIndent_step)
  fun_induction escape t with
  | case1 => rfl
  | case2 t ih =>
    rw [reindent_cons (by decide), reindent_cons (by decide), reindent_cons (by decide),
      reindent_cons (by decide), reindent_cons (by decide), cook_escaped (Or.inr (Or.inl rfl)),
      cook_cons (by decide), ih]
  | case3 c t _ hc ih =>
    have hn : c ≠ newline := by
      rcases hc with rfl | rfl
      · decide
      · decide
    have he : c = backtick ∨ c = '$' ∨ c = '\\' := by
      rcases hc with rfl | rfl
      · exact Or.inr (Or.inr rfl)
      · exact Or.inl rfl
    rw [reindent_cons (by decide), reindent_cons hn, reindent_cons hn, cook_escaped he, ih]
  | case4 c t _ hc ih =>
    have h2 : c ≠ '\\' := fun e => hc (Or.inl e)
    by_cases hn : c = newline
    · subst hn
      rw [reindent_cons_newline, reindent_cons_newline, cook_cons h2, cook_append hraw, hw, ih]
    · rw [reindent_cons hn, reindent_cons hn, cook_cons h2, ih]

theorem cook_escape (t : Text) : cook (escape t) = t := by
  fun_induction escape t with
  | case1 => rfl
  | case2 t ih => rw [cook_escaped (Or.inr (Or.inl rfl)), cook_cons (by decide), ih]
  | case3 c t _ hc ih =>
    have he : c = backtick ∨ c = '$' ∨ c = '\\' := by
      rcases hc with rfl | rfl
      · exact Or.inr (Or.inr rfl)
      · exact Or.inl rfl
    rw [cook_escaped he, ih]
  | case4 c t _ hc ih => rw [cook_cons fun e => hc (Or.inl e), ih]

/-! ## Reading -/

theorem scan_none_append {a : Text} (ha : backtick ∉ a) (b : Text) :
    scan none (a ++ b) = scan none b := by
  induction a with
  | nil => rfl
  | cons c a ih =>
    have hc : c ≠ backtick := fun e => ha (e ▸ List.mem_cons_self)
    rw [List.cons_append, scan, if_neg hc]
    exact ih fun h => ha (List.mem_cons_of_mem c h)

/-- A raw body is taken in whole. -/
theorem scan_some_append {a : Text} (ha : IsRaw a) (acc b : Text) :
    scan (some acc) (a ++ b) = scan (some (a.reverse ++ acc)) b := by
  induction ha generalizing acc with
  | nil => rfl
  | @plain c t h1 h2 _ ih =>
    have hs : scan (some acc) (c :: (t ++ b)) = scan (some (c :: acc)) (t ++ b) := by
      rw [scan, if_neg h1, if_neg h2]
      rintro c' t' rfl
      exact absurd rfl h2
    rw [List.cons_append, hs, ih, List.reverse_cons, List.append_assoc]
    rfl
  | @escaped c t _ ih =>
    rw [List.cons_append, List.cons_append, scan, ih]
    simp only [List.reverse_cons, List.append_assoc, List.cons_append, List.nil_append]

/-- The body of a literal as it is read: the text one step deeper than `indent`, on lines of
its own. -/
def body (indent t : Text) : Text :=
  newline :: (indent ++ step ++ reindent indent t ++ newline :: indent)

theorem literal_eq (opening closing indent t : Text) :
    literal opening closing indent t =
      opening ++ backtick :: (newline :: (indent ++ step ++ reindent indent (escape t)
        ++ newline :: indent) ++ backtick :: closing) := by
  simp [literal]

/-- The raw lines of the literal of a text. -/
def own (indent t : Text) : Text := indent ++ step ++ reindent indent (escape t)

theorem isRaw_own {indent : Text} (hi : IsIndent indent) (t : Text) :
    IsRaw (newline :: (own indent t ++ newline :: indent)) := by
  have hlead : IsRaw (indent ++ step) := .of_isIndent (hi.append isIndent_step)
  have hmid : IsRaw (reindent indent (escape t)) := (isRaw_escape t).reindent hi
  have hlast : IsRaw (newline :: indent) := .plain (by decide) (by decide) (.of_isIndent hi)
  exact .plain (by decide) (by decide) ((hlead.append hmid).append hlast)

theorem cook_own {indent : Text} (hi : IsIndent indent) (t : Text) :
    cook (newline :: (own indent t ++ newline :: indent)) = body indent t := by
  have hlead : IsRaw (indent ++ step) := .of_isIndent (hi.append isIndent_step)
  have hmid : IsRaw (reindent indent (escape t)) := (isRaw_escape t).reindent hi
  rw [own, cook_cons (by decide), cook_append (hlead.append hmid), cook_append hlead,
    cook_of_isIndent (hi.append isIndent_step), cook_reindent_escape hi, cook_cons (by decide),
    cook_of_isIndent hi]
  rfl

/-- A literal is read as one body, and reading goes on after it. -/
theorem scan_literal {opening closing indent : Text} (ho : backtick ∉ opening)
    (hc : backtick ∉ closing) (hi : IsIndent indent) (t rest : Text) :
    scan none (literal opening closing indent t ++ rest) = body indent t :: scan none rest := by
  have hend : ∀ r : Text, scan (some r) (backtick :: (closing ++ rest))
      = cook r.reverse :: scan none rest := by
    intro r
    rw [scan, if_pos rfl, scan_none_append hc]
    intro c' t' he
    exact absurd he (by decide)
  rw [literal_eq, ← own, List.append_assoc, List.cons_append, List.append_assoc,
    scan_none_append ho, scan, if_pos rfl, scan_some_append (isRaw_own hi t), List.cons_append,
    hend, List.append_nil, List.reverse_reverse, cook_own hi]

/-! ## Removing the indentation -/

theorem lines_reindent {indent : Text} (hi : IsIndent indent) {t line : Text} {rest : List Text}
    (ht : lines t = line :: rest) :
    lines (reindent indent t) = line :: rest.map ((indent ++ step) ++ ·) :=
  lines_flatMap_newline (hi.append isIndent_step).newline_not_mem ht

theorem lines_body {indent : Text} (hi : IsIndent indent) (t : Text) :
    lines (body indent t) = [] :: ((lines t).map ((indent ++ step) ++ ·) ++ [indent]) := by
  have hw : newline ∉ indent ++ step := (hi.append isIndent_step).newline_not_mem
  obtain ⟨line, rest, ht⟩ := exists_lines t
  rw [body, lines_newline, lines_append_newline, lines_append hw (lines_reindent hi ht),
    lines_of_not_mem hi.newline_not_mem, ht, List.map_cons]

/-- Lines under a common indent share that indent if one of them starts with no blank. -/
theorem sharedIndent?_map_append {w line : Text} {ls : List Text} (hw : IsIndent w)
    (hl : line ∈ ls) (hb : line.isBlankLine = false) (hi : line.indentation = []) :
    sharedIndent? (ls.map (w ++ ·)) = some w.length := by
  have hlen : ∀ l : Text, (w ++ l).indentation.length = w.length + l.indentation.length := by
    intro l
    rw [indentation_append hw, List.length_append]
  rw [sharedIndent?, List.min?_eq_some_iff]
  constructor
  · refine List.mem_map.2 ⟨w ++ line, List.mem_filter.2 ⟨List.mem_map.2 ⟨line, hl, rfl⟩, ?_⟩, ?_⟩
    · rw [isBlankLine_append hw, hb]
      rfl
    · rw [hlen, hi]
      rfl
  · intro n hn
    obtain ⟨l, hl, rfl⟩ := List.mem_map.1 hn
    obtain ⟨l, -, rfl⟩ := List.mem_map.1 (List.mem_filter.1 hl).1
    rw [hlen]
    omega

theorem cut_append {w : Text} (hw : IsIndent w) (line : Text) :
    cut w.length (w ++ line) = line := by
  have hlen : w.length ≤ (w ++ line).indentation.length := by
    rw [indentation_append hw, List.length_append]
    omega
  rw [cut, Nat.min_eq_left hlen, List.drop_left]

/-- Blank lines around a body go. -/
theorem dropBlank_between {first last : Text} {ls : List Text} (hfirst : first.isBlankLine = true)
    (hlast : last.isBlankLine = true) :
    dropBlankLast (dropBlankFirst (first :: (ls ++ [last]))) = ls := by
  rw [dropBlankFirst, if_pos hfirst, dropBlankLast, List.reverse_append, List.reverse_singleton,
    List.singleton_append, dropBlankFirst, if_pos hlast, List.reverse_reverse]

/-- A text that starts with no blank is what the body made for it stands for. -/
theorem dedent_body {indent : Text} (hi : IsIndent indent) {c : CodePoint} {t : Text}
    (hc : c.isBlank = false) : dedent (body indent (c :: t)) = c :: t := by
  have hw : IsIndent (indent ++ step) := hi.append isIndent_step
  have hn : c ≠ newline := by
    rintro rfl
    exact absurd hc (by decide)
  obtain ⟨line, rest, ht⟩ := exists_lines t
  have hls : lines (c :: t) = (c :: line) :: rest := lines_cons hn ht
  have hblank : Text.isBlankLine (c :: line) = false := by
    rw [isBlankLine, List.all_cons, hc, Bool.false_and]
  have hindent : Text.indentation (c :: line) = [] := by
    have hci : c.isIndent = false := by
      cases h : c.isIndent with
      | false => rfl
      | true => rw [CodePoint.isBlank_of_isIndent h] at hc; cases hc
    exact List.takeWhile_cons_of_neg (by simp [hci])
  have hdrop : dropBlankLast (dropBlankFirst (lines (body indent (c :: t))))
      = (lines (c :: t)).map ((indent ++ step) ++ ·) := by
    rw [lines_body hi, dropBlank_between rfl hi.isBlankLine]
  have hshared : sharedIndent? ((lines (c :: t)).map ((indent ++ step) ++ ·))
      = some (indent ++ step).length :=
    sharedIndent?_map_append hw (hls ▸ List.mem_cons_self) hblank hindent
  have hcut : ((lines (c :: t)).map ((indent ++ step) ++ ·)).map (cut (indent ++ step).length)
      = lines (c :: t) := by
    rw [List.map_map]
    exact List.map_id'' (fun l => cut_append hw l) _
  rw [dedent, hdrop, hshared]
  simp only [hcut]
  exact unlines_lines (c :: t)

/-! ## Eligible texts -/

theorem exists_cons_of_isEligible {allow : Bool} {t : Text} (h : isEligible allow t = true) :
    ∃ c r, t = c :: r ∧ c.isBlank = false := by
  simp only [isEligible, Bool.and_eq_true] at h
  obtain ⟨⟨-, hhead⟩, -⟩ := h
  cases t with
  | nil => cases hhead
  | cons c r =>
    refine ⟨c, r, rfl, ?_⟩
    simp only [List.head?_cons, Option.any_some, Bool.not_eq_true', CodePoint.isScriptBlank,
      Bool.or_eq_false_iff] at hhead
    exact hhead.1

/-- **An eligible text survives its literal**, under any indentation and any tag. -/
theorem dedent_of_isEligible {allow : Bool} {t indent opening closing : Text}
    (hi : IsIndent indent) (ho : backtick ∉ opening) (hc : backtick ∉ closing)
    (h : isEligible allow t = true) :
    ∃ body, bodies (literal opening closing indent t) = [body] ∧ dedent body = t := by
  obtain ⟨c, r, rfl, hb⟩ := exists_cons_of_isEligible h
  refine ⟨body indent (c :: r), ?_, dedent_body hi hb⟩
  have hs := scan_literal ho hc hi (c :: r) []
  rwa [List.append_nil, scan] at hs

/-- The tag may hold quotes and dollar signs, the indentation may mix tabs and spaces, the
text may hold blank lines, deeper lines and backticks. -/
theorem dedent_of_isEligible_mixed :
    isEligible true "a\x60\n \t\n\t\tb\u00a0\nc" = true ∧
      ∃ body, bodies (literal " f($\"" ")" "\t  \t" "a\x60\n \t\n\t\tb\u00a0\nc") = [body] ∧
        dedent body = ("a\x60\n \t\n\t\tb\u00a0\nc" : Text) :=
  ⟨by decide, dedent_of_isEligible (by unfold IsIndent; decide) (by decide) (by decide)
    (show isEligible true _ = true by decide)⟩

end JsLiteral.Template
