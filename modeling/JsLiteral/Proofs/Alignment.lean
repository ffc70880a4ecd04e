import JsLiteral.Proofs.Invisible
import JsLiteral.Proofs.Json.Streamed
import JsLiteral.Proofs.Template.Indentation

/-!
# Literals are aligned with their depth

With a gap every item and every member starts a line, and the line is indented by the gap once
for each container it stands in. A name and a quoted text hold no line feed, so what is left of
the line when a literal comes, be it in the place of an item or after a name, starts with that
indentation. The literals before it end with whole lines of their own and have no part in it.

    literal tag [] w t = the lines of t under w and one step more   (literal_eq_alignedLiteral)
    aligning before (pieces … tree) = before ++ tree.lay …          (aligning_pieces)
    two conversions print one tree and differ in its eligible texts (convert_eq_lay)
-/

namespace JsLiteral

open Text Template Json Evaluation Skeleton
open Placeholder hiding indentAt

/-! ## Trees laid out -/

namespace Json.Tree

section

variable (leaf : Nat → Text → Text) (gap : Text)

mutual

/-- The text of a tree inside `depth` containers. A text is written as `leaf` has it, which is told
how many containers it lies in. -/
def lay : Nat → Tree → Text
  | _, .null => "null"
  | _, .bool b => if b then "true" else "false"
  | _, .int n => intText n
  | _, .float x => floatText x
  | depth, .text t => leaf depth t
  | depth, .list items => enclose '[' ']' gap (indentAt gap depth) (layItems (depth + 1) items)
  | depth, .object members =>
    enclose '\x7b' '\x7d' gap (indentAt gap depth) (layMembers (depth + 1) members)

def layItems : Nat → List Tree → List Text
  | _, [] => []
  | depth, tree :: rest => lay depth tree :: layItems depth rest

def layMembers : Nat → List (Text × Tree) → List Text
  | _, [] => []
  | depth, (name, tree) :: rest =>
    (quote name ++ colon gap ++ lay depth tree) :: layMembers depth rest

end

end

/-- A list or an object. -/
def IsContainer : Tree → Prop
  | .list _ => True
  | .object _ => True
  | _ => False

end Json.Tree

/-! ## Literals line by line -/

theorem isIndent_indentAt {gap : Text} (hg : IsIndent gap) (depth : Nat) :
    IsIndent (indentAt gap depth) := by
  induction depth with
  | zero => exact fun _ hc => absurd hc List.not_mem_nil
  | succ depth ih =>
    rw [indentAt_succ]
    exact ih.append hg

namespace Template

/-- The template literal of a text inside `depth` containers: after the tag and a backtick each
line of the text, its backticks escaped, under the gap once for each container and two spaces more,
and then the closing backtick under the gap once for each container. -/
def alignedLiteral (gap : Text) (depth : Nat) (t : Text) : Text :=
  (" dedent\x60\n" : Text) ++
    unlines ((lines t).map fun line =>
      indentAt gap depth ++ ("  " : Text) ++ replace [backtick] ['\\', backtick] line) ++
    newline :: (indentAt gap depth ++ [backtick])

theorem lines_flatMap {f : CodePoint → Text} (hn : f newline = [newline])
    (hf : ∀ c, c ≠ newline → newline ∉ f c) (t : Text) :
    lines (t.flatMap f) = (lines t).map (List.flatMap f) := by
  induction t with
  | nil => rfl
  | cons c t ih =>
    obtain ⟨line, rest, hl⟩ := exists_lines t
    rw [hl, List.map_cons] at ih
    rw [List.flatMap_cons]
    by_cases hc : c = newline
    · rw [hc, hn, List.singleton_append, lines_newline, lines_newline, ih, hl]
      rfl
    · rw [lines_append (hf c hc) ih, lines_cons hc hl, List.map_cons, List.flatMap_cons]

/-- Of an eligible text the backticks are escaped and nothing else. -/
theorem escape_of_isEligible {allow : Bool} {t : Text} (h : isEligible allow t = true) :
    escape t = replace [backtick] ['\\', backtick] t := by
  have hforbidden : ∀ c ∈ t, isForbidden c = false := by
    simp only [isEligible, Bool.and_eq_true, Bool.not_eq_true', List.any_eq_false] at h
    exact fun c hc => Bool.eq_false_iff.2 (h.1.1.2 c hc)
  rw [replace_singleton]
  clear h
  fun_induction escape t with
  | case1 => rfl
  | case2 t ih => exact absurd (hforbidden _ List.mem_cons_self) (by decide)
  | case3 c t _ hc ih =>
    have htail := ih fun d hd => hforbidden d (List.mem_cons_of_mem _ hd)
    rcases hc with rfl | rfl
    · exact absurd (hforbidden _ List.mem_cons_self) (by decide)
    · rw [htail, List.flatMap_cons, if_pos rfl]
      rfl
  | case4 c t _ hc ih =>
    have htail := ih fun d hd => hforbidden d (List.mem_cons_of_mem _ hd)
    rw [htail, List.flatMap_cons, if_neg fun e => hc (Or.inr e)]
    rfl

theorem literal_eq_alignedLiteral {allow : Bool} {gap t : Text} (hg : IsIndent gap)
    (h : isEligible allow t = true) (depth : Nat) :
    literal tag [] (indentAt gap depth) t = alignedLiteral gap depth t := by
  have hindent : IsIndent (indentAt gap depth ++ step) :=
    (isIndent_indentAt hg depth).append isIndent_step
  -- the raw lines of the body, one by one
  have hlines : lines (own (indentAt gap depth) t) = (lines t).map fun line =>
      indentAt gap depth ++ ("  " : Text) ++ replace [backtick] ['\\', backtick] line := by
    have hescaped : lines (replace [backtick] ['\\', backtick] t) =
        (lines t).map (replace [backtick] ['\\', backtick]) := by
      rw [replace_singleton, lines_flatMap (by decide)]
      · exact List.map_congr_left fun line _ => (replace_singleton _ _ line).symm
      · intro c hc
        split
        · decide
        · simpa using fun e : newline = c => hc e.symm
    rw [own, escape_of_isEligible h, reindent_eq_replace,
      lines_append_replace_newline hindent.newline_not_mem, hescaped, List.map_map]
    rfl
  rw [literal_eq_fenced, fenced, ← unlines_lines (own (indentAt gap depth) t), hlines,
    alignedLiteral]
  simp [tag, Text.ofString, Text.ofChars, backtick, newline]

end Template

/-! ## Pieces in a row -/

/-- The code that goes on from `before` with pieces, a literal aligned with the line it starts on
in the place of each hole. -/
def aligning (before : Text) : List Piece → Text
  | [] => before
  | .plain t :: ps => aligning (before ++ t) ps
  | .quoted t :: ps => aligning (before ++ quote t) ps
  | .hole t :: ps => aligning (before ++ literalAfter tag [] before t) ps

theorem aligning_append (before : Text) (ps qs : List Piece) :
    aligning before (ps ++ qs) = aligning (aligning before ps) qs := by
  induction ps generalizing before with
  | nil => rfl
  | cons p ps ih =>
    cases p with
    | plain t => exact ih _
    | quoted t => exact ih _
    | hole t => exact ih _

theorem aligned_gaps (before : Text) (ps : List Piece) :
    aligned (before ++ (gaps ps).1) (holes ps) (gaps ps).2 = aligning before ps := by
  induction ps generalizing before with
  | nil => rw [gaps, holes, aligned_nil, List.append_nil, aligning]
  | cons p ps ih =>
    cases p with
    | plain t => rw [gaps, holes, aligning, ← ih, List.append_assoc]
    | quoted t => rw [gaps, holes, aligning, ← ih, List.append_assoc]
    | hole t => rw [gaps, holes, aligning, ← ih, List.append_nil, aligned]

theorem alignedCode_eq_aligning (opening closing : Text) (ps : List Piece) :
    alignedCode opening closing ps = aligning opening ps ++ closing := by
  rw [alignedCode, ← holes_wrapped closing, aligned_gaps, aligning_append]
  rfl

/-! ## Pieces of a tree -/

section

variable {gap : Text} {choose : Text → Bool}

theorem newline_not_mem_quote (t : Text) : newline ∉ quote t := by
  have hpoint : ∀ c, newline ∉ quotePoint c := by
    intro c hmem
    rcases quotePoint_eq c with ⟨he, hverbatim⟩ | ⟨e, he, hmarks⟩
    · rw [he, List.mem_singleton] at hmem
      rw [← hmem] at hverbatim
      exact absurd hverbatim (by decide)
    · rw [he] at hmem
      rcases List.mem_cons.1 hmem with hmem | hmem
      · exact absurd hmem (by decide)
      · exact absurd (hmarks _ hmem) (by decide)
  intro hmem
  rcases List.mem_cons.1 hmem with hmem | hmem
  · exact absurd hmem (by decide)
  rcases List.mem_append.1 hmem with hmem | hmem
  · obtain ⟨c, -, hc⟩ := List.mem_flatMap.1 hmem
    exact hpoint c hc
  · exact absurd hmem (by decide)

/-- How a leaf is written where the chosen texts become literals. -/
def literalLeaf (choose : Text → Bool) (gap : Text) (depth : Nat) (t : Text) : Text :=
  if choose t then literal tag [] (indentAt gap depth) t else quote t

/-- A part of a container inside `depth` others starts a line of its own. -/
theorem indentation_lead (hg : IsIndent gap) (hne : gap ≠ []) (before : Text) (mark : CodePoint)
    (depth : Nat) :
    (lastLine (before ++ mark :: lead gap (indentAt gap depth))).indentation =
      indentAt gap (depth + 1) := by
  have hindent := isIndent_indentAt hg (depth + 1)
  have he : before ++ mark :: lead gap (indentAt gap depth) =
      (before ++ [mark]) ++ newline :: indentAt gap (depth + 1) := by
    rw [indentAt_succ, lead, if_neg (mt List.isEmpty_iff.1 hne)]
    simp
  rw [he, lastLine_append_newline, lastLine_of_not_mem hindent.newline_not_mem]
  exact List.takeWhile_eq_self_iff.2 hindent

/-- A name stands on the line of its value and leaves the indentation as it is. -/
theorem indentation_name (hg : IsIndent gap) (hne : gap ≠ []) (before : Text) (mark : CodePoint)
    (depth : Nat) (name : Text) :
    (lastLine (before ++ mark :: lead gap (indentAt gap depth) ++ quote name ++
      colon gap)).indentation = indentAt gap (depth + 1) := by
  have hcolon : newline ∉ colon gap := by
    unfold colon
    split <;> decide
  rw [lastLine_append hcolon, lastLine_append (newline_not_mem_quote name), List.append_assoc,
    quote_append, indentation_append_cons (by decide), indentation_lead hg hne]

mutual

/-- Pieces that go on from a line with the indentation of their depth, or start with the bracket
of a container, are the tree laid out. -/
theorem aligning_pieces (hg : IsIndent gap) (hne : gap ≠ []) : ∀ (tree : Tree) (depth : Nat)
    (before : Text),
    (tree.IsContainer ∨ (lastLine before).indentation = indentAt gap depth) →
      aligning before (pieces choose gap (indentAt gap depth) tree) =
        before ++ tree.lay (literalLeaf choose gap) gap depth
  | .null, _, _, _ => rfl
  | .bool _, _, _, _ => rfl
  | .int _, _, _, _ => rfl
  | .float _, _, _, _ => rfl
  | .text t, depth, before, h => by
    -- a text is no container, so it is the line that has the indentation
    have hline := h.resolve_left id
    unfold pieces Tree.lay literalLeaf
    by_cases ht : choose t = true
    · rw [if_pos ht, if_pos ht, aligning, aligning, literalAfter, hline]
    · rw [if_neg ht, if_neg ht, aligning, aligning]
  | .list [], _, _, _ => rfl
  | .list (tree :: rest), depth, before, _ => by
    show aligning before (piecesItems choose gap (indentAt gap depth) '[' (tree :: rest)) = _
    rw [aligning_piecesItems hg hne, Tree.lay, Tree.layItems, enclose_cons]
  | .object [], _, _, _ => rfl
  | .object ((name, tree) :: rest), depth, before, _ => by
    show aligning before
      (piecesMembers choose gap (indentAt gap depth) '\x7b' ((name, tree) :: rest)) = _
    rw [aligning_piecesMembers hg hne, Tree.lay, Tree.layMembers, enclose_cons]

theorem aligning_piecesItems (hg : IsIndent gap) (hne : gap ≠ []) : ∀ (trees : List Tree)
    (depth : Nat) (before : Text) (mark : CodePoint),
    aligning before (piecesItems choose gap (indentAt gap depth) mark trees) =
      before ++ chain gap (indentAt gap depth) ']' mark
        (Tree.layItems (literalLeaf choose gap) gap (depth + 1) trees)
  | [], _, _, _ => rfl
  | tree :: rest, depth, before, mark => by
    rw [piecesItems, aligning, aligning_append, ← indentAt_succ,
      aligning_pieces hg hne tree (depth + 1) _
        (Or.inr (indentation_lead hg hne before mark depth)),
      aligning_piecesItems hg hne rest depth, Tree.layItems, chain]
    simp

theorem aligning_piecesMembers (hg : IsIndent gap) (hne : gap ≠ []) :
    ∀ (trees : List (Text × Tree)) (depth : Nat) (before : Text) (mark : CodePoint),
    aligning before (piecesMembers choose gap (indentAt gap depth) mark trees) =
      before ++ chain gap (indentAt gap depth) '\x7d' mark
        (Tree.layMembers (literalLeaf choose gap) gap (depth + 1) trees)
  | [], _, _, _ => rfl
  | (name, tree) :: rest, depth, before, mark => by
    rw [piecesMembers, aligning, aligning, aligning, aligning_append, ← indentAt_succ,
      aligning_pieces hg hne tree (depth + 1) _
        (Or.inr (indentation_name hg hne before mark depth name)),
      aligning_piecesMembers hg hne rest depth, Tree.layMembers, chain]
    simp

end

end

/-! ## What a conversion answers -/

/-- A setting that asks for a gap of spaces, or of spaces and tabs. -/
inductive Indents : Value → Text → Prop where
  | count {n : Int} (h : 1 ≤ n) : Indents (.int n) (List.replicate (min 10 n.toNat) ' ')
  | text {t : Text} (h : IsIndent t) (hne : t ≠ []) (hlen : t.length ≤ 10) : Indents (.text t) t

section

variable {space : Value} {gap : Text}

theorem Indents.gap_eq (h : Indents space gap) (heap : Heap) : Json.gap heap space = .ok gap := by
  cases h with
  | count h => rfl
  | text h hne hlen => rw [Json.gap, List.take_of_length_le hlen]

theorem Indents.isIndent (h : Indents space gap) : IsIndent gap := by
  cases h with
  | count h => exact fun c hc => List.eq_of_mem_replicate hc ▸ rfl
  | text h hne hlen => exact h

theorem Indents.ne_nil (h : Indents space gap) : gap ≠ [] := by
  cases h with
  | count h =>
    rw [← List.length_pos_iff, List.length_replicate]
    omega
  | text h hne hlen => exact hne

end

section

variable {σ : Type} {options : Options σ} {w : World} {v : Value} {tree : Tree} {gap : Text}

/-- What a conversion with the standard marker answers: the tree laid out, a literal in the place
of each text that it chooses. -/
theorem convert_standard_eq (formatter : Formatter) (ho : options.Unassisted)
    (hspace : Indents options.space gap) (h : IsDocument w.heap [] v tree.printed)
    (hcontainer : tree.IsContainer) (htexts : ∀ t ∈ tree.texts, ¬ Marker.standard.text <:+: t)
    (hnames : ∀ t ∈ tree.names, ¬ Marker.standard.text <:+: t)
    (hopening : ¬ Marker.standard.text <:+: options.opening)
    (hclosing : ¬ Marker.standard.text <:+: options.closing) (s : σ)
    {choose : Text → Bool}
    (hchoose : choose = chosen options (options.backticks.getD w.settings.allowsBackticks)) :
    (((⟨.standard, formatter⟩ : Converter).convert options v).run (w, s)).1 =
      .ok ⟨options.opening ++ tree.lay (literalLeaf choose gap) gap 0 ++ options.closing,
        !(tree.texts.filter choose).isEmpty⟩ := by
  have hm := isDistinct_standard
  have hskeleton : (skeleton w options Marker.standard.text v).run (s, []) = _ :=
    skeleton_printed ho.replacer (hspace.gap_eq w.heap) rfl h s
  rw [← hchoose] at hskeleton
  have hholes : holes (pieces choose gap [] tree) = tree.texts.filter choose :=
    holes_pieces choose gap [] tree
  -- the marker stands in no string, so it is counted once for each token
  have hcollides : ¬ Collides Marker.standard.text
      (options.opening ++ emit (quotedToken Marker.standard.text) 0 (pieces choose gap [] tree) ++
        options.closing) (holes (pieces choose gap [] tree)) := by
    rw [hholes]
    rintro ⟨hnil, hlt⟩
    have hcount := count_indented_skeleton hm hspace.isIndent htexts hnames hopening hclosing hnil
    omega
  have hunmarked : ∀ t ∈ holes (pieces choose gap [] tree), ¬ Marker.standard.text <:+: t := by
    intro t ht
    rw [hholes] at ht
    exact htexts t (List.mem_filter.1 ht).1
  have huse : options.useFormatter = true → formatter = Formatter.none := by
    intro huse
    rw [ho.useFormatter] at huse
    cases huse
  -- the tree is a container, so the line that the text before it ends with has no part in it
  have hlaid : aligning options.opening (pieces choose gap [] tree) =
      options.opening ++ tree.lay (literalLeaf choose gap) gap 0 :=
    aligning_pieces hspace.isIndent hspace.ne_nil tree 0 options.opening (Or.inl hcontainer)
  rw [convert_of_skeleton (c := ⟨.standard, formatter⟩) hskeleton, ← hholes,
    finish_aligned (c := ⟨.standard, formatter⟩) hm.toIsVerbatim ho.beforeFormat ho.templateOpening
      ho.templateClosing huse hunmarked hcollides, alignedCode_eq_aligning, hlaid, hholes,
    formatterReady, ho.useFormatter]
  rfl

/-- **Literals are aligned with their depth.** With a gap of spaces and tabs a conversion of a list
or an object lays out its tree, and the conversion that asks for template literals lays out the
same tree. Where the one has the quoted text of an eligible text, the other has its literal, whose
lines stand under the gap once for each container that the text lies in; everything else is the
same. -/
theorem convert_eq_lay (formatter : Formatter) (ho : options.Unassisted)
    (hspace : Indents options.space gap) (h : IsDocument w.heap [] v tree.printed)
    (hcontainer : tree.IsContainer) (htexts : ∀ t ∈ tree.texts, ¬ Marker.standard.text <:+: t)
    (hnames : ∀ t ∈ tree.names, ¬ Marker.standard.text <:+: t)
    (hopening : ¬ Marker.standard.text <:+: options.opening)
    (hclosing : ¬ Marker.standard.text <:+: options.closing) (s : σ) :
    let c : Converter := ⟨.standard, formatter⟩
    let eligible := isEligible (options.backticks.getD w.settings.allowsBackticks)
    ((c.convert { options with useTemplates := false } v).run (w, s)).1 =
        .ok ⟨options.opening ++ tree.lay (fun _ t => quote t) gap 0 ++ options.closing, false⟩ ∧
      ((c.convert { options with useTemplates := true } v).run (w, s)).1 =
        .ok ⟨options.opening ++ tree.lay (fun depth t =>
            if eligible t then alignedLiteral gap depth t else quote t) gap 0 ++ options.closing,
          !(tree.texts.filter eligible).isEmpty⟩ := by
  intro c eligible
  have hplainOptions : { options with useTemplates := false }.Unassisted :=
    ⟨ho.1, ho.2, ho.3, ho.4, ho.5⟩
  have hliteralOptions : { options with useTemplates := true }.Unassisted :=
    ⟨ho.1, ho.2, ho.3, ho.4, ho.5⟩
  have hnone : (fun _ => false) = chosen { options with useTemplates := false }
      (options.backticks.getD w.settings.allowsBackticks) := rfl
  have hchoose : eligible = chosen { options with useTemplates := true }
      (options.backticks.getD w.settings.allowsBackticks) := rfl
  have hplain := convert_standard_eq formatter hplainOptions hspace h hcontainer htexts hnames
    hopening hclosing s hnone
  have hliteral := convert_standard_eq formatter hliteralOptions hspace h hcontainer htexts hnames
    hopening hclosing s hchoose
  have hleaf : literalLeaf eligible gap = fun depth t =>
      if eligible t then alignedLiteral gap depth t else quote t := by
    funext depth t
    unfold literalLeaf
    split
    · rename_i ht
      exact literal_eq_alignedLiteral hspace.isIndent ht depth
    · rfl
  have hquote : literalLeaf (fun _ => false) gap = fun _ t => quote t := rfl
  rw [hquote, List.filter_false] at hplain
  rw [hleaf] at hliteral
  exact ⟨hplain, hliteral⟩

/-- A text with an empty line and a backtick, deeper another text of two lines, and one that starts
with a line feed and so is not eligible. -/
def nested : Value :=
  .mapping .dict [(.text " ", .sequence .list [.text "a\n\n \x60",
    .mapping .dict [(.text "k", .text "b\nc")], .text "\nd"])]

def nestedTree : Tree :=
  .object [(" ", .list [.text "a\n\n \x60", .object [("k", .text "b\nc")], .text "\nd"])]

/-- A gap of a tab. -/
def tabOptions : Options Unit :=
  { opening := "(", closing := ");", useFormatter := false, space := .text "\t",
    backticks := some true }

theorem convert_eq_lay_nested :
    (((⟨.standard, Formatter.none⟩ : Converter).convert
        { tabOptions with useTemplates := false } nested).run ({}, ())).1 =
      .ok ⟨unlines ["(\x7b", "\t\" \": [", "\t\t\"a\\n\\n \x60\",", "\t\t\x7b",
        "\t\t\t\"k\": \"b\\nc\"", "\t\t\x7d,", "\t\t\"\\nd\"", "\t]", "\x7d);"], false⟩ ∧
    (((⟨.standard, Formatter.none⟩ : Converter).convert
        { tabOptions with useTemplates := true } nested).run ({}, ())).1 =
      .ok ⟨unlines ["(\x7b", "\t\" \": [",
        "\t\t dedent\x60", "\t\t  a", "\t\t  ", "\t\t   \\\x60", "\t\t\x60,", "\t\t\x7b",
        "\t\t\t\"k\":  dedent\x60", "\t\t\t  b", "\t\t\t  c", "\t\t\t\x60",
        "\t\t\x7d,", "\t\t\"\\nd\"", "\t]", "\x7d);"], true⟩ := by
  have ho : tabOptions.Unassisted := ⟨rfl, rfl, rfl, rfl, rfl⟩
  have htab : IsIndent "\t" := fun c hc => List.mem_singleton.1 hc ▸ rfl
  have hspace : Indents tabOptions.space "\t" := .text htab (by decide) (by decide)
  have hdoc : IsDocument [] [] nested nestedTree.printed :=
    .object (.mapping ..) (.cons rfl (.list (.sequence ..) (.cons .text (.cons
      (.object (.mapping ..) (.cons rfl .text .nil)) (.cons .text .nil)))) .nil)
  have htexts : ∀ t ∈ nestedTree.texts, ¬ Marker.standard.text <:+: t := by decide
  have hnames : ∀ t ∈ nestedTree.names, ¬ Marker.standard.text <:+: t := by decide
  have hopening : ¬ Marker.standard.text <:+: tabOptions.opening := by decide
  have hclosing : ¬ Marker.standard.text <:+: tabOptions.closing := by decide
  obtain ⟨hplain, hliteral⟩ := convert_eq_lay (w := {}) Formatter.none ho hspace hdoc trivial htexts
    hnames hopening hclosing ()
  exact ⟨hplain.trans rfl, hliteral.trans rfl⟩

end

end JsLiteral
