import JsLiteral.Proofs.Json.Lexing
import JsLiteral.Proofs.Json.Reading
import JsLiteral.Proofs.Script.Numbers

/-!
# Printed trees are literals of a script

A printed tree is cut into the tokens of the tree, and the parser makes one literal of them,
whatever containers are open around it.

    lexing    lex .code (written (pieces … tree) ++ rest) gives the tree's tokens first  (lex_tree)
    parsing   run stack .operand (tokensOf tree ++ ts)
                = run stack (.after (literalOf tree)) ts                                 (run_tree)
-/

namespace JsLiteral.Script

open Text Json

/-! ## The tokens and the literal of a tree -/

mutual

def tokensOf : Tree → List Token
  | .null => [.word "null"]
  | .bool b => [.word (if b then "true" else "false")]
  | .int n => [.word (intText n)]
  | .float x => [.word (floatText x)]
  | .text t => [.string (t.flatMap quotePoint)]
  | .list items => if items.isEmpty then [.mark '[', .mark ']'] else itemTokens '[' items
  | .object members =>
    if members.isEmpty then [.mark '\x7b', .mark '\x7d'] else memberTokens '\x7b' members

/-- The tokens of items up to the closing bracket, the first of them after `mark`. -/
def itemTokens : CodePoint → List Tree → List Token
  | _, [] => [.mark ']']
  | mark, tree :: rest => .mark mark :: (tokensOf tree ++ itemTokens ',' rest)

def memberTokens : CodePoint → List (Text × Tree) → List Token
  | _, [] => [.mark '\x7d']
  | mark, (name, tree) :: rest =>
    .mark mark :: .string (name.flatMap quotePoint) :: .mark ':' ::
      (tokensOf tree ++ memberTokens ',' rest)

end

mutual

/-- The literal that a tree is printed as. A float that is no number is printed as null. -/
def literalOf : Tree → Literal
  | .null => .null
  | .bool b => .bool b
  | .int n => .number (nearest n)
  | .float x => if x.isFinite then .number (unsigned x) else .null
  | .text t => .string (units t)
  | .list items => .array (itemLiterals items)
  | .object members => .object (memberLiterals members)

def itemLiterals : List Tree → List Literal
  | [] => []
  | tree :: rest => literalOf tree :: itemLiterals rest

def memberLiterals : List (Text × Tree) → List (Units × Literal)
  | [] => []
  | (name, tree) :: rest => (units name, literalOf tree) :: memberLiterals rest

end

/-! ## Lexing -/

/-- Holds blanks only. -/
def IsBlanks (t : Text) : Prop := ∀ c ∈ t, isJsonBlank c = true

theorem IsBlanks.append {a b : Text} (ha : IsBlanks a) (hb : IsBlanks b) : IsBlanks (a ++ b) := by
  intro c hc
  rcases List.mem_append.1 hc with hc | hc
  · exact ha c hc
  · exact hb c hc

section

variable {c : CodePoint} {t w rest : Text} {ts : List Token} {p : Text × List Token}

theorem lex_blank (hc : isJsonBlank c = true) (h : lex .code t = some p) :
    lex .code (c :: t) = some ([], flush p) := by
  have hquote : c ≠ '"' := by
    rintro rfl
    exact absurd hc (by decide)
  rw [lex, if_neg hquote, h]
  simp only [Option.map_some, hc, if_true]

/-- Blanks end a word and are left out. -/
theorem lex_blanks {b : Text} (hb : IsBlanks b) (h : lex .code t = some p) :
    ∃ p', lex .code (b ++ t) = some p' ∧ flush p' = flush p := by
  induction b with
  | nil => exact ⟨p, h, rfl⟩
  | cons c b ih =>
    obtain ⟨p', hlex, hflush⟩ := ih fun d hd => hb d (List.mem_cons_of_mem _ hd)
    exact ⟨([], flush p'), lex_blank (hb c List.mem_cons_self) hlex, hflush⟩

theorem lex_blanks_nil {b : Text} (hb : IsBlanks b) (h : lex .code t = some ([], ts)) :
    lex .code (b ++ t) = some ([], ts) := by
  induction b with
  | nil => exact h
  | cons c b ih =>
    exact lex_blank (hb c List.mem_cons_self) (ih fun d hd => hb d (List.mem_cons_of_mem _ hd))

theorem lex_mark (hc : isMark c = true) (h : lex .code t = some p) :
    lex .code (c :: t) = some ([], .mark c :: flush p) := by
  have hquote : c ≠ '"' := by
    rintro rfl
    exact absurd hc (by decide)
  have hblank : isJsonBlank c = false := by
    by_contra hb
    rw [Bool.not_eq_false] at hb
    simp only [isJsonBlank, Bool.or_eq_true, beq_iff_eq] at hb
    rcases hb with ((rfl | rfl) | rfl) | rfl
    · exact absurd hc (by decide)
    · exact absurd hc (by decide)
    · exact absurd hc (by decide)
    · exact absurd hc (by decide)
  rw [lex, if_neg hquote, h]
  simp only [Option.map_some, hblank, hc, Bool.false_eq_true, if_false, if_true]

/-- A code point that words and numbers are made of. -/
def isWordPoint (c : CodePoint) : Bool := c != '"' && !isJsonBlank c && !isMark c

theorem lex_word (hw : ∀ c ∈ w, isWordPoint c = true) (h : lex .code rest = some ([], ts)) :
    lex .code (w ++ rest) = some (w, ts) := by
  induction w with
  | nil => exact h
  | cons c w ih =>
    have hc := hw c List.mem_cons_self
    simp only [isWordPoint, Bool.and_eq_true, bne_iff_ne, Bool.not_eq_true'] at hc
    rw [List.cons_append, lex, if_neg hc.1.1, ih fun d hd => hw d (List.mem_cons_of_mem _ hd)]
    simp only [Option.map_some, hc.1.2, hc.2, Bool.false_eq_true, if_false]

theorem lex_string_escaped (c : CodePoint) (t : Text) :
    lex .string ('\\' :: c :: t) =
      (lex .string t).map fun p => (CodePoint.scalar '\\' :: c :: p.1, p.2) := rfl

theorem lex_string_plain (h1 : c ≠ '"') (h2 : c ≠ '\\') (h3 : 0x20 ≤ c.toNat) (t : Text) :
    lex .string (c :: t) = (lex .string t).map fun p => (c :: p.1, p.2) := by
  have hline : ¬ (c = '\n' ∨ c = '\r') := by
    rintro (rfl | rfl)
    · exact absurd h3 (by decide)
    · exact absurd h3 (by decide)
  rw [lex, if_neg h1, if_neg hline]
  rintro d u rfl
  exact absurd rfl h2

/-- A string is closed by the first quote that no backslash precedes. -/
theorem lex_string (hw : InString w) (h : lex .code t = some p) :
    lex .string (w ++ CodePoint.scalar '"' :: t) = some (w, flush p) := by
  induction hw with
  | nil =>
    show lex .string (CodePoint.scalar '"' :: t) = _
    rw [lex, if_pos rfl, h]
    · rfl
    · rintro d u he
      exact absurd he (by decide)
  | plain h1 h2 h3 _ ih =>
    rw [List.cons_append, lex_string_plain h1 h2 h3, ih]
    rfl
  | escaped _ ih =>
    rw [List.cons_append, List.cons_append, lex_string_escaped, ih]
    rfl

theorem lex_quote (s : Text) (h : lex .code t = some p) :
    lex .code (quote s ++ t) = some ([], .string (s.flatMap quotePoint) :: flush p) := by
  rw [quote_append, lex, if_pos rfl, lex_string (InString.flatMap InString.quotePoint s) h]
  rfl

end

/-! ### Words -/

/-- A word as the lexer takes it in whole. -/
structure IsWord (w : Text) : Prop where
  ne_nil : w ≠ []
  points : ∀ c ∈ w, isWordPoint c = true

theorem isWordPoint_of_isDigit {c : CodePoint} (hc : c.isDigit = true) : isWordPoint c = true := by
  have hall : ∀ d ∈ ("\" \t\n\r()[]\x7b\x7d,:" : Text), d.isDigit = false := by decide
  have hne : ∀ d ∈ ("\" \t\n\r()[]\x7b\x7d,:" : Text), c ≠ d := by
    rintro d hd rfl
    rw [hall c hd] at hc
    cases hc
  have hmark : isMark c = false := by
    by_contra hm
    rw [Bool.not_eq_false, isMark, List.contains_iff_mem] at hm
    have hsub : ∀ d ∈ ("()[]\x7b\x7d,:" : Text), d ∈ ("\" \t\n\r()[]\x7b\x7d,:" : Text) := by
      decide
    exact hne c (hsub c hm) rfl
  simp only [isWordPoint, isJsonBlank, hmark, Bool.and_eq_true, Bool.not_eq_true', bne_iff_ne,
    Bool.or_eq_false_iff, beq_eq_false_iff_ne]
  exact ⟨⟨hne _ (by decide), ⟨⟨hne _ (by decide), hne _ (by decide)⟩, hne _ (by decide)⟩,
    hne _ (by decide)⟩, trivial⟩

theorem isWord_of_isNumber {w : Text} (h : IsNumber w) : IsWord w where
  ne_nil := by
    obtain ⟨c, r, rfl, -⟩ := h.exists_cons
    exact List.cons_ne_nil c r
  points := by
    intro c hc
    rcases h.isDigit_or_mem hc with hd | hm
    · exact isWordPoint_of_isDigit hd
    · have hall : ∀ e ∈ (".e+-" : Text), isWordPoint e = true := by decide
      exact hall c hm

theorem isWord_floatText (x : Binary64) : IsWord (floatText x) := by
  by_cases hx : x.isFinite = true
  · exact isWord_of_isNumber (isNumber_floatText hx)
  · rw [floatText_of_not_isFinite hx]
    exact ⟨by decide, by decide⟩

theorem lex_isWord {w rest : Text} {ts : List Token} (hw : IsWord w)
    (h : lex .code rest = some ([], ts)) :
    ∃ p, lex .code (w ++ rest) = some p ∧ flush p = .word w :: ts := by
  refine ⟨(w, ts), lex_word hw.points h, ?_⟩
  obtain ⟨c, w, rfl⟩ := List.exists_cons_of_ne_nil hw.ne_nil
  rfl

/-! ### Trees -/

section

variable {gap : Text}

theorem isBlanks_lead {indent : Text} (hg : IsBlanks gap) (hi : IsBlanks indent) :
    IsBlanks (lead gap indent) := by
  unfold lead
  split
  · exact fun _ hc => absurd hc List.not_mem_nil
  · intro c hc
    rcases List.mem_cons.1 hc with rfl | hc
    · rfl
    · exact hi.append hg c hc

theorem isBlanks_trail {indent : Text} (hi : IsBlanks indent) : IsBlanks (trail gap indent) := by
  unfold trail
  split
  · exact fun _ hc => absurd hc List.not_mem_nil
  · intro c hc
    rcases List.mem_cons.1 hc with rfl | hc
    · rfl
    · exact hi c hc

/-- A closing bracket on a line of its own or not. -/
theorem lex_trail {indent rest : Text} (hi : IsBlanks indent) {closing : CodePoint}
    (hc : isMark closing = true) {p : Text × List Token} (h : lex .code rest = some p) :
    lex .code (trail gap indent ++ closing :: rest) = some ([], .mark closing :: flush p) :=
  lex_blanks_nil (isBlanks_trail hi) (lex_mark hc h)

theorem lex_colon (gap : Text) {t : Text} {p : Text × List Token} (h : lex .code t = some p) :
    lex .code (colon gap ++ t) = some ([], .mark ':' :: flush p) := by
  unfold colon
  split
  · exact lex_mark rfl h
  · have hspace : lex .code (CodePoint.scalar ' ' :: t) = some ([], flush p) := lex_blank rfl h
    have hcolon : lex .code (CodePoint.scalar ':' :: CodePoint.scalar ' ' :: t) = _ :=
      lex_mark rfl hspace
    exact hcolon

mutual

theorem lex_tree (hg : IsBlanks gap) : ∀ (tree : Tree) {indent rest : Text} {ts : List Token},
    IsBlanks indent → lex .code rest = some ([], ts) →
      ∃ p, lex .code (written (pieces (fun _ => false) gap indent tree) ++ rest) = some p ∧
        flush p = tokensOf tree ++ ts
  | .null, _, _, _, _, h => lex_isWord (w := "null") ⟨by decide, by decide⟩ h
  | .bool true, _, _, _, _, h => lex_isWord (w := "true") ⟨by decide, by decide⟩ h
  | .bool false, _, _, _, _, h => lex_isWord (w := "false") ⟨by decide, by decide⟩ h
  | .int n, _, rest, _, _, h => by
    show ∃ p, lex .code (intText n ++ [] ++ rest) = some p ∧ _
    rw [List.append_nil]
    exact lex_isWord (isWord_of_isNumber (isNumber_ofInt n)) h
  | .float x, _, rest, _, _, h => by
    show ∃ p, lex .code (floatText x ++ [] ++ rest) = some p ∧ _
    rw [List.append_nil]
    exact lex_isWord (isWord_floatText x) h
  | .text t, _, rest, _, _, h => by
    show ∃ p, lex .code (quote t ++ [] ++ rest) = some p ∧ _
    rw [List.append_nil, lex_quote t h]
    exact ⟨_, rfl, rfl⟩
  | .list [], _, _, _, _, h => ⟨_, lex_mark rfl (lex_mark rfl h), rfl⟩
  | .list (tree :: trees), _, _, _, hi, h =>
    ⟨_, lex_items hg (tree :: trees) rfl hi h, rfl⟩
  | .object [], _, _, _, _, h => ⟨_, lex_mark rfl (lex_mark rfl h), rfl⟩
  | .object (member :: members), _, _, _, hi, h =>
    ⟨_, lex_members hg (member :: members) rfl hi h, rfl⟩

theorem lex_items (hg : IsBlanks gap) : ∀ (trees : List Tree) {mark : CodePoint}
    {indent rest : Text} {p : Text × List Token}, isMark mark = true → IsBlanks indent →
      lex .code rest = some p →
        lex .code (written (piecesItems (fun _ => false) gap indent mark trees) ++ rest) =
          some ([], itemTokens mark trees ++ flush p)
  | [], _, _, _, _, _, hi, h => by
    rw [written_piecesItems_nil]
    exact lex_trail hi rfl h
  | tree :: trees, _, indent, rest, _, hm, hi, h => by
    have hrest : lex .code (written (piecesItems (fun _ => false) gap indent ',' trees) ++ rest) =
        _ := lex_items hg trees rfl hi h
    obtain ⟨p, htree, hflush⟩ := lex_tree hg tree (hi.append hg) hrest
    obtain ⟨p', hlead, hflush'⟩ := lex_blanks (isBlanks_lead hg hi) htree
    rw [written_piecesItems_cons]
    simp only [List.cons_append, List.append_assoc]
    rw [lex_mark hm hlead, hflush', hflush]
    simp [itemTokens]

theorem lex_members (hg : IsBlanks gap) : ∀ (trees : List (Text × Tree)) {mark : CodePoint}
    {indent rest : Text} {p : Text × List Token}, isMark mark = true → IsBlanks indent →
      lex .code rest = some p →
        lex .code (written (piecesMembers (fun _ => false) gap indent mark trees) ++ rest) =
          some ([], memberTokens mark trees ++ flush p)
  | [], _, _, _, _, _, hi, h => by
    rw [written_piecesMembers_nil]
    exact lex_trail hi rfl h
  | (name, tree) :: trees, _, indent, rest, _, hm, hi, h => by
    have hrest : lex .code (written (piecesMembers (fun _ => false) gap indent ',' trees) ++ rest) =
        _ := lex_members hg trees rfl hi h
    obtain ⟨p, htree, hflush⟩ := lex_tree hg tree (hi.append hg) hrest
    obtain ⟨p', hlead, hflush'⟩ :=
      lex_blanks (isBlanks_lead hg hi) (lex_quote name (lex_colon gap htree))
    rw [written_piecesMembers_cons]
    simp only [List.cons_append, List.append_assoc]
    rw [lex_mark hm hlead, hflush', flush, flush, hflush]
    simp [memberTokens]

end

end

/-! ## Parsing -/

/-- A quoted text is the string of its units. -/
theorem stringUnits?_quote (t : Text) : stringUnits? (t.flatMap quotePoint) = some (units t) := by
  obtain ⟨us, hus, hread⟩ := readStringBody_flatMap_quotePoint t [] []
  unfold stringUnits?
  rw [hread]
  simp only [List.reverse_nil, List.nil_append, units, ← hus, List.flatMap_map]

section

variable {stack : List Frame} {ts : List Token} {members : List (Units × Literal)}

theorem run_word {w : Text} {l : Literal} (h : wordLiteral? w = some l) :
    run stack .operand (.word w :: ts) = run stack (.after l) ts := by
  rw [run, h, Option.bind_some]

theorem run_string (t : Text) :
    run stack .operand (.string (t.flatMap quotePoint) :: ts) =
      run stack (.after (.string (units t))) ts := by
  rw [run, stringUnits?_quote, Option.bind_some]

theorem run_name (t : Text) :
    run stack (.name members) (.string (t.flatMap quotePoint) :: .mark ':' :: ts) =
      run (.object members (units t) :: stack) .operand ts := by
  rw [run, if_pos rfl, stringUnits?_quote, Option.bind_some]

theorem wordLiteral?_floatText (x : Binary64) :
    wordLiteral? (floatText x) =
      some (if x.isFinite then .number (unsigned x) else .null) := by
  by_cases hx : x.isFinite = true
  · rw [if_pos hx, wordLiteral?_of_isNumber (isNumber_floatText hx), number?_floatText hx]
    rfl
  · rw [if_neg hx, floatText_of_not_isFinite hx]
    rfl

end

mutual

/-- The tokens of a tree are parsed as its literal. -/
theorem run_tree : ∀ (tree : Tree) (stack : List Frame) (ts : List Token),
    run stack .operand (tokensOf tree ++ ts) = run stack (.after (literalOf tree)) ts
  | .null, _, _ => run_word rfl
  | .bool true, _, _ => run_word rfl
  | .bool false, _, _ => run_word rfl
  | .int n, _, _ => by
    have hword : wordLiteral? (intText n) = _ := wordLiteral?_of_isNumber (isNumber_ofInt n)
    rw [number?_intText] at hword
    exact run_word hword
  | .float x, _, _ => run_word (wordLiteral?_floatText x)
  | .text t, _, _ => run_string t
  | .list [], _, _ => rfl
  | .list (tree :: trees), stack, ts => by
    show run (.array [] :: stack) .operand (tokensOf tree ++ itemTokens ',' trees ++ ts) = _
    rw [List.append_assoc, run_tree tree, run_items trees]
    rfl
  | .object [], _, _ => rfl
  | .object ((name, tree) :: trees), stack, ts => by
    show run stack (.name []) (.string (name.flatMap quotePoint) :: .mark ':' ::
      (tokensOf tree ++ memberTokens ',' trees ++ ts)) = _
    rw [run_name, List.append_assoc, run_tree tree, run_members trees]
    rfl

theorem run_items : ∀ (trees : List Tree) (stack : List Frame) (items : List Literal) (l : Literal)
    (ts : List Token), run (.array items :: stack) (.after l) (itemTokens ',' trees ++ ts) =
      run stack (.after (.array (items.reverse ++ l :: itemLiterals trees))) ts
  | [], stack, items, l, ts => by
    show run stack (.after (.array (l :: items).reverse)) ts = _
    rw [List.reverse_cons]
    rfl
  | tree :: trees, stack, items, l, ts => by
    show run (.array (l :: items) :: stack) .operand (tokensOf tree ++ itemTokens ',' trees ++ ts) =
      _
    rw [List.append_assoc, run_tree tree, run_items trees, List.reverse_cons, List.append_assoc]
    rfl

theorem run_members : ∀ (trees : List (Text × Tree)) (stack : List Frame)
    (members : List (Units × Literal)) (name : Units) (l : Literal) (ts : List Token),
      run (.object members name :: stack) (.after l) (memberTokens ',' trees ++ ts) =
        run stack (.after (.object (members.reverse ++ (name, l) :: memberLiterals trees))) ts
  | [], stack, members, name, l, ts => by
    show run stack (.after (.object ((name, l) :: members).reverse)) ts = _
    rw [List.reverse_cons]
    rfl
  | (next, tree) :: trees, stack, members, name, l, ts => by
    show run stack (.name ((name, l) :: members)) (.string (next.flatMap quotePoint) ::
      .mark ':' :: (tokensOf tree ++ memberTokens ',' trees ++ ts)) = _
    rw [run_name, List.append_assoc, run_tree tree, run_members trees, List.reverse_cons,
      List.append_assoc]
    rfl

end

/-- A printed tree in parentheses is read as its literal. -/
theorem parse_written {gap : Text} (hg : IsBlanks gap) (tree : Tree) :
    (tokens ("(" ++ written (pieces (fun _ => false) gap [] tree) ++ ")")).bind parse =
      some (literalOf tree) := by
  have hnil : IsBlanks [] := fun _ hc => absurd hc List.not_mem_nil
  have hclose : lex .code ")" = some ([], [.mark ')']) := rfl
  obtain ⟨p, hlex, hflush⟩ := lex_tree hg tree hnil hclose
  have htokens : tokens ("(" ++ written (pieces (fun _ => false) gap [] tree) ++ ")") =
      some (.mark '(' :: (tokensOf tree ++ [.mark ')'])) := by
    have hopen : lex .code (CodePoint.scalar '(' ::
        (written (pieces (fun _ => false) gap [] tree) ++ ")")) = _ := lex_mark rfl hlex
    rw [List.append_assoc, ← hflush]
    exact congrArg (Option.map flush) hopen
  rw [htokens, Option.bind_some, parse, if_pos rfl, run_tree]
  rfl

end JsLiteral.Script
