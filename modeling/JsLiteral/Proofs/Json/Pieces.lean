import JsLiteral.Json.Stringify
import JsLiteral.Proofs.Json.Tree

/-!
# Printed JSON in pieces

The text of a tree as a sequence of pieces: marks, words and numbers, quoted texts, and
holes, the places of the texts that are chosen for something else to stand there. What fills
the holes is left open, so one sequence describes a skeleton with tokens and the document
that is read in the end.

    emit fill n (ps ++ qs) = emit fill n ps ++ emit fill (n + holes in ps) qs    (emit_append)
    holes (pieces choose gap indent tree) = tree.texts.filter choose             (holes_pieces)
-/

namespace JsLiteral.Json

/-! ## Pieces -/

inductive Piece where
  | plain (t : Text)
  | quoted (t : Text)
  /-- Where something else stands for a text. -/
  | hole (t : Text)

/-- The text of pieces whose holes are filled by `fill`, numbered from `n`. -/
def emit (fill : Nat → Text → Text) : Nat → List Piece → Text
  | _, [] => []
  | n, .plain t :: ps => t ++ emit fill n ps
  | n, .quoted t :: ps => quote t ++ emit fill n ps
  | n, .hole t :: ps => fill n t ++ emit fill (n + 1) ps

/-- The texts whose places are holes. -/
def holes : List Piece → List Text
  | [] => []
  | .plain _ :: ps => holes ps
  | .quoted _ :: ps => holes ps
  | .hole t :: ps => t :: holes ps

theorem holes_append (ps qs : List Piece) : holes (ps ++ qs) = holes ps ++ holes qs := by
  induction ps with
  | nil => rfl
  | cons p ps ih =>
    cases p with
    | plain t => exact ih
    | quoted t => exact ih
    | hole t => exact congrArg (t :: ·) ih

theorem mem_of_mem_holes {t : Text} {ps : List Piece} (h : t ∈ holes ps) : .hole t ∈ ps := by
  induction ps with
  | nil => cases h
  | cons p ps ih =>
    cases p with
    | plain u => exact List.mem_cons_of_mem _ (ih h)
    | quoted u => exact List.mem_cons_of_mem _ (ih h)
    | hole u =>
      rcases List.mem_cons.1 h with rfl | hps
      · exact List.mem_cons_self
      · exact List.mem_cons_of_mem _ (ih hps)

theorem emit_append (fill : Nat → Text → Text) (n : Nat) (ps qs : List Piece) :
    emit fill n (ps ++ qs) = emit fill n ps ++ emit fill (n + (holes ps).length) qs := by
  induction ps generalizing n with
  | nil => rfl
  | cons p ps ih =>
    cases p with
    | plain t => rw [List.cons_append, emit, emit, ih, List.append_assoc, holes]
    | quoted t => rw [List.cons_append, emit, emit, ih, List.append_assoc, holes]
    | hole t =>
      rw [List.cons_append, emit, emit, ih, List.append_assoc, holes, List.length_cons]
      congr 3
      omega

/-! ## Layout -/

/-- What stands before each part of a container. -/
def lead (gap indent : Text) : Text := if gap.isEmpty then [] else Text.newline :: (indent ++ gap)

/-- What stands between the last part of a container and its closing bracket. -/
def trail (gap indent : Text) : Text := if gap.isEmpty then [] else Text.newline :: indent

/-- Parts of a container up to its closing bracket, the first of them after `mark`. -/
def chain (gap indent : Text) (closing : CodePoint) : CodePoint → List Text → Text
  | _, [] => trail gap indent ++ [closing]
  | mark, p :: ps => mark :: (lead gap indent ++ (p ++ chain gap indent closing ',' ps))

theorem chain_append (gap indent : Text) (closing mark : CodePoint) (p : Text) (ps : List Text) :
    chain gap indent closing mark (p :: ps) =
      mark :: (lead gap indent ++ Text.join (',' :: lead gap indent) (p :: ps)
        ++ trail gap indent ++ [closing]) := by
  induction ps generalizing mark p with
  | nil => simp [chain, Text.join]
  | cons q ps ih =>
    rw [chain, ih]
    simp [Text.join]

/-- A container that is not empty is its parts in a row. -/
theorem enclose_cons (opening closing : CodePoint) (gap indent : Text) (p : Text)
    (ps : List Text) :
    enclose opening closing gap indent (p :: ps) = chain gap indent closing opening (p :: ps) := by
  rw [chain_append]
  unfold enclose lead trail
  cases gap with
  | nil => simp
  | cons c gap => simp

/-! ## Pieces of a tree -/

section

variable (choose : Text → Bool) (gap : Text)

mutual

/-- The pieces of a tree on a line indented by `indent`; the chosen texts are holes. -/
def pieces : Text → Tree → List Piece
  | _, .null => [.plain "null"]
  | _, .bool b => [.plain (if b then "true" else "false")]
  | _, .int n => [.plain (intText n)]
  | _, .float x => [.plain (floatText x)]
  | _, .text t => [if choose t then .hole t else .quoted t]
  | indent, .list items =>
    if items.isEmpty then [.plain ['[', ']']] else piecesItems indent '[' items
  | indent, .object members =>
    if members.isEmpty then [.plain ['\x7b', '\x7d']] else piecesMembers indent '\x7b' members

def piecesItems : Text → CodePoint → List Tree → List Piece
  | indent, _, [] => [.plain (trail gap indent ++ [CodePoint.scalar ']'])]
  | indent, mark, tree :: rest =>
    .plain (mark :: lead gap indent) ::
      (pieces (indent ++ gap) tree ++ piecesItems indent ',' rest)

def piecesMembers : Text → CodePoint → List (Text × Tree) → List Piece
  | indent, _, [] => [.plain (trail gap indent ++ [CodePoint.scalar '\x7d'])]
  | indent, mark, (name, tree) :: rest =>
    .plain (mark :: lead gap indent) :: .quoted name :: .plain (colon gap) ::
      (pieces (indent ++ gap) tree ++ piecesMembers indent ',' rest)

end

mutual

/-- The holes are the chosen texts, in order. -/
theorem holes_pieces (indent : Text) : ∀ tree : Tree,
    holes (pieces choose gap indent tree) = tree.texts.filter choose
  | .null => rfl
  | .bool _ => rfl
  | .int _ => rfl
  | .float _ => rfl
  | .text t => by
    unfold pieces Tree.texts
    by_cases ht : choose t = true
    · rw [if_pos ht, List.filter_cons_of_pos ht]
      rfl
    · rw [if_neg ht, List.filter_cons_of_neg ht]
      rfl
  | .list [] => rfl
  | .list (tree :: rest) => holes_piecesItems indent '[' (tree :: rest)
  | .object [] => rfl
  | .object (member :: rest) => holes_piecesMembers indent '\x7b' (member :: rest)

theorem holes_piecesItems (indent : Text) (mark : CodePoint) : ∀ trees : List Tree,
    holes (piecesItems choose gap indent mark trees) = (Tree.textsItems trees).filter choose
  | [] => rfl
  | tree :: rest => by
    rw [piecesItems, holes, holes_append, holes_pieces, holes_piecesItems, Tree.textsItems,
      List.filter_append]

theorem holes_piecesMembers (indent : Text) (mark : CodePoint) : ∀ trees : List (Text × Tree),
    holes (piecesMembers choose gap indent mark trees) = (Tree.textsMembers trees).filter choose
  | [] => rfl
  | (name, tree) :: rest => by
    rw [piecesMembers, holes, holes, holes, holes_append, holes_pieces, holes_piecesMembers,
      Tree.textsMembers, List.filter_append]

end

end

/-! ## What stands in the pieces -/

/-- A code point that printed JSON has outside of strings. -/
def isPlain (c : CodePoint) : Bool :=
  c.isDigit || (" \n[]\x7b\x7d,:+-.aeflnrstu" : Text).contains c

theorem ne_of_isPlain {c d : CodePoint} (hc : isPlain c = true) (hd : isPlain d = false) :
    c ≠ d := by
  rintro rfl
  rw [hc] at hd
  cases hd

theorem isPlain_of_isDigit {c : CodePoint} (hc : c.isDigit = true) : isPlain c = true := by
  rw [isPlain, hc, Bool.true_or]

/-- A number is digits and marks. -/
theorem IsNumber.isDigit_or_mem {t : Text} (h : IsNumber t) {c : CodePoint} (hc : c ∈ t) :
    c.isDigit = true ∨ c ∈ (".e+-" : Text) := by
  obtain ⟨negative, ds, tail, rfl, hw, ht⟩ := h
  rcases List.mem_append.1 hc with hc | hc
  · rcases List.mem_append.1 hc with hc | hc
    · cases negative with
      | true =>
        obtain rfl := List.mem_singleton.1 hc
        exact Or.inr (by decide)
      | false => cases hc
    · exact Or.inl (hw.isDigit c hc)
  · exact ht c hc

/-- Holds spaces only. -/
def IsSpaces (t : Text) : Prop := ∀ c ∈ t, c = ' '

theorem IsSpaces.append {a b : Text} (ha : IsSpaces a) (hb : IsSpaces b) : IsSpaces (a ++ b) := by
  intro c hc
  rcases List.mem_append.1 hc with hc | hc
  · exact ha c hc
  · exact hb c hc

section

variable {gap indent : Text}

theorem isBlank_lead (hg : IsSpaces gap) (hi : IsSpaces indent) {c : CodePoint}
    (hc : c ∈ lead gap indent) : c = ' ' ∨ c = Text.newline := by
  unfold lead at hc
  split at hc
  · cases hc
  · rcases List.mem_cons.1 hc with rfl | hc
    · exact Or.inr rfl
    · exact Or.inl (hi.append hg c hc)

theorem isBlank_trail (hi : IsSpaces indent) {c : CodePoint} (hc : c ∈ trail gap indent) :
    c = ' ' ∨ c = Text.newline := by
  unfold trail at hc
  split at hc
  · cases hc
  · rcases List.mem_cons.1 hc with rfl | hc
    · exact Or.inr rfl
    · exact Or.inl (hi c hc)

end

/-- The pieces hold, outside of strings, what JSON has there. -/
def IsPlainPiece : Piece → Prop
  | .plain t => ∀ c ∈ t, isPlain c = true
  | _ => True

end JsLiteral.Json
