/-!
# Texts

A text is a list of code points. A code point is a Unicode scalar value or a lone
surrogate, so a text holds everything a string of escapes can denote, also what no
UTF-8 file holds. Lengths and positions count code points.

    (ofNat n).toNat = n          for n < 0x110000              (CodePoint.toNat_ofNat)
    unlines (lines t) = t                                     (Text.unlines_lines)
-/

namespace JsLiteral

/-- A scalar value, or the surrogate `0xD800 + offset`. -/
inductive CodePoint where
  | scalar (c : Char)
  | surrogate (offset : Fin 0x800)
deriving DecidableEq, Repr, Inhabited

namespace CodePoint

instance : Coe Char CodePoint := ⟨.scalar⟩

/-- The number of a code point. -/
def toNat : CodePoint → Nat
  | scalar c => c.toNat
  | surrogate s => 0xD800 + s.val

/-- The code point with number `n`; numbers past the last one give U+0000. -/
def ofNat (n : Nat) : CodePoint :=
  if h : 0xD800 ≤ n ∧ n < 0xE000 then surrogate ⟨n - 0xD800, by omega⟩
  else scalar (Char.ofNat n)

def isSurrogate : CodePoint → Bool
  | scalar _ => false
  | surrogate _ => true

/-- The first half of a surrogate pair. -/
def isHigh (c : CodePoint) : Bool := 0xD800 ≤ c.toNat && c.toNat < 0xDC00

/-- The second half of a surrogate pair. -/
def isLow (c : CodePoint) : Bool := 0xDC00 ≤ c.toNat && c.toNat < 0xE000

theorem toNat_ofNat {n : Nat} (h : n < 0x110000) : (ofNat n).toNat = n := by
  unfold ofNat
  split
  · simp [toNat]; omega
  · rename_i hs
    have hv : n.isValidChar := by
      simp only [Nat.isValidChar]; omega
    show (Char.ofNat n).toNat = n
    rw [Char.ofNat, dif_pos hv]
    rfl

/-- A code point written as one character, where it has one. -/
def toChar? : CodePoint → Option Char
  | scalar c => some c
  | surrogate _ => none

end CodePoint

/-- A sequence of code points. -/
abbrev Text := List CodePoint

namespace Text

def ofChars (cs : List Char) : Text := cs.map .scalar

def ofString (s : String) : Text := ofChars s.toList

instance : Coe String Text := ⟨ofString⟩

/-- The string a text spells, if it holds no lone surrogate. -/
def toString? (t : Text) : Option String :=
  (t.mapM CodePoint.toChar?).map String.ofList

/-- Decimal digits of a natural number. -/
def ofNat (n : Nat) : Text := ofChars (Nat.toDigits 10 n)

/-- Decimal digits of an integer, with a minus sign if it is negative. -/
def ofInt : Int → Text
  | .ofNat n => ofNat n
  | .negSucc n => CodePoint.scalar '-' :: ofNat (n + 1)

/-- Exactly `width` lower-case hexadecimal digits, the last ones of `n`. -/
def hex (width n : Nat) : Text :=
  let digits := Nat.toDigits 16 n
  ofChars (List.replicate (width - digits.length) '0' ++ digits)

/-- `sep` between the members of a list. -/
def join (sep : Text) : List Text → Text
  | [] => []
  | first :: rest => first ++ rest.flatMap (sep ++ ·)

def newline : CodePoint := '\n'

/-- The pieces between the code points that satisfy `p`, one more than there are. -/
def splitBy (p : CodePoint → Bool) (t : Text) : List Text :=
  t.foldr (fun c acc =>
    if p c then [] :: acc
    else match acc with
      | [] => [[c]]
      | piece :: rest => (c :: piece) :: rest) [[]]

/-- The lines of a text: what stands between its line feeds. -/
def lines (t : Text) : List Text := splitBy (· == newline) t

/-- Lines put together again. -/
def unlines (ls : List Text) : Text := join [newline] ls

theorem splitBy_ne_nil (p : CodePoint → Bool) (t : Text) : splitBy p t ≠ [] := by
  cases t with
  | nil => simp [splitBy]
  | cons c t =>
    simp only [splitBy, List.foldr_cons]
    split
    · simp
    · split <;> simp

theorem splitBy_cons_of_pos {p : CodePoint → Bool} {c : CodePoint} (h : p c = true) (t : Text) :
    splitBy p (c :: t) = [] :: splitBy p t := by
  simp [splitBy, h]

theorem splitBy_cons_of_neg {p : CodePoint → Bool} {c : CodePoint} (h : p c = false)
    {t piece : Text} {rest : List Text} (ht : splitBy p t = piece :: rest) :
    splitBy p (c :: t) = (c :: piece) :: rest := by
  simp only [splitBy, List.foldr_cons, h] at ht ⊢
  rw [ht]
  simp

theorem splitBy_of_forall_neg {p : CodePoint → Bool} {t : Text} (h : ∀ c ∈ t, p c = false) :
    splitBy p t = [t] := by
  induction t with
  | nil => rfl
  | cons c t ih =>
    exact splitBy_cons_of_neg (h c List.mem_cons_self)
      (ih fun d hd => h d (List.mem_cons_of_mem c hd))

/-- Splitting adds nothing. -/
theorem mem_of_mem_splitBy {p : CodePoint → Bool} {t piece : Text} {c : CodePoint}
    (hp : piece ∈ splitBy p t) (hc : c ∈ piece) : c ∈ t := by
  induction t generalizing piece with
  | nil =>
    obtain rfl := List.mem_singleton.1 hp
    exact hc
  | cons d t ih =>
    by_cases h : p d = true
    · rw [splitBy_cons_of_pos h] at hp
      rcases List.mem_cons.1 hp with rfl | hp
      · cases hc
      · exact List.mem_cons_of_mem d (ih hp hc)
    · obtain ⟨first, rest, ht⟩ := List.exists_cons_of_ne_nil (splitBy_ne_nil p t)
      rw [splitBy_cons_of_neg (by simpa using h) ht] at hp
      rcases List.mem_cons.1 hp with rfl | hp
      · rcases List.mem_cons.1 hc with rfl | hc
        · exact List.mem_cons_self
        · exact List.mem_cons_of_mem d (ih (by rw [ht]; exact List.mem_cons_self) hc)
      · exact List.mem_cons_of_mem d (ih (by rw [ht]; exact List.mem_cons_of_mem first hp) hc)

theorem lines_nil : lines [] = [[]] := rfl

theorem lines_newline (t : Text) : lines (newline :: t) = [] :: lines t :=
  splitBy_cons_of_pos (by simp) t

theorem lines_cons {c : CodePoint} (h : c ≠ newline) {t line : Text} {rest : List Text}
    (ht : lines t = line :: rest) : lines (c :: t) = (c :: line) :: rest :=
  splitBy_cons_of_neg (by simpa using h) ht

/-- Splitting into lines loses nothing. -/
theorem unlines_lines (t : Text) : unlines (lines t) = t := by
  induction t with
  | nil => rfl
  | cons c t ih =>
    obtain ⟨line, rest, hl⟩ := List.exists_cons_of_ne_nil (splitBy_ne_nil (· == newline) t)
    have hl : lines t = line :: rest := hl
    by_cases h : c = newline
    · subst h
      rw [lines_newline, hl]
      rw [hl] at ih
      simpa [unlines, join] using ih
    · rw [lines_cons h hl]
      rw [hl] at ih
      simpa [unlines, join] using ih

end Text

end JsLiteral
