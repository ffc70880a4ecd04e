import JsLiteral.Text

/-!
# Searching and replacing

The first occurrence of one text in another, the number of occurrences that do not
overlap, taken from the left, and replacement of all of these.

    find? p t = some i → (t.drop i).take p.length = p          (find?_eq_some)
-/

namespace JsLiteral.Text

/-! ## Algorithm -/

/-- The position of the first occurrence of `p`. -/
def find? (p : Text) : Text → Option Nat
  | [] => if p.isEmpty then some 0 else none
  | c :: t => if p.isPrefixOf (c :: t) then some 0 else (find? p t).map (· + 1)

/-- Occurrences of `p` that do not overlap, counted from the left; `skip` code points
belong to the occurrence counted last. -/
def countFrom (p : Text) : Nat → Text → Nat
  | _, [] => 0
  | skip + 1, _ :: t => countFrom p skip t
  | 0, c :: t =>
    if p.isPrefixOf (c :: t) then countFrom p (p.length - 1) t + 1 else countFrom p 0 t

/-- How often the non-empty text `p` occurs without overlap. -/
def count (p t : Text) : Nat := countFrom p 0 t

/-- Replaces the occurrences that `countFrom` counts. -/
def replaceFrom (p q : Text) : Nat → Text → Text
  | _, [] => []
  | skip + 1, _ :: t => replaceFrom p q skip t
  | 0, c :: t =>
    if p.isPrefixOf (c :: t) then q ++ replaceFrom p q (p.length - 1) t
    else c :: replaceFrom p q 0 t

/-- Every occurrence of `p` becomes `q`. The empty text occurs before every code point
and at the end. -/
def replace (p q t : Text) : Text :=
  if p.isEmpty then q ++ t.flatMap (fun c => c :: q) else replaceFrom p q 0 t

/-- What stands after the last line feed of a text. -/
def lastLine (t : Text) : Text :=
  (t.reverse.takeWhile (· ≠ newline)).reverse

/-- Drops from both ends the code points that satisfy `p`. -/
def strip (p : CodePoint → Bool) (t : Text) : Text :=
  ((t.dropWhile p).reverse.dropWhile p).reverse

/-! ## Lemmas -/

theorem find?_eq_some {p t : Text} {i : Nat} (h : find? p t = some i) :
    i + p.length ≤ t.length ∧ (t.drop i).take p.length = p := by
  induction t generalizing i with
  | nil =>
    simp only [find?] at h
    split at h
    · rename_i hp
      simp only [List.isEmpty_iff] at hp
      cases h
      simp [hp]
    · simp at h
  | cons c t ih =>
    simp only [find?] at h
    split at h
    · rename_i hp
      cases h
      have hpre := List.isPrefixOf_iff_prefix.1 hp
      refine ⟨by simpa using hpre.length_le, ?_⟩
      simpa using (List.prefix_iff_eq_take.1 hpre).symm
    · obtain ⟨j, hj, rfl⟩ := Option.map_eq_some_iff.1 h
      obtain ⟨h1, h2⟩ := ih hj
      exact ⟨by simp only [List.length_cons]; omega, by simpa using h2⟩

end JsLiteral.Text
