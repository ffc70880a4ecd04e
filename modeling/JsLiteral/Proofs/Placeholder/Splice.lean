import JsLiteral.Conversion
import JsLiteral.Proofs.Placeholder.Literal

/-!
# Splicing one after another and all at once

Literals are put into code one placeholder after another, each by a search in what the
earlier ones left. `substitute` puts them in at once, at the places and with the
indentation that the code had at first. The two agree as long as no place overlaps another
and no literal holds the token of a later one.

    spliceFrom options marker 0 waiting code  answers  substitute … code    (spliceFrom_run)
-/

namespace JsLiteral.Placeholder

open Text Template

/-! ## All at once -/

/-- Which of the tokens with numbers in `is` stands in quotes at the start of a text, and the
quoted token. -/
def standing? (marker : Text) (is : List Nat) (t : Text) : Option (Nat × Text) :=
  is.findSome? fun i =>
    if (between '"' (token marker i)).isPrefixOf t then some (i, between '"' (token marker i))
    else if (between '\'' (token marker i)).isPrefixOf t then
      some (i, between '\'' (token marker i))
    else none

/-- The code after `before` with every quoted token replaced: `put i w` takes the place of
token `i` on a line indented by `w`, lines being those of the code as given. `skip` code
points belong to the token replaced last. -/
def substituteFrom (marker : Text) (is : List Nat) (put : Nat → Text → Text) :
    Text → Nat → Text → Text
  | _, _, [] => []
  | before, skip + 1, c :: t => substituteFrom marker is put (before ++ [c]) skip t
  | before, 0, c :: t =>
    match standing? marker is (c :: t) with
    | some (i, quoted) =>
      put i (lastLine before).indentation
        ++ substituteFrom marker is put (before ++ [c]) (quoted.length - 1) t
    | none => c :: substituteFrom marker is put (before ++ [c]) 0 t

/-- The code with all quoted tokens of the numbers in `is` replaced at once. -/
def substitute (marker : Text) (is : List Nat) (put : Nat → Text → Text) (code : Text) : Text :=
  substituteFrom marker is put [] 0 code

/-! ## Which token stands at a place -/

theorem standing?_eq_none_iff {marker t : Text} {is : List Nat} :
    standing? marker is t = none ↔
      ∀ i ∈ is, ∀ q y, IsQuoted (token marker i) q → t ≠ q ++ y := by
  rw [standing?, List.findSome?_eq_none_iff]
  refine forall_congr' fun i => imp_congr_right fun _ => ?_
  constructor
  · rintro h q y ⟨mark, rfl | rfl, rfl⟩ rfl
    · simp [isPrefixOf_iff.2 ⟨y, rfl⟩] at h
    · have : (between '\'' (token marker i)).isPrefixOf
          (between '\'' (token marker i) ++ y) = true := isPrefixOf_iff.2 ⟨y, rfl⟩
      rw [if_pos this] at h
      split at h <;> cases h
  · intro h
    have h1 : ¬ (between '"' (token marker i)).isPrefixOf t = true := by
      intro hp
      obtain ⟨y, hy⟩ := isPrefixOf_iff.1 hp
      exact h _ y ⟨'"', Or.inl rfl, rfl⟩ hy
    have h2 : ¬ (between '\'' (token marker i)).isPrefixOf t = true := by
      intro hp
      obtain ⟨y, hy⟩ := isPrefixOf_iff.1 hp
      exact h _ y ⟨'\'', Or.inr rfl, rfl⟩ hy
    rw [if_neg h1, if_neg h2]

theorem of_standing?_eq_some {marker t q : Text} {is : List Nat} {i : Nat}
    (h : standing? marker is t = some (i, q)) :
    i ∈ is ∧ IsQuoted (token marker i) q ∧ ∃ y, t = q ++ y := by
  obtain ⟨j, hj, hq⟩ := List.exists_of_findSome?_eq_some h
  split at hq
  · rename_i hp
    cases hq
    exact ⟨hj, ⟨'"', Or.inl rfl, rfl⟩, isPrefixOf_iff.1 hp⟩
  · split at hq
    · rename_i hp
      cases hq
      exact ⟨hj, ⟨'\'', Or.inr rfl, rfl⟩, isPrefixOf_iff.1 hp⟩
    · cases hq

theorem standing?_eq_some {marker q : Text} {is : List Nat} {i : Nat} (hi : i ∈ is)
    (hq : IsQuoted (token marker i) q) (y : Text) :
    standing? marker is (q ++ y) = some (i, q) := by
  cases h : standing? marker is (q ++ y) with
  | none => exact absurd rfl (standing?_eq_none_iff.1 h i hi q y hq)
  | some p =>
    obtain ⟨j, q'⟩ := p
    obtain ⟨-, hq', y', hy'⟩ := of_standing?_eq_some h
    obtain ⟨rfl, rfl⟩ := token_unique hq hq' hy'
    rfl

/-! ## Substitution piece by piece -/

section

variable {marker : Text} {is js : List Nat} {put : Nat → Text → Text}

theorem substituteFrom_skip (a t before : Text) :
    substituteFrom marker is put before a.length (a ++ t) =
      substituteFrom marker is put (before ++ a) 0 t := by
  induction a generalizing before with
  | nil => rw [List.append_nil]; rfl
  | cons c a ih =>
    rw [List.length_cons, List.cons_append, substituteFrom, ih, List.append_assoc]
    rfl

/-- A quoted token is replaced. -/
theorem substituteFrom_token {i : Nat} (hi : i ∈ is) {q : Text}
    (hq : IsQuoted (token marker i) q) (before t : Text) :
    substituteFrom marker is put before 0 (q ++ t) =
      put i (lastLine before).indentation ++ substituteFrom marker is put (before ++ q) 0 t := by
  have hs := standing?_eq_some hi hq t
  obtain ⟨mark, -, rfl⟩ := hq
  simp only [between, List.cons_append] at hs ⊢
  rw [substituteFrom, hs]
  have hskip : substituteFrom marker is put (before ++ [mark]) (token marker i ++ [mark]).length
        (token marker i ++ [mark] ++ t) =
      substituteFrom marker is put (before ++ [mark] ++ (token marker i ++ [mark])) 0 t :=
    substituteFrom_skip _ _ _
  simp only [List.append_assoc, List.singleton_append] at hskip
  simp only [List.length_cons, Nat.add_sub_cancel, List.append_assoc, List.singleton_append]
  rw [hskip]

/-- Code in which no token stands is kept. -/
theorem substituteFrom_append {a t : Text}
    (h : ∀ b r, a = b ++ r → r ≠ [] → standing? marker is (r ++ t) = none) (before : Text) :
    substituteFrom marker is put before 0 (a ++ t) =
      a ++ substituteFrom marker is put (before ++ a) 0 t := by
  induction a generalizing before with
  | nil => rw [List.append_nil]; rfl
  | cons c a ih =>
    have hnone : standing? marker is (c :: (a ++ t)) = none := h [] (c :: a) rfl (by simp)
    rw [List.cons_append, substituteFrom, hnone]
    simp only
    rw [ih (fun b r hr => h (c :: b) r (by rw [hr]; rfl)), List.append_assoc]
    rfl

/-- Before a place where two codes differ the same tokens are replaced in both, if the same
ones stand in both and end before that place. -/
theorem exists_substituteFrom_append {a t u : Text}
    (h : ∀ b r, a = b ++ r → r ≠ [] →
      standing? marker is (r ++ t) = standing? marker js (r ++ u) ∧
        ∀ i q, standing? marker is (r ++ t) = some (i, q) → q.length ≤ r.length)
    (before : Text) {skip : Nat} (hskip : skip ≤ a.length) :
    ∃ v, substituteFrom marker is put before skip (a ++ t) =
        v ++ substituteFrom marker is put (before ++ a) 0 t ∧
      substituteFrom marker js put before skip (a ++ u) =
        v ++ substituteFrom marker js put (before ++ a) 0 u := by
  induction a generalizing before skip with
  | nil =>
    obtain rfl : skip = 0 := Nat.le_zero.1 hskip
    exact ⟨[], by simp, by simp⟩
  | cons c a ih =>
    have hrest := ih fun b r hr => h (c :: b) r (by rw [hr]; rfl)
    have hassoc : before ++ [c] ++ a = before ++ c :: a := by simp
    cases skip with
    | succ skip =>
      obtain ⟨v, h1, h2⟩ := hrest (before ++ [c]) (Nat.le_of_succ_le_succ hskip : skip ≤ a.length)
      rw [hassoc] at h1 h2
      exact ⟨v, by rw [List.cons_append, substituteFrom, h1],
        by rw [List.cons_append, substituteFrom, h2]⟩
    | zero =>
      obtain ⟨hsame, hlen⟩ := h [] (c :: a) rfl (by simp)
      rw [List.cons_append, List.cons_append] at hsame
      rw [List.cons_append] at hlen
      cases hs : standing? marker is (c :: (a ++ t)) with
      | none =>
        obtain ⟨v, h1, h2⟩ := hrest (before ++ [c]) (Nat.zero_le _ : 0 ≤ a.length)
        rw [hassoc] at h1 h2
        refine ⟨c :: v, ?_, ?_⟩
        · rw [List.cons_append, substituteFrom, hs]
          simp only [h1, List.cons_append]
        · rw [List.cons_append, substituteFrom, ← hsame, hs]
          simp only [h2, List.cons_append]
      | some p =>
        obtain ⟨i, q⟩ := p
        have hq := hlen i q hs
        rw [List.length_cons] at hq
        obtain ⟨v, h1, h2⟩ := hrest (before ++ [c])
          (by omega : q.length - 1 ≤ a.length)
        rw [hassoc] at h1 h2
        refine ⟨put i (lastLine before).indentation ++ v, ?_, ?_⟩
        · rw [List.cons_append, substituteFrom, hs]
          simp only [h1, List.append_assoc]
        · rw [List.cons_append, substituteFrom, ← hsame, hs]
          simp only [h2, List.append_assoc]

/-- After the last place where two codes differ the same is replaced in both, if the lines
are indented alike. -/
theorem substituteFrom_congr {y before before' : Text} (skip : Nat)
    (hs : ∀ b r, y = b ++ r → r ≠ [] → standing? marker is r = standing? marker js r)
    (hi : ∀ b r, y = b ++ r →
      (lastLine (before ++ b)).indentation = (lastLine (before' ++ b)).indentation) :
    substituteFrom marker is put before skip y = substituteFrom marker js put before' skip y := by
  induction y generalizing before before' skip with
  | nil => rfl
  | cons c y ih =>
    have hrest : ∀ skip, substituteFrom marker is put (before ++ [c]) skip y =
        substituteFrom marker js put (before' ++ [c]) skip y := by
      intro skip
      refine ih skip (fun b r hr => hs (c :: b) r (by rw [hr]; rfl)) fun b r hr => ?_
      have := hi (c :: b) r (by rw [hr]; rfl)
      simpa using this
    have hsame := hs [] (c :: y) rfl (by simp)
    have hindent : (lastLine before).indentation = (lastLine before').indentation := by
      simpa using hi [] (c :: y) rfl
    cases skip with
    | succ skip => rw [substituteFrom, substituteFrom, hrest]
    | zero =>
      rw [substituteFrom, substituteFrom, ← hsame, hindent]
      cases standing? marker is (c :: y) with
      | none => simp only [hrest]
      | some p => simp only [hrest]

end

end JsLiteral.Placeholder
