import JsLiteral.Proofs.Text.Lines
import JsLiteral.Text.Search

/-!
# Occurrences

Where one text occurs in another, as a way to cut the other in three. An occurrence does not
cross a code point that it does not hold, and what `find?` gives is the first one.

    find? p t = some i    exactly when the first occurrence is at i    (find?_eq_some_iff)
    find? p t = none      exactly when there is none                   (find?_eq_none_iff)
-/

namespace JsLiteral.Text

/-! ## Occurrences and separators -/

/-- An occurrence in `a ++ s :: b` of a text without `s` lies in `a` or in `b`. -/
theorem cut_at_separator {s : CodePoint} {x q y a b : Text} (hs : s ∉ q)
    (h : x ++ q ++ y = a ++ s :: b) :
    (∃ z, a = x ++ q ++ z ∧ y = z ++ s :: b) ∨ ∃ z, x = a ++ s :: z ∧ b = z ++ q ++ y := by
  rcases List.append_eq_append_iff.1 h with ⟨z, h1, h2⟩ | ⟨z, h1, h2⟩
  · exact Or.inl ⟨z, h1, h2⟩
  · cases z with
    | nil => exact Or.inl ⟨[], by simp [h1], h2.symm⟩
    | cons d z =>
      obtain ⟨rfl, rfl⟩ := List.cons.inj h2
      rcases List.append_eq_append_iff.1 h1 with ⟨u, -, h4⟩ | ⟨u, h3, h4⟩
      · exact absurd (h4 ▸ List.mem_append_right u List.mem_cons_self) hs
      · cases u with
        | nil =>
          rw [List.nil_append] at h4
          exact absurd (h4 ▸ List.mem_cons_self) hs
        | cons d u =>
          obtain ⟨rfl, rfl⟩ := List.cons.inj h4
          exact Or.inr ⟨u, h3, rfl⟩

/-- An occurrence that ends with a code point `m` does not end in a text without `m`. -/
theorem cut_before_tail {m : CodePoint} {x p y a z : Text} (hm : m ∉ z)
    (h : x ++ (p ++ [m]) ++ y = a ++ z) : ∃ u, a = x ++ (p ++ [m]) ++ u ∧ y = u ++ z := by
  rcases List.append_eq_append_iff.1 h with ⟨u, h1, h2⟩ | ⟨u, h1, h2⟩
  · exact ⟨u, h1, h2⟩
  · rcases List.eq_nil_or_concat u with rfl | ⟨v, d, rfl⟩
    · exact ⟨[], by simpa using h1.symm, by simpa using h2.symm⟩
    · rw [List.concat_eq_append, ← List.append_assoc, ← List.append_assoc] at h1
      obtain ⟨-, he⟩ := List.append_inj' h1 rfl
      obtain ⟨rfl, -⟩ := List.cons.inj he
      exact absurd (h2 ▸ by simp) hm

/-- An occurrence that starts with a code point `m` does not start in a text without `m`. -/
theorem cut_after_head {m : CodePoint} {x p y z b : Text} (hm : m ∉ z)
    (h : x ++ m :: p ++ y = z ++ b) : ∃ u, x = z ++ u ∧ b = u ++ m :: p ++ y := by
  rw [List.append_assoc] at h
  rcases List.append_eq_append_iff.1 h with ⟨u, h1, h2⟩ | ⟨u, h1, h2⟩
  · cases u with
    | nil => exact ⟨[], by simpa using h1.symm, by simpa using h2.symm⟩
    | cons d u =>
      obtain ⟨rfl, -⟩ := List.cons.inj h2
      exact absurd (h1 ▸ by simp) hm
  · exact ⟨u, h1, by rw [h2, List.append_assoc]⟩

/-- Two cuts of a text at occurrences that do not overlap. -/
theorem cut_of_le {x q y x' r : Text} (h : x ++ q ++ y = x' ++ r)
    (hle : x.length + q.length ≤ x'.length) : ∃ u, x' = x ++ q ++ u ∧ y = u ++ r := by
  rcases List.append_eq_append_iff.1 h with ⟨u, h1, h2⟩ | ⟨u, h1, h2⟩
  · exact ⟨u, h1, h2⟩
  · have hlen := congrArg List.length h1
    simp only [List.length_append] at hlen
    obtain rfl : u = [] := List.eq_nil_of_length_eq_zero (by omega)
    exact ⟨[], by simpa using h1.symm, by simpa using h2.symm⟩

/-- The last code point of a text that ends with another text stands in that one. -/
theorem cut_last {m : CodePoint} {x p s : Text} (hs : s ≠ []) (h : x ++ [m] = p ++ s) :
    ∃ u, x = p ++ u ∧ s = u ++ [m] := by
  rcases List.eq_nil_or_concat s with rfl | ⟨u, d, rfl⟩
  · exact absurd rfl hs
  · rw [List.concat_eq_append, ← List.append_assoc] at h
    obtain ⟨rfl, hd⟩ := List.append_inj' h rfl
    obtain ⟨rfl, -⟩ := List.cons.inj hd
    exact ⟨u, rfl, List.concat_eq_append⟩

/-! ## Searching -/

theorem isPrefixOf_iff {p t : Text} : p.isPrefixOf t = true ↔ ∃ y, t = p ++ y := by
  rw [List.isPrefixOf_iff_prefix]
  exact ⟨fun ⟨y, h⟩ => ⟨y, h.symm⟩, fun ⟨y, h⟩ => ⟨y, h.symm⟩⟩

theorem find?_cons (p : Text) (c : CodePoint) (t : Text) :
    find? p (c :: t) = if p.isPrefixOf (c :: t) then some 0 else (find? p t).map (· + 1) := rfl

theorem find?_eq_none_iff {p t : Text} : find? p t = none ↔ ∀ x y, t ≠ x ++ p ++ y := by
  induction t with
  | nil =>
    cases p with
    | nil => simp [find?]
    | cons d p => simp [find?]
  | cons c t ih =>
    rw [find?_cons]
    constructor
    · intro h x y he
      split at h
      · cases h
      · rename_i hp
        cases x with
        | nil => exact hp (isPrefixOf_iff.2 ⟨y, he⟩)
        | cons d x =>
          obtain ⟨rfl, rfl⟩ := List.cons.inj he
          exact ih.1 (Option.map_eq_none_iff.1 h) x y rfl
    · intro h
      have hp : ¬ p.isPrefixOf (c :: t) = true := by
        intro hp
        obtain ⟨y, hy⟩ := isPrefixOf_iff.1 hp
        exact h [] y hy
      rw [if_neg hp, Option.map_eq_none_iff]
      exact ih.2 fun x y he => h (c :: x) y (by rw [he]; rfl)

/-- What `find?` gives is the position of an occurrence, and no other one starts before. -/
theorem find?_eq_some_iff {p t : Text} {i : Nat} :
    find? p t = some i ↔ (∃ x y, t = x ++ p ++ y ∧ x.length = i) ∧
      ∀ x y, t = x ++ p ++ y → i ≤ x.length := by
  induction t generalizing i with
  | nil =>
    cases p with
    | nil => simp [find?, eq_comm]
    | cons d p => simp [find?]
  | cons c t ih =>
    rw [find?_cons]
    by_cases hp : p.isPrefixOf (c :: t) = true
    · rw [if_pos hp]
      obtain ⟨y, hy⟩ := isPrefixOf_iff.1 hp
      constructor
      · intro h
        cases h
        exact ⟨⟨[], y, hy, rfl⟩, fun _ _ _ => Nat.zero_le _⟩
      · rintro ⟨-, hmin⟩
        have := hmin [] y hy
        rw [Option.some.injEq]
        exact (Nat.le_zero.1 this).symm
    · rw [if_neg hp, Option.map_eq_some_iff]
      have hnil : ∀ y, c :: t ≠ [] ++ p ++ y := fun y he => hp (isPrefixOf_iff.2 ⟨y, he⟩)
      constructor
      · rintro ⟨j, hj, rfl⟩
        obtain ⟨⟨x, y, hxy, hlen⟩, hmin⟩ := ih.1 hj
        refine ⟨⟨c :: x, y, by rw [hxy]; rfl, by rw [List.length_cons, hlen]⟩, ?_⟩
        intro x' y' he
        cases x' with
        | nil => exact absurd he (hnil y')
        | cons d x' =>
          obtain ⟨-, he⟩ := List.cons.inj he
          exact Nat.succ_le_succ (hmin x' y' he)
      · rintro ⟨⟨x, y, he, hlen⟩, hmin⟩
        cases x with
        | nil => exact absurd he (hnil y)
        | cons d x =>
          obtain ⟨-, he⟩ := List.cons.inj he
          refine ⟨x.length, ih.2 ⟨⟨x, y, he, rfl⟩, fun x' y' he' => ?_⟩, hlen⟩
          have := hmin (c :: x') y' (by rw [he']; rfl)
          rw [← hlen, List.length_cons, List.length_cons] at this
          omega

end JsLiteral.Text
