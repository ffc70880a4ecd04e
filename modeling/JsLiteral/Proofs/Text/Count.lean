import JsLiteral.Proofs.Text.Occurrences

/-!
# Counting occurrences

An occurrence does not cross a code point that the text looked for does not hold, so such a
code point cuts a text in two that are counted one by one.

    count p (a ++ s :: b) = count p a + count p b     for s ∉ p     (count_append_cons)
    count p t = 0             exactly when p is no part of t        (count_eq_zero_iff)
-/

namespace JsLiteral.Text

theorem isPrefixOf_append_cons {s : CodePoint} {p : Text} (hs : s ∉ p) (a b : Text) :
    p.isPrefixOf (a ++ s :: b) = p.isPrefixOf a := by
  induction p generalizing a with
  | nil => simp
  | cons d p ih =>
    have hds : d ≠ s := fun e => hs (e ▸ List.mem_cons_self)
    cases a with
    | nil => simp [List.isPrefixOf, hds]
    | cons c a =>
      simp only [List.cons_append, List.isPrefixOf]
      rw [ih fun h => hs (List.mem_cons_of_mem _ h)]

theorem length_le_of_isPrefixOf {p t : Text} (h : p.isPrefixOf t = true) :
    p.length ≤ t.length := by
  obtain ⟨y, rfl⟩ := isPrefixOf_iff.1 h
  rw [List.length_append]
  omega

theorem countFrom_zero_cons (p : Text) (c : CodePoint) (t : Text) :
    countFrom p 0 (c :: t) =
      if p.isPrefixOf (c :: t) then countFrom p (p.length - 1) t + 1 else countFrom p 0 t := by
  rw [countFrom]

theorem countFrom_append_cons {s : CodePoint} {p : Text} (hp : p ≠ []) (hs : s ∉ p) {a : Text}
    (b : Text) {skip : Nat} (hskip : skip ≤ a.length) :
    countFrom p skip (a ++ s :: b) = countFrom p skip a + countFrom p 0 b := by
  induction a generalizing skip with
  | nil =>
    obtain rfl : skip = 0 := Nat.le_zero.1 hskip
    obtain ⟨d, q, rfl⟩ := List.exists_cons_of_ne_nil hp
    have hds : d ≠ s := fun e => hs (e ▸ List.mem_cons_self)
    have hnot : ¬ (d :: q).isPrefixOf (s :: b) = true := by simp [List.isPrefixOf, hds]
    rw [List.nil_append, countFrom_zero_cons, if_neg hnot]
    simp [countFrom]
  | cons c a ih =>
    cases skip with
    | succ skip => exact ih (Nat.le_of_succ_le_succ hskip)
    | zero =>
      have hsame := isPrefixOf_append_cons hs (c :: a) b
      rw [List.cons_append] at hsame ⊢
      rw [countFrom_zero_cons, countFrom_zero_cons, hsame]
      split
      · rename_i hpre
        have hlen := length_le_of_isPrefixOf hpre
        rw [List.length_cons] at hlen
        rw [ih (by omega : p.length - 1 ≤ a.length)]
        omega
      · exact ih (Nat.zero_le _)

/-- A code point that `p` does not hold cuts a text in two. -/
theorem count_append_cons {s : CodePoint} {p : Text} (hp : p ≠ []) (hs : s ∉ p) (a b : Text) :
    count p (a ++ s :: b) = count p a + count p b :=
  countFrom_append_cons hp hs b (Nat.zero_le _)

theorem count_cons_of_not_mem {s : CodePoint} {p : Text} (hp : p ≠ []) (hs : s ∉ p) (t : Text) :
    count p (s :: t) = count p t := by
  have h := count_append_cons hp hs [] t
  rwa [show count p [] = 0 from rfl, Nat.zero_add] at h

/-- A text without what `p` starts with adds nothing to what follows it. -/
theorem count_append_of_not_mem {d : CodePoint} {p a : Text} (h : d ∉ a) (b : Text) :
    count (d :: p) (a ++ b) = count (d :: p) b := by
  unfold count
  induction a with
  | nil => rfl
  | cons c a ih =>
    have hdc : d ≠ c := fun e => h (e ▸ List.mem_cons_self)
    have hnot : ¬ (d :: p).isPrefixOf (c :: (a ++ b)) = true := by simp [List.isPrefixOf, hdc]
    rw [List.cons_append, countFrom_zero_cons, if_neg hnot]
    exact ih fun hm => h (List.mem_cons_of_mem _ hm)

/-- Where nothing is counted nothing stands. -/
theorem count_eq_zero_iff {p : Text} (hp : p ≠ []) {t : Text} : count p t = 0 ↔ ¬ p <:+: t := by
  unfold count
  induction t with
  | nil =>
    constructor
    · intro _ h
      exact hp (List.infix_nil.1 h)
    · intro _
      rfl
  | cons c t ih =>
    rw [List.infix_cons_iff, countFrom_zero_cons]
    split
    · rename_i hpre
      simp only [Nat.add_eq_zero_iff, Nat.one_ne_zero, and_false, false_iff, not_not]
      exact Or.inl (List.isPrefixOf_iff_prefix.1 hpre)
    · rename_i hnot
      rw [ih]
      constructor
      · rintro h (hpre | hin)
        · exact hnot (List.isPrefixOf_iff_prefix.2 hpre)
        · exact h hin
      · intro h hin
        exact h (Or.inr hin)

theorem countFrom_skip (p a t : Text) : countFrom p a.length (a ++ t) = countFrom p 0 t := by
  induction a with
  | nil => rfl
  | cons c a ih => exact ih

/-- An occurrence at the start is counted, and counting goes on after it. -/
theorem count_append_self {p : Text} (hp : p ≠ []) (t : Text) :
    count p (p ++ t) = count p t + 1 := by
  obtain ⟨c, p, rfl⟩ := List.exists_cons_of_ne_nil hp
  have hpre : (c :: p).isPrefixOf (c :: (p ++ t)) = true := isPrefixOf_iff.2 ⟨t, rfl⟩
  unfold count
  rw [List.cons_append, countFrom_zero_cons, if_pos hpre, List.length_cons, Nat.add_sub_cancel,
    countFrom_skip]

end JsLiteral.Text
