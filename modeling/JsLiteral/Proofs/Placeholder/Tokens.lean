import JsLiteral.Placeholder
import JsLiteral.Proofs.Text.Digits
import JsLiteral.Proofs.Text.Occurrences
import Mathlib.Data.Nat.Find

/-!
# Quoted tokens

Where the token of a placeholder stands in quotes, and what the search for it gives. The
closing quote keeps tokens apart that start alike: at one place at most one number stands.

    find? token code = some (p, q)    exactly at the first place          (find?_eq_some_iff)
    find? token code = none           exactly when there is no place      (find?_eq_none_iff)
    tokens with two numbers never stand at one place                      (StandsAt.number_unique)
    both for the tokens of one marker                                     (search_quoted_token)
-/

namespace JsLiteral

namespace Text

/-- What stands before the first `s` is determined. -/
theorem eq_of_append_separator {s : CodePoint} {a a' b b' : Text} (ha : s ∉ a) (ha' : s ∉ a')
    (h : a ++ s :: b = a' ++ s :: b') : a = a' := by
  rcases cut_at_separator (x := []) ha h with ⟨z, h1, h2⟩ | ⟨z, h1, -⟩
  · cases z with
    | nil => rw [h1, List.nil_append, List.append_nil]
    | cons d z =>
      obtain ⟨rfl, -⟩ := List.cons.inj h2
      exact absurd (h1 ▸ by simp) ha'
  · simp at h1

end Text

namespace Placeholder

open Text

/-! ## Places -/

/-- A double or a single quote. -/
def IsQuote (c : CodePoint) : Prop := c = '"' ∨ c = '\''

instance {c : CodePoint} : Decidable (IsQuote c) :=
  inferInstanceAs (Decidable (c = '"' ∨ c = '\''))

/-- The token between two quotes of one kind. -/
def IsQuoted (token q : Text) : Prop := ∃ mark, IsQuote mark ∧ q = between mark token

/-- The quoted token stands at position `p` of the code. -/
def StandsAt (token code : Text) (p : Nat) : Prop :=
  ∃ x q y, code = x ++ q ++ y ∧ x.length = p ∧ IsQuoted token q

theorem IsQuoted.length_eq {token q : Text} (h : IsQuoted token q) :
    q.length = token.length + 2 := by
  obtain ⟨mark, -, rfl⟩ := h
  simp [between]

theorem between_length (mark : CodePoint) (token : Text) :
    (between mark token).length = token.length + 2 := by
  simp [between]

theorem IsQuote.isIndent_eq_false {c : CodePoint} (h : IsQuote c) : c.isIndent = false := by
  rcases h with rfl | rfl
  · decide
  · decide

theorem IsQuote.ne_newline {c : CodePoint} (h : IsQuote c) : c ≠ newline := by
  rcases h with rfl | rfl
  · decide
  · decide

theorem IsQuote.not_mem_of_isIndent {c : CodePoint} (h : IsQuote c) {w : Text}
    (hw : IsIndent w) : c ∉ w := by
  intro hc
  have := hw c hc
  rw [h.isIndent_eq_false] at this
  cases this

theorem IsQuote.not_mem_ofNat {c : CodePoint} (h : IsQuote c) (n : Nat) : c ∉ ofNat n := by
  rcases h with rfl | rfl
  · exact Text.not_mem_ofNat (by decide) n
  · exact Text.not_mem_ofNat (by decide) n

theorem not_mem_token {marker : Text} {c : Char} (hm : CodePoint.scalar c ∉ marker)
    (hc : c.isDigit = false) (i : Nat) : CodePoint.scalar c ∉ token marker i := by
  intro h
  rcases List.mem_append.1 h with h | h
  · exact hm h
  · exact not_mem_ofNat hc i h

theorem IsQuoted.not_mem {token q : Text} {c : CodePoint} (h : IsQuoted token q)
    (hc : c ∉ token) (hq : ¬ IsQuote c) : c ∉ q := by
  obtain ⟨mark, hmark, rfl⟩ := h
  have hne : c ≠ mark := fun e => hq (e ▸ hmark)
  simp [between, hc, hne]

theorem standsAt_iff {token code : Text} {p : Nat} :
    StandsAt token code p ↔ p < code.length ∧
      ((between '"' token).isPrefixOf (code.drop p) = true ∨
        (between '\'' token).isPrefixOf (code.drop p) = true) := by
  have hcut : ∀ {y : Text} {mark : CodePoint}, code.drop p = between mark token ++ y →
      code = code.take p ++ between mark token ++ y ∧ p < code.length := by
    intro y mark h
    refine ⟨by rw [List.append_assoc, ← h, List.take_append_drop], ?_⟩
    have := congrArg List.length h
    rw [List.length_drop, List.length_append, between_length] at this
    omega
  constructor
  · rintro ⟨x, q, y, rfl, rfl, mark, hmark, rfl⟩
    rw [List.append_assoc, List.drop_left]
    refine ⟨by simp only [List.length_append, between_length]; omega, ?_⟩
    rcases hmark with rfl | rfl
    · exact Or.inl (isPrefixOf_iff.2 ⟨y, rfl⟩)
    · exact Or.inr (isPrefixOf_iff.2 ⟨y, rfl⟩)
  · rintro ⟨hp, h | h⟩
    · obtain ⟨y, hy⟩ := isPrefixOf_iff.1 h
      exact ⟨_, _, y, (hcut hy).1, List.length_take_of_le hp.le, '"', Or.inl rfl, rfl⟩
    · obtain ⟨y, hy⟩ := isPrefixOf_iff.1 h
      exact ⟨_, _, y, (hcut hy).1, List.length_take_of_le hp.le, '\'', Or.inr rfl, rfl⟩

instance {token code : Text} {p : Nat} : Decidable (StandsAt token code p) :=
  decidable_of_iff _ standsAt_iff.symm

theorem StandsAt.lt {token code : Text} {p : Nat} (h : StandsAt token code p) : p < code.length :=
  (standsAt_iff.1 h).1

/-- A token that stands somewhere stands at a first place. -/
theorem exists_first {token code : Text} (h : ∃ p, StandsAt token code p) :
    ∃ x q y, code = x ++ q ++ y ∧ IsQuoted token q ∧
      ∀ p, StandsAt token code p → x.length ≤ p := by
  obtain ⟨x, q, y, he, hx, hq⟩ := Nat.find_spec h
  refine ⟨x, q, y, he, hq, fun p hp => ?_⟩
  rw [hx]
  exact Nat.find_min' h hp

/-- At one place stands the token of one number only. -/
theorem token_unique {marker q q' y y' : Text} {i j : Nat} (h : IsQuoted (token marker i) q)
    (h' : IsQuoted (token marker j) q') (he : q ++ y = q' ++ y') : i = j ∧ q = q' := by
  obtain ⟨mark, hmark, rfl⟩ := h
  obtain ⟨mark', hmark', rfl⟩ := h'
  simp only [between, token, List.cons_append, List.append_assoc, List.nil_append] at he
  obtain ⟨rfl, he⟩ := List.cons.inj he
  have hd := eq_of_append_separator (hmark.not_mem_ofNat i) (hmark.not_mem_ofNat j)
    (List.append_cancel_left he)
  obtain rfl := ofNat_injective hd
  exact ⟨rfl, rfl⟩

/-! ## Searching -/

theorem find?_eq_none_iff {token code : Text} :
    find? token code = none ↔ ∀ p, ¬ StandsAt token code p := by
  have hiff : (∀ p, ¬ StandsAt token code p) ↔
      Text.find? (between '"' token) code = none ∧
        Text.find? (between '\'' token) code = none := by
    rw [Text.find?_eq_none_iff, Text.find?_eq_none_iff]
    constructor
    · intro h
      exact ⟨fun x y he => h _ ⟨x, _, y, he, rfl, '"', Or.inl rfl, rfl⟩,
        fun x y he => h _ ⟨x, _, y, he, rfl, '\'', Or.inr rfl, rfl⟩⟩
    · rintro ⟨h1, h2⟩ p ⟨x, q, y, he, -, mark, rfl | rfl, rfl⟩
      · exact h1 x y he
      · exact h2 x y he
  rw [hiff, find?]
  cases Text.find? (between '"' token) code with
  | none => cases Text.find? (between '\'' token) code <;> simp
  | some i =>
    cases Text.find? (between '\'' token) code with
    | none => simp
    | some j => by_cases hji : j < i <;> simp [hji]

/-- The search gives the first place, of either quote. -/
theorem find?_eq_some {token code x q y : Text} (he : code = x ++ q ++ y)
    (hq : IsQuoted token q) (hfirst : ∀ p, StandsAt token code p → x.length ≤ p) :
    find? token code = some (x.length, q) := by
  have hfind : ∀ {mark : CodePoint} {i : Nat}, IsQuote mark →
      Text.find? (between mark token) code = some i →
        x.length ≤ i ∧ (x.length = i → q = between mark token) := by
    intro mark i hmark hi
    obtain ⟨⟨u, v, huv, hu⟩, -⟩ := Text.find?_eq_some_iff.1 hi
    refine ⟨hfirst i ⟨u, _, v, huv, hu, mark, hmark, rfl⟩, fun hxi => ?_⟩
    rw [he, List.append_assoc, List.append_assoc] at huv
    obtain ⟨-, hqv⟩ := List.append_inj huv (hxi.trans hu.symm)
    refine (List.append_inj hqv ?_).1
    rw [hq.length_eq, between_length]
  have hat : ∀ {mark : CodePoint}, q = between mark token →
      ∃ i, Text.find? (between mark token) code = some i ∧ i ≤ x.length := by
    intro mark hm
    cases hf : Text.find? (between mark token) code with
    | none => exact absurd (hm ▸ he) (Text.find?_eq_none_iff.1 hf x y)
    | some i => exact ⟨i, rfl, (Text.find?_eq_some_iff.1 hf).2 x y (hm ▸ he)⟩
  have hne : between '"' token ≠ between '\'' token := by
    intro h
    exact absurd (List.cons.inj h).1 (by decide)
  obtain ⟨mark, rfl | rfl, hm⟩ := hq
  · obtain ⟨i, hi, hix⟩ := hat hm
    obtain ⟨hxi, -⟩ := hfind (Or.inl rfl) hi
    obtain rfl : x.length = i := by omega
    rw [find?, hi]
    cases hj : Text.find? (between '\'' token) code with
    | none => simp [hm]
    | some j =>
      obtain ⟨hxj, hj'⟩ := hfind (Or.inr rfl) hj
      have hlt : ¬ j < x.length := by omega
      simp [hlt, hm]
  · obtain ⟨j, hj, hjx⟩ := hat hm
    obtain ⟨hxj, -⟩ := hfind (Or.inr rfl) hj
    obtain rfl : x.length = j := by omega
    rw [find?, hj]
    cases hi : Text.find? (between '"' token) code with
    | none => simp [hm]
    | some i =>
      obtain ⟨hxi, hi'⟩ := hfind (Or.inl rfl) hi
      have hlt : x.length < i := by
        rcases Nat.lt_or_eq_of_le hxi with h | h
        · exact h
        · exact absurd ((hi' h).symm.trans hm) hne
      simp [hlt, hm]

/-- What the search gives is the least position at which the token stands in either kind of
quotes, and the quoted token that stands there. -/
theorem find?_eq_some_iff {token code q : Text} {p : Nat} :
    find? token code = some (p, q) ↔
      (∃ x y, code = x ++ q ++ y ∧ x.length = p ∧ IsQuoted token q) ∧
        ∀ p', StandsAt token code p' → p ≤ p' := by
  constructor
  · intro h
    have hstands : ∃ p', StandsAt token code p' := by
      by_contra hnone
      have := find?_eq_none_iff.2 fun p' hp' => hnone ⟨p', hp'⟩
      rw [this] at h
      cases h
    obtain ⟨x, q', y, hcut, hq', hfirst⟩ := exists_first hstands
    rw [find?_eq_some hcut hq' hfirst, Option.some.injEq, Prod.mk.injEq] at h
    obtain ⟨rfl, rfl⟩ := h
    exact ⟨⟨x, y, hcut, rfl, hq'⟩, hfirst⟩
  · rintro ⟨⟨x, y, hcut, rfl, hq⟩, hfirst⟩
    exact find?_eq_some hcut hq hfirst

/-! ## The tokens of one marker -/

/-- At no position do the tokens of two numbers stand. -/
theorem StandsAt.number_unique {marker code : Text} {i j p : Nat}
    (hi : StandsAt (token marker i) code p) (hj : StandsAt (token marker j) code p) : i = j := by
  obtain ⟨x, q, y, hcut, hx, hq⟩ := hi
  obtain ⟨x', q', y', hcut', hx', hq'⟩ := hj
  rw [hcut, List.append_assoc, List.append_assoc] at hcut'
  obtain ⟨-, hrest⟩ := List.append_inj hcut' (hx.trans hx'.symm)
  exact (token_unique hq hq' hrest).1

/-- The search for the token of a number gives nothing exactly if the token stands nowhere in
quotes, and else its first place. Where the token of another number stands it never stands, so
that place is never given, whatever the marker ends in or holds. -/
theorem search_quoted_token (marker code : Text) (i : Nat) :
    (find? (token marker i) code = none ↔ ∀ p, ¬ StandsAt (token marker i) code p) ∧
      (∀ p q, find? (token marker i) code = some (p, q) ↔
        (∃ x y, code = x ++ q ++ y ∧ x.length = p ∧ IsQuoted (token marker i) q) ∧
          ∀ p', StandsAt (token marker i) code p' → p ≤ p') ∧
      ∀ j, j ≠ i →
        (∀ p, StandsAt (token marker i) code p → ¬ StandsAt (token marker j) code p) ∧
        ∀ p q, find? (token marker i) code = some (p, q) → ¬ StandsAt (token marker j) code p := by
  refine ⟨find?_eq_none_iff, fun p q => find?_eq_some_iff, fun j hj => ⟨?_, ?_⟩⟩
  · intro p hi hother
    exact hj (hother.number_unique hi)
  · intro p q hfound hother
    obtain ⟨⟨x, y, hcut, hx, hq⟩, -⟩ := find?_eq_some_iff.1 hfound
    exact hj (hother.number_unique ⟨x, q, y, hcut, hx, hq⟩)

/-- A marker with a quote and a digit at its end: its tokens with the numbers 1 and 10 start
alike. -/
def alikeMarker : Text := "'1"

/-- The token with the number 10 before that with the number 1, in different quotes. -/
def alikeTokens : Text := "''110' \"'11\" ''11'"

theorem search_quoted_token_alike :
    1 ≠ 10 ∧ StandsAt (token alikeMarker 10) alikeTokens 0 ∧
      ¬ StandsAt (token alikeMarker 1) alikeTokens 0 ∧
      find? (token alikeMarker 1) alikeTokens = some (7, ("\"'11\"" : Text)) ∧
      ¬ StandsAt (token alikeMarker 10) alikeTokens 7 ∧
      find? (token alikeMarker 0) alikeTokens = none := by
  have hstands : StandsAt (token alikeMarker 10) alikeTokens 0 := by decide
  have hfound : find? (token alikeMarker 1) alikeTokens = some (7, ("\"'11\"" : Text)) := by decide
  have hnone : ∀ p, ¬ StandsAt (token alikeMarker 0) alikeTokens p := by
    have hshort : ∀ p < alikeTokens.length, ¬ StandsAt (token alikeMarker 0) alikeTokens p := by
      decide
    exact fun p hp => hshort p hp.lt hp
  exact ⟨by decide, hstands,
    ((search_quoted_token alikeMarker alikeTokens 10).2.2 1 (by decide)).1 0 hstands, hfound,
    ((search_quoted_token alikeMarker alikeTokens 1).2.2 10 (by decide)).2 7 _ hfound,
    (search_quoted_token alikeMarker alikeTokens 0).1.2 hnone⟩

end Placeholder

end JsLiteral
