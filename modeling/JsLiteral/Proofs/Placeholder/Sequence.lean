import JsLiteral.Proofs.Placeholder.Splice
import JsLiteral.Proofs.World

/-!
# Splicing one after another is splicing at once

A literal that is spliced in moves the tokens after it and leaves all others where they are:
no quoted token starts or ends in it, and its last line is indented like the line it starts
on. So each step of `spliceFrom` answers a code on which the remaining tokens stand as apart
as before, and for which `substitute` gives the same text.

    one step:    substitute (k :: is) put code = substitute is put code'    (substitute_splice)
    a whole run: spliceFrom answers substitute … code                       (spliceFrom_run)
-/

namespace JsLiteral.Placeholder

open Text Template

/-! ## Tokens that do not overlap -/

/-- Texts of lengths `m` and `n` at `p` and `p'` do not overlap. -/
def Disjoint (m n p p' : Nat) : Prop := p + m ≤ p' ∨ p' + n ≤ p

instance {m n p p' : Nat} : Decidable (Disjoint m n p p') :=
  inferInstanceAs (Decidable (_ ∨ _))

/-- Each token with a number in `is` stands in quotes at one place of the code at most, and
the places of two of them do not overlap. -/
structure Apart (marker : Text) (is : List Nat) (code : Text) : Prop where
  once : ∀ i ∈ is, ∀ p p', StandsAt (token marker i) code p → StandsAt (token marker i) code p' →
    p = p'
  disjoint : ∀ i ∈ is, ∀ j ∈ is, i ≠ j → ∀ p p', StandsAt (token marker i) code p →
    StandsAt (token marker j) code p' →
      Disjoint ((token marker i).length + 2) ((token marker j).length + 2) p p'

theorem apart_iff {marker code : Text} {is : List Nat} :
    Apart marker is code ↔
      (∀ i ∈ is, ∀ p < code.length, StandsAt (token marker i) code p → ∀ p' < code.length,
        StandsAt (token marker i) code p' → p = p') ∧
      ∀ i ∈ is, ∀ j ∈ is, i ≠ j → ∀ p < code.length, StandsAt (token marker i) code p →
        ∀ p' < code.length, StandsAt (token marker j) code p' →
          Disjoint ((token marker i).length + 2) ((token marker j).length + 2) p p' := by
  constructor
  · intro h
    exact ⟨fun i hi p _ hp p' _ => h.once i hi p p' hp,
      fun i hi j hj hij p _ hp p' _ => h.disjoint i hi j hj hij p p' hp⟩
  · rintro ⟨honce, hdisjoint⟩
    exact ⟨fun i hi p p' hp hp' => honce i hi p hp.lt hp p' hp'.lt hp',
      fun i hi j hj hij p p' hp hp' => hdisjoint i hi j hj hij p hp.lt hp p' hp'.lt hp'⟩

instance {marker code : Text} {is : List Nat} : Decidable (Apart marker is code) :=
  @decidable_of_iff _ _ apart_iff.symm (@instDecidableAnd _ _ inferInstance inferInstance)

/-- No quoted token with a number in `is` stands in a text. -/
def Free (marker : Text) (is : List Nat) (t : Text) : Prop :=
  ∀ i ∈ is, ∀ p, ¬ StandsAt (token marker i) t p

instance {marker t : Text} {is : List Nat} : Decidable (Free marker is t) :=
  decidable_of_iff (∀ i ∈ is, ∀ p < t.length, ¬ StandsAt (token marker i) t p)
    ⟨fun h i hi p hp => h i hi p hp.lt hp, fun h i hi p _ => h i hi p⟩

theorem Free.ne_append {marker t : Text} {is : List Nat} (h : Free marker is t) {i : Nat}
    (hi : i ∈ is) {q : Text} (hq : IsQuoted (token marker i) q) (x y : Text) :
    t ≠ x ++ q ++ y :=
  fun he => h i hi x.length ⟨x, q, y, he, rfl, hq⟩

theorem newline_not_mem_quoted {marker q : Text} {i : Nat} (hn : newline ∉ marker)
    (hq : IsQuoted (token marker i) q) : newline ∉ q := by
  refine hq.not_mem (not_mem_token hn (by decide) i) ?_
  rintro (h | h) <;> exact absurd h (by decide)

/-- What keeps quoted tokens out of the parts of a literal other than its text. -/
structure Separable (marker opening closing : Text) : Prop where
  newline_marker : newline ∉ marker
  quote_opening : ∀ c ∈ opening, ¬ IsQuote c
  quote_closing : ∀ c ∈ closing, ¬ IsQuote c
  newline_closing : newline ∉ closing

/-- The literal of a text that starts after `x`. -/
def literalAfter (opening closing x t : Text) : Text :=
  literal opening closing (indentation (lastLine x)) t

/-! ## One step -/

section

variable {marker opening closing t x q y : Text} {k : Nat} {is : List Nat}

/-- Another token of the code stands before the token or after it. -/
theorem Apart.cut (h : Apart marker (k :: is) (x ++ q ++ y)) (hk : k ∉ is)
    (hq : IsQuoted (token marker k) q) {i : Nat} (hi : i ∈ is) {q' x' y' : Text}
    (hq' : IsQuoted (token marker i) q') (he : x' ++ q' ++ y' = x ++ q ++ y) :
    (∃ z, x = x' ++ q' ++ z) ∨ ∃ z, x' = x ++ q ++ z := by
  have hne : k ≠ i := fun e => hk (e ▸ hi)
  have hat : StandsAt (token marker k) (x ++ q ++ y) x.length := ⟨x, q, y, rfl, rfl, hq⟩
  have hat' : StandsAt (token marker i) (x ++ q ++ y) x'.length := ⟨x', q', y', he.symm, rfl, hq'⟩
  have hd := h.disjoint k List.mem_cons_self i (List.mem_cons_of_mem _ hi) hne _ _ hat hat'
  rcases hd with hle | hle
  · rw [← hq.length_eq] at hle
    rw [List.append_assoc x'] at he
    obtain ⟨u, hu, -⟩ := cut_of_le he.symm hle
    exact Or.inr ⟨u, hu⟩
  · rw [← hq'.length_eq] at hle
    rw [List.append_assoc x] at he
    obtain ⟨u, hu, -⟩ := cut_of_le he hle
    exact Or.inl ⟨u, hu⟩

/-- A token of the new code stands before the literal or after it. -/
theorem Separable.cut (hsep : Separable marker opening closing) (hfree : Free marker is (escape t))
    {i : Nat} (hi : i ∈ is) {q' x' y' : Text} (hq' : IsQuoted (token marker i) q')
    (he : x' ++ q' ++ y' = x ++ literalAfter opening closing x t ++ y) :
    (∃ z, x = x' ++ q' ++ z) ∨ ∃ z, x' = x ++ literalAfter opening closing x t ++ z := by
  rcases cut_literal hq' (not_mem_token hsep.newline_marker (by decide) i) hsep.quote_opening
    hsep.quote_closing (isIndent_indentation _) (hfree.ne_append hi hq') he with
    ⟨z, hz, -⟩ | ⟨z, hz, -⟩
  · exact Or.inl ⟨z, hz⟩
  · exact Or.inr ⟨z, hz⟩

/-- The places `p` and `p'` of a token of length `n` before and after `q`, which follows `x`,
gives way to a text of length `l`. -/
def Moved (x q : Text) (l n p p' : Nat) : Prop :=
  (p + n ≤ x.length ∧ p' = p) ∨ (x.length + q.length ≤ p ∧ p' + q.length = p + l)

theorem Separable.exists_moved (hsep : Separable marker opening closing)
    (hfree : Free marker is (escape t)) {i : Nat} (hi : i ∈ is) {p' : Nat}
    (hp' : StandsAt (token marker i) (x ++ literalAfter opening closing x t ++ y) p') :
    ∃ p, StandsAt (token marker i) (x ++ q ++ y) p ∧
      Moved x q (literalAfter opening closing x t).length ((token marker i).length + 2) p p' := by
  obtain ⟨x', q', y', he, rfl, hq'⟩ := hp'
  rcases hsep.cut hfree hi hq' he.symm with ⟨z, rfl⟩ | ⟨z, rfl⟩
  · refine ⟨x'.length, ⟨x', q', z ++ q ++ y, by simp, rfl, hq'⟩, Or.inl ⟨?_, rfl⟩⟩
    simp only [List.length_append, hq'.length_eq]
    omega
  · refine ⟨(x ++ q ++ z).length, ⟨x ++ q ++ z, q', y', ?_, rfl, hq'⟩, Or.inr ⟨?_, ?_⟩⟩
    · have hy : y = z ++ q' ++ y' := by simpa using he
      rw [hy]
      simp
    · simp only [List.length_append]
      omega
    · simp only [List.length_append]
      omega

/-- What stands in the code beside the token stands there whatever takes the token's place. -/
theorem Apart.exists_standsAt (h : Apart marker (k :: is) (x ++ q ++ y)) (hk : k ∉ is)
    (hq : IsQuoted (token marker k) q) (l : Text) {i : Nat} (hi : i ∈ is)
    (hp : ∃ p, StandsAt (token marker i) (x ++ q ++ y) p) :
    ∃ p, StandsAt (token marker i) (x ++ l ++ y) p := by
  obtain ⟨p, x', q', y', he, -, hq'⟩ := hp
  rcases h.cut hk hq hi hq' he.symm with ⟨z, rfl⟩ | ⟨z, rfl⟩
  · exact ⟨_, x', q', z ++ l ++ y, by simp, rfl, hq'⟩
  · have hy : y = z ++ q' ++ y' := by simpa using he
    exact ⟨_, x ++ l ++ z, q', y', by rw [hy]; simp, rfl, hq'⟩

/-- The other tokens stand apart in the new code too. -/
theorem Apart.splice (h : Apart marker (k :: is) (x ++ q ++ y))
    (hq : IsQuoted (token marker k) q) (hsep : Separable marker opening closing)
    (hfree : Free marker is (escape t)) :
    Apart marker is (x ++ literalAfter opening closing x t ++ y) := by
  constructor
  · intro i hi p p' hp hp'
    obtain ⟨r, hr, hmoved⟩ := hsep.exists_moved (q := q) hfree hi hp
    obtain ⟨r', hr', hmoved'⟩ := hsep.exists_moved (q := q) hfree hi hp'
    obtain rfl := h.once i (List.mem_cons_of_mem _ hi) r r' hr hr'
    unfold Moved at hmoved hmoved'
    omega
  · intro i hi j hj hij p p' hp hp'
    obtain ⟨r, hr, hmoved⟩ := hsep.exists_moved (q := q) hfree hi hp
    obtain ⟨r', hr', hmoved'⟩ := hsep.exists_moved (q := q) hfree hj hp'
    have hd :=
      h.disjoint i (List.mem_cons_of_mem _ hi) j (List.mem_cons_of_mem _ hj) hij r r' hr hr'
    have hqlen := hq.length_eq
    unfold Moved at hmoved hmoved'
    unfold Disjoint at hd ⊢
    omega

/-! ### The tokens around the place of a step -/

/-- What starts before the token ends before it. -/
theorem Apart.exists_of_standing? (h : Apart marker (k :: is) (x ++ q ++ y)) (hk : k ∉ is)
    (hq : IsQuoted (token marker k) q) {b r : Text} (hx : x = b ++ r) (hr : r ≠ []) {i : Nat}
    {q' : Text} (hs : standing? marker (k :: is) (r ++ (q ++ y)) = some (i, q')) :
    i ∈ is ∧ IsQuoted (token marker i) q' ∧ ∃ z, r = q' ++ z := by
  obtain ⟨hi, hq', y', hy'⟩ := of_standing?_eq_some hs
  have hlen : b.length < x.length := by
    have := List.length_pos_iff.2 hr
    rw [hx, List.length_append]
    omega
  have he : b ++ q' ++ y' = x ++ q ++ y := by
    rw [List.append_assoc, ← hy', hx]
    simp
  rcases List.mem_cons.1 hi with rfl | hi
  · have := h.once i List.mem_cons_self b.length x.length ⟨b, q', y', he.symm, rfl, hq'⟩
      ⟨x, q, y, rfl, rfl, hq⟩
    omega
  · refine ⟨hi, hq', ?_⟩
    rcases h.cut hk hq hi hq' he with ⟨z, hz⟩ | ⟨z, hz⟩
    · rw [hz, List.append_assoc] at hx
      exact ⟨z, (List.append_cancel_left hx).symm⟩
    · have := congrArg List.length hz
      simp only [List.length_append] at this
      omega

/-- What starts before the literal ends before it. -/
theorem Separable.exists_of_standing? (hsep : Separable marker opening closing)
    (hfree : Free marker is (escape t)) {b r : Text} (hx : x = b ++ r) (hr : r ≠ []) {i : Nat}
    {q' : Text}
    (hs : standing? marker is (r ++ (literalAfter opening closing x t ++ y)) = some (i, q')) :
    i ∈ is ∧ IsQuoted (token marker i) q' ∧ ∃ z, r = q' ++ z := by
  obtain ⟨hi, hq', y', hy'⟩ := of_standing?_eq_some hs
  have hlen : b.length < x.length := by
    have := List.length_pos_iff.2 hr
    rw [hx, List.length_append]
    omega
  have he : b ++ q' ++ y' = x ++ literalAfter opening closing x t ++ y := by
    rw [List.append_assoc, ← hy', ← List.append_assoc, ← hx, List.append_assoc]
  refine ⟨hi, hq', ?_⟩
  rcases hsep.cut hfree hi hq' he with ⟨z, hz⟩ | ⟨z, hz⟩
  · have hb : b ++ (q' ++ z) = b ++ r := by rw [← hx, ← List.append_assoc, ← hz]
    exact ⟨z, (List.append_cancel_left hb).symm⟩
  · have := congrArg List.length hz
    simp only [List.length_append] at this
    omega

/-- Before the token the same tokens stand in both codes. -/
theorem Apart.standing?_before (h : Apart marker (k :: is) (x ++ q ++ y)) (hk : k ∉ is)
    (hq : IsQuoted (token marker k) q) (hsep : Separable marker opening closing)
    (hfree : Free marker is (escape t)) {b r : Text} (hx : x = b ++ r) (hr : r ≠ []) :
    standing? marker (k :: is) (r ++ (q ++ y)) =
        standing? marker is (r ++ (literalAfter opening closing x t ++ y)) ∧
      ∀ i q', standing? marker (k :: is) (r ++ (q ++ y)) = some (i, q') →
        q'.length ≤ r.length := by
  cases hs : standing? marker (k :: is) (r ++ (q ++ y)) with
  | some p =>
    obtain ⟨i, q'⟩ := p
    obtain ⟨hi, hq', z, rfl⟩ := h.exists_of_standing? hk hq hx hr hs
    constructor
    · rw [List.append_assoc]
      exact (standing?_eq_some hi hq' _).symm
    · intro j q'' hj
      cases hj
      rw [List.length_append]
      omega
  | none =>
    refine ⟨?_, fun i q' hi => by cases hi⟩
    cases hs' : standing? marker is (r ++ (literalAfter opening closing x t ++ y)) with
    | none => rfl
    | some p =>
      obtain ⟨i, q'⟩ := p
      obtain ⟨hi, hq', z, rfl⟩ := hsep.exists_of_standing? hfree hx hr hs'
      rw [List.append_assoc] at hs
      exact absurd rfl (standing?_eq_none_iff.1 hs i (List.mem_cons_of_mem _ hi) q' _ hq')

/-- In the literal no token starts. -/
theorem Separable.standing?_inside (hsep : Separable marker opening closing)
    (hfree : Free marker is (escape t)) {b r : Text}
    (hl : literalAfter opening closing x t = b ++ r) (hr : r ≠ []) :
    standing? marker is (r ++ y) = none := by
  have hlen : b.length < (literalAfter opening closing x t).length := by
    have := List.length_pos_iff.2 hr
    rw [hl, List.length_append]
    omega
  rw [standing?_eq_none_iff]
  intro i hi q' y' hq' hy'
  have he : (x ++ b) ++ q' ++ y' = x ++ literalAfter opening closing x t ++ y := by
    rw [List.append_assoc, ← hy', hl]
    simp
  rcases hsep.cut hfree hi hq' he with ⟨z, hz⟩ | ⟨z, hz⟩
  · have := congrArg List.length hz
    have := hq'.length_eq
    simp only [List.length_append] at *
    omega
  · have := congrArg List.length hz
    simp only [List.length_append] at this
    omega

/-- After the token the token itself does not stand. -/
theorem Apart.standing?_after (h : Apart marker (k :: is) (x ++ q ++ y))
    (hq : IsQuoted (token marker k) q) {b r : Text} (hy : y = b ++ r) :
    standing? marker (k :: is) r = standing? marker is r := by
  cases hs : standing? marker (k :: is) r with
  | none =>
    refine (standing?_eq_none_iff.2 fun i hi => ?_).symm
    exact standing?_eq_none_iff.1 hs i (List.mem_cons_of_mem _ hi)
  | some p =>
    obtain ⟨i, q'⟩ := p
    obtain ⟨hi, hq', y', hy'⟩ := of_standing?_eq_some hs
    rcases List.mem_cons.1 hi with rfl | hi
    · have hp := h.once i List.mem_cons_self (x ++ q ++ b).length x.length
        ⟨x ++ q ++ b, q', y', by rw [hy, hy']; simp, rfl, hq'⟩ ⟨x, q, y, rfl, rfl, hq⟩
      have := hq.length_eq
      simp only [List.length_append] at hp
      omega
    · rw [hy']
      exact (standing?_eq_some hi hq' y').symm

/-- What is spliced in first may as well be put in with all others at once. -/
theorem substitute_splice {put : Nat → Text → Text}
    (h : Apart marker (k :: is) (x ++ q ++ y)) (hk : k ∉ is) (hq : IsQuoted (token marker k) q)
    (hsep : Separable marker opening closing) (hfree : Free marker is (escape t))
    (hput : ∀ w, put k w = literal opening closing w t) :
    substitute marker (k :: is) put (x ++ q ++ y) =
      substitute marker is put (x ++ literalAfter opening closing x t ++ y) := by
  -- the literal's last line is indented like its first, so the lines after it are too
  have hlines : ∀ b r, y = b ++ r →
      (lastLine (x ++ q ++ b)).indentation =
        (lastLine (x ++ literalAfter opening closing x t ++ b)).indentation := by
    intro b r _
    have hnq := newline_not_mem_quoted hsep.newline_marker hq
    obtain ⟨mark, hmark, rfl⟩ := hq
    exact (indentation_lastLine_literal hsep.newline_closing rfl hmark.isIndent_eq_false hnq).symm
  obtain ⟨v, hv, hv'⟩ := @exists_substituteFrom_append marker (k :: is) is put x (q ++ y)
    (literalAfter opening closing x t ++ y)
    (fun b r hx hr => h.standing?_before hk hq hsep hfree hx hr) [] 0 (Nat.zero_le _)
  unfold substitute
  rw [List.append_assoc, List.append_assoc, hv, hv', List.nil_append,
    substituteFrom_token List.mem_cons_self hq,
    substituteFrom_append (fun b r hl hr => hsep.standing?_inside hfree hl hr), hput,
    substituteFrom_congr 0 (fun b r hy _ => h.standing?_after hq hy) hlines]
  rfl

end

/-! ## A whole run -/

section

variable {σ : Type} {options : Options σ} {marker : Text}

theorem spliceOne_of_missing {code t : Text} {i : Nat}
    (h : ∀ p, ¬ StandsAt (token marker i) code p) (w : World) :
    (spliceOne options marker code i t).run w =
      (.error (.placeholderMissing (token marker i)), w) := by
  unfold spliceOne
  simp only [find?_eq_none_iff.2 h]
  rfl

/-- A step puts the literal in the place of the token and makes a note of it. -/
theorem spliceOne_of_standsAt (options : Options σ) {x q y : Text} (t : Text) {i : Nat}
    (hq : IsQuoted (token marker i) q)
    (hfirst : ∀ p, StandsAt (token marker i) (x ++ q ++ y) p → x.length ≤ p) (w : World) :
    ∃ w', (spliceOne options marker (x ++ q ++ y) i t).run w =
      (.ok (x ++ literalAfter options.templateOpening options.templateClosing x t ++ y), w') := by
  have hfind := find?_eq_some rfl hq hfirst
  have hbefore : (x ++ q ++ y).take x.length = x := by
    rw [List.append_assoc, List.take_left]
  have hafter : (x ++ q ++ y).drop (x.length + q.length) = y := by
    rw [← List.length_append, List.drop_left]
  unfold spliceOne
  simp only [hfind]
  rw [Task.run_bind, Task.run_note]
  unfold splice indentAt
  rw [hbefore, hafter]
  exact ⟨_, rfl⟩

/-- What is left to do after the first text. -/
theorem spliceFrom_cons_run {options : Options σ} {code code' t : Text} {i : Nat} {w w' : World}
    (h : (spliceOne options marker code i t).run w = (.ok code', w')) (rest : List Text) :
    (spliceFrom options marker i (t :: rest) code).run w =
      (spliceFrom options marker (i + 1) rest code').run w' := by
  rw [spliceFrom, Task.run_bind, h]

theorem substitute_nil (put : Nat → Text → Text) (code : Text) :
    substitute marker [] put code = code := by
  have h := @substituteFrom_append marker [] put code [] (fun _ _ _ _ => rfl) []
  rw [List.append_nil] at h
  unfold substitute
  rw [h]
  exact List.append_nil code

theorem Free.escape {is : List Nat} {t : Text} (hb : CodePoint.scalar '\\' ∉ marker)
    (h : Free marker is t) : Free marker is (Template.escape t) := by
  rintro i hi _ ⟨x, q, y, he, rfl, hq⟩
  have hbq : CodePoint.scalar '\\' ∉ q := by
    refine hq.not_mem (not_mem_token hb (by decide) i) ?_
    rintro (h | h) <;> exact absurd h (by decide)
  obtain ⟨mark, hmark, rfl⟩ := hq
  obtain ⟨u, v, huv⟩ := exists_of_escape hbq he
  exact h.ne_append hi ⟨mark, hmark, rfl⟩ u v huv

/-- No text from number `k` on holds the token of a later one. -/
def LaterFree (marker : Text) : Nat → List Text → Prop
  | _, [] => True
  | k, t :: rest =>
    Free marker (List.range' (k + 1) rest.length) (escape t) ∧ LaterFree marker (k + 1) rest

/-- The literal of the text with number `i` on a line indented by `indent`. -/
def literalOf (options : Options σ) (waiting : List Text) (i : Nat) (indent : Text) : Text :=
  literal options.templateOpening options.templateClosing indent (waiting.getD i [])

/-- A run on tokens that stand apart, no text of which holds the token of a later one, does
what one substitution does if each token stands in the code, and else it names the first
token that does not. -/
theorem spliceFrom_run {put : Nat → Text → Text} {waiting : List Text} {k : Nat} {code : Text}
    (hsep : Separable marker options.templateOpening options.templateClosing)
    (h : Apart marker (List.range' k waiting.length) code) (hfree : LaterFree marker k waiting)
    (hput : ∀ j, j < waiting.length → ∀ v,
      put (k + j) v =
        literal options.templateOpening options.templateClosing v (waiting.getD j []))
    (w : World) :
    ((∀ j, j < waiting.length → ∃ p, StandsAt (token marker (k + j)) code p) →
      ((spliceFrom options marker k waiting code).run w).1 =
        .ok (substitute marker (List.range' k waiting.length) put code)) ∧
    ∀ j, j < waiting.length → (∀ p, ¬ StandsAt (token marker (k + j)) code p) →
      (∀ i, i < j → ∃ p, StandsAt (token marker (k + i)) code p) →
        ((spliceFrom options marker k waiting code).run w).1 =
          .error (.placeholderMissing (token marker (k + j))) := by
  induction waiting generalizing k code w with
  | nil =>
    constructor
    · intro _
      show (Except.ok code : Except Failure Text) = _
      rw [List.length_nil, List.range'_zero, substitute_nil]
    · intro j hj
      exact absurd hj (Nat.not_lt_zero j)
  | cons t rest ih =>
    rw [List.length_cons, List.range'_succ] at h ⊢
    by_cases hk : ∃ p, StandsAt (token marker k) code p
    · -- the step leaves the other tokens as they stood
      obtain ⟨-, x, q, y, rfl, rfl, hq⟩ := hk
      have hkis : k ∉ List.range' (k + 1) rest.length := by
        intro hm
        have := (List.mem_range'_1.1 hm).1
        omega
      have hmem : ∀ j, j < rest.length → k + 1 + j ∈ List.range' (k + 1) rest.length := by
        intro j hj
        exact List.mem_range'_1.2 ⟨by omega, by omega⟩
      have hfirst : ∀ p, StandsAt (token marker k) (x ++ q ++ y) p → x.length ≤ p := by
        intro p hp
        exact (h.once k List.mem_cons_self _ _ ⟨x, q, y, rfl, rfl, hq⟩ hp).le
      obtain ⟨w', hstep⟩ := spliceOne_of_standsAt options t hq hfirst w
      rw [spliceFrom_cons_run hstep]
      have hput' : ∀ j, j < rest.length → ∀ v, put (k + 1 + j) v =
          literal options.templateOpening options.templateClosing v (rest.getD j []) := by
        intro j hj v
        have := hput (j + 1) (Nat.succ_lt_succ hj) v
        rwa [show k + (j + 1) = k + 1 + j by omega] at this
      obtain ⟨hall, hmissing⟩ := ih (h.splice hq hsep hfree.1) hfree.2 hput' w'
      constructor
      · intro hstand
        rw [substitute_splice h hkis hq hsep hfree.1 (hput 0 (Nat.succ_pos _))]
        refine hall fun j hj => h.exists_standsAt hkis hq _ (hmem j hj) ?_
        have := hstand (j + 1) (Nat.succ_lt_succ hj)
        rwa [show k + (j + 1) = k + 1 + j by omega] at this
      · intro j hj hnone hbefore
        cases j with
        | zero => exact absurd ⟨x, q, y, rfl, rfl, hq⟩ (hnone x.length)
        | succ j =>
          have hj' : j < rest.length := Nat.lt_of_succ_lt_succ hj
          rw [show k + (j + 1) = k + 1 + j by omega] at hnone ⊢
          refine hmissing j hj' (fun p hp => ?_) fun i hi => ?_
          · obtain ⟨p', hp', -⟩ := hsep.exists_moved (q := q) hfree.1 (hmem j hj') hp
            exact hnone p' hp'
          · refine h.exists_standsAt hkis hq _ (hmem i (by omega)) ?_
            have := hbefore (i + 1) (Nat.succ_lt_succ hi)
            rwa [show k + (i + 1) = k + 1 + i by omega] at this
    · have hnone : ∀ p, ¬ StandsAt (token marker k) code p := fun p hp => hk ⟨p, hp⟩
      rw [spliceFrom, Task.run_bind, spliceOne_of_missing hnone]
      constructor
      · intro hstand
        exact absurd (hstand 0 (Nat.succ_pos _)) hk
      · intro j _ _ hbefore
        cases j with
        | zero => rfl
        | succ j => exact absurd (hbefore 0 (Nat.succ_pos _)) hk

theorem laterFree_of_forall {n k : Nat} {waiting : List Text}
    (hb : CodePoint.scalar '\\' ∉ marker) (hn : k + waiting.length = n)
    (h : ∀ t ∈ waiting, Free marker (List.range n) t) : LaterFree marker k waiting := by
  induction waiting generalizing k with
  | nil => trivial
  | cons t rest ih =>
    rw [List.length_cons] at hn
    refine ⟨Free.escape hb fun i hi => ?_,
      ih (by omega) fun t ht => h t (List.mem_cons_of_mem _ ht)⟩
    have := (List.mem_range'_1.1 hi).2
    exact h t List.mem_cons_self i (List.mem_range.2 (by omega))

/-- **Splicing one after another is splicing at once**: each literal comes to the place of its
token in the code given and is aligned with the line that place is on. If some token stands
nowhere, the first of these is missed. -/
theorem spliceFrom_eq_substitute (options : Options σ) {code : Text} {waiting : List Text}
    (hb : CodePoint.scalar '\\' ∉ marker)
    (hsep : Separable marker options.templateOpening options.templateClosing)
    (hapart : Apart marker (List.range waiting.length) code)
    (hfree : ∀ t ∈ waiting, Free marker (List.range waiting.length) t) (w : World) :
    ((∀ i, i < waiting.length → ∃ p, StandsAt (token marker i) code p) →
      ((spliceFrom options marker 0 waiting code).run w).1 =
        .ok (substitute marker (List.range waiting.length) (literalOf options waiting) code)) ∧
    ∀ k, k < waiting.length → (∀ p, ¬ StandsAt (token marker k) code p) →
      (∀ i, i < k → ∃ p, StandsAt (token marker i) code p) →
        ((spliceFrom options marker 0 waiting code).run w).1 =
          .error (.placeholderMissing (token marker k)) := by
  rw [List.range_eq_range'] at hapart ⊢
  have hput : ∀ j, j < waiting.length → ∀ v, literalOf options waiting (0 + j) v =
      literal options.templateOpening options.templateClosing v (waiting.getD j []) := by
    intro j _ v
    rw [Nat.zero_add]
    rfl
  have hrun := spliceFrom_run hsep hapart (laterFree_of_forall hb (Nat.zero_add _) hfree) hput w
  simpa only [Nat.zero_add] using hrun

/-- Two tokens on one line, the second one first and in single quotes. -/
theorem spliceFrom_eq_substitute_swapped :
    ((spliceFrom ({} : Options Unit) "M_" 0 ["a\n'M_2'", "b\nc"] "\t['M_1', \"M_0\"]").run {}).1 =
      .ok "\t[ dedent\x60\n\t  b\n\t  c\n\t\x60,  dedent\x60\n\t  a\n\t  'M_2'\n\t\x60]" := by
  have hstand : ∀ i, i < 2 → ∃ p, StandsAt (token "M_" i) "\t['M_1', \"M_0\"]" p := by
    intro i hi
    match i, hi with
    | 0, _ => exact ⟨9, by decide⟩
    | 1, _ => exact ⟨2, by decide⟩
  have hsep : Separable "M_" ({} : Options Unit).templateOpening
      ({} : Options Unit).templateClosing :=
    ⟨by decide, by decide, by decide, by decide⟩
  have hfree : ∀ t ∈ (["a\n'M_2'", "b\nc"] : List Text), Free "M_" (List.range 2) t := by decide
  rw [(spliceFrom_eq_substitute {} (by decide) hsep (by decide) hfree {}).1 hstand]
  decide

end

end JsLiteral.Placeholder
