import JsLiteral.Proofs.CommandLine.Markup
import JsLiteral.Proofs.CommandLine.Shown

/-!
# Escaped texts in markup

A message names a problem in words of its own around a text that somebody else chose. The text is
escaped, so no tag is cut out of it, whatever it holds, and what comes after it is no part of one
either: the message is printed, and it begins and ends with its own words. The text between them
may be shown otherwise than it is, but not if it is ordinary.

    an escaped text has no tags, and ends open to what follows     (readsOn_escape)
    the words around an escaped text are shown as they are, and
    so is the text if it is ordinary                               (render_message)
-/

namespace JsLiteral.Markup

/-! ## Tags -/

/-- A text without brackets starts no tag and ends none. -/
def Unbracketed (y : Text) : Prop := ∀ c ∈ y, c ≠ '[' ∧ c ≠ ']'

instance (y : Text) : Decidable (Unbracketed y) := inferInstanceAs (Decidable (∀ c ∈ y, _))

theorem IsInert.unbracketed {t : Text} (h : IsInert t) : Unbracketed t :=
  fun _ hc => ⟨fun e => h.not_mem rfl (e ▸ hc), fun e => h.not_mem rfl (e ▸ hc)⟩

theorem Unbracketed.append {x y : Text} (hx : Unbracketed x) (hy : Unbracketed y) :
    Unbracketed (x ++ y) :=
  fun c hc => (List.mem_append.1 hc).elim (hx c) (hy c)

/-- Inside a tag. -/
abbrev isInside (c : CodePoint) : Bool := c != '[' && c != ']'

/-- A bracket that closes comes before one that opens. -/
def Closes (t : Text) : Prop := (t.dropWhile isInside).head? = some (CodePoint.scalar ']')

instance (t : Text) : Decidable (Closes t) := inferInstanceAs (Decidable (_ = _))

theorem isInside_of_ne {c : CodePoint} (hopen : c ≠ '[') (hclose : c ≠ ']') :
    isInside c = true := by
  unfold isInside
  rw [Bool.and_eq_true, bne_iff_ne, bne_iff_ne]
  exact ⟨hopen, hclose⟩

theorem closes_cons_of_inside {c : CodePoint} (hc : isInside c = true) (t : Text) :
    Closes (c :: t) ↔ Closes t := by
  unfold Closes
  rw [List.dropWhile_cons_of_pos hc]

theorem closes_replicate (n : Nat) (t : Text) :
    Closes (List.replicate n (CodePoint.scalar '\\') ++ t) ↔ Closes t := by
  induction n with
  | zero => rfl
  | succ n ih =>
    rw [List.replicate_succ, List.cons_append, closes_cons_of_inside (by decide)]
    exact ih

theorem unbracketed_nil : Unbracketed [] := fun _ h => absurd h List.not_mem_nil

theorem not_closes_of_unbracketed {y : Text} (hy : Unbracketed y) : ¬ Closes y := by
  induction y with
  | nil => nofun
  | cons c y ih =>
    have hc := hy c List.mem_cons_self
    rw [closes_cons_of_inside (isInside_of_ne hc.1 hc.2)]
    exact ih fun d hd => hy d (List.mem_cons_of_mem _ hd)

theorem tagBody?_cons (c : CodePoint) (t : Text) : tagBody? (c :: t) =
    if startsTag c = true ∧ Closes t then
      some (c :: t.takeWhile isInside, (t.dropWhile isInside).tail)
    else none := by
  unfold tagBody? Closes
  by_cases hc : startsTag c = true
  · simp only [hc, if_true, true_and]
    cases t.dropWhile isInside with
    | nil => rfl
    | cons d r =>
      by_cases hd : d = CodePoint.scalar ']'
      · subst hd
        rfl
      · have hhead : ¬ (d :: r).head? = some (CodePoint.scalar ']') :=
          fun h => hd (Option.some.inj h)
        rw [if_neg hhead]
        split
        · rename_i heq
          cases heq
          exact absurd rfl hd
        · rfl
  · rw [if_neg fun h => hc h.1]
    exact if_neg hc

/-- A tag is its inside and a closing bracket, and any text may follow it. -/
theorem of_tagBody? {t body rest : Text} (h : tagBody? t = some (body, rest)) :
    t = body ++ CodePoint.scalar ']' :: rest ∧
      ∀ z, tagBody? (body ++ CodePoint.scalar ']' :: z) = some (body, z) := by
  cases t with
  | nil => cases h
  | cons c t =>
    rw [tagBody?_cons] at h
    split at h
    · rename_i hc
      cases h
      have hinside : ∀ d ∈ t.takeWhile isInside, isInside d = true := fun d hd =>
        List.all_eq_true.1 (List.all_takeWhile) d hd
      have hclose : ¬ isInside (CodePoint.scalar ']') = true := by decide
      refine ⟨?_, fun z => ?_⟩
      · obtain ⟨r, hr⟩ := List.head?_eq_some_iff.1 hc.2
        rw [hr, List.tail_cons, List.cons_append, ← hr, List.takeWhile_append_dropWhile]
      · have hdrop : ((t.takeWhile isInside ++ CodePoint.scalar ']' :: z).dropWhile isInside) =
            CodePoint.scalar ']' :: z := by
          rw [List.dropWhile_append_of_pos hinside, List.dropWhile_cons_of_neg hclose]
        have hcloses : Closes (t.takeWhile isInside ++ CodePoint.scalar ']' :: z) := by
          rw [Closes, hdrop]
          rfl
        rw [List.cons_append, tagBody?_cons, if_pos ⟨hc.1, hcloses⟩, hdrop,
          List.takeWhile_append_of_pos hinside, List.takeWhile_cons_of_neg hclose, List.append_nil,
          List.tail_cons]
    · cases h

theorem isInside_of_startsTag {c : CodePoint} (h : startsTag c = true) : isInside c = true := by
  refine isInside_of_ne ?_ ?_ <;> rintro rfl <;> revert h <;> decide

theorem tagBody?_eq_none_iff {t : Text} : tagBody? t = none ↔
    ∀ c u, t = c :: u → startsTag c = true → ¬ Closes u := by
  cases t with
  | nil => exact ⟨nofun, fun _ => rfl⟩
  | cons c t =>
    rw [tagBody?_cons]
    split
    · rename_i hc
      exact ⟨nofun, fun h => absurd hc.2 (h c t rfl hc.1)⟩
    · rename_i hc
      refine ⟨fun _ d u he hd hu => ?_, fun _ => rfl⟩
      cases he
      exact hc ⟨hd, hu⟩

/-! ## Escaping -/

theorem escape_tag {t body rest : Text} (ht : tagBody? t = some (body, rest))
    (levels slashes : Nat) :
    escape.go (levels + 1) slashes (CodePoint.scalar '[' :: t) =
      List.replicate (2 * slashes + 1) (CodePoint.scalar '\\') ++ CodePoint.scalar '[' ::
        (body ++ CodePoint.scalar ']' :: escape.go levels 0 rest) := by
  rw [escape.go, if_neg (by decide), if_pos rfl, ht]
  simp

theorem escape_cons {c : CodePoint} {t : Text} (hc : c ≠ '\\') (ht : c = '[' → tagBody? t = none)
    (levels slashes : Nat) :
    escape.go (levels + 1) slashes (c :: t) =
      List.replicate slashes (CodePoint.scalar '\\') ++ c :: escape.go levels 0 t := by
  rw [escape.go, if_neg hc]
  by_cases hopen : c = CodePoint.scalar '['
  · rw [if_pos hopen, ht hopen, hopen]
  · rw [if_neg hopen]

/-- A text goes on with a backslash, with a tag, or with a code point that stays. -/
theorem cons_cases (c : CodePoint) (t : Text) : c = '\\' ∨
    (∃ body rest, c = '[' ∧ tagBody? t = some (body, rest)) ∨
      c ≠ '\\' ∧ (c = '[' → tagBody? t = none) := by
  by_cases hc : c = CodePoint.scalar '\\'
  · exact Or.inl hc
  · by_cases htag : c = CodePoint.scalar '[' → tagBody? t = none
    · exact Or.inr (Or.inr ⟨hc, htag⟩)
    · rw [Classical.not_imp] at htag
      obtain ⟨⟨body, rest⟩, hbody⟩ := Option.ne_none_iff_exists'.1 htag.2
      exact Or.inr (Or.inl ⟨body, rest, htag.1, hbody⟩)

variable {y : Text}

/-- Escaping adds backslashes, which close nothing, and neither does what comes after it. -/
theorem closes_of_closes_escape (hy : Unbracketed y) : ∀ {fuel slashes : Nat} {t : Text},
    Closes (escape.go fuel slashes t ++ y) → Closes t := by
  intro fuel
  induction fuel with
  | zero => exact fun h => (not_closes_of_unbracketed hy h).elim
  | succ fuel ih =>
    intro slashes t h
    cases t with
    | nil =>
      rw [escape.go, closes_replicate] at h
      exact (not_closes_of_unbracketed hy h).elim
    | cons c t =>
      rcases cons_cases c t with rfl | ⟨body, rest, rfl, ht⟩ | ⟨hc, ht⟩
      · rw [closes_cons_of_inside (by decide)]
        rw [escape.go, if_pos rfl] at h
        exact ih h
      · rw [escape_tag ht, List.append_assoc, closes_replicate] at h
        cases h
      · rw [escape_cons hc ht, List.append_assoc, closes_replicate, List.cons_append] at h
        by_cases hopen : c = CodePoint.scalar '['
        · rw [hopen] at h
          cases h
        · by_cases hclose : c = CodePoint.scalar ']'
          · rw [hclose]
            rfl
          · have hinside := isInside_of_ne hopen hclose
            rw [closes_cons_of_inside hinside] at h ⊢
            exact ih h

/-- Backslashes that were read come first, whatever follows. -/
theorem head_escape (fuel slashes : Nat) (t : Text) : ∀ c ∈ (escape.go fuel (slashes + 1) t).head?,
    c = CodePoint.scalar '\\' := by
  induction fuel generalizing slashes t with
  | zero => nofun
  | succ fuel ih =>
    intro c hc
    cases t with
    | nil =>
      rw [escape.go] at hc
      split at hc <;> exact (Option.some.inj hc).symm
    | cons d t =>
      rcases cons_cases d t with rfl | ⟨body, rest, rfl, ht⟩ | ⟨hd, ht⟩
      · rw [escape.go, if_pos rfl] at hc
        exact ih (slashes + 1) t c hc
      · rw [escape_tag ht] at hc
        exact (Option.some.inj hc).symm
      · rw [escape_cons hd ht] at hc
        exact (Option.some.inj hc).symm

/-- Where a text starts no tag, it starts none when it is escaped. -/
theorem tagBody?_escape (hy : Unbracketed y) (fuel : Nat) {t : Text} (h : tagBody? t = none) :
    tagBody? (escape.go fuel 0 t ++ y) = none := by
  rw [tagBody?_eq_none_iff] at h ⊢
  intro c u hu hc hcloses
  have hall : Closes (c :: u) := (closes_cons_of_inside (isInside_of_startsTag hc) u).2 hcloses
  rw [← hu] at hall
  cases fuel with
  | zero => exact not_closes_of_unbracketed hy hall
  | succ fuel =>
    have ht := closes_of_closes_escape hy hall
    cases t with
    | nil => cases ht
    | cons d t =>
      rcases cons_cases d t with rfl | ⟨body, rest, rfl, -⟩ | ⟨hd, ht'⟩
      · rw [escape.go, if_pos rfl] at hu hall
        cases hgo : escape.go fuel 1 t with
        | nil =>
          rw [hgo] at hall
          exact not_closes_of_unbracketed hy hall
        | cons e r =>
          have he := head_escape fuel 0 t e (by rw [hgo]; rfl)
          rw [hgo, he] at hu
          cases hu
          cases hc
      · cases ht
      · rw [escape_cons hd ht'] at hu
        cases hu
        exact h c t rfl hc ((closes_cons_of_inside (isInside_of_startsTag hc) t).1 ht)

theorem escape_go_of_not_mem {levels : Nat} : ∀ {slashes : Nat} {t : Text}, t.length < levels →
    CodePoint.scalar '[' ∉ t →
      CodePoint.scalar '\\' ∉ (List.replicate slashes (CodePoint.scalar '\\') ++ t).getLast? →
        escape.go levels slashes t = List.replicate slashes (CodePoint.scalar '\\') ++ t := by
  induction levels with
  | zero => exact fun h => absurd h (Nat.not_lt_zero _)
  | succ levels ih =>
    intro slashes t hlength hopen hlast
    cases t with
    | nil =>
      cases slashes with
      | zero => rfl
      | succ slashes =>
        rw [List.append_nil, List.replicate_succ', List.getLast?_concat] at hlast
        exact absurd rfl hlast
    | cons c t =>
      rw [List.mem_cons, not_or] at hopen
      have hlevels : t.length < levels := Nat.lt_of_succ_lt_succ hlength
      rcases cons_cases c t with rfl | ⟨body, rest, rfl, -⟩ | ⟨hc, ht⟩
      · rw [List.append_cons, ← List.replicate_succ'] at hlast ⊢
        rw [escape.go, if_pos rfl]
        exact ih hlevels hopen.2 hlast
      · exact absurd rfl hopen.1
      · have hrest : CodePoint.scalar '\\' ∉
            (List.replicate 0 (CodePoint.scalar '\\') ++ t).getLast? := by
          cases t with
          | nil => nofun
          | cons d t =>
            rw [List.getLast?_append, List.getLast?_cons_cons, List.getLast?_cons] at hlast
            rwa [List.getLast?_append, List.getLast?_cons]
        rw [escape_cons hc ht, ih hlevels hopen.2 hrest]
        rfl

/-- Without an opening bracket only a backslash at the end is escaped. -/
theorem escape_of_not_mem {t : Text} (hopen : CodePoint.scalar '[' ∉ t)
    (hlast : CodePoint.scalar '\\' ∉ t.getLast?) : escape t = t :=
  escape_go_of_not_mem t.length.lt_succ_self hopen hlast

/-- An inert text that does not end with a backslash means nothing to the console. -/
structure IsOrdinary (t : Text) : Prop where
  inert : IsInert t
  last : CodePoint.scalar '\\' ∉ t.getLast?

instance (t : Text) : Decidable (IsOrdinary t) :=
  decidable_of_iff (IsInert t ∧ CodePoint.scalar '\\' ∉ t.getLast?)
    ⟨fun h => ⟨h.1, h.2⟩, fun h => ⟨h.inert, h.last⟩⟩

theorem IsOrdinary.escape_eq {t : Text} (ht : IsOrdinary t) : escape t = t :=
  escape_of_not_mem (ht.inert.not_mem rfl) ht.last

/-! ## Pieces -/

theorem pieces_replicate {n fuel : Nat} (h : n ≤ fuel) (run : Text) (slashes : Nat) (t : Text) :
    pieces fuel run slashes (List.replicate n (CodePoint.scalar '\\') ++ t) =
      pieces (fuel - n) run (slashes + n) t := by
  induction n generalizing fuel slashes with
  | zero => rfl
  | succ n ih =>
    obtain ⟨fuel, rfl⟩ := Nat.exists_eq_add_one_of_ne_zero (Nat.ne_of_gt (Nat.zero_lt_of_lt h))
    rw [List.replicate_succ, List.cons_append, pieces, if_pos rfl,
      ih (Nat.le_of_succ_le_succ h), Nat.add_sub_add_right, Nat.add_right_comm, Nat.add_assoc]

/-- What starts no tag is read on. A backslash before a bracket is dropped. -/
theorem pieces_cons {c : CodePoint} {t : Text} (hc : c ≠ '\\') (ht : c = '[' → tagBody? t = none)
    (fuel : Nat) (run : Text) (slashes : Nat) :
    pieces (fuel + 1) run slashes (c :: t) =
      pieces fuel (c :: (List.replicate (if c = '[' then slashes - 1 else slashes)
        (CodePoint.scalar '\\') ++ run)) 0 t := by
  rw [pieces, if_neg hc]
  by_cases hopen : c = CodePoint.scalar '['
  · rw [if_pos hopen, ht hopen, if_pos hopen]
    rfl
  · rw [if_neg hopen, if_neg hopen]
    rfl

theorem pieces_tag {t body rest : Text} (ht : tagBody? t = some (body, rest)) (fuel : Nat)
    (run : Text) (slashes : Nat) :
    pieces (fuel + 1) run slashes (CodePoint.scalar '[' :: t) =
      plainPiece run.reverse ++ tagPieces slashes body ++ pieces fuel [] 0 rest := by
  rw [pieces, if_neg (by decide), if_pos rfl, ht]

/-- Without an opening bracket all is one piece. -/
theorem pieces_of_not_mem {t : Text} (h : CodePoint.scalar '[' ∉ t) :
    ∀ {fuel : Nat}, t.length < fuel → ∀ (run : Text) (slashes : Nat), pieces fuel run slashes t =
      plainPiece (run.reverse ++ List.replicate slashes (CodePoint.scalar '\\') ++ t) := by
  induction t with
  | nil =>
    intro fuel hfuel run slashes
    obtain ⟨fuel, rfl⟩ := Nat.exists_eq_add_one_of_ne_zero (Nat.ne_of_gt hfuel)
    rw [pieces, List.append_nil]
  | cons c t ih =>
    intro fuel hfuel run slashes
    rw [List.mem_cons, not_or] at h
    obtain ⟨fuel, rfl⟩ := Nat.exists_eq_add_one_of_ne_zero (Nat.ne_of_gt (Nat.zero_lt_of_lt hfuel))
    have hlength : t.length < fuel := Nat.lt_of_succ_lt_succ hfuel
    rw [pieces]
    split
    · rename_i hc
      rw [ih h.2 hlength, List.replicate_succ', hc]
      simp
    · rw [if_neg fun hc => h.1 hc.symm, ih h.2 hlength]
      simp

theorem plainPiece_of_ne_nil {t : Text} (h : t ≠ []) : plainPiece t = [.plain t] := by
  rw [plainPiece, if_neg (by simpa using h)]

/-- A text that was begun stays the beginning of the first piece. -/
theorem exists_pieces_cons (fuel : Nat) : ∀ {run : Text} (slashes : Nat) {t : Text}, run ≠ [] →
    t.length < fuel → ∃ u rest, pieces fuel run slashes t = .plain (run.reverse ++ u) :: rest := by
  induction fuel with
  | zero => exact fun _ _ _ h => absurd h (Nat.not_lt_zero _)
  | succ fuel ih =>
    intro run slashes t hrun ht
    have hreverse : run.reverse ≠ [] := mt List.reverse_eq_nil_iff.1 hrun
    cases t with
    | nil =>
      refine ⟨List.replicate slashes (CodePoint.scalar '\\'), [], ?_⟩
      rw [pieces, plainPiece_of_ne_nil (List.append_ne_nil_of_left_ne_nil hreverse _)]
    | cons c t =>
      have hlength : t.length < fuel := Nat.lt_of_succ_lt_succ ht
      rcases cons_cases c t with rfl | ⟨body, rest, rfl, hbody⟩ | ⟨hc, htag⟩
      · rw [pieces, if_pos rfl]
        exact ih (slashes + 1) hrun hlength
      · refine ⟨[], tagPieces slashes body ++ pieces fuel [] 0 rest, ?_⟩
        rw [pieces_tag hbody, plainPiece_of_ne_nil hreverse, List.append_nil, List.append_assoc]
        rfl
      · rw [pieces_cons hc htag]
        generalize (if c = '[' then slashes - 1 else slashes) = kept
        obtain ⟨u, rest, hu⟩ := ih 0 (List.cons_ne_nil c (List.replicate kept _ ++ run)) hlength
        refine ⟨List.replicate kept (CodePoint.scalar '\\') ++ [c] ++ u, rest, ?_⟩
        rw [hu]
        simp

/-- A text without tags and backslashes is read as it is. -/
theorem pieces_append {x : Text} (hx : ∀ c ∈ x, c ≠ '\\' ∧ c ≠ '[') : ∀ {fuel : Nat},
    x.length ≤ fuel → ∀ run t, pieces fuel run 0 (x ++ t) =
      pieces (fuel - x.length) (x.reverse ++ run) 0 t := by
  induction x with
  | nil => exact fun _ _ _ => rfl
  | cons c x ih =>
    intro fuel hfuel run t
    obtain ⟨fuel, rfl⟩ := Nat.exists_eq_add_one_of_ne_zero (Nat.ne_of_gt (Nat.zero_lt_of_lt hfuel))
    have hc := hx c List.mem_cons_self
    rw [List.cons_append, pieces, if_neg hc.1, if_neg hc.2,
      ih (fun d hd => hx d (List.mem_cons_of_mem _ hd)) (Nat.le_of_succ_le_succ hfuel),
      List.length_cons, Nat.add_sub_add_right]
    simp

theorem isPlain_of_mem_tagPieces_odd (slashes : Nat) (body : Text) :
    ∀ p ∈ tagPieces (2 * slashes + 1) body, p.IsPlain := by
  intro p hp
  rw [tagPieces, if_neg (by omega), List.mem_append] at hp
  rcases hp with hp | hp
  · exact isPlain_of_mem_plainPiece hp
  · obtain rfl := List.mem_singleton.1 hp
    trivial

/-- No tag is cut out of a text that is read from here on, and what comes after it belongs to its
last piece. -/
def ReadsOn (y : Text) (fuel : Nat) (run : Text) (slashes : Nat) (t : Text) : Prop :=
  ∃ front last, (∀ p ∈ front, p.IsPlain) ∧
    pieces fuel run slashes t = front ++ plainPiece last ∧
    pieces fuel run slashes (t ++ y) = front ++ plainPiece (last ++ y)

theorem ReadsOn.nil (hy : Unbracketed y) {fuel : Nat} (hfuel : y.length < fuel) (run : Text)
    (slashes : Nat) : ReadsOn y fuel run slashes [] := by
  have hopen : CodePoint.scalar '[' ∉ y := fun h => (hy _ h).1 rfl
  refine ⟨[], run.reverse ++ List.replicate slashes (CodePoint.scalar '\\'), nofun, ?_, ?_⟩
  · rw [pieces_of_not_mem List.not_mem_nil (Nat.zero_lt_of_lt hfuel), List.append_nil]
    rfl
  · exact pieces_of_not_mem hopen hfuel run slashes

theorem ReadsOn.replicate {fuel slashes n : Nat} {run t : Text} (hn : n ≤ fuel)
    (h : ReadsOn y (fuel - n) run (slashes + n) t) :
    ReadsOn y fuel run slashes (List.replicate n (CodePoint.scalar '\\') ++ t) := by
  obtain ⟨front, last, hplain, ht, hty⟩ := h
  refine ⟨front, last, hplain, ?_, ?_⟩
  · rw [pieces_replicate hn, ht]
  · rw [List.append_assoc, pieces_replicate hn, hty]

theorem ReadsOn.cons {fuel slashes : Nat} {run t : Text} {c : CodePoint} (hc : c ≠ '\\')
    (ht : c = '[' → tagBody? t = none) (hty : c = '[' → tagBody? (t ++ y) = none)
    (h : ∀ run, ReadsOn y fuel run 0 t) : ReadsOn y (fuel + 1) run slashes (c :: t) := by
  unfold ReadsOn
  rw [List.cons_append, pieces_cons hc ht, pieces_cons hc hty]
  exact h _

/-- A tag with an odd number of backslashes before it is none. -/
theorem ReadsOn.tag {fuel slashes : Nat} {run t body : Text}
    (hbody : ∀ z, tagBody? (body ++ CodePoint.scalar ']' :: z) = some (body, z))
    (h : ReadsOn y fuel [] 0 t) : ReadsOn y (fuel + 1) run (2 * slashes + 1)
      (CodePoint.scalar '[' :: (body ++ CodePoint.scalar ']' :: t)) := by
  obtain ⟨front, last, hplain, ht, hty⟩ := h
  refine ⟨plainPiece run.reverse ++ tagPieces (2 * slashes + 1) body ++ front, last,
    fun p hp => ?_, ?_, ?_⟩
  · rw [List.mem_append, List.mem_append] at hp
    rcases hp with (hp | hp) | hp
    · exact isPlain_of_mem_plainPiece hp
    · exact isPlain_of_mem_tagPieces_odd slashes body p hp
    · exact hplain p hp
  · rw [pieces_tag (hbody t), ht, List.append_assoc _ front]
  · rw [List.cons_append, List.append_assoc body, List.cons_append, pieces_tag (hbody _), hty,
      List.append_assoc _ front]

/-- An escaped text has no tags. -/
theorem readsOn_escape (hy : Unbracketed y) (levels : Nat) : ∀ {slashes fuel : Nat} {t run : Text},
    t.length < levels → (escape.go levels slashes t ++ y).length < fuel →
      ReadsOn y fuel run 0 (escape.go levels slashes t) := by
  induction levels with
  | zero => exact fun h => absurd h (Nat.not_lt_zero _)
  | succ levels ih =>
    intro slashes fuel t run ht hfuel
    cases t with
    | nil =>
      rw [escape.go, List.length_append, List.length_replicate] at hfuel
      rw [escape.go, ← List.append_nil (List.replicate _ _)]
      exact .replicate (by omega) (.nil hy (by omega) run _)
    | cons c t =>
      have hlevels : t.length < levels := Nat.lt_of_succ_lt_succ ht
      rcases cons_cases c t with rfl | ⟨body, rest, rfl, hbody⟩ | ⟨hc, htag⟩
      · rw [escape.go, if_pos rfl] at hfuel ⊢
        exact ih hlevels hfuel
      · obtain ⟨rfl, hany⟩ := of_tagBody? hbody
        rw [escape_tag hbody] at hfuel ⊢
        simp only [List.length_append, List.length_cons, List.length_replicate] at hfuel hlevels
        obtain ⟨left, hleft⟩ := Nat.exists_eq_add_one_of_ne_zero
          (show fuel - (2 * slashes + 1) ≠ 0 by omega)
        refine .replicate (by omega) ?_
        rw [hleft, Nat.zero_add]
        exact .tag hany (ih (by omega) (by rw [List.length_append]; omega))
      · rw [escape_cons hc htag] at hfuel ⊢
        simp only [List.length_append, List.length_cons, List.length_replicate] at hfuel
        obtain ⟨left, hleft⟩ := Nat.exists_eq_add_one_of_ne_zero (show fuel - slashes ≠ 0 by omega)
        refine .replicate (by omega) ?_
        rw [hleft]
        refine .cons hc (fun h => ?_) (fun h => tagBody?_escape hy levels (htag h)) fun run =>
          ih hlevels (by rw [List.length_append]; omega)
        rw [← List.append_nil (escape.go _ _ _)]
        exact tagBody?_escape unbracketed_nil levels (htag h)

/-! ## Printing -/

theorem isPlain_singleton (t : Text) : ∀ p ∈ [Piece.plain t], p.IsPlain :=
  List.forall_mem_singleton.2 trivial

theorem printed_append {front : List Piece} (h : ∀ p ∈ front, p.IsPlain) (opened : List Tag) :
    ∃ u, ∀ ps t, printed opened ps = .ok t → printed opened (front ++ ps) = .ok (u ++ t) := by
  induction front with
  | nil => exact ⟨[], fun ps t ht => ht⟩
  | cons p front ih =>
    obtain ⟨u, hu⟩ := ih fun q hq => h q (List.mem_cons_of_mem _ hq)
    cases p with
    | plain v =>
      refine ⟨draw v ++ u, fun ps t ht => ?_⟩
      rw [List.cons_append, printed, hu ps t ht, List.append_assoc]
      rfl
    | tag tag => exact (h _ List.mem_cons_self).elim

theorem printed_singleton (opened : List Tag) (t : Text) :
    printed opened [.plain t] = .ok (draw t) := by
  rw [printed, printed]
  exact congrArg Except.ok (List.append_nil _)

theorem render_of_printed {t text : Text} (hplain : ∀ p ∈ pieces (t.length + 1) [] 0 t, p.IsPlain)
    (h : printed [] (pieces (t.length + 1) [] 0 t) = .ok text) :
    render t = .ok (Text.expandTabs (text.filter fun c => !isCursorCode c) ++ [Text.newline]) := by
  unfold render
  simp only [h, readStyle_of_isPlain hplain]
  rfl

/-- A message without brackets is printed as it is. -/
theorem render_of_isShown {t : Text} (h : IsShown t) (hopen : CodePoint.scalar '[' ∉ t)
    (hne : t ≠ []) : render t = .ok (t ++ [Text.newline]) := by
  have hpieces : pieces (t.length + 1) [] 0 t = [.plain t] := by
    rw [pieces_of_not_mem hopen t.length.lt_succ_self, ← plainPiece_of_ne_nil hne]
    rfl
  have hplain : ∀ p ∈ pieces (t.length + 1) [] 0 t, p.IsPlain := hpieces ▸ isPlain_singleton t
  have htab : CodePoint.scalar '\t' ∉ t := fun hm => (h.inline _ hm).1 rfl
  rw [render_of_printed hplain (by rw [hpieces, printed_singleton]), h.draw_eq, h.filter_eq,
    Text.expandTabs_of_not_mem htab]

/-! ## Messages -/

/-- A phrase: no bracket is in it, and words that come after it are shown as they are, and so is
it. -/
structure IsPhrase (t : Text) : Prop where
  append_isShown : ∀ ⦃v⦄, IsShown v → IsShown (t ++ v)
  unbracketed : Unbracketed t

namespace IsPhrase

variable {t u : Text}

theorem isShown (h : IsPhrase t) : IsShown t := by
  have hshown := h.append_isShown isShown_nil
  rwa [List.append_nil] at hshown

theorem append (ht : IsPhrase t) (hu : IsPhrase u) : IsPhrase (t ++ u) where
  append_isShown v hv := by
    rw [List.append_assoc]
    exact ht.append_isShown (hu.append_isShown hv)
  unbracketed := ht.unbracketed.append hu.unbracketed

theorem of_isInert (h : IsInert t) : IsPhrase t := ⟨fun _ => h.append_isShown, h.unbracketed⟩

/-- A blank at the end keeps what comes after it apart. -/
theorem of_isShown (h : IsShown t) (hplain : Unbracketed t) :
    IsPhrase (t ++ [CodePoint.scalar ' ']) where
  append_isShown v hv := by
    rw [List.append_assoc]
    exact h.append_blank hv
  unbracketed := hplain.append (by decide)

theorem open_not_mem (h : IsPhrase t) : CodePoint.scalar '[' ∉ t :=
  fun hm => (h.unbracketed _ hm).1 rfl

theorem escape_eq (h : IsPhrase t) (hlast : CodePoint.scalar '\\' ∉ t.getLast?) : escape t = t :=
  escape_of_not_mem h.open_not_mem hlast

end IsPhrase

/-- The words of a message around a text of somebody else: the opening and the ending stand apart
from it, the joint does not. They are shown as they are, and start and end no tag. -/
structure Surrounds (opening joint ending : Text) : Prop where
  opening_shown : IsShown opening
  opening_plain : ∀ c ∈ opening, c ≠ '\\' ∧ c ≠ '['
  joint_shown : IsShown joint
  joint_plain : Unbracketed joint
  ending_shown : IsShown ending
  ending_plain : Unbracketed ending

/-- Pieces that no tag is among, the first of which begins with `x`, and the last of which ends
with `y`. -/
theorem exists_printed {front : List Piece} {last x u y : Text} {rest : List Piece} (hy : y ≠ [])
    (hplain : ∀ p ∈ front, p.IsPlain) (hx : front ++ plainPiece last = .plain (x ++ u) :: rest) :
    (∃ v, front ++ plainPiece (last ++ y) = [.plain (x ++ v ++ y)]) ∨
      ∃ v middle w, (∀ p ∈ middle, p.IsPlain) ∧
        front ++ plainPiece (last ++ y) = .plain (x ++ v) :: (middle ++ [.plain (w ++ y)]) := by
  rw [plainPiece_of_ne_nil (List.append_ne_nil_of_right_ne_nil last hy)]
  cases front with
  | nil =>
    by_cases hlast : last = []
    · rw [hlast] at hx
      cases hx
    · rw [List.nil_append, plainPiece_of_ne_nil hlast] at hx
      cases hx
      exact Or.inl ⟨u, rfl⟩
  | cons p front =>
    cases hx
    exact Or.inr ⟨u, front, last, fun q hq => hplain q (List.mem_cons_of_mem _ hq), rfl⟩

section

variable {opening joint ending : Text}

theorem Surrounds.unbracketed (h : Surrounds opening joint ending) :
    Unbracketed (joint ++ CodePoint.scalar ' ' :: ending) := by
  have hblank : Unbracketed [CodePoint.scalar ' '] := by decide
  exact h.joint_plain.append (hblank.append h.ending_plain)

theorem Surrounds.draw_opening (h : Surrounds opening joint ending) (u : Text) :
    draw (opening ++ [CodePoint.scalar ' '] ++ u) =
      opening ++ [CodePoint.scalar ' '] ++ draw u := by
  rw [List.append_assoc, List.singleton_append, draw_append_blank, h.opening_shown.draw_eq,
    List.append_assoc, List.singleton_append]

theorem Surrounds.draw_ending (h : Surrounds opening joint ending) (u : Text) :
    draw (u ++ (joint ++ CodePoint.scalar ' ' :: ending)) =
      draw (u ++ joint) ++ CodePoint.scalar ' ' :: ending := by
  rw [← List.append_assoc, draw_append_blank, h.ending_shown.draw_eq]

/-- What is printed for a message around an escaped text. -/
theorem printed_around (h : Surrounds opening joint ending) (t : Text) :
    let message := opening ++ [CodePoint.scalar ' '] ++
      (escape t ++ (joint ++ CodePoint.scalar ' ' :: ending))
    (∀ p ∈ pieces (message.length + 1) [] 0 message, p.IsPlain) ∧
      ∃ shown, printed [] (pieces (message.length + 1) [] 0 message) =
        .ok (opening ++ [CodePoint.scalar ' '] ++ shown ++ CodePoint.scalar ' ' :: ending) := by
  intro message
  have hblank : ∀ c ∈ opening ++ [CodePoint.scalar ' '], c ≠ '\\' ∧ c ≠ '[' := by
    intro c hc
    rcases List.mem_append.1 hc with hc | hc
    · exact h.opening_plain c hc
    · obtain rfl := List.mem_singleton.1 hc
      decide
  have hy := h.unbracketed
  have hlength : (opening ++ [CodePoint.scalar ' ']).length ≤ message.length + 1 := by
    simp only [message, List.length_append]
    omega
  have hleft : (escape t ++ (joint ++ CodePoint.scalar ' ' :: ending)).length <
      message.length + 1 - (opening ++ [CodePoint.scalar ' ']).length := by
    simp only [message, List.length_append]
    omega
  -- the escaped text is read after the opening, which is the beginning of the first piece
  rw [pieces_append hblank hlength, List.append_nil]
  generalize message.length + 1 - (opening ++ [CodePoint.scalar ' ']).length = fuel at hleft ⊢
  have hread : ReadsOn _ fuel (opening ++ [CodePoint.scalar ' ']).reverse 0 (escape t) :=
    readsOn_escape hy _ t.length.lt_succ_self hleft
  obtain ⟨front, last, hplain, hescaped, hall⟩ := hread
  rw [List.length_append] at hleft
  obtain ⟨u, rest, hu⟩ : ∃ u rest, pieces fuel (opening ++ [CodePoint.scalar ' ']).reverse 0
      (escape t) = .plain ((opening ++ [CodePoint.scalar ' ']).reverse.reverse ++ u) :: rest :=
    exists_pieces_cons fuel 0 (by simp) (by omega)
  rw [List.reverse_reverse, hescaped] at hu
  rw [hall]
  have hne : joint ++ CodePoint.scalar ' ' :: ending ≠ [] :=
    List.append_ne_nil_of_right_ne_nil _ (List.cons_ne_nil _ _)
  rcases exists_printed hne hplain hu with ⟨v, hone⟩ | ⟨v, middle, w, hmiddle, hmany⟩
  · rw [hone]
    refine ⟨isPlain_singleton _, draw (v ++ joint), ?_⟩
    rw [printed_singleton, List.append_assoc, h.draw_opening, h.draw_ending]
    simp
  · rw [hmany]
    obtain ⟨z, hz⟩ := printed_append hmiddle []
    refine ⟨?_, draw v ++ z ++ draw (w ++ joint), ?_⟩
    · exact List.forall_mem_cons.2 ⟨trivial, List.forall_mem_append.2 ⟨hmiddle, isPlain_singleton _⟩⟩
    · rw [printed, hz _ _ (printed_singleton [] _), h.draw_opening, h.draw_ending]
      exact congrArg Except.ok (by simp)

/-- A message around a text of somebody else is printed, whatever the text is, and begins and ends
in its own words. -/
theorem render_around (h : Surrounds opening joint ending) (t : Text) :
    ∃ shown, render (opening ++ [CodePoint.scalar ' '] ++
        (escape t ++ (joint ++ CodePoint.scalar ' ' :: ending))) =
      .ok (opening ++ [CodePoint.scalar ' '] ++ shown ++ CodePoint.scalar ' ' :: ending ++
        [Text.newline]) := by
  obtain ⟨hplain, shown, hprinted⟩ := printed_around h t
  have hopening : IsShown (opening ++ [CodePoint.scalar ' ']) :=
    h.opening_shown.append_blank isShown_nil
  have hending : IsShown (CodePoint.scalar ' ' :: ending) :=
    isShown_nil.append_blank h.ending_shown
  rw [render_of_printed hplain hprinted, List.filter_append, List.filter_append,
    hopening.filter_eq, hending.filter_eq, Text.expandTabs_append _ hending.inline]
  obtain ⟨z, hz⟩ := Text.expandTabs_append_left hopening.inline (shown.filter fun c => !isCursorCode c)
  exact ⟨z, by rw [hz]⟩

/-- An ordinary text in a message is shown as it is. -/
theorem render_around_of_isOrdinary (h : Surrounds opening joint ending) {t : Text}
    (ht : IsOrdinary t) :
    render (opening ++ [CodePoint.scalar ' '] ++
        (escape t ++ (joint ++ CodePoint.scalar ' ' :: ending))) =
      .ok (opening ++ [CodePoint.scalar ' '] ++ (t ++ joint) ++ CodePoint.scalar ' ' :: ending ++
        [Text.newline]) := by
  have hall : opening ++ [CodePoint.scalar ' '] ++
      (t ++ (joint ++ CodePoint.scalar ' ' :: ending)) =
        opening ++ CodePoint.scalar ' ' :: (t ++ joint ++ CodePoint.scalar ' ' :: ending) := by
    simp
  have hmiddle := (ht.inert.append_isShown h.joint_shown).append_blank h.ending_shown
  rw [ht.escape_eq, hall, render_of_isShown]
  · simp
  · exact h.opening_shown.append_blank hmiddle
  · intro hm
    rw [← hall] at hm
    rcases List.mem_append.1 hm with hm | hm
    · rcases List.mem_append.1 hm with hm | hm
      · exact (h.opening_plain _ hm).2 rfl
      · cases List.mem_singleton.1 hm
    · rcases List.mem_append.1 hm with hm | hm
      · exact ht.inert.not_mem rfl hm
      · exact (h.unbracketed _ hm).1 rfl
  · simp

/-- A message around a text of somebody else is printed in its own words, whatever the text is, and
the text is shown as it is if it is ordinary. -/
theorem render_message (h : Surrounds opening joint ending) (t : Text) :
    ∃ shown, (IsOrdinary t → shown = t ++ joint) ∧
      render (opening ++ [CodePoint.scalar ' '] ++
          (escape t ++ (joint ++ CodePoint.scalar ' ' :: ending))) =
        .ok (opening ++ [CodePoint.scalar ' '] ++ shown ++ CodePoint.scalar ' ' :: ending ++
          [Text.newline]) := by
  by_cases ht : IsOrdinary t
  · exact ⟨t ++ joint, fun _ => rfl, render_around_of_isOrdinary h ht⟩
  · obtain ⟨shown, hshown⟩ := render_around h t
    exact ⟨shown, fun h => absurd h ht, hshown⟩

end

end JsLiteral.Markup
