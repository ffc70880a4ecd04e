import JsLiteral.Proofs.Json.Compact
import JsLiteral.Proofs.Json.Numerals
import JsLiteral.Proofs.Json.Quoting

/-!
# Compact JSON is read back

The text of a configuration is one JSON document, and a reader that knows nothing of the writer
gives back what was written: the same words and numbers, texts with the same code units, lists and
tuples item by item and dictionaries member by member, references to the heap followed. A member
whose name is no text is read under the spelling of its name, and a text with a split surrogate
pair comes back with the pair joined.

    a text whose pairs are joined is told by its code units      (eq_of_units_eq_of_isUnpaired)
    what is read of a value is determined by it                  (Loads.unique)
    what was written at one place is read there                  (exists_isRead)
    Compact.text heap v = .ok t → ∃ u, Loads heap v u ∧ read t = .ok u     (exists_read_text)
-/

namespace JsLiteral.Json

open Text Script

/-! ## Code units of joined texts -/

theorem units_cons (c : CodePoint) (t : Text) : units (c :: t) = c.units ++ units t :=
  List.flatMap_cons

theorem units_eq_singleton {c : CodePoint} (h : c.toNat < 0x10000) : c.units = [c.toNat] := by
  unfold CodePoint.units
  exact if_pos h

/-- A code point past U+FFFF has a high unit and a low one, which tell it from the others. -/
theorem exists_units_eq {c : CodePoint} (h : ¬ c.toNat < 0x10000) :
    ∃ hi lo, c.units = [hi, lo] ∧ 0xD800 ≤ hi ∧ hi < 0xDC00 ∧ 0xDC00 ≤ lo ∧ lo < 0xE000 ∧
      c.toNat = 0x10000 + (hi - 0xD800) * 0x400 + (lo - 0xDC00) := by
  have hmax := c.toNat_lt
  unfold CodePoint.units
  refine ⟨_, _, if_neg h, ?_, ?_, ?_, ?_, ?_⟩ <;> omega

theorem eq_of_toNat_eq {c d : CodePoint} (h : c.toNat = d.toNat) : c = d := by
  rw [← c.ofNat_toNat, h, d.ofNat_toNat]

/-- No text goes on with the low unit of a pair where a code point that is a high unit stands. -/
theorem not_isUnpaired_of_units {c d : CodePoint} {a b : Text} (hc : c.toNat < 0x10000)
    (hd : ¬ d.toNat < 0x10000) (h : units (c :: a) = units (d :: b)) :
    isUnpaired (c :: a) = false := by
  obtain ⟨hi, lo, hunits, h1, h2, h3, h4, -⟩ := exists_units_eq hd
  rw [units_cons, units_cons, units_eq_singleton hc, hunits, List.singleton_append,
    List.cons_append, List.cons.injEq] at h
  obtain ⟨rfl, htail⟩ := h
  cases a with
  | nil => cases htail
  | cons e a =>
    have hlow : e.toNat = lo := by
      rw [units_cons] at htail
      by_cases he : e.toNat < 0x10000
      · rw [units_eq_singleton he] at htail
        exact (List.cons.inj htail).1
      · obtain ⟨hi', lo', hunits', h1', h2', -⟩ := exists_units_eq he
        rw [hunits'] at htail
        have := (List.cons.inj htail).1
        omega
    have hpair : (c.isHigh && e.isLow) = true := by
      rw [Bool.and_eq_true, CodePoint.isHigh_iff, CodePoint.isLow_iff]
      omega
    rw [isUnpaired, hpair]
    rfl

/-- Texts without split pairs are told apart by their code units. -/
theorem eq_of_units_eq_of_isUnpaired {a b : Text} (ha : isUnpaired a = true)
    (hb : isUnpaired b = true) (h : units a = units b) : a = b := by
  have hne : ∀ (c : CodePoint) (t : Text), units (c :: t) ≠ [] := by
    intro c t hnil
    rw [units_cons, List.append_eq_nil_iff] at hnil
    unfold CodePoint.units at hnil
    simp only at hnil
    split at hnil
    · cases hnil.1
    · cases hnil.1
  induction a generalizing b with
  | nil =>
    cases b with
    | nil => rfl
    | cons d b => exact absurd h.symm (hne d b)
  | cons c a ih =>
    cases b with
    | nil => exact absurd h (hne c a)
    | cons d b =>
      have hrest : c = d → c :: a = d :: b := by
        rintro rfl
        rw [units_cons, units_cons, List.append_cancel_left_eq] at h
        rw [ih (isUnpaired_tail ha) (isUnpaired_tail hb) h]
      by_cases hc : c.toNat < 0x10000
      · by_cases hd : d.toNat < 0x10000
        · rw [units_cons, units_cons, units_eq_singleton hc, units_eq_singleton hd] at h
          exact hrest (eq_of_toNat_eq (List.cons.inj h).1)
        · rw [not_isUnpaired_of_units hc hd h] at ha
          cases ha
      · by_cases hd : d.toNat < 0x10000
        · rw [not_isUnpaired_of_units hd hc h.symm] at hb
          cases hb
        · obtain ⟨hi, lo, hunits, -, -, -, -, hnum⟩ := exists_units_eq hc
          obtain ⟨hi', lo', hunits', -, -, -, -, hnum'⟩ := exists_units_eq hd
          simp only [units_cons, hunits, hunits', List.cons_append, List.nil_append,
            List.cons.injEq] at h
          exact hrest (eq_of_toNat_eq (by rw [hnum, hnum', h.1, h.2.1]))

/-- What begins a joined text is the first of its code points, or a pair that it begins. -/
theorem exists_joinPairs_cons (b : Bool) (c : CodePoint) (us : List (Bool × CodePoint)) :
    ∃ d t, joinPairs ((b, c) :: us) = d :: t ∧ (d = c ∨ d.isHigh = false ∧ d.isLow = false) := by
  rw [joinPairs.eq_def]
  split
  · rename_i h
    cases h
  · rename_i hi lo rest h
    cases h
    split
    · rename_i hpair
      refine ⟨_, _, rfl, Or.inr ?_⟩
      rw [Bool.and_eq_true, CodePoint.isHigh_iff, CodePoint.isLow_iff] at hpair
      rw [← Bool.not_eq_true, ← Bool.not_eq_true, CodePoint.isHigh_iff, CodePoint.isLow_iff,
        CodePoint.toNat_ofNat (by omega)]
      omega
    · exact ⟨_, _, rfl, Or.inl rfl⟩
  · rename_i b' c' rest _ h
    cases h
    exact ⟨_, _, rfl, Or.inl rfl⟩

theorem isUnpaired_cons_of_not_isHigh {c : CodePoint} (hc : c.isHigh = false) (t : Text) :
    isUnpaired (c :: t) = isUnpaired t := by
  cases t with
  | nil => rfl
  | cons d t => rw [isUnpaired, hc, Bool.false_and, Bool.not_false, Bool.true_and]

theorem isLow_of_not_isSurrogate {c : CodePoint} (h : c.isSurrogate = false) : c.isLow = false := by
  rw [isSurrogate_eq_false_iff] at h
  rw [← Bool.not_eq_true, CodePoint.isLow_iff]
  omega

/-- Where all surrogates were escaped, each pair of them is joined. -/
theorem isUnpaired_joinPairs {us : List (Bool × CodePoint)} (h : IsMarked us) :
    isUnpaired (joinPairs us) = true := by
  have htail : ∀ {p : Bool × CodePoint} {vs}, IsMarked (p :: vs) → IsMarked vs :=
    fun h q hq => h q (List.mem_cons_of_mem _ hq)
  fun_induction joinPairs us with
  | case1 => rfl
  | case2 hi lo rest hpair ih =>
    rw [Bool.and_eq_true, CodePoint.isHigh_iff, CodePoint.isLow_iff] at hpair
    rw [isUnpaired_cons_of_not_isHigh, ih (htail (htail h))]
    rw [← Bool.not_eq_true, CodePoint.isHigh_iff, CodePoint.toNat_ofNat (by omega)]
    omega
  | case3 hi lo rest hpair ih =>
    have hrest := ih (htail h)
    obtain ⟨d, t, he, hd⟩ := exists_joinPairs_cons true lo rest
    have hsplit : (hi.isHigh && d.isLow) = false := by
      rcases hd with rfl | ⟨-, hlow⟩
      · exact Bool.not_eq_true _ ▸ hpair
      · rw [hlow, Bool.and_false]
    rw [he] at hrest ⊢
    rw [isUnpaired, hsplit, hrest]
    rfl
  | case4 b c rest hne ih =>
    have hrest := ih (htail h)
    cases hc : c.isHigh with
    | false => rw [isUnpaired_cons_of_not_isHigh hc, hrest]
    | true =>
      obtain rfl : b = true :=
        h (b, c) List.mem_cons_self (CodePoint.isSurrogate_of_isHigh hc)
      cases rest with
      | nil => rfl
      | cons p rest =>
        obtain ⟨b', lo⟩ := p
        -- an escaped code point after it would be another case
        obtain rfl : b' = false := by
          cases b' with
          | false => rfl
          | true => exact (hne lo rest rfl rfl).elim
        have hlow : lo.isLow = false := by
          refine isLow_of_not_isSurrogate ?_
          cases hs : lo.isSurrogate with
          | false => rfl
          | true => cases h (false, lo) (List.mem_cons_of_mem _ List.mem_cons_self) hs
        obtain ⟨d, t, he, hd⟩ := exists_joinPairs_cons false lo rest
        have hsplit : d.isLow = false := by
          rcases hd with rfl | ⟨-, hd⟩
          · exact hlow
          · exact hd
        rw [he] at hrest ⊢
        rw [isUnpaired, hsplit, Bool.and_false, hrest]
        rfl

/-! ## Texts -/

/-- The text with the code units of `t` in which no pair is split. -/
structure Joins (t u : Text) : Prop where
  units : Script.units u = Script.units t
  isUnpaired : u.isUnpaired = true

theorem Joins.unique {t u u' : Text} (h : Joins t u) (h' : Joins t u') : u' = u :=
  eq_of_units_eq_of_isUnpaired h'.isUnpaired h.isUnpaired (h'.units.trans h.units.symm)

/-- A text without split pairs is read as it is. -/
theorem joins_self {t : Text} (h : t.isUnpaired = true) : Joins t t := ⟨rfl, h⟩

/-- What is read of a text in ASCII escapes has its code units. -/
theorem exists_readStringBody_quoteAscii (t : Text) :
    ∃ us : List (Bool × CodePoint), IsMarked us ∧ units (us.map Prod.snd) = units t ∧
      ∀ acc rest, readStringBody acc (t.flatMap quoteAsciiPoint ++ CodePoint.scalar '"' :: rest) =
        .ok (acc.reverse ++ us, rest) := by
  induction t with
  | nil =>
    refine ⟨[], fun _ hp => absurd hp List.not_mem_nil, rfl, fun acc rest => ?_⟩
    rw [List.append_nil]
    exact readStringBody_quote
  | cons c t ih =>
    obtain ⟨us, hmarked, hunits, hread⟩ := ih
    obtain ⟨vs, hmarked', hunits', hread'⟩ : ∃ vs : List (Bool × CodePoint), IsMarked vs ∧
        units (vs.map Prod.snd) = c.units ∧ ∀ acc rest, rest ≠ [] →
          readStringBody acc (quoteAsciiPoint c ++ rest) =
            readStringBody (vs.reverse ++ acc) rest := by
      cases hc : c.isSurrogate with
      | false =>
        obtain ⟨vs, hvs, hjoin, hread⟩ := readStringBody_quoteAsciiPoint hc
        refine ⟨vs, hvs, ?_, hread⟩
        have hunits := units_joinPairs (vs ++ [])
        rw [hjoin [], List.append_nil] at hunits
        exact hunits.symm.trans (List.append_nil _)
      | true =>
        cases c with
        | scalar c => cases hc
        | surrogate s =>
          exact ⟨[(true, .surrogate s)], isMarked_singleton fun _ => rfl, List.append_nil _,
            fun acc rest hr => readStringBody_quoteAsciiPoint_surrogate s acc hr⟩
    refine ⟨vs ++ us, hmarked'.append hmarked, ?_, fun acc rest => ?_⟩
    · rw [List.map_append, units_cons, ← hunits, ← hunits']
      exact List.flatMap_append
    · rw [List.flatMap_cons, List.append_assoc, hread' _ _ (by simp), hread, List.reverse_append,
        List.reverse_reverse, List.append_assoc]

/-- A text in ASCII escapes is read as the text with its pairs joined. -/
theorem exists_joins (t : Text) : ∃ u, Joins t u ∧ ∀ rest,
    readString (t.flatMap quoteAsciiPoint ++ CodePoint.scalar '"' :: rest) = .ok (u, rest) := by
  obtain ⟨us, hmarked, hunits, hread⟩ := exists_readStringBody_quoteAscii t
  refine ⟨joinPairs us, ⟨(units_joinPairs us).trans hunits, isUnpaired_joinPairs hmarked⟩,
    fun rest => ?_⟩
  rw [readString, hread]
  rfl

/-! ## What is read -/

/-- What is read where a value without parts was written. A float that is no number is read as
the one that `NaN` stands for. -/
inductive LeafLoads : Value → Value → Prop
  | null : LeafLoads .null .null
  | bool (b : Bool) : LeafLoads (.bool b) (.bool b)
  | int (n : Int) : LeafLoads (.int n) (.int n)
  | float {x : Binary64} (h : x.isNaN = false) : LeafLoads (.float x) (.float x)
  | nan {x : Binary64} (h : x.isNaN = true) : LeafLoads (.float x) (.float Binary64.nan)
  | text {t u : Text} (h : Joins t u) : LeafLoads (.text t) (.text u)

theorem LeafLoads.unique {v u u' : Value} (h : LeafLoads v u) (h' : LeafLoads v u') : u' = u := by
  cases h with
  | null => cases h'; rfl
  | bool => cases h'; rfl
  | int => cases h'; rfl
  | float hnumber =>
    cases h' with
    | float => rfl
    | nan hnan =>
      rw [hnumber] at hnan
      cases hnan
  | nan hnan =>
    cases h' with
    | float hnumber =>
      rw [hnumber] at hnan
      cases hnan
    | nan => rfl
  | text hjoins =>
    cases h' with
    | text hjoins' => rw [hjoins.unique hjoins']

theorem LeafLoads.container?_eq {heap : Heap} {v u : Value} (h : LeafLoads v u) :
    v.container? heap = none := by
  cases h <;> rfl

/-- The name that a member is read under: its own if it is a text, else one that spells it. -/
inductive NameLoads : Key → Text → Prop
  | text {t u : Text} (h : Joins t u) : NameLoads (.text t) u
  | null : NameLoads .null "null"
  | bool (b : Bool) : NameLoads (.bool b) (if b then "true" else "false")
  | int (n : Int) : NameLoads (.int n) (ofInt n)
  | float {x : Binary64} {u : Value} (h : LeafLoads (.float x) u)
    (hread : read (Compact.floatText x) = .ok u) : NameLoads (.float x) (Compact.floatText x)

theorem NameLoads.unique {key : Key} {name name' : Text} (h : NameLoads key name)
    (h' : NameLoads key name') : name' = name := by
  cases h with
  | text hjoins =>
    cases h' with
    | text hjoins' => exact hjoins.unique hjoins'
  | null => cases h'; rfl
  | bool => cases h'; rfl
  | int => cases h'; rfl
  | float => cases h'; rfl

mutual

/-- What is read where a value was written. Of members that are read under one name the last
counts, at the place of the first. -/
inductive Loads (heap : Heap) : Value → Value → Prop
  | leaf {v u : Value} (h : LeafLoads v u) : Loads heap v u
  | sequence {v : Value} {kind : SequenceKind} {items us : List Value}
    (hc : v.container? heap = some (.sequence kind items)) (hkind : kind = .list ∨ kind = .tuple)
    (h : ItemsLoad heap items us) : Loads heap v (.sequence .list us)
  | mapping {v : Value} {members us : Members}
    (hc : v.container? heap = some (.mapping .dict members)) (h : MembersLoad heap members us) :
    Loads heap v (.mapping .dict (Members.ofPairs us))

inductive ItemsLoad (heap : Heap) : List Value → List Value → Prop
  | nil : ItemsLoad heap [] []
  | cons {v u : Value} {items us : List Value} (h : Loads heap v u)
    (hrest : ItemsLoad heap items us) : ItemsLoad heap (v :: items) (u :: us)

inductive MembersLoad (heap : Heap) : Members → Members → Prop
  | nil : MembersLoad heap [] []
  | cons {key : Key} {name : Text} {v u : Value} {members us : Members} (hname : NameLoads key name)
    (h : Loads heap v u) (hrest : MembersLoad heap members us) :
    MembersLoad heap ((key, v) :: members) ((.text name, u) :: us)

end

variable {heap : Heap}

/-! ## One reading -/

mutual

/-- What is read of a value is one value. -/
theorem Loads.unique : ∀ {u : Value} {v u' : Value}, Loads heap v u → Loads heap v u' → u' = u
  | _, _, _, .leaf h, .leaf h' => h.unique h'
  | _, _, _, .leaf h, .sequence hc _ _ => by cases h.container?_eq.symm.trans hc
  | _, _, _, .leaf h, .mapping hc _ => by cases h.container?_eq.symm.trans hc
  | _, _, _, .sequence hc _ _, .leaf h => by cases h.container?_eq.symm.trans hc
  | _, _, _, .sequence hc _ h, .sequence hc' _ h' => by
    cases hc.symm.trans hc'
    rw [ItemsLoad.unique h h']
  | _, _, _, .sequence hc _ _, .mapping hc' _ => by cases hc.symm.trans hc'
  | _, _, _, .mapping hc _, .leaf h => by cases h.container?_eq.symm.trans hc
  | _, _, _, .mapping hc _, .sequence hc' _ _ => by cases hc.symm.trans hc'
  | _, _, _, .mapping hc h, .mapping hc' h' => by
    cases hc.symm.trans hc'
    rw [MembersLoad.unique h h']

theorem ItemsLoad.unique : ∀ {us : List Value} {items us' : List Value},
    ItemsLoad heap items us → ItemsLoad heap items us' → us' = us
  | _, _, _, .nil, .nil => rfl
  | _, _, _, .cons h hrest, .cons h' hrest' => by
    rw [Loads.unique h h', ItemsLoad.unique hrest hrest']

theorem MembersLoad.unique : ∀ {us : Members} {members us' : Members},
    MembersLoad heap members us → MembersLoad heap members us' → us' = us
  | _, _, _, .nil, .nil => rfl
  | _, _, _, .cons hname h hrest, .cons hname' h' hrest' => by
    rw [hname.unique hname', Loads.unique h h', MembersLoad.unique hrest hrest']

end

theorem MembersLoad.of_concat {members us : Members} {key : Key} {v : Value}
    (h : MembersLoad heap (members ++ [(key, v)]) us) : ∃ ps name u,
      us = ps ++ [(.text name, u)] ∧ NameLoads key name ∧ Loads heap v u := by
  induction members generalizing us with
  | nil =>
    cases h with
    | cons hname hv hrest =>
      cases hrest
      exact ⟨[], _, _, rfl, hname, hv⟩
  | cons p members ih =>
    cases h with
    | cons _ _ hrest =>
      obtain ⟨ps, name, u, rfl, hload⟩ := ih hrest
      exact ⟨_ :: ps, name, u, rfl, hload⟩

/-- A member that comes last is found under its name, whatever stands before it. -/
theorem MembersLoad.get?_concat {members us : Members} {name t : Text}
    (h : MembersLoad heap (members ++ [(.text name, .text t)]) us)
    (hname : name.isUnpaired = true) (ht : t.isUnpaired = true) :
    (Members.ofPairs us).get? (.text name) = some (.text t) := by
  obtain ⟨ps, name', u, rfl, hload, hvalue⟩ := h.of_concat
  have hlast : Members.ofPairs (ps ++ [(.text name', u)]) =
      (Members.ofPairs ps).insert (.text name') u := List.foldl_concat _ _ _ _
  have hself : (Key.text name).same (.text name) = true := beq_self_eq_true name
  rw [hlast, NameLoads.unique (.text (joins_self hname)) hload,
    Loads.unique (.leaf (.text (joins_self ht))) hvalue]
  exact Members.get?_insert hself _ _

/-! ## Documents -/

/-- A text that is read as a value, whatever follows that does not go on with a number. -/
structure IsRead (t : Text) (u : Value) : Prop where
  head : ∃ c r, t = c :: r ∧ isJsonBlank c = false ∧ c ≠ ']'
  read : ∀ (rest : Text) (fuel : Nat), EndsNumber rest → 2 * t.length ≤ fuel →
    readValue fuel (t ++ rest) = .ok (u, rest)

/-- A document in ASCII has no byte order mark, and nothing follows its value. -/
theorem IsRead.read_eq {t : Text} {u : Value} (h : IsRead t u) (ha : t.IsAscii) :
    Json.read t = .ok u := by
  have hread := h.read [] _ nofun (Nat.le_add_right (2 * t.length) 2)
  obtain ⟨c, r, rfl, hblank, -⟩ := h.head
  have hbom : ¬ c.toNat = 0xFEFF := by
    have := ha c List.mem_cons_self
    omega
  have hskip : skipBlanks (c :: r) = c :: r :=
    skipBlanks_append (fun _ hd => absurd hd List.not_mem_nil) hblank r
  rw [List.append_nil] at hread
  rw [Json.read, if_neg hbom, Json.read.go, hskip, hread]
  rfl

/-- A value that is read in one step is read with any fuel. -/
theorem IsRead.of_step {t : Text} {u : Value}
    (hhead : ∃ c r, t = c :: r ∧ isJsonBlank c = false ∧ c ≠ ']')
    (hstep : ∀ rest fuel, EndsNumber rest → readValue (fuel + 1) (t ++ rest) = .ok (u, rest)) :
    IsRead t u where
  head := hhead
  read := by
    intro rest fuel hr hf
    obtain ⟨c, r, rfl, -⟩ := hhead
    obtain ⟨n, rfl⟩ : ∃ n, fuel = n + 1 := ⟨fuel - 1, by rw [List.length_cons] at hf; omega⟩
    exact hstep rest n hr

/-! ## Leaves -/

theorem isRead_null : IsRead "null" .null :=
  .of_step ⟨_, _, rfl, by decide, by decide⟩ fun _ _ _ => rfl

theorem isRead_bool (b : Bool) : IsRead (if b then "true" else "false") (.bool b) := by
  cases b
  · exact .of_step ⟨_, _, rfl, by decide, by decide⟩ fun _ _ _ => rfl
  · exact .of_step ⟨_, _, rfl, by decide, by decide⟩ fun _ _ _ => rfl

theorem isRead_number {t : Text} {u : Value} (h : IsNumber t)
    (hread : ∀ {rest : Text}, EndsNumber rest → readNumber? (t ++ rest) = some (u, rest)) :
    IsRead t u := by
  obtain ⟨c, r, he, hstart⟩ := h.startsValue
  exact .of_step ⟨c, r, he, hstart.isJsonBlank, hstart.ne (by decide) (by decide)⟩
    fun _ fuel hr => readValue_number h (hread hr) fuel

theorem isRead_int (n : Int) : IsRead (Text.ofInt n) (.int n) :=
  isRead_number (isNumber_ofInt n) fun hr => readNumber?_ofInt n hr

/-- The canonical layout of a finite float spells it, that of a zero with its sign. -/
theorem exists_spelling_write {x : Binary64} (hx : x.isFinite = true) :
    ∃ s : Spelling, NumberLayout.canonical.write x = signText x.negative ++ s.text ∧ s.IsFloat ∧
      s.decimal.toBinary64 x.negative = x := by
  cases h0 : x.isZero with
  | false =>
    obtain ⟨s, hs, hfloat, hvalue⟩ := spells_writeDecimal (digits_shortest_ne_zero hx h0)
    exact ⟨s, by rw [write_of_isFinite hx, hs], hfloat,
      (hvalue _).trans (x.toBinary64_shortest hx h0)⟩
  | true =>
    obtain ⟨s, rfl⟩ := Binary64.exists_eq_zero h0
    refine ⟨⟨"0", "0", none⟩, ?_, ⟨isWhole_ofNat 0, by decide, nofun, Or.inl (by decide)⟩, ?_⟩
    · cases s
      · decide
      · decide
    · cases s
      · decide
      · decide

theorem eq_infinity {x : Binary64} (h : x.isInfinite = true) : x = .infinity x.negative := by
  obtain ⟨negative, exponent, fraction⟩ := x
  rw [Binary64.isInfinite, Bool.and_eq_true, beq_iff_eq, beq_iff_eq] at h
  rw [Binary64.infinity, Binary64.mk.injEq]
  exact ⟨rfl, Fin.ext h.1, Fin.ext h.2⟩

theorem exists_isRead_float (x : Binary64) :
    ∃ u, LeafLoads (.float x) u ∧ IsRead (Compact.floatText x) u := by
  unfold Compact.floatText
  cases hnan : x.isNaN with
  | true => exact ⟨_, .nan hnan, .of_step ⟨_, _, rfl, by decide, by decide⟩ fun _ _ _ => rfl⟩
  | false =>
    refine ⟨_, .float hnan, ?_⟩
    rw [if_neg Bool.false_ne_true]
    by_cases hx : x.isFinite = true
    · have hinf : ¬ x.isInfinite = true := fun h => (not_isFinite_iff x).2 (Or.inr h) hx
      obtain ⟨s, htext, hfloat, hvalue⟩ := exists_spelling_write hx
      rw [if_neg hinf, htext]
      refine isRead_number (hfloat.isNumber_text x.negative) fun hr => ?_
      rw [readNumber?_spelling hfloat x.negative hr, hvalue]
    · have hinf : x.isInfinite = true := by
        rcases (not_isFinite_iff x).1 hx with h | h
        · rw [hnan] at h
          cases h
        · exact h
      rw [if_pos hinf, eq_infinity hinf]
      cases x.negative
      · exact .of_step ⟨_, _, rfl, by decide, by decide⟩ fun _ _ _ => rfl
      · exact .of_step ⟨_, _, rfl, by decide, by decide⟩ fun _ _ _ => rfl

theorem exists_isRead_text (t : Text) : ∃ u, Joins t u ∧ IsRead (quoteAscii t) (.text u) := by
  obtain ⟨u, hjoins, hread⟩ := exists_joins t
  refine ⟨u, hjoins, .of_step ⟨'"', _, rfl, by decide, by decide⟩ fun rest fuel _ => ?_⟩
  rw [quoteAscii_append]
  exact readValue_string (hread rest) fuel

/-! ## Containers -/

/-- The parts of a container after its first one. -/
def others (parts : List Text) : Text := parts.flatMap ((", " : Text) ++ ·)

theorem others_cons_append (part : Text) (parts : List Text) (rest : Text) :
    others (part :: parts) ++ rest =
      CodePoint.scalar ',' :: CodePoint.scalar ' ' :: (part ++ (others parts ++ rest)) := by
  rw [others, List.flatMap_cons, List.append_assoc, List.append_assoc]
  rfl

theorem length_others_cons (part : Text) (parts : List Text) :
    (others (part :: parts)).length = 2 + part.length + (others parts).length := by
  rw [others, List.flatMap_cons, List.length_append, List.length_append]
  rfl

/-- Nothing is skipped but the blank before a part. -/
theorem skipBlanks_part {c : CodePoint} (hc : isJsonBlank c = false) (t : Text) :
    skipBlanks (CodePoint.scalar ' ' :: c :: t) = c :: t :=
  skipBlanks_append (a := " ") (fun _ hd => Or.inl (List.mem_singleton.1 hd)) hc t

theorem endsNumber_bracket {closing : CodePoint} (hc : closing = ']' ∨ closing = '\x7d')
    (rest : Text) : EndsNumber (closing :: rest) := by
  rcases hc with rfl | rfl
  · exact endsNumber_cons (by decide) (by decide) (by decide) (by decide) _
  · exact endsNumber_cons (by decide) (by decide) (by decide) (by decide) _

theorem readItems_others {first : Text} {u : Value} (hfirst : IsRead first u) {parts : List Text}
    {us : List Value} (h : List.Forall₂ IsRead parts us) (rest : Text) : ∀ fuel : Nat,
    2 * (first.length + (others parts).length) < fuel →
      readItems fuel (first ++ (others parts ++ CodePoint.scalar ']' :: rest)) =
        .ok (u :: us, rest) := by
  induction h generalizing first u with
  | nil =>
    intro fuel hf
    obtain ⟨n, rfl⟩ : ∃ n, fuel = n + 1 := ⟨fuel - 1, by omega⟩
    exact readItems_last (hfirst.read _ _ (endsNumber_bracket (Or.inl rfl) rest) (by omega)) rfl
  | @cons part v parts us hpart hparts ih =>
    intro fuel hf
    obtain ⟨n, rfl⟩ : ∃ n, fuel = n + 1 := ⟨fuel - 1, by omega⟩
    rw [length_others_cons] at hf
    have hrest := ih hpart n (by omega)
    rw [others_cons_append]
    refine readItems_comma (hfirst.read _ _ (endsNumber_comma _) (by omega)) rfl ?_
    obtain ⟨c, r, rfl, hblank, -⟩ := hpart.head
    rw [List.cons_append, skipBlanks_part hblank]
    exact hrest

theorem isRead_items {parts : List Text} {us : List Value} (h : List.Forall₂ IsRead parts us) :
    IsRead ('[' :: (Text.join ", " parts ++ [CodePoint.scalar ']'])) (.sequence .list us) := by
  cases h with
  | nil => exact .of_step ⟨_, _, rfl, by decide, by decide⟩ fun _ _ _ => rfl
  | @cons first u parts us hfirst hparts =>
    refine ⟨⟨_, _, rfl, by decide, by decide⟩, ?_⟩
    intro rest fuel hr hf
    have hjoin : Text.join ", " (first :: parts) = first ++ others parts := rfl
    rw [hjoin] at hf ⊢
    simp only [List.length_cons, List.length_append] at hf
    obtain ⟨n, rfl⟩ : ∃ n, fuel = n + 1 := ⟨fuel - 1, by omega⟩
    have hitems := readItems_others hfirst hparts rest n (by omega)
    obtain ⟨c, r, rfl, hblank, hclose⟩ := hfirst.head
    simp only [List.cons_append, List.append_assoc, List.nil_append] at hitems ⊢
    refine readValue_list ?_ hclose hitems
    exact skipBlanks_append (fun _ hd => absurd hd List.not_mem_nil) hblank _

/-- The text of a member that is read under a name. -/
inductive IsReadMember : Text → Key × Value → Prop
  | mk {name name' text : Text} {u : Value} (hname : ∀ rest,
      readString (name.flatMap quoteAsciiPoint ++ CodePoint.scalar '"' :: rest) = .ok (name', rest))
    (h : IsRead text u) : IsReadMember (quoteAscii name ++ (": " : Text) ++ text) (.text name', u)

/-- What is read of the first member, for the two ways that a mapping goes on after it. -/
theorem IsReadMember.readMembers_eq {part rest : Text} {p : Key × Value} (h : IsReadMember part p)
    {fuel : Nat} (hr : EndsNumber rest) (hf : 2 * part.length ≤ fuel) :
    (∀ r, skipBlanks rest = CodePoint.scalar '\x7d' :: r →
      readMembers (fuel + 1) (part ++ rest) = .ok ([p], r)) ∧
    ∀ r ps s, skipBlanks rest = CodePoint.scalar ',' :: r →
      readMembers fuel (skipBlanks r) = .ok (ps, s) →
        readMembers (fuel + 1) (part ++ rest) = .ok (p :: ps, s) := by
  obtain ⟨hname, hread⟩ := h
  rename_i name name' text u
  simp only [List.length_append] at hf
  have hvalue := hread.read rest fuel hr (by omega)
  obtain ⟨c, r, rfl, hblank, -⟩ := hread.head
  have hcolon : (": " : Text) ++ (c :: r ++ rest) =
      CodePoint.scalar ':' :: CodePoint.scalar ' ' :: c :: (r ++ rest) := rfl
  rw [List.cons_append, ← skipBlanks_part hblank] at hvalue
  rw [List.append_assoc, List.append_assoc, quoteAscii_append, hcolon]
  exact ⟨fun _ hclose => readMembers_last (hname _) rfl hvalue hclose,
    fun _ _ _ hcomma hmore => readMembers_comma (hname _) rfl hvalue hcomma hmore⟩

theorem IsReadMember.head {part : Text} {p : Key × Value} (h : IsReadMember part p) :
    ∃ r, part = CodePoint.scalar '"' :: r := by
  cases h
  exact ⟨_, rfl⟩

theorem readMembers_others {first : Text} {p : Key × Value} (hfirst : IsReadMember first p)
    {parts : List Text} {ps : Members} (h : List.Forall₂ IsReadMember parts ps) (rest : Text) :
    ∀ fuel : Nat, 2 * (first.length + (others parts).length) < fuel →
      readMembers fuel (first ++ (others parts ++ CodePoint.scalar '\x7d' :: rest)) =
        .ok (p :: ps, rest) := by
  induction h generalizing first p with
  | nil =>
    intro fuel hf
    obtain ⟨n, rfl⟩ : ∃ n, fuel = n + 1 := ⟨fuel - 1, by omega⟩
    exact (hfirst.readMembers_eq (endsNumber_bracket (Or.inr rfl) rest) (by omega)).1 _ rfl
  | @cons part q parts ps hpart hparts ih =>
    intro fuel hf
    obtain ⟨n, rfl⟩ : ∃ n, fuel = n + 1 := ⟨fuel - 1, by omega⟩
    rw [length_others_cons] at hf
    have hrest := ih hpart n (by omega)
    rw [others_cons_append]
    refine (hfirst.readMembers_eq (endsNumber_comma _) (by omega)).2 _ _ _ rfl ?_
    obtain ⟨r, rfl⟩ := hpart.head
    rw [List.cons_append, skipBlanks_part (by decide)]
    exact hrest

theorem isRead_members {parts : List Text} {ps : Members}
    (h : List.Forall₂ IsReadMember parts ps) :
    IsRead ('\x7b' :: (Text.join ", " parts ++ [CodePoint.scalar '\x7d']))
      (.mapping .dict (Members.ofPairs ps)) := by
  cases h with
  | nil => exact .of_step ⟨_, _, rfl, by decide, by decide⟩ fun _ _ _ => rfl
  | @cons first p parts ps hfirst hparts =>
    refine ⟨⟨_, _, rfl, by decide, by decide⟩, ?_⟩
    intro rest fuel hr hf
    have hjoin : Text.join ", " (first :: parts) = first ++ others parts := rfl
    rw [hjoin] at hf ⊢
    simp only [List.length_cons, List.length_append] at hf
    obtain ⟨n, rfl⟩ : ∃ n, fuel = n + 1 := ⟨fuel - 1, by omega⟩
    have hmembers := readMembers_others hfirst hparts rest n (by omega)
    obtain ⟨r, rfl⟩ := hfirst.head
    simp only [List.cons_append, List.append_assoc, List.nil_append] at hmembers ⊢
    refine readValue_object ?_ (by decide) hmembers
    exact skipBlanks_append (fun _ hd => absurd hd List.not_mem_nil) (by decide) _

/-! ## What was written -/

theorem exists_isRead_items {write : Value → Except Failure Text}
    (hwrite : ∀ v t, write v = .ok t → ∃ u, Loads heap v u ∧ IsRead t u) {items : List Value}
    {t : Text} (h : Compact.items write items = .ok t) :
    ∃ us, ItemsLoad heap items us ∧ IsRead t (.sequence .list us) := by
  obtain ⟨parts, hparts, h⟩ := bind_eq_ok h
  cases h
  have hus : ∃ us, ItemsLoad heap items us ∧ List.Forall₂ IsRead parts us := by
    have hall := Compact.forall₂_of_mapM_eq_ok hparts
    clear h hparts
    induction hall with
    | nil => exact ⟨[], .nil, .nil⟩
    | cons hv _ ih =>
      obtain ⟨u, hload, hread⟩ := hwrite _ _ hv
      obtain ⟨us, hloads, hreads⟩ := ih
      exact ⟨u :: us, .cons hload hloads, .cons hread hreads⟩
  obtain ⟨us, hloads, hreads⟩ := hus
  exact ⟨us, hloads, isRead_items hreads⟩

/-- A name that spells its key is in ASCII, so it is read as it was written. -/
theorem exists_nameLoads {key : Key} {name : Text} (h : Compact.memberName key = .ok name) :
    ∃ name', NameLoads key name' ∧ ∀ rest,
      readString (name.flatMap quoteAsciiPoint ++ CodePoint.scalar '"' :: rest) =
        .ok (name', rest) := by
  have hspelled : ∀ {t : Text}, t.IsAscii → ∀ rest,
      readString (t.flatMap quoteAsciiPoint ++ CodePoint.scalar '"' :: rest) = .ok (t, rest) := by
    intro t hascii
    refine readString_quoteAscii fun c hc => ?_
    rw [isSurrogate_eq_false_iff]
    have := hascii c hc
    omega
  cases key with
  | text t =>
    cases h
    obtain ⟨u, hjoins, hread⟩ := exists_joins name
    exact ⟨u, .text hjoins, hread⟩
  | null =>
    cases h
    exact ⟨_, .null, hspelled (by decide)⟩
  | bool b =>
    cases h
    exact ⟨_, .bool b, hspelled (by cases b <;> decide)⟩
  | int n =>
    cases h
    exact ⟨_, .int n, hspelled (.ofInt n)⟩
  | float x =>
    cases h
    have hascii := Compact.isAscii_floatText x
    obtain ⟨u, hload, hread⟩ := exists_isRead_float x
    exact ⟨_, .float hload (hread.read_eq hascii), hspelled hascii⟩
  | absent => cases h
  | other typeName reading => cases h

theorem exists_isRead_members {write : Value → Except Failure Text}
    (hwrite : ∀ v t, write v = .ok t → ∃ u, Loads heap v u ∧ IsRead t u) {members : Members}
    {t : Text} (h : Compact.members write members = .ok t) :
    ∃ us, MembersLoad heap members us ∧ IsRead t (.mapping .dict (Members.ofPairs us)) := by
  obtain ⟨parts, hparts, h⟩ := bind_eq_ok h
  cases h
  have hus : ∃ us, MembersLoad heap members us ∧ List.Forall₂ IsReadMember parts us := by
    have hall := Compact.forall₂_of_mapM_eq_ok hparts
    clear h hparts
    induction hall with
    | nil => exact ⟨[], .nil, .nil⟩
    | cons hp _ ih =>
      obtain ⟨name, hname, hp⟩ := bind_eq_ok hp
      obtain ⟨text, htext, hp⟩ := bind_eq_ok hp
      cases hp
      obtain ⟨name', hload, hstring⟩ := exists_nameLoads hname
      obtain ⟨u, hvalue, hread⟩ := hwrite _ _ htext
      obtain ⟨us, hloads, hreads⟩ := ih
      exact ⟨(.text name', u) :: us, .cons hload hvalue hloads, .cons (.mk hstring hread) hreads⟩
  obtain ⟨us, hloads, hreads⟩ := hus
  exact ⟨us, hloads, isRead_members hreads⟩

/-- What was written is read, inside any containers. -/
theorem exists_isRead (limit : Nat) : ∀ (path : List Nat) (v : Value) (t : Text),
    Compact.write heap limit path v = .ok t → ∃ u, Loads heap v u ∧ IsRead t u := by
  induction limit with
  | zero => exact fun _ _ _ h => nomatch h
  | succ limit ih =>
    have hitems : ∀ {path v kind items t}, v.container? heap = some (.sequence kind items) →
        (kind = .list ∨ kind = .tuple) →
          Compact.items (Compact.write heap limit path) items = .ok t →
            ∃ u, Loads heap v u ∧ IsRead t u := by
      intro path v kind items t hc hkind h
      obtain ⟨us, hloads, hread⟩ := exists_isRead_items (ih path) h
      exact ⟨_, .sequence hc hkind hloads, hread⟩
    have hmembers : ∀ {path v members t}, v.container? heap = some (.mapping .dict members) →
        Compact.members (Compact.write heap limit path) members = .ok t →
          ∃ u, Loads heap v u ∧ IsRead t u := by
      intro path v members t hc h
      obtain ⟨us, hloads, hread⟩ := exists_isRead_members (ih path) h
      exact ⟨_, .mapping hc hloads, hread⟩
    intro path v t h
    cases v with
    | null =>
      cases h
      exact ⟨_, .leaf .null, isRead_null⟩
    | bool b =>
      cases h
      exact ⟨_, .leaf (.bool b), isRead_bool b⟩
    | int n =>
      cases h
      exact ⟨_, .leaf (.int n), isRead_int n⟩
    | float x =>
      cases h
      obtain ⟨u, hload, hread⟩ := exists_isRead_float x
      exact ⟨u, .leaf hload, hread⟩
    | text t =>
      cases h
      obtain ⟨u, hjoins, hread⟩ := exists_isRead_text t
      exact ⟨.text u, .leaf (.text hjoins), hread⟩
    | absent => cases h
    | other typeName _ _ => cases h
    | sequence kind items =>
      cases kind with
      | list => exact hitems rfl (Or.inl rfl) h
      | tuple => exact hitems rfl (Or.inr rfl) h
      | _ => cases h
    | mapping kind members =>
      cases kind with
      | dict => exact hmembers rfl h
      | _ => cases h
    | shared place =>
      unfold Compact.write at h
      simp only at h
      split at h
      · cases h
      · split at h
        · rename_i hc
          split at h
          · exact hitems hc (Or.inl rfl) h
          · exact hitems hc (Or.inr rfl) h
          · exact hmembers hc h
          · cases h
        · cases h

/-- **What was written is read back**: the text of a value is one document. -/
theorem exists_read_text {v : Value} {t : Text} (h : Compact.text heap v = .ok t) :
    ∃ u, Loads heap v u ∧ read t = .ok u := by
  obtain ⟨u, hloads, hread⟩ := exists_isRead _ _ _ _ h
  exact ⟨u, hloads, hread.read_eq (Compact.isAscii_text h)⟩

/-- Of a dictionary the members are read back. -/
theorem exists_read_members {members : Members} {t : Text}
    (h : Compact.text heap (.mapping .dict members) = .ok t) :
    ∃ us, MembersLoad heap members us ∧ read t = .ok (.mapping .dict (Members.ofPairs us)) := by
  obtain ⟨u, hloads, hread⟩ := exists_read_text h
  cases hloads with
  | leaf h => cases h
  | sequence hc => cases hc
  | mapping hc hmembers =>
    cases hc
    exact ⟨_, hmembers, hread⟩

end JsLiteral.Json
