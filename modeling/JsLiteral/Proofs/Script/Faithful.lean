import JsLiteral.Proofs.Conversion
import JsLiteral.Proofs.Script.Reading

/-!
# What converted code means in a script

The code of a conversion without template literals is one literal in parentheses, and so it
always has a value. That value is the one converted, members, items and leaves, exactly if no
name is `__proto__`, no two names of one mapping are the same string of a script, and every
integer is a binary64 number. Texts make no exception: a script has them unit by unit.

    the properties of an object     own names differ, none is `__proto__`     (isOwn_foldl_define)
    without clashes they are the members                              (foldl_define_of_nodup)
    the value of a literal          is that of the tree exactly if the tree is portable
                                                                      (evaluate_literalOf)
    the code of a conversion        has a value, and that is the one converted
                                      exactly if it is portable      (evaluate_convert_iff)
-/

namespace JsLiteral

open Text Json

namespace Script

/-! ## Values as trees -/

mutual

/-- A value inside the open heap containers `path` is a tree, whatever its texts hold. Names of
one mapping differ. -/
def Unfolds (heap : Heap) : List Nat → Value → Tree → Prop
  | _, v, .null => v = .null
  | _, v, .bool b => v = .bool b
  | _, v, .int n => v = .int n
  | _, v, .float x => v = .float x
  | _, v, .text t => v = .text t
  | path, v, .list trees => ∃ inner kind items, Opens heap path v inner (.sequence kind items) ∧
      UnfoldsItems heap inner items trees
  | path, v, .object trees => ∃ inner kind members,
      Opens heap path v inner (.mapping kind members) ∧ UnfoldsMembers heap inner members trees ∧
        (trees.map Prod.fst).Nodup

def UnfoldsItems (heap : Heap) : List Nat → List Value → List Tree → Prop
  | _, [], [] => True
  | path, v :: items, tree :: trees => Unfolds heap path v tree ∧ UnfoldsItems heap path items trees
  | _, _, _ => False

def UnfoldsMembers (heap : Heap) : List Nat → Members → List (Text × Tree) → Prop
  | _, [], [] => True
  | path, (key, v) :: members, (name, tree) :: trees =>
    key = .text name ∧ Unfolds heap path v tree ∧ UnfoldsMembers heap path members trees
  | _, _, _ => False

end

section

variable {heap : Heap}

mutual

/-- What is printed for such a value is the record of its tree. -/
theorem Unfolds.isDocument : ∀ {path : List Nat} {v : Value} (tree : Tree),
    Unfolds heap path v tree → IsDocument heap path v tree.printed
  | _, _, .null, h => .word (by rw [show _ = Value.null from h]; rfl)
  | _, _, .bool _, h => .word (by rw [show _ = Value.bool _ from h]; rfl)
  | _, _, .int _, h => .word (by rw [show _ = Value.int _ from h]; rfl)
  | _, _, .float _, h => .word (by rw [show _ = Value.float _ from h]; rfl)
  | _, _, .text _, h => by
    rw [show _ = Value.text _ from h]
    exact .text
  | _, _, .list trees, ⟨_, _, _, hopen, hitems⟩ =>
    .list hopen (UnfoldsItems.areDocuments trees hitems)
  | _, _, .object trees, ⟨_, _, _, hopen, hmembers, _⟩ =>
    .object hopen (UnfoldsMembers.areMembers trees hmembers)

theorem UnfoldsItems.areDocuments : ∀ {path : List Nat} {items : List Value} (trees : List Tree),
    UnfoldsItems heap path items trees → AreDocuments heap path items (Tree.printedItems trees)
  | _, [], [], _ => .nil
  | _, _ :: _, tree :: trees, ⟨h, hrest⟩ =>
    .cons (Unfolds.isDocument tree h) (UnfoldsItems.areDocuments trees hrest)

theorem UnfoldsMembers.areMembers : ∀ {path : List Nat} {members : Members}
    (trees : List (Text × Tree)), UnfoldsMembers heap path members trees →
      AreMembers heap path members (Tree.printedMembers trees)
  | _, [], [], _ => .nil
  | _, _ :: _, (_, tree) :: trees, ⟨hkey, h, hrest⟩ =>
    .cons (hkey ▸ rfl) (Unfolds.isDocument tree h) (UnfoldsMembers.areMembers trees hrest)

end

end

/-! ## Trees and what code means -/

mutual

/-- A script has the tree: the leaves are the same, the items are the same in order, and the own
properties of an object are the members in some order. Numbers are the same if their values are,
so zeros are, whatever their sign. -/
def Matches : Tree → Datum → Prop
  | .null, d => d = .null
  | .bool b, d => d = .bool b
  | .int n, d => ∃ x, d = .number x ∧ worth? (.float x) = some (n : ℚ)
  | .float x, d => ∃ q y, worth? (.float x) = some q ∧ d = .number y ∧ worth? (.float y) = some q
  | .text t, d => d = .string (units t)
  | .list trees, d => ∃ items, d = .array items ∧ MatchesItems trees items
  | .object trees, d => ∃ prototype own members,
      d = .object prototype own ∧ members.Perm own ∧ MatchesMembers trees members

def MatchesItems : List Tree → List Datum → Prop
  | [], [] => True
  | tree :: trees, d :: items => Matches tree d ∧ MatchesItems trees items
  | _, _ => False

def MatchesMembers : List (Text × Tree) → List (Units × Datum) → Prop
  | [], [] => True
  | (name, tree) :: trees, (n, d) :: members =>
    n = units name ∧ Matches tree d ∧ MatchesMembers trees members
  | _, _ => False

end

/-- The names of members as a script has them. -/
def unitNames (trees : List (Text × Tree)) : List Units := trees.map fun m => units m.1

mutual

/-- What a script can have as it is: finite floats, integers that are binary64 numbers, and
members whose names are different strings and none of them `__proto__`. -/
def IsPortable : Tree → Prop
  | .int n => IsExact n
  | .float x => x.isFinite = true
  | .list trees => ArePortable trees
  | .object trees => (∀ m ∈ trees, m.1 ≠ "__proto__") ∧ (unitNames trees).Nodup ∧
      MembersArePortable trees
  | _ => True

def ArePortable : List Tree → Prop
  | [] => True
  | tree :: trees => IsPortable tree ∧ ArePortable trees

def MembersArePortable : List (Text × Tree) → Prop
  | [] => True
  | (_, tree) :: trees => IsPortable tree ∧ MembersArePortable trees

end

/-! ## Names -/

/-- Below the surrogates a text is told from every other text by its units. -/
theorem eq_of_units_eq {a t : Text} (ha : ∀ c ∈ a, c.toNat < 0xD800) (h : units t = units a) :
    t = a := by
  induction a generalizing t with
  | nil =>
    cases t with
    | nil => rfl
    | cons c t =>
      have hlen := congrArg List.length h
      rw [units, units, List.flatMap_cons, List.length_append] at hlen
      unfold CodePoint.units at hlen
      simp only at hlen
      split at hlen <;> simp at hlen
  | cons b a ih =>
    have hb := ha b List.mem_cons_self
    have hunits : units (b :: a) = b.toNat :: units a := by
      rw [units, List.flatMap_cons, CodePoint.units, if_pos (by omega)]
      rfl
    rw [hunits] at h
    cases t with
    | nil => cases h
    | cons c t =>
      rw [units, List.flatMap_cons] at h
      unfold CodePoint.units at h
      simp only at h
      split at h
      · obtain ⟨hc, ht⟩ := List.cons.inj h
        have hcb : c = b := by rw [← c.ofNat_toNat, hc, b.ofNat_toNat]
        rw [hcb, ih (fun d hd => ha d (List.mem_cons_of_mem _ hd)) ht]
      · have := (List.cons.inj h).1
        omega

theorem units_eq_prototypeName_iff {name : Text} :
    units name = prototypeName ↔ name = "__proto__" := by
  constructor
  · exact eq_of_units_eq (by decide)
  · rintro rfl
    rfl

theorem prototypeName_mem_unitNames {trees : List (Text × Tree)} :
    prototypeName ∈ unitNames trees ↔ ∃ m ∈ trees, m.1 = "__proto__" := by
  unfold unitNames
  rw [List.mem_map]
  constructor
  · rintro ⟨m, hm, he⟩
    exact ⟨m, hm, units_eq_prototypeName_iff.1 he⟩
  · rintro ⟨m, hm, he⟩
    exact ⟨m, hm, units_eq_prototypeName_iff.2 he⟩

/-- Names that differ are no early error. -/
theorem count_prototypeName_le {trees : List (Text × Tree)} (h : (trees.map Prod.fst).Nodup) :
    (unitNames trees).count prototypeName ≤ 1 := by
  induction trees with
  | nil => exact Nat.zero_le 1
  | cons m trees ih =>
    obtain ⟨hm, hrest⟩ := List.nodup_cons.1 h
    by_cases hname : units m.1 = prototypeName
    · have hzero : (unitNames trees).count prototypeName = 0 := by
        refine List.count_eq_zero.2 fun hmem => hm ?_
        obtain ⟨other, hother, he⟩ := prototypeName_mem_unitNames.1 hmem
        rw [units_eq_prototypeName_iff.1 hname, ← he]
        exact List.mem_map_of_mem hother
      show (units m.1 :: unitNames trees).count prototypeName ≤ 1
      rw [hname, List.count_cons_self, hzero]
    · show (units m.1 :: unitNames trees).count prototypeName ≤ 1
      rw [List.count_cons_of_ne hname]
      exact ih hrest

/-! ## Properties -/

/-- Own properties: their names differ, and none of them sets the prototype. -/
structure IsOwn (own : List (Units × Datum)) : Prop where
  nodup : (own.map Prod.fst).Nodup
  not_mem : prototypeName ∉ own.map Prod.fst

theorem put_of_not_mem {own : List (Units × Datum)} {name : Units}
    (h : name ∉ own.map Prod.fst) (d : Datum) : put own name d = own ++ [(name, d)] := by
  induction own with
  | nil => rfl
  | cons m own ih =>
    obtain ⟨n, old⟩ := m
    rw [List.map_cons, List.mem_cons, not_or] at h
    rw [put, if_neg fun he => h.1 he.symm, ih h.2]
    rfl

theorem put_of_mem {own : List (Units × Datum)} {name : Units} (h : name ∈ own.map Prod.fst)
    (d : Datum) : (put own name d).map Prod.fst = own.map Prod.fst := by
  induction own with
  | nil => cases h
  | cons m own ih =>
    obtain ⟨n, old⟩ := m
    unfold put
    split
    · rfl
    · rename_i hne
      rw [List.map_cons, List.mem_cons] at h
      rw [List.map_cons, List.map_cons, ih (h.resolve_left fun he => hne he.symm)]

theorem IsOwn.define {o : Option Datum × List (Units × Datum)} (h : IsOwn o.2)
    (m : Units × Datum) : IsOwn (define o m).2 := by
  unfold Script.define
  split
  · exact h
  · rename_i hname
    by_cases hm : m.1 ∈ o.2.map Prod.fst
    · have hfst := put_of_mem hm m.2
      exact ⟨hfst ▸ h.nodup, hfst ▸ h.not_mem⟩
    · show IsOwn (put o.2 m.1 m.2)
      rw [put_of_not_mem hm]
      have hfst : (o.2 ++ [(m.1, m.2)]).map Prod.fst = (o.2.map Prod.fst).concat m.1 := by
        rw [List.map_append, List.concat_eq_append]
        rfl
      refine ⟨hfst ▸ h.nodup.concat hm, fun hmem => ?_⟩
      rw [hfst, List.concat_eq_append, List.mem_append, List.mem_singleton] at hmem
      exact hmem.elim h.not_mem fun he => hname he.symm

theorem isOwn_foldl_define {ms : List (Units × Datum)} :
    ∀ {o : Option Datum × List (Units × Datum)}, IsOwn o.2 → IsOwn (ms.foldl define o).2 := by
  induction ms with
  | nil => exact fun h => h
  | cons m ms ih => exact fun h => ih (h.define m)

-- members that clash: one sets the prototype, and the last of one name counts
example : [(prototypeName, Datum.null), (units "a", .bool true), (units "a", .null)].foldl define
    (none, []) = (some .null, [(units "a", .null)]) := rfl

/-- Members without clashes become the own properties as they stand. -/
theorem foldl_define_of_nodup {ms : List (Units × Datum)} :
    ∀ {o : Option Datum × List (Units × Datum)}, ((o.2 ++ ms).map Prod.fst).Nodup →
      prototypeName ∉ ms.map Prod.fst → ms.foldl define o = (o.1, o.2 ++ ms) := by
  induction ms with
  | nil =>
    intro o _ _
    rw [List.append_nil]
    rfl
  | cons m ms ih =>
    intro o hnodup hname
    rw [List.map_cons, List.mem_cons, not_or] at hname
    have hm : m.1 ∉ o.2.map Prod.fst := by
      intro hmem
      rw [List.map_append, List.nodup_append] at hnodup
      exact hnodup.2.2 m.1 hmem m.1 List.mem_cons_self rfl
    have hdefine : define o m = (o.1, o.2 ++ [m]) := by
      unfold define
      rw [if_neg fun he => hname.1 he.symm, put_of_not_mem hm]
    rw [List.foldl_cons, hdefine, ih]
    · rw [List.append_assoc]
      rfl
    · rwa [List.append_assoc]
    · exact hname.2

/-! ## The value of a literal -/

theorem MatchesMembers.map_fst : ∀ {trees : List (Text × Tree)} {members : List (Units × Datum)},
    MatchesMembers trees members → members.map Prod.fst = unitNames trees
  | [], [], _ => rfl
  | (_, _) :: _, (_, _) :: _, ⟨hname, _, hrest⟩ => by
    rw [List.map_cons, hname, MatchesMembers.map_fst hrest]
    rfl

theorem map_fst_memberLiterals (trees : List (Text × Tree)) :
    (memberLiterals trees).map Prod.fst = unitNames trees := by
  induction trees with
  | nil => rfl
  | cons m trees ih =>
    obtain ⟨name, tree⟩ := m
    exact congrArg (units name :: ·) ih

/-- Members in another order are the same if each has a name of its own. -/
theorem eq_of_perm {ms members : List (Units × Datum)} (hperm : members.Perm ms)
    (hfst : members.map Prod.fst = ms.map Prod.fst) (hnodup : (ms.map Prod.fst).Nodup) :
    members = ms := by
  refine List.ext_getElem hperm.length_eq fun i hi hi' => ?_
  have hmem : members[i] ∈ ms := hperm.mem_iff.1 (List.getElem_mem hi)
  refine List.inj_on_of_nodup_map hnodup hmem (List.getElem_mem hi') ?_
  have hlength : i < (members.map Prod.fst).length := by rwa [List.length_map]
  have hname := List.getElem_of_eq hfst hlength
  rwa [List.getElem_map, List.getElem_map] at hname

/-- An object has its members as own properties exactly if none of them clashes with another
or sets the prototype. -/
theorem matches_object_iff {trees : List (Text × Tree)} {ms : List (Units × Datum)}
    (hfst : ms.map Prod.fst = unitNames trees) :
    Matches (.object trees) (.object (ms.foldl define (none, [])).1
        (ms.foldl define (none, [])).2) ↔
      (∀ m ∈ trees, m.1 ≠ "__proto__") ∧ (unitNames trees).Nodup ∧ MatchesMembers trees ms := by
  have hown : IsOwn (ms.foldl define (none, [])).2 :=
    isOwn_foldl_define ⟨List.nodup_nil, List.not_mem_nil⟩
  have hplain : prototypeName ∉ unitNames trees → (unitNames trees).Nodup →
      ms.foldl define (none, []) = (none, ms) := by
    intro hname hnodup
    rw [← hfst] at hname hnodup
    exact foldl_define_of_nodup (o := (none, [])) hnodup hname
  have hnames : prototypeName ∉ unitNames trees ↔ ∀ m ∈ trees, m.1 ≠ "__proto__" := by
    rw [prototypeName_mem_unitNames]
    push Not
    rfl
  constructor
  · rintro ⟨_, _, members, ⟨⟩, hperm, hmatches⟩
    have hpermNames := hperm.map Prod.fst
    rw [hmatches.map_fst] at hpermNames
    have hnodup : (unitNames trees).Nodup := hpermNames.nodup_iff.2 hown.nodup
    have hname : prototypeName ∉ unitNames trees :=
      fun hmem => hown.not_mem (hpermNames.mem_iff.1 hmem)
    rw [hplain hname hnodup] at hperm
    rw [← hfst] at hnodup
    rw [eq_of_perm hperm (hmatches.map_fst.trans hfst.symm) hnodup] at hmatches
    exact ⟨hnames.1 hname, hfst ▸ hnodup, hmatches⟩
  · rintro ⟨hname, hnodup, hmatches⟩
    rw [hplain (hnames.2 hname) hnodup]
    exact ⟨_, _, ms, rfl, List.Perm.refl _, hmatches⟩

section

variable {heap : Heap}

mutual

/-- The literal of a value has a value, and it is the one converted exactly if that is
portable. -/
theorem evaluate_literalOf : ∀ {path : List Nat} {v : Value} (tree : Tree),
    Unfolds heap path v tree →
      ∃ d, (literalOf tree).evaluate = some d ∧ (Matches tree d ↔ IsPortable tree)
  | _, _, .null, _ => ⟨_, rfl, ⟨fun _ => trivial, fun _ => rfl⟩⟩
  | _, _, .bool _, _ => ⟨_, rfl, ⟨fun _ => trivial, fun _ => rfl⟩⟩
  | _, _, .int n, _ => by
    refine ⟨_, rfl, ⟨?_, fun h => ⟨_, rfl, isExact_iff.1 h⟩⟩⟩
    rintro ⟨x, ⟨⟩, hx⟩
    exact ⟨_, hx⟩
  | _, _, .float x, _ => by
    by_cases hx : x.isFinite = true
    · refine ⟨.number (unsigned x), by rw [literalOf, if_pos hx]; rfl, fun _ => hx, fun _ => ?_⟩
      exact ⟨_, _, worth?_of_isFinite hx, rfl, (worth?_unsigned x).trans (worth?_of_isFinite hx)⟩
    · refine ⟨.null, by rw [literalOf, if_neg hx]; rfl, ?_, fun h => absurd h hx⟩
      rintro ⟨_, _, _, ⟨⟩, _⟩
  | _, _, .text _, _ => ⟨_, rfl, ⟨fun _ => trivial, fun _ => rfl⟩⟩
  | _, _, .list trees, ⟨_, _, _, _, hitems⟩ => by
    obtain ⟨ds, hds, hiff⟩ := evaluate_itemLiterals trees hitems
    refine ⟨.array ds, by rw [literalOf, Literal.evaluate, hds]; rfl, ?_, fun h => ?_⟩
    · rintro ⟨_, ⟨⟩, h⟩
      exact hiff.1 h
    · exact ⟨ds, rfl, hiff.2 h⟩
  | _, _, .object trees, ⟨_, _, _, _, hmembers, hnodup⟩ => by
    obtain ⟨ms, hms, hfst, hiff⟩ := evaluate_memberLiterals trees hmembers
    have hcount := count_prototypeName_le hnodup
    refine ⟨.object (ms.foldl define (none, [])).1 (ms.foldl define (none, [])).2, ?_, ?_⟩
    · rw [literalOf, Literal.evaluate, map_fst_memberLiterals, if_neg (by omega), hms]
      rfl
    · rw [matches_object_iff hfst, hiff]
      rfl

theorem evaluate_itemLiterals : ∀ {path : List Nat} {items : List Value} (trees : List Tree),
    UnfoldsItems heap path items trees →
      ∃ ds, Literal.evaluateItems (itemLiterals trees) = some ds ∧
        (MatchesItems trees ds ↔ ArePortable trees)
  | _, [], [], _ => ⟨[], rfl, ⟨fun _ => trivial, fun _ => trivial⟩⟩
  | _, _ :: _, tree :: trees, ⟨h, hrest⟩ => by
    obtain ⟨d, hd, hiff⟩ := evaluate_literalOf tree h
    obtain ⟨ds, hds, hiffs⟩ := evaluate_itemLiterals trees hrest
    refine ⟨d :: ds, ?_, and_congr hiff hiffs⟩
    rw [itemLiterals, Literal.evaluateItems, hd, Option.bind_some, hds]
    rfl

theorem evaluate_memberLiterals : ∀ {path : List Nat} {members : Members}
    (trees : List (Text × Tree)), UnfoldsMembers heap path members trees →
      ∃ ms, Literal.evaluateMembers (memberLiterals trees) = some ms ∧
        ms.map Prod.fst = unitNames trees ∧ (MatchesMembers trees ms ↔ MembersArePortable trees)
  | _, [], [], _ => ⟨[], rfl, rfl, ⟨fun _ => trivial, fun _ => trivial⟩⟩
  | _, _ :: _, (name, tree) :: trees, ⟨_, h, hrest⟩ => by
    obtain ⟨d, hd, hiff⟩ := evaluate_literalOf tree h
    obtain ⟨ms, hms, hfst, hiffs⟩ := evaluate_memberLiterals trees hrest
    refine ⟨(units name, d) :: ms, ?_, congrArg (units name :: ·) hfst, ?_⟩
    · rw [memberLiterals, Literal.evaluateMembers, hd, Option.bind_some, hms]
      rfl
    · exact (and_iff_right rfl).trans (and_congr hiff hiffs)

end

end

/-! ## Conversions -/

section

variable {σ : Type} {options : Options σ} {c : Converter} {w : World} {gap : Text} {v : Value}
variable {tree : Tree}

/-- Without holes what would fill them does not show. -/
theorem emit_of_holes (fill : Nat → Text → Text) {ps : List Piece} (h : holes ps = []) (n : Nat) :
    emit fill n ps = written ps := by
  induction ps generalizing n with
  | nil => rfl
  | cons p ps ih =>
    cases p with
    | plain t => exact congrArg (t ++ ·) (ih h n)
    | quoted t => exact congrArg (quote t ++ ·) (ih h n)
    | hole t => cases h

/-- Without template literals the code is the printed tree between the two texts around it. -/
theorem convert_run_plain (htemplates : options.useTemplates = false)
    (hformat : options.useFormatter = false) (hreplacer : options.replacer = none)
    (hbefore : options.beforeFormat = none) (hg : Json.gap w.heap options.space = .ok gap)
    (h : IsDocument w.heap [] v tree.printed) (s : σ) :
    ∃ w', (c.convert options v).run (w, s) =
      (.ok ⟨options.opening ++ written (pieces (fun _ => false) gap [] tree) ++ options.closing,
        false⟩, (w', s)) := by
  have hchosen : ∀ backticks, chosen options backticks = fun _ => false := by
    intro backticks
    funext t
    rw [chosen, htemplates, Bool.false_and]
  have htexts : tree.texts.filter (fun _ => false) = [] := List.filter_false tree.texts
  have hskeleton : (skeleton w options c.marker.text v).run (s, []) = _ :=
    skeleton_printed hreplacer hg rfl h s
  have hholes : holes (pieces (fun _ => false) gap [] tree) = [] := by rw [holes_pieces, htexts]
  rw [hchosen, htexts, emit_of_holes _ hholes] at hskeleton
  have hcollides : ¬ Collides c.marker.text
      (options.opening ++ written (pieces (fun _ => false) gap [] tree) ++ options.closing) [] :=
    fun hc => hc.1 rfl
  obtain ⟨w', hfinish⟩ := finish_run hbefore hformat c hcollides w
  refine ⟨w', ?_⟩
  rw [convert_of_skeleton hskeleton, hfinish]
  rfl

/-- **What the code means in a script**: converted without template literals, functions of the
caller's and a formatter, a value becomes code that has a value in every script. It is the value
converted, down to every member, item and leaf, exactly if the value is portable: no name is
`__proto__`, the names of one mapping are different strings for a script, integers are binary64
numbers and floats are finite. -/
theorem evaluate_convert_iff (htemplates : options.useTemplates = false)
    (hformat : options.useFormatter = false) (hreplacer : options.replacer = none)
    (hbefore : options.beforeFormat = none) (hopening : options.opening = "(")
    (hclosing : options.closing = ")") (hg : Json.gap w.heap options.space = .ok gap)
    (hblanks : IsBlanks gap) (h : Unfolds w.heap [] v tree) (s : σ) :
    ∃ r w' d, (c.convert options v).run (w, s) = (.ok r, (w', s)) ∧
      evaluate r.code = some d ∧ (Matches tree d ↔ IsPortable tree) := by
  obtain ⟨w', hrun⟩ := convert_run_plain (c := c) htemplates hformat hreplacer hbefore hg
    (Unfolds.isDocument tree h) s
  obtain ⟨d, hd, hiff⟩ := evaluate_literalOf tree h
  refine ⟨_, w', d, hrun, ?_, hiff⟩
  rw [hopening, hclosing, evaluate, parse_written hblanks, Option.bind_some, hd]

end

/-- The options that leave out everything but the parentheses. -/
def plainOptions : Options Unit := { useFormatter := false, useTemplates := false }

/-- Names of controls and of almost all of `__proto__`, a surrogate, a negative zero and an
integer of 53 bits. -/
def portable : Value :=
  .mapping .dict [(.text "\x00\n\t", .sequence .tuple
    [.text [CodePoint.ofNat 0xD800], .float (.zero true), .int 9007199254740991]),
    (.text "__proto", .mapping .dict [])]

def portableTree : Tree :=
  .object [("\x00\n\t",
      .list [.text [CodePoint.ofNat 0xD800], .float (.zero true), .int 9007199254740991]),
    ("__proto", .object [])]

theorem unfolds_portableTree : Unfolds [] [] portable portableTree :=
  ⟨_, _, _, .mapping .., ⟨rfl, ⟨_, _, _, .sequence .., ⟨rfl, rfl, rfl, trivial⟩⟩, rfl,
    ⟨_, _, _, .mapping .., trivial, List.nodup_nil⟩, trivial⟩, by decide⟩

theorem isPortable_portableTree : IsPortable portableTree :=
  ⟨by decide, by decide, ⟨trivial, rfl, isExact_of_natAbs_lt (by decide), trivial⟩,
    ⟨by decide, List.nodup_nil, trivial⟩, trivial⟩

theorem evaluate_convert_portable :
    ∃ r w' d, ((⟨.standard, Formatter.none⟩ : Converter).convert plainOptions portable).run
        ({}, ()) = (.ok r, (w', ())) ∧
      evaluate r.code = some d ∧ Matches portableTree d := by
  have hblanks : IsBlanks [] := fun _ hc => absurd hc List.not_mem_nil
  have hg : Json.gap [] plainOptions.space = .ok [] := rfl
  obtain ⟨r, w', d, hrun, hd, hiff⟩ := evaluate_convert_iff (c := ⟨.standard, Formatter.none⟩)
    (w := {}) rfl rfl rfl rfl rfl rfl hg hblanks unfolds_portableTree ()
  exact ⟨r, w', d, hrun, hd, hiff.2 isPortable_portableTree⟩

/-- A mapping with one member, whose name sets the prototype in a script. -/
def prototyped : Value := .mapping .dict [(.text "__proto__", .int 1)]

theorem unfolds_prototyped : Unfolds [] [] prototyped (.object [("__proto__", .int 1)]) :=
  ⟨_, _, _, .mapping .., ⟨rfl, rfl, trivial⟩, by decide⟩

/-- The code for such a mapping evaluates to an object without members. -/
theorem not_matches_convert_prototyped :
    Unfolds [] [] prototyped (.object [("__proto__", .int 1)]) ∧
      ∃ r w', ((⟨.standard, Formatter.none⟩ : Converter).convert plainOptions prototyped).run
          ({}, ()) = (.ok r, (w', ())) ∧
        r.code = "(\x7b\"__proto__\":1\x7d)" ∧ evaluate r.code = some (.object none []) ∧
        ¬ Matches (.object [("__proto__", .int 1)]) (.object none []) := by
  have hblanks : IsBlanks [] := fun _ hc => absurd hc List.not_mem_nil
  have hg : Json.gap [] plainOptions.space = .ok [] := rfl
  obtain ⟨w', hrun⟩ := convert_run_plain (c := ⟨.standard, Formatter.none⟩) (w := {}) rfl rfl rfl
    rfl hg (Unfolds.isDocument _ unfolds_prototyped) ()
  refine ⟨unfolds_prototyped, _, w', hrun, by decide +kernel, ?_, ?_⟩
  · have hparse := parse_written hblanks (.object [("__proto__", .int 1)])
    show ((tokens _).bind parse).bind Literal.evaluate = _
    rw [show plainOptions.opening = "(" from rfl, show plainOptions.closing = ")" from rfl, hparse]
    rfl
  · rintro ⟨_, _, members, ⟨⟩, hperm, hmatches⟩
    rw [hperm.eq_nil] at hmatches
    exact hmatches

end Script

end JsLiteral
