import JsLiteral.Proofs.Json.Quoting
import JsLiteral.Proofs.Json.Unfolding

/-!
# Printing part by part

Another printer writes each part of a container as soon as it gets there, after a bracket or a
comma, and tells the indentation of a line by counting the levels that are open. It leaves
surrogates as they are. Without a replacer, on every value of plain parts, `stringify` writes
what this printer does, with the surrogates of the whole text escaped after.

    write? (.ofGap gap) level u = some text →
      treeText? gap (indentAt gap level) u = some (escapeSurrogates text)  (treeText?_of_write?)
-/

namespace JsLiteral.Json

open Text

/-! ## The other printer -/

/-- How parts are set apart: the step of indentation if each stands on a line of its own, and what
stands between a name and its value. -/
structure Spacing where
  step : Option Text
  colon : Text

/-- The spacing for a gap; without one all is on one line. -/
def Spacing.ofGap (gap : Text) : Spacing :=
  if gap.isEmpty then ⟨none, ":"⟩ else ⟨some gap, ": "⟩

/-- A new line under so many open containers, if there are lines. -/
def Spacing.newline (spacing : Spacing) (level : Nat) : Text :=
  match spacing.step with
  | none => []
  | some step => Text.newline :: (List.replicate level step).flatten

/-- The name that a key of a plain type is written as. -/
def keyText? : Key → Option Text
  | .text t => some t
  | .null => some "null"
  | .bool b => some (if b then "true" else "false")
  | .int n => some (Text.ofInt n)
  | _ => none

section

variable (spacing : Spacing)

mutual

/-- Writes a value of plain parts under so many open containers. -/
def write? : Nat → Value → Option Text
  | _, .null => some "null"
  | _, .bool b => some (if b then "true" else "false")
  | _, .int n => some (Text.ofInt n)
  | _, .text t => some (plainQuote t)
  | level, .sequence kind items =>
    if kind ≠ .list ∧ kind ≠ .tuple then none
    else if items.isEmpty then some ['[', ']']
    else (writeItems? (level + 1) ('[' :: spacing.newline (level + 1)) items).map fun t =>
      t ++ (spacing.newline level ++ [CodePoint.scalar ']'])
  | level, .mapping kind members =>
    if kind ≠ .dict then none
    else if members.isEmpty then some ['\x7b', '\x7d']
    else (writeMembers? (level + 1) ('\x7b' :: spacing.newline (level + 1)) members).map fun t =>
      t ++ (spacing.newline level ++ [CodePoint.scalar '\x7d'])
  | _, _ => none

/-- Writes items, `lead` before the first one and a comma before each other. -/
def writeItems? : Nat → Text → List Value → Option Text
  | _, _, [] => some []
  | level, lead, v :: rest =>
    (write? level v).bind fun first =>
      (writeItems? level (',' :: spacing.newline level) rest).map fun others =>
        lead ++ (first ++ others)

/-- Writes members in the same way. -/
def writeMembers? : Nat → Text → Members → Option Text
  | _, _, [] => some []
  | level, lead, (key, v) :: rest =>
    (keyText? key).bind fun name => (write? level v).bind fun first =>
      (writeMembers? level (',' :: spacing.newline level) rest).map fun others =>
        lead ++ (plainQuote name ++ (spacing.colon ++ (first ++ others)))

end

end

/-- A setting of the indentation asks for a gap: a text for its first ten code points, an integer
for as many spaces but ten at most, null and a truth value for none. -/
inductive Asks : Value → Text → Prop
  | null : Asks .null []
  | bool (b : Bool) : Asks (.bool b) []
  | int (n : Int) : Asks (.int n) (List.replicate (min 10 n.toNat) ' ')
  | text {t : Text} : t.IsWritable → Asks (.text t) (t.take 10)

/-- Lists, tuples and dictionaries. -/
inductive IsPlainContainer : Container → Prop
  | list (items : List Value) : IsPlainContainer (.sequence .list items)
  | tuple (items : List Value) : IsPlainContainer (.sequence .tuple items)
  | dict (members : Members) : IsPlainContainer (.mapping .dict members)

/-- Null, truth values, integers and texts, as keys and as values, and as values plain containers
too. -/
inductive IsPlainPart (heap : Heap) : Part → Prop
  | textKey (t : Text) : IsPlainPart heap (.key (.text t))
  | nullKey : IsPlainPart heap (.key .null)
  | boolKey (b : Bool) : IsPlainPart heap (.key (.bool b))
  | intKey (n : Int) : IsPlainPart heap (.key (.int n))
  | null : IsPlainPart heap (.value .null)
  | bool (b : Bool) : IsPlainPart heap (.value (.bool b))
  | int (n : Int) : IsPlainPart heap (.value (.int n))
  | text (t : Text) : IsPlainPart heap (.value (.text t))
  | container {v : Value} {c : Container} :
    v.container? heap = some c → IsPlainContainer c → IsPlainPart heap (.value v)

variable {heap : Heap} {gap : Text} {v u : Value}

theorem Asks.gap_eq {space : Value} (h : Asks space gap) : Json.gap heap space = .ok gap := by
  cases h <;> rfl

theorem Asks.isWritable {space : Value} (h : Asks space gap) : gap.IsWritable := by
  cases h with
  | null => exact nofun
  | bool => exact nofun
  | int n =>
    intro d hd
    rw [(List.mem_replicate.1 hd).2]
    rfl
  | text ht => exact fun d hd => ht d (List.mem_of_mem_take hd)

theorem IsPlainPart.isSupported {p : Part} (h : IsPlainPart heap p) : IsSupported heap p := by
  cases h with
  | @container v c hc =>
    cases v with
    | shared place => exact ⟨c, hc⟩
    | other => cases hc
    | _ => trivial
  | _ => trivial

/-! ## Levels -/

/-- The indentation of a line under so many open containers. -/
def indentAt (gap : Text) (level : Nat) : Text := (List.replicate level gap).flatten

theorem indentAt_succ (gap : Text) (level : Nat) :
    indentAt gap (level + 1) = indentAt gap level ++ gap := by
  rw [indentAt, List.replicate_succ', List.flatten_append, List.flatten_singleton, indentAt]

theorem isWritable_indentAt (hg : gap.IsWritable) (level : Nat) :
    (indentAt gap level).IsWritable := by
  induction level with
  | zero => exact nofun
  | succ level ih =>
    rw [indentAt_succ]
    exact isWritable_append.2 ⟨ih, hg⟩

theorem newline_ofGap (gap : Text) (level : Nat) :
    (Spacing.ofGap gap).newline level = trail gap (indentAt gap level) := by
  unfold Spacing.ofGap trail
  split
  · rfl
  · rfl

theorem newline_ofGap_succ (gap : Text) (level : Nat) :
    (Spacing.ofGap gap).newline (level + 1) = lead gap (indentAt gap level) := by
  rw [newline_ofGap, trail, indentAt_succ, lead]

theorem colon_ofGap (gap : Text) : (Spacing.ofGap gap).colon = colon gap := by
  unfold Spacing.ofGap colon
  split
  · rfl
  · rfl

theorem isWritable_trail (hg : gap.IsWritable) (level : Nat) :
    (trail gap (indentAt gap level)).IsWritable := by
  unfold trail
  split
  · exact nofun
  · exact isWritable_cons.2 ⟨rfl, isWritable_indentAt hg level⟩

theorem isWritable_of_word? {t : Text} (h : word? v = some t) : t.IsWritable :=
  fun d hd => isSurrogate_of_isPlain (isPlain_of_word? h d hd).1

theorem memberName_of_keyText? {key : Key} {name : Text} (h : keyText? key = some name) :
    memberName key = .ok name := by
  cases key <;> cases h <;> rfl

/-! ## What is written -/

/-- What stands before a part, with its surrogates escaped. -/
theorem escapeSurrogates_lead (hg : gap.IsWritable) {mark : CodePoint}
    (hmark : mark.isSurrogate = false) (level : Nat) (t : Text) :
    escapeSurrogates (mark :: (Spacing.ofGap gap).newline (level + 1) ++ t) =
      mark :: (lead gap (indentAt gap level) ++ escapeSurrogates t) := by
  have hlead : (lead gap (indentAt gap level)).IsWritable := by
    rw [← newline_ofGap_succ, newline_ofGap]
    exact isWritable_trail hg (level + 1)
  rw [List.cons_append, escapeSurrogates_cons hmark, escapeSurrogates_append, newline_ofGap_succ,
    escapeSurrogates_of_isWritable hlead]

/-- What stands after the last part, with its surrogates escaped. -/
theorem escapeSurrogates_trail (hg : gap.IsWritable) {closing : CodePoint}
    (hclosing : closing.isSurrogate = false) (level : Nat) (t : Text) :
    escapeSurrogates (t ++ ((Spacing.ofGap gap).newline level ++ [closing])) =
      escapeSurrogates t ++ (trail gap (indentAt gap level) ++ [closing]) := by
  have hlast : escapeSurrogates [closing] = [closing] := escapeSurrogates_cons hclosing []
  rw [escapeSurrogates_append, escapeSurrogates_append, newline_ofGap, hlast,
    escapeSurrogates_of_isWritable (isWritable_trail hg level)]

/-- What is written for members if there is one. -/
theorem exists_of_writeMembers? {spacing : Spacing} {level : Nat} {before body : Text} {key : Key}
    {rest : Members} (h : writeMembers? spacing level before ((key, v) :: rest) = some body) :
    ∃ name first others, keyText? key = some name ∧ write? spacing level v = some first ∧
      writeMembers? spacing level (',' :: spacing.newline level) rest = some others ∧
      body = before ++ (plainQuote name ++ (spacing.colon ++ (first ++ others))) := by
  rw [writeMembers?] at h
  obtain ⟨name, hname, h⟩ := Option.bind_eq_some_iff.1 h
  obtain ⟨first, hfirst, h⟩ := Option.bind_eq_some_iff.1 h
  obtain ⟨others, hothers, rfl⟩ := Option.map_eq_some_iff.1 h
  exact ⟨name, first, others, hname, hfirst, hothers, rfl⟩

theorem memberTexts_cons {indent name text : Text} {key : Key} (hname : keyText? key = some name)
    (hv : treeText? gap indent v = some text) (rest : Members) :
    memberTexts gap indent ((key, v) :: rest) =
      (quote name ++ colon gap ++ text) :: memberTexts gap indent rest := by
  rw [memberTexts, memberName_of_keyText? hname, hv]
  rfl

mutual

/-- What is written under so many open containers is the text of the value there, but for its
surrogates. -/
theorem treeText?_of_write? (hg : gap.IsWritable) : ∀ (u : Value) {level : Nat} {text : Text},
    write? (.ofGap gap) level u = some text →
      treeText? gap (indentAt gap level) u = some (escapeSurrogates text)
  | .null, _, _, h => by
    cases h
    rfl
  | .bool b, _, _, h => by
    cases h
    rw [treeText?, escapeSurrogates_of_isWritable (isWritable_of_word? (v := .bool b) rfl)]
  | .int n, _, _, h => by
    cases h
    rw [treeText?, ← intText,
      escapeSurrogates_of_isWritable (isWritable_of_word? (v := .int n) rfl)]
  | .text t, _, _, h => by
    cases h
    rw [treeText?, escapeSurrogates_plainQuote]
  | .float _, _, _, h => by cases h
  | .absent, _, _, h => by cases h
  | .other _ _ _, _, _, h => by cases h
  | .shared _, _, _, h => by cases h
  | .sequence kind items, level, text, h => by
    rw [write?] at h
    split at h
    · cases h
    cases items with
    | nil =>
      cases h
      rfl
    | cons item rest =>
      obtain ⟨body, hbody, rfl⟩ := Option.map_eq_some_iff.1 h
      have hchain := chain_of_writeItems? hg ']' (item :: rest) rfl hbody
      rw [escapeSurrogates_trail hg rfl, ← hchain, treeText?, itemTexts, enclose_cons]
  | .mapping kind members, level, text, h => by
    rw [write?] at h
    split at h
    · cases h
    cases members with
    | nil =>
      cases h
      rfl
    | cons member rest =>
      obtain ⟨body, hbody, rfl⟩ := Option.map_eq_some_iff.1 h
      obtain ⟨key, v⟩ := member
      have hchain := chain_of_writeMembers? hg '\x7d' ((key, v) :: rest) rfl hbody
      -- the first member is not left out, so the brackets have parts between them
      obtain ⟨name, first, others, hname, hfirst, -, -⟩ := exists_of_writeMembers? hbody
      have htext := treeText?_of_write? hg v hfirst
      rw [indentAt_succ] at htext
      rw [escapeSurrogates_trail hg rfl, ← hchain, treeText?, memberTexts_cons hname htext,
        enclose_cons]

theorem chain_of_writeItems? (hg : gap.IsWritable) (closing : CodePoint) :
    ∀ (items : List Value) {level : Nat} {mark : CodePoint} {body : Text},
      mark.isSurrogate = false →
      writeItems? (.ofGap gap) (level + 1)
        (mark :: (Spacing.ofGap gap).newline (level + 1)) items = some body →
      chain gap (indentAt gap level) closing mark
          (itemTexts gap (indentAt gap level ++ gap) items) =
        escapeSurrogates body ++ (trail gap (indentAt gap level) ++ [closing])
  | [], _, _, _, _, h => by
    cases h
    rfl
  | v :: rest, level, mark, body, hmark, h => by
    rw [writeItems?] at h
    obtain ⟨first, hfirst, h⟩ := Option.bind_eq_some_iff.1 h
    obtain ⟨others, hothers, rfl⟩ := Option.map_eq_some_iff.1 h
    have htext := treeText?_of_write? hg v hfirst
    have hrest := chain_of_writeItems? hg closing rest rfl hothers
    rw [indentAt_succ] at htext
    rw [itemTexts, htext, chain, Option.getD_some, hrest, escapeSurrogates_lead hg hmark,
      escapeSurrogates_append]
    simp only [List.cons_append, List.append_assoc]

theorem chain_of_writeMembers? (hg : gap.IsWritable) (closing : CodePoint) :
    ∀ (members : Members) {level : Nat} {mark : CodePoint} {body : Text},
      mark.isSurrogate = false →
      writeMembers? (.ofGap gap) (level + 1)
        (mark :: (Spacing.ofGap gap).newline (level + 1)) members = some body →
      chain gap (indentAt gap level) closing mark
          (memberTexts gap (indentAt gap level ++ gap) members) =
        escapeSurrogates body ++ (trail gap (indentAt gap level) ++ [closing])
  | [], _, _, _, _, h => by
    cases h
    rfl
  | (key, v) :: rest, level, mark, body, hmark, h => by
    obtain ⟨name, first, others, hname, hfirst, hothers, rfl⟩ := exists_of_writeMembers? h
    have htext := treeText?_of_write? hg v hfirst
    have hrest := chain_of_writeMembers? hg closing rest rfl hothers
    have hcolon : (colon gap).IsWritable := by
      unfold colon
      split <;> decide
    rw [indentAt_succ] at htext
    rw [memberTexts_cons hname htext, chain, hrest, escapeSurrogates_lead hg hmark,
      escapeSurrogates_append, escapeSurrogates_plainQuote, colon_ofGap, escapeSurrogates_append,
      escapeSurrogates_of_isWritable hcolon, escapeSurrogates_append]
    simp only [List.cons_append, List.append_assoc]

end

/-! ## Values of plain parts -/

/-- All that a value reaches is plain. -/
def HasPlainParts (heap : Heap) (v : Value) : Prop := ∀ p, Reaches heap v p → IsPlainPart heap p

theorem HasPlainParts.isPlainContainer {c : Container} (h : HasPlainParts heap v)
    (hc : v.container? heap = some c) : IsPlainContainer c := by
  cases h _ (.inl rfl) with
  | container hc' hplain =>
    cases hc'.symm.trans hc
    exact hplain
  | _ => cases hc

theorem HasPlainParts.part {c : Container} {p : Part} (h : HasPlainParts heap v)
    (hc : v.container? heap = some c) (hp : p ∈ parts c) : IsPlainPart heap p :=
  h p (.inr (.direct hc hp))

theorem HasPlainParts.inside {c : Container} (h : HasPlainParts heap v)
    (hc : v.container? heap = some c) (hu : .value u ∈ parts c) : HasPlainParts heap u := by
  rintro p (rfl | hcontains)
  · exact h.part hc hu
  · exact h p (.inr (.through hc hu hcontains))

theorem IsPlainPart.exists_keyText? {key : Key} (h : IsPlainPart heap (.key key)) :
    ∃ name, keyText? key = some name := by
  cases h <;> exact ⟨_, rfl⟩

section

variable (spacing : Spacing)

mutual

/-- The other printer writes all values of plain parts. -/
theorem exists_write? : ∀ {v u : Value}, UnfoldsTo heap v u → HasPlainParts heap v → ∀ level,
    ∃ text, write? spacing level u = some text
  | v, _, .leaf hleaf _, hplain, level => by
    cases hplain _ (.inl rfl) with
    | null => exact ⟨_, rfl⟩
    | bool b => exact ⟨_, rfl⟩
    | int n => exact ⟨_, rfl⟩
    | text t => exact ⟨_, rfl⟩
    | container hc => rw [hleaf] at hc; cases hc
  | v, _, @UnfoldsTo.sequence _ _ kind _ _ hc hitems, hplain, level => by
    have hkind : kind = .list ∨ kind = .tuple := by
      cases hplain.isPlainContainer hc with
      | list => exact .inl rfl
      | tuple => exact .inr rfl
    obtain ⟨body, hbody⟩ := exists_writeItems? hitems
      (fun u hu => hplain.inside hc (List.mem_map_of_mem hu)) (level + 1)
      ('[' :: spacing.newline (level + 1))
    rw [write?, if_neg fun hnot => hkind.elim hnot.1 hnot.2, hbody]
    split
    · exact ⟨_, rfl⟩
    · exact ⟨_, rfl⟩
  | v, _, @UnfoldsTo.mapping _ _ kind members _ hc hmembers, hplain, level => by
    have hkind : kind = .dict := by
      cases hplain.isPlainContainer hc with
      | dict => rfl
    have hpart : ∀ m ∈ members, IsPlainPart heap (.key m.1) ∧ HasPlainParts heap m.2 := fun m hm =>
      ⟨hplain.part hc (List.mem_flatMap.2 ⟨m, hm, by simp⟩),
        hplain.inside hc (List.mem_flatMap.2 ⟨m, hm, by simp⟩)⟩
    obtain ⟨body, hbody⟩ := exists_writeMembers? hmembers hpart (level + 1)
      ('\x7b' :: spacing.newline (level + 1))
    rw [write?, if_neg fun hnot => hnot hkind, hbody]
    split
    · exact ⟨_, rfl⟩
    · exact ⟨_, rfl⟩

theorem exists_writeItems? : ∀ {items us : List Value}, ItemsUnfoldTo heap items us →
    (∀ v ∈ items, HasPlainParts heap v) → ∀ level before,
      ∃ text, writeItems? spacing level before us = some text
  | _, _, .nil, _, _, _ => ⟨_, rfl⟩
  | _, _, .cons hv hrest, hplain, level, before => by
    obtain ⟨first, hfirst⟩ := exists_write? hv (hplain _ List.mem_cons_self) level
    obtain ⟨others, hothers⟩ := exists_writeItems? hrest
      (fun u hu => hplain u (List.mem_cons_of_mem _ hu)) level (',' :: spacing.newline level)
    rw [writeItems?, hfirst, hothers]
    exact ⟨_, rfl⟩

theorem exists_writeMembers? : ∀ {members us : Members}, MembersUnfoldTo heap members us →
    (∀ m ∈ members, IsPlainPart heap (.key m.1) ∧ HasPlainParts heap m.2) → ∀ level before,
      ∃ text, writeMembers? spacing level before us = some text
  | _, _, .nil, _, _, _ => ⟨_, rfl⟩
  | _, _, .cons hv hrest, hplain, level, before => by
    obtain ⟨hkey, hvalue⟩ := hplain _ List.mem_cons_self
    obtain ⟨name, hname⟩ := hkey.exists_keyText?
    obtain ⟨first, hfirst⟩ := exists_write? hv hvalue level
    obtain ⟨others, hothers⟩ := exists_writeMembers? hrest
      (fun m hm => hplain m (List.mem_cons_of_mem _ hm)) level (',' :: spacing.newline level)
    rw [writeMembers?, hname, hfirst, hothers]
    exact ⟨_, rfl⟩

end

end

/-- **Both printers write the same**, for every setting of the indentation and every value of
plain parts that has no cycle: what `stringify` answers without a replacer is the text that the
other printer writes for the value with its shared parts put wherever they stand, once the
surrogates in it are escaped. -/
theorem stringify_eq_write {space : Value} (hspace : Asks space gap) (hacyclic : IsAcyclic heap v)
    (hplain : HasPlainParts heap v) :
    ∃ u text, (∀ u', UnfoldsTo heap v u' ↔ u' = u) ∧ write? (.ofGap gap) 0 u = some text ∧
      ∀ (σ : Type) (spare : Nat) (s : σ),
        (stringify heap .keep space v spare).run s = (.ok (some (escapeSurrogates text)), s) := by
  have hclean : IsClean heap [] [.value v] :=
    isClean_iff.2 ⟨hacyclic, fun p hp => (hplain p hp).isSupported⟩
  obtain ⟨r, hrun, ⟨_, ⟨u, hu, rfl⟩, -, rfl⟩ | ⟨e, hstops, -⟩⟩ := exists_stringify hspace.gap_eq v
  · obtain ⟨text, htext⟩ := exists_write? (.ofGap gap) hu hplain 0
    refine ⟨u, text, fun u' => ⟨hu.unique, fun he => he ▸ hu⟩, htext, fun σ spare s => ?_⟩
    have htree := treeText?_of_write? hspace.isWritable u htext
    rw [hrun, ← htree]
    rfl
  · exact absurd hstops hclean.not_stops

/-- A dictionary with keys of several types and a surrogate after a backslash. -/
def catalog : Heap :=
  [.mapping .dict [(.null, .int (-1)), (.bool true, .text ['\\', .ofNat 0xD855])]]

theorem catalog_contains {p : Part} (h : Contains catalog (.shared 0) p) :
    IsPlainPart catalog p ∧ ∀ place, p ≠ .value (.shared place) := by
  cases h with
  | direct hc hp =>
    cases hc
    simp only [parts, List.flatMap_cons, List.flatMap_nil, List.cons_append, List.nil_append,
      List.mem_cons, List.not_mem_nil, or_false] at hp
    rcases hp with rfl | rfl | rfl | rfl
    · exact ⟨.nullKey, by simp⟩
    · exact ⟨.int _, by simp⟩
    · exact ⟨.boolKey _, by simp⟩
    · exact ⟨.text _, by simp⟩
  | @through _ u _ _ hc hu h =>
    have hleaf : u.container? catalog = none := by
      cases hc
      simp only [parts, List.flatMap_cons, List.flatMap_nil, List.cons_append, List.nil_append,
        List.mem_cons, List.not_mem_nil, or_false, reduceCtorEq, false_or, Part.value.injEq] at hu
      rcases hu with rfl | rfl <;> rfl
    cases h with
    | direct hc' => rw [hleaf] at hc'; cases hc'
    | through hc' => rw [hleaf] at hc'; cases hc'

/-- What the tuple of the same dictionary twice reaches. -/
theorem catalog_twice_reaches {p : Part}
    (h : Reaches catalog (.sequence .tuple [.shared 0, .shared 0]) p) :
    p = .value (.sequence .tuple [.shared 0, .shared 0]) ∨ p = .value (.shared 0) ∨
      Contains catalog (.shared 0) p := by
  have hshared : ∀ {c q}, Value.container? catalog (.sequence .tuple [.shared 0, .shared 0]) =
      some c → q ∈ parts c → q = .value (.shared 0) := by
    intro c q hc hq
    cases hc
    simpa [parts] using hq
  rcases h with rfl | h
  · exact .inl rfl
  cases h with
  | direct hc hp => exact .inr (.inl (hshared hc hp))
  | through hc hu h =>
    cases hshared hc hu
    exact .inr (.inr h)

/-- The dictionary twice, on lines of its own under one open list. -/
def twiceText : Text :=
  let once : Text := "\n-\x7b\n--\"null\": -1,\n--\"true\": \"\\\\\\ud855\"\n-\x7d"
  ("[" : Text) ++ once ++ ("," : Text) ++ once ++ ("\n]" : Text)

theorem stringify_eq_write_catalog :
    let twice := Value.sequence .tuple [.shared 0, .shared 0]
    Asks (.text "-") "-" ∧ IsAcyclic catalog twice ∧ HasPlainParts catalog twice ∧
      ∃ u text, UnfoldsTo catalog twice u ∧ write? (.ofGap "-") 0 u = some text ∧
        escapeSurrogates text = twiceText := by
  intro twice
  have hspace : Asks (.text "-") "-" := .text (by decide)
  have hacyclic : IsAcyclic catalog twice := by
    intro place hreaches hself
    rcases catalog_twice_reaches hreaches with he | he | hcontains
    · cases he
    · cases he
      exact (catalog_contains hself).2 0 rfl
    · exact (catalog_contains hcontains).2 place rfl
  have hplain : HasPlainParts catalog twice := by
    intro p hreaches
    rcases catalog_twice_reaches hreaches with rfl | rfl | hcontains
    · exact .container rfl (.tuple _)
    · exact .container rfl (.dict _)
    · exact (catalog_contains hcontains).1
  obtain ⟨u, text, hu, htext, hrun⟩ := stringify_eq_write hspace hacyclic hplain
  refine ⟨hspace, hacyclic, hplain, u, text, (hu u).2 rfl, htext, ?_⟩
  have hprinted : ((stringify catalog .keep (.text "-") twice 0).run ()).1 =
      .ok (some twiceText) := rfl
  rw [hrun] at hprinted
  exact Option.some.inj (Except.ok.inj hprinted)

end JsLiteral.Json
