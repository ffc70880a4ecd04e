import JsLiteral.Json.Compact
import JsLiteral.Proofs.Marker
import JsLiteral.Proofs.Text.Utf8

/-!
# Compact JSON is ASCII

A configuration is written with one byte for each code point. That loses nothing of it: numbers
are digits and marks, strings escape what is not ASCII, and the rest is a few words and brackets.

    a text in ASCII is written as its UTF-8 bytes                    (IsAscii.encode?_eq)
    and these are read back as the text                              (IsAscii.map_bytes)
    Compact.text heap v = .ok t → t.IsAscii                          (Compact.isAscii_text)
-/

namespace JsLiteral

namespace Text

/-- Holds code points below U+0080 only. -/
def IsAscii (t : Text) : Prop := ∀ c ∈ t, c.toNat < 0x80

instance {t : Text} : Decidable t.IsAscii := inferInstanceAs (Decidable (∀ c ∈ t, c.toNat < 0x80))

namespace IsAscii

theorem append {a b : Text} (ha : IsAscii a) (hb : IsAscii b) : IsAscii (a ++ b) := by
  intro c hc
  rcases List.mem_append.1 hc with hc | hc
  · exact ha c hc
  · exact hb c hc

theorem cons {c : CodePoint} {t : Text} (hc : c.toNat < 0x80) (ht : IsAscii t) :
    IsAscii (c :: t) := by
  intro d hd
  rcases List.mem_cons.1 hd with rfl | hd
  · exact hc
  · exact ht d hd

theorem take {t : Text} (h : IsAscii t) (n : Nat) : IsAscii (t.take n) :=
  fun c hc => h c (List.mem_of_mem_take hc)

theorem drop {t : Text} (h : IsAscii t) (n : Nat) : IsAscii (t.drop n) :=
  fun c hc => h c (List.mem_of_mem_drop hc)

theorem flatMap {α : Type} {f : α → Text} {xs : List α} (h : ∀ x ∈ xs, IsAscii (f x)) :
    IsAscii (xs.flatMap f) := by
  intro c hc
  obtain ⟨x, hx, hc⟩ := List.mem_flatMap.1 hc
  exact h x hx c hc

theorem zeros (n : Nat) : IsAscii (List.replicate n '0') :=
  fun _ hd => List.eq_of_mem_replicate hd ▸ by decide

theorem join {sep : Text} (hsep : IsAscii sep) {parts : List Text}
    (h : ∀ part ∈ parts, IsAscii part) : IsAscii (Text.join sep parts) := by
  cases parts with
  | nil => exact fun _ hc => absurd hc List.not_mem_nil
  | cons first rest =>
    exact (h first List.mem_cons_self).append
      (flatMap fun part hpart => hsep.append (h part (List.mem_cons_of_mem _ hpart)))

theorem ofNat (n : Nat) : IsAscii (Text.ofNat n) := by
  intro c hc
  have hdigit := isDigit_of_mem_ofNat hc
  unfold CodePoint.isDigit CodePoint.digit? at hdigit
  split at hdigit
  · omega
  · cases hdigit

theorem ofInt (n : Int) : IsAscii (Text.ofInt n) := by
  cases n with
  | ofNat n => exact .ofNat n
  | negSucc n => exact .cons (by decide) (.ofNat (n + 1))

/-- A text in ASCII has one byte for each code point. -/
theorem encode?_eq {t : Text} (h : IsAscii t) :
    encode? t = some (t.map fun c => c.toNat.toUInt8) := by
  induction t with
  | nil => rfl
  | cons c t ih =>
    have hc := h c List.mem_cons_self
    cases c with
    | surrogate s =>
      have hn : (CodePoint.surrogate s).toNat = 0xD800 + s.val := rfl
      omega
    | scalar d =>
      exact encode?_cons_eq_some.2
        ⟨d, _, rfl, ih fun e he => h e (List.mem_cons_of_mem _ he), by rw [encodeChar_one hc]; rfl⟩

/-- The bytes of a text in ASCII are its code points. -/
theorem map_bytes {t : Text} (h : IsAscii t) :
    (t.map fun c => c.toNat.toUInt8).map (fun b => CodePoint.ofNat b.toNat) = t := by
  rw [List.map_map]
  refine (List.map_congr_left fun c hc => ?_).trans (List.map_id t)
  have hbyte : c.toNat.toUInt8.toNat = c.toNat :=
    Nat.mod_eq_of_lt (Nat.lt_trans (h c hc) (by decide))
  rw [Function.comp_apply, hbyte, c.ofNat_toNat, id]

end IsAscii

end Text

open Text

/-! ## Numbers -/

namespace NumberLayout

variable (layout : NumberLayout) {ds : Text}

theorem isAscii_positional (hds : IsAscii ds) (lead : Int) :
    IsAscii (layout.positional ds lead) := by
  have hinteger := (hds.take (lead.toNat + 1)).append (.zeros (lead.toNat + 1 - ds.length))
  unfold positional
  simp only
  split
  · exact (IsAscii.cons (by decide) (.cons (by decide) (.zeros _))).append hds
  split
  · refine hinteger.append ?_
    split
    · decide
    · decide
  · exact hinteger.append (.cons (by decide) (hds.drop _))

theorem isAscii_scientific (hds : IsAscii ds) (lead : Int) :
    IsAscii (layout.scientific ds lead) := by
  have hfraction : IsAscii (if ds.length ≤ 1 then [] else .scalar '.' :: ds.drop 1) := by
    split
    · decide
    · exact .cons (by decide) (hds.drop 1)
  have hsign : (if lead < 0 then '-' else '+' : CodePoint).toNat < 0x80 := by
    split
    · decide
    · decide
  unfold scientific
  exact ((hds.take 1).append hfraction).append
    (.cons (by decide) (.cons hsign ((IsAscii.zeros _).append (.ofNat _))))

theorem isAscii_writeDecimal (d : Decimal) : IsAscii (layout.writeDecimal d) := by
  unfold writeDecimal
  simp only
  generalize (if d.digits = 0 then 0 else ((Text.ofNat d.digits).length : Int) - 1 + d.exponent) =
    lead
  split
  · exact layout.isAscii_positional (.ofNat _) lead
  · exact layout.isAscii_scientific (.ofNat _) lead

theorem isAscii_write (hnan : IsAscii layout.notANumber) (hinf : IsAscii layout.infinity)
    (x : Binary64) : IsAscii (layout.write x) := by
  have hsign : IsAscii (if x.negative then ['-'] else []) := by
    split
    · decide
    · decide
  unfold write
  simp only
  split
  · exact hnan
  split
  · exact hsign.append hinf
  · exact hsign.append (layout.isAscii_writeDecimal _)

end NumberLayout

/-! ## Strings -/

namespace Json

open Placeholder

theorem isAscii_of_escapeMarks {e : Text} (h : ∀ c ∈ e, c ∈ escapeMarks) : IsAscii ('\\' :: e) :=
  .cons (by decide) fun c hc => (by decide : IsAscii escapeMarks) c (h c hc)

theorem isAscii_unitEscape {n : Nat} (hn : n < 0x10000) : IsAscii (unitEscape n) := by
  obtain ⟨e, he, hmarks⟩ := exists_unitEscape hn
  rw [he]
  exact isAscii_of_escapeMarks hmarks

theorem isAscii_quoteAsciiPoint (c : CodePoint) : IsAscii (quoteAsciiPoint c) := by
  unfold quoteAsciiPoint
  split
  · rename_i e he
    rcases shortEscape?_eq_some he with ⟨l, rfl, -, hl⟩ | ⟨hc, rfl⟩
    · refine isAscii_of_escapeMarks fun d hd => ?_
      rw [List.mem_singleton.1 hd]
      exact mem_escapeMarks hl
    · exact isAscii_unitEscape (by omega)
  · have hmax := c.toNat_lt
    simp only
    split
    · rename_i hlt
      exact .cons (Nat.lt_succ_of_lt hlt) (by decide)
    split
    · rename_i hlt
      exact isAscii_unitEscape hlt
    · exact (isAscii_unitEscape (by omega)).append (isAscii_unitEscape (by omega))

theorem isAscii_quoteAscii (t : Text) : IsAscii (quoteAscii t) :=
  .cons (by decide) ((IsAscii.flatMap fun c _ => isAscii_quoteAsciiPoint c).append (by decide))

end Json

/-! ## Values -/

namespace Json.Compact

theorem isAscii_floatText (x : Binary64) : IsAscii (floatText x) := by
  unfold floatText
  split
  · decide
  split
  · split
    · decide
    · decide
  · exact NumberLayout.isAscii_write _ (by decide) (by decide) x

/-- Answers to all items are an answer to each. -/
theorem forall₂_of_mapM_eq_ok {α β : Type} {f : α → Except Failure β} {xs : List α} {ys : List β}
    (h : xs.mapM f = .ok ys) : List.Forall₂ (fun x y => f x = .ok y) xs ys := by
  induction xs generalizing ys with
  | nil =>
    cases h
    exact .nil
  | cons x xs ih =>
    rw [List.mapM_cons] at h
    obtain ⟨first, hx, h⟩ := bind_eq_ok h
    obtain ⟨rest, hxs, h⟩ := bind_eq_ok h
    cases h
    exact .cons hx (ih hxs)

/-- What every answer to an item has, each of the answers to all of them has. -/
theorem forall_of_mapM_eq_ok {α β : Type} {P : β → Prop} {f : α → Except Failure β} {xs : List α}
    {ys : List β} (h : xs.mapM f = .ok ys) (hf : ∀ x y, f x = .ok y → P y) : ∀ y ∈ ys, P y := by
  have hall := forall₂_of_mapM_eq_ok h
  clear h
  induction hall with
  | nil => exact fun _ hy => absurd hy List.not_mem_nil
  | cons hx _ ih => exact List.forall_mem_cons.2 ⟨hf _ _ hx, ih⟩

section

variable {write : Value → Except Failure Text} {t : Text}

theorem isAscii_items (hwrite : ∀ v u, write v = .ok u → IsAscii u) {vs : List Value}
    (h : items write vs = .ok t) : IsAscii t := by
  obtain ⟨parts, hparts, h⟩ := bind_eq_ok h
  cases h
  exact .cons (by decide) ((IsAscii.join (by decide) (forall_of_mapM_eq_ok hparts hwrite)).append
    (by decide))

theorem isAscii_members (hwrite : ∀ v u, write v = .ok u → IsAscii u) {ms : Members}
    (h : members write ms = .ok t) : IsAscii t := by
  obtain ⟨parts, hparts, h⟩ := bind_eq_ok h
  cases h
  refine .cons (by decide) ((IsAscii.join (by decide) (forall_of_mapM_eq_ok hparts ?_)).append
    (by decide))
  intro p part hpart
  obtain ⟨name, -, hpart⟩ := bind_eq_ok hpart
  obtain ⟨u, hu, hpart⟩ := bind_eq_ok hpart
  cases hpart
  exact ((isAscii_quoteAscii name).append (by decide)).append (hwrite p.2 u hu)

end

theorem isAscii_write (heap : Heap) (limit : Nat) : ∀ (path : List Nat) (v : Value) (t : Text),
    write heap limit path v = .ok t → IsAscii t := by
  induction limit with
  | zero => exact fun _ _ _ h => nomatch h
  | succ limit ih =>
    intro path v t h
    cases v with
    | null =>
      cases h
      decide
    | bool b =>
      cases h
      cases b
      · decide
      · decide
    | int n =>
      cases h
      exact .ofInt n
    | float x =>
      cases h
      exact isAscii_floatText x
    | text t =>
      cases h
      exact isAscii_quoteAscii t
    | absent => cases h
    | other typeName _ _ => cases h
    | sequence kind vs =>
      cases kind with
      | list => exact isAscii_items (ih path) h
      | tuple => exact isAscii_items (ih path) h
      | _ => cases h
    | mapping kind ms =>
      cases kind with
      | dict => exact isAscii_members (ih path) h
      | _ => cases h
    | shared place =>
      unfold write at h
      simp only at h
      split at h
      · cases h
      · split at h
        · split at h
          · exact isAscii_items (ih _) h
          · exact isAscii_items (ih _) h
          · exact isAscii_members (ih _) h
          · cases h
        · cases h

theorem isAscii_text {heap : Heap} {v : Value} {t : Text} (h : text heap v = .ok t) : IsAscii t :=
  isAscii_write heap _ _ _ _ h

end Json.Compact

end JsLiteral
