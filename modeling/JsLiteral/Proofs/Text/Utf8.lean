import JsLiteral.Proofs.Json.Strings
import JsLiteral.Text.Utf8

/-!
# Decoding undoes encoding

The decoder reads a leading byte and the bytes that are owed after it, and what it has read then
are the bytes of one scalar value. So it accepts the bytes of a text, answers that text, and
accepts no others.

    decode? bytes = some t  ↔  encode? t = some bytes             (decode?_eq_some_iff)
    decode? bytes = none    ↔  no text has these bytes            (decode?_eq_none_iff)
-/

namespace JsLiteral.Text

theorem encode?_cons (c : CodePoint) (t : Text) :
    encode? (c :: t) =
      (c.toChar?.map encodeChar).bind fun bytes => (encode? t).map (bytes ++ ·) := by
  unfold encode?
  rw [List.mapM_cons]
  cases c.toChar?.map encodeChar with
  | none => rfl
  | some bytes =>
    cases t.mapM fun (c : CodePoint) => c.toChar?.map encodeChar with
    | none => rfl
    | some rest => rfl

/-! ## Owed bytes -/

/-- The bytes that are owed, and the number that they make of the bits read before them. -/
inductive Pending.Ends : Pending → List UInt8 → Nat → Prop where
  | last {p : Pending} {b : UInt8} (hrange : p.low ≤ b.toNat ∧ b.toNat ≤ p.high)
    (howed : p.owed ≤ 1) : Ends p [b] (p.bits * 0x40 + b.toNat % 0x40)
  | next {p : Pending} {b : UInt8} {tail : List UInt8} {n : Nat}
    (hrange : p.low ≤ b.toNat ∧ b.toNat ≤ p.high) (howed : ¬ p.owed ≤ 1)
    (htail : Ends ⟨p.owed - 1, 0x80, 0xBF, p.bits * 0x40 + b.toNat % 0x40⟩ tail n) :
    Ends p (b :: tail) n

theorem toUInt8_eq {n : Nat} {b : UInt8} (h : n = b.toNat) : n.toUInt8 = b := by
  subst h
  exact UInt8.ofNat_toNat

theorem exists_byte {n : Nat} (h : n < 0x100) : ∃ b : UInt8, n.toUInt8 = b ∧ b.toNat = n :=
  ⟨n.toUInt8, rfl, Nat.mod_eq_of_lt h⟩

theorem ends_one {low high bits n : Nat} {tail : List UInt8} :
    Pending.Ends ⟨1, low, high, bits⟩ tail n ↔
      ∃ b, tail = [b] ∧ (low ≤ b.toNat ∧ b.toNat ≤ high) ∧ n = bits * 0x40 + b.toNat % 0x40 := by
  constructor
  · intro h
    cases h with
    | last hrange => exact ⟨_, rfl, hrange, rfl⟩
    | next _ howed => exact absurd (Nat.le_refl 1) howed
  · rintro ⟨b, rfl, hrange, rfl⟩
    exact .last hrange (Nat.le_refl 1)

theorem ends_succ {owed low high bits n : Nat} {tail : List UInt8} :
    Pending.Ends ⟨owed + 2, low, high, bits⟩ tail n ↔
      ∃ b rest, tail = b :: rest ∧ (low ≤ b.toNat ∧ b.toNat ≤ high) ∧
        Pending.Ends ⟨owed + 1, 0x80, 0xBF, bits * 0x40 + b.toNat % 0x40⟩ rest n := by
  constructor
  · intro h
    cases h with
    | last _ howed => exact absurd howed (by simp)
    | next hrange _ htail => exact ⟨_, _, rfl, hrange, htail⟩
  · rintro ⟨b, rest, rfl, hrange, htail⟩
    exact .next hrange (by simp) htail

section

variable {c : Char}

theorem encodeChar_one (h : c.toNat < 0x80) : encodeChar c = [c.toNat.toUInt8] := if_pos h

theorem encodeChar_two (h : 0x80 ≤ c.toNat) (hlt : c.toNat < 0x800) : encodeChar c =
    [(0xC0 + c.toNat / 0x40).toUInt8, (0x80 + c.toNat % 0x40).toUInt8] := by
  unfold encodeChar
  simp only [if_neg (Nat.not_lt.2 h), if_pos hlt, Nat.shiftRight_zero]

theorem encodeChar_three (h : 0x800 ≤ c.toNat) (hlt : c.toNat < 0x10000) : encodeChar c =
    [(0xE0 + c.toNat / 0x1000).toUInt8, (0x80 + c.toNat / 0x40 % 0x40).toUInt8,
      (0x80 + c.toNat % 0x40).toUInt8] := by
  unfold encodeChar
  simp only [if_neg (show ¬ c.toNat < 0x80 by omega), if_neg (Nat.not_lt.2 h), if_pos hlt,
    Nat.shiftRight_eq_div_pow, Nat.reducePow, Nat.div_one]

theorem encodeChar_four (h : 0x10000 ≤ c.toNat) : encodeChar c =
    [(0xF0 + c.toNat / 0x40000).toUInt8, (0x80 + c.toNat / 0x1000 % 0x40).toUInt8,
      (0x80 + c.toNat / 0x40 % 0x40).toUInt8, (0x80 + c.toNat % 0x40).toUInt8] := by
  unfold encodeChar
  simp only [if_neg (show ¬ c.toNat < 0x80 by omega), if_neg (show ¬ c.toNat < 0x800 by omega),
    if_neg (Nat.not_lt.2 h), Nat.shiftRight_eq_div_pow, Nat.reducePow, Nat.div_one]

end

theorem exists_char {n : Nat} (h : n < 0xD800 ∨ 0xE000 ≤ n ∧ n < 0x110000) :
    ∃ c : Char, c.toNat = n := by
  have hn : (CodePoint.ofNat n).toNat = n := CodePoint.toNat_ofNat (by omega)
  rw [CodePoint.ofNat, dif_neg (by omega)] at hn
  exact ⟨Char.ofNat n, hn⟩

/-! ## Leading bytes -/

theorem leading?_two {b : Nat} (h : 0xC2 ≤ b ∧ b ≤ 0xDF) :
    leading? b = some ⟨1, 0x80, 0xBF, b - 0xC0⟩ := if_pos h

/-- After 0xE0 an overlong form is ruled out, after 0xED a surrogate. -/
theorem leading?_three {b : Nat} (h : 0xE0 ≤ b ∧ b ≤ 0xEF) :
    leading? b = some ⟨2, if b = 0xE0 then 0xA0 else 0x80, if b = 0xED then 0x9F else 0xBF,
      b - 0xE0⟩ := by
  rw [leading?, if_neg (by omega)]
  by_cases hfirst : b = 0xE0
  · rw [if_pos hfirst, if_pos hfirst, if_neg (by omega), hfirst]
  · rw [if_neg hfirst, if_neg hfirst]
    by_cases hsurrogate : b = 0xED
    · rw [if_pos hsurrogate, if_pos hsurrogate, hsurrogate]
    · rw [if_neg hsurrogate, if_neg hsurrogate, if_pos (by omega)]

/-- After 0xF0 an overlong form is ruled out, after 0xF4 a number past the last code point. -/
theorem leading?_four {b : Nat} (h : 0xF0 ≤ b ∧ b ≤ 0xF4) :
    leading? b = some ⟨3, if b = 0xF0 then 0x90 else 0x80, if b = 0xF4 then 0x8F else 0xBF,
      b - 0xF0⟩ := by
  rw [leading?, if_neg (by omega), if_neg (by omega), if_neg (by omega), if_neg (by omega)]
  by_cases hfirst : b = 0xF0
  · rw [if_pos hfirst, if_pos hfirst, if_neg (by omega), hfirst]
  · rw [if_neg hfirst, if_neg hfirst]
    by_cases hlast : b = 0xF4
    · rw [if_pos hlast, if_pos hlast, hlast]
    · rw [if_neg hlast, if_neg hlast, if_pos (by omega)]

theorem leading?_none {b : Nat} (h : b < 0xC2 ∨ 0xF4 < b) : leading? b = none := by
  rw [leading?, if_neg (by omega), if_neg (by omega), if_neg (by omega), if_neg (by omega),
    if_neg (by omega), if_neg (by omega), if_neg (by omega)]

/-- A leading byte begins a character of two, three or four bytes. -/
theorem leading?_cases {b : Nat} {p : Pending} (h : leading? b = some p) :
    0xC2 ≤ b ∧ b ≤ 0xDF ∨ 0xE0 ≤ b ∧ b ≤ 0xEF ∨ 0xF0 ≤ b ∧ b ≤ 0xF4 := by
  have hrange : ¬ (b < 0xC2 ∨ 0xF4 < b) := by
    intro hb
    rw [leading?_none hb] at h
    cases h
  omega

/-! ## One character -/

/-- What the decoder reads from a leading byte on is what the number is encoded to. -/
theorem exists_encodeChar {b : UInt8} {p : Pending} {tail : List UInt8} {n : Nat}
    (hb : leading? b.toNat = some p) (h : p.Ends tail n) :
    ∃ c : Char, c.toNat = n ∧ encodeChar c = b :: tail := by
  rcases leading?_cases hb with hrange | hrange | hrange
  · rw [leading?_two hrange] at hb
    cases hb
    obtain ⟨b₁, rfl, h₁, rfl⟩ := ends_one.1 h
    obtain ⟨c, hc⟩ := exists_char (n := (b.toNat - 0xC0) * 0x40 + b₁.toNat % 0x40) (by omega)
    refine ⟨c, hc, ?_⟩
    rw [encodeChar_two (by omega) (by omega), hc, toUInt8_eq (b := b) (by omega),
      toUInt8_eq (b := b₁) (by omega)]
  · rw [leading?_three hrange] at hb
    cases hb
    obtain ⟨b₁, _, rfl, h₁, h⟩ := ends_succ.1 h
    obtain ⟨b₂, rfl, h₂, rfl⟩ := ends_one.1 h
    have hlow : b.toNat = 0xE0 → 0xA0 ≤ b₁.toNat := fun he => by simpa [he] using h₁.1
    have hhigh : b.toNat = 0xED → b₁.toNat ≤ 0x9F := fun he => by simpa [he] using h₁.2
    have h₁ : 0x80 ≤ b₁.toNat ∧ b₁.toNat ≤ 0xBF := by
      split at h₁ <;> split at h₁ <;> omega
    obtain ⟨c, hc⟩ := exists_char (n := ((b.toNat - 0xE0) * 0x40 + b₁.toNat % 0x40) * 0x40 +
      b₂.toNat % 0x40) (by omega)
    refine ⟨c, hc, ?_⟩
    rw [encodeChar_three (by omega) (by omega), hc, toUInt8_eq (b := b) (by omega),
      toUInt8_eq (b := b₁) (by omega), toUInt8_eq (b := b₂) (by omega)]
  · rw [leading?_four hrange] at hb
    cases hb
    obtain ⟨b₁, _, rfl, h₁, h⟩ := ends_succ.1 h
    obtain ⟨b₂, _, rfl, h₂, h⟩ := ends_succ.1 h
    obtain ⟨b₃, rfl, h₃, rfl⟩ := ends_one.1 h
    have hlow : b.toNat = 0xF0 → 0x90 ≤ b₁.toNat := fun he => by simpa [he] using h₁.1
    have hhigh : b.toNat = 0xF4 → b₁.toNat ≤ 0x8F := fun he => by simpa [he] using h₁.2
    have h₁ : 0x80 ≤ b₁.toNat ∧ b₁.toNat ≤ 0xBF := by
      split at h₁ <;> split at h₁ <;> omega
    obtain ⟨c, hc⟩ := exists_char (n := (((b.toNat - 0xF0) * 0x40 + b₁.toNat % 0x40) * 0x40 +
      b₂.toNat % 0x40) * 0x40 + b₃.toNat % 0x40) (by omega)
    refine ⟨c, hc, ?_⟩
    rw [encodeChar_four (by omega), hc, toUInt8_eq (b := b) (by omega),
      toUInt8_eq (b := b₁) (by omega), toUInt8_eq (b := b₂) (by omega),
      toUInt8_eq (b := b₃) (by omega)]

/-- The bytes of a scalar value begin with one below 0x80, which is all, or with a leading byte,
after which they are owed. -/
theorem encodeChar_cases (c : Char) :
    (∃ b : UInt8, encodeChar c = [b] ∧ b.toNat < 0x80 ∧ b.toNat = c.toNat) ∨
      ∃ (b : UInt8) (tail : List UInt8) (p : Pending), encodeChar c = b :: tail ∧
        0x80 ≤ b.toNat ∧ leading? b.toNat = some p ∧ p.Ends tail c.toNat := by
  have hv : c.toNat.isValidChar := c.valid
  unfold Nat.isValidChar at hv
  by_cases hone : c.toNat < 0x80
  · obtain ⟨b, hb, hn⟩ := exists_byte (n := c.toNat) (by omega)
    exact Or.inl ⟨b, by rw [encodeChar_one hone, hb], by omega, hn⟩
  refine Or.inr ?_
  obtain ⟨b₁, hb₁, hn₁⟩ := exists_byte (n := 0x80 + c.toNat % 0x40) (by omega)
  by_cases htwo : c.toNat < 0x800
  · obtain ⟨b, hb, hn⟩ := exists_byte (n := 0xC0 + c.toNat / 0x40) (by omega)
    refine ⟨b, [b₁], _, ?_, by omega, leading?_two (by omega), ends_one.2 ⟨b₁, rfl, ?_⟩⟩
    · rw [encodeChar_two (by omega) htwo, hb, hb₁]
    · omega
  obtain ⟨b₂, hb₂, hn₂⟩ := exists_byte (n := 0x80 + c.toNat / 0x40 % 0x40) (by omega)
  by_cases hthree : c.toNat < 0x10000
  · obtain ⟨b, hb, hn⟩ := exists_byte (n := 0xE0 + c.toNat / 0x1000) (by omega)
    refine ⟨b, [b₂, b₁], _, ?_, by omega, leading?_three (by omega),
      ends_succ.2 ⟨b₂, [b₁], rfl, ?_, ends_one.2 ⟨b₁, rfl, by omega, ?_⟩⟩⟩
    · rw [encodeChar_three (by omega) hthree, hb, hb₁, hb₂]
    · split <;> split <;> omega
    · omega
  obtain ⟨b₃, hb₃, hn₃⟩ := exists_byte (n := 0x80 + c.toNat / 0x1000 % 0x40) (by omega)
  obtain ⟨b, hb, hn⟩ := exists_byte (n := 0xF0 + c.toNat / 0x40000) (by omega)
  refine ⟨b, [b₃, b₂, b₁], _, ?_, by omega, leading?_four (by omega),
    ends_succ.2 ⟨b₃, [b₂, b₁], rfl, ?_, ends_succ.2 ⟨b₂, [b₁], rfl, by omega,
      ends_one.2 ⟨b₁, rfl, by omega, ?_⟩⟩⟩⟩
  · rw [encodeChar_four (by omega), hb, hb₁, hb₂, hb₃]
  · split <;> split <;> omega
  · omega

/-! ## Texts -/

/-- A character that was begun is read to its end, or nothing is. -/
theorem decodeFrom_some_eq_some {acc t : Text} {bytes : List UInt8} : ∀ {p : Pending},
    decodeFrom (some p) acc bytes = some t ↔ ∃ tail n rest, bytes = tail ++ rest ∧ p.Ends tail n ∧
      decodeFrom none (CodePoint.ofNat n :: acc) rest = some t := by
  induction bytes with
  | nil =>
    intro p
    refine ⟨nofun, ?_⟩
    rintro ⟨tail, n, rest, hbytes, hends, -⟩
    obtain ⟨rfl, -⟩ := List.append_eq_nil_iff.1 hbytes.symm
    cases hends
  | cons b bytes ih =>
    intro p
    rw [decodeFrom]
    by_cases hrange : p.low ≤ b.toNat ∧ b.toNat ≤ p.high
    · rw [if_pos hrange]
      by_cases howed : p.owed ≤ 1
      · rw [if_pos howed]
        constructor
        · exact fun h => ⟨[b], _, bytes, rfl, .last hrange howed, h⟩
        · rintro ⟨tail, n, rest, hbytes, hends, h⟩
          cases hends with
          | last =>
            cases hbytes
            exact h
          | next _ hmore => exact absurd howed hmore
      · rw [if_neg howed, ih]
        constructor
        · rintro ⟨tail, n, rest, rfl, hends, h⟩
          exact ⟨b :: tail, n, rest, rfl, .next hrange howed hends, h⟩
        · rintro ⟨tail, n, rest, hbytes, hends, h⟩
          cases hends with
          | last _ hlast => exact absurd hlast howed
          | next _ _ hends =>
            cases hbytes
            exact ⟨_, n, rest, rfl, hends, h⟩
    · rw [if_neg hrange]
      refine ⟨nofun, ?_⟩
      rintro ⟨tail, n, rest, hbytes, hends, -⟩
      cases hends with
      | last hin =>
        cases hbytes
        exact absurd hin hrange
      | next hin =>
        cases hbytes
        exact absurd hin hrange

/-- The bytes of a character come first, and the character is read. -/
theorem decodeFrom_none_eq_some {acc t : Text} {b : UInt8} {bytes : List UInt8} :
    decodeFrom none acc (b :: bytes) = some t ↔ ∃ c rest, b :: bytes = encodeChar c ++ rest ∧
      decodeFrom none (CodePoint.scalar c :: acc) rest = some t := by
  have hofNat : ∀ c : Char, CodePoint.ofNat c.toNat = .scalar c :=
    fun c => CodePoint.ofNat_toNat (.scalar c)
  rw [decodeFrom]
  constructor
  · intro h
    split at h
    · rename_i hone
      obtain ⟨c, hc⟩ := exists_char (n := b.toNat) (by omega)
      rw [← hc, hofNat] at h
      exact ⟨c, bytes, by rw [encodeChar_one (by omega), hc, toUInt8_eq rfl]; rfl, h⟩
    · split at h
      · rename_i p hb
        obtain ⟨tail, n, rest, rfl, hends, h⟩ := decodeFrom_some_eq_some.1 h
        obtain ⟨c, rfl, hc⟩ := exists_encodeChar hb hends
        rw [hofNat] at h
        exact ⟨c, rest, by rw [hc]; rfl, h⟩
      · cases h
  · rintro ⟨c, rest, hbytes, h⟩
    rcases encodeChar_cases c with ⟨b', hc, hone, hn⟩ | ⟨b', tail, p, hc, hmore, hb, hends⟩
    · rw [hc] at hbytes
      cases hbytes
      rw [if_pos hone, hn, hofNat]
      exact h
    · rw [hc] at hbytes
      cases hbytes
      rw [if_neg (by omega), hb]
      rw [← hofNat] at h
      exact decodeFrom_some_eq_some.2 ⟨tail, c.toNat, rest, rfl, hends, h⟩

theorem encode?_cons_eq_some {c : CodePoint} {t : Text} {bytes : List UInt8} :
    encode? (c :: t) = some bytes ↔
      ∃ d rest, c = .scalar d ∧ encode? t = some rest ∧ bytes = encodeChar d ++ rest := by
  rw [encode?_cons]
  cases c with
  | surrogate s => exact ⟨nofun, fun ⟨_, _, hc, _⟩ => nomatch hc⟩
  | scalar d =>
    show (encode? t).map (encodeChar d ++ ·) = some bytes ↔ _
    rw [Option.map_eq_some_iff]
    constructor
    · rintro ⟨rest, ht, rfl⟩
      exact ⟨d, rest, rfl, ht, rfl⟩
    · rintro ⟨_, rest, hc, ht, rfl⟩
      cases hc
      exact ⟨rest, ht, rfl⟩

theorem encodeChar_ne_nil (c : Char) : encodeChar c ≠ [] := by
  rcases encodeChar_cases c with ⟨b, hc, -⟩ | ⟨b, tail, p, hc, -⟩ <;> rw [hc] <;> nofun

theorem encode?_eq_some_nil {t : Text} : encode? t = some [] ↔ t = [] := by
  cases t with
  | nil => exact ⟨fun _ => rfl, fun _ => rfl⟩
  | cons c t =>
    rw [encode?_cons_eq_some]
    refine ⟨?_, nofun⟩
    rintro ⟨d, rest, -, -, hnil⟩
    exact absurd (List.append_eq_nil_iff.1 hnil.symm).1 (encodeChar_ne_nil d)

theorem decodeFrom_eq_some (length : Nat) : ∀ {bytes : List UInt8} {acc t : Text},
    bytes.length = length → (decodeFrom none acc bytes = some t ↔
      ∃ u, t = acc.reverse ++ u ∧ encode? u = some bytes) := by
  -- on the number of bytes, of which every character takes one at least
  induction length using Nat.strongRecOn with
  | ind length ih =>
    intro bytes acc t hlength
    cases bytes with
    | nil =>
      rw [decodeFrom, Option.some.injEq]
      constructor
      · rintro rfl
        exact ⟨[], (List.append_nil _).symm, rfl⟩
      · rintro ⟨u, rfl, hu⟩
        rw [encode?_eq_some_nil.1 hu, List.append_nil]
    | cons b bytes =>
      have hshorter : ∀ {c : Char} {rest : List UInt8}, b :: bytes = encodeChar c ++ rest →
          rest.length < length := by
        intro c rest h
        have hc := List.length_pos_iff.2 (encodeChar_ne_nil c)
        rw [← hlength, h, List.length_append]
        omega
      rw [decodeFrom_none_eq_some]
      constructor
      · rintro ⟨c, rest, hbytes, h⟩
        obtain ⟨u, rfl, hu⟩ := (ih _ (hshorter hbytes) rfl).1 h
        refine ⟨.scalar c :: u, by simp, encode?_cons_eq_some.2 ⟨c, rest, rfl, hu, hbytes⟩⟩
      · rintro ⟨u, rfl, hu⟩
        cases u with
        | nil => cases hu
        | cons c u =>
          obtain ⟨d, rest, rfl, hu, hbytes⟩ := encode?_cons_eq_some.1 hu
          exact ⟨d, rest, hbytes, (ih _ (hshorter hbytes) rfl).2 ⟨u, by simp, hu⟩⟩

/-- **Decoding undoes encoding**: what the decoder accepts are the bytes of a text, and it answers
this text. -/
theorem decode?_eq_some_iff {bytes : List UInt8} {t : Text} :
    decode? bytes = some t ↔ encode? t = some bytes := by
  rw [decode?, decodeFrom_eq_some bytes.length rfl]
  constructor
  · rintro ⟨u, rfl, hu⟩
    exact hu
  · exact fun h => ⟨t, rfl, h⟩

/-- The decoder refuses what are the bytes of no text. -/
theorem decode?_eq_none_iff {bytes : List UInt8} :
    decode? bytes = none ↔ ∀ t, encode? t ≠ some bytes := by
  rw [Option.eq_none_iff_forall_ne_some]
  exact forall_congr' fun t => not_congr decode?_eq_some_iff

end JsLiteral.Text
