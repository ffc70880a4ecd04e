import JsLiteral.CommandLine.Markup.PictographTable
import JsLiteral.Text.Blank
import JsLiteral.Text.Decimal
import JsLiteral.Text.LowerCase

/-!
# Pictographs

A name between colons, without blanks, stands for a picture. After the name, `-text` or
`-emoji` asks for the plain or the coloured form. What is between two colons and names
nothing stays as it is, both colons included.

    what is between two colons is drawn or stays              (exists_pictographAt?)
    draw t = t                  for t without colons          (draw_of_not_mem)
-/

namespace JsLiteral.Markup

/-- The number that hexadecimal digits spell. -/
def hexValue (t : Text) : Nat := t.foldl (fun n (c : CodePoint) => 16 * n + c.hexDigit?.getD 0) 0

/-- The picture with a name. -/
def pictograph? (name : Text) : Option Text :=
  let start := name ++ [CodePoint.scalar ' ']
  let line := pictographTables.findSome? fun table =>
    (Text.ofString table).lines.find? fun line => start.isPrefixOf line
  line.map fun line =>
    (Text.splitBy (· == ' ') (line.drop start.length)).map fun t => CodePoint.ofNat (hexValue t)

/-- The name in what stands between two colons, and the code point that its form asks for. -/
def nameAndForm (inside : Text) : Text × Text :=
  let plain : Text := "-text"
  let coloured : Text := "-emoji"
  if plain.isSuffixOf inside then
    (inside.take (inside.length - plain.length), [CodePoint.ofNat 0xFE0E])
  else if coloured.isSuffixOf inside then
    (inside.take (inside.length - coloured.length), [CodePoint.ofNat 0xFE0F])
  else (inside, [])

/-- A name between colons at the start of a text: how long it is with its colons, and what is
printed for it. -/
def pictographAt? (t : Text) : Option (Nat × Text) :=
  match t with
  | [] => none
  | c :: rest =>
    if c = ':' then
      let inside := rest.takeWhile fun (c : CodePoint) => c != ':' && !c.isBlank
      if (rest.drop inside.length).head? = some (CodePoint.scalar ':') then
        let (name, form) := nameAndForm inside
        let length := inside.length + 2
        match pictograph? name.lower with
        | some picture => some (length, picture ++ form)
        | none => some (length, t.take length)
      else none
    else none

/-- A code point that may stand in the name of a picture. -/
abbrev inName (c : CodePoint) : Bool := c != ':' && !c.isBlank

/-- The cases of a name, for any table of pictures: the real one is long, and no proof about names
has to look into it. -/
theorem exists_picture (pictures : Text → Option Text) (lower : Text → Text)
    (parts : Text → Text × Text) : ∃ picture? : Text → Option Text, ∀ (c : CodePoint) (rest : Text),
    (if c = ':' then
      let inside := rest.takeWhile fun (c : CodePoint) => c != ':' && !c.isBlank
      if (rest.drop inside.length).head? = some (CodePoint.scalar ':') then
        let (name, form) := parts inside
        let length := inside.length + 2
        match pictures (lower name) with
        | some picture => some (length, picture ++ form)
        | none => some (length, (c :: rest).take length)
      else none
    else none) =
      if c = CodePoint.scalar ':' ∧ (rest.drop (rest.takeWhile inName).length).head? =
          some (CodePoint.scalar ':') then
        some ((rest.takeWhile inName).length + 2, (picture? (rest.takeWhile inName)).getD
          ((c :: rest).take ((rest.takeWhile inName).length + 2)))
      else none := by
  refine ⟨fun inside => (pictures (lower (parts inside).1)).map (· ++ (parts inside).2),
    fun c rest => ?_⟩
  by_cases hc : c = CodePoint.scalar ':'
  · by_cases hhead : (rest.drop (rest.takeWhile inName).length).head? = some (CodePoint.scalar ':')
    · rw [if_pos hc, if_pos (And.intro hc hhead)]
      simp only
      rw [if_pos hhead]
      cases pictures (lower (parts (rest.takeWhile inName)).1) <;> rfl
    · have hname : ¬ (c = CodePoint.scalar ':' ∧ _) := fun h => hhead h.2
      rw [if_pos hc, if_neg hname]
      exact if_neg hhead
  · rw [if_neg hc]
    exact (if_neg fun h => hc h.1).symm

/-- Between two colons stands the name of a picture, or what stands there stays as it is. -/
theorem exists_pictographAt? : ∃ picture? : Text → Option Text, ∀ c rest,
    pictographAt? (c :: rest) =
      if c = CodePoint.scalar ':' ∧ (rest.drop (rest.takeWhile inName).length).head? =
          some (CodePoint.scalar ':') then
        some ((rest.takeWhile inName).length + 2, (picture? (rest.takeWhile inName)).getD
          ((c :: rest).take ((rest.takeWhile inName).length + 2)))
      else none := by
  obtain ⟨picture?, h⟩ := exists_picture pictograph? Text.lower nameAndForm
  refine ⟨picture?, fun c rest => ?_⟩
  rw [← h c rest, pictographAt?]

/-- Replaces names between colons; the first `skip` code points belong to one that was
replaced. -/
def drawFrom : Nat → Text → Text
  | _, [] => []
  | skip + 1, _ :: t => drawFrom skip t
  | 0, c :: t =>
    match pictographAt? (c :: t) with
    | some (length, picture) => picture ++ drawFrom (length - 1) t
    | none => c :: drawFrom 0 t

/-- A text with pictures for their names. -/
def draw (t : Text) : Text := drawFrom 0 t

/-- A text without colons has no names. -/
theorem draw_of_not_mem {t : Text} (h : CodePoint.scalar ':' ∉ t) : draw t = t := by
  unfold draw
  induction t with
  | nil => rfl
  | cons c t ih =>
    have hc : c ≠ CodePoint.scalar ':' := fun e => h (by rw [e]; exact List.mem_cons_self)
    have hat : pictographAt? (c :: t) = none := by
      unfold pictographAt?
      exact if_neg hc
    unfold drawFrom
    rw [hat]
    exact congrArg (c :: ·) (ih fun hm => h (List.mem_cons_of_mem c hm))

end JsLiteral.Markup
