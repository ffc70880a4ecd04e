import JsLiteral.Text.CharacterNameTable
import JsLiteral.Text.Decimal
import JsLiteral.Text.Runs

/-!
# Names of characters

Whether a text is the name of a character or an alias of one. Most names are in a table, in
capitals, and may be given in lower case too. Those of the Korean syllables and of the unified
ideographs follow rules and are given in capitals: a syllable by its letters, an ideograph by
four or five hexadecimal digits.

    expand before lines         has one name for each line           (length_expand)
-/

namespace JsLiteral.CharacterName

/-! ## The table -/

/-- How many letters a line of the table takes from the name before. -/
def sharedLength (line : Text) : Nat :=
  (line.take 2).foldl (fun n (c : CodePoint) => 10 * n + c.digit?.getD 0) 0

/-- The names that lines stand for; `before` is the name on the line before. -/
def expand (before : Text) : List Text → List Text
  | [] => []
  | line :: rest =>
    let name := before.take (sharedLength line) ++ line.drop 2
    name :: expand name rest

/-- A letter from `a` to `z` becomes its capital. -/
def capital (c : CodePoint) : CodePoint :=
  if 0x61 ≤ c.toNat ∧ c.toNat ≤ 0x7A then CodePoint.ofNat (c.toNat - 0x20) else c

/-- Whether a name is in the table. -/
def isListed (name : Text) : Bool :=
  let name := name.map capital
  tables.any fun table => (expand [] (Text.ofString table).lines).contains name

/-! ## Korean syllables -/

/-- The letters that a syllable can start with, or none. -/
def initials : List Text := ["G", "GG", "N", "D", "DD", "R", "M", "B", "BB", "S", "SS", "", "J",
  "JJ", "C", "K", "T", "P", "H"]

def vowels : List Text := ["A", "AE", "YA", "YAE", "EO", "E", "YEO", "YE", "O", "WA", "WAE", "OE",
  "YO", "U", "WEO", "WE", "WI", "YU", "EU", "YI", "I"]

/-- The letters that a syllable can end with, or none. -/
def finals : List Text := ["", "G", "GG", "GS", "N", "NJ", "NH", "D", "L", "LG", "LM", "LB", "LS",
  "LT", "LP", "LH", "M", "B", "BS", "S", "SS", "NG", "J", "C", "K", "T", "P", "H"]

/-- Whether a text spells a syllable. -/
def isSyllable (t : Text) : Bool :=
  initials.any fun i => i.isPrefixOf t && vowels.any fun v =>
    v.isPrefixOf (t.drop i.length) && finals.contains (t.drop (i.length + v.length))

/-! ## Ideographs -/

/-- The unified ideographs. -/
def ideographs : Runs := [(0x3400, 0x4dbf), (0x4e00, 0x9fff), (0x20000, 0x2a6df),
  (0x2a700, 0x2b738), (0x2b740, 0x2b81d), (0x2b820, 0x2cea1), (0x2ceb0, 0x2ebe0),
  (0x30000, 0x3134a)]

/-- Whether four or five digits in capitals are the number of an ideograph. -/
def isIdeograph (digits : Text) : Bool :=
  let isCapital (c : CodePoint) : Bool := c.hexDigit?.isSome && capital c == c
  let number := digits.foldl (fun n (c : CodePoint) => 16 * n + c.hexDigit?.getD 0) 0
  (digits.length == 4 || digits.length == 5) && digits.all isCapital
    && (CodePoint.ofNat number).isIn ideographs

/-! ## All names -/

def syllableStart : Text := "HANGUL SYLLABLE "

def ideographStart : Text := "CJK UNIFIED IDEOGRAPH-"

/-- Whether a text is the name of a character. -/
def isKnown (name : Text) : Bool :=
  if syllableStart.isPrefixOf name then isSyllable (name.drop syllableStart.length)
  else if ideographStart.isPrefixOf name then isIdeograph (name.drop ideographStart.length)
  else isListed name

/-! ## Lemmas -/

theorem length_expand (before : Text) (lines : List Text) :
    (expand before lines).length = lines.length := by
  induction lines generalizing before with
  | nil => rfl
  | cons line rest ih => simp [expand, ih]

end JsLiteral.CharacterName
