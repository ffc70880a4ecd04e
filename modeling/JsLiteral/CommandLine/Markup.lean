import JsLiteral.CommandLine.Markup.Datum
import JsLiteral.CommandLine.Markup.Pictographs
import JsLiteral.CommandLine.Markup.Style
import JsLiteral.Text.Columns

/-!
# Console markup

A message for the console is a text with tags in brackets. A tag starts with a lower-case
letter, `#`, `/` or `@` after its bracket and is not printed; a closing tag must close an
open one, and a tag with `@` that is closed must have a datum for its parameters. Backslashes
before a tag keep it from being one, and `escape` puts them there. What is printed has
pictures for their names, no control codes that move the cursor, and blanks for tabs.
-/

namespace JsLiteral.Markup

/-! ## Tags -/

def startsTag (c : CodePoint) : Bool :=
  (0x61 ≤ c.toNat && c.toNat ≤ 0x7A) || c == '#' || c == '/' || c == '@'

/-- The inside of a tag up to its closing bracket, and what follows; `t` is what stands after
the opening bracket. -/
def tagBody? (t : Text) : Option (Text × Text) :=
  match t with
  | [] => none
  | c :: rest =>
    if startsTag c then
      let inside (c : CodePoint) : Bool := c != '[' && c != ']'
      match rest.dropWhile inside with
      | .scalar ']' :: r => some (c :: rest.takeWhile inside, r)
      | _ => none
    else none

/-- A tag: a name, and the parameters after an equals sign. -/
structure Tag where
  name : Text
  parameters : Option Text
deriving DecidableEq, Repr, Inhabited

/-- The tag with an inside. -/
def Tag.ofBody (body : Text) : Tag :=
  let name := body.takeWhile fun (c : CodePoint) => c != '='
  match body.drop name.length with
  | [] => ⟨name, none⟩
  | _ :: parameters => ⟨name, some parameters⟩

/-- A piece of a markup text. -/
inductive Piece where
  | plain (t : Text)
  | tag (tag : Tag)
deriving DecidableEq, Repr

/-- A piece that is printed, unless it is empty. -/
def plainPiece (t : Text) : List Piece := if t.isEmpty then [] else [.plain t]

/-- A tag together with `slashes` backslashes before it: half of them are printed, and an odd
one makes the tag plain. -/
def tagPieces (slashes : Nat) (body : Text) : List Piece :=
  plainPiece (List.replicate (slashes / 2) '\\')
    ++ (if slashes % 2 = 0 then [.tag (Tag.ofBody body)]
        else [.plain (CodePoint.scalar '[' :: body ++ [CodePoint.scalar ']'])])

/-- Cuts a markup text into pieces. `run` is what was read since the last tag, last code point
first, but for the `slashes` backslashes after it. -/
def pieces : Nat → Text → Nat → Text → List Piece
  | 0, _, _, _ => []
  | _ + 1, run, slashes, [] =>
    plainPiece (run.reverse ++ List.replicate slashes (CodePoint.scalar '\\'))
  | fuel + 1, run, slashes, c :: t =>
    if c = '\\' then pieces fuel run (slashes + 1) t
    else if c = '[' then
      match tagBody? t with
      | some (body, rest) =>
        plainPiece run.reverse ++ tagPieces slashes body ++ pieces fuel [] 0 rest
      | none =>
        let slashes : Text := List.replicate (slashes - 1) '\\'
        pieces fuel (c :: slashes ++ run) 0 t
    else
      let slashes : Text := List.replicate slashes '\\'
      pieces fuel (c :: slashes ++ run) 0 t

/-- Doubles the backslashes before what would be a tag and puts one more there; a single
backslash at the end of a text is doubled too. -/
def escape (t : Text) : Text :=
  go (t.length + 1) 0 t
where
  go : Nat → Nat → Text → Text
    | 0, _, _ => []
    | _ + 1, slashes, [] => List.replicate (if slashes = 1 then 2 else slashes) '\\'
    | fuel + 1, slashes, c :: t =>
      if c = '\\' then go fuel (slashes + 1) t
      else if c = '[' then
        match tagBody? t with
        | some (body, rest) =>
          List.replicate (2 * slashes + 1) (CodePoint.scalar '\\') ++ (.scalar '[' :: body)
            ++ (.scalar ']' :: go fuel 0 rest)
        | none => List.replicate slashes (CodePoint.scalar '\\') ++ .scalar '[' :: go fuel 0 t
      else List.replicate slashes (CodePoint.scalar '\\') ++ c :: go fuel 0 t

/-! ## Opening and closing -/

/-- Whether a tag that is closed has what its name asks for: a tag with `@` has a datum, if it
has parameters. -/
def Tag.isComplete (tag : Tag) : Bool :=
  match tag.name, tag.parameters with
  | .scalar '@' :: _, some (c :: t) => parametersValid (c :: t)
  | _, _ => true

/-- Closes the last of the open tags that `p` picks. -/
def closeTag (p : Tag → Bool) (opened : List Tag) : Except Failure (List Tag) :=
  match opened.find? p with
  | none => .error .unbalancedMarkup
  | some tag =>
    if tag.isComplete then .ok (opened.eraseP p) else .error .badTagParameters

/-- Opens or closes what a tag says; `opened` are the tags still open, the last one first. -/
def applyTag (opened : List Tag) (tag : Tag) : Except Failure (List Tag) :=
  match tag.name with
  | .scalar '/' :: name => do
    if (Text.trim name).isEmpty then closeTag (fun _ => true) opened
    else
      let name ← Style.normalize (Text.trim name)
      closeTag (fun tag => tag.name == name) opened
  | name => do
    let name ← Style.normalize name
    pure (⟨name, tag.parameters⟩ :: opened)

/-- The code points that pieces print, tags checked on the way. -/
def printed : List Tag → List Piece → Except Failure Text
  | _, [] => .ok []
  | opened, .plain t :: rest => (printed opened rest).map (draw t ++ ·)
  | opened, .tag tag :: rest =>
    match applyTag opened tag with
    | .error e => .error e
    | .ok opened => printed opened rest

/-- Reads the style of a tag with parameters, which may name a colour without a number. -/
def readStyle : Piece → Except Failure Unit
  | .plain _ => .ok ()
  | .tag tag =>
    match tag.name, tag.parameters with
    | .scalar '/' :: _, _ => .ok ()
    | _, none => .ok ()
    | name, some parameters => do
      let name ← Style.normalize name
      let _ ← Style.read (name ++ CodePoint.scalar ' ' :: parameters)
      pure ()

/-! ## Printing -/

/-- Bell, backspace, vertical tab, form feed and carriage return are not printed. -/
def isCursorCode (c : CodePoint) : Bool :=
  c.toNat == 7 || c.toNat == 8 || c.toNat == 11 || c.toNat == 12 || c.toNat == 13

/-- What the console shows for a markup text, the line end included. -/
def render (t : Text) : Except Failure Text := do
  let parts := pieces (t.length + 1) [] 0 t
  let text ← printed [] parts
  parts.forM readStyle
  let shown : Text := text.filter fun c => !isCursorCode c
  pure (Text.expandTabs shown ++ [Text.newline])

end JsLiteral.Markup
