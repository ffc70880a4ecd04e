import JsLiteral.Text.Blank
import JsLiteral.Text.Breaks
import JsLiteral.Text.CharacterName
import JsLiteral.Text.Decimal
import JsLiteral.Text.Letters
import JsLiteral.Text.LowerCase

/-!
# Data in tags

The parameters of a tag are a literal datum: numbers with a sign, sums of a real and an
imaginary number, quoted texts and bytes, `True`, `False`, `None`, `...`, tuples, sets and
dictionaries of such data. A handler's name may stand before a datum in parentheses. This
module only tells what is one; no value is built.

    isDatum t = true     t is one datum, or several with commas
-/

namespace JsLiteral.Markup

/-- What a datum is, as far as it decides what it can be part of. -/
inductive Datum where
  | real
  | imaginary
  /-- A number behind a sign. -/
  | signed (isReal : Bool)
  | text
  | bytes
  /-- Anything else; what is `fixed` may be a member of a set and a key. -/
  | other (fixed : Bool)
deriving DecidableEq, Repr

namespace Datum

/-- Whether a datum may be a member of a set and a key. -/
def isFixed : Datum → Bool
  | other fixed => fixed
  | _ => true

/-- Whether a datum is a number that an imaginary one can be added to. -/
def isReal : Datum → Bool
  | real => true
  | signed isReal => isReal
  | _ => false

end Datum

/-! ## Blanks -/

/-- What follows blanks and comments; `nested` inside brackets, where lines may end, and
`comment` within a comment. A backslash joins a line with the next one. -/
def skipBlanks (nested : Bool) : Bool → Text → Text
  | _, [] => []
  | true, c :: t =>
    if c = Text.newline then (if nested then skipBlanks nested false t else c :: t)
    else skipBlanks nested true t
  | false, c :: t =>
    if c = ' ' ∨ c = '\t' ∨ c = '\x0c' ∨ (nested = true ∧ c = Text.newline) then
      skipBlanks nested false t
    else if c = '#' then skipBlanks nested true t
    else if c = '\\' then
      match t with
      | [] => [c]
      | d :: r => if d = Text.newline then skipBlanks nested false r else c :: t
    else c :: t

/-! ## Numbers -/

/-- What follows digits with single underscores between them; `inside` once one was read. -/
def dropDigits (p : CodePoint → Bool) : Bool → Text → Text
  | _, [] => []
  | inside, c :: t =>
    if p c then dropDigits p true t
    else if inside && c == '_' then
      match t with
      | [] => [c]
      | d :: r => if p d then dropDigits p true r else c :: t
    else c :: t

/-- What follows digits, of which there must be one. -/
def digits? (p : CodePoint → Bool) (t : Text) : Option Text :=
  if t.head?.any p then some (dropDigits p false t) else none

/-- The digits of another base by its letter. -/
def baseDigit? (c : CodePoint) : Option (CodePoint → Bool) :=
  if c = 'x' ∨ c = 'X' then some fun d => d.hexDigit?.isSome
  else if c = 'o' ∨ c = 'O' then some fun d => d.hexDigit?.any (· < 8)
  else if c = 'b' ∨ c = 'B' then some fun d => d.hexDigit?.any (· < 2)
  else none

/-- What follows an exponent, if a whole one stands there. -/
def dropExponent (t : Text) : Text :=
  match t with
  | [] => []
  | c :: r =>
    if c = 'e' ∨ c = 'E' then
      let r := match r with
        | .scalar '+' :: r => r
        | .scalar '-' :: r => r
        | r => r
      (digits? CodePoint.isDigit r).getD t
    else t

/-- A number in base ten and what follows it. An integer has no zeros before its other
digits. -/
def decimalNumber? (t : Text) : Option (Datum × Text) :=
  let afterWhole := dropDigits CodePoint.isDigit false t
  let whole := t.take (t.length - afterWhole.length)
  let afterFraction := match afterWhole with
    | .scalar '.' :: r => dropDigits CodePoint.isDigit false r
    | r => r
  let rest := dropExponent afterFraction
  match rest with
  | c :: r =>
    if c = 'j' ∨ c = 'J' then some (.imaginary, r)
    else finish whole (rest.length == afterWhole.length) rest
  | [] => finish whole (afterWhole.isEmpty) rest
where
  finish (whole : Text) (isInteger : Bool) (rest : Text) : Option (Datum × Text) :=
    let zerosFirst := whole.head? == some (CodePoint.scalar '0')
      && whole.any fun (c : CodePoint) => c != '0' && c != '_'
    if isInteger && zerosFirst then none else some (.real, rest)

/-- The number at the start of a text and what follows it. -/
def number? (t : Text) : Option (Datum × Text) :=
  match t with
  | .scalar '0' :: c :: r =>
    match baseDigit? c with
    | some p =>
      let r := match r with
        | .scalar '_' :: r => r
        | r => r
      (digits? p r).map fun rest => (.real, rest)
    | none => decimalNumber? t
  | c :: d :: _ =>
    if c.isDigit || (c == '.' && d.isDigit) then decimalNumber? t else none
  | [c] => if c.isDigit then some (.real, []) else none
  | [] => none

/-! ## Quoted texts -/

/-- What stands between quotes and what follows; it ends with `size` quotes, `run` of which
have just been read. -/
def quotedBody? (quote : CodePoint) (size : Nat) : Nat → Bool → Text → Text → Option (Text × Text)
  | _, _, _, [] => none
  | _, true, done, c :: t => quotedBody? quote size 0 false (c :: done) t
  | run, false, done, c :: t =>
    if c = quote then
      if run + 1 = size then some ((done.drop run).reverse, t)
      else quotedBody? quote size (run + 1) false (c :: done) t
    else if c = Text.newline ∧ size = 1 then none
    else quotedBody? quote size 0 (c == '\\') (c :: done) t

/-- Whether the first `n` code points are hexadecimal digits of a number up to `limit`. -/
def startsHex (n limit : Nat) (t : Text) : Bool :=
  let digits := t.take n
  digits.length == n && digits.all (fun (c : CodePoint) => c.hexDigit?.isSome)
    && digits.foldl (fun n (c : CodePoint) => 16 * n + c.hexDigit?.getD 0) 0 ≤ limit

/-- Whether what follows `\N` is the name of a character in braces. -/
def startsName (t : Text) : Bool :=
  match t with
  | c :: r =>
    let name := r.takeWhile fun (c : CodePoint) => c != '\x7d'
    c == '\x7b' && name.length < r.length && CharacterName.isKnown name
  | [] => false

/-- Whether the escapes of a quoted text are whole; `escaped` after a backslash. -/
def escapesWhole (bytes : Bool) : Bool → Text → Bool
  | _, [] => true
  | false, c :: t => escapesWhole bytes (c == '\\') t
  | true, c :: t =>
    (if c = 'x' then startsHex 2 0xFF t
      else if bytes then true
      else if c = 'u' then startsHex 4 0xFFFF t
      else if c = 'U' then startsHex 8 0x10FFFF t
      else if c = 'N' then startsName t
      else true)
    && escapesWhole bytes false t

/-- The letters that may stand before a quote: whether they make bytes, and whether
backslashes are plain. -/
def quoteKinds : List (Text × Bool × Bool) := [
  ("", false, false), ("u", false, false), ("r", false, true),
  ("b", true, false), ("br", true, true), ("rb", true, true)]

/-- One quoted text or bytes at the start of a text, and what follows. -/
def quoted? (t : Text) : Option (Datum × Text) :=
  let letters := t.takeWhile fun (c : CodePoint) => c.isAlphanumeric
  match List.lookup (Text.lower letters) quoteKinds, t.drop letters.length with
  | some (bytes, raw), quote :: r =>
    if quote = '"' ∨ quote = '\'' then
      let body := match r with
        | a :: b :: r' =>
          if a = quote ∧ b = quote then quotedBody? quote 3 0 false [] r'
          else quotedBody? quote 1 0 false [] r
        | r => quotedBody? quote 1 0 false [] r
      match body with
      | some (body, rest) =>
        if (bytes && body.any fun (c : CodePoint) => 0x7F < c.toNat)
            || (!raw && !escapesWhole bytes false body) then none
        else some (if bytes then .bytes else .text, rest)
      | none => none
    else none
  | _, _ => none

/-- Quoted texts that stand together are one; texts and bytes do not mix. -/
def quotedRun? (nested : Bool) : Nat → Text → Option (Datum × Text)
  | 0, _ => none
  | fuel + 1, t =>
    match quoted? t with
    | none => none
    | some (d, rest) =>
      let next := skipBlanks nested false rest
      if startsQuoted next then
        match quotedRun? nested fuel next with
        | some (e, rest) => if d = e then some (d, rest) else none
        | none => none
      else some (d, rest)
where
  startsQuoted (t : Text) : Bool :=
    let c := (t.dropWhile CodePoint.isAlphanumeric).head?
    c == some '"' || c == some '\''

/-! ## Data -/

/-- What follows the word `set`, in parentheses or not. -/
def setWord? (nested : Bool) : Nat → Text → Option Text
  | 0, _ => none
  | fuel + 1, t =>
    match skipBlanks nested false t with
    | .scalar '(' :: r =>
      match (setWord? true fuel r).map (skipBlanks true false) with
      | some (.scalar ')' :: r) => some r
      | _ => none
    | t =>
      let word := t.takeWhile fun (c : CodePoint) => c.isAlphanumeric || c == '_'
      if word = Text.ofString "set" then some (t.drop word.length) else none

/-- What follows an empty set: the word `set` and a pair of parentheses. -/
def emptySet? (nested : Bool) (t : Text) : Option Text :=
  match (setWord? nested (t.length + 1) t).map (skipBlanks nested false) with
  | some (.scalar '(' :: r) =>
    match skipBlanks true false r with
    | .scalar ')' :: r => some r
    | _ => none
  | _ => none

/-- Three points are a datum. -/
def ellipsis : Text := "..."

/-- Words that are data. -/
def constants : List Text := ["True", "False", "None"]

mutual

/-- A number with a sign or a sum, or a datum without either, and what follows it. -/
def sum? (nested : Bool) : Nat → Text → Option (Datum × Text)
  | 0, _ => none
  | fuel + 1, t => do
    let t := skipBlanks nested false t
    let (left, rest) ← match t with
      | c :: r =>
        if c = '+' ∨ c = '-' then
          match atom? nested fuel r with
          | some (.real, rest) => some (.signed true, rest)
          | some (.imaginary, rest) => some (.signed false, rest)
          | _ => none
        else atom? nested fuel t
      | [] => none
    match skipBlanks nested false rest with
    | c :: r =>
      if c = '+' ∨ c = '-' then
        match atom? nested fuel r with
        | some (.imaginary, rest) => if left.isReal then some (.other true, rest) else none
        | _ => none
      else some (left, c :: r)
    | [] => some (left, [])

/-- A datum without a sign, and what follows it. -/
def atom? (nested : Bool) : Nat → Text → Option (Datum × Text)
  | 0, _ => none
  | fuel + 1, t =>
    let t := skipBlanks nested false t
    match t, emptySet? nested t with
    | _, some rest => some (.other false, rest)
    | [], none => none
    | c :: r, none =>
      if c = '(' then parenthesized? fuel r
      else if c = '\x7b' then braced? fuel r
      else if ellipsis.isPrefixOf t then some (.other true, t.drop 3)
      else if c.isDigit || c == '.' then number? t
      else
        let word := t.takeWhile fun (c : CodePoint) => c.isAlphanumeric || c == '_'
        let rest := t.drop word.length
        if constants.contains word && !(rest.head? == some '"' || rest.head? == some '\'') then
          some (.other true, rest)
        else quotedRun? nested (t.length + 1) t

/-- What follows an opening parenthesis: a datum, or a tuple. -/
def parenthesized? : Nat → Text → Option (Datum × Text)
  | 0, _ => none
  | fuel + 1, t =>
    match skipBlanks true false t with
    | .scalar ')' :: r => some (.other true, r)
    | t =>
      match sum? true fuel t with
      | none => none
      | some (d, rest) =>
        match skipBlanks true false rest with
        | .scalar ')' :: r => some (d, r)
        | .scalar ',' :: r =>
          (members? ')' fuel r).map fun (fixed, r) => (.other (d.isFixed && fixed), r)
        | _ => none

/-- Data with commas between them up to a closing bracket, and what follows it; tells whether
all are fixed. The last one may have a comma too. -/
def members? (closing : CodePoint) : Nat → Text → Option (Bool × Text)
  | 0, _ => none
  | fuel + 1, t =>
    match skipBlanks true false t with
    | [] => none
    | c :: r =>
      if c = closing then some (true, r)
      else match sum? true fuel (c :: r) with
        | none => none
        | some (d, rest) =>
          match skipBlanks true false rest with
          | [] => none
          | c :: r =>
            if c = closing then some (d.isFixed, r)
            else if c = ',' then
              (members? closing fuel r).map fun (fixed, r) => (d.isFixed && fixed, r)
            else none

/-- What follows an opening brace: a dictionary or a set. -/
def braced? : Nat → Text → Option (Datum × Text)
  | 0, _ => none
  | fuel + 1, t =>
    match skipBlanks true false t with
    | .scalar '\x7d' :: r => some (.other false, r)
    | t =>
      match sum? true fuel t with
      | none => none
      | some (d, rest) =>
        if !d.isFixed then none
        else match skipBlanks true false rest with
          | .scalar '\x7d' :: r => some (.other false, r)
          | .scalar ',' :: r =>
            match members? '\x7d' fuel r with
            | some (true, r) => some (.other false, r)
            | _ => none
          | .scalar ':' :: r =>
            match sum? true fuel r with
            | none => none
            | some (_, rest) =>
              match skipBlanks true false rest with
              | .scalar '\x7d' :: r => some (.other false, r)
              | .scalar ',' :: r => (entries? fuel r).map fun r => (.other false, r)
              | _ => none
          | _ => none

/-- The entries of a dictionary up to its closing brace; gives what follows. -/
def entries? : Nat → Text → Option Text
  | 0, _ => none
  | fuel + 1, t =>
    match skipBlanks true false t with
    | .scalar '\x7d' :: r => some r
    | t =>
      match sum? true fuel t with
      | none => none
      | some (d, rest) =>
        match d.isFixed, skipBlanks true false rest with
        | true, .scalar ':' :: r =>
          match sum? true fuel r with
          | none => none
          | some (_, rest) =>
            match skipBlanks true false rest with
            | .scalar '\x7d' :: r => some r
            | .scalar ',' :: r => entries? fuel r
            | _ => none
        | _, _ => none

end

/-- Data with commas between them, at least one. -/
def isSequence : Nat → Text → Bool
  | 0, _ => false
  | fuel + 1, t =>
    match sum? false fuel t with
    | none => false
    | some (_, rest) =>
      match skipBlanks false false rest with
      | .scalar ',' :: r =>
        (skipBlanks true false r).isEmpty || isSequence fuel r
      | r => (skipBlanks true false r).isEmpty

/-- What follows lines that hold comments alone. -/
def dropComments : Bool → Text → Text
  | _, [] => []
  | comment, c :: t =>
    if comment then dropComments (c ≠ Text.newline) t
    else if c = '#' then dropComments true t
    else if c = Text.newline then dropComments false t
    else c :: t

/-- Whether a text without blanks around it is a datum, or several with commas. -/
def isDatum (t : Text) : Bool :=
  let t := dropComments false t.normalizeBreaks
  let bad (c : CodePoint) : Bool := c.isSurrogate || c == '\x00'
  let indented := t.head?.any fun (c : CodePoint) => c == ' ' || c == '\t'
  !t.any bad && !indented && isSequence (4 * t.length + 4) t

/-! ## Handlers -/

/-- The datum in what an equals sign in a tag is followed by: a handler's name is left out, and
alone it has the empty tuple. -/
def handlerDatum (parameters : Text) : Text :=
  let t := Text.trim parameters
  let rest := t.dropWhile fun (c : CodePoint) => c.isAlphanumeric || c == '_' || c == '.'
  if rest.isEmpty then "()"
  else if rest.head? = some (CodePoint.scalar '(') ∧ 1 < rest.length
      ∧ rest.getLast? = some (CodePoint.scalar ')') ∧ Text.newline ∉ rest then rest
  else t

/-- Whether the parameters of a tag are data. -/
def parametersValid (parameters : Text) : Bool := isDatum (handlerDatum parameters)

end JsLiteral.Markup
