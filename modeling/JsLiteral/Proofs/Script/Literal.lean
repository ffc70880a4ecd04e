import JsLiteral.Json.Reader

/-!
# What literals evaluate to in a script

Code that is one literal in parentheses is cut into tokens, parsed by a machine whose stack
holds the containers that are open, and evaluated by the rules of ECMAScript. Strings are
sequences of UTF-16 code units and numbers are binary64. Of the members of an object literal
those named `__proto__` set the prototype instead of creating an own property, and two of them
are an early error; of other members with one name the last counts, at the place of the first.

Only literals that JSON has too are read: null, truth values, decimal numbers, strings between
double quotes with JSON's escapes, arrays without holes and objects with quoted names. Other
code has no value here.
-/

namespace JsLiteral

/-- The UTF-16 code units of a code point. -/
def CodePoint.units (c : CodePoint) : List Nat :=
  let n := c.toNat
  if n < 0x10000 then [n] else [0xD800 + (n - 0x10000) / 0x400, 0xDC00 + (n - 0x10000) % 0x400]

namespace Script

open Json

/-- A string as a script has it. -/
abbrev Units := List Nat

def units (t : Text) : Units := t.flatMap CodePoint.units

/-! ## Tokens -/

inductive Token where
  | mark (c : CodePoint)
  /-- A string by what stands between its quotes. -/
  | string (body : Text)
  /-- A word or a number. -/
  | word (t : Text)
deriving DecidableEq, Repr

def isMark (c : CodePoint) : Bool := ("()[]\x7b\x7d,:" : Text).contains c

/-- Tokens with the word before them, if there is one. -/
def flush : Text × List Token → List Token
  | ([], ts) => ts
  | (w, ts) => .word w :: ts

inductive Place where
  | code
  | string

/-- The tokens of code, except for the word or the end of a string that the code starts with;
`none` if a string is not closed on its line. -/
def lex : Place → Text → Option (Text × List Token)
  | .code, [] => some ([], [])
  | .code, c :: t =>
    if c = '"' then (lex .string t).map fun p => ([], .string p.1 :: p.2)
    else (lex .code t).map fun p =>
      if isJsonBlank c then ([], flush p)
      else if isMark c then ([], .mark c :: flush p)
      else (c :: p.1, p.2)
  | .string, [] => none
  | .string, .scalar '\\' :: c :: t => (lex .string t).map fun p => ('\\' :: c :: p.1, p.2)
  | .string, c :: t =>
    if c = '"' then (lex .code t).map fun p => ([], flush p)
    else if c = '\n' ∨ c = '\r' then none
    else (lex .string t).map fun p => (c :: p.1, p.2)

def tokens (code : Text) : Option (List Token) := (lex .code code).map flush

/-! ## Parsing -/

inductive Literal where
  | null
  | bool (b : Bool)
  | number (x : Binary64)
  | string (u : Units)
  | array (items : List Literal)
  | object (members : List (Units × Literal))
deriving Inhabited

/-- The number that digits with a minus before them or none stand for, rounded to the nearest. -/
def number? (w : Text) : Option Binary64 :=
  match readNumber? w with
  | some (.int n, []) =>
    some ((⟨n.natAbs, 0⟩ : Decimal).toBinary64 (w.head? = some (CodePoint.scalar '-')))
  | some (.float x, []) => some x
  | _ => none

def wordLiteral? (w : Text) : Option Literal :=
  if w = "null" then some .null
  else if w = "true" then some (.bool true)
  else if w = "false" then some (.bool false)
  else (number? w).map .number

/-- The string whose source is `body`, its escapes resolved. -/
def stringUnits? (body : Text) : Option Units :=
  match readStringBody [] (body ++ [CodePoint.scalar '"']) with
  | .ok (us, []) => some (us.flatMap fun u => u.2.units)
  | _ => none

/-- A container that is open: what it holds so far, last first, and the name of the member
whose value comes next. -/
inductive Frame where
  | array (items : List Literal)
  | object (members : List (Units × Literal)) (name : Units)

/-- What the parser has just met or waits for. -/
inductive Phase where
  | operand
  /-- A name of an object with these members, or its end. -/
  | name (members : List (Units × Literal))
  | after (l : Literal)

/-- Parses tokens up to the closing parenthesis. A comma may stand before a closing bracket. -/
def run : List Frame → Phase → List Token → Option Literal
  | stack, .operand, .string body :: ts =>
    (stringUnits? body).bind fun u => run stack (.after (.string u)) ts
  | stack, .operand, .word w :: ts =>
    (wordLiteral? w).bind fun l => run stack (.after l) ts
  | stack, .operand, .mark c :: ts =>
    if c = '[' then run (.array [] :: stack) .operand ts
    else if c = '\x7b' then run stack (.name []) ts
    else match c, stack with
      | .scalar ']', .array items :: stack => run stack (.after (.array items.reverse)) ts
      | _, _ => none
  | stack, .name members, .string body :: .mark c :: ts =>
    if c = ':' then
      (stringUnits? body).bind fun name => run (.object members name :: stack) .operand ts
    else none
  | stack, .name members, .mark c :: ts =>
    if c = '\x7d' then run stack (.after (.object members.reverse)) ts else none
  | .array items :: stack, .after l, .mark c :: ts =>
    if c = ',' then run (.array (l :: items) :: stack) .operand ts
    else if c = ']' then run stack (.after (.array (l :: items).reverse)) ts
    else none
  | .object members name :: stack, .after l, .mark c :: ts =>
    if c = ',' then run stack (.name ((name, l) :: members)) ts
    else if c = '\x7d' then run stack (.after (.object ((name, l) :: members).reverse)) ts
    else none
  | [], .after l, [.mark c] => if c = ')' then some l else none
  | _, _, _ => none

/-- The literal in parentheses. -/
def parse : List Token → Option Literal
  | .mark c :: ts => if c = '(' then run [] .operand ts else none
  | _ => none

/-! ## Evaluating -/

/-- What a literal evaluates to. An object has the prototype that was set, if one was, and its
own properties. -/
inductive Datum where
  | null
  | bool (b : Bool)
  | number (x : Binary64)
  | string (u : Units)
  | array (items : List Datum)
  | object (prototype : Option Datum) (own : List (Units × Datum))
deriving Inhabited

/-- What a prototype can be: an object or null. -/
def Datum.isPrototype : Datum → Bool
  | .null => true
  | .array _ => true
  | .object _ _ => true
  | _ => false

/-- The name of the members that set the prototype. -/
def prototypeName : Units := units "__proto__"

/-- Writes an own property in place of the one with its name, or as a new one. -/
def put : List (Units × Datum) → Units → Datum → List (Units × Datum)
  | [], name, d => [(name, d)]
  | (n, old) :: rest, name, d =>
    if n = name then (n, d) :: rest else (n, old) :: put rest name d

/-- What one member does to the prototype and the own properties of its object. -/
def define (o : Option Datum × List (Units × Datum)) (m : Units × Datum) :
    Option Datum × List (Units × Datum) :=
  if m.1 = prototypeName then (if m.2.isPrototype then some m.2 else o.1, o.2)
  else (o.1, put o.2 m.1 m.2)

mutual

/-- The value of a literal; `none` if it is an early error. -/
def Literal.evaluate : Literal → Option Datum
  | .null => some .null
  | .bool b => some (.bool b)
  | .number x => some (.number x)
  | .string u => some (.string u)
  | .array items => (Literal.evaluateItems items).map .array
  | .object members =>
    if 1 < (members.map Prod.fst).count prototypeName then none
    else (Literal.evaluateMembers members).map fun ms =>
      let o := ms.foldl define (none, [])
      .object o.1 o.2

def Literal.evaluateItems : List Literal → Option (List Datum)
  | [] => some []
  | l :: rest => l.evaluate.bind fun d => (evaluateItems rest).map (d :: ·)

def Literal.evaluateMembers : List (Units × Literal) → Option (List (Units × Datum))
  | [] => some []
  | (name, l) :: rest => l.evaluate.bind fun d => (evaluateMembers rest).map ((name, d) :: ·)

end

/-- The value of code. -/
def evaluate (code : Text) : Option Datum :=
  ((tokens code).bind parse).bind Literal.evaluate

end Script

end JsLiteral
