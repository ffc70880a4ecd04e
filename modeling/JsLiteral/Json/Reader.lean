import JsLiteral.Json.Quote
import JsLiteral.Number.Decimal
import JsLiteral.Number.Numeral
import JsLiteral.Value

/-!
# Reading JSON documents

A document is one value with blanks around it. Besides the JSON grammar the words `NaN`,
`Infinity` and `-Infinity` are numbers. An escaped high surrogate joins an escaped low one
right after it; other surrogates stay alone. Of members with one name the last value
counts, at the place of the first.

    read doc = .error e      e says what is missing, and after how many code points
-/

namespace JsLiteral.Json

/-! ## Faults -/

inductive Fault where
  | value
  | memberName
  | colon
  | comma
  | extraData
  | unterminated
  | escape
  | unitEscape
  | control
  | byteOrderMark
deriving DecidableEq, Repr

def Fault.message : Fault → Text
  | value => "Expecting value"
  | memberName => "Expecting property name enclosed in double quotes"
  | colon => "Expecting ':' delimiter"
  | comma => "Expecting ',' delimiter"
  | extraData => "Extra data"
  | unterminated => "Unterminated string starting at"
  | escape => "Invalid \\escape"
  | unitEscape => "Invalid \\uXXXX escape"
  | control => "Invalid control character at"
  | byteOrderMark => "Unexpected UTF-8 BOM (decode using utf-8-sig)"

/-- A fault and how much of the document is left where it stands. -/
structure ReadError where
  fault : Fault
  left : Nat
deriving DecidableEq, Repr

/-- The position of a fault. -/
def ReadError.position (e : ReadError) (doc : Text) : Nat := doc.length - e.left

/-- A fault with its line, column and position, lines and columns counted from one. -/
def ReadError.message (e : ReadError) (doc : Text) : Text :=
  let before := doc.take (e.position doc)
  e.fault.message ++ (": line " : Text) ++ Text.ofNat (List.count Text.newline before + 1)
    ++ (" column " : Text) ++ Text.ofNat ((Text.lastLine before).length + 1)
    ++ (" (char " : Text) ++ Text.ofNat (e.position doc) ++ (")" : Text)

abbrev ReadResult (α : Type) := Except ReadError (α × Text)

/-! ## Strings -/

def isJsonBlank (c : CodePoint) : Bool := c == ' ' || c == '\t' || c == '\n' || c == '\r'

def skipBlanks (t : Text) : Text := t.dropWhile isJsonBlank

/-- The number that four hexadecimal digits spell. -/
def hex4? (a b c d : CodePoint) : Option Nat := do
  let a ← a.hexDigit?
  let b ← b.hexDigit?
  let c ← c.hexDigit?
  let d ← d.hexDigit?
  some (((a * 16 + b) * 16 + c) * 16 + d)

/-- What a letter after a backslash stands for. -/
def shortEscaped? (c : CodePoint) : Option CodePoint :=
  if c = '"' ∨ c = '\\' ∨ c = '/' then some c
  else if c = 'b' then some '\x08'
  else if c = 'f' then some '\x0c'
  else if c = 'n' then some '\n'
  else if c = 'r' then some '\r'
  else if c = 't' then some '\t'
  else none

/-- Joins an escaped high surrogate and the escaped low one after it; the mark of a code
point tells whether a code unit was escaped there. -/
def joinPairs : List (Bool × CodePoint) → Text
  | [] => []
  | (true, hi) :: (true, lo) :: rest =>
    if hi.isHigh && lo.isLow then
      CodePoint.ofNat (0x10000 + (hi.toNat - 0xD800) * 0x400 + (lo.toNat - 0xDC00))
        :: joinPairs rest
    else hi :: joinPairs ((true, lo) :: rest)
  | (_, c) :: rest => c :: joinPairs rest

/-- Reads the rest of a string, up to its closing quote; `acc` holds what was read, last code
point first. Of a string that is not closed nothing is left. -/
def readStringBody :
    List (Bool × CodePoint) → Text → ReadResult (List (Bool × CodePoint))
  | _, [] => .error ⟨.unterminated, 0⟩
  | acc, c :: t =>
    if c = '"' then .ok (acc.reverse, t)
    else if c = '\\' then
      match t with
      | [] => .error ⟨.unterminated, 0⟩
      | e :: r =>
        if e = 'u' then
          match r with
          | a :: b :: c :: d :: next :: rest =>
            match hex4? a b c d with
            | some n => readStringBody ((true, CodePoint.ofNat n) :: acc) (next :: rest)
            | none => .error ⟨.unitEscape, r.length + 1⟩
          | _ => .error ⟨.unitEscape, r.length + 1⟩
        else match shortEscaped? e with
          | some x => readStringBody ((false, x) :: acc) r
          | none => .error ⟨.escape, r.length + 2⟩
    else if c.toNat < 0x20 then .error ⟨.control, t.length + 1⟩
    else readStringBody ((false, c) :: acc) t

/-- Reads a string after its opening quote, where it is said to start if it is not closed. -/
def readString (t : Text) : ReadResult Text :=
  match readStringBody [] t with
  | .ok (units, rest) => .ok (joinPairs units, rest)
  | .error ⟨.unterminated, _⟩ => .error ⟨.unterminated, t.length + 1⟩
  | .error e => .error e

/-! ## Words and numbers -/

/-- What follows `p` at the start of a text. -/
def after? (p t : Text) : Option Text :=
  if p.isPrefixOf t then some (t.drop p.length) else none

/-- The words that are values. -/
def wordValues : List (Text × Value) := [
  ("null", .null), ("true", .bool true), ("false", .bool false), ("NaN", .float Binary64.nan),
  ("Infinity", .float (Binary64.infinity false)), ("-Infinity", .float (Binary64.infinity true))]

def readWord? (t : Text) : Option (Value × Text) :=
  wordValues.findSome? fun (word, v) => (after? word t).map fun rest => (v, rest)

/-- The digits a text starts with, and what follows them. -/
def spanDigits (t : Text) : Text × Text :=
  (t.takeWhile CodePoint.isDigit, t.dropWhile CodePoint.isDigit)

/-- The digits of a fraction, if a point and a digit come next. -/
def takeFraction (t : Text) : Text × Text :=
  match t with
  | .scalar '.' :: r => if (spanDigits r).1.isEmpty then ([], t) else spanDigits r
  | _ => ([], t)

/-- The exponent, if a mark, a sign or none, and a digit come next. -/
def takeExponent (t : Text) : Option Int × Text :=
  match t with
  | c :: r =>
    if c = 'e' ∨ c = 'E' then
      let (negative, r) := Numeral.takeSign r
      let (ds, rest) := spanDigits r
      if ds.isEmpty then (none, t)
      else
        let n : Int := Numeral.digitsValue 0 ds
        (some (if negative then -n else n), rest)
    else (none, t)
  | [] => (none, t)

/-- Reads a number: an integer without fraction and exponent, else a float. -/
def readNumber? (t : Text) : Option (Value × Text) :=
  let (negative, t) := match t with
    | .scalar '-' :: r => (true, r)
    | _ => (false, t)
  let (whole, t) := match t with
    | .scalar '0' :: r => ([CodePoint.scalar '0'], r)
    | _ => spanDigits t
  if whole.isEmpty then none
  else
    let (fraction, t) := takeFraction t
    let (exponent, t) := takeExponent t
    let n := Numeral.digitsValue (Numeral.digitsValue 0 whole) fraction
    if fraction.isEmpty && exponent.isNone then
      some (.int (if negative then -(n : Int) else n), t)
    else
      let d : Decimal := ⟨n, exponent.getD 0 - (fraction.length : Int)⟩
      some (.float (d.toBinary64 negative), t)

/-! ## Values -/

mutual

/-- Reads a value at the start of a text. -/
def readValue : Nat → Text → ReadResult Value
  | 0, t => .error ⟨.value, t.length⟩
  | fuel + 1, t =>
    match t with
    | .scalar '"' :: r =>
      match readString r with
      | .ok (s, rest) => .ok (.text s, rest)
      | .error e => .error e
    | .scalar '[' :: r =>
      match skipBlanks r with
      | .scalar ']' :: rest => .ok (.sequence .list [], rest)
      | r =>
        match readItems fuel r with
        | .ok (items, rest) => .ok (.sequence .list items, rest)
        | .error e => .error e
    | .scalar '\x7b' :: r =>
      match skipBlanks r with
      | .scalar '\x7d' :: rest => .ok (.mapping .dict [], rest)
      | r =>
        match readMembers fuel r with
        | .ok (pairs, rest) => .ok (.mapping .dict (Members.ofPairs pairs), rest)
        | .error e => .error e
    | _ =>
      match readWord? t with
      | some (v, rest) => .ok (v, rest)
      | none =>
        match readNumber? t with
        | some (v, rest) => .ok (v, rest)
        | none => .error ⟨.value, t.length⟩

/-- Reads items up to the closing bracket. -/
def readItems : Nat → Text → ReadResult (List Value)
  | 0, t => .error ⟨.value, t.length⟩
  | fuel + 1, t =>
    match readValue fuel t with
    | .error e => .error e
    | .ok (v, r) =>
      match skipBlanks r with
      | .scalar ']' :: rest => .ok ([v], rest)
      | .scalar ',' :: rest =>
        match readItems fuel (skipBlanks rest) with
        | .ok (items, rest) => .ok (v :: items, rest)
        | .error e => .error e
      | r => .error ⟨.comma, r.length⟩

/-- Reads members up to the closing brace. -/
def readMembers : Nat → Text → ReadResult (List (Key × Value))
  | 0, t => .error ⟨.memberName, t.length⟩
  | fuel + 1, t =>
    match t with
    | .scalar '"' :: r =>
      match readString r with
      | .error e => .error e
      | .ok (name, r) =>
        match skipBlanks r with
        | .scalar ':' :: r =>
          match readValue fuel (skipBlanks r) with
          | .error e => .error e
          | .ok (v, r) =>
            match skipBlanks r with
            | .scalar '\x7d' :: rest => .ok ([(.text name, v)], rest)
            | .scalar ',' :: rest =>
              match readMembers fuel (skipBlanks rest) with
              | .ok (members, rest) => .ok ((.text name, v) :: members, rest)
              | .error e => .error e
            | r => .error ⟨.comma, r.length⟩
        | r => .error ⟨.colon, r.length⟩
    | t => .error ⟨.memberName, t.length⟩

end

/-- Reads a document. Each step of the readers takes a code point or is followed by one that
does, so twice the length is fuel enough. -/
def read (doc : Text) : Except ReadError Value :=
  match doc with
  | c :: _ =>
    if c.toNat = 0xFEFF then .error ⟨.byteOrderMark, doc.length⟩ else go
  | [] => go
where
  go : Except ReadError Value :=
    match readValue (2 * doc.length + 2) (skipBlanks doc) with
    | .error e => .error e
    | .ok (v, r) =>
      match skipBlanks r with
      | [] => .ok v
      | r => .error ⟨.extraData, r.length⟩

end JsLiteral.Json
