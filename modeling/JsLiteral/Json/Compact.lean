import JsLiteral.Failure
import JsLiteral.Json.Quote
import JsLiteral.Number.Layout
import JsLiteral.Value

/-!
# Compact JSON in ASCII

The text of a configuration file: one line, a blank after each comma and colon, strings in
ASCII, floats by their shortest decimal with a point or an exponent. Only lists, tuples and
dictionaries are containers here, and nothing can be left out.
-/

namespace JsLiteral.Json.Compact

/-- The text of a float, which may be no number. -/
def floatText (x : Binary64) : Text :=
  if x.isNaN then "NaN"
  else if x.isInfinite then (if x.negative then "-Infinity" else "Infinity")
  else NumberLayout.canonical.write x

def memberName : Key → Except Failure Text
  | .text t => .ok t
  | .null => .ok "null"
  | .bool b => .ok (if b then "true" else "false")
  | .int n => .ok (Text.ofInt n)
  | .float x => .ok (floatText x)
  | .absent => .error (.unsupportedKey "_Omit")
  | .other typeName _ => .error (.unsupportedKey typeName)

/-- Writes each item with `write`. -/
def items (write : Value → Except Failure Text) (vs : List Value) : Except Failure Text := do
  let parts ← vs.mapM write
  pure ('[' :: (Text.join ", " parts ++ [CodePoint.scalar ']']))

/-- Writes each member with `write`. -/
def members (write : Value → Except Failure Text) (ms : Members) : Except Failure Text := do
  let parts ← List.mapM (fun p => do
    let name ← memberName p.1
    let text ← write p.2
    pure (quoteAscii name ++ (": " : Text) ++ text)) ms
  pure ('\x7b' :: (Text.join ", " parts ++ [CodePoint.scalar '\x7d']))

/-- Writes a value inside the heap containers `path`. -/
def write (heap : Heap) : Nat → List Nat → Value → Except Failure Text
  | 0, _, _ => .error .tooDeep
  | limit + 1, path, v =>
    let inside (path : List Nat) (c : Container) : Except Failure Text :=
      match c with
      | .sequence .list vs => items (write heap limit path) vs
      | .sequence .tuple vs => items (write heap limit path) vs
      | .mapping .dict ms => members (write heap limit path) ms
      | c => .error (.unsupportedValue c.typeName)
    match v with
    | .null => .ok "null"
    | .bool b => .ok (if b then "true" else "false")
    | .int n => .ok (Text.ofInt n)
    | .float x => .ok (floatText x)
    | .text t => .ok (quoteAscii t)
    | .absent => .error (.unsupportedValue (v.typeName heap))
    | .other typeName _ _ => .error (.unsupportedValue typeName)
    | .sequence kind vs => inside path (.sequence kind vs)
    | .mapping kind ms => inside path (.mapping kind ms)
    | .shared place =>
      if place ∈ path then .error .circular
      else match heap[place]? with
        | some c => inside (place :: path) c
        | none => .error (.unsupportedValue (v.typeName heap))

/-- The text of a configuration. -/
def text (heap : Heap) (v : Value) : Except Failure Text :=
  write heap (heap.depthBound v) [] v

end JsLiteral.Json.Compact
