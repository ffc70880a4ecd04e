import JsLiteral.Display
import JsLiteral.Failure

/-!
# Members from values

What a value has as members: a mapping its own, another value with items the pairs that its
items are, set one after the other. A pair is anything with two items, a text of two code
points too. Only what cannot change can be a key.
-/

namespace JsLiteral

namespace Value

/-- The unsupported types whose values can change. -/
def changingTypes : List Text := ["bytearray", "set"]

/-- The items of a value, if it has any: code points of a text, keys of a mapping. -/
def items? (heap : Heap) : Value → Option (List Value)
  | text t => some (t.map fun c => .text [c])
  | other _ _ items => items.map fun keys => keys.map Key.toValue
  | v => match v.container? heap with
    | some (.sequence _ items) => some items
    | some (.mapping _ members) => some (List.map (fun p => p.1.toValue) members)
    | none => none

/-- The type of a value that may change, or of one in a tuple; tuples nested deeper than
`limit` are not looked into. -/
def changing? (heap : Heap) : Nat → Value → Option Text
  | 0, _ => none
  | limit + 1, v =>
    match v with
    | other t _ _ => if changingTypes.contains t then some t else none
    | v => match v.container? heap with
      | some (.sequence .tuple items) => items.findSome? (changing? heap limit)
      | some (.sequence (.range _ _ _) _) => none
      | some c => some c.fullTypeName
      | none => none

end Value

/-- The key that a value is. -/
def Key.ofValue (heap : Heap) (v : Value) : Except Failure Key :=
  match v with
  | .text t => .ok (.text t)
  | .null => .ok .null
  | .bool b => .ok (.bool b)
  | .int n => .ok (.int n)
  | .float x => .ok (.float x)
  | .absent => .ok .absent
  | v => match v.changing? heap (heap.depthBound v) with
    | some t => .error (.unhashable t)
    | none => .ok (.other (v.typeName heap) (v.display heap))

namespace Members

/-- The pair that the item with a number is. -/
def pair (heap : Heap) (index : Nat) (v : Value) : Except Failure (Key × Value) :=
  match v.items? heap with
  | none => .error (.notSequence index)
  | some [key, value] => (Key.ofValue heap key).map fun key => (key, value)
  | some items => .error (.notPair index items.length)

/-- The pairs that items are, numbered from `index`. -/
def pairsFrom (heap : Heap) : Nat → List Value → Except Failure (List (Key × Value))
  | _, [] => .ok []
  | index, v :: rest => do
    let p ← pair heap index v
    let ps ← pairsFrom heap (index + 1) rest
    pure (p :: ps)

/-- The members of a value. -/
def ofValue (heap : Heap) (v : Value) : Except Failure Members :=
  match v.container? heap with
  | some (.mapping _ members) => .ok members
  | _ => match v.items? heap with
    | some items => (pairsFrom heap 0 items).map ofPairs
    | none => .error (.notIterable (v.fullTypeName heap))

end Members

end JsLiteral
