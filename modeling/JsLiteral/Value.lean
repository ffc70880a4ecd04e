import JsLiteral.Number.Binary64
import JsLiteral.Text

/-!
# Values

A value is a leaf, a container written in place, or a reference to a container on the
heap. Only containers on the heap can be shared or contain themselves; one written in
place is its own object and never its own part. The members of a mapping that `ofPairs`
builds have pairwise different keys.
-/

namespace JsLiteral

/-- The name of a member. A name of an unsupported type is kept by its type and by how it
reads in a message. -/
inductive Key where
  | text (t : Text)
  | null
  | bool (b : Bool)
  | int (n : Int)
  | float (x : Binary64)
  | absent
  | other (typeName reading : Text)
deriving DecidableEq, Repr, Inhabited

inductive SequenceKind where
  | list
  | tuple
  | deque
  /-- The integers from `start` on by `step` that come before `stop`. -/
  | range (start stop step : Int)
deriving DecidableEq, Repr, Inhabited

inductive MappingKind where
  | dict
  | view
deriving DecidableEq, Repr, Inhabited

inductive Value where
  | null
  | bool (b : Bool)
  | int (n : Int)
  | float (x : Binary64)
  | text (t : Text)
  /-- Stands for no value at all: drops a member, becomes null in a sequence. -/
  | absent
  /-- A value of an unsupported type: how it reads in a message, and its items if it has any. -/
  | other (typeName reading : Text) (items : Option (List Key))
  | sequence (kind : SequenceKind) (items : List Value)
  | mapping (kind : MappingKind) (members : List (Key × Value))
  /-- The container at a place of the heap. -/
  | shared (place : Nat)
deriving Repr, Inhabited

/-- Members in the order they were added. -/
abbrev Members := List (Key × Value)

/-- A container and what it holds. -/
inductive Container where
  | sequence (kind : SequenceKind) (items : List Value)
  | mapping (kind : MappingKind) (members : Members)
deriving Repr, Inhabited

/-- The containers that references point to. -/
abbrev Heap := List Container

namespace SequenceKind

def typeName : SequenceKind → Text
  | list => "list"
  | tuple => "tuple"
  | deque => "deque"
  | range _ _ _ => "range"

end SequenceKind

namespace MappingKind

def typeName : MappingKind → Text
  | dict => "dict"
  | view => "mappingproxy"

end MappingKind

namespace Container

def typeName : Container → Text
  | sequence kind _ => kind.typeName
  | mapping kind _ => kind.typeName

/-- The name of the type with the package it is from. -/
def fullTypeName : Container → Text
  | sequence .deque _ => "collections.deque"
  | c => c.typeName

def isEmpty : Container → Bool
  | sequence _ items => items.isEmpty
  | mapping _ members => members.isEmpty

end Container

namespace Key

/-- The number a key stands for among numeric keys: an integer, or a float that is none. -/
def number? : Key → Option (Int ⊕ Binary64)
  | bool b => some (.inl (if b then 1 else 0))
  | int n => some (.inl n)
  | float x => some (if x.isIntegral then .inl x.truncate else .inr x)
  | _ => none

/-- Whether two keys name the same member: numbers are compared by value, so `1`, `1.0` and
`true` are one key, and keys of an unsupported type by how they read. A NaN names no member
twice, and neither does a bare object. -/
def same : Key → Key → Bool
  | text a, text b => a == b
  | null, null => true
  | absent, absent => true
  | other s a, other t b => s == t && a == b && s != Text.ofString "object"
  | a, b =>
    match a.number?, b.number? with
    | some (.inl m), some (.inl n) => m == n
    | some (.inr x), some (.inr y) => x == y && !x.isNaN
    | _, _ => false

def toValue : Key → Value
  | text t => .text t
  | null => .null
  | bool b => .bool b
  | int n => .int n
  | float x => .float x
  | absent => .absent
  | other t reading => .other t reading none

end Key

namespace Members

/-- Sets the member `key`; a new one goes to the end. -/
def insert (ms : Members) (key : Key) (value : Value) : Members :=
  match ms with
  | [] => [(key, value)]
  | (k, v) :: rest =>
    if k.same key then (k, value) :: rest else (k, v) :: insert rest key value

/-- The members that pairs leave when they are set one after the other. -/
def ofPairs (pairs : List (Key × Value)) : Members :=
  pairs.foldl (fun ms p => insert ms p.1 p.2) []

/-- The value of the member `key`. -/
def get? (ms : Members) (key : Key) : Option Value :=
  (List.find? (fun p => p.1.same key) ms).map Prod.snd

/-- The members of `ms` overlaid with those of `upper`. -/
def overlay (ms upper : Members) : Members :=
  upper.foldl (fun acc p => insert acc p.1 p.2) ms

end Members

namespace Value

/-- The range from `start` to `stop`, which is not part of it, by a step other than zero. -/
def range (start stop step : Int) : Value :=
  let count : Nat :=
    if 0 < step then ((stop - start + step - 1) / step).toNat
    else ((start - stop - step - 1) / (-step)).toNat
  .sequence (.range start stop step)
    ((List.range count).map fun (i : Nat) => .int (start + step * i))

/-- The container a value is, in place or on the heap. -/
def container? (heap : Heap) : Value → Option Container
  | sequence kind items => some (.sequence kind items)
  | mapping kind members => some (.mapping kind members)
  | shared place => heap[place]?
  | _ => none

/-- The name of the type of a value. -/
def typeName (heap : Heap) : Value → Text
  | null => "NoneType"
  | bool _ => "bool"
  | int _ => "int"
  | float _ => "float"
  | text _ => "str"
  | absent => "_Omit"
  | other t _ _ => t
  | sequence kind _ => kind.typeName
  | mapping kind _ => kind.typeName
  | shared place => match heap[place]? with
    | some c => c.typeName
    | none => "object"

/-- The name of the type of a value with the package it is from. -/
def fullTypeName (heap : Heap) (v : Value) : Text :=
  match v.container? heap with
  | some c => c.fullTypeName
  | none => v.typeName heap

/-- Whether a value counts as true where a condition is asked for. -/
def isTruthy (heap : Heap) : Value → Bool
  | null => false
  | bool b => b
  | int n => n != 0
  | float x => !x.isZero
  | text t => !t.isEmpty
  | absent => true
  | other _ _ items => items != some []
  | v => match v.container? heap with
    | some c => !c.isEmpty
    | none => true

mutual

/-- How many containers written in place are nested in a value. -/
def depth : Value → Nat
  | sequence _ items => depthItems items + 1
  | mapping _ members => depthMembers members + 1
  | _ => 0

def depthItems : List Value → Nat
  | [] => 0
  | v :: rest => max v.depth (depthItems rest)

def depthMembers : List (Key × Value) → Nat
  | [] => 0
  | (_, v) :: rest => max v.depth (depthMembers rest)

end

end Value

namespace Container

def depth : Container → Nat
  | sequence _ items => Value.depthItems items + 1
  | mapping _ members => Value.depthMembers members + 1

end Container

namespace Heap

/-- A bound on the containers open at once in a walk that enters no heap container
twice. -/
def depthBound (heap : Heap) (v : Value) : Nat :=
  heap.foldl (fun n c => n + c.depth) v.depth + 1

end Heap

end JsLiteral
