import JsLiteral.Proofs.Json.Floats
import JsLiteral.Proofs.Json.Strings

/-!
# JSON values as trees

What a value is once references to the heap are followed: a tree of leaves, lists and
objects. A value that contains itself is no tree, and neither is one that holds something
JSON has no word for.
-/

namespace JsLiteral.Json

inductive Tree where
  | null
  | bool (b : Bool)
  | int (n : Int)
  | float (x : Binary64)
  | text (t : Text)
  | list (items : List Tree)
  | object (members : List (Text × Tree))
deriving Inhabited

namespace Tree

mutual

/-- What is read where the tree was printed: a float with an integral value that is not too
large is an integer. -/
def value : Tree → Value
  | .null => .null
  | .bool b => .bool b
  | .int n => .int n
  | .float x => numberValue x
  | .text t => .text t
  | .list items => .sequence .list (valueItems items)
  | .object members => .mapping .dict (valueMembers members)

def valueItems : List Tree → List Value
  | [] => []
  | tree :: rest => tree.value :: valueItems rest

def valueMembers : List (Text × Tree) → Members
  | [] => []
  | (name, tree) :: rest => (.text name, tree.value) :: valueMembers rest

end

mutual

/-- The texts of a tree that are values, in order. -/
def texts : Tree → List Text
  | .text t => [t]
  | .list items => textsItems items
  | .object members => textsMembers members
  | _ => []

def textsItems : List Tree → List Text
  | [] => []
  | tree :: rest => tree.texts ++ textsItems rest

def textsMembers : List (Text × Tree) → List Text
  | [] => []
  | (_, tree) :: rest => tree.texts ++ textsMembers rest

end

mutual

/-- The names of the members in a tree. -/
def names : Tree → List Text
  | .list items => namesItems items
  | .object members => namesMembers members
  | _ => []

def namesItems : List Tree → List Text
  | [] => []
  | tree :: rest => tree.names ++ namesItems rest

def namesMembers : List (Text × Tree) → List Text
  | [] => []
  | (name, tree) :: rest => name :: (tree.names ++ namesMembers rest)

end

end Tree

/-! ## What a value denotes -/

/-- The container that a value is where the heap containers `path` are open, and what is open
inside of it. -/
inductive Opens (heap : Heap) : List Nat → Value → List Nat → Container → Prop
  | sequence (path : List Nat) (kind : SequenceKind) (items : List Value) :
    Opens heap path (.sequence kind items) path (.sequence kind items)
  | mapping (path : List Nat) (kind : MappingKind) (members : Members) :
    Opens heap path (.mapping kind members) path (.mapping kind members)
  | shared {path : List Nat} {place : Nat} {c : Container} :
    place ∉ path → heap[place]? = some c → Opens heap path (.shared place) (place :: path) c

mutual

/-- A value inside the open heap containers `path` is a tree. Names of one mapping differ, and
no text has a high surrogate right before a low one. -/
def Denotes (heap : Heap) : List Nat → Value → Tree → Prop
  | _, v, .null => v = .null
  | _, v, .bool b => v = .bool b
  | _, v, .int n => v = .int n
  | _, v, .float x => v = .float x ∧ x.isFinite = true
  | _, v, .text t => v = .text t ∧ Text.isUnpaired t = true
  | path, v, .list trees => ∃ inner kind items, Opens heap path v inner (.sequence kind items) ∧
      DenotesItems heap inner items trees
  | path, v, .object trees => ∃ inner kind members,
      Opens heap path v inner (.mapping kind members) ∧ DenotesMembers heap inner members trees ∧
        (trees.map Prod.fst).Nodup

def DenotesItems (heap : Heap) : List Nat → List Value → List Tree → Prop
  | _, [], [] => True
  | path, v :: items, tree :: trees => Denotes heap path v tree ∧ DenotesItems heap path items trees
  | _, _, _ => False

def DenotesMembers (heap : Heap) : List Nat → Members → List (Text × Tree) → Prop
  | _, [], [] => True
  | path, (key, v) :: members, (name, tree) :: trees =>
    (key = .text name ∧ Text.isUnpaired name = true) ∧ Denotes heap path v tree ∧
      DenotesMembers heap path members trees
  | _, _, _ => False

end

theorem DenotesItems.exists_head {heap : Heap} {path : List Nat} {items : List Value} {tree : Tree}
    {trees : List Tree} (h : DenotesItems heap path items (tree :: trees)) :
    ∃ v, Denotes heap path v tree := by
  cases items with
  | nil => exact h.elim
  | cons v items => exact ⟨v, h.1⟩

end JsLiteral.Json
