import JsLiteral.Failure
import JsLiteral.Json.Number
import JsLiteral.Json.Quote
import JsLiteral.Value

/-!
# Printing values as JSON

A value is printed in one walk, from the root down and in the order of members and items.
Before a node is printed a replacer sees its key and value and puts another value, or none,
in its place; a container that it returns is walked in turn. A walk that enters a heap
container it is still inside of fails.

    stringify … = .ok none     exactly when the root is dropped
-/

namespace JsLiteral.Json

/-! ## Walks -/

/-- A step of a walk: it may fail and changes a state, which a failure keeps. -/
abbrev Walk (σ α : Type) := ExceptT Failure (StateM σ) α

/-- Sees a key and a value and gives the value to print. -/
abbrev Replacer (σ : Type) := Text → Value → Walk σ Value

/-- The replacer that replaces nothing. -/
def Replacer.keep {σ : Type} : Replacer σ := fun _ v => pure v

/-- A replacer from a function without state. -/
def Replacer.ofFun {σ : Type} (f : Text → Value → Except Failure Value) : Replacer σ :=
  fun key v => match f key v with
    | .ok w => pure w
    | .error e => throw e

/-! ## Layout -/

/-- The text of one step of indentation that a `space` setting asks for. -/
def gap (heap : Heap) : Value → Except Failure Text
  | .null => .ok []
  | .bool _ => .ok []
  | .int n => .ok (List.replicate (min 10 n.toNat) ' ')
  | .text t => .ok (t.take 10)
  | v => .error (.unsupportedSpace (v.typeName heap))

/-- Parts between brackets: on one line if there is no gap, else each on its own line one
step deeper than `indent`. -/
def enclose (opening closing : CodePoint) (gap indent : Text) (parts : List Text) : Text :=
  if parts.isEmpty then [opening, closing]
  else if gap.isEmpty then opening :: (Text.join [','] parts ++ [closing])
  else
    let deeper := Text.newline :: (indent ++ gap)
    opening :: (deeper ++ Text.join (',' :: deeper) parts ++ (Text.newline :: (indent ++ [closing])))

/-- What stands between a member's name and its value. -/
def colon (gap : Text) : Text := if gap.isEmpty then ":" else ": "

/-- The name a key is written as. -/
def memberName : Key → Except Failure Text
  | .text t => .ok t
  | .null => .ok "null"
  | .bool b => .ok (if b then "true" else "false")
  | .int n => .ok (intText n)
  | .float x => .ok (floatText x)
  | .absent => .error (.unsupportedKey "_Omit")
  | .other typeName _ => .error (.unsupportedKey typeName)

/-! ## The walk -/

section

variable {σ : Type}

/-- Prints items with `visit`, numbering them from `i`; a dropped item is null. -/
def printItems (visit : Text → Value → Walk σ (Option Text)) :
    Nat → List Value → Walk σ (List Text)
  | _, [] => pure []
  | i, v :: rest => do
    let part ← visit (Text.ofNat i) v
    let parts ← printItems visit (i + 1) rest
    pure (part.getD "null" :: parts)

/-- Prints members with `visit`; a dropped member leaves nothing. -/
def printMembers (visit : Text → Value → Walk σ (Option Text)) (colon : Text) :
    List (Key × Value) → Walk σ (List Text)
  | [] => pure []
  | (key, v) :: rest => do
    let name ← liftExcept (memberName key)
    let part ← visit name v
    let parts ← printMembers visit colon rest
    pure (match part with
      | some text => (quote name ++ colon ++ text) :: parts
      | none => parts)
where
  liftExcept {α : Type} : Except Failure α → Walk σ α
    | .ok a => pure a
    | .error e => throw e

/-- Prints a container whose parts `visit` prints. -/
def printContainer (visit : Text → Value → Walk σ (Option Text)) (gap indent : Text) :
    Container → Walk σ Text
  | .sequence _ items => do
    let parts ← printItems visit 0 items
    pure (enclose '[' ']' gap indent parts)
  | .mapping _ members => do
    let parts ← printMembers visit (colon gap) members
    pure (enclose '\x7b' '\x7d' gap indent parts)

/-- Prints one node inside the heap containers `path`, on a line indented by `indent`;
`none` if the replacer drops it. At most `limit` containers are open at once. -/
def printNode (heap : Heap) (replacer : Replacer σ) (gap : Text) :
    Nat → List Nat → Text → Text → Value → Walk σ (Option Text)
  | 0, _, _, _, _ => throw .tooDeep
  | limit + 1, path, indent, key, value => do
    let inside (path : List Nat) (c : Container) : Walk σ (Option Text) := do
      let text ← printContainer (printNode heap replacer gap limit path (indent ++ gap)) gap indent c
      pure (some text)
    match ← replacer key value with
    | .absent => pure none
    | .null => pure (some "null")
    | .bool b => pure (some (if b then "true" else "false"))
    | .text t => pure (some (quote t))
    | .int n => pure (some (intText n))
    | .float x => pure (some (floatText x))
    | .other typeName _ _ => throw (.unsupportedValue typeName)
    | .sequence kind items => inside path (.sequence kind items)
    | .mapping kind members => inside path (.mapping kind members)
    | .shared place =>
      if place ∈ path then throw .circular
      else match heap[place]? with
        | some c => inside (place :: path) c
        | none => throw (.unsupportedValue "object")

/-- Prints a value; `none` if the root is dropped. `spare` is how many containers more than
the value itself nests a replacer may open at once. -/
def stringify (heap : Heap) (replacer : Replacer σ) (space value : Value) (spare : Nat) :
    Walk σ (Option Text) := do
  match gap heap space with
  | .ok gap => printNode heap replacer gap (heap.depthBound value + spare) [] [] [] value
  | .error e => throw e

end

end JsLiteral.Json
