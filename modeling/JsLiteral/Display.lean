import JsLiteral.Number.Layout
import JsLiteral.Text.Quoted
import JsLiteral.Value

/-!
# Values in messages

How a value reads in a message, an argument or a setting. A text at the root stands as it
is, one inside a container is quoted; a container inside itself is cut to its brackets.
-/

namespace JsLiteral

/-- The text of a key in a mapping. -/
def Key.display : Key → Text
  | text t => t.quoted
  | null => "None"
  | bool b => if b then "True" else "False"
  | int n => Text.ofInt n
  | float x => NumberLayout.canonical.write x
  | absent => "OMIT"
  | other _ reading => reading

namespace Value

/-- The text of a range: where it starts, where it stops, and its step unless it is one. -/
def displayRange (start stop step : Int) : Text :=
  let parts := if step = 1 then [start, stop] else [start, stop, step]
  ("range(" : Text) ++ Text.join ", " (parts.map Text.ofInt) ++ (")" : Text)

/-- The text of a container whose parts `inner` writes. -/
def displayContainer (inner : Value → Text) : Container → Text
  | .sequence .list vs => listText vs
  | .sequence .tuple [v] => ("(" : Text) ++ inner v ++ (",)" : Text)
  | .sequence .tuple vs => ("(" : Text) ++ Text.join ", " (vs.map inner) ++ (")" : Text)
  | .sequence .deque vs => ("deque(" : Text) ++ listText vs ++ (")" : Text)
  | .sequence (.range start stop step) _ => displayRange start stop step
  | .mapping .dict ms => dictText ms
  | .mapping .view ms => ("mappingproxy(" : Text) ++ dictText ms ++ (")" : Text)
where
  listText (vs : List Value) : Text :=
    ("[" : Text) ++ Text.join ", " (vs.map inner) ++ ("]" : Text)
  dictText (ms : Members) : Text :=
    CodePoint.scalar '\x7b'
      :: Text.join ", " (List.map (fun p => p.1.display ++ (": " : Text) ++ inner p.2) ms)
      ++ [CodePoint.scalar '\x7d']

/-- What stands for a container inside itself. -/
def displayCut : Container → Text
  | .sequence .tuple _ => "(...)"
  | .sequence _ _ => "[...]"
  | .mapping _ _ => "\x7b...\x7d"

/-- The text of a value inside the heap containers `path`; containers nested deeper than
`limit` are cut. -/
def displayInner (heap : Heap) : Nat → List Nat → Value → Text
  | 0, _, _ => "..."
  | limit + 1, path, v =>
    let inside (path : List Nat) (c : Container) : Text :=
      displayContainer (displayInner heap limit path) c
    match v with
    | null => "None"
    | bool b => if b then "True" else "False"
    | int n => Text.ofInt n
    | float x => NumberLayout.canonical.write x
    | text t => t.quoted
    | absent => "OMIT"
    | other _ reading _ => reading
    | sequence kind items => inside path (.sequence kind items)
    | mapping kind members => inside path (.mapping kind members)
    | shared place => match heap[place]? with
      | some c => if place ∈ path then displayCut c else inside (place :: path) c
      | none => "..."

/-- The text of a value. A view at the root reads as the dictionary it shows. -/
def display (heap : Heap) (v : Value) : Text :=
  let inner (v : Value) : Text := displayInner heap (heap.depthBound v) [] v
  match v with
  | text t => t
  | v => match v.container? heap with
    | some (.mapping .view ms) => inner (.mapping .dict ms)
    | _ => inner v

end Value

end JsLiteral
