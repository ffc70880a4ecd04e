import JsLiteral.Text

/-!
# Runs of code points

A class of code points is a table of runs, the first and the last number of each, in
increasing order.
-/

namespace JsLiteral

abbrev Runs := List (Nat × Nat)

/-- Whether a code point is in one of the runs. -/
def CodePoint.isIn (c : CodePoint) (runs : Runs) : Bool :=
  runs.any fun run => run.1 ≤ c.toNat && c.toNat ≤ run.2

end JsLiteral
