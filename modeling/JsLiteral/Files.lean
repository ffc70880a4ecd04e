import JsLiteral.Text

/-!
# Files

A small file system: files and directories by name, in the order they were made.

    (fs.put n e).get? n = some e                              (get?_put)
    fresh fs base is the name of no entry                     (get?_fresh)
    (fs.put n e).remove n = fs.remove n                       (remove_put)
-/

namespace JsLiteral

inductive Entry where
  | file (bytes : List UInt8)
  | directory
deriving DecidableEq, Repr, Inhabited

/-- Entries by name. -/
abbrev Files := List (Text × Entry)

namespace Files

def get? (fs : Files) (name : Text) : Option Entry := List.lookup name fs

/-- Writes an entry in place of the one with its name, or as a new one. -/
def put : Files → Text → Entry → Files
  | [], name, e => [(name, e)]
  | (n, old) :: rest, name, e =>
    if n = name then (n, e) :: rest else (n, old) :: put rest name e

def remove (fs : Files) (name : Text) : Files := List.filter (fun p => p.1 ≠ name) fs

/-- The length of the longest name. -/
def longest : Files → Nat
  | [] => 0
  | p :: rest => max p.1.length (longest rest)

/-- A name that no entry has: `base`, made longer than every name if it is taken. -/
def fresh (fs : Files) (base : Text) : Text :=
  if (get? fs base).isNone then base
  else base ++ List.replicate (longest fs + 1) (CodePoint.scalar '_')

theorem get?_cons (n name : Text) (e : Entry) (fs : Files) :
    get? ((n, e) :: fs) name = if name = n then some e else get? fs name := by
  unfold get?
  rw [List.lookup_cons]
  by_cases h : name = n
  · rw [if_pos h, beq_iff_eq.2 h]
  · rw [if_neg h, beq_eq_false_iff_ne.2 h]

@[simp] theorem get?_put (fs : Files) (name : Text) (e : Entry) :
    get? (put fs name e) name = some e := by
  induction fs with
  | nil => simp [put, get?_cons]
  | cons p fs ih =>
    obtain ⟨n, old⟩ := p
    unfold put
    by_cases h : n = name
    · simp [h, get?_cons]
    · rw [if_neg h, get?_cons, if_neg fun heq => h heq.symm]
      exact ih

@[simp] theorem remove_put (fs : Files) (name : Text) (e : Entry) :
    remove (put fs name e) name = remove fs name := by
  induction fs with
  | nil => simp [remove, put]
  | cons p fs ih =>
    obtain ⟨n, old⟩ := p
    unfold put
    by_cases h : n = name
    · simp [h, remove]
    · rw [if_neg h]
      simpa [remove, h] using ih

theorem get?_eq_none_iff {fs : Files} {name : Text} :
    get? fs name = none ↔ ∀ p ∈ fs, p.1 ≠ name := by
  induction fs with
  | nil => simp [get?]
  | cons p fs ih =>
    obtain ⟨n, e⟩ := p
    rw [get?_cons]
    by_cases h : name = n
    · simp [h]
    · rw [if_neg h, ih]
      simp [eq_comm, h]

theorem length_le_longest {fs : Files} {p : Text × Entry} (h : p ∈ fs) :
    p.1.length ≤ longest fs := by
  induction fs with
  | nil => cases h
  | cons q fs ih =>
    unfold longest
    rcases List.mem_cons.1 h with rfl | h
    · omega
    · have := ih h
      omega

theorem get?_fresh (fs : Files) (base : Text) : get? fs (fresh fs base) = none := by
  unfold fresh
  split
  · rename_i h
    simpa using h
  · rw [get?_eq_none_iff]
    intro p hp heq
    have hle := length_le_longest hp
    have := congrArg List.length heq
    simp only [List.length_append, List.length_replicate] at this
    omega

end Files

end JsLiteral
