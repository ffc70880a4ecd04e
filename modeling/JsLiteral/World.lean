import JsLiteral.Failure
import JsLiteral.Files
import JsLiteral.Settings
import JsLiteral.Value

/-!
# What a conversion touches

The world of a conversion: the containers that values share, the settings, the files, and a
journal of what happened. A task reads and changes the world and may fail; a failure keeps
what was done before it.
-/

namespace JsLiteral

inductive Level where
  | debug
  | warning
deriving DecidableEq, Repr

/-- The part of the library that makes a note. -/
inductive Source where
  | conversion
  | formatter
deriving DecidableEq, Repr

/-- A program started to format code: its command line, the path of its configuration file,
its input, its time limit, and the files as it finds them. -/
structure Run where
  arguments : List Text
  configPath : Text
  input : Text
  timeout : Value
  files : Files
deriving Repr, Inhabited

/-- The text of the configuration file that a program finds. -/
def Run.config? (r : Run) : Option Text :=
  match r.files.get? r.configPath with
  | some (.file bytes) => some (bytes.map fun b => CodePoint.ofNat b.toNat)
  | _ => none

inductive Event where
  | noted (level : Level) (source : Source) (message : Text)
  /-- A formatter was called. -/
  | called (code : Text) (options : Value)
  /-- A program was started. -/
  | started (run : Run)
deriving Repr, Inhabited

structure World where
  heap : Heap := []
  settings : Settings := {}
  files : Files := []
  journal : List Event := []
deriving Repr, Inhabited

/-- A step that reads and changes the world. -/
abbrev Task := ExceptT Failure (StateM World)

namespace Task

def record (e : Event) : Task Unit :=
  modify fun w => { w with journal := w.journal ++ [e] }

def note (level : Level) (source : Source) (message : Text) : Task Unit :=
  record (.noted level source message)

def ofExcept {α : Type} : Except Failure α → Task α
  | .ok a => pure a
  | .error e => throw e

/-- Runs a task with a new file, which is removed however the task ends. -/
def withFile {α : Type} (base : Text) (body : Text → Task α) : Task α := fun w =>
  let path := w.files.fresh base
  let (r, w') := (body path).run { w with files := w.files.put path (.file []) }
  (r, { w' with files := w'.files.remove path })

/-- Runs a task; its failure becomes what `wrap` makes of it. -/
def wrapFailure {α : Type} (wrap : Failure → Failure) (body : Task α) : Task α := fun w =>
  match body.run w with
  | (.ok a, w') => (.ok a, w')
  | (.error e, w') => (.error (wrap e), w')

end Task

end JsLiteral
