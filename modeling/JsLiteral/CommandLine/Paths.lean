import JsLiteral.Failure
import JsLiteral.Files
import JsLiteral.Text.Search
import JsLiteral.Text.Utf8

/-!
# Paths

A path is a text with slashes. Empty components and dots go; two dots lead to the directory
above, which must exist like every directory on the way. The names of entries are paths
from the working directory, or absolute ones. A component has at most 255 bytes, a path
fewer than 4096.
-/

namespace JsLiteral.Path

def slash : CodePoint := '/'

/-- The components of a path that name something. -/
def components (t : Text) : List Text :=
  (Text.splitBy (· == slash) t).filter fun c => !c.isEmpty && c ≠ Text.ofString "."

/-- The slashes an absolute path starts with: exactly two stay two. -/
def root (t : Text) : Text :=
  let slashes := t.takeWhile (· == slash)
  if slashes.length = 2 then slashes else slashes.take 1

/-- A path without superfluous slashes and dots. -/
def normalize (t : Text) : Text :=
  let path := root t ++ Text.join [slash] (components t)
  if path.isEmpty then "." else path

/-- Whether a text can be a path: it has bytes, and none of them is NUL. -/
def isNameable (t : Text) : Bool := (Text.encodeBytes? t).isSome && !t.contains '\x00'

/-! ## Finding entries -/

/-- Where a path leads. -/
inductive Place where
  /-- A directory with the given components. -/
  | directory (path : List Text)
  | file (name : Text) (bytes : List UInt8)
  /-- A free name in a directory. -/
  | vacant (name : Text)
  | missing
  /-- A path through a file. -/
  | blocked
  /-- A name that no entry can have. -/
  | tooLong
deriving DecidableEq, Repr

/-- The directory above a directory. -/
def above (cs : List Text) : List Text :=
  match cs.getLast? with
  | none => [Text.ofString ".."]
  | some [] => cs
  | some c => if c = Text.ofString ".." then cs ++ [c] else cs.dropLast

/-- Whether a directory of this name is there, listed or as part of another name. -/
def isDirectory (fs : Files) (name : Text) : Bool :=
  fs.get? name == some .directory
    || fs.any fun p => (name ++ [slash]).isPrefixOf p.1

/-- How many bytes a text takes in a name. -/
def size (t : Text) : Nat := ((Text.encodeBytes? t).getD []).length

/-- One component further. -/
def descend (fs : Files) : Place → Text → Place
  | .directory cs, c =>
    if c = Text.ofString ".." then .directory (above cs)
    else if 255 < size c then .tooLong
    else
      let name := Text.join [slash] (cs ++ [c])
      if isDirectory fs name then .directory (cs ++ [c])
      else match fs.get? name with
        | some (.file bytes) => .file name bytes
        | _ => .vacant name
  | .file _ _, _ => .blocked
  | .vacant _, _ => .missing
  | .missing, _ => .missing
  | .blocked, _ => .blocked
  | .tooLong, _ => .tooLong

/-- Where a path leads from the working directory. -/
def locate (fs : Files) (path : Text) : Place :=
  if 4096 ≤ size path then .tooLong
  else
    let start : List Text := if (root path).isEmpty then [] else [[]]
    (components path).foldl (descend fs) (.directory start)

/-! ## Reading and writing -/

/-- The bytes of the file at a path. -/
def read (fs : Files) (path : Text) : Except Failure (List UInt8) :=
  match locate fs path with
  | .file _ bytes => .ok bytes
  | .directory _ => .error (.isDirectory path)
  | .vacant _ => .error (.missingFile path)
  | .missing => .error (.missingFile path)
  | .blocked => .error (.notDirectory path)
  | .tooLong => .error (.nameTooLong path)

/-- The files with new bytes at a path. -/
def write (fs : Files) (path : Text) (bytes : List UInt8) : Except Failure Files :=
  match locate fs path with
  | .file name _ => .ok (fs.put name (.file bytes))
  | .vacant name => .ok (fs.put name (.file bytes))
  | .directory _ => .error (.isDirectory path)
  | .missing => .error (.missingFile path)
  | .blocked => .error (.notDirectory path)
  | .tooLong => .error (.nameTooLong path)

end JsLiteral.Path
