import JsLiteral.CommandLine.Program

/-!
# The command line

Loads the files and variables that a run of the program can see, runs it, and writes the
output file. This program starts no other: every formatter is reported as missing, so that
`--no-use-formatter` is needed.
-/

namespace JsLiteral

/-- The part of the file system that a path leads through. -/
def loadPath (fs : Files) (path : Text) : IO Files := do
  let components := Path.components path
  let start := Path.root path
  let mut fs := fs
  for i in List.range components.length do
    let name := start ++ Text.join [Path.slash] (components.take (i + 1))
    if let some file := name.toString? then
      try
        let bytes ← IO.FS.readBinFile file
        fs := fs.put name (.file bytes.toList)
      catch e =>
        match e with
        | .inappropriateType .. => fs := fs.put name .directory
        | _ => pure ()
  return fs

/-- The value of a variable of the environment. -/
def loadVariable (name : Variable) : IO (Option Text) := do
  match name.name.toString? with
  | some s => return (← IO.getEnv s).map Text.ofString
  | none => return none

def main (args : List String) : IO UInt32 := do
  let args := args.map Text.ofString
  let mut files : Files := []
  if let .run a := Arguments.parse args then
    files ← loadPath files a.inputFile
    files ← loadPath files a.outputFile
  let settings : Settings :=
    ⟨← loadVariable .backticks, ← loadVariable .formatter, ← loadVariable .timeout⟩
  let launch : Launcher := fun run => .failed (.missingFile (run.arguments.headD []))
  let result := Program.run launch args { settings, files }
  for (name, entry) in result.world.files do
    if let .file bytes := entry then
      if files.get? name != some entry then
        if let some file := name.toString? then
          IO.FS.writeBinFile file bytes.toByteArray
  IO.print (result.stdout.toString?.getD "")
  IO.eprint (result.stderr.toString?.getD "")
  if let some e := result.failure then
    IO.eprintln (e.message.toString?.getD "")
  return result.exitCode.toUInt32

end JsLiteral

/-- Runs the program on the arguments of the process. -/
def main (args : List String) : IO UInt32 := JsLiteral.main args
