import Colloquy.CommandLine

/-!
# The program

Reads the environment and the files that a command needs, carries it out, and puts out what comes of
it.
-/

namespace Colloquy

/-- Whether there is anything under a path. -/
def isThere (path : String) : IO Bool := do
  let here ← IO.currentDir
  { here with toString := path }.pathExists

/-- The entry under a path. Whatever the reason is that the program finds nothing there, the entry is
missing. -/
def readEntry (path : String) : IO FileEntry := do
  try
    match String.fromUTF8? (← IO.FS.readBinFile path) with
    | some s => return .text s
    | none => return .unreadable
  catch _ => return if ← isThere path then .unreadable else .missing

/-- The files under the given paths. -/
def readFiles (paths : List String) : IO Files := do
  let entries ← paths.mapM fun path => return (path, ← readEntry path)
  return fun path => (entries.lookup path).getD .missing

/-- The environment of the program. -/
def readEnvironment : IO Environment := do
  return {
    home := ← IO.getEnv "HOME"
    template := ← IO.getEnv "PROMPTLOOM_TEMPLATE"
    cutoff := ← IO.getEnv "PROMPTLOOM_CUTOFF_LEN"
    config := ← IO.getEnv "PROMPTLOOM_CONFIG" }

/-- The files that a request needs. -/
def filesOf (env : Environment) : CommandLine.Request → IO Files
  | .run config command => readFiles (command.paths env config)
  | _ => return fun _ => .missing

/-- Carries out what the arguments ask for. -/
def runProgram (args : List String) : IO UInt32 := do
  let env ← readEnvironment
  match CommandLine.parse? env args with
  | some request =>
    let answer := request.answer Fault.describe (← filesOf env request) env
    IO.print answer.output
    if let some e := answer.error then
      IO.eprintln ("Error: " ++ e.message Fault.describe)
    return answer.status.toUInt32
  | none =>
    IO.eprint CommandLine.helpText
    return CommandLine.usageStatus.toUInt32

end Colloquy

def main (args : List String) : IO UInt32 :=
  Colloquy.runProgram args
