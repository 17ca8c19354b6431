import ModalEditor.CommandLine.Program
/-!
# The command line

Hands the arguments and the environment to the program and prints what it answers.
-/
namespace ModalEditor.CommandLine

/-- The variables that the program asks for. -/
def environmentNames : List String :=
  ["VIMLINE_TAB_WIDTH", "VIMLINE_USE_SPACES", "VIMLINE_IDLE_TIMEOUT_MS", "VIMLINE_LANG"]

def readEnvironment : IO Environment := do
  let mut env : Environment := []
  for name in environmentNames do
    if let some value ← IO.getEnv name then
      env := (name.toList, value.toList) :: env
  return env

end ModalEditor.CommandLine

/-- The whole program: prints what it answers and ends with its status. -/
def main (args : List String) : IO UInt32 := do
  let env ← ModalEditor.CommandLine.readEnvironment
  match ModalEditor.CommandLine.program env (args.map String.toList) with
  | .error fault =>
    IO.eprintln (String.ofList fault.message)
    return 1
  | .ok (.stopped stop) =>
    IO.eprintln "usage: vimline [-h] (test | run) keys"
    return stop.status.toUInt32
  | .ok (.done status out err) =>
    IO.print (String.ofList out)
    IO.eprint (String.ofList err)
    return status.toUInt32
