import PolicyOperator.Program
import Std.Time.DateTime.Timestamp

/-!
# The executable

Reads arguments, environment and the configuration file, and prints how the start ends.
-/

open PolicyOperator

/-- What a file holds; nothing when it cannot be read. -/
def readFile? (path : String) : IO (Option String) := do
  try
    return some (← IO.FS.readFile path)
  catch _ =>
    return none

def main (args : List String) : IO UInt32 := do
  let content ← match Program.configFile? args with
    | some path => readFile? path
    | none => pure none
  let ending := Program.ending {
    args := args
    logFilter := ← IO.getEnv "RUST_LOG"
    helmPath := ← IO.getEnv "EIRENYX_HELM_PATH"
    home := ← IO.getEnv "HOME"
    files := fun _ => content }
  IO.print ending.output
  let now ← Std.Time.Timestamp.now
  IO.print (ending.logText (Instant.toText ⟨now.toSecondsSinceUnixEpoch.val, 0⟩))
  IO.eprint ending.complaint
  return UInt32.ofNat ending.exitCode
