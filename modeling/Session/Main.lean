import Session.Command.Run

set_option autoImplicit false

/-! # The command

The outermost layer: it reads the file that the arguments name, prints what the run comes to, and
ends with its exit code. A run that serves lasts until the standard input ends or has a line.
-/

namespace Session.Command

/-- The fault behind an error of the system. -/
def faultOf : IO.Error → Files.Fault
  | .noFileOrDirectory _ _ _ => .notFound
  | .inappropriateType _ 20 _ => .notADirectory
  | .inappropriateType _ _ _ => .isADirectory
  | .invalidArgument _ 36 _ => .nameTooLong
  | .invalidArgument _ _ _ => .nulInPath
  | _ => .notFound

def contentOf (path : String) : IO (Except Files.Fault Bytes) := do
  try
    return .ok (← IO.FS.readBinFile path).toList
  catch e =>
    return .error (faultOf e)

/-- The content of the configuration file, if the arguments name one. -/
def configContent (arguments : List String) : IO (Except Files.Fault Bytes) := do
  match Request.ofArguments arguments with
  | .ok (.start { config := some path, .. }) => contentOf path
  | _ => return .error .notFound

/-- The port of the address that the arguments or the file give. -/
def portOf (arguments : List String) (content : Except Files.Fault Bytes) : String :=
  match Request.ofArguments arguments with
  | .ok (.start o) =>
    match launchConfig (fun _ => content) o with
    | .ok c => (Net.Address.parse? c.listener.bindAddress).elim "" fun a => Text.decimal a.port
    | .error _ => ""
  | _ => ""

end Session.Command

open Session in
def main (arguments : List String) : IO UInt32 := do
  let content ← Command.configContent arguments
  let setting ← IO.getEnv "RUST_LOG"
  let port := Command.portOf arguments content
  let outcome := Command.run (fun _ => content) setting port arguments
  match outcome with
  | .ended _ out err => do
    out.forM IO.println
    err.forM IO.eprintln
  | .served starting stopping => do
    starting.forM IO.println
    (← IO.getStdout).flush
    discard (← IO.getStdin).getLine
    stopping.forM IO.println
  return UInt32.ofNat outcome.code
