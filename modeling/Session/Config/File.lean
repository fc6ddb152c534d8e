import Session.Config.Parser
import Session.Files.Basic

set_option autoImplicit false

/-! # Configuration files

A configuration is read from the file at a path. A file that cannot be read is reported with its
path.
-/

namespace Session.Config

inductive LoadError
  | unreadable (path : String) (fault : Files.Fault)
  | unusable (error : ParseError)
deriving DecidableEq, Repr

def LoadError.message : LoadError → String
  | unreadable path fault => "failed to read " ++ path ++ ": " ++ fault.message
  | unusable e => e.message

/-- The configuration in the file at a path. -/
def load (read : Files.Reader) (path : String) : Except LoadError Config :=
  match read.text path with
  | .error fault => .error (.unreadable path fault)
  | .ok text =>
    match parse text with
    | .error e => .error (.unusable e)
    | .ok c => .ok c

end Session.Config
