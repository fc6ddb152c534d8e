import Session.Command.Options
import Session.Config.File

set_option autoImplicit false

/-! # Launching

The configuration of a run: the file is loaded if one is named, and has to be valid as it stands;
then the address of the command line replaces the configured one, and everything is validated
again. Without a file and without an address the standard configuration is used.

Where the counters can be fetched is read off the configuration only when the server is there.
-/

namespace Session.Command

abbrev LaunchError := Config.LoadError

/-- The configuration that the options start from. -/
def baseConfig (read : Files.Reader) (o : Options) : Except LaunchError Config :=
  match o.config with
  | none => .ok .standard
  | some path => Config.load read path

def withAddress (c : Config) (address : String) : Config :=
  { c with listener := { c.listener with bindAddress := address } }

def launchConfig (read : Files.Reader) (o : Options) : Except LaunchError Config := do
  let base ← baseConfig read o
  match o.bind with
  | none => return base
  | some address =>
    -- the file has been validated by itself, so a bad address in it is reported already
    match (withAddress base address).validated with
    | .ok c => return c
    | .error e => .error (.unusable e)

/-- Why a run stops when it has got its configuration. -/
inductive EndpointError
  | notAnAddress (value : String)
deriving DecidableEq, Repr

/-- Where the counters can be fetched, if they can be. -/
def metricsEndpoint (c : Config) : Except EndpointError (Option Net.Address) :=
  if c.observability.metricsEnabled then
    match Net.Address.parse? c.observability.metricsAddress with
    | some a => .ok (some a)
    | none => .error (.notAnAddress c.observability.metricsAddress)
  else .ok none

def EndpointError.summary : EndpointError → String
  | notAnAddress _ => "AddrParseError(Socket)"

def faultSummary (f : Files.Fault) : String :=
  match f.code? with
  | some n => "Os \x7b code: " ++ toString n ++ ", kind: " ++ f.kind ++ ", message: "
      ++ Text.Quoted.quote f.text ++ " \x7d"
  | none => "Error \x7b kind: " ++ f.kind ++ ", message: "
      ++ Text.Quoted.quote f.text ++ " \x7d"

def errorSummary : LaunchError → String
  | .unreadable path fault => "Io \x7b path: " ++ Text.Quoted.quote path
      ++ ", source: " ++ faultSummary fault ++ " \x7d"
  | .unusable .syntaxError => "Parse"
  | .unusable (.misfit _) => "Parse"
  | .unusable (.invalid ps) =>
      "Validation([" ++ ", ".intercalate (ps.map Config.Problem.summary) ++ "])"

end Session.Command
