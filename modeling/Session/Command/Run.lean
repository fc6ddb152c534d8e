import Session.Command.Launch
import Session.Log.Filter
import Session.Log.Line

set_option autoImplicit false

/-! # Running the command

What the command prints and how it ends. It shows its help, or an error in its arguments, or it
fails to launch; else it serves until it gets a signal, and logs what it does.
-/

namespace Session.Command

inductive Outcome
  /-- It ends at once with an exit code, after it has written to its two outputs. -/
  | ended (code : Nat) (out err : List String)
  /-- It serves. What it writes before it gets its signal, and what it writes then; it ends
  without an error. -/
  | served (starting stopping : List String)
deriving DecidableEq, Repr

namespace Outcome

def code : Outcome → Nat
  | ended code _ _ => code
  | served _ _ => 0

/-- The command got as far as serving. -/
def isServed : Outcome → Bool
  | ended _ _ _ => false
  | served _ _ => true

def out : Outcome → List String
  | ended _ out _ => out
  | served starting stopping => starting ++ stopping

def err : Outcome → List String
  | ended _ _ err => err
  | served _ _ => []

end Outcome

def helpLines : List String :=
  ["HTTP server with body reading and sign-out cookie helpers",
   "",
   "Usage: session-server [OPTIONS]",
   "",
   "Options:",
   "  -c, --config <CONFIG>  Path to a TOML configuration file",
   "  -b, --bind <BIND>      Override `listener.bind_address`",
   "  -h, --help             Print help"]

def usageLines (e : UsageError) : List String :=
  ["error: " ++ e.message,
   "",
   "Usage: session-server [OPTIONS]",
   "",
   "For more information, try '--help'."]

/-- How the option that names a file is shown. -/
def optionSummary : Option String → String
  | none => "None"
  | some path => "Some(" ++ Text.Quoted.quote path ++ ")"

/-- The address that the server listens at, with the port that it was given. -/
def boundAddress (address : String) (port : String) : String :=
  match Net.Address.parse? address with
  | some a => String.ofList a.host.render ++ ":" ++ port
  | none => address

/-- What is logged once there is a configuration. -/
def loadedEvent (o : Options) (c : Config) : Log.Event :=
  .configurationLoaded (optionSummary o.config) c.listener.bindAddress c.limits.maxBodyBytes
    c.limits.requestTimeout

/-- What is logged before the server gets its signal. -/
def startEvents (o : Options) (c : Config) (endpoint : Option Net.Address) (port : String) :
    List Log.Event :=
  [loadedEvent o c]
  ++ (endpoint.elim [] fun a => [.metricsListening a.render])
  ++ [.serverStarting (boundAddress c.listener.bindAddress port) c.limits.maxBodyBytes]

/-- What is logged from the signal on. No request is at work. -/
def stopEvents : List Log.Event :=
  [.signalReceived, .stopReceived, .connectionsRefused, .tasksAwaited 0, .serverStopped,
   .shutdownComplete]

/-- The lines of the events that pass the filter, which a setting outside of the configuration
may name. -/
def logLines (filterSetting : Option String) (c : Config) (events : List Log.Event) :
    List String :=
  let filter := Log.Filter.chosen filterSetting c.observability.logLevel
  let format := if c.observability.jsonLogs then .json else .plain
  (events.filter filter.admits).map (Log.Event.line format)

/-- A whole run: the command is started and, if it serves, gets its signal; `port` is the port it
was given. -/
def run (read : Files.Reader) (filterSetting : Option String) (port : String)
    (arguments : List String) : Outcome :=
  match Request.ofArguments arguments with
  | .error e => .ended 2 [] (usageLines e)
  | .ok .help => .ended 0 helpLines []
  | .ok (.start o) =>
    match launchConfig read o with
    | .error e => .ended 1 [] ["Error: " ++ errorSummary e]
    | .ok c =>
      match metricsEndpoint c with
      | .error e => .ended 1 (logLines filterSetting c [loadedEvent o c]) ["Error: " ++ e.summary]
      | .ok endpoint => .served (logLines filterSetting c (startEvents o c endpoint port))
          (logLines filterSetting c stopEvents)

end Session.Command
