import Session.Server.Wire
import Session.Shutdown.Coordinator

set_option autoImplicit false

/-! # Serving

A server that listens answers requests, each on a connection of its own, until its shutdown is
triggered or can no longer be. It says when it starts and when it has stopped. Whether a client
gets a connection at all is not up to the server.
-/

namespace Session.Server

inductive Reach
  | connected
  | refused
deriving DecidableEq, Repr

inductive Outcome
  | answered (response : Http.Response)
  | refused
deriving DecidableEq, Repr

inductive Stop
  | trigger
  /-- Its only handle is dropped. -/
  | drop
deriving DecidableEq, Repr

def Stop.step : Stop → Shutdown.Step
  | trigger => .trigger 0
  | drop => .drop 0

/-- A server that waits on a handle of its own stops when it is told to. -/
def Stop.isHeard (s : Stop) : Bool :=
  let run := (Shutdown.Coordinator.init.run [.subscribe 0, s.step, .poll]).value
  run.2.getLast? = some (.polled [.resolved])

def serveOne (config : Config) (fresh : Http.Value) (reach : Reach) (r : Request) :
    Traced Outcome :=
  match reach with
  | .refused => return .refused
  | .connected => do
    let response ← answer config fresh r
    return .answered (framed r.method response)

/-- A server from its start to its end, at an address. For each request an id is drawn. -/
def serve (config : Config) (address : String) (reach : Reach)
    (calls : List (Http.Value × Request)) : Traced (List Outcome) := do
  Traced.note (.log (.serverStarting address config.limits.maxBodyBytes))
  let outcomes ← calls.mapM fun (fresh, r) => serveOne config fresh reach r
  Traced.note (.log .serverStopped)
  return outcomes

end Session.Server
