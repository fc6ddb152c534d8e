import Session.Shutdown.Coordinator

set_option autoImplicit false

/-! # Starting up and being told to stop

The command makes a handle, lets a listener wait for the signals of the system, and subscribes;
then its server waits with that subscription, while the handle stays alive. The listener is a task
of its own from the moment it is made, so its turns fall anywhere between those of the command.
-/

namespace Session.Command

open Shutdown

/-- The parties, and what the command has still to set up before its server waits. -/
structure Startup where
  coordinator : Coordinator := { channels := [], handles := [] }
  todo : List Action := [.create, .listen 0, .subscribe 0]
deriving DecidableEq, Repr

namespace Startup

inductive Turn
  | command
  | listener
deriving DecidableEq, Repr

/-- One turn. The listener gets its signal, triggers, or ends. -/
def turn (s : Startup) : Turn → Startup
  | .command => match s.todo with
    | a :: todo => ⟨s.coordinator.after a, todo⟩
    | [] => { s with coordinator := s.coordinator.after (.await 0) }
  | .listener => { s with coordinator := s.coordinator.after (.proceed 0) }

def turns (s : Startup) (ts : List Turn) : Startup := ts.foldl turn s

/-- The command has subscribed, and its server waits or has waited. -/
def isServing (s : Startup) : Bool := s.todo.isEmpty

def hasSignal (s : Startup) : Bool :=
  s.coordinator.listeners[0]?.any fun l => l.all (·.stage ≠ .waiting)

/-- The listener has triggered, and maybe ended after that. -/
def hasTriggered (s : Startup) : Bool :=
  s.coordinator.listeners[0]?.any fun l => l.all (·.stage = .triggered)

/-- The server is told to stop: its wait is ready, or it has gone on already. -/
def isStopped (s : Startup) : Bool := s.isServing && s.coordinator.find 0 ≠ .waiting

end Startup

end Session.Command
