import Session.Body.Limit
import Session.Cookie.Attributes

set_option autoImplicit false

/-! # Configuration

What an operator can set. Every field has a value of its own where nothing is set.
-/

namespace Session

namespace Config

structure Listener where
  bindAddress : String := "0.0.0.0:8080"
deriving DecidableEq, Repr

structure Limits where
  /-- The greatest number of bytes of a request body. -/
  maxBodyBytes : Nat := Body.Limit.defaultBytes
  /-- How many seconds answering may take. -/
  requestTimeout : Nat := 30
deriving DecidableEq, Repr

structure Observability where
  /-- The level from which on events are logged. -/
  logLevel : String := "info"
  jsonLogs : Bool := false
  metricsEnabled : Bool := false
  metricsAddress : String := "0.0.0.0:9090"
deriving DecidableEq, Repr

end Config

structure Config where
  listener : Config.Listener := {}
  limits : Config.Limits := {}
  /-- The path and the domain that the user cookies were set with. -/
  cookies : Cookie.Attributes := {}
  observability : Config.Observability := {}
deriving DecidableEq, Repr

namespace Config

/-- The configuration where nothing is set. -/
def standard : Config := {}

def bodyLimit (c : Config) : Body.Limit := .ofBytes c.limits.maxBodyBytes

end Config

end Session
