import Session.Log.Level
import Session.Http.Status

set_option autoImplicit false

/-! # Log events

What the program reports about itself. An event has a level, a target (the part of the program
it comes from), a message and named fields, all determined by what happened.
-/

namespace Session.Log

inductive Field
  | text (s : String)
  | number (n : Nat)
deriving DecidableEq, Repr

def Field.show : Field → String
  | text s => s
  | number n => Text.decimal n

inductive Event
  | bodyReadFailed (error : String)
  /-- A body error becomes the answer. -/
  | bodyRejected (error : String)
  | bodyEchoed (length : Nat)
  /-- The directive that would expire the cookie is no valid header value. -/
  | directiveIgnored (cookie : String)
  /-- A response of this status was told to drop the user cookies under this path. -/
  | cookiesExpired (path : String) (status : Http.Status)
  | serverStarting (address : String) (maxBodyBytes : Nat)
  | stopReceived
  | connectionsRefused
  /-- The server waits for so many tasks that are still at work. -/
  | tasksAwaited (count : Nat)
  | serverStopped
  | signalReceived
  | configurationLoaded (file : String) (bindAddress : String) (maxBodyBytes timeout : Nat)
  | metricsListening (address : String)
  | shutdownComplete
deriving DecidableEq, Repr

namespace Event

def level : Event → Level
  | bodyReadFailed _ => .warn
  | bodyRejected _ => .debug
  | bodyEchoed _ => .debug
  | directiveIgnored _ => .warn
  | cookiesExpired _ _ => .debug
  | serverStarting _ _ => .info
  | stopReceived => .trace
  | connectionsRefused => .trace
  | tasksAwaited _ => .trace
  | serverStopped => .info
  | signalReceived => .info
  | configurationLoaded _ _ _ _ => .info
  | metricsListening _ => .info
  | shutdownComplete => .info

/-- The part of the program that the event comes from. -/
def target : Event → String
  | bodyReadFailed _ => "session_server::http::body"
  | bodyRejected _ => "session_server::http::body"
  | bodyEchoed _ => "session_server::http::handlers"
  | directiveIgnored _ => "session_server::http::cookies"
  | cookiesExpired _ _ => "session_server::http::middleware::clear_cookies"
  | serverStarting _ _ => "session_server::http::server"
  | stopReceived => "axum::serve"
  | connectionsRefused => "axum::serve"
  | tasksAwaited _ => "axum::serve"
  | serverStopped => "session_server::http::server"
  | signalReceived => "session_server::lifecycle::signals"
  | configurationLoaded _ _ _ _ => "session_server"
  | metricsListening _ => "session_server::observability::metrics"
  | shutdownComplete => "session_server"

def message : Event → String
  | bodyReadFailed _ => "Request body read failed"
  | bodyRejected _ => "Rejecting request body"
  | bodyEchoed _ => "Echoing request body"
  | directiveIgnored _ => "Ignoring bad cookie expiry directive"
  | cookiesExpired _ _ => "User cookies expired"
  | serverStarting _ _ => "HTTP server starting"
  | stopReceived => "received graceful shutdown signal. Telling tasks to shutdown"
  | connectionsRefused => "signal received, not accepting new connections"
  | tasksAwaited n => "waiting for " ++ Text.decimal n ++ " task(s) to finish"
  | serverStopped => "HTTP server stopped"
  | signalReceived => "Shutdown signal received"
  | configurationLoaded _ _ _ _ => "Configuration loaded"
  | metricsListening _ => "Metrics endpoint listening"
  | shutdownComplete => "Shutdown complete"

/-- The fields in the order in which a line shows them. -/
def fields : Event → List (String × Field)
  | bodyReadFailed e => [("error", .text e)]
  | bodyRejected e => [("error", .text e)]
  | bodyEchoed n => [("len", .number n)]
  | directiveIgnored c => [("cookie", .text c), ("error", .text "failed to parse header value")]
  | cookiesExpired p s => [("path", .text p), ("status", .text s.text)]
  | serverStarting a n => [("address", .text a), ("max_body_bytes", .number n)]
  | stopReceived => []
  | connectionsRefused => []
  | tasksAwaited _ => []
  | serverStopped => []
  | signalReceived => []
  | configurationLoaded f a n t =>
      [("config_file", .text f), ("bind_address", .text a), ("max_body_bytes", .number n),
       ("request_timeout_secs", .number t)]
  | metricsListening a => [("address", .text a)]
  | shutdownComplete => []

end Event

end Session.Log
