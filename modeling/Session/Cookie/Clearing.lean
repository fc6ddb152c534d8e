import Session.Cookie.Expiry
import Session.Http.Response

set_option autoImplicit false

/-! # Clearing services

A service answers a request, or fails; it may have a state of its own. `clearing a s` is the
service that answers like `s` and expires the user cookies on every response of `s`, whether or
not the request carried them. The inner service runs exactly once for each request, and its
failures pass through untouched.
-/

namespace Session.Cookie

/-- Answers requests of type `ρ` with a response or a failure of type `ε`, and may keep a state
of type `σ`. -/
abbrev Service (ρ σ ε : Type) := ρ → σ → Traced (Except ε Http.Response × σ)

variable {ρ σ ε : Type}

/-- Expires the user cookies on every response of a service. -/
def clearing (a : Attributes) (inner : Service ρ σ ε) : Service ρ σ ε := fun request state => do
  let (next, pending) := ({} : Pending).clear fun _ => inner request state
  let (result, state) ← next
  match result with
  | .error e => return (.error e, state)
  | .ok response =>
    let headers ← pending.apply a response.headers
    Traced.note (.count .cleared)
    Traced.note (.log (.cookiesExpired a.path response.status))
    return (.ok { response with headers }, state)

/-- A service inside a stack of clearers, the innermost first. -/
def clearingAll (layers : List Attributes) (inner : Service ρ σ ε) : Service ρ σ ε :=
  layers.foldl (fun service a => clearing a service) inner

end Session.Cookie
