import Session.Body.Stream
import Session.Http.Target

set_option autoImplicit false

/-! # Requests -/

namespace Session.Server

structure Request where
  /-- The method, a token whose case matters. -/
  method : String
  path : List Char
  headers : Http.Headers
  body : Body.Stream
deriving DecidableEq, Repr

/-- The request for a target, if the method is a token and the target can be read. -/
def Request.ofTarget? (method target : String) (headers : Http.Headers) (body : Body.Stream) :
    Option Request :=
  if Http.isToken method.toList then
    (Http.Target.path? target.toList).map fun path => { method, path, headers, body }
  else none

end Session.Server
