import Session.Body.Fault
import Session.Body.Limit
import Session.Http.Response
import Session.Journal

set_option autoImplicit false

/-! # Body errors

Why the body of a request could not be read, the text of each cause, and the response that it
turns into.
-/

namespace Session.Body

/-- Why a body could not be read. -/
inductive Error
  | stream (cause : Fault)
  /-- The body is larger than the reader's own limit, or than a limit further out if the reader
  has none. -/
  | tooLarge (limit : Option Nat)
  /-- The body is shorter or longer than declared. -/
  | lengthMismatch (expected received : Nat)
deriving DecidableEq, Repr

namespace Error

def message : Error → String
  | stream cause => "failed to read request body: " ++ cause.text
  | tooLarge none => "request body exceeds the size limit"
  | tooLarge (some n) => "request body exceeds the size limit of " ++ Text.decimal n ++ " bytes"
  | lengthMismatch expected received =>
      "request body length " ++ Text.decimal received ++ " does not match content-length "
        ++ Text.decimal expected

def outcome : Error → ReadOutcome
  | stream _ => .streamError
  | tooLarge _ => .tooLarge
  | lengthMismatch _ _ => .lengthMismatch

def status : Error → Http.Status
  | stream _ => .badRequest
  | tooLarge _ => .payloadTooLarge
  | lengthMismatch _ _ => .badRequest

def response (e : Error) : Http.Response := .text e.status (utf8 e.message)

/-- The error as the answer to a request, which is logged. -/
def reject (e : Error) : Traced Http.Response := ⟨e.response, .log (.bodyRejected e.message)⟩

/-- What a failure of the stream amounts to for a reader with this limit: a limit further out
shows up as a failure, and is reported as a body that is too large. -/
def ofFault (l : Limit) (f : Fault) : Error :=
  if f.reachesLengthLimit then tooLarge l.maxBytes else stream f

end Error

end Session.Body
