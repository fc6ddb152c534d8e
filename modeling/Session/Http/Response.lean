import Session.Http.Header
import Session.Http.Status

set_option autoImplicit false

/-! # Responses -/

namespace Session.Http

structure Response where
  status : Status
  headers : Headers := Headers.empty
  body : Bytes := []
deriving DecidableEq, Repr

namespace Response

def plainText : Value := ⟨utf8 "text/plain; charset=utf-8", by decide +kernel⟩

def json : Value := ⟨utf8 "application/json", by decide +kernel⟩

def empty (status : Status) : Response := { status }

def text (status : Status) (body : Bytes) : Response :=
  { status, headers := Headers.empty.append .contentType plainText, body }

def ofJson (status : Status) (body : Bytes) : Response :=
  { status, headers := Headers.empty.append .contentType json, body }

end Response

end Session.Http
