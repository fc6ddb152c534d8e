import Session.Body.Reader
import Session.Http.Header

set_option autoImplicit false

/-! # The body of a request

A request may declare how long its body is. A declared length above the limit is refused before
anything is read, and any other declared length has to be met exactly.
-/

namespace Session.Body

/-- The length that the header fields declare: the first `content-length` value, if it is plain
ASCII and, without the blanks around it, an unsigned number of 64 bits. -/
def declaredLength (h : Http.Headers) : Option Nat := do
  let value ← h.get? .contentLength
  let text ← value.ascii?
  Text.readUnsigned? Text.maxUnsigned (Text.trim text)

def readRequest (limit : Limit) (h : Http.Headers) (s : Stream) : Reading :=
  let expected := declaredLength h
  match expected.bind limit.exceededBy with
  | some max => ⟨.error (.tooLarge (some max)), 0, 0⟩
  | none => Reader.run { limit, expected } s

def Reading.journal (r : Reading) : Journal :=
  match r.result with
  | .ok bytes => .count (.bodyRead .ok bytes.length)
  | .error e => .log (.bodyReadFailed e.message) ++ .count (.bodyRead e.outcome 0)

/-- The body of a request as text, logged and counted. -/
def readRequestText (limit : Limit) (h : Http.Headers) (s : Stream) :
    Traced (Except Error String) :=
  let reading := readRequest limit h s
  ⟨reading.result.map textOf, reading.journal⟩

end Session.Body
