import Session.Server.Router

set_option autoImplicit false

/-! # Messages on the wire

What goes over a connection that carries one request and one response. A body is sent either with
its length or in chunks, and every response says that the connection ends with it. A response
carries the length of its body, but an answer without content has none to tell, and neither has
one that leads to nothing and shows no body.
-/

namespace Session.Server

/-! ## Requests -/

inductive Sent
  | nothing
  /-- Behind its length. -/
  | measured (bytes : Bytes)
  /-- In chunks; empty ones are left out. -/
  | chunked (chunks : List Bytes)
deriving DecidableEq, Repr

def localhost : Http.Value := ⟨utf8 "localhost", by decide +kernel⟩

/-- The connection ends with the message. -/
def closing : Http.Value := ⟨utf8 "close", by decide +kernel⟩

def inChunks : Http.Value := ⟨utf8 "chunked", by decide +kernel⟩

/-- The header fields of a request with such a body. -/
def Sent.headers (s : Sent) (given : Http.Headers) : Http.Headers :=
  let framed := ⟨[(.host, localhost), (.connection, closing)] ++ given.fields⟩
  match s with
  | .nothing => framed
  | .measured bytes => framed.append .contentLength (lengthValue bytes.length)
  | .chunked _ => framed.append .transferEncoding inChunks

def Sent.stream : Sent → Body.Stream
  | .nothing => []
  | .measured bytes => if bytes.isEmpty then [] else [.chunk bytes]
  | .chunked chunks => (chunks.filter fun c => !c.isEmpty).map .chunk

/-! ## Responses -/

def statusLine (s : Http.Status) : String := "HTTP/1.1 " ++ s.text

/-- The response as it goes over the connection. -/
def framed (method : String) (r : Http.Response) : Http.Response :=
  let headers := r.headers.append .connection closing
  let isHead := method = "HEAD"
  let headers :=
    if r.status = .noContent then
      let bare := headers.remove .contentLength
      if isHead then bare.append .contentLength (lengthValue 0) else bare
    else if isHead && r.status = .notFound then headers.remove .contentLength
    else headers.appendIfAbsent .contentLength (lengthValue r.body.length)
  { r with headers }

end Session.Server
