import Session.Body.Request
import Session.Config.Basic
import Session.Cookie.Clearing
import Session.Server.Request

set_option autoImplicit false

/-! # Endpoints

What the server offers: `/health` says that it is alive, `/echo` sends the text of the body
back, and `/logout` signs the user out. A method and a path lead to one of them, and each gives
its answer together with the time at which it is ready.
-/

namespace Session.Server

inductive Endpoint
  | health
  | echo
  | logout
  /-- The path is known, but not for this method; the methods that it takes. -/
  | wrongMethod (allowed : Http.Value)
  | missing
deriving DecidableEq, Repr

namespace Endpoint

def healthMethods : Http.Value := ⟨utf8 "GET,HEAD", by decide +kernel⟩

def echoMethods : Http.Value := ⟨utf8 "POST", by decide +kernel⟩

/-- The endpoint of a method and a path. A path is matched as it stands, and so is a method. -/
def ofRequest (r : Request) : Endpoint :=
  match String.ofList r.path, r.method with
  | "/health", "GET" => health
  | "/health", "HEAD" => health
  | "/health", _ => wrongMethod healthMethods
  | "/echo", "POST" => echo
  | "/echo", _ => wrongMethod echoMethods
  | "/logout", _ => logout
  | _, _ => missing

end Endpoint

/-- A value that is ready after so many milliseconds. -/
structure Timed (α : Type) where
  value : α
  after : Nat
deriving Repr

def healthDocument : Bytes := utf8 "\x7b\"status\":\"ok\"\x7d"

/-- The text of the body, or the response that its error turns into. -/
def echoBack (limit : Body.Limit) (headers : Http.Headers) (body : Body.Stream) :
    Timed (Traced Http.Response) where
  value := do
    match ← Body.readRequestText limit headers body with
    | .ok text =>
      let bytes := utf8 text
      Traced.note (.log (.bodyEchoed bytes.length))
      return .text .ok bytes
    | .error e => e.reject
  after := (Body.readRequest limit headers body).waited

def signOut (a : Cookie.Attributes) : Traced Http.Response := do
  let done : Cookie.Service Unit Unit Empty := fun _ _ => return (.ok (.empty .noContent), ())
  match (← Cookie.clearing a done () ()).1 with
  | .ok response => return response
  | .error e => nomatch e

/-- The answer of an endpoint to a request whose body arrives as the stream does. -/
def Endpoint.answer (e : Endpoint) (config : Config) (r : Request) (body : Body.Stream) :
    Timed (Traced Http.Response) :=
  match e with
  | .health => ⟨return .ofJson .ok healthDocument, 0⟩
  | .echo => echoBack config.bodyLimit r.headers body
  | .logout => ⟨signOut config.cookies, 0⟩
  | .wrongMethod _ => ⟨return .empty .methodNotAllowed, 0⟩
  | .missing => ⟨return .empty .notFound, 0⟩

end Session.Server
