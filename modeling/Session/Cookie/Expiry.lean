import Session.Cookie.Attributes
import Session.Journal

set_option autoImplicit false

/-! # Expiring cookies

Cookies are expired in one of two ways: directly on the headers of a response, or first by name
(`Pending`), before there is a response, and applied to it later. Applied directives stand in
front of what the response sets itself, so a cookie that is set again still wins on the client.
Neither way writes a directive twice, and a name that gives no valid header value is skipped
with a warning.
-/

namespace Session.Cookie

/-! ## Directives -/

namespace Attributes

/-- The header values that expire the cookies of these names. A name that gives none is
skipped. -/
def expiries (a : Attributes) (names : List String) : List Http.Value :=
  names.filterMap a.expiry?

/-- The warnings about names that give no header value. -/
def warnings (a : Attributes) (names : List String) : Journal where
  events := (names.filter fun n => (a.expiry? n).isNone).map .directiveIgnored

end Attributes

/-! ## On the headers of a response -/

/-- Writes a directive, unless the very same one is there already. -/
def writeOnce (h : Http.Headers) (v : Http.Value) : Http.Headers :=
  if v ∈ h.getAll .setCookie then h else h.append .setCookie v

def expireOn (a : Attributes) (name : String) (h : Http.Headers) : Traced Http.Headers :=
  ⟨(a.expiries [name]).foldl writeOnce h, a.warnings [name]⟩

/-! ## By name, for a response to come -/

/-- The names of the cookies to expire, each once, in the order of their recording. -/
structure Pending where
  names : List String := []
deriving DecidableEq, Repr

namespace Pending

def record (p : Pending) (name : String) : Pending :=
  if name ∈ p.names then p else ⟨p.names ++ [name]⟩

/-- Writes the recorded expiries in front of the cookies that the response sets. A directive
that the response has already is not repeated behind them. -/
def apply (p : Pending) (a : Attributes) (h : Http.Headers) : Traced Http.Headers :=
  let directives := a.expiries p.names
  -- the cookies that were there are taken out and written again behind the directives
  let own := (h.getAll .setCookie).filter fun v => v ∉ directives
  let cleared := directives.foldl writeOnce (h.remove .setCookie)
  ⟨own.foldl (fun h v => h.append .setCookie v) cleared, a.warnings p.names⟩

end Pending

/-! ## The user cookies -/

/-- Expires the user cookies, whatever expiring is, then goes on; the result is that of going
on. -/
def clearUserCookies {m : Type → Type} [Monad m] {α : Type} (expire : String → m Unit)
    (proceed : m α) : m α := do
  userCookies.forM expire
  proceed

/-- Expires the user cookies on the headers of a response. -/
def clearOn (a : Attributes) (h : Http.Headers) : Traced Http.Headers := do
  let (_, h) ← (clearUserCookies (fun name => do set (← liftM (expireOn a name (← get))))
    (pure ()) : StateT Http.Headers Traced Unit).run h
  return h

/-- Records the user cookies, then goes on. -/
def Pending.clear {α : Type} (p : Pending) (proceed : Unit → α) : α × Pending :=
  (clearUserCookies (fun name => modify (·.record name)) (do return proceed ()) :
    StateM Pending α).run p

end Session.Cookie
