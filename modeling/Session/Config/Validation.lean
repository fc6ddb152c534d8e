import Session.Config.Basic
import Session.Log.Level
import Session.Net.Address
import Session.Text.Quoted

set_option autoImplicit false

/-! # Validation

A configuration is valid if each of its fields can be used: the addresses are addresses, the
limits allow something, the cookie attributes can be written into a directive and read back, and
the log level exists. Every field is judged on its own, and `problems` lists the bad ones in a
fixed order. The address of the metrics matters only if the metrics are on.
-/

namespace Session.Config

/-- What is wrong with a field; the offending value is kept where the field is a text. -/
inductive Problem
  | invalidBindAddress (value : String)
  | zeroBodyLimit
  | zeroRequestTimeout
  | invalidCookiePath (value : String)
  | invalidCookieDomain (value : String)
  | invalidLogLevel (value : String)
  | invalidMetricsAddress (value : String)
deriving DecidableEq, Repr

namespace Problem

def message : Problem → String
  | invalidBindAddress v => "listener.bind_address `" ++ v ++ "` is not a socket address"
  | zeroBodyLimit => "limits.max_body_bytes must be greater than zero"
  | zeroRequestTimeout => "limits.request_timeout_secs must be greater than zero"
  | invalidCookiePath v =>
      "cookies.path `" ++ v ++ "` must start with `/` and be writable as a cookie attribute"
  | invalidCookieDomain v => "cookies.domain `" ++ v
      ++ "` must be non-empty, contain no whitespace and be writable as a cookie attribute"
  | invalidLogLevel v => "observability.log_level `" ++ v
      ++ "` is not one of trace, debug, info, warn, error"
  | invalidMetricsAddress v =>
      "observability.metrics_address `" ++ v ++ "` is not a socket address"

def name : Problem → String
  | invalidBindAddress _ => "InvalidBindAddress"
  | zeroBodyLimit => "ZeroBodyLimit"
  | zeroRequestTimeout => "ZeroRequestTimeout"
  | invalidCookiePath _ => "InvalidCookiePath"
  | invalidCookieDomain _ => "InvalidCookieDomain"
  | invalidLogLevel _ => "InvalidLogLevel"
  | invalidMetricsAddress _ => "InvalidMetricsAddress"

def value? : Problem → Option String
  | invalidBindAddress v => some v
  | zeroBodyLimit => none
  | zeroRequestTimeout => none
  | invalidCookiePath v => some v
  | invalidCookieDomain v => some v
  | invalidLogLevel v => some v
  | invalidMetricsAddress v => some v

def summary (p : Problem) : String :=
  match p.value? with
  | some v => p.name ++ "(" ++ Text.Quoted.quote v ++ ")"
  | none => p.name

end Problem

/-! ## Fields -/

def isAddress (s : String) : Bool := (Net.Address.parse? s).isSome

/-- The path is absolute and survives being written into a directive. -/
def isCookiePath (path : String) : Bool :=
  path.toList.head? = some '/' && ({ path } : Cookie.Attributes).isWellFormed

/-- The domain is a word and survives being written into a directive. -/
def isCookieDomain (domain : String) : Bool :=
  !domain.isEmpty && !domain.toList.any Text.isBlank
    && ({ domain := some domain } : Cookie.Attributes).isWellFormed

def isLogLevel (s : String) : Bool := (Log.Level.parse? s).isSome

/-- Nothing if the field is good, else its problem. -/
def problemUnless (good : Bool) (p : Problem) : Option Problem := if good then none else some p

@[simp] theorem problemUnless_true (p : Problem) : problemUnless true p = none := rfl

@[simp] theorem problemUnless_false (p : Problem) : problemUnless false p = some p := rfl

theorem problemUnless_eq_none_iff {good : Bool} {p : Problem} :
    problemUnless good p = none ↔ good = true := by
  cases good <;> simp

/-- What each field has to say, in the order of the report. -/
def findings (c : Config) : List (Option Problem) :=
  [problemUnless (isAddress c.listener.bindAddress) (.invalidBindAddress c.listener.bindAddress),
   problemUnless (c.limits.maxBodyBytes ≠ 0) .zeroBodyLimit,
   problemUnless (c.limits.requestTimeout ≠ 0) .zeroRequestTimeout,
   problemUnless (isCookiePath c.cookies.path) (.invalidCookiePath c.cookies.path),
   c.cookies.domain.bind fun d => problemUnless (isCookieDomain d) (.invalidCookieDomain d),
   problemUnless (isLogLevel c.observability.logLevel)
     (.invalidLogLevel c.observability.logLevel),
   problemUnless (!c.observability.metricsEnabled || isAddress c.observability.metricsAddress)
     (.invalidMetricsAddress c.observability.metricsAddress)]

def problems (c : Config) : List Problem := c.findings.filterMap id

def isValid (c : Config) : Bool := c.problems.isEmpty

def messages (ps : List Problem) : String := ", ".intercalate (ps.map Problem.message)

theorem isValid_iff {c : Config} : c.isValid = true ↔ c.problems = [] := by
  simp [isValid]

end Session.Config
