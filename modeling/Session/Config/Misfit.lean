import Session.Decimal.Shortest
import Session.Text.Quoted
import Session.Toml.Basic

set_option autoImplicit false

/-! # Misfits

A value of a document that cannot be what the configuration has in its place.
-/

namespace Session.Config

/-- What the configuration has in a place. -/
inductive Expectation
  | listener
  | limits
  | cookies
  | observability
  | byteCount
  | seconds
  | flag
  | text
deriving DecidableEq, Repr

def Expectation.name : Expectation → String
  | listener => "struct ListenerConfig"
  | limits => "struct LimitsConfig"
  | cookies => "struct CookieConfig"
  | observability => "struct ObservabilityConfig"
  | byteCount => "usize"
  | seconds => "u64"
  | flag => "a boolean"
  | text => "a string"

inductive Mismatch
  | kind (found : Toml.Node)
  | negative (n : Int)

structure Misfit where
  span : Toml.Span
  mismatch : Mismatch
  expected : Expectation

def integerText (n : Int) : String :=
  if n < 0 then "-" ++ Text.decimal n.natAbs else Text.decimal n.natAbs

/-- How a report names a value: by its kind, and a scalar by its value as well. -/
def nodeText : Toml.Node → String
  | .scalar _ (.string s) => "string " ++ Text.Quoted.quote s
  | .scalar _ (.integer n) => "integer `" ++ integerText n ++ "`"
  | .scalar _ (.float x) => "floating point `" ++ String.ofList x.text ++ "`"
  | .scalar _ (.boolean b) => "boolean `" ++ (if b then "true" else "false") ++ "`"
  | .scalar _ .moment => "map"
  | .array _ _ => "sequence"
  | .rows _ _ => "sequence"
  | .table _ _ _ => "map"

def Misfit.message (m : Misfit) : String :=
  let what := match m.mismatch with
    | .kind found => "invalid type: " ++ nodeText found
    | .negative n => "invalid value: integer `" ++ integerText n ++ "`"
  what ++ ", expected " ++ m.expected.name

end Session.Config
