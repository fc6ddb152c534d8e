import Session.Text.Numeral

set_option autoImplicit false

/-! # Log levels

How severe an event is, the five names in any ASCII case, and the numbers 1 (error) to 5
(trace) that may stand for them.
-/

namespace Session.Log

inductive Level
  | error
  | warn
  | info
  | debug
  | trace
deriving DecidableEq, Repr

namespace Level

/-- The name in a log line. -/
def label : Level → String
  | error => "ERROR"
  | warn => "WARN"
  | info => "INFO"
  | debug => "DEBUG"
  | trace => "TRACE"

/-- From 1 for errors to 5 for the finest detail. -/
def rank : Level → Nat
  | error => 1
  | warn => 2
  | info => 3
  | debug => 4
  | trace => 5

def all : List Level := [error, warn, info, debug, trace]

/-- The level that a name, in any ASCII case, stands for. -/
def ofName? (s : String) : Option Level :=
  all.find? fun l => s.toList.map Char.toLower == l.label.toList.map Char.toLower

def ofRank? (n : Nat) : Option Level := all.find? fun l => l.rank == n

/-- The level that a text names, by its name or by its rank. -/
def parse? (s : String) : Option Level :=
  match Text.readUnsigned? Text.maxUnsigned s.toList with
  | some n => ofRank? n
  | none => ofName? s

end Level

end Session.Log
