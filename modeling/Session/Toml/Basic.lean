import Session.Decimal.Double

set_option autoImplicit false

/-! # TOML documents

A document is a table: names with values, in the order in which they first appear. Every value
knows where it stands in the text, and every table how it came to be, because this decides which
later lines may still add to it.
-/

namespace Session.Toml

/-- A piece of a text. A place in a text is told by how many characters follow it. -/
structure Span where
  start : Nat
  stop : Nat
deriving DecidableEq, Repr

inductive Scalar
  | string (s : String)
  | integer (n : Int)
  | float (x : Decimal.Double)
  | boolean (b : Bool)
  /-- A date, a time of day, or both. -/
  | moment
deriving DecidableEq, Repr

inductive Origin
  /-- A longer header names it on the way. -/
  | implied
  /-- A longer dotted key names it on the way. -/
  | dotted
  | header
  | inline
deriving DecidableEq, Repr

inductive Node
  | scalar (span : Span) (value : Scalar)
  | array (span : Span) (items : List Node)
  /-- Tables that share a name, each with a header in double brackets. -/
  | rows (span : Span) (items : List Node)
  | table (span : Span) (origin : Origin) (entries : List (String × Node))

/-- Names with values, in the order in which they first appear. -/
abbrev Entries := List (String × Node)

/-- Where the value stands: a table with a header from its header on to the last value below it,
and a table that is only named on the way at this name. -/
def Node.span : Node → Span
  | .scalar span _ => span
  | .array span _ => span
  | .rows span _ => span
  | .table span _ _ => span

def Entries.find? (es : Entries) (name : String) : Option Node := es.lookup name

def Entries.replace (es : Entries) (name : String) (node : Node) : Entries :=
  es.map fun e => if e.1 = name then (name, node) else e

def Entries.erase (es : Entries) (name : String) : Entries := es.filter fun e => e.1 ≠ name

/-- The entries with a new one at the end, unless the name is taken. -/
def Entries.add? (es : Entries) (name : String) (node : Node) : Option Entries :=
  match es.find? name with
  | none => some (es ++ [(name, node)])
  | some _ => none

end Session.Toml
