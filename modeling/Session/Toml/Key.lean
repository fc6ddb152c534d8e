import Session.Toml.Basic
import Session.Toml.Quoted

set_option autoImplicit false

/-! # Keys

A key is a list of names with dots between them. A name is a bare word or a quoted string on one
line.
-/

namespace Session.Toml

open Text (Scan)

structure Part where
  name : String
  span : Span
deriving DecidableEq, Repr

/-- A key has fewer parts than this. -/
def maxDepth : Nat := 80

def isWordChar (c : Char) : Bool := c.isAlphanum || c = '_' || c = '-'

/-- The value and the piece of the text that it was read from. -/
def spanned {α : Type} (p : Scan α) : Scan (α × Span) := do
  let start ← Scan.left
  let a ← p
  return (a, ⟨start, ← Scan.left⟩)

def part : Scan Part := do
  let (name, span) ← spanned (Quoted.line <|> Scan.takeWhile1 isWordChar)
  return ⟨String.ofList name, span⟩

/-- A key: the parts on the way, and the last one. -/
structure Key where
  parents : List Part
  last : Part
deriving DecidableEq, Repr

def Key.ofParts : Part → List Part → Key
  | first, [] => ⟨[], first⟩
  | first, next :: rest =>
    let k := Key.ofParts next rest
    ⟨first :: k.parents, k.last⟩

/-- A key with blanks around its dots. -/
def key : Scan Key := do
  let first ← part
  let rest ← Scan.many (do blanks; Scan.char '.'; blanks; part)
  Scan.check (rest.length + 1 < maxDepth)
  return .ofParts first rest

end Session.Toml
