import Session.Config.Overlay
import Session.Config.Validation
import Session.Toml.Document
import Session.Toml.Excerpt

set_option autoImplicit false

/-! # Reading a configuration

A text is read as a document, laid over the standard configuration, and validated. Each stage
comes only after the one before it has succeeded.
-/

namespace Session.Config

inductive ParseError
  | syntaxError
  /-- A value does not fit; the report points at it. -/
  | misfit (report : String)
  | invalid (problems : List Problem)
deriving DecidableEq, Repr

def ParseError.message : ParseError → String
  | syntaxError => "parse error: not a TOML document"
  | misfit report => "parse error: " ++ report
  | invalid ps => "validation failed: " ++ messages ps

/-- The configuration, unless something is wrong with it. -/
def validated (c : Config) : Except ParseError Config :=
  if c.isValid then .ok c else .error (.invalid c.problems)

/-- What is accepted is valid, and it is what was given. -/
theorem validated_eq_ok_iff {c d : Config} : c.validated = .ok d ↔ c.isValid = true ∧ d = c := by
  unfold validated
  split
  · next h => simp [h, eq_comm]
  · next h => simp [h]

/-- The configuration that a text describes. -/
def parse (text : String) : Except ParseError Config :=
  match Toml.parse? text.toList with
  | none => .error .syntaxError
  | some document =>
    match overlay document with
    | .error m => .error (.misfit (Toml.excerpt text.toList m.span m.message))
    | .ok c => c.validated

end Session.Config
