import Session.Config.Basic
import Session.Config.Misfit

set_option autoImplicit false

/-! # Overlays

A document lies over the standard configuration: each value that it names replaces the standard
one, and unknown names mean nothing. A section is a table, or a list of its values in their fixed
order; a date or a time in its place says nothing. The first value that does not fit, in the order
of the document, ends the reading.
-/

namespace Session.Config

open Toml (Node Entries)

/-- A value, or the misfit in its place. -/
abbrev Fitted (α : Type) := Except Misfit α

/-! ## Values -/

def misfit {α : Type} (expected : Expectation) (node : Node) : Fitted α :=
  .error ⟨node.span, .kind node, expected⟩

def fitText : Node → Fitted String
  | .scalar _ (.string s) => .ok s
  | node => misfit .text node

def fitFlag : Node → Fitted Bool
  | .scalar _ (.boolean b) => .ok b
  | node => misfit .flag node

/-- A number that is not below zero. -/
def fitNumber (expected : Expectation) : Node → Fitted Nat
  | .scalar span (.integer n) =>
    if n < 0 then .error ⟨span, .negative n, expected⟩ else .ok n.toNat
  | node => misfit expected node

/-! ## Sections -/

/-- A named place in a configuration, or in a section of one, and how a value goes there. -/
structure Setting (σ : Type) where
  name : String
  put : Node → σ → Fitted σ

/-- Puts the values of a table into the places of their names. -/
def putEntries {σ : Type} (settings : List (Setting σ)) (es : Entries) (s : σ) : Fitted σ :=
  es.foldlM (fun s e => match settings.find? (·.name = e.1) with
    | some setting => setting.put e.2 s
    | none => .ok s) s

/-- Puts the values of a list into the places in their order. -/
def putItems {σ : Type} (settings : List (Setting σ)) (items : List Node) (s : σ) : Fitted σ :=
  (settings.zip items).foldlM (fun s p => p.1.put p.2 s) s

def putSection {σ : Type} (settings : List (Setting σ)) (expected : Expectation) (node : Node)
    (s : σ) : Fitted σ :=
  match node with
  | .table _ _ es => putEntries settings es s
  | .array _ items => putItems settings items s
  | .rows _ items => putItems settings items s
  | .scalar _ .moment => .ok s
  | _ => misfit expected node

def Listener.settings : List (Setting Listener) :=
  [⟨"bind_address", fun n l => return { l with bindAddress := ← fitText n }⟩]

def Limits.settings : List (Setting Limits) :=
  [⟨"max_body_bytes", fun n l => return { l with maxBodyBytes := ← fitNumber .byteCount n }⟩,
   ⟨"request_timeout_secs", fun n l => return { l with requestTimeout := ← fitNumber .seconds n }⟩]

def cookieSettings : List (Setting Cookie.Attributes) :=
  [⟨"path", fun n a => return { a with path := ← fitText n }⟩,
   ⟨"domain", fun n a => return { a with domain := some (← fitText n) }⟩]

def Observability.settings : List (Setting Observability) :=
  [⟨"log_level", fun n o => return { o with logLevel := ← fitText n }⟩,
   ⟨"json_logs", fun n o => return { o with jsonLogs := ← fitFlag n }⟩,
   ⟨"metrics_enabled", fun n o => return { o with metricsEnabled := ← fitFlag n }⟩,
   ⟨"metrics_address", fun n o => return { o with metricsAddress := ← fitText n }⟩]

def settings : List (Setting Config) :=
  [⟨"listener", fun n c => return { c with
      listener := ← putSection Listener.settings .listener n c.listener }⟩,
   ⟨"limits", fun n c => return { c with
      limits := ← putSection Limits.settings .limits n c.limits }⟩,
   ⟨"cookies", fun n c => return { c with
      cookies := ← putSection cookieSettings .cookies n c.cookies }⟩,
   ⟨"observability", fun n c => return { c with
      observability := ← putSection Observability.settings .observability n c.observability }⟩]

/-- The standard configuration with the values of a document over it. -/
def overlay (es : Entries) : Fitted Config := putEntries settings es standard

end Session.Config
