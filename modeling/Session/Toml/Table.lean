import Session.Toml.Key

set_option autoImplicit false

/-! # Building tables

How a key with a value and a header change a table. A dotted key passes through tables that exist
only because keys or headers name them on the way, and ends in one that such a key made. A header
passes through every table that is not written between braces. Both enter the last one of tables
that share a name, and both make the tables that are missing on the way.
-/

namespace Session.Toml

/-- What leads through tables. -/
inductive Route
  | byKey
  | byHeader
deriving DecidableEq, Repr

namespace Route

/-- What a missing table becomes. -/
def makes : Route → Origin
  | byKey => .dotted
  | byHeader => .implied

def passes : Route → Origin → Bool
  | _, .implied => true
  | _, .dotted => true
  | byHeader, .header => true
  | byKey, .header => false
  | _, .inline => false

end Route

/-- Tables that share a name, from where the first one begins to where the last one ends. -/
def rowsOf (items : List Node) : Node :=
  let start := (items.head?.map fun n => n.span.start).getD 0
  let stop := (items.getLast?.map fun n => n.span.stop).getD 0
  .rows ⟨start, stop⟩ items

/-- Changes the table at the end of a way; `f` is told how this table came to be. -/
def Entries.within (route : Route) (f : Origin → Entries → Option Entries) :
    List Part → Origin → Entries → Option Entries
  | [], origin, es => f origin es
  | p :: way, _, es =>
    match es.find? p.name with
    | none => do
      let inner ← Entries.within route f way route.makes []
      es.add? p.name (.table p.span route.makes inner)
    | some (.table span origin inner) => do
      if route.passes origin then
        let inner ← Entries.within route f way origin inner
        return es.replace p.name (.table span origin inner)
      else none
    | some (.rows _ items) =>
      match items.getLast? with
      | some (.table span origin inner) => do
        let inner ← Entries.within route f way origin inner
        return es.replace p.name (rowsOf (items.dropLast ++ [.table span origin inner]))
      | _ => none
    | some _ => none

def Entries.insert? (es : Entries) (k : Key) (value : Node) : Option Entries :=
  let place (origin : Origin) (inner : Entries) : Option Entries :=
    if k.parents ≠ [] ∧ origin ≠ .dotted then none else inner.add? k.last.name value
  es.within .byKey place k.parents .header

def Entries.insertAll? (es : Entries) (pairs : List (Key × Node)) : Option Entries :=
  pairs.foldlM (fun es p => es.insert? p.1 p.2) es

/-- A header: a key in single brackets, or in double brackets for one of several tables. -/
structure Header where
  key : Key
  isRow : Bool
  span : Span
deriving DecidableEq, Repr

/-- Where the table of a header stands: from the header to the end of the last value below it. -/
def Header.extent (h : Header) (pairs : List (Key × Node)) : Span where
  start := h.span.start
  stop := (pairs.getLast?.map fun p => p.2.span.stop).getD h.span.stop

/-- The entries with the table of a header. A table may have been named before only on the way of
longer headers; it then moves to the end. -/
def Entries.addTable? (es : Entries) (h : Header) (pairs : List (Key × Node)) : Option Entries :=
  let name := h.key.last.name
  let place (_ : Origin) (inner : Entries) : Option Entries :=
    if h.isRow then do
      let row := Node.table (h.extent pairs) .header (← Entries.insertAll? [] pairs)
      match inner.find? name with
      | none => inner.add? name (rowsOf [row])
      | some (.rows _ items) => return inner.replace name (rowsOf (items ++ [row]))
      | some _ => none
    else
      match inner.find? name with
      | none => do
        inner.add? name (.table (h.extent pairs) .header (← Entries.insertAll? [] pairs))
      | some (.table _ .implied known) => do
        (inner.erase name).add? name
          (.table (h.extent pairs) .header (← Entries.insertAll? known pairs))
      | some _ => none
  es.within .byHeader place h.key.parents .header

end Session.Toml
