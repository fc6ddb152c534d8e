import Session.Toml.Moment
import Session.Toml.Number
import Session.Toml.Table

set_option autoImplicit false

/-! # Reading documents

A document is a list of lines: pairs of a key and a value, headers, comments and empty lines. The
pairs before the first header belong to the document itself, the others to the table of the header
above them. A byte order mark at the very start is passed over.
-/

namespace Session.Toml

open Text (Scan)

/-! ## Values -/

def scalar : Scan Scalar := do
  match ← Scan.peek? with
  | some '"' => string
  | some '\x27' => string
  | some 't' => do Scan.text "true".toList; return .boolean true
  | some 'f' => do Scan.text "false".toList; return .boolean false
  | _ =>
    (do Moment.scan; return .moment)
    <|> Scalar.float <$> float
    <|> Scalar.integer <$> integer
where
  string : Scan Scalar := do
    let s ← Quoted.lines <|> Quoted.line
    return .string (String.ofList s)

/-- Items with a comma behind each but perhaps the last, and whether the last has one. -/
def separated {α : Type} (gap : Scan Unit) (p : Scan α) : Scan (List α × Bool) := do
  gap
  let items ← Scan.many do
    let a ← p
    gap
    let hasComma ← Scan.found (Scan.char ',')
    gap
    return (a, hasComma)
  Scan.check (items.dropLast.all Prod.snd)
  return (items.map Prod.fst, items.getLast?.any Prod.snd)

/-- An array of values, with line breaks and comments wherever blanks may be. -/
def array (value : Scan Node) : Scan (List Node) := do
  Scan.char '['
  let (items, _) ← separated filler value
  Scan.char ']'
  return items

def pair (value : Scan Node) : Scan (Key × Node) := do
  let k ← key
  blanks
  Scan.char '='
  blanks
  return (k, ← value)

/-- A table between braces, on one line. -/
def inlineTable (value : Scan Node) : Scan Entries := do
  Scan.char '\x7b'
  let (pairs, hasLastComma) ← separated blanks (pair value)
  Scan.check !hasLastComma
  Scan.char '\x7d'
  let es ← (Entries.insertAll? [] pairs : Option Entries)
  return es

/-- A value with at most so many arrays and tables around any of its parts, itself included. -/
def value : Nat → Scan Node
  | 0 => do
    let (s, span) ← spanned scalar
    return .scalar span s
  | depth + 1 => do
    match ← Scan.peek? with
    | some '[' => do
      let (items, span) ← spanned (array (value depth))
      return .array span items
    | some '\x7b' => do
      let (es, span) ← spanned (inlineTable (value depth))
      return .table span .inline es
    | _ => do
      let (s, span) ← spanned scalar
      return .scalar span s

/-! ## Lines -/

inductive Line
  | pair (key : Key) (value : Node)
  | header (h : Header)
  | empty

def header : Scan Header := do
  let ((k, isRow), span) ← spanned do
    Scan.char '['
    let isRow ← Scan.found (Scan.char '[')
    blanks
    let k ← key
    blanks
    Scan.char ']'
    if isRow then Scan.char ']'
    return (k, isRow)
  return ⟨k, isRow, span⟩

def line : Scan Line := do
  Scan.check !(← Scan.atEnd)
  blanks
  let l ← match ← Scan.peek? with
    | some '[' => Line.header <$> header
    | some c =>
      if c = '#' || c = '\n' || c = '\r' then pure .empty
      else do
        let (k, v) ← pair (value (maxDepth - 1))
        pure (.pair k v)
    | none => pure .empty
  lineEnd
  return l

/-! ## Tables -/

/-- The pairs in front of the first header, and each header with the pairs below it. -/
def sections : List Line → List (Key × Node) × List (Header × List (Key × Node))
  | [] => ([], [])
  | .empty :: rest => sections rest
  | .pair k v :: rest =>
    let (pairs, headed) := sections rest
    ((k, v) :: pairs, headed)
  | .header h :: rest =>
    let (pairs, headed) := sections rest
    ([], (h, pairs) :: headed)

/-- The document that the lines make up, unless a name is defined twice. -/
def ofLines? (lines : List Line) : Option Entries := do
  let (pairs, headed) := sections lines
  let root ← Entries.insertAll? [] pairs
  headed.foldlM (fun es s => es.addTable? s.1 s.2) root

/-- The text without a byte order mark. -/
def withoutMark : List Char → List Char
  | '\uFEFF' :: s => s
  | s => s

def parse? (s : List Char) : Option Entries := do
  let lines ← (Scan.many line).whole? (withoutMark s)
  ofLines? lines

end Session.Toml
