import Session.Text.Numeral
import Session.Text.Pieces
import Session.Toml.Basic

set_option autoImplicit false

/-! # Excerpts

How a report points at a piece of a text: the number of the line and of the column where it
begins, both counted from 1 in characters, then this line and below it one caret for each byte of
the piece, as far as the line goes, and at least one.
-/

namespace Session.Toml

def byteLength (s : List Char) : Nat := s.foldl (fun n c => n + c.utf8Size) 0

/-- A place in a text: the lines before it and the characters of its line before it. -/
structure Place where
  line : Nat
  column : Nat
  /-- The line that the place is on. -/
  content : List Char
deriving DecidableEq, Repr

def Place.ofOffset (text : List Char) (offset : Nat) : Place :=
  let before := Text.pieces '\n' (text.take offset)
  let line := before.length - 1
  { line
    column := (before.getLast?.getD []).length
    content := ((Text.pieces '\n' text)[line]?).getD [] }

/-- The report of a finding about a piece of a text. -/
def excerpt (text : List Char) (span : Span) (finding : String) : String :=
  let place := Place.ofOffset text (text.length - span.start)
  let number := Text.decimal (place.line + 1)
  let margin := String.ofList (List.replicate number.length ' ') ++ " |"
  let piece := (text.drop (text.length - span.start)).take (span.start - span.stop)
  let carets := max 1 (min (byteLength piece) (byteLength place.content - place.column))
  "TOML parse error at line " ++ number ++ ", column " ++ Text.decimal (place.column + 1) ++ "\n"
    ++ margin ++ "\n"
    ++ number ++ " | " ++ String.ofList place.content ++ "\n"
    ++ margin ++ " " ++ String.ofList (List.replicate place.column ' ')
    ++ String.ofList (List.replicate carets '^') ++ "\n"
    ++ finding ++ "\n"

end Session.Toml
