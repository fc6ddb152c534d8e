import Session.Text.Scan

set_option autoImplicit false

/-! # Blanks, line ends and comments

What stands between the parts of a document. A line ends with a line feed, which a carriage
return may precede, or with the text. A comment runs from `#` to the end of its line.
-/

namespace Session.Toml

open Text (Scan)

def isBlank (c : Char) : Bool := c = ' ' || c = '\t'

def blanks : Scan Unit := discard (Scan.takeWhile isBlank)

/-- A tab or a character with a visible form; the control characters are excluded. -/
def isPlain (c : Char) : Bool := c = '\t' || (0x20 ≤ c.toNat && c.toNat ≠ 0x7F)

/-- The end of a line that another line follows. -/
def lineBreak : Scan Unit := Scan.char '\n' <|> Scan.text ['\r', '\n']

def comment : Scan Unit := do
  Scan.char '#'
  discard (Scan.takeWhile isPlain)

def lineEnd : Scan Unit := do
  blanks
  discard (Scan.optional? comment)
  if ← Scan.atEnd then return
  lineBreak

def filler : Scan Unit := do
  blanks
  discard (Scan.many do
    discard (Scan.optional? comment)
    lineBreak
    blanks)

end Session.Toml
