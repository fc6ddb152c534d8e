import Session.Log.Event

set_option autoImplicit false

/-! # Log lines

An event as a line of the log, without its time: either plain, the message followed by
`name=value` for each field, or a JSON document, in which numbers are numbers and everything else
is a string.
-/

namespace Session.Log

inductive Format
  | plain
  | json
deriving DecidableEq, Repr

/-- The letter that stands for a character behind a backslash in a JSON string. -/
def jsonLetter? : Char → Option Char
  | '"' => some '"'
  | '\\' => some '\\'
  | '\x08' => some 'b'
  | '\x0c' => some 'f'
  | '\n' => some 'n'
  | '\r' => some 'r'
  | '\t' => some 't'
  | _ => none

/-- One character of a JSON string: control characters are escaped, all others stand as they
are. -/
def jsonChar (c : Char) : List Char :=
  match jsonLetter? c with
  | some l => ['\\', l]
  | none =>
    if c.toNat < 0x20 then
      let digits := Text.digitsIn 16 c.toNat
      ['\\', 'u'] ++ List.replicate (4 - digits.length) '0' ++ digits
    else [c]

def jsonString (s : String) : String :=
  "\"" ++ String.ofList (s.toList.flatMap jsonChar) ++ "\""

def Field.json : Field → String
  | text s => jsonString s
  | number n => Text.decimal n

/-- A JSON object of names and written values. -/
def jsonObject (members : List (String × String)) : String :=
  "\x7b" ++ ",".intercalate (members.map fun m => jsonString m.1 ++ ":" ++ m.2) ++ "\x7d"

namespace Event

def jsonLine (e : Event) : String :=
  let fields := ("message", jsonString e.message) :: e.fields.map fun f => (f.1, f.2.json)
  jsonObject [("level", jsonString e.level.label), ("fields", jsonObject fields),
    ("target", jsonString e.target)]

def plainLine (e : Event) : String :=
  " ".intercalate ([e.level.label, e.target ++ ":", e.message]
    ++ e.fields.map fun f => f.1 ++ "=" ++ f.2.show)

def line (format : Format) (e : Event) : String :=
  match format with
  | .plain => e.plainLine
  | .json => e.jsonLine

end Event

end Session.Log
