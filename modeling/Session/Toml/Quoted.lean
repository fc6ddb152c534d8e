import Session.Toml.Blank

set_option autoImplicit false

/-! # Strings

Strings stand between double quotes, where a backslash begins an escape, or between single
quotes, where every character stands for itself. Three quotes enclose text of several lines: a
line break right behind the first ones does not count, a carriage return before a line feed is
dropped, and up to two quotes may stand anywhere, also in front of the last three. Between double
quotes a backslash at the end of a line takes away the line break and all blanks behind it.
-/

namespace Session.Toml.Quoted

open Text (Scan)

def escaped? : Char → Option Char
  | 'b' => some '\x08'
  | 't' => some '\t'
  | 'n' => some '\n'
  | 'f' => some '\x0c'
  | 'r' => some '\r'
  | '"' => some '"'
  | '\\' => some '\\'
  | _ => none

/-- The character of a number in hexadecimal digits; surrogates are no characters. -/
def numbered? (digits : List Char) : Option Char := do
  let ds ← digits.mapM Text.hexDigit?
  let n := ds.foldl (fun n d => n * 16 + d) 0
  if n.isValidChar then some (Char.ofNat n) else none

/-- The text up to the closing double quote, with escapes replaced, and the rest. -/
def basicLine : List Char → Option (List Char × List Char)
  | '"' :: s => some ([], s)
  | '\\' :: 'u' :: a :: b :: c :: d :: s => do
    let x ← numbered? [a, b, c, d]
    let (text, rest) ← basicLine s
    return (x :: text, rest)
  | '\\' :: 'U' :: a :: b :: c :: d :: e :: f :: g :: h :: s => do
    let x ← numbered? [a, b, c, d, e, f, g, h]
    let (text, rest) ← basicLine s
    return (x :: text, rest)
  | '\\' :: l :: s => do
    let x ← escaped? l
    let (text, rest) ← basicLine s
    return (x :: text, rest)
  | c :: s => do
    if c ≠ '\\' && isPlain c then
      let (text, rest) ← basicLine s
      return (c :: text, rest)
    else none
  | [] => none

inductive Mode
  | inside
  /-- Behind a backslash and blanks, where the line must end. -/
  | ending
  /-- Behind a line break that does not count, among more blanks. -/
  | skipping
deriving DecidableEq, Repr

/-- The text up to three double quotes, with escapes replaced, and the rest. -/
def basicLines : Mode → List Char → Option (List Char × List Char)
  | .ending, '\r' :: '\n' :: s => basicLines .skipping s
  | .ending, c :: s =>
    if c = '\n' then basicLines .skipping s
    else if isBlank c then basicLines .ending s
    else none
  | .skipping, ' ' :: s => basicLines .skipping s
  | .skipping, '\t' :: s => basicLines .skipping s
  | .skipping, '\n' :: s => basicLines .skipping s
  | .skipping, '\r' :: '\n' :: s => basicLines .skipping s
  | _, '"' :: '"' :: '"' :: '"' :: '"' :: s => some (['"', '"'], s)
  | _, '"' :: '"' :: '"' :: '"' :: s => some (['"'], s)
  | _, '"' :: '"' :: '"' :: s => some ([], s)
  | _, '\\' :: 'u' :: a :: b :: c :: d :: s => do
    let x ← numbered? [a, b, c, d]
    let (text, rest) ← basicLines .inside s
    return (x :: text, rest)
  | _, '\\' :: 'U' :: a :: b :: c :: d :: e :: f :: g :: h :: s => do
    let x ← numbered? [a, b, c, d, e, f, g, h]
    let (text, rest) ← basicLines .inside s
    return (x :: text, rest)
  | _, '\\' :: '\r' :: '\n' :: s => basicLines .skipping s
  | _, '\\' :: l :: s =>
    match escaped? l with
    | some x => do
      let (text, rest) ← basicLines .inside s
      return (x :: text, rest)
    | none =>
      if l = '\n' then basicLines .skipping s
      else if isBlank l then basicLines .ending s
      else none
  | _, '\r' :: '\n' :: s => do
    let (text, rest) ← basicLines .inside s
    return ('\n' :: text, rest)
  | _, c :: s => do
    if c = '\n' || (c ≠ '\\' && isPlain c) then
      let (text, rest) ← basicLines .inside s
      return (c :: text, rest)
    else none
  | _, [] => none

/-- The text up to three single quotes, and the rest. -/
def literalLines : List Char → Option (List Char × List Char)
  | '\x27' :: '\x27' :: '\x27' :: '\x27' :: '\x27' :: s => some (['\x27', '\x27'], s)
  | '\x27' :: '\x27' :: '\x27' :: '\x27' :: s => some (['\x27'], s)
  | '\x27' :: '\x27' :: '\x27' :: s => some ([], s)
  | '\r' :: '\n' :: s => do
    let (text, rest) ← literalLines s
    return ('\n' :: text, rest)
  | c :: s => do
    if c = '\n' || isPlain c then
      let (text, rest) ← literalLines s
      return (c :: text, rest)
    else none
  | [] => none

/-- A string on one line, which is all that a key may be. -/
def line : Scan (List Char) :=
  (do Scan.char '"'; basicLine)
  <|> do
    Scan.char '\x27'
    let s ← Scan.takeWhile fun c => c ≠ '\x27' && isPlain c
    Scan.char '\x27'
    return s

def lines : Scan (List Char) :=
  (do
    Scan.text ['"', '"', '"']
    discard (Scan.optional? lineBreak)
    basicLines .inside)
  <|> do
    Scan.text ['\x27', '\x27', '\x27']
    discard (Scan.optional? lineBreak)
    literalLines

end Session.Toml.Quoted
