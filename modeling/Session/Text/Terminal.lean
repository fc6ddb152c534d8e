import Session.Text.Utf8

set_option autoImplicit false

/-! # Terminal text

What is left of a text when it is shown without styles. Control sequences are taken out, and so
are control characters other than white space.

A sequence begins with the escape character, and the bytes behind it tell how far it goes
(`Stage`). White space in the middle of one is shown, and so is what follows it, up to the next
control character; there the sequence goes on.
-/

namespace Session.Text.Terminal

/-- Where in a control sequence a byte stands. -/
inductive Stage
  | outside
  | escape
  /-- Behind the escape character and further bytes, before a final one. -/
  | intermediate
  /-- In a control sequence, which has parameters and a final byte. -/
  | control
  | deviceHead
  /-- Behind the first parameters of a device control string. -/
  | deviceParameters
  | deviceIntermediate
  /-- In the data of a device control string, or in one whose head is malformed. -/
  | deviceData
  /-- In a system command, which ends with a bell. -/
  | command
  /-- In any other string. -/
  | string
deriving DecidableEq, Repr

namespace Stage

/-- The byte is a digit or a semicolon. -/
def isParameter (n : Nat) : Bool := (0x30 ≤ n && n ≤ 0x39) || n = 0x3B

/-- The byte is one of four marks that can stand in front of parameters. -/
def isMark (n : Nat) : Bool := 0x3C ≤ n && n ≤ 0x3F

def isIntermediate (n : Nat) : Bool := 0x20 ≤ n && n ≤ 0x2F

/-- Where the next byte stands. The escape character begins a sequence anywhere, and a sequence
can be cancelled anywhere. -/
def next (s : Stage) (n : Nat) : Stage :=
  if n = 0x1B then escape
  else if n = 0x18 || n = 0x1A then outside
  else match s with
  | outside => outside
  | escape =>
    if n = '['.toNat then control
    else if n = ']'.toNat then command
    else if n = 'P'.toNat then deviceHead
    else if n = 'X'.toNat || n = '^'.toNat || n = '_'.toNat then string
    else if isIntermediate n then intermediate
    else if 0x30 ≤ n && n ≤ 0x7E then outside
    else escape
  | intermediate => if 0x30 ≤ n && n ≤ 0x7E then outside else intermediate
  | control => if 0x40 ≤ n && n ≤ 0x7E then outside else control
  | deviceHead =>
    if isIntermediate n then deviceIntermediate
    else if isParameter n || isMark n then deviceParameters
    else if 0x30 ≤ n && n ≤ 0x7E then deviceData
    else deviceHead
  | deviceParameters =>
    if isIntermediate n then deviceIntermediate
    else if isParameter n then deviceParameters
    else if 0x30 ≤ n && n ≤ 0x7E then deviceData
    else deviceParameters
  | deviceIntermediate => if 0x30 ≤ n && n ≤ 0x7E then deviceData else deviceIntermediate
  | deviceData => if n = 0x9C then outside else deviceData
  | command => if n = 0x07 then outside else command
  | string => if n = 0x9C then outside else string

/-- White space that is a control character: tab, line feed, form feed and carriage return. -/
def isWhite (n : Nat) : Bool := n = 0x09 || n = 0x0A || n = 0x0C || n = 0x0D

/-- The byte is shown: outside of a sequence what is visible, and white space unless it stands in
a string. -/
def shows (s : Stage) (n : Nat) : Bool :=
  match s with
  | outside => isWhite n || (0x20 ≤ n && n ≤ 0x7E) || (0xC2 ≤ n && n ≤ 0xF4)
  | escape => isWhite n
  | intermediate => isWhite n
  | control => isWhite n
  | _ => false

end Stage

/-- How many bytes of a character follow its first one. -/
def followers (n : Nat) : Nat :=
  if n < 0xC2 then 0 else if n < 0xE0 then 1 else if n < 0xF0 then 2 else 3

structure Reader where
  stage : Stage := .outside
  isShowing : Bool := false
  /-- How many bytes of the current character are to come. -/
  owed : Nat := 0
deriving DecidableEq, Repr

namespace Reader

/-- What is shown next is judged as if no sequence had begun. -/
def shows (r : Reader) (n : Nat) : Bool := (if r.isShowing then .outside else r.stage).shows n

def show? (r : Reader) (n : Nat) : Option Reader :=
  if 0 < r.owed then some { r with owed := r.owed - 1 }
  else if r.shows n then
    let stage := if followers n = 0 then r.stage else .outside
    some { stage, isShowing := true, owed := followers n }
  else none

def strip (r : Reader) : Bytes → Bytes
  | [] => []
  | b :: bs => match r.show? b.toNat with
    | some r => b :: r.strip bs
    | none => strip { stage := r.stage.next b.toNat } bs

end Reader

/-- The text as it is shown without styles. -/
def plain (s : String) : String := textOf (Reader.strip {} (utf8 s))

end Session.Text.Terminal
