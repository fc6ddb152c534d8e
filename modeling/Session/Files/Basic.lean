import Session.Text.Pieces
import Session.Text.Utf8

set_option autoImplicit false

/-! # Files

Reading a file by its path, from wherever files are kept, and a tree of files below a working
directory to read from. Of the world outside of the working directory only its directories are
known.

A path is a list of names with slashes between them. Every name but the last must lead to a
directory; an empty name and `.` stay where they are, and `..` goes up.
-/

namespace Session

inductive Files.Fault
  | nulInPath
  | notFound
  | notADirectory
  | isADirectory
  | nameTooLong
  | notText
deriving DecidableEq, Repr

/-- Reads the bytes of the file at a path. -/
abbrev Files.Reader := String → Except Files.Fault Bytes

/-- Files with their names on the way from the working directory, and their contents. -/
structure Files where
  contents : List (List String × Bytes)

namespace Files

namespace Fault

def text : Fault → String
  | nulInPath => "file name contained an unexpected NUL byte"
  | notFound => "No such file or directory"
  | notADirectory => "Not a directory"
  | isADirectory => "Is a directory"
  | nameTooLong => "File name too long"
  | notText => "stream did not contain valid UTF-8"

/-- The number of the fault, if the system has one. -/
def code? : Fault → Option Nat
  | nulInPath => none
  | notFound => some 2
  | notADirectory => some 20
  | isADirectory => some 21
  | nameTooLong => some 36
  | notText => none

def kind : Fault → String
  | nulInPath => "InvalidInput"
  | notFound => "NotFound"
  | notADirectory => "NotADirectory"
  | isADirectory => "IsADirectory"
  | nameTooLong => "InvalidFilename"
  | notText => "InvalidData"

def message (f : Fault) : String :=
  match f.code? with
  | some n => f.text ++ " (os error " ++ toString n ++ ")"
  | none => f.text

end Fault

def Reader.text (read : Reader) (path : String) : Except Fault String := do
  match textOf? (← read path) with
  | some s => .ok s
  | none => .error .notText

/-! ## Trees -/

inductive Location
  | inside (names : List String)
  /-- A directory outside of the working directory. -/
  | outside
deriving DecidableEq, Repr

def content? (fs : Files) (names : List String) : Option Bytes := fs.contents.lookup names

/-- The names lead to a directory: the working directory, or one that a file is in. -/
def isDirectory (fs : Files) (names : List String) : Bool :=
  names.isEmpty || fs.contents.any fun f => names.isPrefixOf f.1 && f.1 ≠ names

def Location.isDirectory (fs : Files) : Location → Bool
  | inside names => fs.isDirectory names
  | outside => true

/-- The longest name, in bytes. -/
def maxName : Nat := 255

/-- The longest path, in bytes. -/
def maxPath : Nat := 4095

/-- One name further. -/
def step (fs : Files) (here : Location) (name : String) : Except Fault Location :=
  if !here.isDirectory fs then .error .notADirectory
  else if name = "" || name = "." then .ok here
  else if name = ".." then
    .ok (match here with
      | .inside [] => .outside
      | .inside names => .inside names.dropLast
      | .outside => .outside)
  else if maxName < (utf8 name).length then .error .nameTooLong
  else match here with
    | .outside => .error .notFound
    | .inside names =>
      let next := names ++ [name]
      if (fs.content? next).isSome || fs.isDirectory next then .ok (.inside next)
      else .error .notFound

def locate (fs : Files) (path : String) : Except Fault Location :=
  if path.toList.contains '\x00' then .error .nulInPath
  else if path = "" then .error .notFound
  else if maxPath < (utf8 path).length then .error .nameTooLong
  else
    let start : Location := if path.toList.head? = some '/' then .outside else .inside []
    ((Text.pieces '/' path.toList).map String.ofList).foldlM (step fs) start

def read (fs : Files) (path : String) : Except Fault Bytes := do
  match ← fs.locate path with
  | .outside => .error .isADirectory
  | .inside names =>
    match fs.content? names with
    | some bs => .ok bs
    | none => .error .isADirectory

end Files

end Session
