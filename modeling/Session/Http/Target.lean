import Session.Text.Utf8
import Session.Text.Numeral
import Session.Http.Header

set_option autoImplicit false

/-! # Request targets

What a request asks for, as it stands in its first line: a path with a query, a whole address
with scheme and authority, an authority alone, or `*`. Only the path part matters to the server.
A fragment is cut off, and nothing is decoded.

The characters of a path are those that need no percent encoding, the double quote and the
braces, and everything beyond ASCII; an authority is plain ASCII.
-/

namespace Session.Http.Target

/-- The greatest length of a target in bytes. -/
def maxLength : Nat := 65534

/-! ## Path and query -/

def isBeyondAscii (n : Nat) : Bool := 0x80 ≤ n

def isPathChar (c : Char) : Bool :=
  let n := c.toNat
  n == 0x21 || n == 0x22 || (0x24 ≤ n && n ≤ 0x3B) || n == 0x3D || (0x40 ≤ n && n ≤ 0x5F)
    || (0x61 ≤ n && n ≤ 0x7E) || isBeyondAscii n

def isQueryChar (c : Char) : Bool :=
  let n := c.toNat
  n == 0x21 || (0x24 ≤ n && n ≤ 0x3B) || n == 0x3D || (0x3F ≤ n && n ≤ 0x7E) || isBeyondAscii n

/-- The path of a path with a query. -/
def pathAndQuery? (s : List Char) : Option (List Char) :=
  let whole := s.takeWhile (· ≠ '#')
  let path := whole.takeWhile (· ≠ '?')
  let query := (whole.dropWhile (· ≠ '?')).drop 1
  if path.all isPathChar && query.all isQueryChar then some path else none

/-! ## Authority -/

/-- A mark that may stand in an authority beside letters and digits. -/
def isAuthorityMark (c : Char) : Bool := "!$&'()*+,-.:;=@[]_~".toList.contains c

/-- What was seen of an authority so far. Colons and percent signs count only from the last
`]` or `@` on, since what stands before is an address in brackets or user information. -/
structure Seen where
  colons : Nat := 0
  openBracket : Bool := false
  closeBracket : Bool := false
  percent : Bool := false
  /-- The last character is `@`. -/
  endsAt : Bool := false
deriving DecidableEq, Repr

def Seen.next? (seen : Seen) (c : Char) : Option Seen :=
  let seen := { seen with endsAt := c = '@' }
  match c with
  | ':' => if 8 ≤ seen.colons then none else some { seen with colons := seen.colons + 1 }
  | '[' => if seen.percent || seen.openBracket then none else some { seen with openBracket := true }
  | ']' => if !seen.openBracket || seen.closeBracket then none
      else some { seen with closeBracket := true, colons := 0, percent := false }
  | '@' => some { seen with colons := 0, percent := false }
  | '%' => some { seen with percent := true }
  | _ => if c.isAlphanum || isAuthorityMark c then some seen else none

/-- An authority may end here: brackets are matched, and there is one colon at most. -/
def Seen.complete (seen : Seen) : Bool :=
  seen.openBracket == seen.closeBracket && seen.colons ≤ 1 && !seen.endsAt && !seen.percent

/-- The characters up to the end of an authority. -/
def authorityPart (s : List Char) : List Char :=
  s.takeWhile fun c => c ≠ '/' && c ≠ '?' && c ≠ '#'

def isAuthority (s : List Char) : Bool :=
  match s.foldlM Seen.next? {} with
  | some seen => seen.complete
  | none => false

/-! ## Scheme -/

def isSchemeChar (c : Char) : Bool := c.isAlphanum || "+-.~".toList.contains c

def maxSchemeLength : Nat := 64

/-- A target with respect to its scheme. -/
inductive Schemed
  | without
  /-- What follows the scheme and its `://`. -/
  | behind (rest : List Char)
  | tooLong
deriving DecidableEq, Repr

def scheme (s : List Char) : Schemed :=
  let name := s.takeWhile isSchemeChar
  match s.dropWhile isSchemeChar with
  | ':' :: '/' :: '/' :: rest =>
      if name.length ≤ maxSchemeLength then .behind rest else .tooLong
  | _ => .without

/-! ## Targets -/

/-- The path of a target, if the target is one. It is empty for an authority alone, and `/` for
an address without a path. -/
def path? (s : List Char) : Option (List Char) :=
  if maxLength < (Text.Utf8.encode s).length then none
  else match s with
  | [] => none
  | ['*'] => some ['*']
  | '/' :: _ => pathAndQuery? s
  | _ => match scheme s with
    | .tooLong => none
    | .without => if authorityPart s = s && isAuthority s then some [] else none
    | .behind rest =>
      let authority := authorityPart rest
      if authority.isEmpty || !isAuthority authority then none
      else (pathAndQuery? (rest.drop authority.length)).map fun p =>
        if p.isEmpty then ['/'] else p

end Session.Http.Target
