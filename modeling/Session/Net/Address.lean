import Session.Text.Scan

set_option autoImplicit false

/-! # Socket addresses

An address and a port, as in `127.0.0.1:80` and `[::1]:80`. The four octets of a version 4
address have no leading zeros. A version 6 address has eight groups of up to four hexadecimal
digits; `::` stands for one zero group or more, once; the last two groups may be written as four
octets, though not in front of `::`. A scope may follow behind `%`.

`render` writes the usual short form: the first of the longest runs of at least two zero groups
becomes `::`, and a version 4 address that is carried in version 6 keeps its octets.
-/

namespace Session.Net

open Text (Scan)

inductive Host
  | v4 (octets : List Nat)
  /-- Eight groups of 16 bits, and a scope. -/
  | v6 (groups : List Nat) (scope : Nat)
deriving DecidableEq, Repr

structure Address where
  host : Host
  port : Nat
deriving DecidableEq, Repr

namespace Host

/-! ## Reading -/

/-- One octet, without leading zeros. -/
def octet : Scan Nat := do
  let digits ← Scan.takeWhile1 fun c => (Text.digit? c).isSome
  Scan.check (digits.length ≤ 3 && (digits.head? ≠ some '0' || digits.length = 1))
  let n ← ((Text.readDigits? digits).filter (· ≤ 255) : Option Nat)
  return n

def octets : Scan (List Nat) := do
  let a ← octet
  Scan.char '.'
  let b ← octet
  Scan.char '.'
  let c ← octet
  Scan.char '.'
  let d ← octet
  return [a, b, c, d]

def group : Scan Nat := do
  let digits ← Scan.takeWhile1 fun c => (Text.hexDigit? c).isSome
  Scan.check (digits.length ≤ 4)
  return (digits.filterMap Text.hexDigit?).foldl (fun n d => n * 16 + d) 0

/-- The two groups that four octets make up. -/
def paired : List Nat → List Nat
  | [a, b, c, d] => [a * 256 + b, c * 256 + d]
  | _ => []

/-- Groups with a colon between them. -/
structure Groups where
  groups : List Nat
  /-- The last two were written as octets. -/
  endsInOctets : Bool

/-- Up to `limit` groups; a colon stands in front of each but the first of an address part. -/
def groupsUpTo (isFirst : Bool) : Nat → Scan Groups
  | 0 => return ⟨[], false⟩
  | limit + 1 => do
    let separator : Scan Unit := if isFirst then pure () else Scan.char ':'
    let embedded ← if 1 ≤ limit then Scan.optional? (do separator; octets) else pure none
    match embedded with
    | some four => return ⟨paired four, true⟩
    | none =>
      match ← Scan.optional? (do separator; group) with
      | none => return ⟨[], false⟩
      | some g =>
        let rest ← groupsUpTo false limit
        return { rest with groups := g :: rest.groups }

def eightGroups : Scan (List Nat) := do
  let head ← groupsUpTo true 8
  if head.groups.length = 8 then return head.groups
  Scan.check !head.endsInOctets
  Scan.text "::".toList
  let tail ← groupsUpTo true (7 - head.groups.length)
  let zeros := 8 - head.groups.length - tail.groups.length
  return head.groups ++ List.replicate zeros 0 ++ tail.groups

def maxScope : Nat := 0xFFFFFFFF

/-- A host as it stands in front of the colon and the port. -/
def scan : Scan Host :=
  Host.v4 <$> octets <|> do
    Scan.char '['
    let groups ← eightGroups
    let scope ← Scan.optional? (do Scan.char '%'; Scan.unsigned maxScope)
    Scan.char ']'
    return .v6 groups (scope.getD 0)

/-! ## Writing -/

def joined (separator : Char) (base : Nat) (ns : List Nat) : List Char :=
  [separator].intercalate (ns.map (Text.digitsIn base))

def leadingZeros (groups : List Nat) : Nat := (groups.takeWhile (· == 0)).length

/-- Where the first of the longest runs of zero groups begins, and how long it is. -/
def longestZeros : List Nat → Nat × Nat
  | [] => (0, 0)
  | g :: rest =>
    let here := leadingZeros (g :: rest)
    let (start, length) := longestZeros rest
    if length ≤ here then (0, here) else (start + 1, length)

/-- The short form of eight groups. -/
def renderGroups (groups : List Nat) : List Char :=
  match groups with
  | [0, 0, 0, 0, 0, 0xFFFF, ab, cd] =>
    "::ffff:".toList ++ joined '.' 10 [ab / 256, ab % 256, cd / 256, cd % 256]
  | _ =>
    let (start, length) := longestZeros groups
    if 1 < length then
      joined ':' 16 (groups.take start) ++ "::".toList
        ++ joined ':' 16 (groups.drop (start + length))
    else joined ':' 16 groups

def render : Host → List Char
  | v4 octets => joined '.' 10 octets
  | v6 groups scope =>
    let suffix := if scope = 0 then [] else '%' :: Text.digitsIn 10 scope
    '[' :: renderGroups groups ++ suffix ++ [']']

end Host

namespace Address

def maxPort : Nat := 65535

def scan : Scan Address := do
  let host ← Host.scan
  Scan.char ':'
  return ⟨host, ← Scan.unsigned maxPort⟩

def parse? (s : String) : Option Address := scan.whole? s.toList

def render (a : Address) : String :=
  String.ofList (a.host.render ++ ':' :: Text.digitsIn 10 a.port)

end Address

end Session.Net
