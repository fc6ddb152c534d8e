import Session.Decimal.Double
import Session.Toml.Basic
import Session.Toml.Blank

set_option autoImplicit false

/-! # Numbers

Integers have 64 bits with a sign and are written in decimal digits without leading zeros, or,
without a sign, in base 16, 8 or 2 behind `0x`, `0o` or `0b`. A float has a fraction, an exponent
or both, or is `inf` or `nan`. Single underscores may stand between digits. A positive float must
be finite.
-/

namespace Session.Toml

open Text (Scan)
open Decimal (Double)

/-- Digits that satisfy the predicate, with single underscores between them. -/
def digitGroups (isDigit : Char → Bool) : Scan (List Char) := do
  let first ← Scan.takeWhile1 isDigit
  let more ← Scan.many (do Scan.char '_'; Scan.takeWhile1 isDigit)
  return first ++ more.flatten

def isDecimal (c : Char) : Bool := (Text.digit? c).isSome

def valueOf (base : Nat) (digits : List Char) : Nat :=
  (digits.filterMap Text.hexDigit?).foldl (fun n d => n * base + d) 0

/-- Whether there is a minus sign; a plus sign means nothing. -/
def sign : Scan Bool := do
  if ← Scan.found (Scan.char '-') then return true
  discard (Scan.optional? (Scan.char '+'))
  return false

/-- Decimal digits without leading zeros. -/
def wholeDigits : Scan (List Char) := do
  let digits ← digitGroups isDecimal
  Scan.check (digits.head? ≠ some '0' || digits.length = 1)
  return digits

def minInteger : Int := -0x8000000000000000

def maxInteger : Int := 0x7FFFFFFFFFFFFFFF

/-- Digits in a base, behind its letter. -/
def basedDigits (letter : Char) (base : Nat) : Scan Nat := do
  Scan.text ['0', letter]
  let digits ← digitGroups fun c => (Text.hexDigit? c).any (· < base)
  return valueOf base digits

def integer : Scan Int := do
  let based : Scan Nat := basedDigits 'x' 16 <|> basedDigits 'o' 8 <|> basedDigits 'b' 2
  let decimal : Scan Int := do
    let isNegative ← sign
    let n := valueOf 10 (← wholeDigits)
    return if isNegative then -n else n
  let n ← Int.ofNat <$> based <|> decimal
  Scan.check (minInteger ≤ n && n ≤ maxInteger)
  return n

def fraction : Scan (List Char) := do
  Scan.char '.'
  digitGroups isDecimal

/-- The power of ten behind an `e`. -/
def exponent : Scan Int := do
  Scan.char 'e' <|> Scan.char 'E'
  let isNegative ← sign
  let n := valueOf 10 (← digitGroups isDecimal)
  return if isNegative then -n else n

def decimalFloat : Scan Double := do
  let isNegative ← sign
  let whole ← wholeDigits
  let places ← Scan.optional? fraction
  let power ← if places.isSome then Scan.optional? exponent else some <$> exponent
  let places := places.getD []
  let x := Double.ofDecimal isNegative (valueOf 10 (whole ++ places))
    (power.getD 0 - places.length)
  Scan.check (x ≠ .infinite false)
  return x

def namedFloat : Scan Double := do
  let isNegative ← sign
  (do Scan.text "inf".toList; return .infinite isNegative)
    <|> do Scan.text "nan".toList; return .notANumber

def float : Scan Double := decimalFloat <|> namedFloat

end Session.Toml
