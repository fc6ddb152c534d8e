import Session.Decimal.Double
import Session.Text.Numeral

set_option autoImplicit false

/-! # Shortest decimals

The fewest digits that still read back as the same double. A decimal reads back as a double if it
lies between the midpoints to the two neighbours, the midpoints included where the mantissa is
even. On the grid of decimals with so many digits only the two next to the value can do so. Of
two that do, the nearer one is taken, and the upper one where both are equally near.
-/

namespace Session.Decimal

/-- The double and the midpoints to its neighbours, all multiples of a quarter of its unit. The
lower neighbour of a power of two is half as far away. -/
structure Surroundings where
  low : Nat
  value : Nat
  high : Nat
  /-- The midpoints read back as the double. -/
  isClosed : Bool

def Surroundings.ofMantissa (mantissa : Nat) (exponent : Int) : Surroundings where
  low := if mantissa * 2 = Double.mantissaBound ∧ Double.minExponent < exponent
    then 4 * mantissa - 1 else 4 * mantissa - 2
  value := 4 * mantissa
  high := 4 * mantissa + 2
  isClosed := mantissa % 2 = 0

/-- How many decimal digits a fraction has in front of the point; at most zero for a fraction
below one, which then has as many zeros behind the point. -/
def wholeDigits (num den : Nat) : Int :=
  if den ≤ num then (Text.digitsIn 10 (num / den)).length
  else 1 - (Text.digitsIn 10 ((den + num - 1) / num - 1)).length

/-- The multiple of `10 ^ grid` that reads back as the double, if there is one. -/
def onGrid? (s : Surroundings) (exponent : Int) (grid : Int) : Option Nat :=
  let (num, den) := Double.scaled 2 1 1 (-(exponent - 2))
  let (num, den) := Double.scaled 10 num den grid
  let readsBack (c : Nat) : Bool :=
    if s.isClosed then s.low * num ≤ c * den && c * den ≤ s.high * num
    else s.low * num < c * den && c * den < s.high * num
  let below := s.value * num / den
  let above := below + 1
  let isUpperHalf := den ≤ 2 * (s.value * num % den)
  match readsBack below, readsBack above with
  | true, true => some (if isUpperHalf then above else below)
  | true, false => some below
  | false, true => some above
  | false, false => none

/-- The most digits that are ever needed. -/
def maxDigits : Nat := 17

/-- Digits and the power of ten of the last one: the shortest decimal of a positive double. -/
def shortest (mantissa : Nat) (exponent : Int) : Nat × Int :=
  let s := Surroundings.ofMantissa mantissa exponent
  let (num, den) := Double.scaled 2 mantissa 1 (-exponent)
  let whole := wholeDigits num den
  let found := (List.range maxDigits).findSome? fun (n : Nat) =>
    let grid : Int := whole - (n + 1)
    (onGrid? s exponent grid).map fun c => (c, grid)
  found.getD (0, 0)

/-- Digits times `10 ^ grid` without an exponent, with at least one digit on either side of the
point. -/
def positional (digits : Nat) (grid : Int) : List Char :=
  let ds := Text.digitsIn 10 digits
  if 0 ≤ grid then ds ++ List.replicate grid.toNat '0' ++ ".0".toList
  else
    let places := (-grid).toNat
    let padded := List.replicate (places + 1 - ds.length) '0' ++ ds
    let fraction := padded.drop (padded.length - places)
    let kept := (fraction.reverse.dropWhile (· = '0')).reverse
    padded.take (padded.length - places) ++ '.' :: (if kept.isEmpty then ['0'] else kept)

/-- The text of a double: its shortest decimal, never with an exponent. -/
def Double.text : Double → List Char
  | finite isNegative mantissa exponent =>
    let sign := if isNegative then ['-'] else []
    if mantissa = 0 then sign ++ "0.0".toList
    else
      let (digits, grid) := shortest mantissa exponent
      sign ++ positional digits grid
  | infinite isNegative => (if isNegative then "-inf" else "inf").toList
  | notANumber => "NaN".toList

end Session.Decimal
