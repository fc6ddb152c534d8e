set_option autoImplicit false

/-! # Doubles

Floating point numbers with 53 bits of mantissa, as exact values: a finite one is a mantissa
times a power of two. `nearest` rounds a fraction to a double, and `ofDecimal` reads the decimal
notation with it. A value half way between two doubles goes to the one with the even mantissa.
-/

namespace Session.Decimal

inductive Double
  /-- The mantissa times `2 ^ exponent`, with a sign that zero has too. -/
  | finite (isNegative : Bool) (mantissa : Nat) (exponent : Int)
  | infinite (isNegative : Bool)
  | notANumber
deriving DecidableEq, Repr

namespace Double

/-- Mantissas have at most 53 bits: they are below this. -/
def mantissaBound : Nat := 0x20000000000000

def minExponent : Int := -1074

def maxExponent : Int := 971

/-- The nearest whole number to a fraction; the even one of two. -/
def roundHalfEven (num den : Nat) : Nat :=
  let whole := num / den
  let rest := num % den
  if 2 * rest < den then whole
  else if den < 2 * rest then whole + 1
  else whole + whole % 2

/-- A fraction divided by `base ^ exponent`. -/
def scaled (base num den : Nat) (exponent : Int) : Nat × Nat :=
  if 0 ≤ exponent then (num, den * base.pow exponent.toNat)
  else (num * base.pow (-exponent).toNat, den)

/-- The exponent at which the fraction has a mantissa of 53 bits, or the least one. -/
def exponentOf (num den : Nat) : Int :=
  let q := max ((Nat.log2 num : Int) - Nat.log2 den - 53) minExponent
  let (n, d) := scaled 2 num den q
  if mantissaBound ≤ n / d then q + 1 else q

def nearest (isNegative : Bool) (num den : Nat) : Double :=
  if num = 0 then .finite isNegative 0 minExponent
  else
    let q := exponentOf num den
    let (n, d) := scaled 2 num den q
    let m := roundHalfEven n d
    let (m, q) := if m = mantissaBound then (m / 2, q + 1) else (m, q)
    if maxExponent < q then .infinite isNegative else .finite isNegative m q

/-- The double that is nearest to `digits` times `10 ^ exponent`. Values far outside of the range
are told by the size of the exponent alone. -/
def ofDecimal (isNegative : Bool) (digits : Nat) (exponent : Int) : Double :=
  if digits = 0 || exponent < -(400 + Nat.log2 digits : Int) then
    .finite isNegative 0 minExponent
  else if 400 < exponent then .infinite isNegative
  else
    let (n, d) := scaled 10 digits 1 (-exponent)
    nearest isNegative n d

end Double

end Session.Decimal
