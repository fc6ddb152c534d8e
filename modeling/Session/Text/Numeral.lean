set_option autoImplicit false

/-! # Decimal numerals

Unsigned integers in decimal digits, read within a bound. `readUnsigned?` is the form that
header values and log levels have: any number of leading zeros, and one optional plus sign.
-/

namespace Session.Text

def digit? (c : Char) : Option Nat :=
  if '0' ≤ c ∧ c ≤ '9' then some (c.toNat - '0'.toNat) else none

/-- The number that the digits denote after those already read, which denote `acc`. -/
def readDigitsFrom? (acc : Nat) : List Char → Option Nat
  | [] => some acc
  | c :: s => match digit? c with
    | some d => readDigitsFrom? (acc * 10 + d) s
    | none => none

def readDigits? : List Char → Option Nat
  | [] => none
  | s@(_ :: _) => readDigitsFrom? 0 s

def maxUnsigned : Nat := 0xFFFFFFFFFFFFFFFF

/-- A number of at most `bound`: digits after an optional plus sign. -/
def readUnsigned? (bound : Nat) (s : List Char) : Option Nat :=
  let digits := match s with
    | '+' :: rest => rest
    | _ => s
  (readDigits? digits).filter (· ≤ bound)

def hexDigit? (c : Char) : Option Nat :=
  if '0' ≤ c ∧ c ≤ '9' then some (c.toNat - '0'.toNat)
  else if 'a' ≤ c ∧ c ≤ 'f' then some (c.toNat - 'a'.toNat + 10)
  else if 'A' ≤ c ∧ c ≤ 'F' then some (c.toNat - 'A'.toNat + 10)
  else none

/-- The digits of a number in a base of at most 16, in lower case. -/
def digitsIn (base n : Nat) : List Char := Nat.toDigits base n

def decimal (n : Nat) : String := String.ofList (digitsIn 10 n)

end Session.Text
