import Session.Calendar
import Session.Toml.Blank

set_option autoImplicit false

/-! # Dates and times

A date, a time of day with seconds, or a date with a time behind a `T` or a space, which may have
an offset from universal time. The date must exist, and a minute may have a leap second. Only
that a moment is well formed matters, so nothing is kept of it.
-/

namespace Session.Toml.Moment

open Text (Scan)

/-- A number of exactly so many digits. -/
def digits : Nat → Scan Nat
  | 0 => return 0
  | k + 1 => do
    let c ← Scan.satisfy fun c => (Text.digit? c).isSome
    let rest ← digits k
    return (Text.digit? c).getD 0 * 10 ^ k + rest

def date : Scan Unit := do
  let year ← digits 4
  Scan.char '-'
  let month ← digits 2
  Scan.char '-'
  let day ← digits 2
  Scan.check (Calendar.isDate year month day)

def hourAndMinute : Scan Unit := do
  let hour ← digits 2
  Scan.char ':'
  let minute ← digits 2
  Scan.check (hour ≤ 23 && minute ≤ 59)

def time : Scan Unit := do
  hourAndMinute
  Scan.char ':'
  let second ← digits 2
  Scan.check (second ≤ 60)
  discard (Scan.optional? do
    Scan.char '.'
    Scan.takeWhile1 fun c => (Text.digit? c).isSome)

/-- The distance from universal time. -/
def offset : Scan Unit :=
  Scan.char 'Z' <|> Scan.char 'z' <|> do
    Scan.char '+' <|> Scan.char '-'
    hourAndMinute

/-- A date with or without a time, or a time alone. -/
def scan : Scan Unit :=
  (do
    date
    discard (Scan.optional? do
      Scan.char 'T' <|> Scan.char 't' <|> Scan.char ' '
      time
      discard (Scan.optional? offset)))
  <|> time

end Session.Toml.Moment
