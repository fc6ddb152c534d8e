import Session.Calendar
import Session.Text.Numeral

set_option autoImplicit false

/-! # The expiry date of a cookie

A point in time, in seconds since the start of 1970, as a directive writes it:
`Thu, 01 Jan 1970 00:00:00 GMT`. Only this form is read, and the weekday is not compared with
the date.
-/

namespace Session.Cookie.Date

def weekdays : List String := ["Sun", "Mon", "Tue", "Wed", "Thu", "Fri", "Sat"]

def months : List String :=
  ["Jan", "Feb", "Mar", "Apr", "May", "Jun", "Jul", "Aug", "Sep", "Oct", "Nov", "Dec"]

/-- A number with at least so many digits. -/
def padded (width n : Nat) : List Char :=
  let d := Text.digitsIn 10 n
  List.replicate (width - d.length) '0' ++ d

def render (seconds : Nat) : List Char :=
  let days := seconds / 86400
  let time := seconds % 86400
  let date := Calendar.Date.ofDays days
  (weekdays.getD (Calendar.weekday days) "").toList ++ [',', ' '] ++ padded 2 date.day ++ [' ']
    ++ (months.getD (date.month - 1) "").toList ++ [' '] ++ padded 4 date.year ++ [' ']
    ++ padded 2 (time / 3600) ++ [':'] ++ padded 2 (time / 60 % 60) ++ [':']
    ++ padded 2 (time % 60) ++ " GMT".toList

/-- The point in time that a date and time denotes, from 1970 on. -/
def read? (s : List Char) : Option Nat :=
  match s with
  | [w₁, w₂, w₃, ',', ' ', d₁, d₂, ' ', m₁, m₂, m₃, ' ', y₁, y₂, y₃, y₄, ' ',
      h₁, h₂, ':', n₁, n₂, ':', s₁, s₂, ' ', 'G', 'M', 'T'] => do
    let _ ← weekdays.idxOf? (String.ofList [w₁, w₂, w₃])
    let month ← months.idxOf? (String.ofList [m₁, m₂, m₃])
    let day ← Text.readDigits? [d₁, d₂]
    let year ← Text.readDigits? [y₁, y₂, y₃, y₄]
    let hour ← Text.readDigits? [h₁, h₂]
    let minute ← Text.readDigits? [n₁, n₂]
    let second ← Text.readDigits? [s₁, s₂]
    if Calendar.isDate year (month + 1) day && 1970 ≤ year && hour < 24 && minute < 60
        && second < 60 then
      some ((Calendar.Date.toDays ⟨year, month + 1, day⟩) * 86400
        + hour * 3600 + minute * 60 + second)
    else none
  | _ => none

end Session.Cookie.Date
