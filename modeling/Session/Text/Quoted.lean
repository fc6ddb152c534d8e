import Session.Text.Hidden
import Session.Text.Numeral

set_option autoImplicit false

/-! # Quoted text

A text between double quotes, as reports show a value. The quote and the backslash stand behind
a backslash, tab, line feed, carriage return and NUL have a letter, and a character without a
visible form is written by its number in braces.
-/

namespace Session.Text.Quoted

/-- The letter that stands for a character behind a backslash. -/
def letter? : Char → Option Char
  | '\x00' => some '0'
  | '\t' => some 't'
  | '\n' => some 'n'
  | '\r' => some 'r'
  | '\\' => some '\\'
  | '"' => some '"'
  | _ => none

def escape (c : Char) : List Char :=
  match letter? c with
  | some l => ['\\', l]
  | none => if isHidden c then
      ['\\', 'u', '\x7b'] ++ digitsIn 16 c.toNat ++ ['\x7d']
    else [c]

def quote (s : String) : String := String.ofList (['"'] ++ s.toList.flatMap escape ++ ['"'])

end Session.Text.Quoted
