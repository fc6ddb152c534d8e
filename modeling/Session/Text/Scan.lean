import Session.Text.Numeral

set_option autoImplicit false

/-! # Scanning text

A scanner takes something off the front of a text and leaves the rest, or it fails and leaves
nothing behind. Scanners are chained with `do`; `p <|> q` tries `q` at the same place if `p`
fails. `many` repeats as long as its scanner succeeds.
-/

namespace Session.Text

/-- Takes a value off the front of a text, or fails. -/
abbrev Scan (α : Type) := StateT (List Char) Option α

namespace Scan

variable {α : Type}

def whole? (p : Scan α) (s : List Char) : Option α :=
  match p.run s with
  | some (a, []) => some a
  | _ => none

def left : Scan Nat := return (← get).length

/-- The next character, which stays. -/
def peek? : Scan (Option Char) := return (← get).head?

def atEnd : Scan Bool := return (← get).isEmpty

def satisfy (p : Char → Bool) : Scan Char := fun
  | c :: s => if p c then some (c, s) else none
  | [] => none

def char (c : Char) : Scan Unit := discard (satisfy (· == c))

def text : List Char → Scan Unit
  | [] => pure ()
  | c :: s => do char c; text s

/-- The longest run of characters that satisfy the predicate, perhaps none. -/
def takeWhile (p : Char → Bool) : Scan (List Char) := fun s => some (s.span p)

def takeWhile1 (p : Char → Bool) : Scan (List Char) := do
  let c ← satisfy p
  return c :: (← takeWhile p)

def optional? (p : Scan α) : Scan (Option α) := fun s =>
  match p s with
  | some (a, rest) => some (some a, rest)
  | none => some (none, s)

def found (p : Scan Unit) : Scan Bool := return (← optional? p).isSome

def manyFrom (p : Scan α) : Nat → List Char → List α × List Char
  | 0, s => ([], s)
  | fuel + 1, s => match p s with
    | some (a, rest) =>
      let (as, final) := manyFrom p fuel rest
      (a :: as, final)
    | none => ([], s)

/-- As many as there are. The scanner takes at least one character each time, so there are no
more of them than characters. -/
def many (p : Scan α) : Scan (List α) := fun s => some (manyFrom p s.length s)

def check (b : Bool) : Scan Unit := if b then pure () else failure

/-- A number of decimal digits up to `bound`, with any number of leading zeros. -/
def unsigned (bound : Nat) : Scan Nat := do
  let digits ← takeWhile1 fun c => (digit? c).isSome
  let n ← ((readDigits? digits).filter (· ≤ bound) : Option Nat)
  return n

end Scan

end Session.Text
