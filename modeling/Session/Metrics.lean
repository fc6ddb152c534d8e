import Session.Text.Numeral

set_option autoImplicit false

/-! # Counters

How many bodies were read, with which outcome, how many bytes they had, and how many responses
expired the user cookies. Counters only grow, and what two runs count adds up.
-/

namespace Session

inductive ReadOutcome
  | ok
  | streamError
  | tooLarge
  | lengthMismatch
deriving DecidableEq, Repr

/-- The name of the outcome in a counter's label. -/
def ReadOutcome.label : ReadOutcome → String
  | ok => "ok"
  | streamError => "stream_error"
  | tooLarge => "too_large"
  | lengthMismatch => "length_mismatch"

/-- The counters; one that was never touched is at zero. -/
structure Counters where
  readsOk : Nat := 0
  streamErrors : Nat := 0
  tooLarge : Nat := 0
  lengthMismatches : Nat := 0
  bodyBytes : Nat := 0
  cookiesCleared : Nat := 0
deriving DecidableEq, Repr

namespace Counters

def zero : Counters := {}

def add (a b : Counters) : Counters where
  readsOk := a.readsOk + b.readsOk
  streamErrors := a.streamErrors + b.streamErrors
  tooLarge := a.tooLarge + b.tooLarge
  lengthMismatches := a.lengthMismatches + b.lengthMismatches
  bodyBytes := a.bodyBytes + b.bodyBytes
  cookiesCleared := a.cookiesCleared + b.cookiesCleared

instance : Add Counters := ⟨add⟩

theorem add_def (a b : Counters) : a + b = a.add b := rfl

@[simp] theorem zero_add (a : Counters) : zero + a = a := by
  simp [add_def, add, zero]

@[simp] theorem add_zero (a : Counters) : a + zero = a := by
  simp [add_def, add, zero]

theorem add_assoc (a b c : Counters) : a + b + c = a + (b + c) := by
  simp [add_def, add, Nat.add_assoc]

/-- One body read, of so many bytes if all went well. -/
def bodyRead (outcome : ReadOutcome) (bytes : Nat) : Counters :=
  match outcome with
  | .ok => { readsOk := 1, bodyBytes := bytes }
  | .streamError => { streamErrors := 1, bodyBytes := bytes }
  | .tooLarge => { tooLarge := 1, bodyBytes := bytes }
  | .lengthMismatch => { lengthMismatches := 1, bodyBytes := bytes }

/-- One response that expired the user cookies. -/
def cleared : Counters := { cookiesCleared := 1 }

def reads (c : Counters) : ReadOutcome → Nat
  | .ok => c.readsOk
  | .streamError => c.streamErrors
  | .tooLarge => c.tooLarge
  | .lengthMismatch => c.lengthMismatches

/-- A counter with its value; one at zero was never touched and has no line. -/
def line (name : String) (n : Nat) : List String :=
  if n = 0 then [] else [name ++ " " ++ Text.decimal n]

def readsLine (c : Counters) (o : ReadOutcome) : List String :=
  line ("session_body_reads_total\x7boutcome=\"" ++ o.label ++ "\"\x7d") (c.reads o)

/-- The counters that were touched, in the order of their names. -/
def lines (c : Counters) : List String :=
  line "session_body_bytes_total" c.bodyBytes
    ++ c.readsLine .lengthMismatch ++ c.readsLine .ok ++ c.readsLine .streamError
    ++ c.readsLine .tooLarge
    ++ line "session_cookies_cleared_total" c.cookiesCleared

end Counters

end Session
