import Session.Body.Fault
import Session.Text.Utf8

set_option autoImplicit false

/-! # Body streams

A body arrives in pieces. Between them the stream may be pending, which only a clock can see,
and it may fail at any point. `limited` is the view through a length limit further out: the
first chunk that is larger than what remains of the limit is replaced by a failure.
-/

namespace Session.Body

inductive Item
  /-- Some bytes, perhaps none. -/
  | chunk (bytes : Bytes)
  | fault (f : Fault)
  /-- Nothing for so many milliseconds. -/
  | pause (milliseconds : Nat)
deriving DecidableEq, Repr

abbrev Stream := List Item

namespace Stream

def content : Stream → Bytes
  | [] => []
  | .chunk bs :: s => bs ++ content s
  | .fault _ :: s => content s
  | .pause _ :: s => content s

def isClean (s : Stream) : Bool := s.all fun
  | .fault _ => false
  | _ => true

/-- How long the stream is pending in all, in milliseconds. -/
def pending : Stream → Nat
  | [] => 0
  | .pause ms :: s => ms + pending s
  | .chunk _ :: s => pending s
  | .fault _ :: s => pending s

/-- The stream behind a limit of `n` bytes. -/
def limited (n : Nat) : Stream → Stream
  | [] => []
  | .chunk bs :: s =>
      if n < bs.length then .fault .lengthLimit :: limited 0 s
      else .chunk bs :: limited (n - bs.length) s
  | .fault f :: s => .fault f :: limited n s
  | .pause ms :: s => .pause ms :: limited n s

end Stream

end Session.Body
