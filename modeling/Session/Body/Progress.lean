import Session.Body.Reader

set_option autoImplicit false

/-! # Reading item by item

A stream need not be known beforehand, and it need not end. A reader asks it for one item after
the other, and stops asking once the reading is decided or the stream has ended. `Source` is a
stream as it answers, and `Reader.progress` says where the reading stands after so many answers.
-/

namespace Session.Body

/-- What a stream answers each time it is asked for an item: `none`, if it has ended. -/
abbrev Source := Nat → Option Item

namespace Source

/-- The answers of a stream whose items are known. -/
def ofStream (s : Stream) : Source := fun k => s[k]?

/-- The items among the first `k` answers. -/
def taken (source : Source) (k : Nat) : Stream := (List.range k).filterMap source

end Source

/-- Where a reading stands. -/
inductive Progress
  /-- It asks for the next item, with what was received so far. -/
  | waiting (h : Held)
  | ended (result : Except Error Bytes)
deriving Repr

namespace Progress

/-- The bytes that are kept: those in the slots, and then those of the result. -/
def kept : Progress → Bytes
  | waiting h => h.joined ++ h.first.getD []
  | ended (.ok bs) => bs
  | ended (.error _) => []

end Progress

namespace Reader

/-- What an answer of the stream does to a reading. One that has ended takes no more answers. -/
def step (r : Reader) : Progress → Option Item → Progress
  | .ended result, _ => .ended result
  | .waiting h, none => .ended (r.finish h)
  | .waiting h, some (.pause _) => .waiting h
  | .waiting _, some (.fault f) => .ended (.error (.ofFault r.limit f))
  | .waiting h, some (.chunk bs) => match r.take h bs with
    | .error e => .ended (.error e)
    | .ok h => .waiting h

/-- Where a reading stands after the first `k` answers. -/
def progress (r : Reader) (source : Source) : Nat → Progress
  | 0 => .waiting .empty
  | k + 1 => r.step (r.progress source k) (source k)

end Reader

end Session.Body
