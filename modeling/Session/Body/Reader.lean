import Session.Body.Error
import Session.Body.Stream

set_option autoImplicit false

/-! # Reading a body

`Reader.run` drains a stream into one list of bytes. It keeps a running total, stops at the
first item that decides the reading (a failure, a chunk that takes the total above the limit, or
one that takes it above the declared length, in this order), and compares the total with the
declared length at the end.

The bytes are held in one of two slots (`Held`): a body of one chunk stays in the first slot and
is handed on as it is, and from the second chunk on everything is joined in the other one.
-/

namespace Session.Body

/-- What bounds a reading: the limit, and the length that was declared, if one was. -/
structure Reader where
  limit : Limit
  expected : Option Nat := none
deriving DecidableEq, Repr

/-- The bytes received so far. -/
structure Held where
  /-- The only chunk, while there is but one. -/
  first : Option Bytes := none
  /-- The chunks joined, from the second one on. -/
  joined : Bytes := []
  received : Nat := 0
deriving DecidableEq, Repr

namespace Held

def empty : Held := {}

def bytes (h : Held) : Bytes := h.first.getD h.joined

/-- One more chunk, which is not empty. -/
def push (h : Held) (chunk : Bytes) : Held :=
  let received := h.received + chunk.length
  match h.first with
  -- nothing is copied until there is a second chunk
  | some one => { first := none, joined := h.joined ++ one ++ chunk, received }
  | none =>
    if h.joined.isEmpty then { first := some chunk, joined := h.joined, received }
    else { first := none, joined := h.joined ++ chunk, received }

end Held

/-- The end of a reading: its result, how many items were taken from the stream, and for how long
the stream was pending until then. -/
structure Reading where
  result : Except Error Bytes
  taken : Nat
  waited : Nat
deriving Repr

namespace Reader

/-- Takes one chunk. An empty one changes nothing. -/
def take (r : Reader) (h : Held) (chunk : Bytes) : Except Error Held :=
  if chunk.isEmpty then .ok h
  else
    let total := h.received + chunk.length
    -- a chunk beyond both bounds counts as one beyond the limit
    match r.limit.exceededBy total with
    | some max => .error (.tooLarge (some max))
    | none => match r.expected.filter (· < total) with
      | some expected => .error (.lengthMismatch expected total)
      | none => .ok (h.push chunk)

/-- The end of the stream: the declared length must have been met. -/
def finish (r : Reader) (h : Held) : Except Error Bytes :=
  match r.expected.filter (· ≠ h.received) with
  | some expected => .error (.lengthMismatch expected h.received)
  | none => .ok h.bytes

def runFrom (r : Reader) (h : Held) : Stream → Reading
  | [] => ⟨r.finish h, 0, 0⟩
  | .pause ms :: s =>
      let rest := r.runFrom h s
      { rest with waited := ms + rest.waited }
  | .fault f :: _ => ⟨.error (.ofFault r.limit f), 1, 0⟩
  | .chunk bs :: s => match r.take h bs with
    | .error e => ⟨.error e, 1, 0⟩
    | .ok h =>
        let rest := r.runFrom h s
        { rest with taken := rest.taken + 1 }

/-- Reads a stream to its end, or to the item that decides it. -/
def run (r : Reader) (s : Stream) : Reading := r.runFrom .empty s

end Reader

def readBytes (limit : Limit) (s : Stream) : Reading := Reader.run { limit } s

/-- The text of a stream, decoded once all its bytes are there. -/
def readText (limit : Limit) (s : Stream) : Except Error String :=
  (readBytes limit s).result.map textOf

end Session.Body
