set_option autoImplicit false

/-! # Broadcast channels

A channel passes each message to all receivers that had subscribed before it was sent. It keeps
only the last message, so a receiver that was too slow learns that it missed some. It can also
learn that all messages are taken and that nobody is left who could send one. Without a receiver
a message is dropped.
-/

namespace Session.Shutdown

/-- A channel, by the number of messages that were sent through it. -/
structure Channel where
  sent : Nat
deriving DecidableEq, Repr

/-- A receiver, by the number of messages that came before the one it takes next. -/
structure Receiver where
  next : Nat
deriving DecidableEq, Repr

inductive Receipt
  | message
  /-- Messages were lost. -/
  | lagged
  /-- No message is left and no sender either. -/
  | closed
  | pending
deriving DecidableEq, Repr

/-- There is something to get, be it only that there will be nothing. -/
def Receipt.isReady : Receipt → Bool
  | pending => false
  | _ => true

namespace Channel

def fresh : Channel := ⟨0⟩

/-- How many messages a channel keeps. -/
def capacity : Nat := 1

def subscribe (c : Channel) : Receiver := ⟨c.sent⟩

def send (c : Channel) (receivers : Nat) : Channel :=
  if receivers = 0 then c else ⟨c.sent + 1⟩

/-- What a receiver gets while there are so many senders. -/
def receive (c : Channel) (senders : Nat) (r : Receiver) : Receipt :=
  if r.next < c.sent then
    -- the message that the receiver waits for may have been overwritten
    if c.sent ≤ r.next + capacity then .message else .lagged
  else if senders = 0 then .closed
  else .pending

/-- A receiver has something to get if a message was sent after it subscribed, or if no sender
is left. -/
theorem isReady_receive {c : Channel} {senders : Nat} {r : Receiver} :
    (c.receive senders r).isReady = true ↔ r.next < c.sent ∨ senders = 0 := by
  unfold receive
  split
  · next h => split <;> simp [Receipt.isReady, h]
  · next h => split <;> simp_all [Receipt.isReady]

end Channel

end Session.Shutdown
