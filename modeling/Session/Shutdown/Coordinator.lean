import Session.Journal
import Session.Shutdown.Channel

set_option autoImplicit false

/-! # Coordinating the shutdown

Handles of a channel trigger the shutdown, and waiters wait for it. A waiter is released by any
trigger after it subscribed, or when nobody is left who could trigger. A listener is a task of
its own that waits for a signal of the system, triggers, and ends; until it has ended it counts as
one who could. What a task does between two others is an `Action`; a `Step` is a whole of them
that is asked for at once and reported on.

Handles, waiters and listeners keep their numbers; one that is gone leaves an empty slot.
-/

namespace Session.Shutdown

structure Waiter where
  channel : Nat
  receiver : Receiver
deriving DecidableEq, Repr

inductive Stage
  | waiting
  /-- It has got its signal. -/
  | alerted
  | triggered
deriving DecidableEq, Repr

structure Listener where
  channel : Nat
  stage : Stage := .waiting
deriving DecidableEq, Repr

/-- All channels, handles, waiters and listeners. A handle is known by its channel. -/
structure Coordinator where
  channels : List Channel := [.fresh]
  handles : List (Option Nat) := [some 0]
  waiters : List (Option Waiter) := []
  listeners : List (Option Listener) := []
deriving DecidableEq, Repr

/-- What can happen. With a handle that is gone, nothing does. -/
inductive Action
  /-- A handle of a channel of its own. -/
  | create
  | clone (handle : Nat)
  | drop (handle : Nat)
  | subscribe (handle : Nat)
  | trigger (handle : Nat)
  | listen (handle : Nat)
  /-- A listener goes on: it gets its signal, or it triggers, or it ends. -/
  | proceed (listener : Nat)
  /-- A waiter is asked, and leaves if it can go on. -/
  | await (waiter : Nat)
  | leave (waiter : Nat)
deriving DecidableEq, Repr

/-- What can be asked for. -/
inductive Step
  | subscribe (handle : Nat)
  | trigger (handle : Nat)
  | clone (handle : Nat)
  | drop (handle : Nat)
  | create
  | unsubscribe (handle waiter : Nat)
  /-- Every waiter is asked once. -/
  | poll
  | listen (handle : Nat)
  /-- Every listener that waits gets its signal and goes on to its end. -/
  | signal
deriving DecidableEq, Repr

inductive WaitState
  | waiting
  | resolved
  | gone
deriving DecidableEq, Repr

inductive Report
  /-- How many handles are alive, and how many waiters there ever were. -/
  | counts (handles waiters : Nat)
  | polled (states : List WaitState)
  | listening (n : Nat)
  | noHandle
  | noListener
deriving DecidableEq, Repr

namespace Coordinator

/-- One handle of one channel. -/
def init : Coordinator := {}

/-- The channel of a handle that is alive. -/
def channelOf? (c : Coordinator) (handle : Nat) : Option Nat := c.handles[handle]?.join

def waiter? (c : Coordinator) (waiter : Nat) : Option Waiter := c.waiters[waiter]?.join

def listener? (c : Coordinator) (listener : Nat) : Option Listener := c.listeners[listener]?.join

/-- Who can trigger a channel: its handles, and its listeners that have not ended. -/
def senders (c : Coordinator) (channel : Nat) : Nat :=
  c.handles.count (some channel) + c.listeners.countP fun l => l.any (·.channel = channel)

def receivers (c : Coordinator) (channel : Nat) : Nat :=
  c.waiters.countP fun w => w.any (·.channel = channel)

def liveHandles (c : Coordinator) : Nat := c.handles.countP Option.isSome

def waitingListeners (c : Coordinator) : List Nat :=
  (List.range c.listeners.length).filter fun j => (c.listener? j).any (·.stage = .waiting)

def channel (c : Coordinator) (i : Nat) : Channel := c.channels[i]?.getD .fresh

def triggerChannel (c : Coordinator) (channel : Nat) : Coordinator :=
  { c with channels := c.channels.modify channel fun ch => ch.send (c.receivers channel) }

/-- A waiter can go on. -/
def isReleased (c : Coordinator) (w : Waiter) : Bool :=
  ((c.channel w.channel).receive (c.senders w.channel) w.receiver).isReady

def waitState (c : Coordinator) : Option Waiter → WaitState
  | none => .gone
  | some w => if c.isReleased w then .resolved else .waiting

def find (c : Coordinator) (waiter : Nat) : WaitState := c.waitState (c.waiter? waiter)

/-! ## Actions -/

def after (c : Coordinator) : Action → Coordinator
  | .create => { c with
      channels := c.channels ++ [.fresh]
      handles := c.handles ++ [some c.channels.length] }
  | .clone handle => match c.channelOf? handle with
    | some i => { c with handles := c.handles ++ [some i] }
    | none => c
  | .drop handle => { c with handles := c.handles.set handle none }
  | .subscribe handle => match c.channelOf? handle with
    | some i => { c with waiters := c.waiters ++ [some ⟨i, (c.channel i).subscribe⟩] }
    | none => c
  | .trigger handle => match c.channelOf? handle with
    | some i => c.triggerChannel i
    | none => c
  | .listen handle => match c.channelOf? handle with
    | some i => { c with listeners := c.listeners ++ [some { channel := i }] }
    | none => c
  | .proceed listener => match c.listener? listener with
    | some ⟨i, .waiting⟩ => { c with listeners := c.listeners.set listener (some ⟨i, .alerted⟩) }
    | some ⟨i, .alerted⟩ =>
      { c.triggerChannel i with listeners := c.listeners.set listener (some ⟨i, .triggered⟩) }
    | some ⟨_, .triggered⟩ => { c with listeners := c.listeners.set listener none }
    | none => c
  | .await waiter =>
      if c.find waiter = .resolved then { c with waiters := c.waiters.set waiter none } else c
  | .leave waiter => { c with waiters := c.waiters.set waiter none }

/-- What is logged: that a listener has got its signal. -/
def noted (c : Coordinator) : Action → Journal
  | .proceed listener =>
      if (c.listener? listener).any (·.stage = .waiting) then .log .signalReceived else .empty
  | _ => .empty

def act (c : Coordinator) (a : Action) : Traced Coordinator := ⟨c.after a, c.noted a⟩

def afterAll (c : Coordinator) (as : List Action) : Coordinator := as.foldl after c

/-- Actions one after the other, and what is logged on them. -/
def acts (c : Coordinator) : List Action → Traced Coordinator
  | [] => pure c
  | a :: as => do
    let c ← c.act a
    c.acts as

theorem value_acts (c : Coordinator) (as : List Action) : (c.acts as).value = c.afterAll as := by
  induction as generalizing c with
  | nil => rfl
  | cons a as ih => exact ih (c.after a)

/-! ## Steps -/

def counted (c : Coordinator) : Coordinator × Report :=
  (c, .counts c.liveHandles c.waiters.length)

/-- A step with a handle, if it is alive. -/
def onHandle (c : Coordinator) (handle : Nat)
    (t : Traced (Coordinator × Report)) : Traced (Coordinator × Report) :=
  match c.channelOf? handle with
  | some _ => t
  | none => pure (c, .noHandle)

def step (c : Coordinator) : Step → Traced (Coordinator × Report)
  | .subscribe handle => c.onHandle handle (counted <$> c.act (.subscribe handle))
  | .trigger handle => c.onHandle handle (counted <$> c.act (.trigger handle))
  | .clone handle => c.onHandle handle (counted <$> c.act (.clone handle))
  | .drop handle => c.onHandle handle (counted <$> c.act (.drop handle))
  | .create => counted <$> c.act .create
  | .unsubscribe handle waiter => c.onHandle handle (counted <$> c.act (.leave waiter))
  | .poll => do
      let d ← c.acts ((List.range c.waiters.length).map .await)
      pure (d, .polled (c.waiters.map c.waitState))
  | .listen handle => c.onHandle handle do
      let c ← c.act (.listen handle)
      pure (c, .listening c.waitingListeners.length)
  | .signal =>
      if c.waitingListeners.isEmpty then pure (c, .noListener)
      else do
        -- each of them gets its signal, triggers and ends before the next one goes on
        let c ← c.acts (c.waitingListeners.flatMap fun j => List.replicate 3 (.proceed j))
        pure (c, .listening c.waitingListeners.length)

/-- Steps one after the other, with their answers. -/
def run (c : Coordinator) : List Step → Traced (Coordinator × List Report)
  | [] => pure (c, [])
  | s :: steps => do
    let (c, report) ← c.step s
    let (c, reports) ← c.run steps
    pure (c, report :: reports)

end Coordinator

end Session.Shutdown
