import Mathlib.Tactic
import Session.Command.Startup

set_option autoImplicit false

/-! # A signal while the command starts up

Whether the signal stops the server depends on one thing, which of two comes first: that the
listener triggers, or that the command subscribes. What is sent while nobody is subscribed is
dropped, and the listener triggers once.

Before the command has subscribed there are few states to be in (`SettingUp`), and few after it
(`Serving`). A turn leads from one of them to another, and so does a run.
-/

namespace Session.Command.Startup

open Shutdown

variable {s : Startup} {lost : Bool}

/-- The parties when the listener is at a stage, or has ended; so many messages were sent. -/
def parties (stage : Option Stage) (sent : Nat) (waiters : List (Option Waiter)) : Coordinator where
  channels := [⟨sent⟩]
  handles := [some 0]
  waiters := waiters
  listeners := [stage.map (Listener.mk 0)]

/-- The server's subscription, made before anything was sent. -/
def subscription : Waiter := ⟨0, ⟨0⟩⟩

/-- The listener is past its trigger. -/
def isPast (stage : Option Stage) : Bool := stage.all (· = .triggered)

theorem hasTriggered_parties (stage : Option Stage) (sent : Nat) (waiters : List (Option Waiter))
    (todo : List Action) : hasTriggered ⟨parties stage sent waiters, todo⟩ = isPast stage := by
  cases stage <;> rfl

/-- The server waits as long as nothing was sent to it, since the handle stays alive. -/
theorem find_parties (stage : Option Stage) :
    (parties stage 0 [some subscription]).find 0 = .waiting := by
  rcases stage with _ | _ | _ | _ <;> rfl

/-! ## Until the command has subscribed -/

/-- The states until the command has subscribed. -/
inductive SettingUp : Startup → Prop
  | begun : SettingUp {}
  | created : SettingUp ⟨.init, [.listen 0, .subscribe 0]⟩
  | listening (stage : Option Stage) : SettingUp ⟨parties stage 0 [], [.subscribe 0]⟩

theorem SettingUp.not_isServing (h : SettingUp s) : s.isServing = false := by
  cases h <;> rfl

/-- **The listener alone changes nothing for the server to come.** If it triggers now, nobody
hears of it. -/
theorem SettingUp.listener (h : SettingUp s) : SettingUp (s.turn .listener) := by
  cases h with
  | begun => exact .begun
  | created => exact .created
  | listening stage =>
      match stage with
      | some .waiting => exact .listening (some .alerted)
      | some .alerted => exact .listening (some .triggered)
      | some .triggered => exact .listening none
      | none => exact .listening none

/-! ## After it -/

/-- The states after the command has subscribed. The signal is `lost` if the listener had
triggered by then. -/
inductive Serving (lost : Bool) : Startup → Prop
  /-- Nothing has come, for it is lost or not yet sent. -/
  | waiting (stage : Option Stage) (h : isPast stage = lost) :
      Serving lost ⟨parties stage 0 [some subscription], []⟩
  /-- The listener has triggered, and the server has not taken notice yet. -/
  | told (stage : Option Stage) (hl : lost = false) (h : isPast stage = true) :
      Serving lost ⟨parties stage 1 [some subscription], []⟩
  /-- The server has gone on. -/
  | stopped (stage : Option Stage) (hl : lost = false) (h : isPast stage = true) :
      Serving lost ⟨parties stage 1 [none], []⟩

theorem Serving.todo (h : Serving lost s) : s.todo = [] := by
  cases h <;> rfl

/-- **What stops the server** is a trigger that is not lost. -/
theorem Serving.isStopped_iff (h : Serving lost s) :
    s.isStopped = true ↔ s.hasTriggered = true ∧ lost = false := by
  cases h with
  | waiting stage h =>
      -- the server waits, so a trigger that there was is a lost one
      have hwaits : isStopped ⟨parties stage 0 [some subscription], []⟩ = false := by
        rw [isStopped, find_parties]
        rfl
      rw [hasTriggered_parties, h, hwaits]
      cases lost <;> decide
  | told stage hl h =>
      rw [hasTriggered_parties]
      exact iff_of_true rfl ⟨h, hl⟩
  | stopped stage hl h =>
      rw [hasTriggered_parties]
      exact iff_of_true rfl ⟨h, hl⟩

theorem Serving.listener (h : Serving lost s) : Serving lost (s.turn .listener) := by
  cases h with
  | waiting stage h =>
      -- it can trigger only if it has not done so before, and then nothing is lost
      match stage with
      | some .waiting => exact .waiting (some .alerted) h
      | some .alerted => exact .told (some .triggered) h.symm rfl
      | some .triggered => exact .waiting none h
      | none => exact .waiting none h
  | told stage hl h =>
      match stage with
      | some .triggered => exact .told none hl h
      | none => exact .told none hl h
  | stopped stage hl h =>
      match stage with
      | some .triggered => exact .stopped none hl h
      | none => exact .stopped none hl h

theorem Serving.command (h : Serving lost s) : Serving lost (s.turn .command) := by
  cases h with
  | waiting stage h =>
      rw [turn, Coordinator.after, find_parties]
      exact .waiting stage h
  | told stage hl h => exact .stopped stage hl h
  | stopped stage hl h => exact .stopped stage hl h

theorem Serving.turns (h : Serving lost s) (ts : List Turn) : Serving lost (s.turns ts) := by
  induction ts generalizing s with
  | nil => exact h
  | cons t ts ih =>
      cases t with
      | command => exact ih h.command
      | listener => exact ih h.listener

/-! ## Every order of the turns -/

/-- The turn in which the command subscribes leads from one sort of states to the other. -/
theorem serving_of_subscribing {stage : Option Stage} {before rest : List Turn}
    (hbefore : s.turns before = ⟨parties stage 0 [], [.subscribe 0]⟩) :
    Serving (isPast stage) (s.turns (before ++ .command :: rest)) := by
  have hsubscribed : Serving (isPast stage) ((s.turns before).turn .command) := by
    rw [hbefore]
    exact .waiting stage rfl
  have hsplit : s.turns (before ++ .command :: rest)
      = ((s.turns before).turn .command).turns rest := by
    rw [turns, turns, turns, List.foldl_append, List.foldl_cons]
  rw [hsplit]
  exact hsubscribed.turns rest

/-- A run sets up until its end, or there is a turn in it in which the command subscribes. -/
theorem SettingUp.turns_cases (h : SettingUp s) (ts : List Turn) :
    SettingUp (s.turns ts) ∨ ∃ before rest stage, ts = before ++ .command :: rest ∧
      s.turns before = ⟨parties stage 0 [], [.subscribe 0]⟩ := by
  induction ts generalizing s with
  | nil => exact .inl h
  | cons t ts ih =>
      -- where the turn leads to another state of setting up, the rest of the run decides
      have hlater (hnext : SettingUp (s.turn t)) : SettingUp (s.turns (t :: ts)) ∨
          ∃ before rest stage, t :: ts = before ++ .command :: rest ∧
            s.turns before = ⟨parties stage 0 [], [.subscribe 0]⟩ := by
        rcases ih hnext with hend | ⟨before, rest, stage, rfl, hbefore⟩
        · exact .inl hend
        · exact .inr ⟨t :: before, rest, stage, rfl, hbefore⟩
      cases t with
      | listener => exact hlater h.listener
      | command =>
          cases h with
          | begun => exact hlater .created
          | created => exact hlater (.listening (some .waiting))
          | listening stage => exact .inr ⟨[], ts, stage, rfl, rfl⟩

/-- When only the subscription is left to do, the listener is there, and nothing was sent. -/
theorem exists_eq_of_todo {before : List Turn} (htodo : (turns {} before).todo = [.subscribe 0]) :
    ∃ stage, turns {} before = ⟨parties stage 0 [], [.subscribe 0]⟩ := by
  rcases SettingUp.begun.turns_cases before with hend | ⟨first, rest, stage, rfl, hfirst⟩
  · generalize turns {} before = s at hend htodo ⊢
    cases hend with
    | begun => cases htodo
    | created => cases htodo
    | listening stage => exact ⟨stage, rfl⟩
  · -- once the command has subscribed, nothing is left to do
    rw [(serving_of_subscribing hfirst).todo] at htodo
    cases htodo

/-- **Which signals stop the server.** Take any order of the turns in which the command has
subscribed. Some turn is the one in which it did; and with the run cut there, the server is
stopped exactly if the listener has triggered and had not done so before the cut. So a signal that
comes through after the cut stops the server, and one that came through before it is lost,
whatever happens later. -/
theorem isStopped_iff_triggered {ts : List Turn} (hserving : (turns {} ts).isServing = true) :
    (∃ before rest, ts = before ++ .command :: rest ∧ (turns {} before).todo = [.subscribe 0]) ∧
    ∀ before rest, ts = before ++ .command :: rest → (turns {} before).todo = [.subscribe 0] →
      ((turns {} ts).isStopped = true ↔
        (turns {} ts).hasTriggered = true ∧ (turns {} before).hasTriggered = false) := by
  constructor
  · rcases SettingUp.begun.turns_cases ts with hend | ⟨before, rest, stage, hcut, hbefore⟩
    · rw [hend.not_isServing] at hserving
      cases hserving
    · exact ⟨before, rest, hcut, by rw [hbefore]⟩
  · rintro before rest rfl htodo
    obtain ⟨stage, hbefore⟩ := exists_eq_of_todo htodo
    have hlost : (turns {} before).hasTriggered = isPast stage := by
      rw [hbefore, hasTriggered_parties]
    rw [hlost]
    exact (serving_of_subscribing hbefore).isStopped_iff

/-- The listener gets its signal before the command subscribes, and triggers after it. -/
theorem isStopped_of_belated :
    (turns {} [.command, .command, .listener, .command, .listener]).isServing = true ∧
    (turns {} [.command, .command, .listener, .command, .listener]).isStopped = true := by
  have hserving : (turns {} [.command, .command, .listener, .command, .listener]).isServing = true :=
    by decide
  obtain ⟨-, hcut⟩ := isStopped_iff_triggered hserving
  have hstopped := hcut [.command, .command, .listener] [.listener] rfl (by decide)
  exact ⟨hserving, hstopped.2 (by decide)⟩

/-- **A signal can be lost.** The command is about to subscribe when the listener gets its signal,
triggers and ends. Then the command subscribes, and the server waits. -/
theorem not_isStopped_of_early :
    let s := turns {} [.command, .command, .listener, .listener, .listener, .command]
    s.isServing = true ∧ s.hasSignal = true ∧ s.hasTriggered = true ∧ s.isStopped = false := by
  decide

end Session.Command.Startup
