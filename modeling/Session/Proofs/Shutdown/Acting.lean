import Mathlib.Tactic
import Session.Shutdown.Coordinator

set_option autoImplicit false

/-! # What an action does

What is there after an action is said once for each field (`channels_after` and its neighbours),
and then for the parts that matter to a waiter: how much was sent through its channel, and who is
left who can trigger it. What an action keeps, a run keeps; and what is asked for is done by
actions.
-/

namespace Session.Shutdown

/-- What becomes of a listener that goes on; at last it ends. -/
def Listener.next? : Listener → Option Listener
  | ⟨i, .waiting⟩ => some ⟨i, .alerted⟩
  | ⟨i, .alerted⟩ => some ⟨i, .triggered⟩
  | ⟨_, .triggered⟩ => none

theorem Listener.channel_of_next? {l m : Listener} (h : m.next? = some l) :
    l.channel = m.channel := by
  obtain ⟨i, stage⟩ := m
  cases stage <;> cases h <;> rfl

namespace Coordinator

/-! ## The fields -/

/-- The channel that an action triggers, through a handle or by a listener that has got its
signal. -/
def triggered? (c : Coordinator) : Action → Option Nat
  | .trigger handle => c.channelOf? handle
  | .proceed listener => match c.listener? listener with
    | some ⟨i, .alerted⟩ => some i
    | _ => none
  | _ => none

/-- The waiter that an action makes leave. -/
def dismissed? (c : Coordinator) : Action → Option Nat
  | .await waiter => if c.find waiter = .resolved then some waiter else none
  | .leave waiter => some waiter
  | _ => none

variable {c : Coordinator} {i k : Nat} {w : Waiter}

theorem channels_after (c : Coordinator) (a : Action) : (c.after a).channels =
    if a = .create then c.channels ++ [.fresh]
    else (c.triggered? a).elim c.channels fun i => (c.triggerChannel i).channels := by
  cases a with
  | create => rfl
  | drop handle => rfl
  | leave waiter => rfl
  | trigger handle => simp only [after, triggered?]; split <;> simp_all
  | clone handle => simp only [after]; split <;> rfl
  | subscribe handle => simp only [after]; split <;> rfl
  | listen handle => simp only [after]; split <;> rfl
  | await waiter => simp only [after]; split <;> rfl
  | proceed listener => simp only [after, triggered?]; split <;> simp_all

theorem handles_after (c : Coordinator) (a : Action) : (c.after a).handles = match a with
    | .create => c.handles ++ [some c.channels.length]
    | .clone handle => (c.channelOf? handle).elim c.handles fun i => c.handles ++ [some i]
    | .drop handle => c.handles.set handle none
    | _ => c.handles := by
  cases a with
  | create => rfl
  | drop handle => rfl
  | leave waiter => rfl
  | trigger handle => simp only [after]; split <;> rfl
  | clone handle => simp only [after]; split <;> simp_all
  | subscribe handle => simp only [after]; split <;> rfl
  | listen handle => simp only [after]; split <;> rfl
  | await waiter => simp only [after]; split <;> rfl
  | proceed listener => simp only [after]; split <;> rfl

/-- An empty slot can be emptied again. -/
theorem set_none_of_listener? {j : Nat} (h : c.listener? j = none) :
    c.listeners.set j none = c.listeners := by
  refine List.ext_getElem? fun l => ?_
  by_cases hl : j = l
  · subst hl
    rw [listener?] at h
    rcases hj : c.listeners[j]? with _ | m
    · rw [List.getElem?_eq_none_iff, List.length_set]
      exact List.getElem?_eq_none_iff.1 hj
    · rw [hj] at h
      obtain rfl : m = none := h
      rw [List.getElem?_set_self (List.getElem?_eq_some_iff.1 hj).1]
  · rw [List.getElem?_set_ne hl]

theorem listeners_after (c : Coordinator) (a : Action) : (c.after a).listeners = match a with
    | .listen handle => (c.channelOf? handle).elim c.listeners fun i =>
        c.listeners ++ [some { channel := i }]
    | .proceed listener => c.listeners.set listener ((c.listener? listener).bind Listener.next?)
    | _ => c.listeners := by
  cases a with
  | create => rfl
  | drop handle => rfl
  | leave waiter => rfl
  | trigger handle => simp only [after]; split <;> rfl
  | clone handle => simp only [after]; split <;> rfl
  | subscribe handle => simp only [after]; split <;> rfl
  | listen handle => simp only [after]; split <;> simp_all
  | await waiter => simp only [after]; split <;> rfl
  | proceed listener =>
      simp only [after]
      cases hm : c.listener? listener with
      | none => exact (set_none_of_listener? hm).symm
      | some m =>
          obtain ⟨i, stage⟩ := m
          cases stage <;> rfl

/-- A listener that goes on leaves the others where they are. -/
theorem listener?_after_proceed (c : Coordinator) (j l : Nat) :
    (c.after (.proceed j)).listener? l
      = if l = j then (c.listener? j).bind Listener.next? else c.listener? l := by
  rw [listener?, listeners_after]
  dsimp only
  by_cases hl : l = j
  · subst hl
    by_cases hlt : l < c.listeners.length
    · rw [if_pos rfl, List.getElem?_set_self hlt, Option.join_some]
    · simp [listener?, hlt]
  · rw [if_neg hl, List.getElem?_set_ne (Ne.symm hl), listener?]

theorem waiters_after (c : Coordinator) (a : Action) : (c.after a).waiters = match a with
    | .subscribe handle => (c.channelOf? handle).elim c.waiters fun i =>
        c.waiters ++ [some ⟨i, (c.channel i).subscribe⟩]
    | a => (c.dismissed? a).elim c.waiters fun k => c.waiters.set k none := by
  cases a with
  | create => rfl
  | drop handle => rfl
  | leave waiter => rfl
  | trigger handle => simp only [after]; split <;> rfl
  | clone handle => simp only [after]; split <;> rfl
  | subscribe handle => simp only [after]; split <;> simp_all
  | listen handle => simp only [after]; split <;> rfl
  | await waiter => simp only [after, dismissed?]; split <;> rfl
  | proceed listener => simp only [after]; split <;> rfl

theorem length_channels_after (c : Coordinator) (a : Action) :
    c.channels.length ≤ (c.after a).channels.length := by
  rw [channels_after]
  by_cases ha : a = .create
  · simp [ha]
  · rw [if_neg ha]
    cases c.triggered? a <;> simp [triggerChannel]

theorem length_waiters_after (c : Coordinator) (a : Action) :
    c.waiters.length ≤ (c.after a).waiters.length := by
  have hleave : c.waiters.length
      ≤ ((c.dismissed? a).elim c.waiters fun k => c.waiters.set k none).length := by
    cases c.dismissed? a <;> simp
  rw [waiters_after]
  cases a with
  | subscribe handle => cases hh : c.channelOf? handle <;> simp [hh]
  | _ => exact hleave

/-! ## Channels, handles and waiters that belong together -/

/-- Handles and waiters belong to channels that there are, and no waiter is ahead of its
channel. -/
structure Sound (c : Coordinator) : Prop where
  handles : ∀ i, some i ∈ c.handles → i < c.channels.length
  waiters : ∀ k w, c.waiter? k = some w → w.channel < c.channels.length
  next_le : ∀ k w, c.waiter? k = some w → w.receiver.next ≤ (c.channel w.channel).sent

theorem mem_handles_of_channelOf? {handle : Nat} (hh : c.channelOf? handle = some i) :
    some i ∈ c.handles := by
  rw [channelOf?, Option.join_eq_some_iff] at hh
  exact List.mem_of_getElem? hh

theorem sound_init : init.Sound := by
  have hnone : ∀ k, init.waiter? k = none := fun _ => rfl
  refine ⟨fun i hi => ?_, fun k w hw => ?_, fun k w hw => ?_⟩
  · have hzero : i = 0 := by simpa [init] using hi
    exact hzero ▸ Nat.zero_lt_one
  · rw [hnone k] at hw
    cases hw
  · rw [hnone k] at hw
    cases hw

/-- How many messages were sent, after an action. Without a receiver none is added. -/
theorem sent_after (hi : i < c.channels.length) (a : Action) : ((c.after a).channel i).sent
    = (c.channel i).sent + if c.triggered? a = some i ∧ 0 < c.receivers i then 1 else 0 := by
  by_cases ha : a = .create
  · have hnone : c.triggered? a = none := by rw [ha]; rfl
    rw [channel, channels_after, if_pos ha, List.getElem?_append_left hi, hnone]
    simp [channel]
  · rw [channel, channels_after, if_neg ha]
    cases ht : c.triggered? a with
    | none => simp [channel]
    | some j =>
        by_cases hj : j = i
        · subst hj
          -- the message is dropped if nobody waits
          by_cases hr : c.receivers j = 0
          · simp [triggerChannel, channel, Channel.send, hi, hr]
          · simp [triggerChannel, channel, Channel.send, hi, hr, Nat.pos_of_ne_zero hr]
        · simp [triggerChannel, channel, hj]

/-- What is there of a waiter after an action. -/
theorem waiter?_after (hk : k < c.waiters.length) (a : Action) :
    (c.after a).waiter? k = if c.dismissed? a = some k then none else c.waiter? k := by
  have hleave : ((c.dismissed? a).elim c.waiters fun k => c.waiters.set k none)[k]?.join
      = if c.dismissed? a = some k then none else c.waiters[k]?.join := by
    cases hd : c.dismissed? a with
    | none => rfl
    | some j =>
        by_cases hj : j = k
        · subst hj
          simp [hk]
        · simp [hj]
  rw [waiter?, waiter?, waiters_after]
  cases a with
  | subscribe handle =>
      -- the new waiter stands behind all others
      cases hh : c.channelOf? handle <;>
        simp [dismissed?, hh, List.getElem?_append_left hk]
  | _ => exact hleave

/-- A waiter that an action has left where it was. -/
theorem waiter?_of_after {a : Action} (hk : k < c.waiters.length)
    (hw : (c.after a).waiter? k = some w) : c.waiter? k = some w := by
  rw [waiter?_after hk] at hw
  split at hw
  · cases hw
  · exact hw

/-- A waiter that was not there before has just subscribed. -/
theorem waiter?_after_of_le {a : Action} (hk : c.waiters.length ≤ k)
    (hw : (c.after a).waiter? k = some w) :
    ∃ i, some i ∈ c.handles ∧ (c.after a).channels = c.channels ∧
      w = ⟨i, (c.channel i).subscribe⟩ := by
  have hempty : ((c.dismissed? a).elim c.waiters fun k => c.waiters.set k none)[k]? = none := by
    cases c.dismissed? a <;> simpa using hk
  rw [waiter?, waiters_after] at hw
  cases a with
  | subscribe handle =>
      cases hh : c.channelOf? handle with
      | none => simp [hh, List.getElem?_eq_none hk] at hw
      | some i =>
          refine ⟨i, mem_handles_of_channelOf? hh, ?_, ?_⟩
          · rw [channels_after]
            rfl
          · simp only [hh, Option.elim_some, List.getElem?_append_right hk] at hw
            cases hn : k - c.waiters.length with
            | zero => simpa [hn, eq_comm] using hw
            | succ n => simp [hn] at hw
  | _ => simp [hempty] at hw

/-- A channel of a handle was the channel of one before, or is new. -/
theorem mem_handles_after {a : Action} (hi : some i ∈ (c.after a).handles) :
    some i ∈ c.handles ∨ a = .create ∧ i = c.channels.length := by
  rw [handles_after] at hi
  cases a with
  | create =>
      rcases List.mem_append.1 hi with hi | hi
      · exact Or.inl hi
      · exact Or.inr ⟨rfl, by simpa using hi⟩
  | clone handle =>
      cases hh : c.channelOf? handle with
      | none => exact Or.inl (by simpa [hh] using hi)
      | some j =>
          simp only [hh, Option.elim_some, List.mem_append, List.mem_singleton,
            Option.some.injEq] at hi
          rcases hi with hi | rfl
          · exact Or.inl hi
          · exact Or.inl (mem_handles_of_channelOf? hh)
  | drop handle =>
      rcases List.mem_or_eq_of_mem_set hi with hi | hi
      · exact Or.inl hi
      · cases hi
  | _ => exact Or.inl hi

/-- **What belongs together stays so.** -/
theorem Sound.after (hs : c.Sound) (a : Action) : (c.after a).Sound := by
  have hlen := length_channels_after c a
  -- a channel only gets more messages
  have hsent : ∀ i, i < c.channels.length → (c.channel i).sent ≤ ((c.after a).channel i).sent := by
    intro i hi
    rw [sent_after hi]
    exact Nat.le_add_right _ _
  have hnew : ∀ k w, c.waiters.length ≤ k → (c.after a).waiter? k = some w →
      w.channel < (c.after a).channels.length ∧
        w.receiver.next ≤ ((c.after a).channel w.channel).sent := by
    intro k w hk hw
    obtain ⟨i, hi, hch, rfl⟩ := waiter?_after_of_le hk hw
    exact ⟨lt_of_lt_of_le (hs.handles i hi) hlen, hsent i (hs.handles i hi)⟩
  refine ⟨fun i hi => ?_, fun k w hw => ?_, fun k w hw => ?_⟩
  · rcases mem_handles_after hi with hi | ⟨rfl, rfl⟩
    · exact lt_of_lt_of_le (hs.handles i hi) hlen
    · rw [channels_after, if_pos rfl]
      simp
  · rcases lt_or_ge k c.waiters.length with hk | hk
    · exact lt_of_lt_of_le (hs.waiters k w (waiter?_of_after hk hw)) hlen
    · exact (hnew k w hk hw).1
  · rcases lt_or_ge k c.waiters.length with hk | hk
    · have hw := waiter?_of_after hk hw
      exact le_trans (hs.next_le k w hw) (hsent _ (hs.waiters k w hw))
    · exact (hnew k w hk hw).2

theorem length_waiters_afterAll (c : Coordinator) (as : List Action) :
    c.waiters.length ≤ (c.afterAll as).waiters.length := by
  induction as generalizing c with
  | nil => exact Nat.le_refl _
  | cons a as ih => exact le_trans (length_waiters_after c a) (ih (c.after a))

theorem Sound.afterAll (hs : c.Sound) (as : List Action) : (c.afterAll as).Sound := by
  induction as generalizing c with
  | nil => exact hs
  | cons a as ih => exact ih (hs.after a)

/-! ## Who can trigger -/

theorem senders_eq_zero_iff : c.senders i = 0
    ↔ some i ∉ c.handles ∧ ∀ l, some l ∈ c.listeners → l.channel ≠ i := by
  have hlisteners : (c.listeners.countP fun l => l.any (·.channel = i)) = 0
      ↔ ∀ l, some l ∈ c.listeners → l.channel ≠ i := by
    rw [List.countP_eq_zero]
    constructor
    · intro h l hl heq
      exact h (some l) hl (by simpa using heq)
    · intro h l hl
      cases l with
      | none => simp
      | some l => simpa using h l hl
  rw [senders, Nat.add_eq_zero_iff, List.count_eq_zero, hlisteners]

/-- A channel of a listener was the channel of one before, or of a handle. -/
theorem mem_listeners_after {a : Action} {l : Listener} (hl : some l ∈ (c.after a).listeners) :
    some l.channel ∈ c.handles ∨ ∃ m, some m ∈ c.listeners ∧ m.channel = l.channel := by
  have hold : some l ∈ c.listeners → some l.channel ∈ c.handles ∨
      ∃ m, some m ∈ c.listeners ∧ m.channel = l.channel := fun h => Or.inr ⟨l, h, rfl⟩
  rw [listeners_after] at hl
  cases a with
  | listen handle =>
      cases hh : c.channelOf? handle with
      | none => exact hold (by simpa [hh] using hl)
      | some j =>
          simp only [hh, Option.elim_some, List.mem_append, List.mem_singleton,
            Option.some.injEq] at hl
          rcases hl with hl | rfl
          · exact hold hl
          · exact Or.inl (mem_handles_of_channelOf? hh)
  | proceed listener =>
      rcases List.mem_or_eq_of_mem_set hl with hl | heq
      · exact hold hl
      · -- a listener that goes on keeps its channel
        obtain ⟨m, hm, hnext⟩ := Option.bind_eq_some_iff.1 heq.symm
        rw [listener?, Option.join_eq_some_iff] at hm
        exact Or.inr ⟨m, List.mem_of_getElem? hm, (Listener.channel_of_next? hnext).symm⟩
  | _ => exact hold hl

/-- Once nobody can trigger a channel, nobody ever can. -/
theorem senders_after_eq_zero (hi : i < c.channels.length) (h : c.senders i = 0) (a : Action) :
    (c.after a).senders i = 0 := by
  rw [senders_eq_zero_iff] at h ⊢
  refine ⟨fun hmem => ?_, fun l hl heq => ?_⟩
  · rcases mem_handles_after hmem with hmem | ⟨-, rfl⟩
    · exact h.1 hmem
    · exact absurd hi (Nat.lt_irrefl _)
  · rcases mem_listeners_after hl with hmem | ⟨m, hm, hch⟩
    · exact h.1 (heq ▸ hmem)
    · exact h.2 m hm (hch.trans heq)

/-! ## What is asked for -/

/-- Actions with a handle, if it is alive. -/
def withHandle (c : Coordinator) (handle : Nat) (as : List Action) : List Action :=
  (c.channelOf? handle).elim [] fun _ => as

/-- The actions that a step comes to, in the state that it meets. -/
def actionsOf (c : Coordinator) : Step → List Action
  | .subscribe handle => c.withHandle handle [.subscribe handle]
  | .trigger handle => c.withHandle handle [.trigger handle]
  | .clone handle => c.withHandle handle [.clone handle]
  | .drop handle => c.withHandle handle [.drop handle]
  | .create => [.create]
  | .unsubscribe handle waiter => c.withHandle handle [.leave waiter]
  | .poll => (List.range c.waiters.length).map .await
  | .listen handle => c.withHandle handle [.listen handle]
  | .signal => c.waitingListeners.flatMap fun j => List.replicate 3 (.proceed j)

/-- **What is asked for is done by actions.** -/
theorem value_step (c : Coordinator) (s : Step) :
    (c.step s).value.1 = c.afterAll (c.actionsOf s) := by
  have honHandle : ∀ {handle : Nat} {t : Traced (Coordinator × Report)} {as : List Action},
      t.value.1 = c.afterAll as → (c.onHandle handle t).value.1
        = c.afterAll (c.withHandle handle as) := by
    intro handle t as ht
    rw [onHandle, withHandle]
    cases c.channelOf? handle with
    | none => rfl
    | some i => exact ht
  cases s with
  | subscribe handle => exact honHandle rfl
  | trigger handle => exact honHandle rfl
  | clone handle => exact honHandle rfl
  | drop handle => exact honHandle rfl
  | create => rfl
  | unsubscribe handle waiter => exact honHandle rfl
  | poll => exact value_acts c _
  | listen handle => exact honHandle rfl
  | signal =>
      rw [step, actionsOf]
      split
      · next hidle => rw [List.isEmpty_iff.1 hidle]; rfl
      · exact value_acts c _

theorem afterAll_append (c : Coordinator) (as bs : List Action) :
    c.afterAll (as ++ bs) = (c.afterAll as).afterAll bs :=
  List.foldl_append

def actionsOfAll (c : Coordinator) : List Step → List Action
  | [] => []
  | s :: steps => c.actionsOf s ++ (c.step s).value.1.actionsOfAll steps

/-- A run of what is asked for is a run of actions. -/
theorem value_run (c : Coordinator) (steps : List Step) :
    (c.run steps).value.1 = c.afterAll (c.actionsOfAll steps) := by
  induction steps generalizing c with
  | nil => rfl
  | cons s steps ih =>
      show ((c.step s).value.1.run steps).value.1 = _
      rw [ih, actionsOfAll, afterAll_append, ← value_step]

end Coordinator

end Session.Shutdown
