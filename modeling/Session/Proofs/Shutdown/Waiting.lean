import Session.Proofs.Shutdown.Acting

set_option autoImplicit false

/-! # Waiting for the shutdown

A receiver counts messages, and a channel keeps only the last one of them and drops what is sent
while nobody listens. For a waiter nothing of this shows: all that matters is whether its channel
was triggered since it subscribed, and whether anybody is left who could do so.

One waiter is looked at: `view` is what there is to know of it, its channel and whether something
was sent to it, and `view_after` says what an action does to that. What a run does follows by
induction, and so does that the other waiters make no difference (`Alike.afterAll`). A step
does to a waiter what its actions do (`triggered_actionsOf`, `dismissed_actionsOf`), so a run of
steps comes to the same (`find_run`).
-/

namespace Session.Shutdown.Coordinator

variable {c d : Coordinator} {i j k : Nat} {w : Waiter}

/-! ## One waiter -/

/-- A message was sent to the waiter, and it has not taken it. -/
def isSentTo (c : Coordinator) (w : Waiter) : Bool :=
  w.receiver.next < (c.channel w.channel).sent

/-- The channel of a waiter, and whether something was sent to it. -/
def view (c : Coordinator) (k : Nat) : Option (Nat × Bool) :=
  (c.waiter? k).map fun w => (w.channel, c.isSentTo w)

theorem find_of_view_none (hv : c.view k = none) : c.find k = .gone := by
  rw [view, Option.map_eq_none_iff] at hv
  rw [find, hv]
  rfl

theorem find_of_view_some {b : Bool} (hv : c.view k = some (i, b)) :
    c.find k = if b = true ∨ c.senders i = 0 then .resolved else .waiting := by
  rw [view, Option.map_eq_some_iff] at hv
  obtain ⟨w, hw, heq⟩ := hv
  obtain ⟨rfl, rfl⟩ := Prod.mk.inj heq
  have hready : c.isReleased w = true ↔ c.isSentTo w = true ∨ c.senders w.channel = 0 := by
    rw [isReleased, Channel.isReady_receive, isSentTo, decide_eq_true_iff]
  rw [find, hw]
  simp only [waitState, hready]

theorem find_eq_resolved_iff {b : Bool} (hv : c.view k = some (i, b)) :
    c.find k = .resolved ↔ b = true ∨ c.senders i = 0 := by
  rw [find_of_view_some hv, ite_eq_left_iff]
  exact ⟨fun h => by_contra fun hnot => WaitState.noConfusion (h hnot), fun h hnot => absurd h hnot⟩

theorem view_of_find_gone (h : c.find k = .gone) : c.view k = none := by
  cases hv : c.view k with
  | none => rfl
  | some v =>
      obtain ⟨i, b⟩ := v
      rw [find_of_view_some hv] at h
      split at h <;> cases h

theorem receivers_pos (hw : c.waiter? k = some w) : 0 < c.receivers w.channel := by
  rw [waiter?, Option.join_eq_some_iff] at hw
  rw [receivers, List.countP_pos_iff]
  exact ⟨some w, List.mem_of_getElem? hw, by simp⟩

/-- **What an action does to a waiter**: it leaves, or it stays, and then nothing counts but
whether its channel is triggered. Since it waits, the message is not dropped. -/
theorem view_after (hs : c.Sound) (hk : k < c.waiters.length) (a : Action) :
    (c.after a).view k = if c.dismissed? a = some k then none
      else (c.view k).map fun v => (v.1, v.2 || c.triggered? a = some v.1) := by
  rw [view, waiter?_after hk]
  by_cases hd : c.dismissed? a = some k
  · rw [if_pos hd, if_pos hd]
    rfl
  · rw [if_neg hd, if_neg hd, view, Option.map_map]
    refine Option.map_congr fun w hw => ?_
    have hle := hs.next_le k w hw
    have hsent := sent_after (hs.waiters k w hw) a
    simp only [and_iff_left (receivers_pos hw)] at hsent
    have hheard : (c.after a).isSentTo w
        = (c.isSentTo w || decide (c.triggered? a = some w.channel)) := by
      rw [isSentTo, isSentTo, ← Bool.decide_or, decide_eq_decide, hsent]
      by_cases ht : c.triggered? a = some w.channel
      · rw [if_pos ht]
        exact iff_of_true (by omega) (Or.inr ht)
      · rw [if_neg ht, Nat.add_zero, or_iff_left ht]
    rw [hheard]
    rfl

/-- A new waiter has nothing sent to it yet. -/
theorem view_after_subscribe {handle : Nat} (hh : c.channelOf? handle = some i) :
    (c.after (.subscribe handle)).view c.waiters.length = some (i, false) := by
  have hafter : c.after (.subscribe handle)
      = { c with waiters := c.waiters ++ [some ⟨i, (c.channel i).subscribe⟩] } := by
    simp [after, hh]
  have hnone : decide ((c.channel i).subscribe.next < (c.channel i).sent) = false :=
    decide_eq_false (Nat.lt_irrefl _)
  rw [hafter, view, waiter?, List.getElem?_append_right (Nat.le_refl _), Nat.sub_self]
  exact congrArg (fun b => some (i, b)) hnone

/-- **A wait that is ready does not become pending again.** -/
theorem find_after_ne_waiting (hs : c.Sound) (hk : k < c.waiters.length)
    (h : c.find k ≠ .waiting) (a : Action) : (c.after a).find k ≠ .waiting := by
  have hview := view_after hs hk a
  cases hv : c.view k with
  | none =>
      have hnone : (c.after a).view k = none := by
        rw [hview, hv]
        exact ite_self none
      rw [find_of_view_none hnone]
      exact WaitState.noConfusion
  | some v =>
      obtain ⟨i, b⟩ := v
      by_cases hd : c.dismissed? a = some k
      · rw [if_pos hd] at hview
        rw [find_of_view_none hview]
        exact WaitState.noConfusion
      · rw [if_neg hd, hv, Option.map_some] at hview
        -- it was ready for a message, or because nobody is left
        have hready : b = true ∨ c.senders i = 0 := by
          by_contra hnot
          rw [find_of_view_some hv, if_neg hnot] at h
          exact h rfl
        have hi : i < c.channels.length := by
          obtain ⟨w, hw, heq⟩ := Option.map_eq_some_iff.1 hv
          exact (Prod.mk.inj heq).1 ▸ hs.waiters k w hw
        have hstill : (b || decide (c.triggered? a = some i)) = true ∨ (c.after a).senders i = 0 :=
          hready.imp (fun hb => by rw [hb, Bool.true_or]) fun hz => senders_after_eq_zero hi hz a
        rw [find_of_view_some hview, if_pos hstill]
        exact WaitState.noConfusion

/-! ## Runs -/

/-- Some action of the run is of the sort `P`, in the state that it meets. -/
def Occurs (P : Coordinator → Action → Prop) (c : Coordinator) (as : List Action) : Prop :=
  ∃ first a rest, as = first ++ a :: rest ∧ P (c.afterAll first) a

def Triggered (c : Coordinator) (i : Nat) (as : List Action) : Prop :=
  c.Occurs (fun c a => c.triggered? a = some i) as

def Dismissed (c : Coordinator) (k : Nat) (as : List Action) : Prop :=
  c.Occurs (fun c a => c.dismissed? a = some k) as

section Runs

variable {P : Coordinator → Action → Prop} {a : Action} {as : List Action} {b : Bool}

theorem not_occurs_nil : ¬ Occurs P c [] := by
  rintro ⟨first, a, rest, hsplit, -⟩
  cases first <;> cases hsplit

theorem occurs_cons : Occurs P c (a :: as) ↔ P c a ∨ Occurs P (c.after a) as := by
  constructor
  · rintro ⟨first, a', rest, hsplit, ha⟩
    cases first with
    | nil =>
        obtain ⟨rfl, rfl⟩ := List.cons.inj hsplit
        exact Or.inl ha
    | cons b first =>
        obtain ⟨rfl, rfl⟩ := List.cons.inj hsplit
        exact Or.inr ⟨first, a', rest, rfl, ha⟩
  · rintro (ha | ⟨first, a', rest, rfl, ha⟩)
    · exact ⟨[], a, as, rfl, ha⟩
    · exact ⟨a :: first, a', rest, rfl, ha⟩

theorem occurs_append {bs : List Action} :
    Occurs P c (as ++ bs) ↔ Occurs P c as ∨ Occurs P (c.afterAll as) bs := by
  induction as generalizing c with
  | nil => exact (or_iff_right not_occurs_nil).symm
  | cons a as ih =>
      rw [List.cons_append, occurs_cons, occurs_cons, ih, or_assoc]
      rfl

/-- With a handle that is gone nothing occurs. -/
theorem occurs_withHandle {handle : Nat} :
    Occurs P c (c.withHandle handle [a]) ↔ (c.channelOf? handle).isSome = true ∧ P c a := by
  rw [withHandle]
  cases c.channelOf? handle with
  | none => exact iff_of_false not_occurs_nil fun h => Bool.false_ne_true h.1
  | some i =>
      refine occurs_cons.trans ((or_iff_left not_occurs_nil).trans ?_)
      exact (and_iff_right rfl).symm

theorem not_occurs_of_forall (h : ∀ a ∈ as, ∀ d, ¬ P d a) : ¬ Occurs P c as := by
  rintro ⟨first, a, rest, rfl, ha⟩
  exact h a (List.mem_append_right first List.mem_cons_self) _ ha

theorem view_afterAll_of_none (hs : c.Sound) (hk : k < c.waiters.length) (hv : c.view k = none)
    (as : List Action) : (c.afterAll as).view k = none := by
  induction as generalizing c with
  | nil => exact hv
  | cons a as ih =>
      refine ih (hs.after a) (lt_of_lt_of_le hk (length_waiters_after c a)) ?_
      rw [view_after hs hk, hv]
      exact ite_self none

/-- **What a run does to a waiter**: it is gone if it was dismissed, and else something was sent
to it exactly if its channel was triggered. -/
theorem view_afterAll (hs : c.Sound) (hk : k < c.waiters.length) (hv : c.view k = some (i, b))
    (as : List Action) :
    ((c.afterAll as).view k = none ↔ c.Dismissed k as) ∧
      ∀ v, (c.afterAll as).view k = some v →
        v.1 = i ∧ (v.2 = true ↔ b = true ∨ c.Triggered i as) := by
  -- `b` goes along: it becomes true with the first trigger
  induction as generalizing c b with
  | nil =>
      refine ⟨iff_of_false ?_ not_occurs_nil, fun v hv' => ?_⟩
      · show c.view k ≠ none
        rw [hv]
        exact Option.some_ne_none _
      · obtain rfl : (i, b) = v := Option.some.inj (hv.symm.trans hv')
        exact ⟨rfl, (or_iff_left not_occurs_nil).symm⟩
  | cons a as ih =>
      have hs' := hs.after a
      have hk' := lt_of_lt_of_le hk (length_waiters_after c a)
      have hview := view_after hs hk a
      rw [Dismissed, Triggered, occurs_cons, occurs_cons]
      by_cases hd : c.dismissed? a = some k
      · -- it leaves here, and does not come back
        rw [if_pos hd] at hview
        have hnone : (c.afterAll (a :: as)).view k = none := view_afterAll_of_none hs' hk' hview as
        refine ⟨iff_of_true hnone (Or.inl hd), fun v hv' => ?_⟩
        rw [hnone] at hv'
        cases hv'
      · rw [if_neg hd, hv, Option.map_some] at hview
        obtain ⟨hgone, hsome⟩ := ih hs' hk' hview
        refine ⟨hgone.trans (or_iff_right hd).symm, fun v hv' => ?_⟩
        obtain ⟨hch, hheard⟩ := hsome v hv'
        refine ⟨hch, hheard.trans ?_⟩
        rw [Bool.or_eq_true, decide_eq_true_iff, or_assoc]
        rfl

/-- So a new waiter is gone if it was dismissed, and else it is ready if its channel was
triggered, or can no longer be. -/
theorem find_afterAll (hs : c.Sound) (hk : k < c.waiters.length) (hv : c.view k = some (i, false))
    (as : List Action) :
    ((c.afterAll as).find k = .gone ↔ c.Dismissed k as) ∧
      ((c.afterAll as).find k ≠ .gone →
        ((c.afterAll as).find k = .resolved ↔ c.Triggered i as ∨ (c.afterAll as).senders i = 0)) := by
  obtain ⟨hgone, hsome⟩ := view_afterAll hs hk hv as
  refine ⟨?_, fun hthere => ?_⟩
  · rw [← hgone]
    exact ⟨view_of_find_gone, find_of_view_none⟩
  · cases hv' : (c.afterAll as).view k with
    | none => exact absurd (find_of_view_none hv') hthere
    | some v =>
        obtain ⟨channel, heard⟩ := v
        obtain ⟨rfl, hheard⟩ := hsome _ hv'
        rw [find_eq_resolved_iff hv', hheard, or_iff_right Bool.false_ne_true]

theorem find_afterAll_ne_waiting (hs : c.Sound) (hk : k < c.waiters.length)
    (h : c.find k ≠ .waiting) (as : List Action) : (c.afterAll as).find k ≠ .waiting := by
  induction as generalizing c with
  | nil => exact h
  | cons a as ih =>
      exact ih (hs.after a) (lt_of_lt_of_le hk (length_waiters_after c a))
        (find_after_ne_waiting hs hk h a)

end Runs

/-! ## The other waiters -/

/-- Both differ in what there is to know of other waiters than the one of the number, and in
nothing else that an action looks at. -/
structure Alike (k : Nat) (c d : Coordinator) : Prop where
  channels : c.channels.length = d.channels.length
  handles : c.handles = d.handles
  listeners : c.listeners = d.listeners
  view : c.view k = d.view k

namespace Alike

theorem find (h : Alike k c d) : c.find k = d.find k := by
  have hsenders : ∀ i, c.senders i = d.senders i := fun i => by
    rw [senders, senders, h.handles, h.listeners]
  cases hv : d.view k with
  | none => rw [find_of_view_none hv, find_of_view_none (h.view.trans hv)]
  | some v =>
      obtain ⟨i, b⟩ := v
      rw [find_of_view_some hv, find_of_view_some (h.view.trans hv), hsenders]

theorem channelOf? (h : Alike k c d) (handle : Nat) :
    c.channelOf? handle = d.channelOf? handle := by
  rw [Coordinator.channelOf?, Coordinator.channelOf?, h.handles]

theorem listener? (h : Alike k c d) (listener : Nat) :
    c.listener? listener = d.listener? listener := by
  rw [Coordinator.listener?, Coordinator.listener?, h.listeners]

theorem triggered? (h : Alike k c d) (a : Action) : c.triggered? a = d.triggered? a := by
  cases a with
  | trigger handle => exact h.channelOf? handle
  | proceed listener => simp only [Coordinator.triggered?, h.listener?]
  | _ => rfl

theorem dismissed?_iff (h : Alike k c d) (a : Action) :
    c.dismissed? a = some k ↔ d.dismissed? a = some k := by
  cases a with
  | await waiter =>
      by_cases hw : waiter = k
      · subst hw
        simp only [dismissed?, h.find]
      · simp [dismissed?, hw]
  | _ => rfl

/-- **An action keeps the likeness**, whatever it does to the other waiters. -/
theorem after (hc : c.Sound) (hd : d.Sound) (hkc : k < c.waiters.length)
    (hkd : k < d.waiters.length) (h : Alike k c d) (a : Action) :
    Alike k (c.after a) (d.after a) where
  channels := by
    rw [channels_after, channels_after, h.triggered?]
    by_cases ha : a = .create
    · simp [ha, h.channels]
    · rw [if_neg ha, if_neg ha]
      cases d.triggered? a <;> simp [triggerChannel, h.channels]
  handles := by
    rw [handles_after, handles_after]
    cases a with
    | create => simp only [h.handles, h.channels]
    | clone handle => simp only [h.handles, h.channelOf?]
    | _ => simp only [h.handles]
  listeners := by
    rw [listeners_after, listeners_after]
    cases a with
    | listen handle => simp only [h.listeners, h.channelOf?]
    | proceed listener => simp only [h.listeners, h.listener?]
    | _ => exact h.listeners
  view := by
    -- an `await` looks at the waiter, which is found alike in both
    rw [view_after hc hkc, view_after hd hkd, h.view, h.triggered?]
    simp only [h.dismissed?_iff]

theorem afterAll (hc : c.Sound) (hd : d.Sound) (hkc : k < c.waiters.length)
    (hkd : k < d.waiters.length) (h : Alike k c d) (as : List Action) :
    Alike k (c.afterAll as) (d.afterAll as) := by
  induction as generalizing c d with
  | nil => exact h
  | cons a as ih =>
      exact ih (hc.after a) (hd.after a) (lt_of_lt_of_le hkc (length_waiters_after c a))
        (lt_of_lt_of_le hkd (length_waiters_after d a)) (h.after hc hd hkc hkd a)

end Alike

/-- A waiter that leaves, or is asked, makes no difference to another one. -/
theorem alike_after (hs : c.Sound) (hk : k < c.waiters.length) {a : Action} (hj : j ≠ k)
    (ha : a = .leave j ∨ a = .await j) : Alike k (c.after a) c := by
  have htriggers : c.triggered? a = none := by rcases ha with rfl | rfl <;> rfl
  have hcreate : a ≠ .create := by rcases ha with rfl | rfl <;> exact Action.noConfusion
  have hstays : c.dismissed? a ≠ some k := by
    rcases ha with rfl | rfl
    · simpa [dismissed?] using hj
    · by_cases hf : c.find j = .resolved <;> simp [dismissed?, hf, hj]
  refine ⟨?_, ?_, ?_, ?_⟩
  · rw [channels_after, if_neg hcreate, htriggers]
    rfl
  · rw [handles_after]
    rcases ha with rfl | rfl <;> rfl
  · rw [listeners_after]
    rcases ha with rfl | rfl <;> rfl
  · rw [view_after hs hk, if_neg hstays, htriggers]
    cases c.view k <;> simp

/-! ## What is asked for -/

/-- The step triggers the channel: through a handle, or since a listener of it gets its signal. -/
def Triggers (i : Nat) (c : Coordinator) : Step → Prop
  | .trigger handle => c.channelOf? handle = some i
  | .signal => ∃ j, c.listener? j = some ⟨i, .waiting⟩
  | _ => False

/-- The step makes the waiter leave: it is told to, or it is asked and can go on. -/
def Dismisses (k : Nat) (c : Coordinator) : Step → Prop
  | .unsubscribe handle waiter => (c.channelOf? handle).isSome = true ∧ waiter = k
  | .poll => c.find k = .resolved
  | _ => False

/-- Some step of the run is of the sort `P`, in the state that it meets. -/
def Asks (P : Coordinator → Step → Prop) (c : Coordinator) : List Step → Prop
  | [] => False
  | s :: steps => P c s ∨ Asks P (c.step s).value.1 steps

theorem mem_waitingListeners : j ∈ c.waitingListeners ↔ ∃ i, c.listener? j = some ⟨i, .waiting⟩ := by
  rw [waitingListeners, List.mem_filter, List.mem_range]
  constructor
  · rintro ⟨-, hw⟩
    obtain ⟨⟨i, stage⟩, hl, hstage⟩ := (Option.any_eq_true _ _).1 hw
    obtain rfl : stage = .waiting := of_decide_eq_true hstage
    exact ⟨i, hl⟩
  · rintro ⟨i, hl⟩
    refine ⟨?_, by rw [hl]; rfl⟩
    by_contra hge
    rw [listener?, List.getElem?_eq_none (Nat.not_lt.1 hge)] at hl
    cases hl

/-- A listener that gets its signal triggers its channel on its way, and no other one. -/
theorem triggered_of_waiting {channel : Nat} (hl : c.listener? j = some ⟨channel, .waiting⟩) :
    c.Triggered i (List.replicate 3 (.proceed j)) ↔ channel = i := by
  have halerted : (c.after (.proceed j)).listener? j = some ⟨channel, .alerted⟩ := by
    rw [listener?_after_proceed, if_pos rfl, hl]
    rfl
  have htriggered : ((c.after (.proceed j)).after (.proceed j)).listener? j
      = some ⟨channel, .triggered⟩ := by
    rw [listener?_after_proceed, if_pos rfl, halerted]
    rfl
  rw [Triggered, List.replicate, List.replicate, List.replicate, List.replicate, occurs_cons,
    occurs_cons, occurs_cons]
  simp [triggered?, hl, halerted, htriggered, not_occurs_nil]

/-- It leaves the other listeners where they are. -/
theorem listener?_afterAll_replicate {l n : Nat} (hl : l ≠ j) :
    (c.afterAll (List.replicate n (.proceed j))).listener? l = c.listener? l := by
  induction n generalizing c with
  | zero => rfl
  | succ n ih =>
      show ((c.after (.proceed j)).afterAll (List.replicate n (.proceed j))).listener? l = _
      rw [ih, listener?_after_proceed, if_neg hl]

/-- When all of these listeners get their signal, each triggers its channel. -/
theorem triggered_of_signal {js : List Nat} (hjs : js.Nodup)
    (hw : ∀ j ∈ js, ∃ channel, c.listener? j = some ⟨channel, .waiting⟩) :
    c.Triggered i (js.flatMap fun j => List.replicate 3 (.proceed j))
      ↔ ∃ j ∈ js, c.listener? j = some ⟨i, .waiting⟩ := by
  induction js generalizing c with
  | nil => exact iff_of_false not_occurs_nil fun ⟨_, hj, _⟩ => List.not_mem_nil hj
  | cons j js ih =>
      obtain ⟨channel, hl⟩ := hw j List.mem_cons_self
      obtain ⟨hj, hjs⟩ := List.nodup_cons.1 hjs
      -- the others still wait when this one has ended
      have hsame : ∀ l ∈ js, (c.afterAll (List.replicate 3 (.proceed j))).listener? l
          = c.listener? l := fun l hlmem =>
        listener?_afterAll_replicate fun heq => hj (heq ▸ hlmem)
      have hrest := ih hjs (c := c.afterAll (List.replicate 3 (.proceed j))) fun l hlmem => by
        rw [hsame l hlmem]
        exact hw l (List.mem_cons_of_mem j hlmem)
      rw [List.flatMap_cons, Triggered, occurs_append, ← Triggered, ← Triggered,
        triggered_of_waiting hl, hrest]
      simp only [List.mem_cons, exists_eq_or_imp, hl, Option.some.injEq, Listener.mk.injEq,
        and_true]
      exact or_congr_right (exists_congr fun l => and_congr_right fun hlmem => by
        rw [hsame l hlmem])

/-- **A step triggers a channel if one of its actions does.** -/
theorem triggered_actionsOf (s : Step) : c.Triggered i (c.actionsOf s) ↔ c.Triggers i s := by
  cases s with
  | trigger handle =>
      rw [Triggered, actionsOf, occurs_withHandle]
      exact and_iff_right_of_imp fun h => Option.isSome_iff_exists.2 ⟨i, h⟩
  | signal =>
      have hnodup : c.waitingListeners.Nodup := List.nodup_range.filter _
      rw [actionsOf, triggered_of_signal hnodup fun j => mem_waitingListeners.1]
      exact exists_congr fun j => and_iff_right_of_imp fun hl => mem_waitingListeners.2 ⟨i, hl⟩
  | poll =>
      refine iff_of_false (not_occurs_of_forall fun a ha d => ?_) id
      obtain ⟨k, -, rfl⟩ := List.mem_map.1 ha
      simp [triggered?]
  | create => simp [Triggered, actionsOf, occurs_cons, not_occurs_nil, triggered?, Triggers]
  | subscribe handle | clone handle | drop handle | listen handle | unsubscribe handle waiter =>
      simp [Triggered, actionsOf, occurs_withHandle, triggered?, Triggers]

/-- Of the waiters that are asked only those that can go on leave. -/
theorem dismissed_map_await (hs : c.Sound) (hk : k < c.waiters.length) (ks : List Nat) :
    c.Dismissed k (ks.map .await) ↔ k ∈ ks ∧ c.find k = .resolved := by
  induction ks generalizing c with
  | nil => exact iff_of_false not_occurs_nil fun h => List.not_mem_nil h.1
  | cons j ks ih =>
      have hrest := ih (hs.after (.await j))
        (lt_of_lt_of_le hk (length_waiters_after c (.await j)))
      rw [List.map_cons, Dismissed, occurs_cons, ← Dismissed, hrest, List.mem_cons]
      by_cases hj : j = k
      · subst hj
        by_cases hf : c.find j = .resolved
        · simp [dismissed?, hf]
        · -- it stays, and so does everything else
          have hsame : c.after (.await j) = c := if_neg hf
          simp [dismissed?, hf, hsame]
      · rw [(alike_after hs hk hj (Or.inr rfl)).find]
        by_cases hf : c.find j = .resolved <;> simp [dismissed?, hf, hj, Ne.symm hj]

/-- **A step makes a waiter leave if one of its actions does.** -/
theorem dismissed_actionsOf (hs : c.Sound) (hk : k < c.waiters.length) (s : Step) :
    c.Dismissed k (c.actionsOf s) ↔ c.Dismisses k s := by
  cases s with
  | unsubscribe handle waiter =>
      rw [Dismissed, actionsOf, occurs_withHandle]
      exact and_congr_right fun _ => Option.some_inj
  | poll =>
      rw [actionsOf, dismissed_map_await hs hk, List.mem_range]
      exact and_iff_right hk
  | signal =>
      refine iff_of_false (not_occurs_of_forall fun a ha d => ?_) id
      obtain ⟨j, -, hj⟩ := List.mem_flatMap.1 ha
      obtain rfl := List.eq_of_mem_replicate hj
      simp [dismissed?]
  | create => simp [Dismissed, actionsOf, occurs_cons, not_occurs_nil, dismissed?, Dismisses]
  | subscribe handle | clone handle | drop handle | listen handle | trigger handle =>
      simp [Dismissed, actionsOf, occurs_withHandle, dismissed?, Dismisses]

/-- What some step of a run is asked for, some action of it does. -/
theorem asks_iff_occurs {P : Coordinator → Step → Prop} {Q : Coordinator → Action → Prop}
    (hPQ : ∀ d : Coordinator, d.Sound → k < d.waiters.length →
      ∀ s, Occurs Q d (d.actionsOf s) ↔ P d s)
    (hs : c.Sound) (hk : k < c.waiters.length) (steps : List Step) :
    c.Asks P steps ↔ Occurs Q c (c.actionsOfAll steps) := by
  induction steps generalizing c with
  | nil => exact iff_of_false id not_occurs_nil
  | cons s steps ih =>
      have hs' : (c.step s).value.1.Sound := by
        rw [value_step]
        exact hs.afterAll _
      have hk' : k < (c.step s).value.1.waiters.length := by
        rw [value_step]
        exact lt_of_lt_of_le hk (length_waiters_afterAll c _)
      rw [Asks, actionsOfAll, occurs_append, hPQ c hs hk, ← value_step, ih hs' hk']

/-- **What a run of steps does to a new waiter**: it is gone if some step made it leave, and else
it is ready if some step triggered its channel, or if nobody can any more. -/
theorem find_run (hs : c.Sound) (hk : k < c.waiters.length) (hv : c.view k = some (i, false))
    (steps : List Step) :
    ((c.run steps).value.1.find k = .gone ↔ c.Asks (Dismisses k) steps) ∧
      ((c.run steps).value.1.find k ≠ .gone → ((c.run steps).value.1.find k = .resolved ↔
        c.Asks (Triggers i) steps ∨ (c.run steps).value.1.senders i = 0)) := by
  have hleft := asks_iff_occurs (P := Dismisses k) (fun _ => dismissed_actionsOf) hs hk steps
  have htold := asks_iff_occurs (P := Triggers i) (fun _ _ _ => triggered_actionsOf) hs hk steps
  rw [value_run, hleft, htold]
  exact find_afterAll hs hk hv (c.actionsOfAll steps)

/-! ## Every wait -/

/-- **When a wait is ready.** Take any run from the start, a handle that is then alive, and the
waiter that subscribes with it; and take any run after that, whoever is cloned, dropped, triggers,
listens or leaves in it. Then

* the waiter is gone exactly if the run made it leave;
* as long as it is there, it is ready exactly if the channel was triggered since it subscribed,
  once or any number of times, or if nobody is left who can trigger it;
* once it is ready, it is never found waiting again;
* that another waiter leaves, or is asked and goes on, is not noticed: not then and not later.

The first two hold as well of a run of steps, each of them asked for as a whole. -/
theorem ready_iff_triggered (before : List Action) {handle : Nat}
    (hh : (init.afterAll before).channelOf? handle = some i) (steps : List Action) :
    let k := (init.afterAll before).waiters.length
    let subscribed := (init.afterAll before).after (.subscribe handle)
    let c := subscribed.afterAll steps
    (c.find k = .gone ↔ subscribed.Dismissed k steps) ∧
    (c.find k ≠ .gone → (c.find k = .resolved ↔ subscribed.Triggered i steps ∨ c.senders i = 0)) ∧
    (c.find k = .resolved → ∀ more, (c.afterAll more).find k ≠ .waiting) ∧
    (∀ j ≠ k, ∀ a, a = .leave j ∨ a = .await j →
      ∀ more, ((c.after a).afterAll more).find k = (c.afterAll more).find k) ∧
    ∀ asked : List Step,
      let d := (subscribed.run asked).value.1
      (d.find k = .gone ↔ subscribed.Asks (Dismisses k) asked) ∧
      (d.find k ≠ .gone →
        (d.find k = .resolved ↔ subscribed.Asks (Triggers i) asked ∨ d.senders i = 0)) := by
  intro k subscribed c
  have hs₀ : (init.afterAll before).Sound := sound_init.afterAll before
  have hs : subscribed.Sound := hs₀.after _
  have hsc : c.Sound := hs.afterAll steps
  have hk : k < subscribed.waiters.length := by
    have hwaiters : subscribed.waiters = _ := waiters_after _ _
    simp [hwaiters, hh, k]
  have hkc : k < c.waiters.length := lt_of_lt_of_le hk (length_waiters_afterAll subscribed steps)
  -- nothing was sent to it yet, so what counts is what the steps trigger
  have hv : subscribed.view k = some (i, false) := view_after_subscribe hh
  obtain ⟨hgone, hthere⟩ := find_afterAll hs hk hv steps
  refine ⟨hgone, hthere, ?_, ?_, find_run hs hk hv⟩
  · intro hready more
    exact find_afterAll_ne_waiting hsc hkc (by rw [hready]; exact WaitState.noConfusion) more
  · intro j hj a ha more
    -- the two runs start alike as far as this waiter goes, and stay so
    have hkd : k < (c.after a).waiters.length := lt_of_lt_of_le hkc (length_waiters_after c a)
    exact ((alike_after hsc hkc hj ha).afterAll (hsc.after a) hsc hkd hkc more).find

/-- The message before the waiter is dropped. Of the four after it the channel keeps the last one,
and then all who could trigger are gone. The waiter is ready. -/
theorem ready_of_lagging :
    (init.afterAll [.clone 0, .trigger 1, .listen 0]).channelOf? 1 = some 0 ∧
    (((init.afterAll [.clone 0, .trigger 1, .listen 0]).after (.subscribe 1)).afterAll
      [.trigger 0, .drop 1, .proceed 0, .trigger 0, .trigger 0, .drop 0, .proceed 0,
        .proceed 0]).find 0 = .resolved := by
  have hh : (init.afterAll [.clone 0, .trigger 1, .listen 0]).channelOf? 1 = some 0 := by decide
  obtain ⟨-, hready, -⟩ := ready_iff_triggered [.clone 0, .trigger 1, .listen 0] hh
    [.trigger 0, .drop 1, .proceed 0, .trigger 0, .trigger 0, .drop 0, .proceed 0, .proceed 0]
  exact ⟨hh, (hready (by decide)).2 (Or.inl ⟨[], .trigger 0, _, rfl, by decide⟩)⟩

end Session.Shutdown.Coordinator
