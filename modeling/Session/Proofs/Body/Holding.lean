import Session.Body.Progress
import Session.Proofs.Body.Reading

set_option autoImplicit false

/-! # What a reader holds

Each time a reader asks for the next item, of a stream that ends or of one that does not, what it
holds is determined by the chunks it was given: `Held.of` says which slot they are in. This is
the invariant of the reading (`Reader.IsHead`). One answer of the stream keeps it
(`Reader.step_eq_waiting_iff`), so it is there after any number of answers that decide nothing,
and then the reader still asks (`Reader.progress_eq_waiting_iff`). That the slots hold the bytes
received, and no more than the bounds allow, follows from it.

`Reader.progress_ofStream` ties this to `Reader.run`: over a stream that ends, both come to the
same result.
-/

namespace Session.Body

/-! ## The chunks of a stream -/

namespace Stream

/-- The chunks that are not empty, in order. -/
def parts (s : Stream) : List Bytes := s.filterMap fun
  | .chunk bs => if bs = [] then none else some bs
  | _ => none

theorem parts_append (s t : Stream) : (s ++ t).parts = s.parts ++ t.parts := List.filterMap_append

theorem ne_nil_of_mem_parts {s : Stream} {c : Bytes} (hc : c ∈ s.parts) : c ≠ [] := by
  obtain ⟨i, -, hi⟩ := List.mem_filterMap.1 hc
  cases i with
  | chunk bs =>
      by_cases hbs : bs = []
      · simp [hbs] at hi
      · simp only [hbs, if_false, Option.some.injEq] at hi
        rwa [← hi]
  | fault f => cases hi
  | pause ms => cases hi

theorem flatten_parts (s : Stream) : s.parts.flatten = s.content := by
  induction s with
  | nil => rfl
  | cons i s ih =>
      cases i with
      | chunk bs =>
          by_cases hbs : bs = []
          · simpa [parts, content, hbs] using ih
          · simpa [parts, content, hbs] using ih
      | fault f => exact ih
      | pause ms => exact ih

end Stream

namespace Source

theorem taken_succ (source : Source) (k : Nat) :
    source.taken (k + 1) = source.taken k ++ (source k).toList := by
  rw [taken, List.range_succ, List.filterMap_append, ← taken]
  cases hi : source k <;> simp [hi]

theorem taken_ofStream (s : Stream) (k : Nat) : (ofStream s).taken k = s.take k := by
  induction k with
  | zero => rfl
  | succ k ih => rw [taken_succ, List.take_add_one, ih, ofStream]

end Source

/-! ## The slots -/

namespace Held

/-- What is held of some chunks, none of them empty: a single one stays as it is, and more than
one are joined. -/
def of : List Bytes → Held
  | [] => empty
  | [c] => { first := some c, received := c.length }
  | c :: d :: cs =>
      { joined := (c :: d :: cs).flatten, received := (c :: d :: cs).flatten.length }

/-- One more chunk. The first slot is given up for the second chunk, and the other one, which is
not empty from then on, takes all that follow. -/
theorem push_of {cs : List Bytes} (hcs : ∀ c ∈ cs, c ≠ []) (d : Bytes) :
    (of cs).push d = of (cs ++ [d]) := by
  match cs with
  | [] => simp [of, push, empty]
  | [c] => simp [of, push]
  | c :: e :: cs =>
      have hc : c ≠ [] := hcs c List.mem_cons_self
      simp [of, push, hc, Nat.add_assoc]

theorem holds_of {cs : List Bytes} (hcs : ∀ c ∈ cs, c ≠ []) : (of cs).Holds cs.flatten := by
  induction cs using List.reverseRecOn with
  | nil => exact holds_empty
  | append_singleton cs c ih =>
      have hcs' : ∀ d ∈ cs, d ≠ [] := fun d hd => hcs d (List.mem_append_left _ hd)
      have hc : c ≠ [] := hcs c (List.mem_append_right _ List.mem_cons_self)
      rw [← push_of hcs', List.flatten_append, List.flatten_singleton]
      exact (ih hcs').push hc

theorem Holds.oneSlot {h : Held} {bs : Bytes} (hh : h.Holds bs) : h.first = none ∨ h.joined = [] :=
  hh.slots.imp And.left fun hs => hs.2.2

theorem Holds.joined_append_first {h : Held} {bs : Bytes} (hh : h.Holds bs) :
    h.joined ++ h.first.getD [] = bs := by
  rcases hh.slots with ⟨hf, hj⟩ | ⟨hf, _, hj⟩
  · rw [hf, hj, Option.getD_none, List.append_nil]
  · rw [hf, hj, Option.getD_some, List.nil_append]

theorem Holds.first_ne {h : Held} {bs : Bytes} (hh : h.Holds bs) : h.first ≠ some [] := by
  rcases hh.slots with ⟨hf, _⟩ | ⟨hf, hne, _⟩
  · simp [hf]
  · simpa [hf] using hne

end Held

namespace Reader

variable {r : Reader} {taken : Stream} {h h' : Held} {source : Source} {k : Nat}

/-! ## The head of the loop -/

/-- The reader asks for the next item after it has taken these ones: none of them has failed, they
are within the bounds, and what is held is what they have brought. -/
structure IsHead (r : Reader) (taken : Stream) (h : Held) : Prop where
  clean : taken.isClean = true
  within : r.Within taken.content.length
  held : h = Held.of taken.parts

theorem isHead_nil_iff : r.IsHead [] h ↔ h = .empty :=
  ⟨fun hd => hd.held, fun hh => ⟨rfl, within_zero, hh⟩⟩

theorem IsHead.holds (hd : r.IsHead taken h) : h.Holds taken.content := by
  rw [hd.held, ← Stream.flatten_parts]
  exact Held.holds_of fun _ => Stream.ne_nil_of_mem_parts

/-- The reader has asked for every item that it has taken. -/
theorem IsHead.before {i : Item} (hd : r.IsHead (taken ++ [i]) h) :
    r.IsHead taken (.of taken.parts) := by
  refine ⟨?_, ?_, rfl⟩
  · have hc := hd.clean
    rw [Stream.isClean_append, Bool.and_eq_true] at hc
    exact hc.1
  · refine hd.within.mono ?_
    rw [Stream.content_append, List.length_append]
    omega

/-- A chunk must stay within the bounds, and is added to what is held, unless it is empty. -/
theorem IsHead.chunk_iff (hd : r.IsHead taken h) (c : Bytes) :
    r.IsHead (taken ++ [.chunk c]) h' ↔
      r.Within (taken.content ++ c).length ∧ h' = if c = [] then h else h.push c := by
  have hparts : Held.of (Stream.parts (taken ++ [.chunk c]))
      = if c = [] then h else h.push c := by
    rw [Stream.parts_append, hd.held]
    by_cases hc : c = []
    · simp [Stream.parts, hc]
    · rw [if_neg hc, Held.push_of fun _ => Stream.ne_nil_of_mem_parts]
      simp [Stream.parts, hc]
  constructor
  · intro hd'
    refine ⟨?_, hd'.held.trans hparts⟩
    rw [← Stream.content_append_chunk]
    exact hd'.within
  · rintro ⟨hw, hh⟩
    refine ⟨?_, ?_, hh.trans hparts.symm⟩
    · rw [Stream.isClean_append_chunk, hd.clean]
    · rwa [Stream.content_append_chunk]

theorem not_isHead_fault (f : Fault) : ¬ r.IsHead (taken ++ [.fault f]) h := by
  intro hd
  have hc := hd.clean
  rw [Stream.isClean_append, Bool.and_eq_true] at hc
  cases hc.2

theorem IsHead.pause_iff (hd : r.IsHead taken h) (ms : Nat) :
    r.IsHead (taken ++ [.pause ms]) h' ↔ h' = h := by
  have hparts : Stream.parts (taken ++ [.pause ms]) = taken.parts := by
    rw [Stream.parts_append]
    exact List.append_nil _
  constructor
  · intro hd'
    rw [hd'.held, hparts, hd.held]
  · rintro rfl
    refine ⟨?_, ?_, ?_⟩
    · rw [Stream.isClean_append_pause, hd.clean]
    · rw [Stream.content_append_pause]
      exact hd.within
    · rw [hparts, hd.held]

/-- **What an item has to be for the reader to ask for another one**, and what is held then. -/
theorem step_eq_waiting_iff (hd : r.IsHead taken h) (i : Item) :
    r.step (.waiting h) (some i) = .waiting h' ↔ r.IsHead (taken ++ [i]) h' := by
  cases i with
  | chunk c =>
      rw [hd.chunk_iff]
      by_cases hw : r.Within (taken.content ++ c).length
      · simp only [step, take_eq_of_within hd.holds hw, Progress.waiting.injEq]
        exact ⟨fun hh => ⟨hw, hh.symm⟩, fun hh => hh.2.symm⟩
      · obtain ⟨e, he⟩ := exists_take_eq_error hd.holds hd.within hw
        simp only [step, he, hw, false_and, iff_false]
        exact fun hh => by cases hh
  | fault f =>
      simp only [step, not_isHead_fault, iff_false]
      exact fun hh => by cases hh
  | pause ms =>
      rw [hd.pause_iff]
      simp only [step, Progress.waiting.injEq]
      exact eq_comm

/-- A reader that asks for another item has asked for the one before. -/
theorem exists_waiting_of_step {p : Progress} {answer : Option Item}
    (hp : r.step p answer = .waiting h) : ∃ h₀, p = .waiting h₀ := by
  cases p with
  | waiting h₀ => exact ⟨h₀, rfl⟩
  | ended result => cases hp

/-- **When a reader asks for another item, and what it holds then**: the stream has not ended, and
none of its items has decided the reading. -/
theorem progress_eq_waiting_iff :
    r.progress source k = .waiting h ↔
      (∀ j < k, source j ≠ none) ∧ r.IsHead (source.taken k) h := by
  induction k generalizing h with
  | zero =>
      show Progress.waiting .empty = .waiting h ↔ (∀ j < 0, source j ≠ none) ∧ r.IsHead [] h
      rw [isHead_nil_iff, Progress.waiting.injEq]
      exact ⟨fun hh => ⟨fun j hj => absurd hj (Nat.not_lt_zero j), hh.symm⟩, fun hh => hh.2.symm⟩
  | succ k ih =>
      rw [progress]
      cases hi : source k with
      | none =>
          -- the end of the stream ends the reading, whatever is held
          refine ⟨fun hstep => ?_, fun hh => absurd hi (hh.1 k (Nat.lt_succ_self k))⟩
          obtain ⟨h₀, hp⟩ := exists_waiting_of_step hstep
          rw [hp] at hstep
          cases hstep
      | some i =>
          rw [Source.taken_succ, hi, Option.toList_some]
          constructor
          · intro hstep
            obtain ⟨h₀, hp⟩ := exists_waiting_of_step hstep
            obtain ⟨hsome, hd⟩ := ih.1 hp
            rw [hp, step_eq_waiting_iff hd] at hstep
            refine ⟨fun j hj => ?_, hstep⟩
            rcases Nat.lt_succ_iff_lt_or_eq.1 hj with hj | rfl
            · exact hsome j hj
            · simp [hi]
          · rintro ⟨hsome, hd⟩
            have hp := ih.2 ⟨fun j hj => hsome j (Nat.lt_succ_of_lt hj), hd.before⟩
            rw [hp]
            exact (step_eq_waiting_iff hd.before i).2 hd

/-- A stream that never ends, and every other chunk of which is empty. The reader asks on until
the bytes are beyond its limit. -/
example :
    let r : Reader := { limit := .ofBytes 2 }
    let source : Source := fun k => some (.chunk (if k % 2 = 0 then [7] else []))
    r.progress source 2 = .waiting { first := some [7], received := 1 } ∧
      r.progress source 4 = .waiting { joined := [7, 7], received := 2 } ∧
      r.progress source 9 = .ended (.error (.tooLarge (some 2))) := ⟨rfl, rfl, rfl⟩

/-! ## A stream that ends -/

/-- What a reading comes to from where it stands, if these items follow and then the stream
ends. -/
def comesTo (r : Reader) (s : Stream) : Progress → Except Error Bytes
  | .waiting h => (r.runFrom h s).result
  | .ended result => result

theorem comesTo_step_some (p : Progress) (i : Item) (s : Stream) :
    r.comesTo s (r.step p (some i)) = r.comesTo (i :: s) p := by
  cases p with
  | ended result => rfl
  | waiting h =>
      cases i with
      | chunk c =>
          simp only [step, comesTo, runFrom]
          cases r.take h c <;> rfl
      | fault f => rfl
      | pause ms => rfl

theorem comesTo_step_none (p : Progress) : r.comesTo [] (r.step p none) = r.comesTo [] p := by
  cases p <;> rfl

/-- After any number of answers the rest of the stream leads to what `run` comes to. -/
theorem comesTo_progress (r : Reader) (s : Stream) (k : Nat) :
    r.comesTo (s.drop k) (r.progress (.ofStream s) k) = (r.run s).result := by
  induction k with
  | zero => rfl
  | succ k ih =>
      rw [← ih, progress, Source.ofStream]
      by_cases hk : k < s.length
      · rw [List.getElem?_eq_getElem hk, comesTo_step_some, ← List.drop_eq_getElem_cons hk]
      · rw [List.getElem?_eq_none (by omega), List.drop_eq_nil_of_le (by omega),
          List.drop_eq_nil_of_le (by omega), comesTo_step_none]

/-- **Over a stream that ends, reading item by item comes to what `run` comes to.** -/
theorem progress_ofStream (r : Reader) (s : Stream) :
    r.progress (.ofStream s) (s.length + 1) = .ended (r.run s).result := by
  have hrun := comesTo_progress r s (s.length + 1)
  cases hp : r.progress (.ofStream s) (s.length + 1) with
  | ended result =>
      rw [hp] at hrun
      exact congrArg Progress.ended hrun
  | waiting h =>
      have hsome := (progress_eq_waiting_iff.1 hp).1 s.length (Nat.lt_succ_self _)
      exact absurd (List.getElem?_eq_none (Nat.le_refl _)) hsome

/-- A stream that decides nothing is asked for items until it ends. -/
theorem progress_length {s : Stream} (hc : s.isClean = true) (hw : r.Within s.content.length) :
    r.progress (.ofStream s) s.length = .waiting (.of s.parts) := by
  refine progress_eq_waiting_iff.2 ⟨fun j hj => ?_, ?_⟩
  · simp [Source.ofStream, hj]
  · rw [Source.taken_ofStream, List.take_length]
    exact ⟨hc, hw, rfl⟩

/-! ## What is kept -/

/-- A reading that has ended was ended by some answer. -/
theorem exists_step_of_ended {result : Except Error Bytes}
    (hp : r.progress source k = .ended result) :
    ∃ j h, r.progress source j = .waiting h ∧ r.step (.waiting h) (source j) = .ended result := by
  induction k with
  | zero => cases hp
  | succ k ih =>
      rw [progress] at hp
      cases hk : r.progress source k with
      | waiting h =>
          rw [hk] at hp
          exact ⟨k, h, hk, hp⟩
      | ended result' =>
          rw [hk] at hp
          cases hp
          exact ih hk

/-- Only the end of the stream makes a reading succeed, and then with the bytes taken. -/
theorem eq_content_of_step (hd : r.IsHead taken h) {answer : Option Item} {bs : Bytes}
    (hstep : r.step (.waiting h) answer = .ended (.ok bs)) : bs = taken.content := by
  cases answer with
  | none =>
      have hfinish : r.finish h = .ok bs := Progress.ended.inj hstep
      rw [finish] at hfinish
      split at hfinish
      · cases hfinish
      · rw [← hd.holds.bytes_eq]
        exact (Except.ok.inj hfinish).symm
  | some i =>
      cases i with
      | chunk c =>
          rw [step] at hstep
          cases ht : r.take h c with
          | error e => rw [ht] at hstep; cases hstep
          | ok h' => rw [ht] at hstep; cases hstep
      | fault f => cases hstep
      | pause ms => cases hstep

/-- No stream makes a reader keep more than its limit. -/
theorem length_kept_le {max : Nat} (hm : r.limit.maxBytes = some max) (source : Source) (k : Nat) :
    (r.progress source k).kept.length ≤ max := by
  cases hp : r.progress source k with
  | waiting h =>
      obtain ⟨-, hd⟩ := progress_eq_waiting_iff.1 hp
      rw [Progress.kept, hd.holds.joined_append_first]
      exact hd.within.1 max hm
  | ended result =>
      cases result with
      | error e => exact Nat.zero_le max
      | ok bs =>
          obtain ⟨j, h, hj, hstep⟩ := exists_step_of_ended hp
          obtain ⟨-, hd⟩ := progress_eq_waiting_iff.1 hj
          show bs.length ≤ max
          rw [eq_content_of_step hd hstep]
          exact hd.within.1 max hm

/-- **What a reader holds whenever it asks for an item**, of any stream. It asks exactly as long
as the stream has not ended, has not failed and has stayed within the bounds. At most one slot is
in use, and no chunk in it is empty; together they hold all bytes taken, in order, which is also
what would be handed on if the stream ended there; these are as many as were counted, and neither
the limit nor the declared length is exceeded. Over a stream that ends, asking on comes to what
`run` comes to. So a body with a single chunk that is not empty is handed on as it is, whatever
empty chunks stand around it; and nothing makes the reader keep more than its limit. -/
theorem progress_holds_taken (r : Reader) (source : Source) :
    (∀ k, (∃ h, r.progress source k = .waiting h) ↔
      (∀ j < k, source j ≠ none) ∧ (source.taken k).isClean = true ∧
        r.Within (source.taken k).content.length) ∧
    (∀ k h, r.progress source k = .waiting h →
      (h.first = none ∨ h.joined = []) ∧ h.first ≠ some [] ∧
      h.joined ++ h.first.getD [] = (source.taken k).content ∧
      h.bytes = (source.taken k).content ∧
      h.received = (h.joined ++ h.first.getD []).length ∧
      r.limit.Admits h.received ∧ ∀ n, r.expected = some n → h.received ≤ n) ∧
    (∀ s, r.progress (.ofStream s) (s.length + 1) = .ended (r.run s).result) ∧
    (∀ s c, Stream.isClean s = true → Stream.parts s = [c] → r.limit.Admits c.length →
      (∀ n, r.expected = some n → n = c.length) →
      r.progress (.ofStream s) s.length = .waiting { first := some c, received := c.length } ∧
        s.content = c ∧ (r.run s).result = .ok c) ∧
    (∀ k max, r.limit.maxBytes = some max → (r.progress source k).kept.length ≤ max) := by
  refine ⟨?_, ?_, progress_ofStream r, ?_, ?_⟩
  · intro k
    constructor
    · rintro ⟨h, hp⟩
      obtain ⟨hsome, hd⟩ := progress_eq_waiting_iff.1 hp
      exact ⟨hsome, hd.clean, hd.within⟩
    · rintro ⟨hsome, hc, hw⟩
      exact ⟨_, progress_eq_waiting_iff.2 ⟨hsome, hc, hw, rfl⟩⟩
  · intro k h hp
    obtain ⟨-, hd⟩ := progress_eq_waiting_iff.1 hp
    have hh := hd.holds
    have hw := hd.within
    rw [← hh.received] at hw
    refine ⟨hh.oneSlot, hh.first_ne, hh.joined_append_first, hh.bytes_eq, ?_, hw.1, hw.2⟩
    rw [hh.joined_append_first, hh.received]
  · -- a single chunk is met by its own length, so it is what `run` gives
    intro s c hc hparts ha he
    have hcontent : s.content = c := by
      rw [← Stream.flatten_parts, hparts, List.flatten_singleton]
    rw [← hcontent] at ha he
    refine ⟨?_, hcontent, ?_⟩
    · rw [progress_length hc ⟨ha, fun n hn => Nat.le_of_eq (he n hn).symm⟩, hparts]
      rfl
    · rw [run_of_met hc ha he, hcontent]
  · intro k max hm
    exact length_kept_le hm source k

/-- A chunk among empty ones, of a stream that goes on for ever and of one that ends. -/
theorem progress_holds_single :
    let r : Reader := { limit := .ofBytes 2, expected := some 2 }
    let endless : Source := fun k => some (.chunk (if k = 1 then [104, 105] else []))
    let s : Stream := [.chunk [], .chunk [104, 105], .pause 3, .chunk []]
    (∃ h, r.progress endless 4 = .waiting h ∧ h.received = 2 ∧
      h.joined ++ h.first.getD [] = (endless.taken 4).content) ∧
      s.parts = [[104, 105]] ∧ (r.run s).result = .ok [104, 105] := by
  intro r endless s
  obtain ⟨-, hholds, -, hsingle, -⟩ := progress_holds_taken r endless
  have hp : r.progress endless 4 = .waiting { first := some [104, 105], received := 2 } := rfl
  have hparts : s.parts = [[104, 105]] := rfl
  obtain ⟨-, -, hbytes, -⟩ := hholds 4 _ hp
  obtain ⟨-, -, hrun⟩ := hsingle s [104, 105] rfl hparts
    (fun n hn => by cases hn; decide) (fun n hn => by cases hn; rfl)
  exact ⟨⟨_, hp, rfl, hbytes⟩, hparts, hrun⟩

end Reader

end Session.Body
