import Mathlib.Tactic
import Session.Proofs.Body.Declaring

set_option autoImplicit false

/-! # What a reading comes to

A reader takes the items of a stream one after the other until one of them decides the reading
or the stream ends. The file says which item decides (`Reader.Decides`), what the reading comes
to in each case (`Reader.Concludes`), and that reading the body of a request comes to just that.

The induction over the stream is done once, in `Reader.runFrom_append`: a prefix without a
failure and within the bounds is taken whole, and what is held afterwards is what was held
before and the bytes of the prefix (`Held.Holds`). Everything else cuts the stream in front of
the first item that decides.
-/

namespace Session.Body

/-! ## Streams -/

namespace Stream

/-- The items that a stream brings, in order; a pause brings none. -/
def items (s : Stream) : Stream := s.filter fun
  | .pause _ => false
  | _ => true

/-- How many bytes the first `k` items bring. -/
def total (s : Stream) (k : Nat) : Nat := (content (s.take k)).length

theorem content_append (s t : Stream) : content (s ++ t) = content s ++ content t := by
  induction s with
  | nil => rfl
  | cons i s ih => cases i <;> simp [content, ih]

theorem isClean_append (s t : Stream) : isClean (s ++ t) = (isClean s && isClean t) := by
  simp [isClean]

theorem content_append_chunk (s : Stream) (c : Bytes) :
    content (s ++ [.chunk c]) = content s ++ c := by
  rw [content_append]
  simp [content]

theorem isClean_append_chunk (s : Stream) (c : Bytes) :
    isClean (s ++ [.chunk c]) = isClean s := by
  simp [isClean]

theorem content_append_pause (s : Stream) (ms : Nat) : content (s ++ [.pause ms]) = content s := by
  rw [content_append]
  simp [content]

theorem isClean_append_pause (s : Stream) (ms : Nat) :
    isClean (s ++ [.pause ms]) = isClean s := by
  simp [isClean]

theorem items_items (s : Stream) : s.items.items = s.items := by
  simp [items]

theorem items_take_items (s : Stream) (k : Nat) : items (s.items.take k) = s.items.take k := by
  refine List.filter_eq_self.2 fun i hi => ?_
  exact (List.mem_filter.1 (List.mem_of_mem_take hi)).2

end Stream

/-! ## What is held -/

namespace Held

/-- The slots hold exactly the bytes `bs`: at most one of them is in use, and the count of the
bytes is right. -/
structure Holds (h : Held) (bs : Bytes) : Prop where
  slots : h.first = none ∧ h.joined = bs ∨ h.first = some bs ∧ bs ≠ [] ∧ h.joined = []
  received : h.received = bs.length

theorem holds_empty : Held.empty.Holds [] := ⟨Or.inl ⟨rfl, rfl⟩, rfl⟩

theorem Holds.bytes_eq {h : Held} {bs : Bytes} (hh : h.Holds bs) : h.bytes = bs := by
  rcases hh.slots with ⟨hf, hj⟩ | ⟨hf, _, _⟩
  · rw [bytes, hf, Option.getD_none, hj]
  · rw [bytes, hf, Option.getD_some]

theorem Holds.received_append {h : Held} {bs : Bytes} (hh : h.Holds bs) (c : Bytes) :
    h.received + c.length = (bs ++ c).length := by
  rw [hh.received, List.length_append]

theorem Holds.push {h : Held} {bs : Bytes} (hh : h.Holds bs) {c : Bytes} (hc : c ≠ []) :
    (h.push c).Holds (bs ++ c) := by
  have hr := hh.received_append c
  rcases hh.slots with ⟨hf, hj⟩ | ⟨hf, _, hj⟩
  · by_cases hb : bs = []
    · -- the first chunk stays as it is
      subst hb
      refine ⟨Or.inr ?_, ?_⟩
      · simp [Held.push, hf, hj, hc]
      · simpa [Held.push, hf, hj] using hr
    · refine ⟨Or.inl ?_, ?_⟩
      · simp [Held.push, hf, hj, hb]
      · simpa [Held.push, hf, hj, hb] using hr
  · refine ⟨Or.inl ?_, ?_⟩
    · simp [Held.push, hf, hj]
    · simpa [Held.push, hf, hj] using hr

end Held

/-! ## One chunk -/

namespace Reader

variable {r : Reader} {h : Held} {bs : Bytes}

/-- So many bytes are within the limit and within the declared length. -/
def Within (r : Reader) (n : Nat) : Prop :=
  r.limit.Admits n ∧ ∀ e, r.expected = some e → n ≤ e

instance (r : Reader) (n : Nat) : Decidable (r.Within n) :=
  inferInstanceAs (Decidable (_ ∧ ∀ e ∈ r.expected, n ≤ e))

theorem Within.mono {m n : Nat} (hw : r.Within n) (hmn : m ≤ n) : r.Within m :=
  ⟨fun max hm => Nat.le_trans hmn (hw.1 max hm), fun e he => Nat.le_trans hmn (hw.2 e he)⟩

/-- Which of the bounds so many bytes are beyond: the limit, or else the declared length alone. -/
theorem not_within_iff {n : Nat} : ¬ r.Within n ↔
    (∃ max, r.limit.maxBytes = some max ∧ max < n) ∨
      r.limit.Admits n ∧ ∃ e, r.expected = some e ∧ e < n := by
  by_cases ha : r.limit.Admits n
  · have hmax : ¬ ∃ max, r.limit.maxBytes = some max ∧ max < n := by
      rwa [← Limit.not_admits_iff, not_not]
    simp [Within, ha, hmax]
  · have hmax := Limit.not_admits_iff.1 ha
    simp only [Within, ha, hmax, false_and, not_false_eq_true, true_or]

theorem within_zero : r.Within 0 := ⟨fun _ _ => Nat.zero_le _, fun _ _ => Nat.zero_le _⟩

/-- A chunk within the bounds is kept, unless it is empty. -/
theorem take_eq_of_within (hh : h.Holds bs) {c : Bytes} (hw : r.Within (bs ++ c).length) :
    r.take h c = .ok (if c = [] then h else h.push c) := by
  by_cases hc : c = []
  · simp [take, hc]
  · have hsum := hh.received_append c
    have hl : r.limit.exceededBy (h.received + c.length) = none := by
      rw [hsum]
      exact Limit.exceededBy_eq_none_iff.2 hw.1
    have he : r.expected.filter (· < h.received + c.length) = none := by
      rw [hsum, Option.filter_eq_none_iff]
      intro e he
      simpa using hw.2 e he
    simp [take, hc, hl, he]

theorem take_of_within (hh : h.Holds bs) {c : Bytes} (hw : r.Within (bs ++ c).length) :
    ∃ h', r.take h c = .ok h' ∧ h'.Holds (bs ++ c) := by
  refine ⟨_, take_eq_of_within hh hw, ?_⟩
  by_cases hc : c = []
  · rw [if_pos hc, hc, List.append_nil]
    exact hh
  · rw [if_neg hc]
    exact hh.push hc

/-- A chunk that brings more than held before is not empty. -/
theorem ne_nil_of_not_within {c : Bytes} (hw : r.Within bs.length)
    (hn : ¬ r.Within (bs ++ c).length) : c ≠ [] := by
  rintro rfl
  rw [List.append_nil] at hn
  exact hn hw

theorem take_of_tooLarge (hh : h.Holds bs) {c : Bytes} {max : Nat}
    (hm : r.limit.maxBytes = some max) (hlt : max < (bs ++ c).length) (hc : c ≠ []) :
    r.take h c = .error (.tooLarge (some max)) := by
  have hsum := hh.received_append c
  have hl : r.limit.exceededBy (h.received + c.length) = some max :=
    Limit.exceededBy_eq_some_iff.2 ⟨hm, by omega⟩
  simp [take, hc, hl]

theorem take_of_tooLong (hh : h.Holds bs) {c : Bytes} {n : Nat}
    (ha : r.limit.Admits (bs ++ c).length) (hn : r.expected = some n)
    (hlt : n < (bs ++ c).length) (hc : c ≠ []) :
    r.take h c = .error (.lengthMismatch n (bs ++ c).length) := by
  have hsum := hh.received_append c
  have hl : r.limit.exceededBy (h.received + c.length) = none := by
    rw [hsum]
    exact Limit.exceededBy_eq_none_iff.2 ha
  have hlt' : n < h.received + c.length := by omega
  simp only [take, hc, List.isEmpty_iff, if_false, hl, hn, Option.filter_some, hlt', decide_true,
    if_true]
  rw [hsum]

theorem exists_take_eq_error (hh : h.Holds bs) (hw : r.Within bs.length) {c : Bytes}
    (hout : ¬ r.Within (bs ++ c).length) : ∃ e, r.take h c = .error e := by
  have hne : c ≠ [] := ne_nil_of_not_within hw hout
  rcases not_within_iff.1 hout with ⟨max, hm, hlt⟩ | ⟨ha, n, hn, hlt⟩
  · exact ⟨_, take_of_tooLarge hh hm hlt hne⟩
  · exact ⟨_, take_of_tooLong hh ha hn hlt hne⟩

theorem finish_of_met (hh : h.Holds bs) (he : ∀ n, r.expected = some n → n = bs.length) :
    r.finish h = .ok bs := by
  have hf : r.expected.filter (· ≠ h.received) = none := by
    rw [hh.received, Option.filter_eq_none_iff]
    intro n hn
    simpa using he n hn
  simp only [finish, hf, hh.bytes_eq]

theorem finish_of_missed (hh : h.Holds bs) {n : Nat} (hn : r.expected = some n)
    (hne : n ≠ bs.length) : r.finish h = .error (.lengthMismatch n bs.length) := by
  simp [finish, hn, hh.received, Option.filter_some, hne]

/-! ## A whole stream -/

end Reader

/-- The reading that began so many items and so many milliseconds earlier. -/
def Reading.after (taken waited : Nat) (rd : Reading) : Reading :=
  { rd with taken := taken + rd.taken, waited := waited + rd.waited }

namespace Reader

variable {r : Reader} {h : Held} {bs : Bytes} {s : Stream}

/-- **A prefix that decides nothing is taken whole**, and all its bytes are held afterwards. -/
theorem runFrom_append (hh : h.Holds bs) (hc : s.isClean = true)
    (hw : r.Within (bs ++ s.content).length) :
    ∃ h', h'.Holds (bs ++ s.content) ∧
      ∀ rest, r.runFrom h (s ++ rest) = (r.runFrom h' rest).after s.items.length s.pending := by
  induction s generalizing h bs with
  | nil => exact ⟨h, by simpa [Stream.content] using hh, fun rest => by
      simp [Reading.after, Stream.items, Stream.pending]⟩
  | cons i s ih =>
      cases i with
      | chunk c =>
          have hcat : bs ++ Stream.content (.chunk c :: s) = bs ++ c ++ Stream.content s :=
            (List.append_assoc bs c _).symm
          rw [hcat] at hw ⊢
          -- the chunk itself is within the bounds, since the whole prefix is
          have hle : (bs ++ c).length ≤ (bs ++ c ++ Stream.content s).length := by
            rw [List.length_append, List.length_append, List.length_append]
            omega
          obtain ⟨h₁, ht, hh₁⟩ := take_of_within hh (hw.mono hle)
          obtain ⟨h', hh', hrun⟩ := ih hh₁ (by simpa [Stream.isClean] using hc) hw
          refine ⟨h', hh', fun rest => ?_⟩
          simp only [List.cons_append, runFrom, ht, hrun rest]
          simp only [Reading.after, Stream.items, List.filter_cons, if_true, List.length_cons,
            Stream.pending]
          congr 1
          omega
      | fault f => simp [Stream.isClean] at hc
      | pause ms =>
          obtain ⟨h', hh', hrun⟩ := ih hh (by simpa [Stream.isClean] using hc) hw
          refine ⟨h', hh', fun rest => ?_⟩
          simp only [List.cons_append, runFrom, hrun rest]
          simp [Reading.after, Stream.items, Stream.pending, Nat.add_assoc]

/-- A reading from its start, over a prefix that decides nothing. -/
theorem run_append (hc : s.isClean = true) (hw : r.Within s.content.length) :
    ∃ h', h'.Holds s.content ∧
      ∀ rest, r.run (s ++ rest) = (r.runFrom h' rest).after s.items.length s.pending := by
  have h := runFrom_append (r := r) Held.holds_empty hc (by rwa [List.nil_append])
  rwa [List.nil_append] at h

/-- If no item decides, the end of the stream does. -/
theorem run_to_end (hc : s.isClean = true) (hw : r.Within s.content.length) :
    ∃ h', h'.Holds s.content ∧ r.run s = ⟨r.finish h', s.items.length, s.pending⟩ := by
  obtain ⟨h', hh', hrun⟩ := run_append hc hw
  have hend := hrun []
  rw [List.append_nil] at hend
  refine ⟨h', hh', hend.trans ?_⟩
  simp only [runFrom, Reading.after, Nat.add_zero]

theorem run_of_met (hc : s.isClean = true) (ha : r.limit.Admits s.content.length)
    (he : ∀ n, r.expected = some n → n = s.content.length) :
    r.run s = ⟨.ok s.content, s.items.length, s.pending⟩ := by
  obtain ⟨h', hh', hrun⟩ := run_to_end hc ⟨ha, fun n hn => Nat.le_of_eq (he n hn).symm⟩
  rw [hrun, finish_of_met hh' he]

theorem run_of_missed (hc : s.isClean = true) (hw : r.Within s.content.length) {n : Nat}
    (hn : r.expected = some n) (hne : n ≠ s.content.length) :
    r.run s = ⟨.error (.lengthMismatch n s.content.length), s.items.length, s.pending⟩ := by
  obtain ⟨h', hh', hrun⟩ := run_to_end hc hw
  rw [hrun, finish_of_missed hh' hn hne]

theorem run_of_fault (hc : s.isClean = true) (hw : r.Within s.content.length) (f : Fault)
    (rest : Stream) :
    r.run (s ++ .fault f :: rest)
      = ⟨.error (.ofFault r.limit f), s.items.length + 1, s.pending⟩ := by
  obtain ⟨h', _, hrun⟩ := run_append hc hw
  rw [hrun]
  simp only [runFrom, Reading.after, Nat.add_zero]

theorem run_of_tooLarge (hc : s.isClean = true) (hw : r.Within s.content.length) {c : Bytes}
    {max : Nat} (hm : r.limit.maxBytes = some max) (hlt : max < (s.content ++ c).length)
    (rest : Stream) :
    r.run (s ++ .chunk c :: rest)
      = ⟨.error (.tooLarge (some max)), s.items.length + 1, s.pending⟩ := by
  obtain ⟨h', hh', hrun⟩ := run_append hc hw
  have hne : c ≠ [] := ne_nil_of_not_within hw fun hw' => by
    have := hw'.1 max hm
    omega
  rw [hrun]
  simp only [runFrom, take_of_tooLarge hh' hm hlt hne, Reading.after, Nat.add_zero]

theorem run_of_tooLong (hc : s.isClean = true) (hw : r.Within s.content.length) {c : Bytes}
    {n : Nat} (ha : r.limit.Admits (s.content ++ c).length) (hn : r.expected = some n)
    (hlt : n < (s.content ++ c).length) (rest : Stream) :
    r.run (s ++ .chunk c :: rest)
      = ⟨.error (.lengthMismatch n (s.content ++ c).length), s.items.length + 1, s.pending⟩ := by
  obtain ⟨h', hh', hrun⟩ := run_append hc hw
  have hne : c ≠ [] := ne_nil_of_not_within hw fun hw' => by
    have := hw'.2 n hn
    omega
  rw [hrun]
  simp only [runFrom, take_of_tooLong hh' ha hn hlt hne, Reading.after, Nat.add_zero]

/-! ## The item that decides -/

/-- A failure, or a chunk that leaves the bounds behind the items `pre`. -/
def Stops (r : Reader) (pre : Stream) (i : Item) : Prop :=
  (∃ f, i = .fault f) ∨ ∃ c, i = .chunk c ∧ ¬ r.Within (pre.content ++ c).length

/-- Up to the item that stops it a reading waits, and there it fails. -/
theorem run_of_stops {pre : Stream} {i : Item} (hc : pre.isClean = true)
    (hw : r.Within pre.content.length) (hi : r.Stops pre i) (rest : Stream) :
    ∃ e, r.run (pre ++ i :: rest) = ⟨.error e, pre.items.length + 1, pre.pending⟩ := by
  rcases hi with ⟨f, rfl⟩ | ⟨c, rfl, hout⟩
  · exact ⟨_, run_of_fault hc hw f rest⟩
  · obtain ⟨h', hh', hrun⟩ := run_append hc hw
    obtain ⟨e, he⟩ := exists_take_eq_error hh' hw hout
    refine ⟨e, ?_⟩
    rw [hrun]
    simp only [runFrom, he, Reading.after, Nat.add_zero]

/-- A stream either decides nothing, or is cut in front of the first item that does. -/
theorem within_or_cut (r : Reader) (s : Stream) :
    (s.isClean = true ∧ r.Within s.content.length) ∨
      ∃ pre i rest, s = pre ++ i :: rest ∧ Stream.isClean pre = true ∧
        r.Within (Stream.content pre).length ∧ r.Stops pre i := by
  induction s using List.reverseRecOn with
  | nil => exact Or.inl ⟨rfl, within_zero⟩
  | append_singleton s i ih =>
      rcases ih with ⟨hc, hw⟩ | ⟨pre, j, rest, rfl, hcut⟩
      · cases i with
        | chunk c =>
            by_cases hn : r.Within (Stream.content s ++ c).length
            · refine Or.inl ⟨?_, ?_⟩
              · rwa [Stream.isClean_append_chunk]
              · rwa [Stream.content_append_chunk]
            · exact Or.inr ⟨s, _, [], rfl, hc, hw, Or.inr ⟨c, rfl, hn⟩⟩
        | fault f => exact Or.inr ⟨s, _, [], rfl, hc, hw, Or.inl ⟨f, rfl⟩⟩
        | pause ms =>
            refine Or.inl ⟨?_, ?_⟩
            · rwa [Stream.isClean_append_pause]
            · rwa [Stream.content_append_pause]
      · exact Or.inr ⟨pre, j, rest ++ [i], by simp, hcut⟩

/-- The item at the place `k` decides a reading: it is a failure, or with it there are more
bytes than the limit or the declared length allows. -/
def Decides (r : Reader) (s : Stream) (k : Nat) : Prop :=
  (∃ f, s[k]? = some (.fault f)) ∨ k < s.length ∧ ¬ r.Within (s.total (k + 1))

/-- ... and none in front of it does. -/
def DecidesFirst (r : Reader) (s : Stream) (k : Nat) : Prop :=
  r.Decides s k ∧ ∀ j < k, ¬ r.Decides s j

theorem exists_fault_iff {k : Nat} :
    (∃ f, s[k]? = some (.fault f)) ↔ ∃ i ∈ s[k]?, Stream.isClean [i] = false := by
  constructor
  · rintro ⟨f, hf⟩
    exact ⟨.fault f, hf, rfl⟩
  · rintro ⟨i, hi, hfault⟩
    cases i with
    | fault f => exact ⟨f, hi⟩
    | chunk c => cases hfault
    | pause ms => cases hfault

instance (r : Reader) (s : Stream) (k : Nat) : Decidable (r.Decides s k) :=
  have : Decidable (∃ f, s[k]? = some (.fault f)) := decidable_of_iff _ exists_fault_iff.symm
  inferInstanceAs (Decidable (_ ∨ _))

instance (r : Reader) (s : Stream) (k : Nat) : Decidable (r.DecidesFirst s k) :=
  inferInstanceAs (Decidable (_ ∧ ∀ j < k, ¬ _))

/-- Items that decide nothing are no failures and stay within the bounds. -/
theorem clean_and_within_of_undecided {k : Nat} (hk : k ≤ s.length)
    (hu : ∀ j < k, ¬ r.Decides s j) :
    Stream.isClean (s.take k) = true ∧ r.Within (s.total k) := by
  refine ⟨?_, ?_⟩
  · rw [Stream.isClean, List.all_eq_true]
    intro i hi
    obtain ⟨j, hj, rfl⟩ := List.mem_take_iff_getElem.1 hi
    have hjk : j < k := by omega
    cases hf : s[j] with
    | fault f =>
        exact absurd (Or.inl ⟨f, by rw [List.getElem?_eq_getElem (by omega), hf]⟩) (hu j hjk)
    | chunk _ => rfl
    | pause _ => rfl
  · cases k with
    | zero => exact within_zero
    | succ j =>
        by_contra hn
        exact hu j (Nat.lt_succ_self j) (Or.inr ⟨by omega, hn⟩)

/-- What a reading of the items `s` comes to, its bytes being passed on through `f`: `result`,
after `taken` items. -/
structure Concludes {α : Type} (r : Reader) (f : Bytes → α) (s : Stream)
    (result : Except Error α) (taken : Nat) : Prop where
  /-- The first item that decides is a failure. -/
  failed : ∀ k e, r.DecidesFirst s k → s[k]? = some (.fault e) →
    result = .error (.ofFault r.limit e) ∧ taken = k + 1
  /-- It is a chunk that takes the bytes above the limit, and perhaps above the declared length
  as well. -/
  tooLarge : ∀ k c max, r.DecidesFirst s k → s[k]? = some (.chunk c) →
    r.limit.maxBytes = some max → max < s.total (k + 1) →
    result = .error (.tooLarge (some max)) ∧ taken = k + 1
  /-- It is a chunk that takes the bytes above the declared length alone. -/
  tooLong : ∀ k c n, r.DecidesFirst s k → s[k]? = some (.chunk c) →
    r.limit.Admits (s.total (k + 1)) → r.expected = some n → n < s.total (k + 1) →
    result = .error (.lengthMismatch n (s.total (k + 1))) ∧ taken = k + 1
  /-- No item decides, and the declared length, if there is one, is met. -/
  met : (∀ k, ¬ r.Decides s k) → (∀ n, r.expected = some n → n = s.content.length) →
    result = .ok (f s.content) ∧ taken = s.length
  /-- No item decides, and the declared length is missed. -/
  missed : ∀ n, (∀ k, ¬ r.Decides s k) → r.expected = some n → n ≠ s.content.length →
    result = .error (.lengthMismatch n s.content.length) ∧ taken = s.length

/-- Pauses neither change a result nor count as items. -/
theorem runFrom_items (r : Reader) (h : Held) (s : Stream) :
    (r.runFrom h s.items).result = (r.runFrom h s).result ∧
      (r.runFrom h s.items).taken = (r.runFrom h s).taken := by
  induction s generalizing h with
  | nil => exact ⟨rfl, rfl⟩
  | cons i s ih =>
      cases i with
      | chunk c =>
          have hi : Stream.items (.chunk c :: s) = .chunk c :: Stream.items s := rfl
          simp only [hi, runFrom]
          cases r.take h c with
          | error e => exact ⟨rfl, rfl⟩
          | ok h' => exact ⟨(ih h').1, congrArg (· + 1) (ih h').2⟩
      | fault f => exact ⟨rfl, rfl⟩
      | pause ms => exact ih h

/-- The stream in front of the item at a place, that item, and what follows. -/
theorem eq_take_append {k : Nat} {i : Item} (hi : s[k]? = some i) :
    k < s.length ∧ s = s.take k ++ i :: s.drop (k + 1) := by
  obtain ⟨hk, rfl⟩ := List.getElem?_eq_some_iff.1 hi
  refine ⟨hk, ?_⟩
  rw [← List.drop_eq_getElem_cons hk, List.take_append_drop]

/-- The bytes up to and including a chunk. -/
theorem total_succ_of_chunk {k : Nat} {c : Bytes} (hi : s[k]? = some (.chunk c)) :
    s.total (k + 1) = (Stream.content (s.take k) ++ c).length := by
  rw [Stream.total, List.take_add_one, hi, Option.toList_some, Stream.content_append_chunk]

/-- **A reading concludes as it has to**: what `run` does with a stream is what its items, taken
by their places, call for. -/
theorem run_concludes (r : Reader) (s : Stream) :
    r.Concludes id s.items (r.run s).result (r.run s).taken := by
  obtain ⟨hres, htak⟩ := runFrom_items r .empty s
  rw [run, ← hres, ← htak]
  show r.Concludes id s.items (r.run s.items).result (r.run s.items).taken
  -- in front of the item that decides stands a prefix that is taken whole
  have hcut : ∀ k i, r.DecidesFirst s.items k → s.items[k]? = some i →
      s.items = s.items.take k ++ i :: s.items.drop (k + 1) ∧
        Stream.isClean (s.items.take k) = true ∧ r.Within (s.items.total k) ∧
        (Stream.items (s.items.take k)).length = k := by
    intro k i hk hi
    obtain ⟨hlt, hs⟩ := eq_take_append hi
    obtain ⟨hc, hw⟩ := clean_and_within_of_undecided (Nat.le_of_lt hlt) hk.2
    refine ⟨hs, hc, hw, ?_⟩
    rw [Stream.items_take_items, List.length_take, Nat.min_eq_left (Nat.le_of_lt hlt)]
  refine ⟨?_, ?_, ?_, ?_, ?_⟩
  · intro k e hk hi
    obtain ⟨hs, hc, hw, hlen⟩ := hcut k _ hk hi
    have hrun := run_of_fault hc hw e (s.items.drop (k + 1))
    rw [← hs, hlen] at hrun
    rw [hrun]
    exact ⟨rfl, rfl⟩
  · intro k c max hk hi hm hmax
    obtain ⟨hs, hc, hw, hlen⟩ := hcut k _ hk hi
    rw [total_succ_of_chunk hi] at hmax
    have hrun := run_of_tooLarge hc hw hm hmax (s.items.drop (k + 1))
    rw [← hs, hlen] at hrun
    rw [hrun]
    exact ⟨rfl, rfl⟩
  · intro k c n hk hi ha hn hlong
    obtain ⟨hs, hc, hw, hlen⟩ := hcut k _ hk hi
    rw [total_succ_of_chunk hi] at ha hlong ⊢
    have hrun := run_of_tooLong hc hw ha hn hlong (s.items.drop (k + 1))
    rw [← hs, hlen] at hrun
    rw [hrun]
    exact ⟨rfl, rfl⟩
  · intro hu hmet
    obtain ⟨hc, hw⟩ := clean_and_within_of_undecided (Nat.le_refl _) fun j _ => hu j
    rw [Stream.total, List.take_length] at hw
    rw [List.take_length] at hc
    rw [run_of_met hc hw.1 hmet, Stream.items_items]
    exact ⟨rfl, rfl⟩
  · intro n hu hn hne
    obtain ⟨hc, hw⟩ := clean_and_within_of_undecided (Nat.le_refl _) fun j _ => hu j
    rw [Stream.total, List.take_length] at hw
    rw [List.take_length] at hc
    rw [run_of_missed hc hw hn hne, Stream.items_items]
    exact ⟨rfl, rfl⟩

/-- The conclusion of a reading whose bytes are passed on. -/
theorem Concludes.map {α β : Type} {f : Bytes → α} {s : Stream} {result : Except Error α}
    {taken : Nat} (hc : r.Concludes f s result taken) (g : α → β) :
    r.Concludes (g ∘ f) s (result.map g) taken := by
  refine ⟨?_, ?_, ?_, ?_, ?_⟩
  · intro k e hk hi
    obtain ⟨rfl, ht⟩ := hc.failed k e hk hi
    exact ⟨rfl, ht⟩
  · intro k c max hk hi hm hmax
    obtain ⟨rfl, ht⟩ := hc.tooLarge k c max hk hi hm hmax
    exact ⟨rfl, ht⟩
  · intro k c n hk hi ha hn hlong
    obtain ⟨rfl, ht⟩ := hc.tooLong k c n hk hi ha hn hlong
    exact ⟨rfl, ht⟩
  · intro hu hmet
    obtain ⟨rfl, ht⟩ := hc.met hu hmet
    exact ⟨rfl, ht⟩
  · intro n hu hn hne
    obtain ⟨rfl, ht⟩ := hc.missed n hu hn hne
    exact ⟨rfl, ht⟩

end Reader

/-! ## The body of a request -/

def requestReader (limit : Limit) (headers : Http.Headers) : Reader :=
  { limit, expected := declaredLength headers }

theorem readRequest_of_refused {limit : Limit} {headers : Http.Headers} {n max : Nat}
    (hn : declaredLength headers = some n) (hm : limit.maxBytes = some max) (hlt : max < n)
    (s : Stream) : readRequest limit headers s = ⟨.error (.tooLarge (some max)), 0, 0⟩ := by
  have he : (declaredLength headers).bind limit.exceededBy = some max := by
    rw [hn]
    exact Limit.exceededBy_eq_some_iff.2 ⟨hm, hlt⟩
  simp only [readRequest, he]

theorem readRequest_of_admitted {limit : Limit} {headers : Http.Headers}
    (ha : ∀ n, declaredLength headers = some n → limit.Admits n) (s : Stream) :
    readRequest limit headers s = (requestReader limit headers).run s := by
  have he : (declaredLength headers).bind limit.exceededBy = none := by
    rw [Option.bind_eq_none_iff]
    intro n hn
    exact Limit.exceededBy_eq_none_iff.2 (ha n hn)
  simp only [readRequest, he, requestReader]

theorem readRequestText_eq_ok_iff {limit : Limit} {headers : Http.Headers} {s : Stream}
    {text : String} : (readRequestText limit headers s).value = .ok text ↔
      ∃ bs, (readRequest limit headers s).result = .ok bs ∧ textOf bs = text := by
  rw [readRequestText]
  cases (readRequest limit headers s).result with
  | error e => simp [Except.map]
  | ok bs => simp [Except.map]

theorem readRequestText_eq_error_iff {limit : Limit} {headers : Http.Headers} {s : Stream}
    {e : Error} : (readRequestText limit headers s).value = .error e ↔
      (readRequest limit headers s).result = .error e := by
  rw [readRequestText]
  cases (readRequest limit headers s).result with
  | error e => simp [Except.map]
  | ok bs => simp [Except.map]

/-- **What reading the body of a request answers.** The declared length is the number of 64 bits
whose numeral the header field shows. If it is above the limit, the request is refused before
anything is taken. Any other request is decided by the first item that is a failure or
leaves the bounds, which is the last one taken; the limit counts before the declared length. If no
item decides, all of them are taken, and the text is that of all their bytes, unless another
length was declared. -/
theorem readRequestText_answers (limit : Limit) (headers : Http.Headers) (s : Stream) :
    let answer := (readRequestText limit headers s).value
    let taken := (readRequest limit headers s).taken
    (∀ n, declaredLength headers = some n ↔ n ≤ Text.maxUnsigned ∧ ∃ digits,
      Text.IsNumeral digits n ∧ (Shows headers digits ∨ Shows headers ('+' :: digits))) ∧
    (∀ n max, declaredLength headers = some n → limit.maxBytes = some max → max < n →
      answer = .error (.tooLarge (some max)) ∧ taken = 0) ∧
    ((∀ n, declaredLength headers = some n → limit.Admits n) →
      (requestReader limit headers).Concludes textOf s.items answer taken) := by
  refine ⟨fun n => declaredLength_eq_some_iff, ?_, ?_⟩
  · intro n max hn hm hlt
    rw [readRequestText, readRequest_of_refused hn hm hlt]
    exact ⟨rfl, rfl⟩
  · intro ha
    rw [readRequestText, readRequest_of_admitted ha]
    exact (Reader.run_concludes (requestReader limit headers) s).map textOf

/-- Two, with a blank and a sign in front. -/
def signedTwo : Http.Value := ⟨utf8 " +2", by decide +kernel⟩

/-- Two bytes are declared, and three are allowed. A third byte is too much for the declaration, a
fourth one for both, and then it is the limit that is told. An empty chunk is an item, and a pause
is none. -/
theorem answers_beyond_both_bounds :
    let headers := declaring signedTwo
    let three : Stream := [.chunk (utf8 "a"), .chunk (utf8 "bc"), .chunk (utf8 "d")]
    let four : Stream := [.chunk (utf8 "a"), .pause 5, .chunk [], .chunk (utf8 "bcd"),
      .fault .lengthLimit]
    declaredLength headers = some 2 ∧
      (readRequestText (.ofBytes 3) headers three).value = .error (.lengthMismatch 2 3) ∧
      (readRequest (.ofBytes 3) headers three).taken = 2 ∧
      (readRequestText (.ofBytes 3) headers four).value = .error (.tooLarge (some 3)) ∧
      (readRequest (.ofBytes 3) headers four).taken = 3 := by
  intro headers three four
  have hshows : Shows headers ['+', '2'] :=
    ⟨signedTwo, [' '], [], rfl, by decide +kernel, by simp⟩
  have htwo : Text.IsNumeral ['2'] 2 :=
    ⟨by decide, List.all_eq_true.1 (by decide +kernel), by decide +kernel⟩
  obtain ⟨hdeclared, -, hthree⟩ := readRequestText_answers (.ofBytes 3) headers three
  obtain ⟨-, -, hfour⟩ := readRequestText_answers (.ofBytes 3) headers four
  have hn : declaredLength headers = some 2 :=
    (hdeclared 2).2 ⟨by decide, ['2'], htwo, Or.inr hshows⟩
  have ha : ∀ n, declaredLength headers = some n → (Limit.ofBytes 3).Admits n := by
    intro n h
    obtain rfl : 2 = n := Option.some.inj (hn.symm.trans h)
    decide
  -- the second item decides the one reading, and the third one the other
  obtain ⟨hwrong, hlast⟩ := (hthree ha).tooLong 1 (utf8 "bc") 2 (by decide +kernel) rfl
    (by decide +kernel) hn (by decide +kernel)
  obtain ⟨hlarge, hlast'⟩ := (hfour ha).tooLarge 2 (utf8 "bcd") 3 (by decide +kernel) rfl rfl
    (by decide +kernel)
  exact ⟨hn, hwrong, hlast, hlarge, hlast'⟩

end Session.Body
