import Session.Proofs.Body.Chunking
import Session.Proofs.Body.Limited

set_option autoImplicit false

/-! # One limit behind another

A body is cut by a limit further out, and what comes through is read under a limit of its own. The
two stop at different places of the program: the one puts a failure into the stream, the other is a
check of the running total. Yet both stop at the first chunk that is above the lesser of them
(`Limit.behind`), and both are told as a body that is too large (`Reader.run_limited_of_lt`). So the
two together are one limit, which is their minimum; only the number that is told is always the
reader's own.
-/

namespace Session.Body

/-! ## The lesser of two limits -/

namespace Limit

/-- The lesser of the limit and one of `n` bytes further out. -/
def behind (l : Limit) (n : Nat) : Nat := l.maxBytes.elim n (min n)

variable {l : Limit} {n length : Nat}

theorem le_behind_iff : length ≤ l.behind n ↔ length ≤ n ∧ l.Admits length := by
  obtain ⟨_ | max⟩ := l
  · simp [behind, Admits]
  · simp [behind, Admits]

theorem exists_max_of_behind_lt (h : l.behind n < length) (hn : length ≤ n) :
    ∃ max, l.maxBytes = some max ∧ max < length :=
  not_admits_iff.1 fun ha => Nat.not_le.2 h (le_behind_iff.2 ⟨hn, ha⟩)

end Limit

/-! ## Where both stop -/

namespace Stream

theorem content_items (s : Stream) : content s.items = content s := by
  induction s with
  | nil => rfl
  | cons i s ih =>
      cases i with
      | chunk c => exact congrArg (c ++ ·) ih
      | fault f => exact ih
      | pause ms => exact ih

/-- The chunk that leads above `cap` is the first item at which the total is above it. -/
theorem total_items_of_chunk {pre : Stream} {c : Bytes} {cap : Nat} (rest : Stream)
    (hle : pre.content.length ≤ cap) (hlt : cap < (pre.content ++ c).length) :
    let s := pre ++ .chunk c :: rest
    (∀ j ≤ pre.items.length, s.items.total j ≤ cap) ∧
      cap < s.items.total (pre.items.length + 1) := by
  intro s
  have hs : s.items = pre.items ++ .chunk c :: rest.items := by
    simp [s, items]
  obtain ⟨hbefore, hwith⟩ := total_append_chunk pre.items c rest.items
  rw [← hs, content_items] at hbefore hwith
  refine ⟨fun j hj => ?_, hwith ▸ hlt⟩
  calc s.items.total j ≤ s.items.total pre.items.length := total_le_total _ hj
    _ = pre.content.length := hbefore
    _ ≤ cap := hle

end Stream

namespace Reader

variable {limit : Limit} {n : Nat} {s : Stream}

theorem within_of_le {length : Nat} (h : length ≤ limit.behind n) :
    Reader.Within { limit } length :=
  ⟨(Limit.le_behind_iff.1 h).2, fun _ he => nomatch he⟩

theorem run_limited_of_le (hc : s.isClean = true) (h : s.content.length ≤ limit.behind n) :
    Reader.run { limit } (s.limited n) = ⟨.ok s.content, s.items.length, s.pending⟩ := by
  rw [Stream.limited_of_le (Limit.le_behind_iff.1 h).1]
  exact run_of_met hc (within_of_le h).1 fun _ he => nomatch he

/-- **Whichever limit is passed first**, the reading ends with the same chunk and the same error. -/
theorem run_limited_of_lt {pre : Stream} {c : Bytes} (hc : pre.isClean = true)
    (hle : pre.content.length ≤ limit.behind n)
    (hlt : limit.behind n < (pre.content ++ c).length) (rest : Stream) :
    Reader.run { limit } ((pre ++ .chunk c :: rest).limited n)
      = ⟨.error (.tooLarge limit.maxBytes), pre.items.length + 1, pre.pending⟩ := by
  have hw : Reader.Within { limit } pre.content.length := within_of_le hle
  have hout := (Limit.le_behind_iff.1 hle).1
  rw [Stream.limited_append hout, Stream.limited]
  by_cases hcut : n - pre.content.length < c.length
  · -- the limit further out makes the chunk a failure
    rw [if_pos hcut, run_of_fault hc hw, Error.ofFault_lengthLimit]
  · have hn : (pre.content ++ c).length ≤ n := by
      rw [List.length_append]
      omega
    obtain ⟨max, hm, hmax⟩ := Limit.exists_max_of_behind_lt hlt hn
    rw [if_neg hcut, run_of_tooLarge hc hw hm hmax, hm]

end Reader

/-! ## The body of a request -/

section Request

variable {limit : Limit} {headers : Http.Headers}

/-- Where no length is declared, only the limit bounds a reading. -/
theorem readRequest_of_undeclared (hd : declaredLength headers = none) (s : Stream) :
    readRequest limit headers s = Reader.run { limit } s := by
  have ha : ∀ n, declaredLength headers = some n → limit.Admits n := by
    intro n hn
    rw [hd] at hn
    cases hn
  rw [readRequest_of_admitted ha, requestReader, hd]

/-- **Two limits come to their minimum.** A body without failures and without a declared length is
read behind a limit of `n` bytes. If all its bytes are within the lesser limit, they are the text.
Else it is too large, with the limit that the reader has of its own, and nothing is taken behind the
first item at which the total is above the lesser limit. A reader that has just the lesser limit
gives a text to the same bodies, the same one, and takes as many items of every body. -/
theorem readRequestText_limited (limit : Limit) (headers : Http.Headers) (n : Nat) (s : Stream)
    (hd : declaredLength headers = none) (hc : s.isClean = true) :
    let least := limit.behind n
    let answer := (readRequestText limit headers (s.limited n)).value
    let taken := (readRequest limit headers (s.limited n)).taken
    (s.content.length ≤ least → answer = .ok (textOf s.content) ∧ taken = s.items.length) ∧
    (least < s.content.length → answer = .error (.tooLarge limit.maxBytes) ∧
      ∃ k, (∀ j ≤ k, s.items.total j ≤ least) ∧ least < s.items.total (k + 1) ∧ taken = k + 1) ∧
    (∀ text, answer = .ok text ↔
      (readRequestText (.ofBytes least) headers s).value = .ok text) ∧
    taken = (readRequest (.ofBytes least) headers s).taken := by
  intro least answer taken
  have hin : ∀ length, length ≤ least → Reader.Within { limit := .ofBytes least } length := by
    intro length h
    constructor
    · rintro _ ⟨⟩
      exact h
    · rintro _ ⟨⟩
  rcases Nat.lt_or_ge least s.content.length with hlt | hle
  · -- the chunk that leads above the lesser limit ends both readings
    obtain ⟨pre, c, rest, rfl, hpre, hle, hgt⟩ := exists_chunk_above hc hlt
    have htwo : readRequest limit headers ((pre ++ .chunk c :: rest).limited n)
        = ⟨.error (.tooLarge limit.maxBytes), pre.items.length + 1, pre.pending⟩ := by
      rw [readRequest_of_undeclared hd, Reader.run_limited_of_lt hpre hle hgt]
    have hone : readRequest (.ofBytes least) headers (pre ++ .chunk c :: rest)
        = ⟨.error (.tooLarge (some least)), pre.items.length + 1, pre.pending⟩ := by
      rw [readRequest_of_undeclared hd, Reader.run_of_tooLarge hpre (hin _ hle) rfl hgt]
    have hanswer : answer = .error (.tooLarge limit.maxBytes) := by
      show (readRequestText _ _ _).value = _
      rw [readRequestText, htwo]
      rfl
    have htaken : taken = pre.items.length + 1 := congrArg Reading.taken htwo
    obtain ⟨hbefore, habove⟩ := Stream.total_items_of_chunk rest hle hgt
    refine ⟨fun h => absurd hlt (Nat.not_lt.2 h),
      fun _ => ⟨hanswer, _, hbefore, habove, htaken⟩, fun text => ?_, ?_⟩
    · rw [hanswer, readRequestText, hone]
      constructor
      · intro h
        cases h
      · intro h
        cases h
    · rw [htaken, hone]
  · -- neither limit is reached, and both readings go on to the end of the stream
    have htwo : readRequest limit headers (s.limited n)
        = ⟨.ok s.content, s.items.length, s.pending⟩ := by
      rw [readRequest_of_undeclared hd, Reader.run_limited_of_le hc hle]
    have hone : readRequest (.ofBytes least) headers s
        = ⟨.ok s.content, s.items.length, s.pending⟩ := by
      rw [readRequest_of_undeclared hd,
        Reader.run_of_met hc (hin _ hle).1 (by rintro _ ⟨⟩)]
    have hanswer : answer = .ok (textOf s.content) := by
      show (readRequestText _ _ _).value = _
      rw [readRequestText, htwo]
      rfl
    have htaken : taken = s.items.length := congrArg Reading.taken htwo
    refine ⟨fun _ => ⟨hanswer, htaken⟩, fun h => absurd hle (Nat.not_le.2 h), fun text => ?_, ?_⟩
    · rw [hanswer, readRequestText, hone]
      rfl
    · rw [htaken, hone]

/-- A chunk passes both limits at once; for a reader without a limit it passes the other one. -/
theorem limited_passed_at_once :
    let s : Stream := [.chunk (utf8 "abc"), .chunk [], .pause 5, .chunk (utf8 "defgh"), .chunk []]
    declaredLength .empty = none ∧ s.isClean = true ∧
      (readRequestText (.ofBytes 6) .empty (s.limited 4)).value = .error (.tooLarge (some 6)) ∧
      (readRequestText .unlimited .empty (s.limited 4)).value = .error (.tooLarge none) ∧
      (readRequest .unlimited .empty (s.limited 4)).taken
        = (readRequest (.ofBytes 4) .empty s).taken := by
  intro s
  have hd : declaredLength .empty = none := rfl
  obtain ⟨-, hbounded, -, -⟩ := readRequestText_limited (.ofBytes 6) .empty 4 s hd rfl
  obtain ⟨-, hunbounded, -, htaken⟩ := readRequestText_limited .unlimited .empty 4 s hd rfl
  have hlt : 4 < s.content.length := by decide +kernel
  exact ⟨hd, rfl, (hbounded hlt).1, (hunbounded hlt).1, htaken⟩

end Request

end Session.Body
