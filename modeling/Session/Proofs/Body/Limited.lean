import Session.Proofs.Body.Reading

set_option autoImplicit false

/-! # Reading behind another limit

A limit further out cuts a stream at the first chunk that is larger than what remains of it
(`Stream.limited`). Where the whole body fits, the stream is left alone; where it does not, the
cut is a failure, and a reading that gets as far as this is reported as too large. So a reading
succeeds behind another limit exactly if it succeeds without, as long as that limit admits every
body that the reader itself would accept (`readRequest_limited_eq_ok_iff`).

What a reader that expects `n` bytes is told about a body of another length depends on which of
the two comes first: its own count or the cut. Both happen at the same chunk, the one that takes
the bytes above `n` (`Stream.reach`).
-/

namespace Session.Body

/-! ## The cut -/

namespace Stream

/-- How many bytes have come with the chunk that takes them above `n`, or in all, if none
does. -/
def reach (n : Nat) : Stream → Nat
  | [] => 0
  | .chunk bs :: s => if n < bs.length then bs.length else bs.length + reach (n - bs.length) s
  | .fault _ :: s => reach n s
  | .pause _ :: s => reach n s

/-- The limit lets a prefix through that fits, and goes on with what remains of it. -/
theorem limited_append {n : Nat} {s : Stream} (hs : s.content.length ≤ n) (t : Stream) :
    limited n (s ++ t) = s ++ limited (n - s.content.length) t := by
  induction s generalizing n with
  | nil => rfl
  | cons i s ih =>
      cases i with
      | chunk bs =>
          have hlen : content (.chunk bs :: s) = bs ++ content s := rfl
          rw [hlen, List.length_append] at hs ⊢
          rw [List.cons_append, limited, if_neg (by omega), ih (by omega), List.cons_append,
            Nat.sub_sub]
      | fault f => rw [List.cons_append, limited, ih hs]; rfl
      | pause ms => rw [List.cons_append, limited, ih hs]; rfl

theorem limited_of_le {n : Nat} {s : Stream} (hs : s.content.length ≤ n) : limited n s = s := by
  have h := limited_append hs []
  rwa [List.append_nil, limited, List.append_nil] at h

theorem isClean_limited_of_lt {n : Nat} {s : Stream} (hs : n < s.content.length) :
    isClean (limited n s) = false := by
  induction s generalizing n with
  | nil => simp [content] at hs
  | cons i s ih =>
      cases i with
      | chunk bs =>
          have hlen : content (.chunk bs :: s) = bs ++ content s := rfl
          rw [hlen, List.length_append] at hs
          rw [limited]
          by_cases hn : n < bs.length
          · rw [if_pos hn]
            rfl
          · rw [if_neg hn]
            exact ih (by omega)
      | fault f => rfl
      | pause ms => exact ih hs

@[simp] theorem pending_limited (n : Nat) (s : Stream) : pending (limited n s) = pending s := by
  induction s generalizing n with
  | nil => rfl
  | cons i s ih =>
      cases i with
      | chunk bs => rw [limited]; split <;> exact ih _
      | fault f => exact ih n
      | pause ms => exact congrArg (ms + ·) (ih n)

theorem reach_of_lt {n : Nat} {s : Stream} {c : Bytes} (hs : s.content.length ≤ n)
    (hn : n < (s.content ++ c).length) (rest : Stream) :
    reach n (s ++ .chunk c :: rest) = (s.content ++ c).length := by
  induction s generalizing n with
  | nil => exact if_pos hn
  | cons i s ih =>
      cases i with
      | chunk bs =>
          have hlen : content (.chunk bs :: s) = bs ++ content s := rfl
          rw [hlen] at hs hn ⊢
          simp only [List.length_append] at hs hn ⊢ ih
          rw [List.cons_append, reach, if_neg (by omega), ih (by omega) (by omega)]
          omega
      | fault f => exact ih hs hn
      | pause ms => exact ih hs hn

theorem reach_of_le {n : Nat} {s : Stream} (hs : s.content.length ≤ n) :
    reach n s = s.content.length := by
  induction s generalizing n with
  | nil => rfl
  | cons i s ih =>
      cases i with
      | chunk bs =>
          have hlen : content (.chunk bs :: s) = bs ++ content s := rfl
          rw [hlen, List.length_append] at hs ⊢
          rw [reach, if_neg (by omega), ih (by omega)]
      | fault f => exact ih hs
      | pause ms => exact ih hs

end Stream

/-- The cut shows up as a failure, and is told apart from other failures. -/
theorem Error.ofFault_lengthLimit (limit : Limit) :
    Error.ofFault limit .lengthLimit = .tooLarge limit.maxBytes := by
  have h : Fault.lengthLimit.reachesLengthLimit = true := by
    rw [Fault.reachesLengthLimit]
    rfl
  rw [Error.ofFault, if_pos h]

/-! ## Accepting -/

namespace Reader

/-- **What a reading accepts**: a stream without a failure, within the limit and of the declared
length; and it gives all its bytes. -/
theorem run_eq_ok_iff {r : Reader} {s : Stream} {bs : Bytes} :
    (r.run s).result = .ok bs ↔
      s.isClean = true ∧ r.limit.Admits s.content.length ∧
        (∀ n, r.expected = some n → n = s.content.length) ∧ bs = s.content := by
  constructor
  · intro hok
    rcases r.within_or_cut s with ⟨hc, hw⟩ | ⟨pre, i, rest, rfl, hc, hw, hcut⟩
    · refine ⟨hc, hw.1, ?_⟩
      by_cases he : ∀ n, r.expected = some n → n = s.content.length
      · rw [run_of_met hc hw.1 he] at hok
        exact ⟨he, (Except.ok.inj hok).symm⟩
      · push Not at he
        obtain ⟨n, hn, hne⟩ := he
        rw [run_of_missed hc hw hn hne] at hok
        cases hok
    · -- the item in front of which the stream is cut turns the reading into an error
      obtain ⟨e, he⟩ := run_of_stops hc hw hcut rest
      rw [he] at hok
      cases hok
  · rintro ⟨hc, ha, he, rfl⟩
    rw [run_of_met hc ha he]

/-- A reading waits no longer than the stream is pending. -/
theorem waited_runFrom_le (r : Reader) (h : Held) (s : Stream) :
    (r.runFrom h s).waited ≤ s.pending := by
  induction s generalizing h with
  | nil => exact Nat.le_refl 0
  | cons i s ih =>
      cases i with
      | chunk c =>
          rw [runFrom]
          cases r.take h c with
          | error e => exact Nat.zero_le _
          | ok h' => exact ih h'
      | fault f => exact Nat.zero_le _
      | pause ms => exact Nat.add_le_add_left (ih h) ms

end Reader

section Request

variable {limit : Limit} {headers : Http.Headers} {s : Stream}

/-- What reading the body of a request accepts. -/
theorem readRequest_eq_ok_iff {bs : Bytes} :
    (readRequest limit headers s).result = .ok bs ↔
      s.isClean = true ∧ limit.Admits s.content.length ∧
        (∀ n, declaredLength headers = some n → n = s.content.length) ∧ bs = s.content := by
  by_cases ha : ∀ n, declaredLength headers = some n → limit.Admits n
  · rw [readRequest_of_admitted ha]
    exact Reader.run_eq_ok_iff
  · constructor
    · intro hok
      push Not at ha
      obtain ⟨n, hn, hna⟩ := ha
      obtain ⟨max, hm, hlt⟩ := Limit.not_admits_iff.1 hna
      rw [readRequest_of_refused hn hm hlt] at hok
      cases hok
    · rintro ⟨-, hl, he, -⟩
      exact absurd (fun n hn => he n hn ▸ hl) ha

/-- **A limit that admits every acceptable body changes nothing about acceptance.** -/
theorem readRequest_limited_eq_ok_iff {cut : Nat}
    (hcut : ∀ len, limit.Admits len → (∀ n, declaredLength headers = some n → n = len) →
      len ≤ cut) (bs : Bytes) :
    (readRequest limit headers (s.limited cut)).result = .ok bs ↔
      (readRequest limit headers s).result = .ok bs := by
  by_cases hs : s.content.length ≤ cut
  · rw [Stream.limited_of_le hs]
  · rw [readRequest_eq_ok_iff, readRequest_eq_ok_iff, Stream.isClean_limited_of_lt (by omega)]
    constructor
    · rintro ⟨hc, -⟩
      cases hc
    · rintro ⟨-, ha, he, -⟩
      exact absurd (hcut _ ha he) hs

theorem waited_readRequest_le : (readRequest limit headers s).waited ≤ s.pending := by
  rw [readRequest]
  split
  · exact Nat.zero_le _
  · exact Reader.waited_runFrom_le _ _ _

/-! ## Bodies of another length than declared -/

/-- The chunk that takes the bytes above `n`, in a stream without a failure. -/
theorem exists_chunk_above {n : Nat} (hc : s.isClean = true) (hn : n < s.content.length) :
    ∃ pre c rest, s = pre ++ .chunk c :: rest ∧ Stream.isClean pre = true ∧
      (Stream.content pre).length ≤ n ∧ n < (Stream.content pre ++ c).length := by
  -- it is where a reader with this limit would stop
  let r : Reader := { limit := .ofBytes n }
  have hr : ∀ m, r.Within m ↔ m ≤ n := fun m =>
    ⟨fun hw => hw.1 n rfl, fun hm => ⟨fun _ he => Option.some.inj he ▸ hm, by rintro _ ⟨⟩⟩⟩
  rcases r.within_or_cut s with ⟨-, hw⟩ | ⟨pre, i, rest, rfl, hpre, hw, hcut⟩
  · exact absurd ((hr _).1 hw) (by omega)
  · rcases hcut with ⟨f, rfl⟩ | ⟨c, rfl, hout⟩
    · simp [Stream.isClean] at hc
    · rw [hr] at hw hout
      exact ⟨pre, c, rest, rfl, hpre, hw, by omega⟩

theorem Limit.Admits.mono {m n : Nat} (ha : limit.Admits n) (hmn : m ≤ n) : limit.Admits m :=
  fun max hm => Nat.le_trans hmn (ha max hm)

theorem length_content_append_le (pre : Stream) (c : Bytes) (rest : Stream) :
    (Stream.content pre ++ c).length ≤ (Stream.content (pre ++ .chunk c :: rest)).length := by
  have hcons : Stream.content (.chunk c :: rest) = c ++ Stream.content rest := rfl
  rw [Stream.content_append, hcons]
  simp only [List.length_append]
  omega

/-- A body within the limit of another length than declared: the reader counts up to the chunk
that shows it. -/
theorem readRequest_of_wrong_length {n : Nat} (hc : s.isClean = true)
    (ha : limit.Admits s.content.length) (hn : declaredLength headers = some n)
    (hna : limit.Admits n) (hne : n ≠ s.content.length) :
    (readRequest limit headers s).result = .error (.lengthMismatch n (s.reach n)) := by
  have hadm : ∀ m, declaredLength headers = some m → limit.Admits m := by
    intro m hm
    rw [hn, Option.some.injEq] at hm
    exact hm ▸ hna
  rw [readRequest_of_admitted hadm]
  have hwithin : ∀ m, limit.Admits m → m ≤ n → (requestReader limit headers).Within m := by
    refine fun m hm hmn => ⟨hm, fun e he => ?_⟩
    rw [requestReader, hn, Option.some.injEq] at he
    exact he ▸ hmn
  by_cases hlt : n < s.content.length
  · obtain ⟨pre, c, rest, rfl, hpre, hle, hgt⟩ := exists_chunk_above hc hlt
    have hall := length_content_append_le pre c rest
    rw [List.length_append] at hall
    rw [Reader.run_of_tooLong hpre (hwithin _ (ha.mono (by omega)) hle)
      (ha.mono (length_content_append_le pre c rest)) hn hgt, Stream.reach_of_lt hle hgt]
  · rw [Reader.run_of_missed hc (hwithin _ ha (by omega)) hn hne, Stream.reach_of_le (by omega)]

/-- A body that is cut at its declared length, since it is longer: the cut comes first. -/
theorem readRequest_limited_of_lt {n : Nat} (hc : s.isClean = true)
    (ha : limit.Admits s.content.length) (hn : declaredLength headers = some n)
    (hlt : n < s.content.length) :
    (readRequest limit headers (s.limited n)).result = .error (.tooLarge limit.maxBytes) := by
  have hadm : ∀ m, declaredLength headers = some m → limit.Admits m := by
    intro m hm
    rw [hn, Option.some.injEq] at hm
    exact ha.mono (by omega)
  rw [readRequest_of_admitted hadm]
  obtain ⟨pre, c, rest, rfl, hpre, hle, hgt⟩ := exists_chunk_above hc hlt
  have hall := length_content_append_le pre c rest
  rw [List.length_append] at hall hgt
  have hw : (requestReader limit headers).Within (Stream.content pre).length := by
    refine ⟨ha.mono (by omega), fun e he => ?_⟩
    rw [requestReader, hn, Option.some.injEq] at he
    exact he ▸ hle
  rw [Stream.limited_append hle, Stream.limited, if_pos (by omega), Reader.run_of_fault hpre hw,
    Error.ofFault_lengthLimit]
  rfl

end Request

end Session.Body
