import Session.Proofs.Body.Reading

set_option autoImplicit false

/-! # How a body is cut

A reader sees the chunks of a body one by one, and stops at the first one that leaves its bounds
(`Reader.Answers`). Of a body without failures it is a matter of the bytes alone whether there is
a text, and which one (`text_of_isClean`). So is the kind of error, but for one case: the body is
above the limit, and the length that it declares is below. Then it leaves both bounds, and it is a
matter of the cuts which one it leaves first (`Stream.IsCutBetween`, `outcome_of_isClean`).
-/

namespace Session.Body

/-! ## Cuts -/

namespace Stream

/-- Behind one of the items more than `n` bytes have come, but at most `max`. -/
def IsCutBetween (s : Stream) (n max : Nat) : Prop := ∃ k, n < s.total k ∧ s.total k ≤ max

variable {s pre rest : Stream} {c : Bytes} {n max : Nat}

theorem total_le_total (s : Stream) {j k : Nat} (h : j ≤ k) : s.total j ≤ s.total k := by
  obtain ⟨i, rfl⟩ := Nat.exists_eq_add_of_le h
  rw [total, total, List.take_add, content_append, List.length_append]
  exact Nat.le_add_right _ _

theorem total_append_chunk (pre : Stream) (c : Bytes) (rest : Stream) :
    total (pre ++ .chunk c :: rest) pre.length = pre.content.length ∧
      total (pre ++ .chunk c :: rest) (pre.length + 1) = (pre.content ++ c).length := by
  have hi : (pre ++ .chunk c :: rest)[pre.length]? = some (.chunk c) := by simp
  have htake : (pre ++ .chunk c :: rest).take pre.length = pre := List.take_left
  exact ⟨by rw [total, htake], by rw [Reader.total_succ_of_chunk hi, htake]⟩

theorem length_le_content (pre : Stream) (c : Bytes) (rest : Stream) :
    (pre.content ++ c).length ≤ (content (pre ++ .chunk c :: rest)).length := by
  rw [content_append, content, List.length_append, List.length_append, List.length_append]
  omega

/-- A chunk that leads from below `n` to above `max` leaves no cut between them. -/
theorem not_isCutBetween (hn : pre.content.length ≤ n) (hmax : max < (pre.content ++ c).length) :
    ¬ IsCutBetween (pre ++ .chunk c :: rest) n max := by
  obtain ⟨hbefore, hwith⟩ := total_append_chunk pre c rest
  rintro ⟨k, hlow, hhigh⟩
  by_cases hk : k ≤ pre.length
  · have := total_le_total (pre ++ .chunk c :: rest) hk
    omega
  · have := total_le_total (pre ++ .chunk c :: rest) (by omega : pre.length + 1 ≤ k)
    omega

theorem isCutBetween_of_chunk (hn : n < (pre.content ++ c).length)
    (hmax : (pre.content ++ c).length ≤ max) : IsCutBetween (pre ++ .chunk c :: rest) n max := by
  refine ⟨pre.length + 1, ?_⟩
  rw [(total_append_chunk pre c rest).2]
  exact ⟨hn, hmax⟩

end Stream

/-! ## What is answered to a body without failures -/

namespace Reader

variable {r : Reader} {s t : Stream} {result : Except Error Bytes} {e : Error}

def Accepts (r : Reader) : Prop := ∀ n, r.expected = some n → r.limit.Admits n

/-- What the reader answers to a request with a body that does not fail. -/
inductive Answers (r : Reader) : Stream → Except Error Bytes → Prop
  /-- The declared length is above the limit. -/
  | refused {s : Stream} {n max : Nat} (hn : r.expected = some n)
      (hm : r.limit.maxBytes = some max) (h : max < n) : Answers r s (.error (.tooLarge (some max)))
  /-- The body ends within the limit, at the declared length if there is one. -/
  | met {s : Stream} (ha : r.limit.Admits s.content.length)
      (hn : ∀ n, r.expected = some n → n = s.content.length) : Answers r s (.ok s.content)
  /-- The body ends before the declared length. -/
  | missed {s : Stream} {n : Nat} (hr : r.Accepts) (ha : r.limit.Admits s.content.length)
      (hn : r.expected = some n) (h : s.content.length < n) :
      Answers r s (.error (.lengthMismatch n s.content.length))
  /-- A chunk leads from within both bounds to above the limit. -/
  | above {pre rest : Stream} {c : Bytes} {max : Nat} (hw : r.Within pre.content.length)
      (hm : r.limit.maxBytes = some max) (h : max < (pre.content ++ c).length) :
      Answers r (pre ++ .chunk c :: rest) (.error (.tooLarge (some max)))
  /-- A chunk leads above the declared length, but not above the limit. -/
  | beyond {pre rest : Stream} {c : Bytes} {n : Nat} (hr : r.Accepts)
      (ha : r.limit.Admits (pre.content ++ c).length) (hn : r.expected = some n)
      (h : n < (pre.content ++ c).length) :
      Answers r (pre ++ .chunk c :: rest) (.error (.lengthMismatch n (pre.content ++ c).length))

theorem run_answers (hr : r.Accepts) (hc : s.isClean = true) : r.Answers s (r.run s).result := by
  rcases within_or_cut r s with ⟨-, hw⟩ | ⟨pre, i, rest, rfl, hpre, hw, hi⟩
  · by_cases hmet : ∀ n, r.expected = some n → n = s.content.length
    · rw [run_of_met hc hw.1 hmet]
      exact .met hw.1 hmet
    · push Not at hmet
      obtain ⟨n, hn, hne⟩ := hmet
      rw [run_of_missed hc hw hn hne]
      exact .missed hr hw.1 hn (Nat.lt_of_le_of_ne (hw.2 n hn) hne.symm)
  · rcases hi with ⟨f, rfl⟩ | ⟨c, rfl, hout⟩
    · -- the item is no failure, since there is none
      rw [Stream.isClean_append, hpre] at hc
      cases hc
    · rcases not_within_iff.1 hout with ⟨max, hm, hlt⟩ | ⟨ha, n, hn, hlt⟩
      · rw [run_of_tooLarge hpre hw hm hlt rest]
        exact .above hw hm hlt
      · rw [run_of_tooLong hpre hw ha hn hlt rest]
        exact .beyond hr ha hn hlt

/-- Whether there is a text is a matter of the bytes alone. -/
theorem Answers.eq_ok_iff (h : r.Answers s result) {bs : Bytes} :
    result = .ok bs ↔ bs = s.content ∧ r.limit.Admits s.content.length ∧
      ∀ n, r.expected = some n → n = s.content.length := by
  cases h with
  | @refused _ n max hn hm hlt =>
      refine ⟨(nomatch ·), fun ⟨_, ha, he⟩ => ?_⟩
      have := ha max hm
      have := he n hn
      omega
  | met ha hn => exact ⟨fun h => ⟨(Except.ok.inj h).symm, ha, hn⟩, fun h => by rw [h.1]⟩
  | @missed _ n hr ha hn hlt =>
      refine ⟨(nomatch ·), fun ⟨_, _, he⟩ => ?_⟩
      have := he n hn
      omega
  | @above pre rest c max hw hm hlt =>
      refine ⟨(nomatch ·), fun ⟨_, ha, _⟩ => ?_⟩
      have := ha max hm
      have := Stream.length_le_content pre c rest
      omega
  | @beyond pre rest c n hr ha hn hlt =>
      refine ⟨(nomatch ·), fun ⟨_, _, he⟩ => ?_⟩
      have := he n hn
      have := Stream.length_le_content pre c rest
      omega

/-- The declared length is above the limit; or the body is, and it is not cut between the two. -/
def IsTooLarge (r : Reader) (s : Stream) : Prop :=
  ∃ max, r.limit.maxBytes = some max ∧
    ((∃ n, r.expected = some n ∧ max < n) ∨
      max < s.content.length ∧ ∀ n, r.expected = some n → ¬ s.IsCutBetween n max)

theorem not_isTooLarge_of_admits (hr : r.Accepts) (ha : r.limit.Admits s.content.length) :
    ¬ r.IsTooLarge s := by
  rintro ⟨max, hm, ⟨n, hn, hlt⟩ | ⟨hlt, -⟩⟩
  · exact absurd (hr n hn max hm) (Nat.not_le.2 hlt)
  · exact absurd (ha max hm) (Nat.not_le.2 hlt)

/-- **The kind of error and its status**, told from the bytes and the cuts. -/
theorem Answers.outcome (h : r.Answers s (.error e)) :
    (r.IsTooLarge s ∧ e.outcome = .tooLarge ∧ e.status = .payloadTooLarge) ∨
      (¬ r.IsTooLarge s ∧ e.outcome = .lengthMismatch ∧ e.status = .badRequest) := by
  cases h with
  | refused hn hm hlt => exact Or.inl ⟨⟨_, hm, Or.inl ⟨_, hn, hlt⟩⟩, rfl, rfl⟩
  | missed hr ha hn hlt => exact Or.inr ⟨not_isTooLarge_of_admits hr ha, rfl, rfl⟩
  | @above pre rest c max hw hm hlt =>
      refine Or.inl ⟨⟨max, hm, Or.inr ⟨?_, fun n hn => ?_⟩⟩, rfl, rfl⟩
      · exact Nat.lt_of_lt_of_le hlt (Stream.length_le_content pre c rest)
      · exact Stream.not_isCutBetween (hw.2 n hn) hlt
  | @beyond pre rest c n hr ha hn hlt =>
      refine Or.inr ⟨?_, rfl, rfl⟩
      rintro ⟨max, hm, ⟨n', hn', hlt'⟩ | ⟨-, hcut⟩⟩
      · exact absurd (hr n' hn' max hm) (Nat.not_le.2 hlt')
      · exact hcut n hn (Stream.isCutBetween_of_chunk hlt (ha max hm))

/-! ## Two ways to cut the same body -/

/-- Where a length is declared that is below the limit, and the body is above the limit, both or
none of the streams are cut between the two. -/
def CutsAlike (r : Reader) (s t : Stream) : Prop :=
  ∀ n max, r.expected = some n → r.limit.maxBytes = some max → n < max → max < s.content.length →
    (s.IsCutBetween n max ↔ t.IsCutBetween n max)

theorem CutsAlike.symm (h : r.CutsAlike s t) (hst : s.content = t.content) : r.CutsAlike t s :=
  fun n max hn hm hlt hmax => (h n max hn hm hlt (hst ▸ hmax)).symm

theorem IsTooLarge.of_cutsAlike (hs : r.IsTooLarge s) (h : r.CutsAlike s t)
    (hst : s.content = t.content) : r.IsTooLarge t := by
  obtain ⟨max, hm, hrefused | ⟨hmax, hcut⟩⟩ := hs
  · exact ⟨max, hm, Or.inl hrefused⟩
  · refine ⟨max, hm, Or.inr ⟨hst ▸ hmax, fun n hn ht => ?_⟩⟩
    -- with a cut between them the one is below the other
    have hlt : n < max := by
      obtain ⟨k, hlow, hhigh⟩ := ht
      omega
    exact hcut n hn ((h n max hn hm hlt hmax).2 ht)

/-- Where the two bounds apart from each other are passed, the cuts decide. -/
theorem isTooLarge_iff_of_between {n max : Nat} (hn : r.expected = some n)
    (hm : r.limit.maxBytes = some max) (hlt : n < max) (hmax : max < s.content.length) :
    r.IsTooLarge s ↔ ¬ s.IsCutBetween n max := by
  constructor
  · rintro ⟨max', hm', ⟨n', hn', hlt'⟩ | ⟨-, hcut⟩⟩
    · obtain rfl : n = n' := Option.some.inj (hn.symm.trans hn')
      obtain rfl : max = max' := Option.some.inj (hm.symm.trans hm')
      omega
    · obtain rfl : max = max' := Option.some.inj (hm.symm.trans hm')
      exact hcut n hn
  · intro hcut
    refine ⟨max, hm, Or.inr ⟨hmax, fun n' hn' => ?_⟩⟩
    obtain rfl : n = n' := Option.some.inj (hn.symm.trans hn')
    exact hcut

theorem isTooLarge_iff_iff_cutsAlike (hst : s.content = t.content) :
    (r.IsTooLarge s ↔ r.IsTooLarge t) ↔ r.CutsAlike s t := by
  constructor
  · intro h n max hn hm hlt hmax
    rw [isTooLarge_iff_of_between hn hm hlt hmax,
      isTooLarge_iff_of_between hn hm hlt (hst ▸ hmax)] at h
    exact not_iff_not.1 h
  · intro h
    exact ⟨fun hs => hs.of_cutsAlike h hst, fun ht => ht.of_cutsAlike (h.symm hst) hst.symm⟩

end Reader

/-! ## The body of a request -/

section Request

variable {limit : Limit} {headers : Http.Headers} {s : Stream} {text : String} {e : Error}

theorem readRequest_answers (limit : Limit) (headers : Http.Headers) (hc : s.isClean = true) :
    (requestReader limit headers).Answers s (readRequest limit headers s).result := by
  by_cases hr : ∀ n, declaredLength headers = some n → limit.Admits n
  · rw [readRequest_of_admitted hr]
    exact Reader.run_answers hr hc
  · push Not at hr
    obtain ⟨n, hn, hna⟩ := hr
    obtain ⟨max, hm, hlt⟩ := Limit.not_admits_iff.1 hna
    rw [readRequest_of_refused hn hm hlt]
    exact .refused hn hm hlt

/-- Without failures there is a text exactly if the bytes are within the limit and as many as
declared, and it is theirs. -/
theorem text_of_isClean (hc : s.isClean = true) :
    (readRequestText limit headers s).value = .ok text ↔ textOf s.content = text ∧
      limit.Admits s.content.length ∧
      ∀ n, declaredLength headers = some n → n = s.content.length := by
  rw [readRequestText_eq_ok_iff]
  constructor
  · rintro ⟨bs, hres, rfl⟩
    obtain ⟨rfl, hbounds⟩ := (readRequest_answers limit headers hc).eq_ok_iff.1 hres
    exact ⟨rfl, hbounds⟩
  · rintro ⟨htext, hbounds⟩
    exact ⟨_, (readRequest_answers limit headers hc).eq_ok_iff.2 ⟨rfl, hbounds⟩, htext⟩

theorem outcome_of_isClean (hc : s.isClean = true)
    (h : (readRequestText limit headers s).value = .error e) :
    ((requestReader limit headers).IsTooLarge s ∧
        e.outcome = .tooLarge ∧ e.status = .payloadTooLarge) ∨
      (¬ (requestReader limit headers).IsTooLarge s ∧
        e.outcome = .lengthMismatch ∧ e.status = .badRequest) := by
  have hans := readRequest_answers limit headers hc
  rw [readRequestText_eq_error_iff.1 h] at hans
  exact hans.outcome

/-- **What a request comes to, and how its body was cut.** Two streams without failures and with
the same bytes give the same text, or no text both of them. If they give none, the kind of the
error and the status are the same too, unless the length that is declared is below the limit and
the body above it. Then it is a body that is too large (413) if no cut falls between the two, and
one of a wrong length (400) else; so the errors are the same if both or none of the streams have
such a cut. -/
theorem readRequestText_of_recut (limit : Limit) (headers : Http.Headers) (s t : Stream)
    (hs : s.isClean = true) (ht : t.isClean = true) (hst : s.content = t.content) :
    let one := (readRequestText limit headers s).value
    let other := (readRequestText limit headers t).value
    (∀ text, one = .ok text ↔ other = .ok text) ∧
    (∀ e e', one = .error e → other = .error e' →
      (e.outcome = e'.outcome ∧ e.status = e'.status ↔
        (requestReader limit headers).CutsAlike s t)) ∧
    ∀ n max, declaredLength headers = some n → limit.maxBytes = some max → n < max →
      max < s.content.length → ∃ e, one = .error e ∧
        (s.IsCutBetween n max → e.outcome = .lengthMismatch ∧ e.status = .badRequest) ∧
        (¬ s.IsCutBetween n max → e.outcome = .tooLarge ∧ e.status = .payloadTooLarge) := by
  refine ⟨fun text => ?_, fun e e' he he' => ?_, fun n max hn hm hlt hmax => ?_⟩
  · rw [text_of_isClean hs, text_of_isClean ht, hst]
  · rw [← Reader.isTooLarge_iff_iff_cutsAlike hst]
    -- either error is of the one kind or of the other
    rcases outcome_of_isClean hs he with ⟨h, hkind, hcode⟩ | ⟨h, hkind, hcode⟩ <;>
      rcases outcome_of_isClean ht he' with ⟨h', hkind', hcode'⟩ | ⟨h', hkind', hcode'⟩ <;>
      simp [h, hkind, hcode, h', hkind', hcode']
  · have hbetween := Reader.isTooLarge_iff_of_between (r := requestReader limit headers)
      hn hm hlt hmax
    cases hr : (readRequestText limit headers s).value with
    | ok text =>
        have hadmits := ((text_of_isClean hs).1 hr).2.1 max hm
        omega
    | error e =>
        refine ⟨e, rfl, fun hcut => ?_, fun hcut => ?_⟩
        · exact ((outcome_of_isClean hs hr).resolve_left fun h => hbetween.1 h.1 hcut).2
        · exact ((outcome_of_isClean hs hr).resolve_right fun h => h.1 (hbetween.2 hcut)).2

/-- Headers that declare three bytes, with a blank in front of the number. -/
def declaringThree : Http.Headers :=
  Http.Headers.empty.append .contentLength ⟨utf8 " 3", by decide +kernel⟩

/-- A cut inside of a character, and an empty chunk. -/
theorem recut_in_character :
    let s : Stream := [.chunk [0xC3], .chunk [], .pause 5, .chunk [0xA9, 0x21]]
    let t : Stream := [.chunk [0xC3, 0xA9, 0x21]]
    s.isClean = true ∧ t.isClean = true ∧ s.content = t.content ∧
      (readRequestText (.ofBytes 5) declaringThree s).value = .ok "é!" := by
  refine ⟨rfl, rfl, rfl, ?_⟩
  refine ((readRequestText_of_recut (.ofBytes 5) declaringThree _ [.chunk [0xC3, 0xA9, 0x21]]
    rfl rfl rfl).1 "é!").2 ?_
  decide +kernel

/-- **A cut can change the error.** Three bytes are declared, five are allowed, and six come: at
once, or four of them first. -/
theorem recut_beyond_both_bounds :
    let whole : Stream := [.chunk (utf8 "abcdef")]
    let cut : Stream := [.chunk (utf8 "abcd"), .chunk (utf8 "ef")]
    whole.isClean = true ∧ cut.isClean = true ∧ whole.content = cut.content ∧
      (readRequestText (.ofBytes 5) declaringThree whole).value = .error (.tooLarge (some 5)) ∧
      (readRequestText (.ofBytes 5) declaringThree cut).value = .error (.lengthMismatch 3 4) ∧
      (Error.tooLarge (some 5)).outcome ≠ (Error.lengthMismatch 3 4).outcome ∧
      (Error.tooLarge (some 5)).status ≠ (Error.lengthMismatch 3 4).status := by
  decide +kernel

end Request

end Session.Body
