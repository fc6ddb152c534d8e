import Session.Proofs.Body.Limited
import Session.Proofs.Server.Answering
import Session.Proofs.Text.Numeral
import Session.Proofs.Text.Utf8

set_option autoImplicit false

/-! # Sending bodies back

A body on its way to `/echo` meets two limits: the body limit of the server, which goes by the
announced length as it stands, and the reader, which goes by the same value without the blanks
around it. The file shows where the two agree. Whatever the server accepts the reader accepts,
and the other way round. They tell a body of another length than declared apart from one that is
too large as long as the body is short, or the value is padded so that only the reader goes by
it; a body that is longer than announced is cut by the body limit, and reported as too large.
-/

namespace Session

namespace Server

/-! ## One length, read twice -/

variable {headers : Http.Headers} {n : Nat}

/-- Blanks stand around the value of the declared length. -/
def IsPadded (headers : Http.Headers) : Prop :=
  ∃ value text, headers.get? .contentLength = some value ∧ value.ascii? = some text ∧
    Text.trim text ≠ text

/-- An announced length is the declared one. -/
theorem declaredLength_of_announcedLength (h : announcedLength headers = some n) :
    Body.declaredLength headers = some n := by
  simp only [announcedLength, Option.bind_eq_bind, Option.bind_eq_some_iff] at h
  obtain ⟨value, hv, text, ht, hr⟩ := h
  simp only [Body.declaredLength, Option.bind_eq_bind, Option.bind_eq_some_iff]
  refine ⟨value, hv, text, ht, ?_⟩
  rw [Text.trim_of_readUnsigned? hr]
  exact hr

/-- A declared length is announced unless its value is padded. -/
theorem announcedLength_of_declaredLength (h : Body.declaredLength headers = some n)
    (hp : ¬ IsPadded headers) : announcedLength headers = some n := by
  simp only [Body.declaredLength, Option.bind_eq_bind, Option.bind_eq_some_iff] at h
  obtain ⟨value, hv, text, ht, hr⟩ := h
  have htrim : Text.trim text = text := by
    by_contra hne
    exact hp ⟨value, text, hv, ht, hne⟩
  simp only [announcedLength, Option.bind_eq_bind, Option.bind_eq_some_iff]
  refine ⟨value, hv, text, ht, ?_⟩
  rwa [htrim] at hr

/-- A padded value announces nothing. -/
theorem announcedLength_of_isPadded (hp : IsPadded headers) : announcedLength headers = none := by
  obtain ⟨value, text, hv, ht, hne⟩ := hp
  rw [Option.eq_none_iff_forall_ne_some]
  intro n hn
  simp only [announcedLength, hv, ht, Option.bind_eq_bind, Option.bind_some] at hn
  exact hne (Text.trim_of_readUnsigned? hn)

/-! ## The way of a body -/

variable {config : Config} {fresh : Http.Value} {r : Request}

theorem ofRequest_echo (hm : r.method = "POST") (hp : r.path = "/echo".toList) :
    Endpoint.ofRequest r = .echo :=
  ofRequest_eq_echo_iff.2 ⟨hm, hp⟩

def echoResponse : Except Body.Error String → Http.Response
  | .ok text => .text .ok (utf8 text)
  | .error e => e.response

theorem echoBack_value (limit : Body.Limit) (headers : Http.Headers) (s : Body.Stream) :
    (echoBack limit headers s).value.value
      = echoResponse (Body.readRequestText limit headers s).value := by
  rw [echoBack, Traced.value_bind]
  cases (Body.readRequestText limit headers s).value with
  | ok text => rfl
  | error e => rfl

theorem layered_of_lt (ht : 0 < min config.limits.requestTimeout maxTimer * 1000)
    (hn : announcedLength r.headers = some n) (hlt : config.limits.maxBodyBytes < n) :
    (layered config r).value = refusal := by
  rw [layered, limitBody_of_lt hn hlt, limitTime_of_lt ht]
  rfl

/-- Any other body is read behind the body limit, and its reading is answered. -/
theorem layered_echo_of_le (hm : r.method = "POST") (hp : r.path = "/echo".toList)
    (ht : r.body.pending < min config.limits.requestTimeout maxTimer * 1000)
    (hn : ∀ n, announcedLength r.headers = some n → n ≤ config.limits.maxBodyBytes) :
    (layered config r).value = echoResponse (Body.readRequestText config.bodyLimit r.headers
      (admitted config.limits.maxBodyBytes r)).value := by
  have hafter : (echoBack config.bodyLimit r.headers
      (admitted config.limits.maxBodyBytes r)).after ≤ r.body.pending := by
    rw [← Body.Stream.pending_limited]
    exact Body.waited_readRequest_le
  rw [layered, limitBody_of_le hn, ofRequest_echo hm hp]
  show (limitTime _ (echoBack _ _ _)).value = _
  rw [limitTime_of_lt (Nat.lt_of_le_of_lt hafter ht), echoBack_value]

/-! ## What is accepted -/

/-- An accepted body never is longer than the cut that it meets. -/
theorem readRequest_admitted_eq_ok_iff (config : Config) (r : Request) (bs : Bytes) :
    (Body.readRequest config.bodyLimit r.headers
        (admitted config.limits.maxBodyBytes r)).result = .ok bs ↔
      (Body.readRequest config.bodyLimit r.headers r.body).result = .ok bs := by
  refine Body.readRequest_limited_eq_ok_iff (fun len hl he => ?_) bs
  have hmax : len ≤ config.limits.maxBodyBytes := hl _ rfl
  cases ha : announcedLength r.headers with
  | none => exact hmax
  | some n =>
      have hlen : n = len := he n (declaredLength_of_announcedLength ha)
      exact Nat.le_min.2 ⟨hmax, Nat.le_of_eq hlen.symm⟩

/-- The body limit may cut a stream, but the reader does not take what is left of it. -/
theorem eq_content_of_admitted {bs : Bytes} (h : (Body.readRequest config.bodyLimit r.headers
      (admitted config.limits.maxBodyBytes r)).result = .ok bs) :
    bs = r.body.content ∧ bs.length ≤ config.limits.maxBodyBytes := by
  obtain ⟨-, hadmits, -, hbs⟩ :=
    Body.readRequest_eq_ok_iff.1 ((readRequest_admitted_eq_ok_iff config r bs).1 h)
  exact ⟨hbs, hbs ▸ hadmits _ rfl⟩

theorem status_echoResponse_of_error (e : Body.Error) :
    (echoResponse (.error e)).status = .payloadTooLarge ∨
      (echoResponse (.error e)).status = .badRequest := by
  cases e with
  | stream cause => exact Or.inr rfl
  | tooLarge limit => exact Or.inl rfl
  | lengthMismatch expected received => exact Or.inr rfl

theorem status_echoResponse_of_error_ne_ok (e : Body.Error) :
    (echoResponse (.error e)).status ≠ .ok := by
  rcases status_echoResponse_of_error e with h | h
  · exact fun hok => absurd (h.symm.trans hok) (by decide)
  · exact fun hok => absurd (h.symm.trans hok) (by decide)

/-- A response that says that all is well shows the text of the body. -/
theorem echoResponse_eq_ok_iff {result : Except Body.Error String} {t : String} :
    (echoResponse result).status = .ok ∧ (echoResponse result).body = utf8 t ↔ result = .ok t := by
  cases result with
  | error e =>
      constructor
      · rintro ⟨hs, -⟩
        exact absurd hs (status_echoResponse_of_error_ne_ok e)
      · intro h
        cases h
  | ok text =>
      constructor
      · rintro ⟨-, hb⟩
        rw [utf8_injective hb]
      · intro h
        cases h
        exact ⟨rfl, rfl⟩

/-- **The server accepts exactly what the reader accepts.** A body that comes in time is sent back
with 200 if and only if reading it without any layer gives its text, and it is refused with 413
or 400 otherwise. In time is before the timeout, and before the longest time that a timer
runs. -/
theorem echo_accepts_iff_read (config : Config) (fresh : Http.Value) (r : Request)
    (hm : r.method = "POST") (hp : r.path = "/echo".toList)
    (ht : r.body.pending < config.limits.requestTimeout * 1000)
    (hy : r.body.pending < maxTimer * 1000) :
    let read := (Body.readRequestText config.bodyLimit r.headers r.body).value
    let response := (answer config fresh r).value
    (∀ t, response.status = .ok ∧ response.body = utf8 t ↔ read = .ok t) ∧
      ((∀ t, read ≠ .ok t) →
        response.status = .payloadTooLarge ∨ response.status = .badRequest) := by
  have htime : r.body.pending < min config.limits.requestTimeout maxTimer * 1000 := by
    rw [Nat.min_def]
    split
    · exact ht
    · exact hy
  have hbody : (answer config fresh r).value.body = (layered config r).value.body :=
    body_answer (by rw [hm]; decide) (by rw [hm]; decide)
  intro read response
  simp only [response, status_answer, hbody]
  by_cases hn : ∀ n, announcedLength r.headers = some n → n ≤ config.limits.maxBodyBytes
  · -- the body is read behind the body limit, which makes no difference to what is accepted
    have hread : ∀ t, (Body.readRequestText config.bodyLimit r.headers
        (admitted config.limits.maxBodyBytes r)).value = .ok t ↔ read = .ok t := by
      intro t
      rw [Body.readRequestText_eq_ok_iff, Body.readRequestText_eq_ok_iff]
      simp only [readRequest_admitted_eq_ok_iff]
    rw [layered_echo_of_le hm hp htime hn]
    refine ⟨fun t => echoResponse_eq_ok_iff.trans (hread t), fun hno => ?_⟩
    cases hres : (Body.readRequestText config.bodyLimit r.headers
        (admitted config.limits.maxBodyBytes r)).value with
    | ok t => exact absurd ((hread t).1 hres) (hno t)
    | error e => exact status_echoResponse_of_error e
  · -- the body limit refuses the announced length, and so does the reader the declared one
    push Not at hn
    obtain ⟨n, hn, hlt⟩ := hn
    have hmax : config.bodyLimit.maxBytes = some config.limits.maxBodyBytes := rfl
    have hno : ∀ t, read ≠ .ok t := by
      intro t h
      obtain ⟨bs, hbs, -⟩ := Body.readRequestText_eq_ok_iff.1 h
      rw [Body.readRequest_of_refused (declaredLength_of_announcedLength hn) hmax hlt] at hbs
      cases hbs
    rw [layered_of_lt (Nat.zero_lt_of_lt htime) hn hlt]
    refine ⟨fun t => ?_, fun _ => Or.inl rfl⟩
    constructor
    · rintro ⟨hs, -⟩
      exact absurd hs (by decide)
    · intro h
      exact absurd h (hno t)

/-- An id for a request that has none. -/
def someId : Http.Value := ⟨utf8 "1", by decide +kernel⟩

/-- Five bytes in three chunks, with a pause of nearly a second, behind a padded length. -/
def hello : Request where
  method := "POST"
  path := "/echo".toList
  headers := Http.Headers.empty.append .contentLength ⟨utf8 " 5 ", by decide +kernel⟩
  body := [.chunk (utf8 "he"), .pause 999, .chunk [], .chunk (utf8 "llo")]

/-- A second is enough for it. -/
def hasty : Config := { limits := { maxBodyBytes := 5, requestTimeout := 1 } }

theorem echo_accepts_hello :
    hello.method = "POST" ∧ hello.path = "/echo".toList ∧ hello.body.pending < 1 * 1000 ∧
      hello.body.pending < maxTimer * 1000 ∧
      (answer hasty someId hello).value.status = .ok ∧
      (answer hasty someId hello).value.body = utf8 "hello" := by
  have hread : (Body.readRequestText hasty.bodyLimit hello.headers hello.body).value
      = .ok "hello" := by decide +kernel
  exact ⟨rfl, rfl, by decide, by decide, ((echo_accepts_iff_read hasty someId hello rfl rfl
    (by decide) (by decide)).1 "hello").2 hread⟩

/-- A body whose second half comes a millisecond after the longest time that a timer runs. -/
def belated : Request where
  method := "POST"
  path := "/echo".toList
  headers := .empty
  body := [.chunk (utf8 "a"), .pause (maxTimer * 1000 + 1), .chunk (utf8 "b")]

/-- It would have a second more. -/
def patient : Config := { limits := { maxBodyBytes := 9, requestTimeout := maxTimer + 1 } }

/-- Being before the timeout alone is not being in time: the reader accepts the body, and the
server gives up on it. -/
theorem belated_times_out :
    1 ≤ patient.limits.requestTimeout ∧
      belated.body.pending < patient.limits.requestTimeout * 1000 ∧
      (Body.readRequestText patient.bodyLimit belated.headers belated.body).value = .ok "ab" ∧
      (answer patient someId belated).value.status = .requestTimeout := by
  decide +kernel

/-! ## Bodies of another length than declared -/

section WrongLength

variable (hc : r.body.isClean = true) (hs : r.body.content.length ≤ config.limits.maxBodyBytes)
  (hn : Body.declaredLength r.headers = some n) (hle : n ≤ config.limits.maxBodyBytes)
  (hne : n ≠ r.body.content.length)

include hs in
theorem admits_content : config.bodyLimit.Admits r.body.content.length := by
  intro max hmax
  rw [← Option.some.inj hmax]
  exact hs

include hc hs hn hle hne in
/-- The body limit leaves the body to the reader, which goes by the declared length. -/
theorem readRequest_admitted_of_uncut (h : IsPadded r.headers ∨ r.body.content.length < n) :
    (Body.readRequest config.bodyLimit r.headers (admitted config.limits.maxBodyBytes r)).result
      = .error (.lengthMismatch n (r.body.reach n)) := by
  have hwhole : admitted config.limits.maxBodyBytes r = r.body := by
    refine Body.Stream.limited_of_le ?_
    cases ha : announcedLength r.headers with
    | none => exact hs
    | some m =>
        -- a length that is announced is the declared one, and not padded
        have hm : m = n := Option.some.inj ((declaredLength_of_announcedLength ha).symm.trans hn)
        have hshort : r.body.content.length < n := by
          refine h.resolve_left fun hpad => ?_
          rw [announcedLength_of_isPadded hpad] at ha
          cases ha
        exact Nat.le_min.2 ⟨hs, by omega⟩
  have hnmax : config.bodyLimit.Admits n := by
    intro max hmax
    rw [← Option.some.inj hmax]
    exact hle
  rw [hwhole]
  exact Body.readRequest_of_wrong_length hc (admits_content hs) hn hnmax hne

include hc hs hn hle in
/-- The body limit cuts the body at the announced length. -/
theorem readRequest_admitted_of_cut (hp : ¬ IsPadded r.headers)
    (hlt : n < r.body.content.length) :
    (Body.readRequest config.bodyLimit r.headers (admitted config.limits.maxBodyBytes r)).result
      = .error (.tooLarge (some config.limits.maxBodyBytes)) := by
  have hcut : admitted config.limits.maxBodyBytes r = r.body.limited n := by
    rw [admitted, announcedLength_of_declaredLength hn hp, Option.elim_some, Nat.min_eq_right hle]
  rw [hcut]
  exact Body.readRequest_limited_of_lt hc (admits_content hs) hn hlt

end WrongLength

/-- A reading that fails is answered with its error. -/
theorem answer_echo_of_error (hm : r.method = "POST") (hp : r.path = "/echo".toList)
    (ht : r.body.pending < min config.limits.requestTimeout maxTimer * 1000)
    (hn : ∀ n, announcedLength r.headers = some n → n ≤ config.limits.maxBodyBytes)
    {e : Body.Error} (he : (Body.readRequest config.bodyLimit r.headers
      (admitted config.limits.maxBodyBytes r)).result = .error e) :
    (answer config fresh r).value.status = e.status ∧
      (answer config fresh r).value.body = utf8 e.message := by
  have hread : (Body.readRequestText config.bodyLimit r.headers
      (admitted config.limits.maxBodyBytes r)).value = .error e := by
    rw [Body.readRequestText, he]
    rfl
  rw [status_answer, body_answer (by rw [hm]; decide) (by rw [hm]; decide),
    layered_echo_of_le hm hp ht hn, hread]
  exact ⟨rfl, rfl⟩

/-- **A body of another length than declared**, within the limit as the declared length is. The
server says so if the body is too short, or if the value is padded, so that the body limit does
not go by it. A body that is longer than announced is refused as too large, though it is not. -/
theorem echo_of_wrong_length (config : Config) (fresh : Http.Value) (r : Request)
    (hm : r.method = "POST") (hp : r.path = "/echo".toList)
    (ht : 1 ≤ config.limits.requestTimeout) (hu : r.body.pending = 0)
    (hc : r.body.isClean = true) (hs : r.body.content.length ≤ config.limits.maxBodyBytes)
    {n : Nat} (hn : Body.declaredLength r.headers = some n)
    (hle : n ≤ config.limits.maxBodyBytes) (hne : n ≠ r.body.content.length) :
    let response := (answer config fresh r).value
    (IsPadded r.headers ∨ r.body.content.length < n →
      response.status = .badRequest ∧
        response.body = utf8 (Body.Error.lengthMismatch n (r.body.reach n)).message) ∧
    (¬ IsPadded r.headers ∧ n < r.body.content.length →
      response.status = .payloadTooLarge ∧
        response.body
          = utf8 (Body.Error.tooLarge (some config.limits.maxBodyBytes)).message) := by
  have htime : r.body.pending < min config.limits.requestTimeout maxTimer * 1000 := by
    have hpos : 0 < min config.limits.requestTimeout maxTimer := Nat.lt_min.2 ⟨ht, by decide⟩
    omega
  have hann : ∀ m, announcedLength r.headers = some m → m ≤ config.limits.maxBodyBytes := by
    intro m ha
    have hmn : m = n := Option.some.inj ((declaredLength_of_announcedLength ha).symm.trans hn)
    exact hmn ▸ hle
  refine ⟨fun h => ?_, fun ⟨hpad, hlt⟩ => ?_⟩
  · exact answer_echo_of_error hm hp htime hann
      (readRequest_admitted_of_uncut hc hs hn hle hne h)
  · exact answer_echo_of_error hm hp htime hann (readRequest_admitted_of_cut hc hs hn hle hpad hlt)

/-- Five bytes in two chunks, declared to be as many as the value says. -/
def declaring (value : Http.Value) : Request where
  method := "POST"
  path := "/echo".toList
  headers := Http.Headers.empty.append .contentLength value
  body := [.chunk (utf8 "hel"), .chunk (utf8 "lo")]

/-- Three, between blanks. -/
def paddedThree : Http.Value := ⟨utf8 " 3\t", by decide +kernel⟩

/-- Three. -/
def plainThree : Http.Value := ⟨utf8 "3", by decide +kernel⟩

theorem wrong_length_of_padded :
    (declaring paddedThree).body.pending = 0 ∧ (declaring paddedThree).body.isClean = true ∧
      (declaring paddedThree).body.content.length ≤ Config.standard.limits.maxBodyBytes ∧
      Body.declaredLength (declaring paddedThree).headers = some 3 ∧
      IsPadded (declaring paddedThree).headers ∧
      (answer .standard someId (declaring paddedThree)).value.status = .badRequest ∧
      (answer .standard someId (declaring paddedThree)).value.body
        = utf8 "request body length 5 does not match content-length 3" := by
  have hn : Body.declaredLength (declaring paddedThree).headers = some 3 := by decide +kernel
  have hpad : IsPadded (declaring paddedThree).headers :=
    ⟨paddedThree, [' ', '3', '\t'], by decide +kernel, by decide +kernel, by decide +kernel⟩
  have h := (echo_of_wrong_length .standard someId (declaring paddedThree) rfl rfl (by decide) rfl
    rfl (by decide +kernel) hn (by decide) (by decide +kernel)).1 (Or.inl hpad)
  refine ⟨rfl, rfl, by decide +kernel, hn, hpad, h.1, h.2.trans ?_⟩
  decide +kernel

/-- Without the blanks it is the body limit that stops the same body, far below the limit. -/
theorem wrong_length_called_too_large :
    1 ≤ Config.standard.limits.requestTimeout ∧ (declaring plainThree).body.pending = 0 ∧
      (declaring plainThree).body.isClean = true ∧
      (declaring plainThree).body.content.length = 5 ∧
      5 ≤ Config.standard.limits.maxBodyBytes ∧
      Body.declaredLength (declaring plainThree).headers = some 3 ∧
      (answer .standard someId (declaring plainThree)).value.status = .payloadTooLarge ∧
      (answer .standard someId (declaring plainThree)).value.body
        = utf8 "request body exceeds the size limit of 1048576 bytes" := by
  decide +kernel

end Server

end Session
