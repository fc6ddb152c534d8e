import Mathlib.Data.List.Forall2
import Session.Proofs.Server.Echo
import Session.Proofs.Server.Logout

set_option autoImplicit false

/-! # The books of a server

What the counters and the log say about a run, in terms of the requests and their responses alone
(`Books`). A body that is sent back, a reading that fails and an answer that signs out each have
their counter and their events; every other exchange is silent, whichever layer has answered it.
Books add up (`Books.append`), so those of a run come from those of its answers (`books_answer`).
-/

namespace Session

/-! ## Counters -/

namespace Counters

def failures (c : Counters) : Nat := c.tooLarge + c.streamErrors + c.lengthMismatches

theorem failures_add (a b : Counters) : (a + b).failures = a.failures + b.failures := by
  show a.tooLarge + b.tooLarge + (a.streamErrors + b.streamErrors)
      + (a.lengthMismatches + b.lengthMismatches) = _
  simp only [failures]
  omega

theorem eq_zero_of_failures {c : Counters} (hr : c.readsOk = 0) (hb : c.bodyBytes = 0)
    (hf : c.failures = 0) (hc : c.cookiesCleared = 0) : c = zero := by
  cases c
  simp only [failures] at hr hb hf hc
  simp only [zero, mk.injEq]
  omega

def bytesName : String := "session_body_bytes_total"

/-- Beside its own line the counter of bytes is not told about. -/
theorem bytesName_not_prefix_of_mem_line {name l : String} {n : Nat} (hl : l ∈ line name n)
    (hlen : bytesName.toList.length ≤ name.toList.length)
    (hname : ¬ bytesName.toList <+: name.toList) : ¬ bytesName.toList <+: l.toList := by
  rw [line] at hl
  split at hl
  · cases hl
  · rw [List.mem_singleton.1 hl, String.toList_append, String.toList_append, List.append_assoc]
    exact fun h => hname (List.prefix_of_prefix_length_le h (List.prefix_append _ _) hlen)

/-- The counter of bytes is told about unless it is at zero. -/
theorem exists_bytesLine_iff {c : Counters} :
    (∃ l ∈ c.lines, bytesName.toList <+: l.toList) ↔ c.bodyBytes ≠ 0 := by
  have hreads : ∀ o l, l ∈ c.readsLine o → ¬ bytesName.toList <+: l.toList := by
    intro o l hl
    rw [readsLine] at hl
    refine bytesName_not_prefix_of_mem_line hl ?_ ?_
    · cases o <;> decide
    · cases o <;> decide
  constructor
  · rintro ⟨l, hl, hprefix⟩ hzero
    rw [lines, hzero] at hl
    simp only [List.mem_append] at hl
    rcases hl with ((((hl | hl) | hl) | hl) | hl) | hl
    · cases hl
    · exact hreads _ l hl hprefix
    · exact hreads _ l hl hprefix
    · exact hreads _ l hl hprefix
    · exact hreads _ l hl hprefix
    · exact bytesName_not_prefix_of_mem_line hl (by decide) (by decide) hprefix
  · intro hpos
    refine ⟨bytesName ++ " " ++ Text.decimal c.bodyBytes, ?_, ?_⟩
    · rw [lines, line, if_neg hpos]
      simp [bytesName]
    · rw [String.toList_append, String.toList_append, List.append_assoc]
      exact List.prefix_append _ _

end Counters

namespace Server

/-! ## Exchanges -/

structure Exchange where
  request : Request
  response : Http.Response

namespace Exchange

variable {x : Exchange} {path : String}

def IsEchoed (x : Exchange) : Prop := x.request.IsEcho ∧ x.response.status = .ok

/-- The body was not read: either the response says so, or it says that the body is too large, but
not in the words of the body limit. -/
def IsFailed (x : Exchange) : Prop :=
  x.request.IsEcho ∧ (x.response.status = .badRequest ∨
    x.response.status = .payloadTooLarge ∧ x.response.body ≠ refusal.body)

def IsSignedOut (x : Exchange) : Prop := x.request.IsLogout ∧ x.response.status = .noContent

instance : Decidable x.IsEchoed := inferInstanceAs (Decidable (_ ∧ _))
instance : Decidable x.IsFailed := inferInstanceAs (Decidable (_ ∧ _))
instance : Decidable x.IsSignedOut := inferInstanceAs (Decidable (_ ∧ _))

/-- Nothing of this has happened. -/
def IsSilent (x : Exchange) : Prop := ¬ x.IsEchoed ∧ ¬ x.IsFailed ∧ ¬ x.IsSignedOut

/-- What an exchange leaves in the log, where the user cookies were set under the path. -/
inductive Logs (path : String) (x : Exchange) : List Log.Event → Prop
  | echoed (hx : x.IsEchoed) : Logs path x [.bodyEchoed x.response.body.length]
  | failed {text : String} (hx : x.IsFailed) (ht : utf8 text = x.response.body) :
      Logs path x [.bodyReadFailed text, .bodyRejected text]
  | signedOut (hx : x.IsSignedOut) : Logs path x [.cookiesExpired path .noContent]
  | silent (hx : x.IsSilent) : Logs path x []

theorem not_isSignedOut_of_isEcho (h : x.request.IsEcho) : ¬ x.IsSignedOut := by
  rintro ⟨hl, -⟩
  exact absurd (h.2.symm.trans hl) (by decide)

theorem IsEchoed.not_isFailed (h : x.IsEchoed) : ¬ x.IsFailed := by
  rintro ⟨-, hs | ⟨hs, -⟩⟩
  · exact absurd (h.2.symm.trans hs) (by decide)
  · exact absurd (h.2.symm.trans hs) (by decide)

theorem IsFailed.not_isEchoed (h : x.IsFailed) : ¬ x.IsEchoed := fun he => he.not_isFailed h

theorem IsSignedOut.not_isEchoed (h : x.IsSignedOut) : ¬ x.IsEchoed :=
  fun he => not_isSignedOut_of_isEcho he.1 h

theorem IsSignedOut.not_isFailed (h : x.IsSignedOut) : ¬ x.IsFailed :=
  fun hf => not_isSignedOut_of_isEcho hf.1 h

theorem isSilent_of_elsewhere (he : ¬ x.request.IsEcho) (hl : ¬ x.request.IsLogout) :
    x.IsSilent :=
  ⟨fun h => he h.1, fun h => he h.1, fun h => hl h.1⟩

/-- The body limit refuses a body, in its own words. -/
theorem isSilent_of_refusal (hs : x.response.status = .payloadTooLarge)
    (hb : x.request.IsEcho → x.response.body = refusal.body) : x.IsSilent := by
  refine ⟨fun h => ?_, ?_, fun h => ?_⟩
  · exact absurd (hs.symm.trans h.2) (by decide)
  · rintro ⟨he, h | ⟨-, hne⟩⟩
    · exact absurd (hs.symm.trans h) (by decide)
    · exact hne (hb he)
  · exact absurd (hs.symm.trans h.2) (by decide)

/-- The time is up, or nothing is there. -/
theorem isSilent_of_status
    (hs : x.response.status ∈ [.requestTimeout, .notFound, .methodNotAllowed]) :
    x.IsSilent := by
  have hne : ∀ status, x.response.status = status →
      status ∈ [.requestTimeout, .notFound, .methodNotAllowed] := fun _ h => h ▸ hs
  refine ⟨fun h => ?_, ?_, fun h => ?_⟩
  · exact absurd (hne _ h.2) (by decide)
  · rintro ⟨-, h | ⟨h, -⟩⟩
    · exact absurd (hne _ h) (by decide)
    · exact absurd (hne _ h) (by decide)
  · exact absurd (hne _ h.2) (by decide)

end Exchange

/-! ## Books -/

/-- The journal is what the exchanges come to: every counter is a number of exchanges, or of the
bytes that were sent in them, and the log tells of one exchange after the other. -/
structure Books (path : String) (xs : List Exchange) (j : Journal) : Prop where
  readsOk : j.counters.readsOk = xs.countP (·.IsEchoed)
  /-- The bytes are counted as they came, not as they are sent back. -/
  bodyBytes : j.counters.bodyBytes
    = ((xs.filter (·.IsEchoed)).map fun x => x.request.body.content.length).sum
  failures : j.counters.failures = xs.countP (·.IsFailed)
  cookiesCleared : j.counters.cookiesCleared = xs.countP (·.IsSignedOut)
  events : ∃ parts, List.Forall₂ (Exchange.Logs path) xs parts ∧ j.events = parts.flatten

variable {path : String} {x : Exchange} {xs ys : List Exchange} {j k : Journal}

theorem Books.nil : Books path [] .empty where
  readsOk := rfl
  bodyBytes := rfl
  failures := rfl
  cookiesCleared := rfl
  events := ⟨[], List.Forall₂.nil, rfl⟩

/-- **Books add up.** -/
theorem Books.append (hx : Books path xs j) (hy : Books path ys k) :
    Books path (xs ++ ys) (j ++ k) where
  readsOk := by
    rw [List.countP_append, ← hx.readsOk, ← hy.readsOk]
    rfl
  bodyBytes := by
    rw [List.filter_append, List.map_append, List.sum_append, ← hx.bodyBytes, ← hy.bodyBytes]
    rfl
  failures := by
    rw [List.countP_append, ← hx.failures, ← hy.failures, Journal.counters_append,
      Counters.failures_add]
  cookiesCleared := by
    rw [List.countP_append, ← hx.cookiesCleared, ← hy.cookiesCleared]
    rfl
  events := by
    obtain ⟨ps, hps, hj⟩ := hx.events
    obtain ⟨qs, hqs, hk⟩ := hy.events
    exact ⟨ps ++ qs, List.rel_append hps hqs, by
      rw [Journal.events_append, hj, hk, List.flatten_append]⟩

/-! ## One exchange -/

theorem books_of_silent (hx : x.IsSilent) : Books path [x] .empty where
  readsOk := by simp [hx.1, Journal.empty, Counters.zero]
  bodyBytes := by simp [hx.1, Journal.empty, Counters.zero]
  failures := by simp [hx.2.1, Journal.empty, Counters.zero, Counters.failures]
  cookiesCleared := by simp [hx.2.2, Journal.empty, Counters.zero]
  events := ⟨[[]], .cons (.silent hx) .nil, rfl⟩

theorem books_of_echoed (hx : x.IsEchoed) : Books path [x]
    ⟨[.bodyEchoed x.response.body.length], .bodyRead .ok x.request.body.content.length⟩ where
  readsOk := by simp [hx, Counters.bodyRead]
  bodyBytes := by simp [hx, Counters.bodyRead]
  failures := by simp [hx.not_isFailed, Counters.bodyRead, Counters.failures]
  cookiesCleared := by
    simp [Exchange.not_isSignedOut_of_isEcho hx.1, Counters.bodyRead]
  events := ⟨[_], .cons (.echoed hx) .nil, rfl⟩

theorem books_of_failed (hx : x.IsFailed) {e : Body.Error}
    (he : utf8 e.message = x.response.body) : Books path [x]
    ⟨[.bodyReadFailed e.message, .bodyRejected e.message], .bodyRead e.outcome 0⟩ where
  readsOk := by
    cases e <;> simp [hx.not_isEchoed, Counters.bodyRead, Body.Error.outcome]
  bodyBytes := by
    cases e <;> simp [hx.not_isEchoed, Counters.bodyRead, Body.Error.outcome]
  failures := by
    cases e <;> simp [hx, Counters.bodyRead, Body.Error.outcome, Counters.failures]
  cookiesCleared := by
    have hne : ¬ x.IsSignedOut := Exchange.not_isSignedOut_of_isEcho hx.1
    cases e <;> simp [hne, Counters.bodyRead, Body.Error.outcome]
  events := ⟨[_], .cons (.failed hx he) .nil, rfl⟩

theorem books_of_signedOut (hx : x.IsSignedOut) : Books path [x]
    ⟨[.cookiesExpired path .noContent], .cleared⟩ where
  readsOk := by simp [hx.not_isEchoed, Counters.cleared]
  bodyBytes := by simp [hx.not_isEchoed, Counters.cleared]
  failures := by simp [hx.not_isFailed, Counters.cleared, Counters.failures]
  cookiesCleared := by simp [hx, Counters.cleared]
  events := ⟨[_], .cons (.signedOut hx) .nil, rfl⟩

/-! ## One answer -/

variable {config : Config} {fresh : Http.Value} {r : Request} {limit : Body.Limit}
  {headers : Http.Headers} {s : Body.Stream}

theorem journal_echoBack_of_ok {bs : Bytes}
    (h : (Body.readRequest limit headers s).result = .ok bs) :
    (echoBack limit headers s).value.journal
      = ⟨[.bodyEchoed (utf8 (textOf bs)).length], .bodyRead .ok bs.length⟩ := by
  rw [echoBack, Traced.journal_bind, Body.readRequestText, Body.Reading.journal]
  simp only [h, Except.map]
  rfl

theorem journal_echoBack_of_error {e : Body.Error}
    (h : (Body.readRequest limit headers s).result = .error e) :
    (echoBack limit headers s).value.journal
      = ⟨[.bodyReadFailed e.message, .bodyRejected e.message], .bodyRead e.outcome 0⟩ := by
  rw [echoBack, Traced.journal_bind, Body.readRequestText, Body.Reading.journal]
  simp only [h, Except.map]
  rw [Journal.append_def, Journal.append_def]
  show Journal.mk _ (Counters.zero + .bodyRead e.outcome 0 + Counters.zero) = _
  rw [Counters.zero_add, Counters.add_zero]
  rfl

/-- The reader and the body limit do not say the same about a body that is too large. -/
theorem message_tooLarge_ne (limit : Option Nat) :
    (Body.Error.tooLarge limit).message ≠ "length limit exceeded" := by
  intro h
  -- the first letter tells them apart, with and without a number in the message
  have hhead : (Body.Error.tooLarge limit).message.toList.head? = some 'r' := by
    cases limit with
    | none =>
        show "request body exceeds the size limit".toList.head? = some 'r'
        decide +kernel
    | some n =>
        have hfirst : "request body exceeds the size limit of ".toList.head? = some 'r' := by
          decide +kernel
        show ("request body exceeds the size limit of " ++ Text.decimal n ++ " bytes").toList.head?
          = some 'r'
        rw [String.toList_append, String.toList_append, List.append_assoc, List.head?_append,
          hfirst]
        rfl
  rw [h] at hhead
  exact absurd hhead (by decide +kernel)

/-- An answer that fails is one of a failed reading. -/
theorem isFailed_of_error {x : Exchange} {e : Body.Error} (hx : x.request.IsEcho)
    (hs : x.response.status = e.status) (hb : x.response.body = utf8 e.message) : x.IsFailed := by
  refine ⟨hx, ?_⟩
  cases e with
  | stream cause => exact Or.inl hs
  | lengthMismatch expected received => exact Or.inl hs
  | tooLarge limit =>
      refine Or.inr ⟨hs, fun h => message_tooLarge_ne limit (utf8_injective ?_)⟩
      rw [← hb, h]
      rfl

theorem books_echo (he : r.IsEcho) (hl : layered config r = (echoBack config.bodyLimit r.headers
    (admitted config.limits.maxBodyBytes r)).value) :
    Books path [⟨r, (answer config fresh r).value⟩] (answer config fresh r).journal := by
  have hbody : (answer config fresh r).value.body = (layered config r).value.body :=
    body_answer_of_isEcho he
  rw [answer_journal]
  cases hres : (Body.readRequest config.bodyLimit r.headers
      (admitted config.limits.maxBodyBytes r)).result with
  | ok bs =>
      have hvalue : (layered config r).value = .text .ok (utf8 (textOf bs)) := by
        rw [hl, echoBack_value, Body.readRequestText, hres]
        rfl
      have hcontent : bs = r.body.content := (eq_content_of_admitted hres).1
      have hx : Exchange.IsEchoed ⟨r, (answer config fresh r).value⟩ := by
        refine ⟨he, ?_⟩
        rw [status_answer, hvalue]
        rfl
      have hbooks : Books path _ _ := books_of_echoed hx
      rw [hbody, hvalue, ← hcontent] at hbooks
      rw [hl, journal_echoBack_of_ok hres]
      exact hbooks
  | error e =>
      have hvalue : (layered config r).value = e.response := by
        rw [hl, echoBack_value, Body.readRequestText, hres]
        rfl
      have hmessage : (answer config fresh r).value.body = utf8 e.message := by
        rw [hbody, hvalue]
        rfl
      have hstatus : (answer config fresh r).value.status = e.status := by
        rw [status_answer, hvalue]
        rfl
      rw [hl, journal_echoBack_of_error hres]
      exact books_of_failed (isFailed_of_error he hstatus hmessage) hmessage.symm

theorem books_logout (h : config.isValid = true) (hp : r.IsLogout)
    (hl : layered config r = signOut config.cookies) :
    Books config.cookies.path [⟨r, (answer config fresh r).value⟩]
      (answer config fresh r).journal := by
  have hjournal : (signOut config.cookies).journal
      = ⟨[.cookiesExpired config.cookies.path .noContent], .cleared⟩ := by
    rw [signOut_eq, warnings_userCookies h]
    rfl
  rw [answer_journal, hl, hjournal]
  refine books_of_signedOut ⟨hp, ?_⟩
  rw [status_answer, hl, signOut_eq]
  rfl

/-- **Every answer is booked once**: by its endpoint, or not at all. -/
theorem books_answer (h : config.isValid = true) (fresh : Http.Value) (r : Request) :
    Books config.cookies.path [⟨r, (answer config fresh r).value⟩]
      (answer config fresh r).journal := by
  rcases layered_cases config r with hl | hl | hl
  · -- the body limit refuses
    have hstatus : (answer config fresh r).value.status = .payloadTooLarge := by
      rw [status_answer, hl]
      rfl
    have hbody : r.IsEcho → (answer config fresh r).value.body = refusal.body := by
      intro he
      rw [body_answer_of_isEcho he, hl]
      rfl
    rw [answer_journal, hl]
    exact books_of_silent (Exchange.isSilent_of_refusal hstatus hbody)
  · -- the time is up
    have hstatus : (answer config fresh r).value.status = .requestTimeout := by
      rw [status_answer, hl]
      rfl
    rw [answer_journal, hl]
    refine books_of_silent (Exchange.isSilent_of_status ?_)
    rw [hstatus]
    exact List.mem_cons_self
  · cases he : Endpoint.ofRequest r with
    | echo =>
        rw [he] at hl
        exact books_echo (ofRequest_eq_echo_iff.1 he) hl
    | logout =>
        rw [he] at hl
        exact books_logout h (ofRequest_eq_logout_iff.1 he) hl
    | health | wrongMethod allowed | missing =>
        have hecho : ¬ r.IsEcho := fun hx => by cases he.symm.trans (ofRequest_eq_echo_iff.2 hx)
        have hlogout : ¬ r.IsLogout := fun hx => by
          cases he.symm.trans (ofRequest_eq_logout_iff.2 hx)
        rw [answer_journal, hl, he]
        exact books_of_silent (Exchange.isSilent_of_elsewhere hecho hlogout)

/-! ## A run -/

/-- The requests of a run, each with the response to it. -/
def exchanges (config : Config) (calls : List (Http.Value × Request)) : List Exchange :=
  calls.map fun (fresh, r) => ⟨r, (answer config fresh r).value⟩

theorem answerAll_cons (config : Config) (fresh : Http.Value) (r : Request)
    (calls : List (Http.Value × Request)) :
    answerAll config ((fresh, r) :: calls)
      = ⟨(answer config fresh r).value :: (answerAll config calls).value,
        (answer config fresh r).journal ++ (answerAll config calls).journal⟩ := by
  rw [answerAll, List.mapM_cons]
  show Traced.mk _ (_ ++ (_ ++ Journal.empty)) = _
  rw [Journal.append_empty]
  rfl

theorem value_answerAll (config : Config) (calls : List (Http.Value × Request)) :
    (answerAll config calls).value = (exchanges config calls).map Exchange.response := by
  induction calls with
  | nil => rfl
  | cons call calls ih =>
      rw [answerAll_cons, exchanges, List.map_cons, List.map_cons, ← exchanges, ← ih]

theorem books_answerAll (h : config.isValid = true) (calls : List (Http.Value × Request)) :
    Books config.cookies.path (exchanges config calls) (answerAll config calls).journal := by
  induction calls with
  | nil => exact Books.nil
  | cons call calls ih =>
      rw [answerAll_cons]
      exact (books_answer h call.1 call.2).append ih

/-- Silent exchanges leave nothing behind. -/
theorem Books.eq_empty_of_silent (hb : Books path [x] j) (hx : x.IsSilent) : j = .empty := by
  obtain ⟨he, hf, hs⟩ := hx
  have hcounters : j.counters = Counters.zero :=
    Counters.eq_zero_of_failures (by simpa [he] using hb.readsOk)
      (by simpa [he] using hb.bodyBytes) (by simpa [hf] using hb.failures)
      (by simpa [hs] using hb.cookiesCleared)
  have hevents : j.events = [] := by
    obtain ⟨parts, hparts, hj⟩ := hb.events
    cases hparts with
    | cons hx hrest =>
        cases hrest
        cases hx with
        | echoed hx => exact absurd hx he
        | failed hx ht => exact absurd hx hf
        | signedOut hx => exact absurd hx hs
        | silent => simpa using hj
  cases j
  rw [Journal.empty, Journal.mk.injEq]
  exact ⟨hevents, hcounters⟩

end Server

end Session
