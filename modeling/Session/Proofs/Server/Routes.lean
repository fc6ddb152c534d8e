import Session.Proofs.Body.Waiting
import Session.Proofs.Config.Reporting
import Session.Proofs.Server.Echo
import Session.Proofs.Server.Logout

set_option autoImplicit false

/-! # Which answer carries what

The status of an answer and its fields tell how far the request has got: the id is on every
answer, a directive about cookies only on one that signs out, and 408 only on a body whose reading
was still undecided when the time was up.

Only `/echo` lets the layers wait, and only if it reads at all (`readyAfter_eq_zero`). It then
waits until its reading is decided (`readyAfter_of_isEcho`): the body limit in front of the reader
never cuts the body before the reader itself would stop.
-/

namespace Session.Server

open Cookie (userCookies)

variable {config : Config} {fresh : Http.Value} {r : Request} {e : Endpoint} {s : Body.Stream}
  {n : Http.Name}

/-! ## Statuses -/

/-- The statuses that an endpoint answers with. -/
def Endpoint.statuses : Endpoint → List Http.Status
  | .health => [.ok]
  | .echo => [.ok, .badRequest, .payloadTooLarge]
  | .logout => [.noContent]
  | .wrongMethod _ => [.methodNotAllowed]
  | .missing => [.notFound]

/-- No endpoint gives up on a request. -/
theorem requestTimeout_notMem_statuses (e : Endpoint) : .requestTimeout ∉ e.statuses := by
  cases e <;> (simp only [Endpoint.statuses]; decide)

theorem status_echoResponse_mem (result : Except Body.Error String) :
    (echoResponse result).status ∈ Endpoint.echo.statuses := by
  cases result with
  | ok text => exact List.mem_cons_self
  | error e =>
      rcases status_echoResponse_of_error e with h | h
      · rw [h]
        decide
      · rw [h]
        decide

theorem status_endpoint_mem (e : Endpoint) (config : Config) (r : Request) (s : Body.Stream) :
    (e.answer config r s).value.value.status ∈ e.statuses := by
  cases e with
  | health => exact List.mem_singleton_self _
  | echo =>
      show (echoBack _ _ _).value.value.status ∈ _
      rw [echoBack_value]
      exact status_echoResponse_mem _
  | logout =>
      show (signOut _).value.status ∈ _
      rw [signOut_eq]
      exact List.mem_singleton_self _
  | wrongMethod allowed => exact List.mem_singleton_self _
  | missing => exact List.mem_singleton_self _

/-- The status of an answer is that of a layer or one of its endpoint. -/
theorem status_layered_mem (config : Config) (r : Request) : (layered config r).value.status
    ∈ .payloadTooLarge :: .requestTimeout :: (Endpoint.ofRequest r).statuses := by
  rcases layered_cases config r with h | h | h
  · rw [h]
    exact List.mem_cons_self
  · rw [h]
    exact List.mem_cons_of_mem _ List.mem_cons_self
  · rw [h]
    exact List.mem_cons_of_mem _ (List.mem_cons_of_mem _ (status_endpoint_mem _ _ _ _))

/-! ## Fields -/

/-- Beside the type of its body, an endpoint writes directives about cookies at most, and only to
sign out. -/
theorem getAll_endpoint (hn : .contentType ≠ n) (hc : e = .logout → .setCookie ≠ n) :
    (e.answer config r s).value.value.headers.getAll n = [] := by
  have htext : ∀ v, (Http.Headers.empty.append .contentType v).getAll n = [] := fun v =>
    Http.Headers.getAll_append_of_ne _ _ hn
  cases e with
  | health => exact htext _
  | echo =>
      show (echoBack _ _ _).value.value.headers.getAll n = _
      rw [echoBack_value]
      cases (Body.readRequestText config.bodyLimit r.headers s).value with
      | ok text => exact htext _
      | error e => exact htext _
  | logout =>
      show (signOut _).value.headers.getAll n = _
      rw [headers_signOut, Cookie.Pending.getAll_apply_of_ne (p := ⟨userCookies⟩)
        (Cookie.nodup_expiries_userCookies _) _ (hc rfl).symm, Http.Headers.getAll_empty]
  | wrongMethod allowed => rfl
  | missing => rfl

theorem getAll_layered (hn : .contentType ≠ n) (hc : r.IsLogout → .setCookie ≠ n) :
    (layered config r).value.headers.getAll n = [] := by
  rcases layered_cases config r with h | h | h
  · rw [h]
    exact Http.Headers.getAll_append_of_ne _ _ hn
  · rw [h]
    rfl
  · rw [h]
    exact getAll_endpoint hn fun he => hc (ofRequest_eq_logout_iff.1 he)

/-- **Every answer carries one id.** -/
theorem getAll_requestId_answer (config : Config) (fresh : Http.Value) (r : Request) :
    (answer config fresh r).value.headers.getAll .requestId
      = [(r.headers.get? .requestId).getD fresh] := by
  have hnone : (layered config r).value.headers.getAll .requestId = [] :=
    getAll_layered (by decide) fun _ => by decide
  have habsent : (layered config r).value.headers.contains .requestId = false := by
    rw [Http.Headers.contains, Http.Headers.get?, hnone]
    rfl
  rw [answer_value, getAll_complete (by decide) (by decide), identify]
  show (Http.Headers.appendIfAbsent _ _ _).getAll _ = _
  rw [Http.Headers.appendIfAbsent, if_neg (by simp [habsent]), Http.Headers.getAll_append_self,
    hnone, List.nil_append]

/-- **Only who is signed out is told something about cookies.** -/
theorem getAll_setCookie_ne_nil_iff (h : config.isValid = true) :
    (answer config fresh r).value.headers.getAll .setCookie ≠ []
      ↔ r.IsLogout ∧ (answer config fresh r).value.status = .noContent := by
  constructor
  · intro hne
    have hp : r.IsLogout := by
      by_contra hp
      refine hne ?_
      rw [setCookie_answer]
      exact getAll_layered (by decide) fun hl => absurd hl hp
    refine ⟨hp, ?_⟩
    rw [status_answer]
    rw [setCookie_answer] at hne
    -- what the layers answer has no cookies
    rcases layered_cases config r with hl | hl | hl
    · rw [hl] at hne
      exact absurd rfl hne
    · rw [hl] at hne
      exact absurd rfl hne
    · rw [hl, ofRequest_logout hp]
      exact List.mem_singleton.1 (status_endpoint_mem .logout _ _ _)
  · rintro ⟨hp, hs⟩ hnil
    have htwo := getAll_setCookie_logout h hp hs
    rw [hnil] at htwo
    cases htwo

/-! ## Time -/

/-- The length that the body is declared to have is more than is taken. -/
def IsRefused (config : Config) (r : Request) : Prop :=
  ∃ n, Body.declaredLength r.headers = some n ∧ config.limits.maxBodyBytes < n

theorem not_isRefused_of_undeclared (h : Body.declaredLength r.headers = none) :
    ¬ IsRefused config r := by
  rintro ⟨n, hn, -⟩
  rw [h] at hn
  cases hn

/-- After how many milliseconds there is an answer, be it of an endpoint or of the body limit. -/
def readyAfter (config : Config) (r : Request) : Nat :=
  (limitBody config.limits.maxBodyBytes r ((Endpoint.ofRequest r).answer config r)).after

/-- Who is not read has not to wait. -/
theorem readyAfter_eq_zero (h : r.IsEcho → IsRefused config r) : readyAfter config r = 0 := by
  rw [readyAfter]
  rcases limitBody_cases config.limits.maxBodyBytes r
    ((Endpoint.ofRequest r).answer config r) with hl | hl
  · rw [hl]
  · rw [hl]
    cases he : Endpoint.ofRequest r with
    | echo =>
        obtain ⟨n, hd, hlt⟩ := h (ofRequest_eq_echo_iff.1 he)
        have hmax : config.bodyLimit.maxBytes = some config.limits.maxBodyBytes := rfl
        show (Body.readRequest _ _ _).waited = 0
        rw [Body.readRequest_of_refused hd hmax hlt]
    | health | logout | wrongMethod allowed | missing => rfl

/-- Whatever the reader takes, the body limit lets through. -/
theorem readyAfter_of_isEcho (he : r.IsEcho) (hr : ¬ IsRefused config r) :
    readyAfter config r
      = ((Body.requestReader config.bodyLimit r.headers).run r.body).waited := by
  have hle : ∀ n, Body.declaredLength r.headers = some n → n ≤ config.limits.maxBodyBytes :=
    fun n hn => Nat.not_lt.1 fun hlt => hr ⟨n, hn, hlt⟩
  have hadm : ∀ n, Body.declaredLength r.headers = some n → config.bodyLimit.Admits n :=
    fun n hn max hmax => Option.some.inj hmax ▸ hle n hn
  have hcut : ∀ n, (Body.requestReader config.bodyLimit r.headers).Within n →
      n ≤ (announcedLength r.headers).elim config.limits.maxBodyBytes
        (min config.limits.maxBodyBytes) := by
    intro n hw
    have hmax : n ≤ config.limits.maxBodyBytes := hw.1 _ rfl
    cases ha : announcedLength r.headers with
    | none => exact hmax
    | some m =>
        -- the reader goes by an announced length as well
        have hm : n ≤ m := hw.2 m (declaredLength_of_announcedLength ha)
        exact Nat.le_min.2 ⟨hmax, hm⟩
  calc readyAfter config r
      = (Body.readRequest config.bodyLimit r.headers
          (admitted config.limits.maxBodyBytes r)).waited := by
        rw [readyAfter, limitBody_of_le fun n hn => hle n (declaredLength_of_announcedLength hn),
          ofRequest_eq_echo_iff.2 he]
        rfl
    _ = ((Body.requestReader config.bodyLimit r.headers).run r.body).waited := by
        rw [Body.readRequest_of_admitted hadm, admitted, Body.Reader.waited_run_limited hcut]

/-- The time is up before there is an answer, or there is one in time. -/
theorem status_eq_requestTimeout_iff (config : Config) (fresh : Http.Value) (r : Request) :
    (answer config fresh r).value.status = .requestTimeout
      ↔ min config.limits.requestTimeout maxTimer * 1000 ≤ readyAfter config r := by
  have hother : (limitBody config.limits.maxBodyBytes r
      ((Endpoint.ofRequest r).answer config r)).value.value.status ≠ .requestTimeout := by
    rcases limitBody_cases config.limits.maxBodyBytes r
      ((Endpoint.ofRequest r).answer config r) with hl | hl
    · rw [hl]
      show refusal.status ≠ _
      decide
    · rw [hl]
      intro h
      have hmem := status_endpoint_mem (Endpoint.ofRequest r) config r
        (admitted config.limits.maxBodyBytes r)
      rw [h] at hmem
      exact requestTimeout_notMem_statuses _ hmem
  rw [status_answer, layered, limitTime, ← readyAfter]
  split
  · next h => exact ⟨fun _ => h, fun _ => rfl⟩
  · next h => exact ⟨fun hs => absurd hs hother, fun hle => absurd hle h⟩

/-! ## The answer to any request -/

/-- What the answer to a request carries. -/
structure Carries (config : Config) (fresh : Http.Value) (r : Request)
    (answered : Traced Http.Response) : Prop where
  /-- There is one id: that of the request if it has one, and the fresh one otherwise. -/
  requestId : answered.value.headers.getAll .requestId = [(r.headers.get? .requestId).getD fresh]
  status : answered.value.status ∈ [.ok, .noContent, .badRequest, .notFound, .methodNotAllowed,
    .requestTimeout, .payloadTooLarge]
  setCookie : answered.value.headers.getAll .setCookie ≠ []
    ↔ r.IsLogout ∧ answered.value.status = .noContent
  /-- Signing out fails only if the body is announced to be too large. -/
  logout : r.IsLogout →
    (∀ n, announcedLength r.headers = some n → n ≤ config.limits.maxBodyBytes) →
    answered.value.status = .noContent
  refusedLogout : r.IsLogout →
    ∀ n, announcedLength r.headers = some n → config.limits.maxBodyBytes < n →
    answered.value.status = .payloadTooLarge ∧ answered.value.headers.getAll .setCookie = [] ∧
      answered.journal.counters.cookiesCleared = 0
  /-- A body that is read is given up if the pauses up to the place where its reading is decided
  take as long as the timeout, or as long as a timer runs. -/
  echo : r.IsEcho → ¬ IsRefused config r →
    (∃ k, (Body.requestReader config.bodyLimit r.headers).DecidedAt r.body k) ∧
    ∀ k, (Body.requestReader config.bodyLimit r.headers).DecidedAt r.body k →
      (answered.value.status = .requestTimeout ↔
        min config.limits.requestTimeout maxTimer * 1000 ≤ Body.Stream.pending (r.body.take k))
  /-- No other request is given up. -/
  requestTimeout : answered.value.status = .requestTimeout → r.IsEcho ∧ ¬ IsRefused config r

theorem timeout_pos_of_isValid (h : config.isValid = true) :
    0 < min config.limits.requestTimeout maxTimer * 1000 := by
  have htimeout : 0 < config.limits.requestTimeout :=
    Config.Check.passes_of_isValid h .requestTimeout
  have htimer : 0 < maxTimer := by decide
  exact Nat.mul_pos (Nat.lt_min.2 ⟨htimeout, htimer⟩) (by decide)

theorem status_answer_mem (config : Config) (fresh : Http.Value) (r : Request) :
    (answer config fresh r).value.status ∈ [Http.Status.ok, .noContent, .badRequest, .notFound,
      .methodNotAllowed, .requestTimeout, .payloadTooLarge] := by
  rw [status_answer]
  have hmem := status_layered_mem config r
  revert hmem
  generalize (layered config r).value.status = status
  cases Endpoint.ofRequest r <;> simp only [Endpoint.statuses] <;>
    (simp only [List.mem_cons, List.not_mem_nil, or_false]; tauto)

/-- **Which answer carries what.** For a valid configuration, and any request. -/
theorem answer_carries (h : config.isValid = true) (fresh : Http.Value) (r : Request) :
    Carries config fresh r (answer config fresh r) where
  requestId := getAll_requestId_answer config fresh r
  status := status_answer_mem config fresh r
  setCookie := getAll_setCookie_ne_nil_iff h
  logout hp hn := by
    have htime : (0 : Nat) < min config.limits.requestTimeout maxTimer * 1000 :=
      timeout_pos_of_isValid h
    rw [status_answer, layered, limitBody_of_le hn, ofRequest_logout hp, limitTime_of_lt htime]
    exact List.mem_singleton.1 (status_endpoint_mem .logout _ _ _)
  refusedLogout hp n hn hlt := by
    have hl : layered config r = (return refusal) := by
      rw [layered, limitBody_of_lt hn hlt, limitTime_of_lt (timeout_pos_of_isValid h)]
    rw [status_answer, setCookie_answer, answer_journal, hl]
    exact ⟨rfl, rfl, rfl⟩
  echo he hr := by
    refine ⟨Body.Reader.exists_decidedAt _ _, fun k hk => ?_⟩
    rw [status_eq_requestTimeout_iff, readyAfter_of_isEcho he hr, Body.Reader.waited_run hk]
  requestTimeout hs := by
    have hle := (status_eq_requestTimeout_iff config fresh r).1 hs
    have hpos := timeout_pos_of_isValid h
    -- who is not read is answered at once
    by_contra hn
    have hzero : readyAfter config r = 0 :=
      readyAfter_eq_zero fun he => of_not_not fun hr => hn ⟨he, hr⟩
    omega

/-- Three bytes with a pause of a second between them, under an id of their own. -/
def halting : Request where
  method := "POST"
  path := "/echo".toList
  headers := Http.Headers.empty.append .requestId visit
  body := [.chunk (utf8 "ab"), .pause 1000, .chunk (utf8 "c")]

/-- A second is too short for them. The answer says so under the same id, and about cookies it
says nothing. -/
theorem halting_times_out : hasty.isValid = true ∧
    (answer hasty someId halting).value.status = .requestTimeout ∧
    (answer hasty someId halting).value.headers.getAll .requestId = [visit] ∧
    (answer hasty someId halting).value.headers.getAll .setCookie = [] := by
  have hvalid : hasty.isValid = true := by decide +kernel
  have hcarries := answer_carries hvalid someId halting
  have hwithin : (Body.requestReader hasty.bodyLimit halting.headers).Within 3 :=
    ⟨fun n hn => Option.some.inj hn ▸ by decide, fun n hn => by cases hn⟩
  have hecho : halting.IsEcho := ⟨rfl, rfl⟩
  have hstatus := ((hcarries.echo hecho (not_isRefused_of_undeclared rfl)).2 3
    (Body.Reader.decidedAt_length rfl hwithin)).2 (by decide)
  refine ⟨hvalid, hstatus, hcarries.requestId, ?_⟩
  by_contra hne
  exact absurd (hcarries.setCookie.1 hne).1 (by decide)

/-- The timeout alone does not tell which bodies are given up: this one is read to its end before
the time is up, but not before the timer has run for its longest time. -/
theorem belated_given_up : patient.isValid = true ∧ belated.IsEcho ∧ ¬ IsRefused patient belated ∧
    (Body.requestReader patient.bodyLimit belated.headers).DecidedAt belated.body 3 ∧
    Body.Stream.pending (belated.body.take 3) < patient.limits.requestTimeout * 1000 ∧
    (answer patient someId belated).value.status = .requestTimeout := by
  have hwithin : (Body.requestReader patient.bodyLimit belated.headers).Within 2 :=
    ⟨fun n hn => Option.some.inj hn ▸ by decide, fun n hn => by cases hn⟩
  exact ⟨by decide +kernel, ⟨rfl, rfl⟩, not_isRefused_of_undeclared rfl,
    Body.Reader.decidedAt_length rfl hwithin, by decide +kernel, by decide +kernel⟩

end Session.Server
