import Mathlib.Tactic
import Session.Server.Router

set_option autoImplicit false

/-! # What the layers leave alone

The answer to a request is that of its endpoint, seen through the layers and completed. Naming
the request and completing the response change neither the status nor any field but their own,
and a body only for the methods `HEAD` and `CONNECT`.
-/

namespace Session

namespace Http.Headers

variable {h : Headers} {n m : Name} {v : Value}

theorem getAll_appendIfAbsent_of_ne (h : Headers) (v : Value) (hne : n ≠ m) :
    (h.appendIfAbsent n v).getAll m = h.getAll m := by
  rw [appendIfAbsent]
  split
  · rfl
  · exact getAll_append_of_ne h v hne

end Http.Headers

namespace Server

variable {config : Config} {fresh : Http.Value} {r : Request} {response : Http.Response}
  {e : Endpoint}

/-! ## Where a request leads -/

def Request.IsEcho (r : Request) : Prop := r.method = "POST" ∧ r.path = "/echo".toList

instance : Decidable r.IsEcho := inferInstanceAs (Decidable (_ ∧ _))

def Request.IsLogout (r : Request) : Prop := r.path = "/logout".toList

instance : Decidable r.IsLogout := inferInstanceAs (Decidable (_ = _))

theorem ofList_eq_iff {s : List Char} {t : String} : String.ofList s = t ↔ s = t.toList := by
  rw [← String.toList_inj, String.toList_ofList]

theorem ofRequest_eq_echo_iff : Endpoint.ofRequest r = .echo ↔ r.IsEcho := by
  rw [Request.IsEcho, ← ofList_eq_iff, Endpoint.ofRequest]
  split
  all_goals simp_all

theorem ofRequest_eq_logout_iff : Endpoint.ofRequest r = .logout ↔ r.IsLogout := by
  rw [Request.IsLogout, ← ofList_eq_iff, Endpoint.ofRequest]
  split
  all_goals simp_all

/-! ## The response goes out -/

theorem status_complete (e : Endpoint) (r : Request) (response : Http.Response) :
    (complete e r response).status = response.status := by
  unfold complete
  split
  · rfl
  · split
    · rfl
    · rfl

/-- The body goes out as it is, unless the method says otherwise. -/
theorem body_complete (hh : r.method ≠ "HEAD") (hc : r.method ≠ "CONNECT") :
    (complete e r response).body = response.body := by
  unfold complete
  rw [decide_eq_false hc, Bool.false_and, if_neg hh]
  split
  · rfl
  · rfl

theorem getAll_complete {n : Http.Name} (ha : Http.Name.allow ≠ n)
    (hl : Http.Name.contentLength ≠ n) :
    (complete e r response).headers.getAll n = response.headers.getAll n := by
  unfold complete
  split
  · rfl
  · split
    · rfl
    · rw [Http.Headers.getAll_appendIfAbsent_of_ne _ _ hl]
      split
      · exact Http.Headers.getAll_appendIfAbsent_of_ne _ _ ha
      · rfl

theorem getAll_identify {n : Http.Name} (hn : Http.Name.requestId ≠ n) :
    (identify fresh r response).headers.getAll n = response.headers.getAll n :=
  Http.Headers.getAll_appendIfAbsent_of_ne _ _ hn

/-! ## Layers -/

theorem limitTime_of_lt {seconds : Nat} {t : Timed (Traced Http.Response)}
    (h : t.after < min seconds maxTimer * 1000) : limitTime seconds t = t.value :=
  if_neg (by omega)

/-- The body as it gets past the body limit. -/
def admitted (max : Nat) (r : Request) : Body.Stream :=
  r.body.limited ((announcedLength r.headers).elim max (min max))

theorem limitBody_of_lt {max n : Nat} (hn : announcedLength r.headers = some n) (hlt : max < n)
    (inner : Body.Stream → Timed (Traced Http.Response)) :
    limitBody max r inner = ⟨return refusal, 0⟩ := by
  simp only [limitBody, hn, if_pos hlt]

theorem limitBody_of_le {max : Nat} (hn : ∀ n, announcedLength r.headers = some n → n ≤ max)
    (inner : Body.Stream → Timed (Traced Http.Response)) :
    limitBody max r inner = inner (admitted max r) := by
  rw [limitBody, admitted]
  cases ha : announcedLength r.headers with
  | none => rfl
  | some n => exact if_neg (Nat.not_lt.2 (hn n ha))

/-- The body limit refuses a request, or lets its body through as far as it goes. -/
theorem limitBody_cases (max : Nat) (r : Request)
    (inner : Body.Stream → Timed (Traced Http.Response)) :
    limitBody max r inner = ⟨return refusal, 0⟩ ∨
      limitBody max r inner = inner (admitted max r) := by
  by_cases hn : ∀ n, announcedLength r.headers = some n → n ≤ max
  · exact Or.inr (limitBody_of_le hn inner)
  · push Not at hn
    obtain ⟨n, hn, hlt⟩ := hn
    exact Or.inl (limitBody_of_lt hn hlt inner)

/-! ## The whole answer -/

/-- What the layers around an endpoint let through. -/
def layered (config : Config) (r : Request) : Traced Http.Response :=
  limitTime config.limits.requestTimeout
    (limitBody config.limits.maxBodyBytes r ((Endpoint.ofRequest r).answer config r))

/-- The layers refuse a request, give up on it, or let the answer of its endpoint through. -/
theorem layered_cases (config : Config) (r : Request) :
    layered config r = (return refusal) ∨ layered config r = (return .empty .requestTimeout) ∨
      layered config r = ((Endpoint.ofRequest r).answer config r
        (admitted config.limits.maxBodyBytes r)).value := by
  rw [layered, limitTime]
  split
  · exact Or.inr (Or.inl rfl)
  · rcases limitBody_cases config.limits.maxBodyBytes r
      ((Endpoint.ofRequest r).answer config r) with h | h
    · rw [h]
      exact Or.inl rfl
    · rw [h]
      exact Or.inr (Or.inr rfl)

theorem answer_value (config : Config) (fresh : Http.Value) (r : Request) :
    (answer config fresh r).value
      = complete (Endpoint.ofRequest r) r (identify fresh r (layered config r).value) := rfl

theorem answer_journal (config : Config) (fresh : Http.Value) (r : Request) :
    (answer config fresh r).journal = (layered config r).journal := by
  show (layered config r).journal ++ Journal.empty = _
  exact Journal.append_empty _

theorem status_answer (config : Config) (fresh : Http.Value) (r : Request) :
    (answer config fresh r).value.status = (layered config r).value.status := by
  rw [answer_value, status_complete]
  rfl

theorem body_answer (hh : r.method ≠ "HEAD") (hc : r.method ≠ "CONNECT") :
    (answer config fresh r).value.body = (layered config r).value.body := by
  rw [answer_value, body_complete hh hc]
  rfl

theorem body_answer_of_isEcho (he : r.IsEcho) :
    (answer config fresh r).value.body = (layered config r).value.body :=
  body_answer (by rw [he.1]; decide) (by rw [he.1]; decide)

/-- The directives about cookies are those of the endpoint. -/
theorem setCookie_answer (config : Config) (fresh : Http.Value) (r : Request) :
    (answer config fresh r).value.headers.getAll .setCookie
      = (layered config r).value.headers.getAll .setCookie := by
  rw [answer_value, getAll_complete (by decide) (by decide), getAll_identify (by decide)]

end Server

end Session
