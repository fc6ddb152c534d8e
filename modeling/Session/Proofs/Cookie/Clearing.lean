import Session.Proofs.Cookie.Expiry
import Session.Proofs.Repeats

set_option autoImplicit false

/-! # A stack of clearing services

A clearer puts its directives in front of the cookies of a response and leaves all other fields
alone (`Heads`). Of two such changes, one after the other, the later one stands first, so a stack
heads a response with the directives of its outermost layer, then with those of the layer inside
of it, and so on, each text once (`stacked`). The service inside is called once, and its failures
pass through.
-/

namespace Session.Cookie

/-! ## Directives in front -/

/-- The directives stand in front of the cookies that there were; of these the ones that are
directives themselves are dropped, and nothing else changes. -/
structure Heads (directives : List Http.Value) (before after : Http.Headers) : Prop where
  setCookie : after.getAll .setCookie
    = directives ++ (before.getAll .setCookie).filter fun v => v ∉ directives
  other : ∀ n, n ≠ .setCookie → after.getAll n = before.getAll n

namespace Heads

variable {ds es : List Http.Value} {h₁ h₂ h₃ : Http.Headers}

theorem nil (h : Http.Headers) : Heads [] h h where
  setCookie := by simp
  other _ _ := rfl

/-- Of two changes the later one stands first, and it drops its own directives from the earlier
one. -/
theorem trans (hd : Heads ds h₁ h₂) (he : Heads es h₂ h₃) :
    Heads (es ++ ds.filter fun v => v ∉ es) h₁ h₃ where
  setCookie := by
    -- a cookie is dropped by one of the changes, or by none
    have hown : ∀ v, (decide (v ∉ es) && decide (v ∉ ds))
        = decide (v ∉ es ++ ds.filter fun v => v ∉ es) := by
      intro v
      by_cases hv : v ∈ es <;> simp [hv]
    calc h₃.getAll .setCookie
        = es ++ (ds ++ (h₁.getAll .setCookie).filter fun v => v ∉ ds).filter fun v => v ∉ es := by
          rw [he.setCookie, hd.setCookie]
      _ = (es ++ ds.filter fun v => v ∉ es)
          ++ (h₁.getAll .setCookie).filter fun v => decide (v ∉ es) && decide (v ∉ ds) := by
          rw [List.filter_append, List.filter_filter, List.append_assoc]
      _ = _ := by
          simp only [hown]
  other n hn := (he.other n hn).trans (hd.other n hn)

theorem count_eq_one (hd : Heads ds h₁ h₂) (hn : ds.Nodup) {v : Http.Value} (hv : v ∈ ds) :
    (h₂.getAll .setCookie).count v = 1 := by
  have hown : ((h₁.getAll .setCookie).filter fun v => v ∉ ds).count v = 0 := by
    rw [List.count_eq_zero, List.mem_filter, not_and]
    intro _
    simpa using hv
  rw [hd.setCookie, List.count_append, hown, List.count_eq_one_of_mem hn hv]

end Heads

theorem Pending.heads_apply {a : Attributes} {p : Pending} (hn : (a.expiries p.names).Nodup)
    (h : Http.Headers) : Heads (a.expiries p.names) h (p.apply a h).value where
  setCookie := getAll_apply hn h
  other _ hne := getAll_apply_of_ne hn h hne

/-! ## The directives of a stack -/

/-- The directives of a stack of layers, the outermost layer's first. A text that has occurred
already is dropped. -/
def stacked (layers : List Attributes) : List Http.Value :=
  (layers.reverse.flatMap fun a => a.expiries userCookies).eraseDups

section Stacked

variable (layers : List Attributes)

theorem stacked_nil : stacked [] = [] := List.eraseDups_nil

/-- An innermost layer adds the directives that no other layer has. -/
theorem stacked_cons (a : Attributes) : stacked (a :: layers)
    = stacked layers ++ (a.expiries userCookies).filter fun v => v ∉ stacked layers := by
  rw [stacked, List.reverse_cons, List.flatMap_append, List.flatMap_singleton,
    eraseDups_append_of_nodup _ (nodup_expiries_userCookies a), ← stacked]

theorem nodup_stacked : (stacked layers).Nodup := nodup_eraseDups _

/-- The directives are the texts of the layers, as far as they may stand in a header. -/
theorem mem_stacked_iff (v : Http.Value) : v ∈ stacked layers
    ↔ ∃ a ∈ layers, ∃ n ∈ userCookies, v.bytes = utf8 (a.directive n) := by
  simp only [stacked, List.mem_eraseDups, List.mem_flatMap, List.mem_reverse,
    Attributes.expiries, List.mem_filterMap, Attributes.expiry?_eq_some_iff]

/-- What a stack makes of the headers of a response. -/
def clearedHeaders (h : Http.Headers) : Http.Headers :=
  layers.foldl (fun h a => ((⟨userCookies⟩ : Pending).apply a h).value) h

/-- **A stack heads a response with its directives.** -/
theorem heads_clearedHeaders (h : Http.Headers) :
    Heads (stacked layers) h (clearedHeaders layers h) := by
  -- the innermost layer comes first, and all others work on what it has left
  induction layers generalizing h with
  | nil => rw [stacked_nil]; exact Heads.nil h
  | cons a layers ih =>
      have hone : Heads (a.expiries userCookies) h ((⟨userCookies⟩ : Pending).apply a h).value :=
        Pending.heads_apply (nodup_expiries_userCookies a) h
      rw [stacked_cons]
      exact hone.trans (ih _)

end Stacked

/-! ## What a stack does -/

/-- What a layer logs and counts when it has cleared a response. -/
def clearingNotes (a : Attributes) (status : Http.Status) : Journal :=
  a.warnings userCookies ++ (.count .cleared ++ .log (.cookiesExpired a.path status))

variable {ρ σ ε : Type}

/-- A service that keeps the requests that it is called with. -/
def keepingCalls (inner : Service ρ σ ε) : Service ρ (σ × List ρ) ε := fun request state => do
  let (result, after) ← inner request state.1
  return (result, after, state.2 ++ [request])

section Stack

variable {inner : Service ρ σ ε} {request : ρ} {state after : σ} {journal : Journal}
  {result : Except ε Http.Response}

theorem clearingAll_cons (a : Attributes) (layers : List Attributes) (inner : Service ρ σ ε) :
    clearingAll (a :: layers) inner = clearingAll layers (clearing a inner) := rfl

theorem clearingAll_of_error (layers : List Attributes) {e : ε}
    (h : inner request state = ⟨(.error e, after), journal⟩) :
    clearingAll layers inner request state = ⟨(.error e, after), journal⟩ := by
  induction layers generalizing inner with
  | nil => exact h
  | cons a layers ih =>
      rw [clearingAll_cons]
      exact ih (clearing_of_error h)

theorem clearingAll_of_ok (layers : List Attributes) {response : Http.Response}
    (h : inner request state = ⟨(.ok response, after), journal⟩) :
    clearingAll layers inner request state =
      ⟨(.ok { response with headers := clearedHeaders layers response.headers }, after),
        layers.foldl (fun j a => j ++ clearingNotes a response.status) journal⟩ := by
  induction layers generalizing inner response journal with
  | nil => exact h
  | cons a layers ih =>
      rw [clearingAll_cons]
      exact ih (clearing_of_ok h)

theorem keepingCalls_eq (h : inner request state = ⟨(result, after), journal⟩) (calls : List ρ) :
    keepingCalls inner request (state, calls)
      = ⟨(result, after, calls ++ [request]), journal⟩ := by
  rw [keepingCalls, h]
  exact congrArg (Traced.mk _) (Journal.append_empty journal)

end Stack

/-- **What a stack of clearers answers.** The service inside is called once, with the request. If
it fails, the stack does just what it did. If it answers, the directives of the layers are put in
front of the cookies of its response, the outermost layer's first and each text once; the
response is the same otherwise. -/
theorem clearingAll_answers (layers : List Attributes) (inner : Service ρ σ ε) (request : ρ)
    (state : σ) :
    let called := inner request state
    let answered := clearingAll layers inner request state
    (∀ calls, (clearingAll layers (keepingCalls inner) request (state, calls)).value
      = (answered.value.1, called.value.2, calls ++ [request])) ∧
    (∀ e, called.value.1 = .error e → answered = called) ∧
    (∀ response, called.value.1 = .ok response → ∃ headers,
      answered.value = (.ok { response with headers }, called.value.2) ∧
      headers.getAll .setCookie = stacked layers
        ++ (response.headers.getAll .setCookie).filter (fun v => v ∉ stacked layers) ∧
      (∀ n, n ≠ .setCookie → headers.getAll n = response.headers.getAll n) ∧
      ∀ v ∈ stacked layers, (headers.getAll .setCookie).count v = 1) ∧
    ∀ v, v ∈ stacked layers
      ↔ ∃ a ∈ layers, ∃ n ∈ userCookies, v.bytes = utf8 (a.directive n) := by
  rcases hi : inner request state with ⟨⟨result, after⟩, journal⟩
  have hkept := keepingCalls_eq hi
  cases result with
  | error e =>
      rw [clearingAll_of_error layers hi]
      refine ⟨fun calls => ?_, fun _ _ => rfl, fun response hr => ?_, mem_stacked_iff layers⟩
      · rw [clearingAll_of_error layers (hkept calls)]
      · cases hr
  | ok response =>
      rw [clearingAll_of_ok layers hi]
      have hheads := heads_clearedHeaders layers response.headers
      refine ⟨fun calls => ?_, fun e he => ?_, fun r hr => ?_, mem_stacked_iff layers⟩
      · rw [clearingAll_of_ok layers (hkept calls)]
      · cases he
      · obtain rfl : response = r := Except.ok.inj hr
        exact ⟨clearedHeaders layers response.headers, rfl, hheads.setCookie, hheads.other,
          fun v hv => hheads.count_eq_one (nodup_stacked layers) hv⟩

/-- Two spellings of one domain give the same directives. -/
example : stacked [⟨"/", some "a.com"⟩, ⟨"/", some ".a.com"⟩]
    = (⟨"/", some "a.com"⟩ : Attributes).expiries userCookies := by
  decide +kernel

end Session.Cookie
