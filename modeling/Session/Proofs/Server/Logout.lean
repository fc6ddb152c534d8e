import Session.Proofs.Config.CookieSettings
import Session.Proofs.Cookie.Expiry
import Session.Proofs.Journal
import Session.Proofs.Server.Answering
import Session.Server.Serving

set_option autoImplicit false

/-! # Signing out

With the cookie settings of a valid configuration, both directives can be written and read back,
so no run of the server skips one, and whoever is signed out gets the two of them.
-/

namespace Session.Server

open Cookie (Directive dropDots userCookies)

/-! ## What the endpoints log -/

variable {config : Config} {fresh : Http.Value} {r : Request} {name : String}

/-- Sending a body back has nothing to do with cookies. -/
theorem directiveIgnored_notMem_echoBack (limit : Body.Limit) (headers : Http.Headers)
    (s : Body.Stream) :
    .directiveIgnored name ∉ (echoBack limit headers s).value.journal.events := by
  have hread : .directiveIgnored name
      ∉ (Body.readRequestText limit headers s).journal.events := by
    show _ ∉ (Body.readRequest limit headers s).journal.events
    rw [Body.Reading.journal]
    split
    · exact List.not_mem_nil
    · simp [Journal.log, Journal.count]
  rw [echoBack, Traced.journal_bind, Journal.events_append, List.mem_append, not_or]
  refine ⟨hread, ?_⟩
  cases (Body.readRequestText limit headers s).value with
  | ok text => simp [Journal.log]
  | error e => simp [Body.Error.reject, Journal.log]

/-- Signing out expires the user cookies on an empty answer. -/
theorem signOut_eq (a : Cookie.Attributes) : signOut a =
    ⟨{ (Http.Response.empty .noContent) with
        headers := ((⟨userCookies⟩ : Cookie.Pending).apply a .empty).value },
      a.warnings userCookies ++ (.count .cleared ++ .log (.cookiesExpired a.path .noContent))⟩ := by
  have hdone : (fun _ _ => return (.ok (.empty .noContent), ()) : Cookie.Service Unit Unit Empty)
      () () = ⟨(.ok (.empty .noContent), ()), .empty⟩ := rfl
  rw [signOut]
  dsimp only
  rw [Cookie.clearing_of_ok hdone]
  show Traced.mk _ (Journal.empty ++ _ ++ Journal.empty) = _
  rw [Journal.empty_append, Journal.append_empty]
  rfl

theorem headers_signOut (a : Cookie.Attributes) :
    (signOut a).value.headers = ((⟨userCookies⟩ : Cookie.Pending).apply a .empty).value := by
  rw [signOut_eq]

/-! ## Valid settings -/

/-- In a valid configuration the directives of the user cookies may stand in a header. -/
theorem isSome_expiry?_userCookies (h : config.isValid = true) :
    ∀ n ∈ userCookies, (config.cookies.expiry? n).isSome = true := fun _ hn =>
  Config.isSome_expiry?_of_isValid h (Cookie.Attributes.isWritable_of_mem_userCookies hn)

theorem warnings_userCookies (h : config.isValid = true) :
    config.cookies.warnings userCookies = .empty :=
  Cookie.Attributes.warnings_of_forall_isSome (isSome_expiry?_userCookies h)

/-- Expiring the user cookies on the headers of a response skips no directive. -/
theorem directiveIgnored_notMem_clearOn (h : config.isValid = true) (headers : Http.Headers) :
    .directiveIgnored name ∉ (Cookie.clearOn config.cookies headers).journal.events := by
  have hone : ∀ n ∈ userCookies, config.cookies.warnings [n] = .empty := by
    intro n hn
    refine Cookie.Attributes.warnings_of_forall_isSome fun m hm => ?_
    rw [List.mem_singleton.1 hm]
    exact isSome_expiry?_userCookies h n hn
  rw [Cookie.journal_clearOn, hone _ List.mem_cons_self,
    hone _ (List.mem_cons_of_mem _ List.mem_cons_self)]
  exact List.not_mem_nil

/-- A service that expires the user cookies skips none beside those that it skipped before. -/
theorem directiveIgnored_of_clearing {ρ σ ε : Type} {inner : Cookie.Service ρ σ ε} {request : ρ}
    {state : σ} (h : config.isValid = true) (he : .directiveIgnored name
      ∈ (Cookie.clearing config.cookies inner request state).journal.events) :
    .directiveIgnored name ∈ (inner request state).journal.events := by
  rcases hi : inner request state with ⟨⟨result, after⟩, journal⟩
  cases result with
  | error e =>
      rw [Cookie.clearing_of_error hi] at he
      exact he
  | ok response =>
      rw [Cookie.clearing_of_ok hi, warnings_userCookies h] at he
      simpa [Journal.empty, Journal.count, Journal.log] using he

theorem directiveIgnored_notMem_answer (h : config.isValid = true) :
    .directiveIgnored name ∉ (answer config fresh r).journal.events := by
  rw [answer_journal]
  rcases layered_cases config r with hl | hl | hl
  · rw [hl]
    exact List.not_mem_nil
  · rw [hl]
    exact List.not_mem_nil
  · rw [hl]
    cases Endpoint.ofRequest r with
    | health => exact List.not_mem_nil
    | echo => exact directiveIgnored_notMem_echoBack _ _ _
    | logout =>
        show _ ∉ (signOut config.cookies).journal.events
        rw [signOut_eq, warnings_userCookies h]
        simp [Journal.empty, Journal.count, Journal.log]
    | wrongMethod allowed => exact List.not_mem_nil
    | missing => exact List.not_mem_nil

/-- So a whole run of the server skips none. -/
theorem directiveIgnored_notMem_serve (h : config.isValid = true) (address : String)
    (reach : Reach) (calls : List (Http.Value × Request)) :
    .directiveIgnored name ∉ (serve config address reach calls).journal.events := by
  have hone : ∀ fresh r,
      .directiveIgnored name ∉ (serveOne config fresh reach r).journal.events := by
    intro fresh r
    cases reach with
    | refused => exact List.not_mem_nil
    | connected =>
        show _ ∉ ((answer config fresh r).journal ++ Journal.empty).events
        rw [Journal.append_empty]
        exact directiveIgnored_notMem_answer h
  have hall : .directiveIgnored name ∉ (calls.mapM fun call =>
      serveOne config call.1 reach call.2).journal.events := by
    rw [Traced.mem_events_mapM]
    rintro ⟨call, -, hcall⟩
    exact hone call.1 call.2 hcall
  rw [serve]
  simp [Journal.log, hall]

theorem ofRequest_logout (hp : r.path = "/logout".toList) : Endpoint.ofRequest r = .logout :=
  ofRequest_eq_logout_iff.2 hp

/-- Whoever is signed out gets the two directives. -/
theorem getAll_setCookie_logout (h : config.isValid = true) (hp : r.path = "/logout".toList)
    (hs : (answer config fresh r).value.status = .noContent) :
    ((answer config fresh r).value.headers.getAll .setCookie).map Http.Value.bytes
      = userCookies.map fun n => utf8 (config.cookies.directive n) := by
  rw [status_answer] at hs
  rw [setCookie_answer]
  -- the answers of the layers have other statuses
  rcases layered_cases config r with hl | hl | hl
  · rw [hl] at hs
    cases hs
  · rw [hl] at hs
    cases hs
  · have hvalue : (layered config r).value.headers
        = ((⟨userCookies⟩ : Cookie.Pending).apply config.cookies .empty).value := by
      rw [hl, ofRequest_logout hp]
      exact headers_signOut config.cookies
    rw [hvalue, Cookie.Pending.getAll_apply (p := ⟨userCookies⟩)
        (Cookie.nodup_expiries_userCookies _),
      Http.Headers.getAll_empty, List.filter_nil, List.append_nil]
    exact Cookie.Attributes.bytes_expiries_of_forall_isSome (isSome_expiry?_userCookies h)

/-! ## What is told about a cookie -/

/-- The directive drops the cookie of this name that was set with these attributes, and says
nothing else. -/
structure Drops (a : Cookie.Attributes) (name : String) (d : Directive) : Prop where
  name_eq : d.name = name.toList
  value_eq : d.value = []
  path_eq : d.path = some a.path.toList
  /-- The domain is named without its leading dots. -/
  domainName?_eq : d.domainName? = a.domain.map fun s => dropDots s.toList
  maxAge_eq : d.maxAge = some 0
  /-- The cookie expires at the start of 1970. -/
  expires_eq : d.expires = some 0
  others_eq : d.others = []

/-- **Valid settings always give two correct directives.** Each of them may stand in a header and
drops its cookie when it is read back; so no directive is ever skipped, on headers, by a service
or by a server, and who is signed out gets exactly these two. -/
theorem userCookies_dropped_of_isValid (h : config.isValid = true) :
    (∀ n ∈ userCookies, (config.cookies.expiry? n).isSome = true ∧
      ∃ d, Directive.read? (config.cookies.directive n).toList = some d ∧
        Drops config.cookies n d) ∧
    (∀ n headers, .directiveIgnored n ∉ (Cookie.clearOn config.cookies headers).journal.events) ∧
    (∀ (ρ σ ε : Type) (inner : Cookie.Service ρ σ ε) request state n,
      .directiveIgnored n ∈ (Cookie.clearing config.cookies inner request state).journal.events →
      .directiveIgnored n ∈ (inner request state).journal.events) ∧
    (∀ calls n, .directiveIgnored n ∉ (answerAll config calls).journal.events) ∧
    (∀ address reach calls n,
      .directiveIgnored n ∉ (serve config address reach calls).journal.events) ∧
    ∀ fresh r, r.path = "/logout".toList → (answer config fresh r).value.status = .noContent →
      ((answer config fresh r).value.headers.getAll .setCookie).map Http.Value.bytes
        = userCookies.map fun n => utf8 (config.cookies.directive n) := by
  refine ⟨fun n hn => ⟨isSome_expiry?_userCookies h n hn, config.cookies.expired n, ?_, ?_⟩,
    fun n => directiveIgnored_notMem_clearOn h, fun _ _ _ _ _ _ _ => directiveIgnored_of_clearing h,
    fun calls n => ?_, fun address reach calls n => directiveIgnored_notMem_serve h _ _ _,
    fun fresh r => getAll_setCookie_logout h⟩
  · exact Cookie.Attributes.read?_directive (Config.isReadable_of_isValid h)
      (Cookie.isName_of_mem_userCookies hn)
  · exact ⟨rfl, rfl, rfl, Config.domainName?_expired_of_isValid h n, rfl, rfl, rfl⟩
  · rw [answerAll, Traced.mem_events_mapM]
    rintro ⟨call, -, hcall⟩
    exact directiveIgnored_notMem_answer h hcall

/-- Settings for a part of a site, on all its hosts. -/
def partOfSite : Config := { cookies := { path := "/app", domain := some ".example.com" } }

def leaving : Request where
  method := "POST"
  path := "/logout".toList
  headers := .empty
  body := []

/-- The id of a request that brings none. -/
def visit : Http.Value := ⟨utf8 "7", by decide +kernel⟩

/-- Signing out from a part of a site. -/
theorem leaving_partOfSite : partOfSite.isValid = true ∧
    (answer partOfSite visit leaving).value.status = .noContent ∧
    ((answer partOfSite visit leaving).value.headers.getAll .setCookie).map Http.Value.bytes =
      [utf8 ("userId=; Path=/app; Domain=example.com; Max-Age=0; "
          ++ "Expires=Thu, 01 Jan 1970 00:00:00 GMT"),
        utf8 ("userPicture=; Path=/app; Domain=example.com; Max-Age=0; "
          ++ "Expires=Thu, 01 Jan 1970 00:00:00 GMT")] := by
  have h : partOfSite.isValid = true := by decide +kernel
  have hs : (answer partOfSite visit leaving).value.status = .noContent := by decide +kernel
  refine ⟨h, hs, ?_⟩
  rw [(userCookies_dropped_of_isValid h).2.2.2.2.2 visit leaving rfl hs]
  decide +kernel

end Session.Server
