import Session.Proofs.Config.Reporting
import Session.Proofs.Cookie.Jar

set_option autoImplicit false

/-! # The last word on a cookie

A client goes through the cookies of a response in their order, so of several values for one
cookie the last one counts (`lastWord`). The file says whose this is.

* A clearing service puts its directives in front and takes out what equals one of them. So the
  last word is that of the service inside, unless its last word is the very directive: this one
  is taken out, and an earlier value comes to count again (`lastWord_clearing`).
* A directive that is written directly comes last, unless it is there already. Then nothing is
  written, and a value behind it goes on counting (`lastWord_expireOn`).
-/

namespace Session.Cookie

/-! ## The cookie that a value is for -/

/-- The name of the cookie: the text before the first `=`, without the blanks around it. Without
a `=` there is none. -/
def cookieName? (v : Http.Value) : Option (List Char) :=
  (Text.cut? '=' (textOf v.bytes).toList).map fun p => Text.trim p.1

/-- The values for the cookie of the name. -/
def named (name : String) (vs : List Http.Value) : List Http.Value :=
  vs.filter fun v => cookieName? v = some name.toList

/-- What a client ends with that goes through the values in their order: of those for the cookie
each takes the place of the one before it. -/
def lastWord (name : String) (vs : List Http.Value) : Option Http.Value :=
  vs.foldl (fun last v => if cookieName? v = some name.toList then some v else last) none

section Values

variable {name : String} {vs : List Http.Value} {v : Http.Value}

theorem mem_named_iff : v ∈ named name vs ↔ v ∈ vs ∧ cookieName? v = some name.toList := by
  rw [named, List.mem_filter, decide_eq_true_eq]

theorem named_append (name : String) (vs ws : List Http.Value) :
    named name (vs ++ ws) = named name vs ++ named name ws := List.filter_append _ _

theorem named_filter (name : String) (p : Http.Value → Bool) (vs : List Http.Value) :
    named name (vs.filter p) = (named name vs).filter p := by
  rw [named, named, List.filter_filter, List.filter_filter]
  exact List.filter_congr fun v _ => Bool.and_comm _ _

/-- The last word is the last of the values for the cookie. -/
theorem lastWord_eq_getLast? (name : String) (vs : List Http.Value) :
    lastWord name vs = (named name vs).getLast? := by
  induction vs using List.reverseRecOn with
  | nil => rfl
  | append_singleton vs v ih =>
      rw [lastWord, List.foldl_append, ← lastWord, List.foldl_cons, List.foldl_nil, ih,
        named_append]
      by_cases hv : cookieName? v = some name.toList
      · have hone : named name [v] = [v] := List.filter_eq_self.2 (by simpa using hv)
        rw [if_pos hv, hone, List.getLast?_concat]
      · have hnone : named name [v] = [] := List.filter_eq_nil_iff.2 (by simpa using hv)
        rw [if_neg hv, hnone, List.append_nil]

/-- What comes later counts more. -/
theorem lastWord_append (name : String) (vs ws : List Http.Value) :
    lastWord name (vs ++ ws) = (lastWord name ws).or (lastWord name vs) := by
  rw [lastWord_eq_getLast?, lastWord_eq_getLast?, lastWord_eq_getLast?, named_append,
    List.getLast?_append]

/-- Without one of the values the last word stays, unless it is that value and others are there. -/
theorem getD_lastWord_filter_ne (name : String) (vs : List Http.Value) (d : Http.Value) :
    (lastWord name (vs.filter (· ≠ d))).getD d = (lastWord name vs).getD d ↔
      lastWord name vs ≠ some d ∨ ∀ v ∈ named name vs, v = d := by
  rw [lastWord_eq_getLast?, lastWord_eq_getLast?, named_filter]
  induction named name vs using List.reverseRecOn with
  | nil => simp
  | append_singleton l v _ =>
      rw [List.filter_append, List.getLast?_concat]
      by_cases hv : v = d
      · subst hv
        -- the last one is taken out, and what comes to be last is another value, if there is one
        have hnone : [v].filter (· ≠ v) = [] := by simp
        rw [hnone, List.append_nil]
        cases hl : (l.filter (· ≠ v)).getLast? with
        | none =>
            rw [List.getLast?_eq_none_iff, List.filter_eq_nil_iff] at hl
            simpa [or_imp, forall_and] using hl
        | some w =>
            have hw := List.mem_filter.1 (List.mem_of_getLast? hl)
            have hne : w ≠ v := by simpa using hw.2
            simp only [Option.getD_some, hne, ne_eq, not_true_eq_false, false_or, false_iff]
            exact fun hall => hne (hall w (List.mem_append_left _ hw.1))
      · have hone : [v].filter (· ≠ d) = [v] := by simp [hv]
        rw [hone, List.getLast?_concat]
        simp [hv]

end Values

/-! ## The cookie that a directive is for -/

namespace Attributes

variable {a : Attributes} {name : String} {names : List String} {d : Http.Value}

/-- Attributes that are well formed are so for any cookie that can be named. -/
theorem isSome_expiry?_of_isWellFormed (ha : a.isWellFormed = true)
    (hn : ∀ c ∈ name.toList, Http.isControl c = false) : (a.expiry? name).isSome = true := by
  have hparts := (isWellFormed_iff.1 ha).1
  rw [isSome_expiry?, Bool.and_eq_true] at hparts ⊢
  exact ⟨isWritable_iff.2 hn, hparts.2⟩

/-- The directive that expires a cookie is for this cookie. -/
theorem cookieName?_of_expiry? (hn : IsName name.toList) (hd : a.expiry? name = some d) :
    cookieName? d = some name.toList := by
  obtain ⟨-, heq, hplain⟩ := hn
  rw [cookieName?, expiry?_eq_some_iff.1 hd, textOf_utf8, directive, String.toList_ofList,
    render_removal, List.append_assoc, List.singleton_append, Text.cut?_append heq,
    Option.map_some, hplain.2]

theorem named_expiries_of_notMem (hall : ∀ n ∈ names, IsName n.toList) (hn : name ∉ names) :
    named name (a.expiries names) = [] := by
  rw [List.eq_nil_iff_forall_not_mem]
  intro v hv
  obtain ⟨hv, hname⟩ := mem_named_iff.1 hv
  obtain ⟨n, hmem, hexpiry⟩ := List.mem_filterMap.1 hv
  rw [cookieName?_of_expiry? (hall n hmem) hexpiry, Option.some.injEq] at hname
  exact hn (String.toList_inj.1 hname ▸ hmem)

/-- Of the directives for different cookies one is for the cookie. -/
theorem named_expiries (hall : ∀ n ∈ names, IsName n.toList) (hnodup : names.Nodup)
    (hmem : name ∈ names) (hd : a.expiry? name = some d) : named name (a.expiries names) = [d] := by
  induction names with
  | nil => cases hmem
  | cons n names ih =>
      obtain ⟨hnew, hrest⟩ := List.nodup_cons.1 hnodup
      have hall' := fun m hm => hall m (List.mem_cons_of_mem n hm)
      rw [a.expiries_cons, named_append]
      by_cases hn : n = name
      · subst hn
        have hone : a.expiries [n] = [d] := List.filterMap_cons_some hd
        have hnamed : named n [d] = [d] := by
          simp [named, cookieName?_of_expiry? (hall n List.mem_cons_self) hd]
        rw [hone, hnamed, named_expiries_of_notMem hall' hnew, List.append_nil]
      · have hnone : named name (a.expiries [n]) = [] :=
          named_expiries_of_notMem (by simpa using hall n List.mem_cons_self)
            (by simpa using Ne.symm hn)
        rw [hnone, List.nil_append,
          ih hall' hrest ((List.mem_cons.1 hmem).resolve_left (Ne.symm hn))]

end Attributes

/-! ## Clearing -/

section Clearing

variable {a : Attributes} {name : String} {d : Http.Value}

theorem isControl_of_mem_userCookies (hn : name ∈ userCookies) :
    ∀ c ∈ name.toList, Http.isControl c = false :=
  Attributes.isWritable_iff.1 (Attributes.isWritable_of_mem_userCookies hn)

theorem named_expiries_userCookies (hn : name ∈ userCookies) (hd : a.expiry? name = some d) :
    named name (a.expiries userCookies) = [d] :=
  Attributes.named_expiries (fun _ => isName_of_mem_userCookies) (by decide) hn hd

/-- The directive comes first, and of the values that there were it is taken out. -/
theorem named_apply (hn : name ∈ userCookies) (hd : a.expiry? name = some d) (h : Http.Headers) :
    named name (((⟨userCookies⟩ : Pending).apply a h).value.getAll .setCookie)
      = d :: (named name (h.getAll .setCookie)).filter (· ≠ d) := by
  rw [Pending.getAll_apply (p := ⟨userCookies⟩) (nodup_expiries_userCookies a), named_append,
    named_expiries_userCookies hn hd, named_filter, List.singleton_append]
  refine congrArg (List.cons d) (List.filter_congr fun v hv => ?_)
  -- of the directives this one alone is for the cookie
  have hmem : v ∈ a.expiries userCookies ↔ v = d := by
    rw [← List.mem_singleton, ← named_expiries_userCookies hn hd, mem_named_iff]
    exact ⟨fun h => ⟨h, (mem_named_iff.1 hv).2⟩, And.left⟩
  simp only [hmem]

/-- What is cleared keeps the last word of the others, or gets that of the directive. -/
theorem lastWord_apply (hn : name ∈ userCookies) (hd : a.expiry? name = some d)
    (h : Http.Headers) :
    lastWord name (((⟨userCookies⟩ : Pending).apply a h).value.getAll .setCookie)
      = some ((lastWord name ((h.getAll .setCookie).filter (· ≠ d))).getD d) := by
  rw [lastWord_eq_getLast?, named_apply hn hd, List.getLast?_cons, lastWord_eq_getLast?,
    named_filter]

/-- What would count if the directives were written before the values. -/
theorem lastWord_expiries_append (hn : name ∈ userCookies) (hd : a.expiry? name = some d)
    (vs : List Http.Value) :
    lastWord name (a.expiries userCookies ++ vs) = some ((lastWord name vs).getD d) := by
  have hone : lastWord name (a.expiries userCookies) = some d := by
    rw [lastWord_eq_getLast?, named_expiries_userCookies hn hd, List.getLast?_singleton]
  rw [lastWord_append, hone, Option.or_some]

variable {ρ σ ε : Type}

/-- **Whose the last word is behind a clearing service.** For a user cookie it is the last word of
the service inside among the values other than the directive, and the directive if there is none.
So it is what clearing first and then doing all that the service did would give, unless the last
word of the service was the directive itself, behind another value for the cookie. -/
theorem lastWord_clearing (a : Attributes) (ha : a.isWellFormed = true) (inner : Service ρ σ ε)
    (request : ρ) (state : σ) (response : Http.Response)
    (hr : (inner request state).value.1 = .ok response) (name : String)
    (hn : name ∈ userCookies) :
    ∃ d headers, a.expiry? name = some d ∧
      (clearing a inner request state).value.1 = .ok { response with headers } ∧
      let own := response.headers.getAll .setCookie
      let cleared := headers.getAll .setCookie
      lastWord name cleared = some ((lastWord name (own.filter (· ≠ d))).getD d) ∧
      lastWord name (a.expiries userCookies ++ own) = some ((lastWord name own).getD d) ∧
      (lastWord name cleared = lastWord name (a.expiries userCookies ++ own) ↔
        lastWord name own ≠ some d ∨ ∀ v ∈ named name own, v = d) := by
  obtain ⟨d, hd⟩ := Option.isSome_iff_exists.1
    (Attributes.isSome_expiry?_of_isWellFormed ha (isControl_of_mem_userCookies hn))
  rcases hi : inner request state with ⟨⟨result, after⟩, journal⟩
  rw [hi] at hr
  obtain rfl : result = .ok response := hr
  refine ⟨d, _, hd, congrArg (fun t => t.value.1) (clearing_of_ok (a := a) hi), ?_⟩
  refine ⟨lastWord_apply hn hd _, lastWord_expiries_append hn hd _, ?_⟩
  rw [lastWord_apply hn hd, lastWord_expiries_append hn hd, Option.some.injEq]
  exact getD_lastWord_filter_ne name _ d

end Clearing

/-- A value that signs a user in. -/
def signedIn : Http.Value := ⟨utf8 "userId=42; Path=/", by decide +kernel⟩

/-- The directive that signs the user out. -/
def signedOut : Http.Value :=
  ⟨utf8 "userId=; Path=/; Max-Age=0; Expires=Thu, 01 Jan 1970 00:00:00 GMT", by decide +kernel⟩

theorem signedIn_ne_signedOut : signedIn ≠ signedOut := by decide +kernel

theorem isWellFormed_standard : Attributes.standard.isWellFormed = true := by decide +kernel

theorem expiry?_standard_userId : Attributes.standard.expiry? userId = some signedOut := by
  decide +kernel

/-- A service that answers with these cookies. -/
def answering (vs : List Http.Value) : Service Unit Unit Empty := fun _ state =>
  pure (.ok { status := .ok, headers := withCookies .empty vs }, state)

/-- Signing in again, after having signed out, counts. -/
theorem lastWord_clearing_of_signedIn :
    Attributes.standard.isWellFormed = true ∧ userId ∈ userCookies ∧
    ∃ headers, (clearing .standard (answering [signedOut, signedIn]) () ()).value.1
        = .ok { status := .ok, headers } ∧
      lastWord userId (headers.getAll .setCookie) = some signedIn := by
  refine ⟨isWellFormed_standard, by decide, ?_⟩
  obtain ⟨d, headers, hd, hanswer, -, hfirst, hlast⟩ :=
    lastWord_clearing .standard isWellFormed_standard (answering [signedOut, signedIn]) () () _ rfl
      userId (by decide)
  obtain rfl : d = signedOut := Option.some.inj (hd.symm.trans expiry?_standard_userId)
  have hown : lastWord userId [signedOut, signedIn] = some signedIn := by decide +kernel
  refine ⟨headers, hanswer, ?_⟩
  rw [hlast.2 (Or.inl ?_), hfirst]
  · exact congrArg (fun last => some (Option.getD last signedOut)) hown
  · exact fun h => signedIn_ne_signedOut (Option.some.inj (hown.symm.trans h))

/-- **Signing out again, after having signed in, does not.** The directive is taken out behind the
value that it should take back, and the user stays signed in. -/
theorem lastWord_clearing_of_signedOut :
    Attributes.standard.isWellFormed = true ∧ userId ∈ userCookies ∧
    lastWord userId [signedIn, signedOut] = some signedOut ∧
    ∃ headers, (clearing .standard (answering [signedIn, signedOut]) () ()).value.1
        = .ok { status := .ok, headers } ∧
      lastWord userId (headers.getAll .setCookie) = some signedIn ∧ signedIn ≠ signedOut := by
  refine ⟨isWellFormed_standard, by decide, by decide +kernel, _, rfl, by decide +kernel,
    signedIn_ne_signedOut⟩

/-! ## Expiring directly -/

section Direct

variable {a : Attributes} {name : String} {d : Http.Value} {h : Http.Headers}

theorem value_expireOn_of_expiry? (hd : a.expiry? name = some d) (h : Http.Headers) :
    (expireOn a name h).value = writeOnce h d := by
  have hone : a.expiries [name] = [d] := List.filterMap_cons_some hd
  rw [value_expireOn, hone, List.foldl_cons, List.foldl_nil]

/-- **Whose the last word is when a cookie is expired directly.** The directive is there
afterwards. If it was not there before, it is written behind all other values, and has the last
word. If it was there, nothing changes, so it has the last word if it had it before. -/
theorem lastWord_expireOn (a : Attributes) (ha : a.isWellFormed = true) (name : String)
    (hn : IsName name.toList) (hc : ∀ c ∈ name.toList, Http.isControl c = false)
    (h : Http.Headers) :
    ∃ d, a.expiry? name = some d ∧
      let before := h.getAll .setCookie
      let after := (expireOn a name h).value.getAll .setCookie
      d ∈ after ∧
      (d ∉ before → after = before ++ [d] ∧ lastWord name after = some d) ∧
      (d ∈ before → (expireOn a name h).value = h) ∧
      (lastWord name after = some d ↔ d ∉ before ∨ lastWord name before = some d) := by
  obtain ⟨d, hd⟩ := Option.isSome_iff_exists.1 (Attributes.isSome_expiry?_of_isWellFormed ha hc)
  refine ⟨d, hd, ?_⟩
  rw [value_expireOn_of_expiry? hd]
  by_cases hmem : d ∈ h.getAll .setCookie
  · have hsame : writeOnce h d = h := if_pos hmem
    simp only [hsame, hmem, not_true_eq_false, false_imp_iff, true_and, true_imp_iff, false_or]
  · -- a directive that is new is the last value for the cookie it names
    have hnew : (writeOnce h d).getAll .setCookie = h.getAll .setCookie ++ [d] := by
      rw [writeOnce, if_neg hmem, Http.Headers.getAll_append_self]
    have hone : lastWord name [d] = some d := by
      rw [lastWord_eq_getLast?, named, List.filter_eq_self.2, List.getLast?_singleton]
      simpa using Attributes.cookieName?_of_expiry? hn hd
    have hlast : lastWord name (h.getAll .setCookie ++ [d]) = some d := by
      rw [lastWord_append, hone, Option.some_or]
    rw [hnew]
    exact ⟨List.mem_append_right _ (List.mem_singleton_self d), fun _ => ⟨rfl, hlast⟩,
      fun h => absurd h hmem, iff_of_true hlast (Or.inl hmem)⟩

end Direct

/-- A user who was signed in is signed out. -/
theorem lastWord_expireOn_of_signedIn :
    Attributes.standard.isWellFormed = true ∧ IsName userId.toList ∧
    (∀ c ∈ userId.toList, Http.isControl c = false) ∧
    lastWord userId ((expireOn .standard userId (withCookies .empty [signedIn])).value.getAll
      .setCookie) = some signedOut := by
  have hname : IsName userId.toList := isName_of_mem_userCookies (by decide)
  have hcontrol : ∀ c ∈ userId.toList, Http.isControl c = false :=
    isControl_of_mem_userCookies (by decide)
  refine ⟨isWellFormed_standard, hname, hcontrol, ?_⟩
  obtain ⟨d, hd, -, hnew, -⟩ := lastWord_expireOn .standard isWellFormed_standard userId hname
    hcontrol (withCookies .empty [signedIn])
  obtain rfl : d = signedOut := Option.some.inj (hd.symm.trans expiry?_standard_userId)
  exact (hnew (by decide +kernel)).2

/-- **Who signs in after signing out is not signed out by doing it again.** The directive is there
already, in front of the value that it should take back. -/
theorem lastWord_expireOn_of_repeated :
    let expired := (expireOn .standard userId .empty).value
    let again := expired.append .setCookie signedIn
    Attributes.standard.isWellFormed = true ∧ IsName userId.toList ∧
      (∀ c ∈ userId.toList, Http.isControl c = false) ∧
      Attributes.standard.expiry? userId = some signedOut ∧
      lastWord userId ((expireOn .standard userId again).value.getAll .setCookie) = some signedIn ∧
      signedIn ≠ signedOut :=
  ⟨isWellFormed_standard, isName_of_mem_userCookies (by decide),
    isControl_of_mem_userCookies (by decide), expiry?_standard_userId, by decide +kernel,
    signedIn_ne_signedOut⟩

end Session.Cookie
