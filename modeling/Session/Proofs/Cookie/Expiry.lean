import Session.Cookie.Clearing
import Session.Proofs.Cookie.Directive
import Session.Proofs.Repeats
import Session.Proofs.Text.Utf8

set_option autoImplicit false

/-! # What expiring cookies leaves behind

With the same attributes different names give different directives (`directive_injective`), so
pending names, each recorded once, give directives that are all different. Applying them puts the
directives behind all other fields and the response's own cookies behind the directives
(`apply_eq`, `getAll_apply`).
-/

namespace Session.Cookie

namespace Attributes

variable {a : Attributes} {names : List String}

/-- A name is told from the directive: what stands behind it is the same for all names. -/
theorem directive_injective (a : Attributes) : Function.Injective a.directive := by
  intro n m h
  have heq : (a.removal n).render = (a.removal m).render := String.ofList_inj.1 h
  rw [render_removal, render_removal, List.append_assoc, List.append_assoc] at heq
  exact String.toList_inj.1 (List.append_cancel_right heq)

theorem expiry?_eq_some_iff {n : String} {v : Http.Value} :
    a.expiry? n = some v ↔ v.bytes = utf8 (a.directive n) := by
  rw [expiry?, Http.Value.ofText?, Http.Value.ofBytes?_eq_some_iff]

/-- Where all directives may stand in a header, nothing is skipped. -/
theorem warnings_of_forall_isSome (h : ∀ n ∈ names, (a.expiry? n).isSome = true) :
    a.warnings names = .empty := by
  have hnone : names.filter (fun n => (a.expiry? n).isNone) = [] := by
    rw [List.filter_eq_nil_iff]
    intro n hn
    rw [Option.isNone_iff_eq_none, ← Option.not_isSome_iff_eq_none, not_not]
    exact h n hn
  rw [warnings, hnone]
  rfl

theorem bytes_expiries_of_forall_isSome (h : ∀ n ∈ names, (a.expiry? n).isSome = true) :
    (a.expiries names).map Http.Value.bytes = names.map fun n => utf8 (a.directive n) := by
  induction names with
  | nil => rfl
  | cons n names ih =>
      obtain ⟨v, hv⟩ := Option.isSome_iff_exists.1 (h n List.mem_cons_self)
      rw [expiries, List.filterMap_cons_some hv, List.map_cons, List.map_cons,
        expiry?_eq_some_iff.1 hv, ← expiries, ih fun m hm => h m (List.mem_cons_of_mem _ hm)]

/-- The directives of different names are different. -/
theorem nodup_expiries (hn : names.Nodup) : (a.expiries names).Nodup := by
  refine hn.filterMap fun n m v hv hw => a.directive_injective (utf8_injective ?_)
  rw [← expiry?_eq_some_iff.1 hv, ← expiry?_eq_some_iff.1 hw]

end Attributes

/-! ## Writing directives -/

/-- The headers with more cookies behind their fields. -/
def withCookies (h : Http.Headers) (vs : List Http.Value) : Http.Headers :=
  ⟨h.fields ++ vs.map fun v => (.setCookie, v)⟩

variable {h : Http.Headers}

theorem withCookies_nil (h : Http.Headers) : withCookies h [] = h := by
  simp [withCookies]

theorem withCookies_append (h : Http.Headers) (vs ws : List Http.Value) :
    withCookies h (vs ++ ws) = withCookies (withCookies h vs) ws := by
  simp [withCookies, List.append_assoc]

theorem getAll_withCookies (h : Http.Headers) (vs : List Http.Value) :
    (withCookies h vs).getAll .setCookie = h.getAll .setCookie ++ vs := by
  simp [withCookies, Http.Headers.getAll, List.filterMap_map]

theorem getAll_withCookies_of_ne (h : Http.Headers) (vs : List Http.Value) {n : Http.Name}
    (hn : n ≠ .setCookie) : (withCookies h vs).getAll n = h.getAll n := by
  simp [withCookies, Http.Headers.getAll, List.filterMap_map, hn.symm]

theorem remove_withCookies (h : Http.Headers) (vs : List Http.Value) :
    (withCookies h vs).remove .setCookie = h.remove .setCookie := by
  simp [withCookies, Http.Headers.remove]

theorem foldl_append_eq (vs : List Http.Value) (h : Http.Headers) :
    vs.foldl (fun h v => h.append .setCookie v) h = withCookies h vs := by
  induction vs generalizing h with
  | nil => rw [List.foldl_nil, withCookies_nil]
  | cons v vs ih =>
      have hone : h.append .setCookie v = withCookies h [v] := rfl
      rw [List.foldl_cons, ih, hone, ← withCookies_append, List.singleton_append]

/-- Of the directives each is written once, if it is not there yet. -/
theorem foldl_writeOnce_eq_eraseDups (vs : List Http.Value) (h : Http.Headers) :
    vs.foldl writeOnce h
      = withCookies h (vs.eraseDups.filter fun v => v ∉ h.getAll .setCookie) := by
  induction vs using List.reverseRecOn with
  | nil => rw [List.eraseDups_nil, List.filter_nil, withCookies_nil, List.foldl_nil]
  | append_singleton vs v ih =>
      rw [List.foldl_concat, ih, writeOnce, getAll_withCookies, eraseDups_append_singleton]
      by_cases hown : v ∈ h.getAll .setCookie
      · have hnone : [v].filter (fun v => v ∉ h.getAll .setCookie) = [] := by simp [hown]
        rw [if_pos (List.mem_append_left _ hown)]
        by_cases hv : v ∈ vs
        · rw [if_pos hv]
        · rw [if_neg hv, List.filter_append, hnone, List.append_nil]
      · have hone : [v].filter (fun v => v ∉ h.getAll .setCookie) = [v] := by simp [hown]
        by_cases hv : v ∈ vs
        · have hthere : v ∈ vs.eraseDups.filter fun v => v ∉ h.getAll .setCookie :=
            List.mem_filter.2 ⟨List.mem_eraseDups.2 hv, by simpa using hown⟩
          rw [if_pos (List.mem_append_right _ hthere), if_pos hv]
        · have hnew : v ∉ h.getAll .setCookie
              ++ vs.eraseDups.filter fun v => v ∉ h.getAll .setCookie := by
            rw [List.mem_append, not_or]
            exact ⟨hown, fun hm => hv (List.mem_eraseDups.1 (List.mem_filter.1 hm).1)⟩
          rw [if_neg hnew, if_neg hv, List.filter_append, hone, withCookies_append]
          rfl

/-- Directives that are all different, and not there yet, are all written. -/
theorem foldl_writeOnce_eq {vs : List Http.Value} (hn : vs.Nodup)
    (hnew : ∀ v ∈ vs, v ∉ h.getAll .setCookie) : vs.foldl writeOnce h = withCookies h vs := by
  rw [foldl_writeOnce_eq_eraseDups, eraseDups_of_nodup hn, List.filter_eq_self.2]
  simpa using hnew

namespace Pending

variable {a : Attributes} {p : Pending}

/-- Applying writes the directives, and then the other cookies of the response, behind the fields
that are no cookies. -/
theorem apply_eq (hn : (a.expiries p.names).Nodup) (h : Http.Headers) :
    (p.apply a h).value = withCookies (h.remove .setCookie)
      (a.expiries p.names ++ (h.getAll .setCookie).filter fun v => v ∉ a.expiries p.names) := by
  -- without the cookies of the response no directive is there yet
  have hclear : (a.expiries p.names).foldl writeOnce (h.remove .setCookie)
      = withCookies (h.remove .setCookie) (a.expiries p.names) := by
    refine foldl_writeOnce_eq hn fun v _ => ?_
    rw [Http.Headers.getAll_remove_self]
    exact List.not_mem_nil
  rw [apply, foldl_append_eq, hclear, withCookies_append]

/-- **The directives come first, and every other cookie of the response follows as it was.** -/
theorem getAll_apply (hn : (a.expiries p.names).Nodup) (h : Http.Headers) :
    (p.apply a h).value.getAll .setCookie
      = a.expiries p.names ++ (h.getAll .setCookie).filter fun v => v ∉ a.expiries p.names := by
  rw [apply_eq hn, getAll_withCookies, Http.Headers.getAll_remove_self, List.nil_append]

theorem getAll_apply_of_ne (hn : (a.expiries p.names).Nodup) (h : Http.Headers) {n : Http.Name}
    (hne : n ≠ .setCookie) : (p.apply a h).value.getAll n = h.getAll n := by
  rw [apply_eq hn, getAll_withCookies_of_ne _ _ hne, Http.Headers.getAll_remove_of_ne _ hne.symm]

/-- The user cookies are recorded while the rest goes on. -/
theorem clear_empty {α : Type} (proceed : Unit → α) :
    ({} : Pending).clear proceed = (proceed (), ⟨userCookies⟩) := rfl

end Pending

/-! ## The user cookies -/

variable {a : Attributes}

theorem nodup_expiries_userCookies (a : Attributes) : (a.expiries userCookies).Nodup :=
  Attributes.nodup_expiries (by decide)

/-- Expiring on headers warns about a name that gives no value, and about nothing else. -/
theorem journal_expireOn (a : Attributes) (name : String) (h : Http.Headers) :
    (expireOn a name h).journal = a.warnings [name] := rfl

theorem journal_clearOn (a : Attributes) (h : Http.Headers) :
    (clearOn a h).journal = a.warnings [userId] ++ a.warnings [userPicture] := by
  simp [clearOn, clearUserCookies, userCookies, journal_expireOn]

section Clearing

variable {ρ σ ε : Type} {inner : Service ρ σ ε} {request : ρ} {state after : σ}
  {journal : Journal}

theorem clearing_of_error {e : ε} (h : inner request state = ⟨(.error e, after), journal⟩) :
    clearing a inner request state = ⟨(.error e, after), journal⟩ := by
  rw [clearing, Pending.clear_empty]
  dsimp only
  rw [h]
  exact congrArg (Traced.mk _) (Journal.append_empty journal)

theorem clearing_of_ok {response : Http.Response}
    (h : inner request state = ⟨(.ok response, after), journal⟩) :
    clearing a inner request state =
      ⟨(.ok { response with
          headers := ((⟨userCookies⟩ : Pending).apply a response.headers).value }, after),
        journal ++ (a.warnings userCookies ++
          (.count .cleared ++ .log (.cookiesExpired a.path response.status)))⟩ := by
  rw [clearing, Pending.clear_empty]
  dsimp only
  rw [h]
  have hend : Journal.log (.cookiesExpired a.path response.status) ++ Journal.empty
      = .log (.cookiesExpired a.path response.status) := Journal.append_empty _
  rw [← hend]
  rfl

end Clearing

end Session.Cookie
