import Session.Proofs.Cookie.Jar

set_option autoImplicit false

/-! # Recording and applying, or expiring directly

There are two ways to expire the cookies of several names. One drops repeated names, prints the
directives and puts them in front; the other prints a directive for every name and writes it
behind the others, unless its text is there already. Names and texts repeat alike
(`Attributes.expiries_eraseDups`), so where there are no cookies both ways give the same map. Where
there are some, both give the same cookies, but the ways differ in where a directive stands and how
often: applied it is there once and in front, and written directly it stays where and as often as it
was, or comes last.
-/

namespace Session.Cookie

namespace Attributes

variable (a : Attributes)

/-- A directive is for one name, so names may be dropped before printing or texts after it. -/
theorem expiries_eraseDups (names : List String) :
    a.expiries names.eraseDups = (a.expiries names).eraseDups := by
  refine filterMap_eraseDups (fun n m v hn hm => a.directive_injective (utf8_injective ?_)) names
  rw [← expiry?_eq_some_iff.1 hn, ← expiry?_eq_some_iff.1 hm]

end Attributes

/-- What is written is told by the directives, however often they are listed. -/
theorem Wrote.of_mem_iff {ds es : List Http.Value} {applied : Bool} {h₁ h₂ : Http.Headers}
    (hw : Wrote ds applied h₁ h₂) (hm : ∀ v, v ∈ es ↔ v ∈ ds) : Wrote es applied h₁ h₂ where
  other := hw.other
  order := filter_eq_of_subset hw.order fun v => (hm v).2
  unwritten v hv := hw.unwritten v (mt (hm v).2 hv)
  written v hv := hw.written v ((hm v).1 hv)

theorem remove_of_getAll_eq_nil {h : Http.Headers} (hc : h.getAll .setCookie = []) :
    h.remove .setCookie = h := by
  have hall : ∀ f ∈ h.fields, f.1 ≠ .setCookie := by
    intro f hf heq
    have hnone := List.filterMap_eq_nil_iff.1 hc f hf
    rw [if_pos heq] at hnone
    cases hnone
  rw [Http.Headers.remove, List.filter_eq_self.2 (by simpa using hall)]

section Recording

variable (a : Attributes) (names : List String) (h : Http.Headers)

/-- What is recorded in a row, each name once. -/
theorem names_foldl_record : (names.foldl Pending.record {}).names = names.eraseDups := by
  induction names using List.reverseRecOn with
  | nil => exact List.eraseDups_nil.symm
  | append_singleton names n ih =>
      rw [List.foldl_concat]
      exact Pending.names_record ih n

theorem nodup_expiries_recorded : (a.expiries (names.foldl Pending.record {}).names).Nodup := by
  rw [names_foldl_record]
  exact Attributes.nodup_expiries (nodup_eraseDups names)

/-- What is recorded is applied in front of the cookies that are no directives. -/
theorem value_apply_recorded : ((names.foldl Pending.record {}).apply a h).value
    = withCookies (h.remove .setCookie) ((a.expiries names).eraseDups
      ++ (h.getAll .setCookie).filter fun v => v ∉ a.expiries names) := by
  rw [Pending.apply_eq (nodup_expiries_recorded a names), names_foldl_record,
    a.expiries_eraseDups]
  simp only [List.mem_eraseDups]

theorem wrote_apply_recorded :
    Wrote (a.expiries names) true h ((names.foldl Pending.record {}).apply a h).value := by
  refine (Pending.wrote_apply (nodup_expiries_recorded a names) h).of_mem_iff fun v => ?_
  rw [names_foldl_record, a.expiries_eraseDups, List.mem_eraseDups]

/-- What is expired directly comes behind the cookies, as far as it is new. -/
theorem foldl_expireOn_eq : names.foldl (fun h n => (expireOn a n h).value) h
    = withCookies h ((a.expiries names).eraseDups.filter fun v => v ∉ h.getAll .setCookie) := by
  rw [foldl_expireOn, foldl_writeOnce_eq_eraseDups]

theorem wrote_foldl_expireOn :
    Wrote (a.expiries names) false h (names.foldl (fun h n => (expireOn a n h).value) h) := by
  rw [foldl_expireOn]
  exact wrote_foldl_writeOnce (a.expiries names) h

end Recording

/-- **Recording and applying is expiring directly.** On a map without cookies both give the same
map. On any map both give the same cookies, and the same other fields. The cookies that are none of
the directives are the same ones in the same order; a directive stands once if it is applied, and as
often as before, but at least once, if it is written directly. -/
theorem apply_recorded_eq_expire (a : Attributes) (names : List String) (h : Http.Headers) :
    let applied := ((names.foldl Pending.record {}).apply a h).value
    let direct := names.foldl (fun h n => (expireOn a n h).value) h
    (h.getAll .setCookie = [] → applied = direct) ∧
    (∀ v, v ∈ applied.getAll .setCookie ↔ v ∈ direct.getAll .setCookie) ∧
    applied.remove .setCookie = direct.remove .setCookie ∧
    ((applied.getAll .setCookie).filter (fun v => v ∉ a.expiries names)
      = (direct.getAll .setCookie).filter fun v => v ∉ a.expiries names) ∧
    ∀ v ∈ a.expiries names, (applied.getAll .setCookie).count v = 1 ∧
      (direct.getAll .setCookie).count v = max ((h.getAll .setCookie).count v) 1 := by
  intro applied direct
  have happlied : applied = _ := value_apply_recorded a names h
  have hdirect : direct = _ := foldl_expireOn_eq a names h
  have ha := wrote_apply_recorded a names h
  have hd := wrote_foldl_expireOn a names h
  refine ⟨fun hc => ?_, fun v => ?_, ?_, ha.order.trans hd.order.symm, fun v hv =>
    ⟨ha.written v hv, hd.written v hv⟩⟩
  · have hall : (a.expiries names).eraseDups.filter (fun v => v ∉ ([] : List Http.Value))
        = (a.expiries names).eraseDups := by simp
    rw [happlied, hdirect, remove_of_getAll_eq_nil hc, hc, hall, List.filter_nil, List.append_nil]
  · by_cases hv : v ∈ a.expiries names
    · exact iff_of_true (ha.mem hv) (hd.mem hv)
    · -- what is no directive is there as often as before, both times
      rw [← List.count_pos_iff, ha.unwritten v hv, ← hd.unwritten v hv, List.count_pos_iff]
  · rw [happlied, hdirect, remove_withCookies, remove_withCookies]
    simp [Http.Headers.remove]

/-- A cookie whose name holds a directive for another one. -/
def nestedName : String := "userId=; Path=/"

/-- A field that is no cookie. -/
def plainHeaders : Http.Headers := Http.Headers.empty.append .contentType Http.Response.plainText

/-- The name is not taken for the cookie that it begins with. -/
theorem apply_recorded_of_nestedName :
    let names := [userId, nestedName, userId, "a\nb"]
    plainHeaders.getAll .setCookie = [] ∧
      ((names.foldl Pending.record {}).apply .standard plainHeaders).value
        = names.foldl (fun h n => (expireOn .standard n h).value) plainHeaders ∧
      (((names.foldl Pending.record {}).apply .standard plainHeaders).value.getAll
        .setCookie).length = 2 := by
  intro names
  have hc : plainHeaders.getAll .setCookie = [] := by decide +kernel
  exact ⟨hc, (apply_recorded_eq_expire .standard names plainHeaders).1 hc, by decide +kernel⟩

end Session.Cookie
