import Session.Cookie.Jar
import Session.Proofs.Cookie.Clearing

set_option autoImplicit false

/-! # Expiring cookies loses and repeats nothing

What one step does to the headers is told by the directives that it writes (`Wrote`): a directive
that is written directly is there at least once afterwards, one that is applied exactly once, and
all else stays as it was, in its order. So no cookie is ever lost in a run, and none gets more
frequent than it was, or than once (`Keeps`). A name without a valid directive has no part in any
of it.
-/

namespace Session.Cookie

/-! ## Names -/

namespace Attributes

variable (a : Attributes)

/-- The names whose directives may stand in a header. -/
def writable (names : List String) : List String := names.filter fun n => (a.expiry? n).isSome

/-- The other names give no directive. -/
theorem expiries_writable (names : List String) : a.expiries (a.writable names) = a.expiries names := by
  rw [expiries, writable, List.filterMap_filter]
  refine List.filterMap_congr fun n _ => ?_
  cases a.expiry? n <;> simp

theorem expiries_cons (n : String) (names : List String) :
    a.expiries (n :: names) = a.expiries [n] ++ a.expiries names := by
  rw [← List.singleton_append, expiries, List.filterMap_append]
  rfl

end Attributes

/-! ## What one step writes -/

/-- The directives `ds` are written: each is there once if they are applied, and else as often as
before, but at least once. All other cookies stay, in their order, and so do the other fields. -/
structure Wrote (ds : List Http.Value) (applied : Bool) (before after : Http.Headers) : Prop where
  other : ∀ n, n ≠ .setCookie → after.getAll n = before.getAll n
  order : ((after.getAll .setCookie).filter fun v => v ∉ ds)
    = (before.getAll .setCookie).filter fun v => v ∉ ds
  unwritten : ∀ v, v ∉ ds → (after.getAll .setCookie).count v = (before.getAll .setCookie).count v
  written : ∀ v ∈ ds, (after.getAll .setCookie).count v
    = if applied then 1 else max ((before.getAll .setCookie).count v) 1

/-- No cookie is lost, none gets more frequent than it was, or than once, and those that are none
of the directives stay in their order, as do all other fields. -/
structure Keeps (ds : List Http.Value) (before after : Http.Headers) : Prop where
  other : ∀ n, n ≠ .setCookie → after.getAll n = before.getAll n
  order : ((after.getAll .setCookie).filter fun v => v ∉ ds)
    = (before.getAll .setCookie).filter fun v => v ∉ ds
  mem : ∀ v ∈ before.getAll .setCookie, v ∈ after.getAll .setCookie
  count_le : ∀ v, (after.getAll .setCookie).count v
    ≤ max ((before.getAll .setCookie).count v) 1

section Written

variable {ds es : List Http.Value} {applied : Bool} {h h₁ h₂ h₃ : Http.Headers}

/-- What is kept in order beside some directives is so beside more of them. -/
theorem filter_eq_of_subset {l m : List Http.Value}
    (ho : (l.filter fun v => v ∉ ds) = m.filter fun v => v ∉ ds) (hsub : ∀ v ∈ ds, v ∈ es) :
    (l.filter fun v => v ∉ es) = m.filter fun v => v ∉ es := by
  have hboth : ∀ l : List Http.Value, (l.filter fun v => v ∉ es)
      = (l.filter fun v => v ∉ ds).filter fun v => v ∉ es := by
    intro l
    rw [List.filter_filter]
    refine List.filter_congr fun v _ => ?_
    by_cases hv : v ∈ ds
    · simp [hsub v hv]
    · simp [hv]
  rw [hboth l, ho, ← hboth m]

theorem count_eq_of_filter_eq {l m : List Http.Value}
    (ho : (l.filter fun v => v ∉ ds) = m.filter fun v => v ∉ ds) {v : Http.Value} (hv : v ∉ ds) :
    l.count v = m.count v := by
  have hcount : ∀ l : List Http.Value, (l.filter fun v => v ∉ ds).count v = l.count v :=
    fun l => List.count_filter (by simpa using hv)
  rw [← hcount l, ho, hcount m]

theorem Wrote.nil (applied : Bool) (h : Http.Headers) : Wrote [] applied h h where
  other _ _ := rfl
  order := rfl
  unwritten _ _ := rfl
  written _ hv := absurd hv List.not_mem_nil

/-- Directives that are written directly, one list after the other. -/
theorem Wrote.append (hd : Wrote ds false h₁ h₂) (he : Wrote es false h₂ h₃) :
    Wrote (ds ++ es) false h₁ h₃ := by
  have horder : ((h₃.getAll .setCookie).filter fun v => v ∉ ds ++ es)
      = (h₁.getAll .setCookie).filter fun v => v ∉ ds ++ es :=
    (filter_eq_of_subset he.order fun v => List.mem_append_right ds).trans
      (filter_eq_of_subset hd.order fun v => List.mem_append_left es)
  refine ⟨fun n hn => (he.other n hn).trans (hd.other n hn), horder,
    fun v => count_eq_of_filter_eq horder, fun v hv => ?_⟩
  by_cases hmem : v ∈ es
  · -- a directive of both lists is there when it is written for the second time
    by_cases hmd : v ∈ ds
    · rw [he.written v hmem, hd.written v hmd]
      simp
    · rw [he.written v hmem, hd.unwritten v hmd]
  · have hmd : v ∈ ds := (List.mem_append.1 hv).resolve_right hmem
    rw [he.unwritten v hmem, hd.written v hmd]

theorem Wrote.mem (hw : Wrote ds applied h₁ h₂) {v : Http.Value} (hv : v ∈ ds) :
    v ∈ h₂.getAll .setCookie := by
  rw [← List.count_pos_iff, hw.written v hv]
  cases applied <;> simp

/-- Where nothing is written, every name has the values that it had. -/
theorem Wrote.getAll_eq_of_nil (hw : Wrote [] applied h₁ h₂) (n : Http.Name) :
    h₂.getAll n = h₁.getAll n := by
  by_cases hn : n = .setCookie
  · have hall : ∀ l : List Http.Value, (l.filter fun v => v ∉ ([] : List Http.Value)) = l :=
      fun l => by simp
    rw [hn, ← hall (h₂.getAll .setCookie), hw.order, hall]
  · exact hw.other n hn

theorem Wrote.keeps (hw : Wrote ds applied h₁ h₂) : Keeps ds h₁ h₂ := by
  refine ⟨hw.other, hw.order, fun v hv => ?_, fun v => ?_⟩
  · by_cases hmem : v ∈ ds
    · exact hw.mem hmem
    · rw [← List.count_pos_iff, hw.unwritten v hmem, List.count_pos_iff]
      exact hv
  · by_cases hmem : v ∈ ds
    · rw [hw.written v hmem]
      cases applied <;> simp
    · rw [hw.unwritten v hmem]
      exact Nat.le_max_left _ _

theorem Keeps.refl (ds : List Http.Value) (h : Http.Headers) : Keeps ds h h where
  other _ _ := rfl
  order := rfl
  mem _ hv := hv
  count_le _ := Nat.le_max_left _ _

theorem Keeps.mono (hk : Keeps ds h₁ h₂) (hsub : ∀ v ∈ ds, v ∈ es) : Keeps es h₁ h₂ :=
  ⟨hk.other, filter_eq_of_subset hk.order hsub, hk.mem, hk.count_le⟩

theorem Keeps.trans (h₁₂ : Keeps ds h₁ h₂) (h₂₃ : Keeps ds h₂ h₃) : Keeps ds h₁ h₃ := by
  refine ⟨fun n hn => (h₂₃.other n hn).trans (h₁₂.other n hn), h₂₃.order.trans h₁₂.order,
    fun v hv => h₂₃.mem v (h₁₂.mem v hv), fun v => ?_⟩
  have hfirst := h₁₂.count_le v
  have hthen := h₂₃.count_le v
  omega

end Written

/-! ## Writing directly -/

section Direct

variable {h : Http.Headers}

theorem wrote_writeOnce (h : Http.Headers) (v : Http.Value) :
    Wrote [v] false h (writeOnce h v) := by
  by_cases hv : v ∈ h.getAll .setCookie
  · have hsame : writeOnce h v = h := if_pos hv
    have hpos : 0 < (h.getAll .setCookie).count v := List.count_pos_iff.2 hv
    -- nothing is written, and there is at least one of it
    rw [hsame]
    refine ⟨fun _ _ => rfl, rfl, fun _ _ => rfl, fun w hw => ?_⟩
    rw [List.mem_singleton.1 hw]
    simp only [Bool.false_eq_true, if_false]
    omega
  · have hnew : writeOnce h v = withCookies h [v] := if_neg hv
    have hget := getAll_withCookies h [v]
    have hzero : (h.getAll .setCookie).count v = 0 := List.count_eq_zero.2 hv
    rw [hnew]
    refine ⟨fun n hn => getAll_withCookies_of_ne h [v] hn, ?_, fun w hw => ?_, fun w hw => ?_⟩
    · rw [hget, List.filter_append]
      simp
    · have hone : [v].count w = 0 := List.count_eq_zero.2 hw
      rw [hget, List.count_append, hone, Nat.add_zero]
    · rw [List.mem_singleton.1 hw, hget, List.count_append, hzero, List.count_singleton_self]
      rfl

theorem wrote_foldl_writeOnce (vs : List Http.Value) (h : Http.Headers) :
    Wrote vs false h (vs.foldl writeOnce h) := by
  induction vs generalizing h with
  | nil => exact Wrote.nil false h
  | cons v vs ih => exact (wrote_writeOnce h v).append (ih (writeOnce h v))

/-- Directives that are there already are not written. -/
theorem foldl_writeOnce_eq_self {vs : List Http.Value} (hmem : ∀ v ∈ vs, v ∈ h.getAll .setCookie) :
    vs.foldl writeOnce h = h := by
  induction vs with
  | nil => rfl
  | cons v vs ih =>
      have hsame : writeOnce h v = h := if_pos (hmem v List.mem_cons_self)
      rw [List.foldl_cons, hsame, ih fun w hw => hmem w (List.mem_cons_of_mem v hw)]

/-- Writing the same directives again changes nothing. -/
theorem foldl_writeOnce_foldl_writeOnce (vs : List Http.Value) (h : Http.Headers) :
    vs.foldl writeOnce (vs.foldl writeOnce h) = vs.foldl writeOnce h :=
  foldl_writeOnce_eq_self fun _ hv => (wrote_foldl_writeOnce vs h).mem hv

variable (a : Attributes)

theorem value_expireOn (name : String) (h : Http.Headers) :
    (expireOn a name h).value = (a.expiries [name]).foldl writeOnce h := by
  rw [expireOn]

theorem foldl_expireOn (names : List String) (h : Http.Headers) :
    names.foldl (fun h n => (expireOn a n h).value) h = (a.expiries names).foldl writeOnce h := by
  induction names generalizing h with
  | nil => rfl
  | cons n names ih =>
      rw [List.foldl_cons, ih, value_expireOn, a.expiries_cons n names, List.foldl_append]

theorem value_clearOn (h : Http.Headers) :
    (clearOn a h).value = (a.expiries userCookies).foldl writeOnce h := by
  have hsteps : (clearOn a h).value
      = userCookies.foldl (fun h n => (expireOn a n h).value) h := by
    simp [clearOn, clearUserCookies, userCookies]
  rw [hsteps, foldl_expireOn]

end Direct

/-! ## Applying -/

namespace Pending

variable {a : Attributes} {p : Pending}

theorem wrote_apply (hn : (a.expiries p.names).Nodup) (h : Http.Headers) :
    Wrote (a.expiries p.names) true h (p.apply a h).value := by
  have hheads := heads_apply hn h
  have horder : (((p.apply a h).value.getAll .setCookie).filter fun v => v ∉ a.expiries p.names)
      = (h.getAll .setCookie).filter fun v => v ∉ a.expiries p.names := by
    have hnone : ((a.expiries p.names).filter fun v => v ∉ a.expiries p.names) = [] := by
      simp [List.filter_eq_nil_iff]
    rw [hheads.setCookie, List.filter_append, hnone, List.nil_append, List.filter_filter]
    simp
  exact ⟨hheads.other, horder, fun v => count_eq_of_filter_eq horder,
    fun v hv => hheads.count_eq_one hn hv⟩

/-- Names without a directive have no part in it. -/
theorem apply_writable (p : Pending) (a : Attributes) (h : Http.Headers) :
    ((⟨a.writable p.names⟩ : Pending).apply a h).value = (p.apply a h).value := by
  show Traced.value ⟨_, _⟩ = Traced.value ⟨_, _⟩
  dsimp only
  rw [a.expiries_writable]

theorem remove_apply (hn : (a.expiries p.names).Nodup) (h : Http.Headers) :
    ((p.apply a h).value).remove .setCookie = h.remove .setCookie := by
  rw [apply_eq hn, remove_withCookies]
  simp [Http.Headers.remove]

/-- Applying the same names again changes nothing. -/
theorem apply_apply (hn : (a.expiries p.names).Nodup) (h : Http.Headers) :
    (p.apply a (p.apply a h).value).value = (p.apply a h).value := by
  -- both times the cookies behind the directives are the same ones
  rw [apply_eq hn (p.apply a h).value, remove_apply hn, (wrote_apply hn h).order, apply_eq hn h]

/-- Nor does applying no name after them. -/
theorem empty_apply_apply (hn : (a.expiries p.names).Nodup) (h : Http.Headers) :
    (({} : Pending).apply a (p.apply a h).value).value = (p.apply a h).value := by
  have hnone : a.expiries ({} : Pending).names = [] := rfl
  have hown : ((p.apply a h).value.getAll .setCookie).filter (fun v => v ∉ ([] : List Http.Value))
      = (p.apply a h).value.getAll .setCookie := by simp
  -- the names are others, so `apply_apply` says nothing; the cookies are taken out and put back
  rw [apply_eq (by rw [hnone]; exact List.nodup_nil), hnone, hown, remove_apply hn,
    getAll_apply hn, apply_eq hn h, List.nil_append]

end Pending

/-! ## Recording -/

namespace Pending

/-- What is recorded grows by one name, unless the name is there. -/
theorem names_record {p : Pending} {names : List String} (hp : p.names = names.eraseDups)
    (name : String) : (p.record name).names = (names ++ [name]).eraseDups := by
  rw [eraseDups_append_singleton, record, hp]
  by_cases hmem : name ∈ names
  · rw [if_pos hmem, if_pos (List.mem_eraseDups.2 hmem), hp]
  · rw [if_neg hmem, if_neg fun h => hmem (List.mem_eraseDups.1 h)]

theorem names_clear {p : Pending} {names : List String} (hp : p.names = names.eraseDups) :
    (p.clear fun _ => ()).2.names = (names ++ userCookies).eraseDups := by
  have hsteps : (p.clear fun _ => ()).2 = (p.record userId).record userPicture := rfl
  have huser : names ++ userCookies = names ++ [userId] ++ [userPicture] := by
    simp [userCookies]
  rw [hsteps, huser]
  exact names_record (names_record hp userId) userPicture

end Pending

/-! ## Runs -/

namespace Step

/-- The directives that a step writes, when these names are recorded. -/
def directives (recorded : List String) : Step → List Http.Value
  | .expire a name => a.expiries [name]
  | .clear a => a.expiries userCookies
  | .record _ => []
  | .recordUser => []
  | .apply a => a.expiries recorded
  | .flush a => a.expiries recorded

def isApplied : Step → Bool
  | .apply _ => true
  | .flush _ => true
  | _ => false

/-- What is recorded in a row once the step is taken, repetitions included. -/
def recordedAfter (recorded : List String) : Step → List String
  | .record name => recorded ++ [name]
  | .recordUser => recorded ++ userCookies
  | .flush _ => []
  | _ => recorded

end Step

namespace Jar

/-- The names that were recorded since the last ones were forgotten, repetitions included. -/
def recorded (steps : List Step) : List String := steps.foldl Step.recordedAfter []

/-- All directives that a run writes. -/
def written (jar : Jar) : List Step → List Http.Value
  | [] => []
  | s :: steps => s.directives jar.pending.names ++ (jar.step s).value.written steps

variable {jar : Jar}

theorem headers_step_expire (jar : Jar) (a : Attributes) (name : String) :
    (jar.step (.expire a name)).value.headers = (a.expiries [name]).foldl writeOnce jar.headers := by
  rw [step, Traced.value_bind, Traced.value_pure, value_expireOn]

theorem headers_step_clear (jar : Jar) (a : Attributes) :
    (jar.step (.clear a)).value.headers = (a.expiries userCookies).foldl writeOnce jar.headers := by
  rw [step, Traced.value_bind, Traced.value_pure, value_clearOn]

theorem step_names {names : List String} (hp : jar.pending.names = names.eraseDups) (s : Step) :
    (jar.step s).value.pending.names = (s.recordedAfter names).eraseDups := by
  cases s with
  | record name => exact Pending.names_record hp name
  | recordUser => exact Pending.names_clear hp
  | flush a => exact List.eraseDups_nil.symm
  | expire a name => exact hp
  | clear a => exact hp
  | apply a => exact hp

/-- **One step** writes its directives. -/
theorem step_wrote (hn : jar.pending.names.Nodup) (s : Step) :
    Wrote (s.directives jar.pending.names) s.isApplied jar.headers (jar.step s).value.headers := by
  cases s with
  | expire a name =>
      rw [headers_step_expire]
      exact wrote_foldl_writeOnce (a.expiries [name]) jar.headers
  | clear a =>
      rw [headers_step_clear]
      exact wrote_foldl_writeOnce (a.expiries userCookies) jar.headers
  | record name => exact Wrote.nil false jar.headers
  | recordUser => exact Wrote.nil false jar.headers
  | apply a => exact Pending.wrote_apply (Attributes.nodup_expiries hn) _
  | flush a => exact Pending.wrote_apply (Attributes.nodup_expiries hn) _

/-- **A step taken twice** changes the headers once. -/
theorem step_step (hn : jar.pending.names.Nodup) (s : Step) :
    ((jar.step s).value.step s).value.headers = (jar.step s).value.headers := by
  cases s with
  | expire a name =>
      rw [headers_step_expire, headers_step_expire, foldl_writeOnce_foldl_writeOnce]
  | clear a =>
      rw [headers_step_clear, headers_step_clear, foldl_writeOnce_foldl_writeOnce]
  | record name => rfl
  | recordUser => rfl
  | apply a => exact Pending.apply_apply (Attributes.nodup_expiries hn) _
  | flush a => exact Pending.empty_apply_apply (Attributes.nodup_expiries hn) _

/-- What a run records, and that it keeps the cookies. -/
theorem run_keeps {names : List String} (hp : jar.pending.names = names.eraseDups)
    (steps : List Step) :
    (jar.run steps).value.pending.names = (steps.foldl Step.recordedAfter names).eraseDups ∧
      Keeps (jar.written steps) jar.headers (jar.run steps).value.headers := by
  -- what a later step writes depends on what is recorded by then, so the names go along
  induction steps generalizing jar names with
  | nil => exact ⟨hp, Keeps.refl _ _⟩
  | cons s steps ih =>
      have hn : jar.pending.names.Nodup := hp ▸ nodup_eraseDups names
      obtain ⟨hnames, hkeeps⟩ := ih (step_names hp s)
      refine ⟨hnames, ?_⟩
      exact ((step_wrote hn s).keeps.mono fun v => List.mem_append_left _).trans
        (hkeeps.mono fun v => List.mem_append_right _)

/-- **Expiring cookies loses and repeats nothing**, in no run. The names that are recorded are all
different, in the order of their first recording, and the run keeps the cookies. So does every
step: a directive that it writes directly is there at least once afterwards, one that it applies
just once, and all else stays; where it writes none, the map stays the same, and taking the step
again changes nothing. Names without a valid directive have no part in it. -/
theorem run_loses_nothing (h : Http.Headers) (steps : List Step) :
    let start : Jar := { headers := h }
    let jar := (start.run steps).value
    (jar.pending.names.Nodup ∧ jar.pending.names = (recorded steps).eraseDups) ∧
    Keeps (start.written steps) h jar.headers ∧
    (∀ s : Step,
      let next := (jar.step s).value
      Wrote (s.directives jar.pending.names) s.isApplied jar.headers next.headers ∧
      (s.directives jar.pending.names = [] →
        ∀ n, next.headers.getAll n = jar.headers.getAll n) ∧
      (next.step s).value.headers = next.headers) ∧
    ∀ a : Attributes,
      (∀ name, a.expiry? name = none →
        (jar.step (.expire a name)).value.headers = jar.headers) ∧
      (jar.step (.clear a)).value.headers
        = (a.writable userCookies).foldl (fun h n => (expireOn a n h).value) jar.headers ∧
      (jar.step (.apply a)).value.headers
        = ((⟨a.writable jar.pending.names⟩ : Pending).apply a jar.headers).value := by
  have hempty : (⟨h, {}⟩ : Jar).pending.names = ([] : List String).eraseDups :=
    List.eraseDups_nil.symm
  obtain ⟨hnames, hkeeps⟩ := run_keeps hempty steps
  have hn : ((⟨h, {}⟩ : Jar).run steps).value.pending.names.Nodup :=
    hnames ▸ nodup_eraseDups (recorded steps)
  refine ⟨⟨hn, hnames⟩, hkeeps, fun s => ⟨step_wrote hn s, fun hnil => ?_, step_step hn s⟩,
    fun a => ⟨fun name hbad => ?_, ?_, ?_⟩⟩
  · -- a step that writes no directive has written nothing at all
    have hw := step_wrote hn s
    rw [hnil] at hw
    exact hw.getAll_eq_of_nil
  · have hnone : a.expiries [name] = [] := List.filterMap_cons_none hbad
    rw [headers_step_expire, hnone, List.foldl_nil]
  · rw [headers_step_clear, foldl_expireOn, a.expiries_writable]
  · exact (Pending.apply_writable _ a _).symm

end Jar

end Session.Cookie
