import Session.Proofs.Cookie.Clearing
import Session.Proofs.Cookie.LastWord

set_option autoImplicit false

/-! # What is counted as signing out

A layer counts every response that it has cleared, and logs that the user cookies have expired,
without looking at what it has written. What it writes depends on its attributes: if they cannot
stand in a header it writes nothing, and otherwise a directive for either cookie
(`Attributes.CanExpire`). So the count of a stack is its height times the number of its responses,
which need not be the number of those that sign out (`clearingAll_counts_truly_iff`).
-/

namespace Session.Cookie

/-! ## Responses that sign out -/

/-- The value takes the cookie of the name its value, and leaves it no time. -/
def isExpiry (name : String) (v : Http.Value) : Bool :=
  match Directive.read? (textOf v.bytes).toList with
  | some d => d.name = name.toList && d.value = [] && d.maxAge = some 0 && d.expires = some 0
  | none => false

/-- The headers expire both user cookies. -/
def signsOut (h : Http.Headers) : Bool :=
  userCookies.all fun name => (h.getAll .setCookie).any (isExpiry name)

/-- The directives for the user cookies may stand in a header. -/
def Attributes.CanExpire (a : Attributes) : Prop :=
  ∀ name ∈ userCookies, (a.expiry? name).isSome = true

instance (a : Attributes) : Decidable a.CanExpire := inferInstanceAs (Decidable (∀ _ ∈ _, _))

section SigningOut

variable {a : Attributes} {name : String} {v : Http.Value} {h : Http.Headers}

/-- What expires a cookie reads so, whatever the attributes are. -/
theorem isExpiry_of_expiry? (hn : name ∈ userCookies) (hv : a.expiry? name = some v) :
    isExpiry name v = true := by
  obtain ⟨d, hd, hname, hvalue, hmaxAge, hexpires⟩ :=
    a.read?_directive_expires (isName_of_mem_userCookies hn)
  rw [isExpiry, Attributes.expiry?_eq_some_iff.1 hv, textOf_utf8, hd]
  simp [hname, hvalue, hmaxAge, hexpires]

/-- Of the user cookies either both can be expired or none. -/
theorem Attributes.canExpire_iff (hn : name ∈ userCookies) :
    a.CanExpire ↔ (a.expiry? name).isSome = true := by
  have hparts : ∀ n ∈ userCookies, (a.expiry? n).isSome = a.parts.all Attributes.isWritable := by
    intro n hn
    rw [a.isSome_expiry?, Attributes.isWritable_of_mem_userCookies hn, Bool.true_and]
  refine ⟨fun h => h name hn, fun h n hm => ?_⟩
  rw [hparts n hm, ← hparts name hn, h]

theorem Attributes.canExpire_of_isWellFormed (ha : a.isWellFormed = true) : a.CanExpire :=
  fun _ hn => isSome_expiry?_of_isWellFormed ha (isControl_of_mem_userCookies hn)

/-- Attributes that cannot stand in a header write nothing. -/
theorem stacked_eq_nil {layers : List Attributes} (hl : ¬ ∃ a ∈ layers, a.CanExpire) :
    stacked layers = [] := by
  rw [List.eq_nil_iff_forall_not_mem]
  intro v hv
  obtain ⟨a, ha, n, hn, hbytes⟩ := (mem_stacked_iff layers v).1 hv
  refine hl ⟨a, ha, (Attributes.canExpire_iff hn).2 ?_⟩
  rw [Attributes.expiry?_eq_some_iff.2 hbytes, Option.isSome_some]

/-- A cookie behind a stack is a directive of a layer, or was there before. -/
theorem mem_getAll_clearedHeaders (layers : List Attributes) (h : Http.Headers) (v : Http.Value) :
    v ∈ (clearedHeaders layers h).getAll .setCookie
      ↔ v ∈ stacked layers ∨ v ∈ h.getAll .setCookie := by
  rw [(heads_clearedHeaders layers h).setCookie, List.mem_append, List.mem_filter]
  by_cases hv : v ∈ stacked layers <;> simp [hv]

theorem signsOut_iff : signsOut h = true
    ↔ ∀ n ∈ userCookies, ∃ v ∈ h.getAll .setCookie, isExpiry n v = true := by
  simp only [signsOut, List.all_eq_true, List.any_eq_true]

/-- **What is cleared signs out** if a layer can write its directives, or if it did so before. -/
theorem signsOut_clearedHeaders (layers : List Attributes) (h : Http.Headers) :
    signsOut (clearedHeaders layers h) = true
      ↔ (∃ a ∈ layers, a.CanExpire) ∨ signsOut h = true := by
  simp only [signsOut_iff, mem_getAll_clearedHeaders]
  constructor
  · intro hout
    refine or_iff_not_imp_left.2 fun hl n hn => ?_
    simpa [stacked_eq_nil hl] using hout n hn
  · rintro (⟨a, ha, hcan⟩ | hout) n hn
    · obtain ⟨v, hv⟩ := Option.isSome_iff_exists.1 (hcan n hn)
      exact ⟨v, Or.inl ((mem_stacked_iff layers v).2
        ⟨a, ha, n, hn, Attributes.expiry?_eq_some_iff.1 hv⟩), isExpiry_of_expiry? hn hv⟩
    · obtain ⟨v, hv, hexpiry⟩ := hout n hn
      exact ⟨v, Or.inr hv, hexpiry⟩

end SigningOut

/-! ## Calls -/

/-- What a service has done when it was called. -/
abbrev Call (σ ε : Type) := Traced (Except ε Http.Response × σ)

namespace Call

variable {σ ε : Type}

def reply? (c : Call σ ε) : Option Http.Response := c.value.1.toOption

def counted (c : Call σ ε) : Nat := c.journal.counters.cookiesCleared

/-- How often it was logged that the cookies have expired. -/
def logged (c : Call σ ε) : Nat :=
  c.journal.events.countP fun e => match e with
    | .cookiesExpired _ _ => true
    | _ => false

/-- The call as it comes out of a stack. -/
def cleared (layers : List Attributes) (c : Call σ ε) : Call σ ε :=
  match c.value.1 with
  | .error _ => c
  | .ok response =>
    ⟨(.ok { response with headers := clearedHeaders layers response.headers }, c.value.2),
      layers.foldl (fun j a => j ++ clearingNotes a response.status) c.journal⟩

variable (layers : List Attributes) (c : Call σ ε)

theorem state_cleared : (c.cleared layers).value.2 = c.value.2 := by
  rcases c with ⟨⟨_ | _, _⟩, _⟩ <;> rfl

theorem reply?_cleared : (c.cleared layers).reply? = c.reply?.map fun response =>
    { response with headers := clearedHeaders layers response.headers } := by
  rcases c with ⟨⟨_ | _, _⟩, _⟩ <;> rfl

/-- Every layer counts once and logs once, whatever it has written. -/
theorem notes_foldl (status : Http.Status) (state : Except ε Http.Response × σ) (j : Journal) :
    let after : Call σ ε := ⟨state, layers.foldl (fun j a => j ++ clearingNotes a status) j⟩
    after.counted = counted ⟨state, j⟩ + layers.length ∧
      after.logged = logged ⟨state, j⟩ + layers.length := by
  induction layers generalizing j with
  | nil => exact ⟨rfl, rfl⟩
  | cons a layers ih =>
      have hone : counted ⟨state, j ++ clearingNotes a status⟩ = counted ⟨state, j⟩ + 1 := rfl
      have hlog : logged ⟨state, j ++ clearingNotes a status⟩ = logged ⟨state, j⟩ + 1 := by
        simp [logged, clearingNotes, Attributes.warnings, Journal.count, Journal.log,
          List.countP_append, List.countP_map, Function.comp_def]
      obtain ⟨hcounted, hlogged⟩ := ih (j ++ clearingNotes a status)
      rw [List.foldl_cons, List.length_cons]
      exact ⟨by omega, by omega⟩

/-- **A response is counted and logged once for each layer**, and a failure is not. -/
theorem notes_cleared : let times := c.reply?.elim 0 fun _ => layers.length
    (c.cleared layers).counted = c.counted + times ∧
      (c.cleared layers).logged = c.logged + times := by
  rcases c with ⟨⟨_ | response, state⟩, journal⟩
  · exact ⟨rfl, rfl⟩
  · exact notes_foldl layers response.status _ journal

end Call

variable {ρ σ ε : Type}

/-- What a service does with requests, one after the other. -/
def calls (service : Service ρ σ ε) : List ρ → σ → List (Call σ ε)
  | [], _ => []
  | request :: requests, state =>
    service request state :: calls service requests (service request state).value.2

theorem clearingAll_eq_cleared (layers : List Attributes) (inner : Service ρ σ ε) (request : ρ)
    (state : σ) :
    clearingAll layers inner request state = Call.cleared layers (inner request state) := by
  rcases hi : inner request state with ⟨⟨result, after⟩, journal⟩
  cases result with
  | error e => exact clearingAll_of_error layers hi
  | ok response => exact clearingAll_of_ok layers hi

/-- Each call comes out of a stack on its own. -/
theorem calls_clearingAll (layers : List Attributes) (inner : Service ρ σ ε) (requests : List ρ)
    (state : σ) : calls (clearingAll layers inner) requests state
      = (calls inner requests state).map (Call.cleared layers) := by
  induction requests generalizing state with
  | nil => rfl
  | cons request requests ih =>
      rw [calls, clearingAll_eq_cleared, Call.state_cleared, ih, calls, List.map_cons]

/-! ## Counting -/

def replies (cs : List (Call σ ε)) : List Http.Response := cs.filterMap Call.reply?

def clearedTotal (cs : List (Call σ ε)) : Nat := (cs.map Call.counted).sum

/-- The number of responses that sign out. -/
def signOuts (cs : List (Call σ ε)) : Nat := (replies cs).countP fun r => signsOut r.headers

/-- What a stack counts beside what is counted inside of it is what signs out. -/
def CountsTruly (inside outside : List (Call σ ε)) : Prop :=
  clearedTotal outside = clearedTotal inside + signOuts outside

instance (inside outside : List (Call σ ε)) : Decidable (CountsTruly inside outside) :=
  inferInstanceAs (Decidable (_ = _))

/-- Where a stack logs that the cookies have expired, beside what is logged inside of it, the
response signs out. -/
def LogsTruly (inside outside : List (Call σ ε)) : Prop :=
  List.Forall₂ (fun i o => i.logged < o.logged →
    ∃ response, o.reply? = some response ∧ signsOut response.headers = true) inside outside

section Counting

variable (layers : List Attributes) (cs : List (Call σ ε))

theorem replies_cleared : replies (cs.map (Call.cleared layers)) = (replies cs).map fun response =>
    { response with headers := clearedHeaders layers response.headers } := by
  rw [replies, replies, List.filterMap_map, List.map_filterMap]
  exact List.filterMap_congr fun c _ => c.reply?_cleared layers

theorem clearedTotal_cleared : clearedTotal (cs.map (Call.cleared layers))
    = clearedTotal cs + layers.length * (replies cs).length := by
  induction cs with
  | nil => rfl
  | cons c cs ih =>
      have hone := (c.notes_cleared layers).1
      simp only [clearedTotal, replies, List.map_cons, List.sum_cons] at ih ⊢
      rw [ih, hone]
      cases hc : c.reply? with
      | none => rw [List.filterMap_cons_none hc, Option.elim_none]; omega
      | some r =>
          rw [List.filterMap_cons_some hc, Option.elim_some, List.length_cons, Nat.mul_succ]
          omega

theorem signOuts_cleared : signOuts (cs.map (Call.cleared layers))
    = if ∃ a ∈ layers, a.CanExpire then (replies cs).length else signOuts cs := by
  rw [signOuts, replies_cleared, List.countP_map]
  by_cases hl : ∃ a ∈ layers, a.CanExpire
  · rw [if_pos hl, List.countP_eq_length]
    exact fun r _ => (signsOut_clearedHeaders layers r.headers).2 (Or.inl hl)
  · rw [if_neg hl, signOuts]
    refine List.countP_congr fun r _ => ?_
    show signsOut (clearedHeaders layers r.headers) = true ↔ _
    rw [signsOut_clearedHeaders, or_iff_right hl]

/-- Elements that are counted so often each are all counted or none. -/
theorem mul_length_eq_countP_iff {α : Type} (k : Nat) (p : α → Bool) (l : List α) :
    k * l.length = l.countP p ↔ ∀ x ∈ l, k = if p x = true then 1 else 0 := by
  have hle : l.countP p ≤ l.length := List.countP_le_length
  match k with
  | 0 =>
      rw [Nat.zero_mul, eq_comm, List.countP_eq_zero]
      exact forall₂_congr fun x _ => by split <;> simp_all
  | 1 =>
      rw [Nat.one_mul, eq_comm, List.countP_eq_length]
      exact forall₂_congr fun x _ => by split <;> simp_all
  | k + 2 =>
      -- so often none can be counted, so there are none
      have hnone : (k + 2) * l.length = l.countP p ↔ l = [] := by
        rw [← List.length_eq_zero_iff]
        constructor
        · intro heq
          have : 2 * l.length ≤ (k + 2) * l.length := Nat.mul_le_mul_right _ (by omega)
          omega
        · intro hzero
          rw [hzero] at hle ⊢
          omega
      rw [hnone, List.eq_nil_iff_forall_not_mem]
      exact forall₂_congr fun x _ => by split <;> simp_all

/-- A call is logged truly if no layer logs it, or if its response signs out. -/
theorem logged_cleared_iff (c : Call σ ε) :
    (c.logged < (c.cleared layers).logged → ∃ response,
        (c.cleared layers).reply? = some response ∧ signsOut response.headers = true)
      ↔ layers = [] ∨ ∀ r, (c.cleared layers).reply? = some r → signsOut r.headers = true := by
  rw [(c.notes_cleared layers).2, c.reply?_cleared]
  cases c.reply? with
  | none => simp
  | some response =>
      rw [Option.elim_some, Option.map_some, Nat.lt_add_right_iff_pos, List.length_pos_iff]
      simp only [Option.some.injEq, exists_eq_left', forall_eq']
      exact Decidable.imp_iff_not_or.trans (or_congr_left not_not)

theorem logsTruly_cleared_iff : LogsTruly cs (cs.map (Call.cleared layers))
    ↔ layers = [] ∨ ∀ r ∈ replies (cs.map (Call.cleared layers)), signsOut r.headers = true := by
  simp only [LogsTruly, List.forall₂_map_right_iff, List.forall₂_same, logged_cleared_iff,
    replies, List.mem_filterMap, List.mem_map]
  constructor
  · intro hall
    refine or_iff_not_imp_left.2 fun hl => ?_
    rintro r ⟨_, ⟨c, hc, rfl⟩, hr⟩
    exact (hall c hc).resolve_left hl r hr
  · rintro (hl | hall) c hc
    · exact Or.inl hl
    · exact Or.inr fun r hr => hall r ⟨_, ⟨c, hc, rfl⟩, hr⟩

end Counting

/-- **When the counter and the log of a stack tell the truth.** A stack answers as often as the
service inside, and its height is counted for each response. All its responses sign out if a layer
can write its directives; if none can, those do that did so inside. So the counter is right if each
response was counted as often as it signs out, that is once or never, and the log is right if all
responses sign out, or if there is no layer. -/
theorem clearingAll_counts_truly_iff (layers : List Attributes) (inner : Service ρ σ ε)
    (requests : List ρ) (state : σ) :
    let inside := calls inner requests state
    let outside := calls (clearingAll layers inner) requests state
    (replies outside).length = (replies inside).length ∧
    clearedTotal outside = clearedTotal inside + layers.length * (replies outside).length ∧
    signOuts outside = (if ∃ a ∈ layers, a.CanExpire then (replies outside).length
      else signOuts inside) ∧
    (CountsTruly inside outside
      ↔ ∀ r ∈ replies outside, layers.length = if signsOut r.headers = true then 1 else 0) ∧
    (LogsTruly inside outside
      ↔ layers = [] ∨ ∀ r ∈ replies outside, signsOut r.headers = true) := by
  intro inside outside
  have hout : outside = inside.map (Call.cleared layers) :=
    calls_clearingAll layers inner requests state
  have hlength : (replies outside).length = (replies inside).length := by
    rw [hout, replies_cleared, List.length_map]
  have htotal : clearedTotal outside
      = clearedTotal inside + layers.length * (replies outside).length := by
    rw [hlength, hout, clearedTotal_cleared]
  refine ⟨hlength, htotal, ?_, ?_, ?_⟩
  · rw [hlength, hout, signOuts_cleared]
  · rw [CountsTruly, htotal, Nat.add_left_cancel_iff, signOuts, mul_length_eq_countP_iff]
  · rw [hout, logsTruly_cleared_iff]

/-- Attributes with a path that cannot stand in a header. -/
def twoLines : Attributes := ⟨"/\nbad", none⟩

/-- **Neither tells the truth of every stack.** A layer that can write nothing counts and logs a
response that does not sign out, and two layers that can count a response twice. -/
theorem clearingAll_miscounts :
    (¬ twoLines.CanExpire ∧
      let inside := calls (answering []) [()] ()
      let outside := calls (clearingAll [twoLines] (answering [])) [()] ()
      clearedTotal outside = 1 ∧ signOuts outside = 0 ∧ ¬ CountsTruly inside outside ∧
        ¬ LogsTruly inside outside) ∧
    (Attributes.standard.CanExpire ∧
      let inside := calls (answering []) [()] ()
      let outside := calls (clearingAll [.standard, .standard] (answering [])) [()] ()
      clearedTotal outside = 2 ∧ signOuts outside = 1 ∧ ¬ CountsTruly inside outside) := by
  have hlog : ¬ LogsTruly (calls (answering []) [()] ())
      (calls (clearingAll [twoLines] (answering [])) [()] ()) := by
    rw [calls_clearingAll, logsTruly_cleared_iff]
    decide +kernel
  have hcan : Attributes.standard.CanExpire :=
    Attributes.canExpire_of_isWellFormed isWellFormed_standard
  exact ⟨⟨by decide +kernel, by decide +kernel, by decide +kernel, by decide +kernel, hlog⟩, hcan,
    by decide +kernel, by decide +kernel, by decide +kernel⟩

end Session.Cookie
