import Session.Config.Parser
import Session.Proofs.Config.Fitting

set_option autoImplicit false

/-! # What a document makes of the standard configuration

Nine fields of a document are known. The configuration `laid es` takes every known field from the
document if it is there, and from the standard configuration otherwise. The file shows that reading
a document gives this configuration, whatever the order of the document is and whatever else stands
in it, unless a known field has a value that does not fit.
-/

namespace Session.Config

open Toml (Node Entries Scalar)

/-! ## The known fields -/

/-- A field, and what it takes. -/
structure Known where
  heading : String
  name : String
  kind : Kind
deriving DecidableEq, Repr

/-- All fields that mean something. -/
def known : List Known :=
  [⟨"listener", "bind_address", .text⟩,
   ⟨"limits", "max_body_bytes", .number⟩,
   ⟨"limits", "request_timeout_secs", .number⟩,
   ⟨"cookies", "path", .text⟩,
   ⟨"cookies", "domain", .text⟩,
   ⟨"observability", "log_level", .text⟩,
   ⟨"observability", "json_logs", .flag⟩,
   ⟨"observability", "metrics_enabled", .flag⟩,
   ⟨"observability", "metrics_address", .text⟩]

/-- The places of a section are those of its known fields, and take the same. -/
structure Suits {σ : Type} (heading : String) (settings : List (Setting σ)) : Prop where
  nodup : (settings.map Setting.name).Nodup
  names : ∀ f ∈ known, f.heading = heading → f.name ∈ settings.map Setting.name
  takes : ∀ u ∈ settings, ∀ n : Node, n.IsProper → ∀ s, (∃ s', u.put n s = .ok s')
    ↔ ∀ f ∈ known, f.heading = heading → f.name = u.name → f.kind.Takes n

theorem suits_listener : Suits "listener" Listener.settings where
  nodup := by decide
  names := by decide
  takes u hu n _ l := by
    rw [List.mem_singleton.1 hu]
    refine exists_ok_bind_pure_iff.trans (exists_ok_fitText_iff.trans ?_)
    simp [known]

theorem suits_limits : Suits "limits" Limits.settings where
  nodup := by decide
  names := by decide
  takes u hu n hp l := by
    rcases List.mem_pair.1 hu with rfl | rfl
    all_goals
      refine exists_ok_bind_pure_iff.trans ((exists_ok_fitNumber_iff hp).trans ?_)
      simp [known]

theorem suits_cookies : Suits "cookies" cookieSettings where
  nodup := by decide
  names := by decide
  takes u hu n _ a := by
    rcases List.mem_pair.1 hu with rfl | rfl
    all_goals
      refine exists_ok_bind_pure_iff.trans (exists_ok_fitText_iff.trans ?_)
      simp [known]

theorem suits_observability : Suits "observability" Observability.settings where
  nodup := by decide
  names := by decide
  takes u hu n _ o := by
    simp only [Observability.settings, List.mem_cons, List.not_mem_nil, or_false] at hu
    rcases hu with rfl | rfl | rfl | rfl
    · refine exists_ok_bind_pure_iff.trans (exists_ok_fitText_iff.trans ?_)
      simp [known]
    · refine exists_ok_bind_pure_iff.trans (exists_ok_fitFlag_iff.trans ?_)
      simp [known]
    · refine exists_ok_bind_pure_iff.trans (exists_ok_fitFlag_iff.trans ?_)
      simp [known]
    · refine exists_ok_bind_pure_iff.trans (exists_ok_fitText_iff.trans ?_)
      simp [known]

variable {es : Entries}

/-- The entries of a section fit exactly if its known fields do. -/
theorem Suits.exists_ok_iff {σ : Type} {heading : String} {settings : List (Setting σ)}
    (hs : Suits heading settings) (hp : es.IsProper) (s : σ) :
    (∃ s', putEntries settings es s = .ok s') ↔
      ∀ f ∈ known, f.heading = heading → ∀ n, es.find? f.name = some n → f.kind.Takes n := by
  rw [exists_ok_putEntries_iff (P := fun u n => ∀ f ∈ known, f.heading = heading →
    f.name = u.name → f.kind.Takes n)
    (fun e he u hu _ => hs.takes u hu e.2 (hp.proper e he)) hs.nodup]
  constructor
  · intro h f hf hheading n hn
    obtain ⟨u, hu, hname⟩ := List.mem_map.1 (hs.names f hf hheading)
    exact h (f.name, n) (Entries.mem_of_find? hn) u hu hname f hf hheading hname.symm
  · intro h e he u _ hname f hf hheading hfname
    refine h f hf hheading e.2 ?_
    rw [hfname, hname]
    exact Entries.find?_of_mem hp.nodup he

/-! ## The whole document -/

/-- The known sections, as far as they are there, are tables. -/
def HasTables (es : Entries) : Prop :=
  ∀ f ∈ known, ∀ n ∈ es.find? f.heading, n.isTable = true

instance : Decidable (HasTables es) :=
  inferInstanceAs (Decidable (∀ f ∈ known, ∀ n ∈ es.find? f.heading, n.isTable = true))

/-- A known field is there and has a value that does not fit. -/
def Misfits (es : Entries) : Prop :=
  ∃ f ∈ known, ∃ n ∈ es.field? f.heading f.name, ¬ f.kind.Takes n

instance : Decidable (Misfits es) :=
  inferInstanceAs (Decidable (∃ f ∈ known, ∃ n ∈ es.field? f.heading f.name, ¬ f.kind.Takes n))

/-- A section that is a table fits exactly if its known fields do. -/
theorem exists_ok_put_iff {u : Setting Config} (hu : u ∈ settings) {n : Node} (hp : n.IsProper)
    (ht : n.isTable = true) (c : Config) : (∃ c', u.put n c = .ok c') ↔
      ∀ f ∈ known, f.heading = u.name → ∀ m, n.find? f.name = some m → f.kind.Takes m := by
  obtain ⟨span, origin, es, rfl⟩ := Node.exists_eq_table ht
  have hes : Entries.IsProper es := Toml.Node.isProper_table_iff.1 hp
  simp only [settings, List.mem_cons, List.not_mem_nil, or_false] at hu
  rcases hu with rfl | rfl | rfl | rfl
  · exact exists_ok_bind_pure_iff.trans (suits_listener.exists_ok_iff hes _)
  · exact exists_ok_bind_pure_iff.trans (suits_limits.exists_ok_iff hes _)
  · exact exists_ok_bind_pure_iff.trans (suits_cookies.exists_ok_iff hes _)
  · exact exists_ok_bind_pure_iff.trans (suits_observability.exists_ok_iff hes _)

/-- The sections are those of the known fields. -/
theorem mem_names_iff {heading : String} :
    heading ∈ settings.map Setting.name ↔ ∃ f ∈ known, f.heading = heading := by
  constructor
  · revert heading
    decide
  · rintro ⟨f, hf, rfl⟩
    revert f
    decide

/-- **Only known fields can make a document unfit.** -/
theorem exists_ok_overlay_iff (hp : es.IsProper) (ht : HasTables es) :
    (∃ c, overlay es = .ok c) ↔ ¬ Misfits es := by
  have hput : ∀ e ∈ es, ∀ u ∈ settings, u.name = e.1 → ∀ c, (∃ c', u.put e.2 c = .ok c') ↔
      ∀ f ∈ known, f.heading = u.name → ∀ m, e.2.find? f.name = some m → f.kind.Takes m := by
    intro e he u hu hname
    obtain ⟨f, hf, hheading⟩ := mem_names_iff.1 (List.mem_map.2 ⟨u, hu, hname⟩)
    have hfind : es.find? f.heading = some e.2 := by
      rw [hheading]
      exact Entries.find?_of_mem hp.nodup he
    exact exists_ok_put_iff hu (hp.proper e he) (ht f hf e.2 hfind)
  rw [overlay, exists_ok_putEntries_iff (P := fun u n => ∀ f ∈ known, f.heading = u.name →
    ∀ m, n.find? f.name = some m → f.kind.Takes m) hput (by decide)]
  constructor
  · rintro h ⟨f, hf, m, hm, hmis⟩
    obtain ⟨n, hn, hm⟩ := Option.bind_eq_some_iff.1 hm
    obtain ⟨u, hu, hname⟩ := List.mem_map.1 (mem_names_iff.2 ⟨f, hf, rfl⟩)
    exact hmis (h (f.heading, n) (Entries.mem_of_find? hn) u hu hname f hf hname.symm m hm)
  · intro h e he u _ hname f hf hheading m hm
    by_contra hmis
    refine h ⟨f, hf, m, ?_, hmis⟩
    rw [Entries.field?, hheading, hname, Entries.find?_of_mem hp.nodup he]
    exact hm

/-- Among the places of a section, the one of the name is filled with what is read off its
value. -/
def Fills {σ α : Type} (places : List (Setting σ)) (name : String) (part : σ → α)
    (read : Scalar → Option α) : Prop :=
  ∀ u ∈ places, u.Touches name part fun n _ b => Reads read n b

/-- The section of the heading is put into its own places. -/
def Holds {σ : Type} (places : List (Setting σ)) (expected : Expectation) (heading : String)
    (get : Config → σ) : Prop :=
  ∀ u ∈ settings, u.Touches heading get fun n a b => putSection places expected n a = .ok b

theorem holds_sections : Holds Listener.settings .listener "listener" Config.listener ∧
    Holds Limits.settings .limits "limits" Config.limits ∧
    Holds cookieSettings .cookies "cookies" Config.cookies ∧
    Holds Observability.settings .observability "observability" Config.observability := by
  simp only [Holds, settings, List.forall_mem_cons, List.not_mem_nil, IsEmpty.forall_iff,
    implies_true, and_true]
  and_intros
  -- a section leaves the others alone; what remains are the sections themselves
  all_goals try exact touches_of_ne (by decide) fun _ _ => rfl
  all_goals exact touches_self (fun _ _ => rfl) fun _ _ _ h => h

theorem fills_listener :
    Fills Listener.settings "bind_address" Listener.bindAddress Scalar.text? := by
  intro u hu
  rw [List.mem_singleton.1 hu]
  exact touches_self (fun _ _ => rfl) fun _ _ _ h => reads_of_fitText h

theorem fills_limits : Fills Limits.settings "max_body_bytes" Limits.maxBodyBytes Scalar.number? ∧
    Fills Limits.settings "request_timeout_secs" Limits.requestTimeout Scalar.number? := by
  simp only [Fills, Limits.settings, List.forall_mem_cons, List.not_mem_nil, IsEmpty.forall_iff,
    implies_true, and_true]
  and_intros
  all_goals try exact touches_of_ne (by decide) fun _ _ => rfl
  all_goals exact touches_self (fun _ _ => rfl) fun _ _ _ h => reads_of_fitNumber h

theorem fills_cookies : Fills cookieSettings "path" Cookie.Attributes.path Scalar.text? ∧
    Fills cookieSettings "domain" Cookie.Attributes.domain (fun v => v.text?.map some) := by
  have hsome : ∀ n s, fitText n = .ok s → Reads (fun v => v.text?.map some) n (some s) := by
    intro n s h
    obtain ⟨v, hv, hs⟩ := Option.bind_eq_some_iff.1 (reads_of_fitText h)
    rw [Reads, hv, Option.bind_some, hs]
    rfl
  simp only [Fills, cookieSettings, List.forall_mem_cons, List.not_mem_nil, IsEmpty.forall_iff,
    implies_true, and_true]
  and_intros
  all_goals try exact touches_of_ne (by decide) fun _ _ => rfl
  · exact touches_self (fun _ _ => rfl) fun _ _ _ h => reads_of_fitText h
  · exact touches_self (fun _ _ => rfl) fun n _ s h => hsome n s h

theorem fills_observability :
    Fills Observability.settings "log_level" Observability.logLevel Scalar.text? ∧
    Fills Observability.settings "json_logs" Observability.jsonLogs Scalar.flag? ∧
    Fills Observability.settings "metrics_enabled" Observability.metricsEnabled Scalar.flag? ∧
    Fills Observability.settings "metrics_address" Observability.metricsAddress Scalar.text? := by
  simp only [Fills, Observability.settings, List.forall_mem_cons, List.not_mem_nil,
    IsEmpty.forall_iff, implies_true, and_true]
  and_intros
  all_goals try exact touches_of_ne (by decide) fun _ _ => rfl
  · exact touches_self (fun _ _ => rfl) fun _ _ _ h => reads_of_fitText h
  · exact touches_self (fun _ _ => rfl) fun _ _ _ h => reads_of_fitFlag h
  · exact touches_self (fun _ _ => rfl) fun _ _ _ h => reads_of_fitFlag h
  · exact touches_self (fun _ _ => rfl) fun _ _ _ h => reads_of_fitText h

/-- The value of a field, or the standard one if it is not there. -/
def valueAt {α : Type} (read : Scalar → Option α) (es : Entries) (heading name : String)
    (standard : α) : α :=
  (((es.field? heading name).bind Node.scalar?).bind read).getD standard

/-- The standard configuration with every known field of a document in its place. -/
def laid (es : Entries) : Config where
  listener :=
    { bindAddress := valueAt Scalar.text? es "listener" "bind_address"
        standard.listener.bindAddress }
  limits :=
    { maxBodyBytes := valueAt Scalar.number? es "limits" "max_body_bytes"
        standard.limits.maxBodyBytes
      requestTimeout := valueAt Scalar.number? es "limits" "request_timeout_secs"
        standard.limits.requestTimeout }
  cookies :=
    { path := valueAt Scalar.text? es "cookies" "path" standard.cookies.path
      domain := valueAt (fun v => v.text?.map some) es "cookies" "domain"
        standard.cookies.domain }
  observability :=
    { logLevel := valueAt Scalar.text? es "observability" "log_level"
        standard.observability.logLevel
      jsonLogs := valueAt Scalar.flag? es "observability" "json_logs"
        standard.observability.jsonLogs
      metricsEnabled := valueAt Scalar.flag? es "observability" "metrics_enabled"
        standard.observability.metricsEnabled
      metricsAddress := valueAt Scalar.text? es "observability" "metrics_address"
        standard.observability.metricsAddress }

/-- What one field of a configuration comes to: `get` is the section, `part` the field in it. -/
theorem part_of_overlay {σ α : Type} {places : List (Setting σ)} {expected : Expectation}
    {heading name : String} {get : Config → σ} {part : σ → α} {read : Scalar → Option α}
    (hp : es.IsProper) (ht : HasTables es) {c : Config} (h : overlay es = .ok c)
    (hsection : Holds places expected heading get) (hpart : Fills places name part read)
    (hheading : heading ∈ settings.map Setting.name) (hname : name ∈ places.map Setting.name) :
    part (get c) = valueAt read es heading name (part (get standard)) := by
  have hget := get_putEntries hsection hheading hp.nodup h
  rw [valueAt, Entries.field?]
  cases hfind : es.find? heading with
  | none =>
      rw [hfind] at hget
      exact congrArg part hget
  | some n =>
      rw [hfind] at hget
      -- the section is a table, and its entries are put into their places in turn
      obtain ⟨f, hf, rfl⟩ := mem_names_iff.1 hheading
      obtain ⟨span, origin, inner, rfl⟩ := Node.exists_eq_table (ht f hf n hfind)
      have hinner : Entries.IsProper inner := Toml.Node.isProper_table_iff.1 (hp.of_find? hfind)
      have hput := get_putEntries hpart hname hinner.nodup hget
      show _ = (((Entries.find? inner name).bind Node.scalar?).bind read).getD _
      cases hin : Entries.find? inner name with
      | none =>
          rw [hin] at hput
          exact hput
      | some m =>
          rw [hin] at hput
          have hread : m.scalar?.bind read = some (part (get c)) := hput
          rw [Option.bind_some, hread]
          rfl

/-- **A document that fits is laid over the standard configuration.** -/
theorem eq_laid_of_overlay (hp : es.IsProper) (ht : HasTables es) {c : Config}
    (h : overlay es = .ok c) : c = laid es := by
  obtain ⟨hlistener, hlimits, hcookies, hobservability⟩ := holds_sections
  have hbind := part_of_overlay hp ht h hlistener fills_listener (by decide) (by decide)
  have hbytes := part_of_overlay hp ht h hlimits fills_limits.1 (by decide) (by decide)
  have htime := part_of_overlay hp ht h hlimits fills_limits.2 (by decide) (by decide)
  have hpath := part_of_overlay hp ht h hcookies fills_cookies.1 (by decide) (by decide)
  have hdomain := part_of_overlay hp ht h hcookies fills_cookies.2 (by decide) (by decide)
  obtain ⟨flevel, fjson, fenabled, faddress⟩ := fills_observability
  have hlevel := part_of_overlay hp ht h hobservability flevel (by decide) (by decide)
  have hjson := part_of_overlay hp ht h hobservability fjson (by decide) (by decide)
  have henabled := part_of_overlay hp ht h hobservability fenabled (by decide) (by decide)
  have haddress := part_of_overlay hp ht h hobservability faddress (by decide) (by decide)
  rw [laid, ← hbind, ← hbytes, ← htime, ← hpath, ← hdomain, ← hlevel, ← hjson, ← henabled,
    ← haddress]

/-- The documents have the same in all known fields, wherever these stand. -/
def SameFields (es fs : Entries) : Prop :=
  ∀ f ∈ known, (es.field? f.heading f.name).map Node.scalar?
    = (fs.field? f.heading f.name).map Node.scalar?

theorem SameFields.symm {fs : Entries} (h : SameFields es fs) : SameFields fs es :=
  fun f hf => (h f hf).symm

theorem valueAt_congr {α : Type} {read : Scalar → Option α} {fs : Entries} {heading name : String}
    (h : (es.field? heading name).map Node.scalar? = (fs.field? heading name).map Node.scalar?)
    (standard : α) : valueAt read es heading name standard
      = valueAt read fs heading name standard := by
  have hbind : ∀ n : Option Node, n.bind Node.scalar? = (n.map Node.scalar?).join := by
    intro n
    cases n <;> rfl
  rw [valueAt, valueAt, hbind, hbind, h]

/-- Nothing but the known fields counts. -/
theorem laid_congr {fs : Entries} (h : SameFields es fs) : laid es = laid fs := by
  simp only [SameFields, known, List.forall_mem_cons] at h
  obtain ⟨h₁, h₂, h₃, h₄, h₅, h₆, h₇, h₈, h₉, -⟩ := h
  rw [laid, laid, valueAt_congr h₁, valueAt_congr h₂, valueAt_congr h₃, valueAt_congr h₄,
    valueAt_congr h₅, valueAt_congr h₆, valueAt_congr h₇, valueAt_congr h₈, valueAt_congr h₉]

theorem Misfits.of_sameFields {fs : Entries} (h : SameFields es fs) (hm : Misfits es) :
    Misfits fs := by
  obtain ⟨f, hf, n, hn, hmis⟩ := hm
  have hmap := h f hf
  rw [hn, Option.map_some] at hmap
  obtain ⟨m, hm, hscalar⟩ := Option.map_eq_some_iff.1 hmap.symm
  refine ⟨f, hf, m, hm, ?_⟩
  rintro ⟨v, hv, hadmits⟩
  exact hmis ⟨v, hscalar ▸ hv, hadmits⟩

/-! ## Reading a configuration -/

/-- The text could not be read as a configuration, whether it would be a valid one or not. -/
def Unreadable (text : String) : Prop := ∃ e, parse text = .error e ∧ ∀ ps, e ≠ .invalid ps

variable {text : String}

/-- A document that fits is validated. -/
theorem parse_eq_validated (hd : Toml.parse? text.toList = some es) (ht : HasTables es)
    (hm : ¬ Misfits es) : parse text = (laid es).validated := by
  have hp : es.IsProper := Toml.isProper_of_parse? hd
  obtain ⟨c, hc⟩ := (exists_ok_overlay_iff hp ht).2 hm
  rw [← eq_laid_of_overlay hp ht hc]
  simp only [parse, hd, hc]

/-- A value that does not fit ends the reading, and nothing is validated. -/
theorem unreadable_iff (hd : Toml.parse? text.toList = some es) (ht : HasTables es) :
    Unreadable text ↔ Misfits es := by
  constructor
  · rintro ⟨e, he, hne⟩
    by_contra hm
    rw [parse_eq_validated hd ht hm, validated] at he
    split at he
    · cases he
    · cases he
      exact hne _ rfl
  · intro hm
    cases hc : overlay es with
    | ok c =>
        have hp : es.IsProper := Toml.isProper_of_parse? hd
        exact absurd hm ((exists_ok_overlay_iff hp ht).1 ⟨c, hc⟩)
    | error m =>
        refine ⟨.misfit (Toml.excerpt text.toList m.span m.message), ?_, fun _ h => nomatch h⟩
        simp only [parse, hd, hc]

/-- **A document is laid over the standard configuration.** Its known sections being tables, it
cannot be read exactly if a known field has a value of another kind or a number out of range,
whatever else would be wrong with it. Otherwise the standard configuration with the known fields of
the document in their places is accepted, or its problems are reported. Documents with the same
known fields come to the same, wherever these stand and whatever stands beside them. -/
theorem parse_lays_over (hd : Toml.parse? text.toList = some es) (ht : HasTables es) :
    (Unreadable text ↔ Misfits es) ∧
    (¬ Misfits es →
      (laid es).problems = [] ∧ parse text = .ok (laid es) ∨
      (laid es).problems ≠ [] ∧ parse text = .error (.invalid (laid es).problems)) ∧
    ∀ other fs, Toml.parse? other.toList = some fs → HasTables fs → SameFields es fs →
      (Unreadable text ∧ Unreadable other ∨ parse text = parse other) := by
  refine ⟨unreadable_iff hd ht, fun hm => ?_, fun other fs hd' ht' hs => ?_⟩
  · rw [parse_eq_validated hd ht hm, validated]
    split
    · next hv => exact Or.inl ⟨isValid_iff.1 hv, rfl⟩
    · next hv => exact Or.inr ⟨fun hnil => hv (isValid_iff.2 hnil), rfl⟩
  · by_cases hm : Misfits es
    · exact Or.inl ⟨(unreadable_iff hd ht).2 hm, (unreadable_iff hd' ht').2 (hm.of_sameFields hs)⟩
    · have hm' : ¬ Misfits fs := fun h => hm (h.of_sameFields hs.symm)
      refine Or.inr ?_
      rw [parse_eq_validated hd ht hm, parse_eq_validated hd' ht' hm', laid_congr hs]

/-- Two fields of two sections, in a document with other things in it. -/
def partialText : String :=
  "unknown = [1, true]\n[limits]\nspare = 2\nmax_body_bytes = 512\n[cookies]\ndomain = \"a.com\"\n"

/-- The other fields keep their standard values. -/
theorem partialText_lays_over : ∃ es, Toml.parse? partialText.toList = some es ∧ HasTables es ∧
    parse partialText
      = .ok { limits := { maxBodyBytes := 512 }, cookies := { domain := "a.com" } } := by
  have hread : (Toml.parse? partialText.toList).any (fun es => HasTables es ∧ ¬ Misfits es ∧
      laid es = { limits := { maxBodyBytes := 512 }, cookies := { domain := "a.com" } })
        = true := by
    decide +kernel
  obtain ⟨es, hd, h⟩ := (Option.any_eq_true _ _).1 hread
  obtain ⟨ht, hm, hlaid⟩ := of_decide_eq_true h
  have hnone : (laid es).problems = [] := by
    rw [hlaid]
    decide +kernel
  refine ⟨es, hd, ht, ?_⟩
  rcases (parse_lays_over hd ht).2.1 hm with ⟨-, hok⟩ | ⟨hsome, -⟩
  · rw [hok, hlaid]
  · exact absurd hnone hsome

end Session.Config
