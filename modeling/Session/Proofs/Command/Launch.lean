import Session.Command.Run
import Session.Proofs.Config.Loading

set_option autoImplicit false

/-! # What is launched

The configuration of a run is the loaded one, or the standard one, with the address of the command
line in its place. What it starts from is valid in either case, and the address has a check of its
own, so the second validation is about the address alone (`isValid_withAddress_iff`,
`problems_withAddress`). Whatever the file holds and whatever the address is, only a valid
configuration is launched (`launchConfig_only_valid`).
-/

namespace Session.Command

open Config (Check Loads)

variable {c base : Config} {a : String}

/-! ## Another address -/

/-- All other fields are those that they were. -/
theorem agree_withAddress (c : Config) (a : String) {k : Check} (hk : k ≠ .bindAddress) :
    k.Agree c (withAddress c a) := by
  cases k with
  | bindAddress => exact absurd rfl hk
  | bodyLimit | requestTimeout | cookiePath | cookieDomain | logLevel => rfl
  | metricsAddress => exact ⟨rfl, rfl⟩

/-- Of a valid configuration with another address the address alone is in question. -/
theorem passes_withAddress_iff (h : c.isValid = true) {k : Check} :
    k.Passes (withAddress c a) ↔ (k = .bindAddress → Config.isAddress a = true) := by
  by_cases hk : k = .bindAddress
  · subst hk
    exact ⟨fun hp _ => hp, fun ha => ha rfl⟩
  · rw [← Check.passes_congr (agree_withAddress c a hk)]
    exact ⟨fun _ he => absurd he hk, fun _ => Check.passes_of_isValid h k⟩

theorem isValid_withAddress_iff (h : c.isValid = true) :
    (withAddress c a).isValid = true ↔ Config.isAddress a = true := by
  rw [Config.isValid_iff_forall_passes]
  exact ⟨fun hall => (passes_withAddress_iff h).1 (hall .bindAddress) rfl,
    fun ha _ => (passes_withAddress_iff h).2 fun _ => ha⟩

/-- If the address is bad, it is all that is reported. -/
theorem problems_withAddress (h : c.isValid = true) (ha : Config.isAddress a ≠ true) :
    (withAddress c a).problems = [.invalidBindAddress a] := by
  have hmem : ∀ p, p ∈ (withAddress c a).problems ↔ p = .invalidBindAddress a := by
    intro p
    rw [Config.mem_problems_iff]
    constructor
    · rintro ⟨k, hk, rfl⟩
      rw [passes_withAddress_iff h, Classical.not_imp] at hk
      rw [hk.1]
      rfl
    · rintro rfl
      exact ⟨.bindAddress, fun hp => ha ((passes_withAddress_iff h).1 hp rfl), rfl⟩
  -- nothing is reported twice
  refine List.Perm.eq_singleton ((List.perm_ext_iff_of_nodup (Config.nodup_problems _)
    (List.nodup_singleton _)).2 fun p => ?_)
  rw [hmem, List.mem_singleton]

/-! ## The configuration of a run -/

/-- What a run starts from: the standard configuration, or what the file gives that the options
name. -/
def StartsFrom (read : Files.Reader) (o : Options) (result : Except LaunchError Config) : Prop :=
  match o.config with
  | none => result = .ok .standard
  | some path => Loads path (read path) result

variable {read : Files.Reader} {o : Options} {result : Except LaunchError Config}

theorem baseConfig_eq_iff : baseConfig read o = result ↔ StartsFrom read o result := by
  rw [baseConfig, StartsFrom]
  cases o.config with
  | none => exact eq_comm
  | some path => exact Config.load_eq_iff

theorem isValid_of_startsFrom (h : StartsFrom read o (.ok base)) : base.isValid = true := by
  rw [StartsFrom] at h
  cases hc : o.config with
  | none =>
      simp only [hc, Except.ok.injEq] at h
      rw [h]
      exact Config.isValid_standard
  | some path =>
      simp only [hc] at h
      exact Config.isValid_of_loads h

/-- What the run starts from, with the address of the command line if there is one. -/
def atAddress (o : Options) (base : Config) : Config := o.bind.elim base (withAddress base)

/-- The address is replaced if there is another one, and every other field is that of the base. -/
theorem eq_atAddress_iff : c = atAddress o base ↔
    c.listener.bindAddress = o.bind.getD base.listener.bindAddress ∧ c.limits = base.limits ∧
      c.cookies = base.cookies ∧ c.observability = base.observability := by
  have hfields : ∀ d : Config, c = d ↔ c.listener.bindAddress = d.listener.bindAddress ∧
      c.limits = d.limits ∧ c.cookies = d.cookies ∧ c.observability = d.observability := by
    obtain ⟨⟨address⟩, limits, cookies, observability⟩ := c
    rintro ⟨⟨_⟩, _, _, _⟩
    rw [Config.mk.injEq, Config.Listener.mk.injEq]
  rw [hfields, atAddress]
  cases o.bind <;> rfl

theorem launchConfig_of_error {e : LaunchError} (h : StartsFrom read o (.error e)) :
    launchConfig read o = .error e := by
  rw [launchConfig, baseConfig_eq_iff.2 h]
  rfl

theorem launchConfig_of_good (h : StartsFrom read o (.ok base))
    (ha : ∀ a, o.bind = some a → Config.isAddress a = true) :
    launchConfig read o = .ok (atAddress o base) := by
  rw [launchConfig, baseConfig_eq_iff.2 h, atAddress]
  cases hb : o.bind with
  | none => rfl
  | some a =>
      have hok : (withAddress base a).validated = .ok (withAddress base a) :=
        Config.validated_eq_ok_iff.2
          ⟨(isValid_withAddress_iff (isValid_of_startsFrom h)).2 (ha a hb), rfl⟩
      simp only [bind, Except.bind, hok]
      rfl

theorem launchConfig_of_bad (h : StartsFrom read o (.ok base)) (hb : o.bind = some a)
    (ha : Config.isAddress a ≠ true) :
    launchConfig read o = .error (.unusable (.invalid [.invalidBindAddress a])) := by
  have hvalid := isValid_of_startsFrom h
  have herror : (withAddress base a).validated = .error (.invalid [.invalidBindAddress a]) := by
    rw [← problems_withAddress hvalid ha]
    exact if_neg (mt (isValid_withAddress_iff hvalid).1 ha)
  rw [launchConfig, baseConfig_eq_iff.2 h, hb]
  simp only [bind, Except.bind, herror]

theorem launchConfig_eq_ok_iff : launchConfig read o = .ok c ↔ ∃ base,
    StartsFrom read o (.ok base) ∧ (∀ a, o.bind = some a → Config.isAddress a = true) ∧
      c = atAddress o base := by
  constructor
  · intro h
    cases hr : baseConfig read o with
    | error e =>
        rw [launchConfig_of_error (baseConfig_eq_iff.1 hr)] at h
        cases h
    | ok base =>
        have hbase := baseConfig_eq_iff.1 hr
        by_cases ha : ∀ a, o.bind = some a → Config.isAddress a = true
        · rw [launchConfig_of_good hbase ha, Except.ok.injEq] at h
          exact ⟨base, hbase, ha, h.symm⟩
        · push Not at ha
          obtain ⟨a, hb, ha⟩ := ha
          rw [launchConfig_of_bad hbase hb ha] at h
          cases h
  · rintro ⟨base, hbase, ha, rfl⟩
    exact launchConfig_of_good hbase ha

theorem isValid_of_launchConfig (h : launchConfig read o = .ok c) : c.isValid = true := by
  obtain ⟨base, hbase, ha, rfl⟩ := launchConfig_eq_ok_iff.1 h
  have hvalid := isValid_of_startsFrom hbase
  rw [atAddress]
  cases hb : o.bind with
  | none => exact hvalid
  | some a => exact (isValid_withAddress_iff hvalid).2 (ha a hb)

/-! ## Behind the launch -/

/-- A valid configuration has an address where its counters can be fetched, if they can be. -/
theorem metricsEndpoint_of_isValid (h : c.isValid = true) : ∃ endpoint,
    metricsEndpoint c = .ok endpoint ∧ endpoint.isSome = c.observability.metricsEnabled := by
  have hcheck : c.observability.metricsEnabled = true →
      Config.isAddress c.observability.metricsAddress = true :=
    Check.passes_of_isValid h .metricsAddress
  rw [metricsEndpoint]
  cases hon : c.observability.metricsEnabled with
  | false => exact ⟨none, rfl, rfl⟩
  | true =>
      obtain ⟨address, ha⟩ := Option.isSome_iff_exists.1 (hcheck hon)
      exact ⟨some address, by simp only [if_true, ha], rfl⟩

section Run

variable {filterSetting : Option String} {port : String} {arguments : List String}

theorem run_of_launchError (hargs : Request.ofArguments arguments = .ok (.start o))
    {e : LaunchError} (h : launchConfig read o = .error e) :
    run read filterSetting port arguments = .ended 1 [] ["Error: " ++ errorSummary e] := by
  rw [run, hargs]
  simp only [h]

theorem isServed_run (hargs : Request.ofArguments arguments = .ok (.start o))
    (h : launchConfig read o = .ok c) :
    (run read filterSetting port arguments).isServed = true := by
  obtain ⟨endpoint, hendpoint, -⟩ := metricsEndpoint_of_isValid (isValid_of_launchConfig h)
  rw [run, hargs]
  simp only [h, hendpoint]
  rfl

end Run

end Session.Command
