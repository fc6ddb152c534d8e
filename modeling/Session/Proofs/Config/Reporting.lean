import Mathlib.Data.List.Forall2
import Session.Config.Parser
import Session.Proofs.Config.CookieSettings

set_option autoImplicit false

/-! # What a validation reports

Every field is judged on its own (`Check`), and what is reported are the problems of the bad
fields, in the order of the checks (`Reports`, `sublist_problems`, `mem_problems_iff`).

The check of a cookie path writes a directive and reads it back. What this comes to is said here
in terms of the characters of the path: it is absolute, it holds no `;` and no control character,
and no white space stands at its end (`isCookiePath_iff_chars`).
-/

namespace Session

/-! ## Control characters -/

namespace Http

/-- A character that may not stand in a header: below U+0020, but for the tab, or U+007F. -/
def isControl (c : Char) : Bool := (c.toNat < 0x20 && c ≠ '\t') || c.toNat = 0x7F

/-- From 0x80 on every byte of an encoding may stand in a header. -/
theorem isValueByte_of_le {b : UInt8} (h : 0x80 ≤ b.toNat) : isValueByte b = true := by
  have h32 : 32 ≤ b := UInt8.le_iff_toNat_le.2 (by
    have : (32 : UInt8).toNat = 32 := rfl
    omega)
  have h127 : b ≠ 127 := by
    rintro rfl
    exact absurd h (by decide)
  simp [isValueByte, h32, h127]

/-- The bytes of a character that is not ASCII are not ASCII. -/
theorem le_of_mem_utf8EncodeChar {c : Char} {b : UInt8} (hc : 0x80 ≤ c.toNat)
    (hb : b ∈ String.utf8EncodeChar c) : 0x80 ≤ b.toNat := by
  have hlow : ∀ n, 0x80 ≤ (UInt8.ofNat (n % 64 + 128)).toNat := by
    intro n
    rw [UInt8.toNat_ofNat']
    omega
  have hv : c.val.toNat = c.toNat := rfl
  simp only [String.utf8EncodeChar, hv] at hb
  rw [if_neg (by omega)] at hb
  -- the first byte tells how many follow, and each of these is a continuation
  split at hb
  · rcases List.mem_pair.1 hb with rfl | rfl
    · rw [UInt8.toNat_ofNat']
      omega
    · exact hlow _
  · split at hb
    · simp only [List.mem_cons, List.not_mem_nil, or_false] at hb
      rcases hb with rfl | rfl | rfl
      · rw [UInt8.toNat_ofNat']
        omega
      · exact hlow _
      · exact hlow _
    · simp only [List.mem_cons, List.not_mem_nil, or_false] at hb
      rcases hb with rfl | rfl | rfl | rfl
      · rw [UInt8.toNat_ofNat']
        omega
      · exact hlow _
      · exact hlow _
      · exact hlow _

/-- The encoding of a character may stand in a header unless it is a control character. -/
theorem all_utf8EncodeChar (c : Char) :
    (String.utf8EncodeChar c).all isValueByte = !isControl c := by
  by_cases hc : c.toNat < 0x80
  · rw [Text.Utf8.utf8EncodeChar_of_lt hc, List.all_cons, List.all_nil, Bool.and_true]
    have hall : ∀ n : Fin 0x80, isValueByte (UInt8.ofNat n.val)
        = !isControl (Char.ofNat n.val) := by decide
    have h := hall ⟨c.toNat, hc⟩
    rwa [Char.ofNat_toNat] at h
  · have hfree : isControl c = false := by
      simp only [isControl, Bool.or_eq_false_iff, Bool.and_eq_false_iff, decide_eq_false_iff_not]
      omega
    rw [hfree, Bool.not_false, List.all_eq_true]
    exact fun b hb => isValueByte_of_le (le_of_mem_utf8EncodeChar (by omega) hb)

end Http

namespace Cookie.Attributes

theorem isWritable_iff {s : List Char} :
    isWritable s = true ↔ ∀ c ∈ s, Http.isControl c = false := by
  induction s with
  | nil => simp [isWritable]
  | cons c s ih =>
      have hc : isWritable [c] = !Http.isControl c := by
        rw [isWritable, Text.Utf8.encode_cons, Text.Utf8.encode_nil, List.append_nil,
          Http.all_utf8EncodeChar]
      rw [← List.singleton_append, isWritable_append, hc, Bool.and_eq_true, ih,
        Bool.not_eq_true', List.singleton_append, List.forall_mem_cons]

end Cookie.Attributes

namespace Config

/-! ## The path of the cookies -/

/-- **What the check of a path refuses**: a path that is not absolute, a `;`, a control
character, and white space at the end. -/
theorem isCookiePath_iff_chars {path : String} : isCookiePath path = true ↔
    path.toList.head? = some '/' ∧ ';' ∉ path.toList ∧
      (∀ c ∈ path.toList, Http.isControl c = false) ∧
      ∀ c, path.toList.getLast? = some c → Text.isBlank c = false := by
  rw [isCookiePath_iff, Cookie.Attributes.isWritable_iff]
  refine and_congr_right fun hhead => ?_
  rw [Cookie.IsPlain, Text.trim_eq_self_iff, and_assoc]
  refine and_congr_right fun _ => ?_
  constructor
  · rintro ⟨⟨-, hlast⟩, hcontrol⟩
    exact ⟨hcontrol, hlast⟩
  · rintro ⟨hcontrol, hlast⟩
    refine ⟨⟨fun c hc => ?_, hlast⟩, hcontrol⟩
    -- an absolute path does not begin with white space
    obtain rfl : '/' = c := Option.some.inj (hhead.symm.trans hc)
    decide

/-! ## The checks -/

/-- What is checked of a configuration. -/
inductive Check
  | bindAddress
  | bodyLimit
  | requestTimeout
  | cookiePath
  | cookieDomain
  | logLevel
  | metricsAddress
deriving DecidableEq, Repr

namespace Check

/-- All checks, in the order of the report. -/
def all : List Check :=
  [bindAddress, bodyLimit, requestTimeout, cookiePath, cookieDomain, logLevel, metricsAddress]

theorem mem_all (k : Check) : k ∈ all := by
  cases k <;> decide

/-- The field is acceptable. -/
def Passes (c : Config) : Check → Prop
  | bindAddress => isAddress c.listener.bindAddress = true
  | bodyLimit => 0 < c.limits.maxBodyBytes
  | requestTimeout => 0 < c.limits.requestTimeout
  | cookiePath => c.cookies.path.toList.head? = some '/' ∧ ';' ∉ c.cookies.path.toList ∧
      (∀ x ∈ c.cookies.path.toList, Http.isControl x = false) ∧
      ∀ x, c.cookies.path.toList.getLast? = some x → Text.isBlank x = false
  | cookieDomain => ∀ d, c.cookies.domain = some d → IsDomain d.toList
  | logLevel => isLogLevel c.observability.logLevel = true
  | metricsAddress => c.observability.metricsEnabled = true →
      isAddress c.observability.metricsAddress = true

/-- The problem of the field, if it is bad. -/
def problem (c : Config) : Check → Problem
  | bindAddress => .invalidBindAddress c.listener.bindAddress
  | bodyLimit => .zeroBodyLimit
  | requestTimeout => .zeroRequestTimeout
  | cookiePath => .invalidCookiePath c.cookies.path
  | cookieDomain => .invalidCookieDomain (c.cookies.domain.getD "")
  | logLevel => .invalidLogLevel c.observability.logLevel
  | metricsAddress => .invalidMetricsAddress c.observability.metricsAddress

/-- The configurations have the same in the field; whether the address of the metrics is looked
at is part of it. -/
def Agree (c d : Config) : Check → Prop
  | bindAddress => c.listener.bindAddress = d.listener.bindAddress
  | bodyLimit => c.limits.maxBodyBytes = d.limits.maxBodyBytes
  | requestTimeout => c.limits.requestTimeout = d.limits.requestTimeout
  | cookiePath => c.cookies.path = d.cookies.path
  | cookieDomain => c.cookies.domain = d.cookies.domain
  | logLevel => c.observability.logLevel = d.observability.logLevel
  | metricsAddress => c.observability.metricsEnabled = d.observability.metricsEnabled ∧
      c.observability.metricsAddress = d.observability.metricsAddress

variable {c d : Config} {k j : Check}

/-- Different checks report different problems. -/
theorem problem_injective (c : Config) : Function.Injective (problem c) := by
  intro k j h
  cases k <;> cases j <;> first | rfl | cases h

/-- The check looks at nothing but its field. -/
theorem Passes.of_agree (ha : Agree c d k) (h : Passes c k) : Passes d k := by
  cases k with
  | bindAddress => exact (congrArg isAddress ha).symm.trans h
  | bodyLimit => exact Nat.lt_of_lt_of_eq h ha
  | requestTimeout => exact Nat.lt_of_lt_of_eq h ha
  | cookiePath =>
      simp only [Agree] at ha
      simpa only [Passes, ha] using h
  | cookieDomain => exact fun e he => h e (Eq.trans ha he)
  | logLevel => exact (congrArg isLogLevel ha).symm.trans h
  | metricsAddress =>
      intro hon
      rw [← ha.2]
      exact h (ha.1.trans hon)

theorem Agree.symm (h : Agree c d k) : Agree d c k := by
  cases k with
  | metricsAddress => exact ⟨h.1.symm, h.2.symm⟩
  | bindAddress | bodyLimit | requestTimeout | cookiePath | cookieDomain | logLevel =>
      exact Eq.symm h

theorem passes_congr (h : Agree c d k) : Passes c k ↔ Passes d k :=
  ⟨Passes.of_agree h, Passes.of_agree h.symm⟩

end Check

/-! ## The report -/

variable {c : Config}

/-- What the check has to say: nothing about a good field, and its problem about a bad one. -/
def Reports (c : Config) (k : Check) (finding : Option Problem) : Prop :=
  (k.Passes c ∧ finding = none) ∨ (¬ k.Passes c ∧ finding = some (k.problem c))

theorem reports_problemUnless {k : Check} {good : Bool} (h : good = true ↔ k.Passes c) :
    Reports c k (problemUnless good (k.problem c)) := by
  cases good with
  | true => exact Or.inl ⟨h.1 rfl, rfl⟩
  | false => exact Or.inr ⟨fun hp => Bool.false_ne_true (h.2 hp), rfl⟩

/-- There is one finding for each check, in their order. -/
theorem forall₂_reports_findings (c : Config) :
    List.Forall₂ (Reports c) Check.all c.findings := by
  have hdomain : Reports c .cookieDomain (c.cookies.domain.bind fun d =>
      problemUnless (isCookieDomain d) (.invalidCookieDomain d)) := by
    cases hd : c.cookies.domain with
    | none =>
        refine Or.inl ⟨fun d h => ?_, rfl⟩
        rw [hd] at h
        cases h
    | some d =>
        have hproblem : Problem.invalidCookieDomain d = Check.cookieDomain.problem c := by
          rw [Check.problem, hd, Option.getD_some]
        rw [Option.bind_some, hproblem]
        refine reports_problemUnless (isCookieDomain_iff.trans ⟨fun h e he => ?_, fun h => h d hd⟩)
        rwa [← Option.some.inj (hd.symm.trans he)]
  have hmetrics : (!c.observability.metricsEnabled || isAddress c.observability.metricsAddress)
      = true ↔ Check.metricsAddress.Passes c := by
    rw [Check.Passes, Bool.or_eq_true, Bool.not_eq_true', ← Bool.not_eq_true, imp_iff_not_or]
  have hpos : ∀ n : Nat, decide (n ≠ 0) = true ↔ 0 < n := fun n =>
    decide_eq_true_iff.trans Nat.pos_iff_ne_zero.symm
  exact .cons (reports_problemUnless Iff.rfl)
    (.cons (reports_problemUnless (hpos _))
      (.cons (reports_problemUnless (hpos _))
        (.cons (reports_problemUnless isCookiePath_iff_chars)
          (.cons hdomain
            (.cons (reports_problemUnless Iff.rfl)
              (.cons (reports_problemUnless hmetrics) .nil))))))

/-- What some of the checks report: problems of bad fields, in their order. -/
theorem sublist_and_mem_of_forall₂ {ks : List Check} {findings : List (Option Problem)}
    (h : List.Forall₂ (Reports c) ks findings) :
    (findings.filterMap id).Sublist (ks.map (Check.problem c)) ∧
      ∀ p, p ∈ findings.filterMap id ↔ ∃ k ∈ ks, ¬ k.Passes c ∧ p = k.problem c := by
  induction h with
  | nil => exact ⟨List.Sublist.refl _, fun p => by simp⟩
  | @cons k finding ks findings hk _ ih =>
      obtain ⟨hsub, hmem⟩ := ih
      rcases hk with ⟨hpass, rfl⟩ | ⟨hfail, rfl⟩
      · refine ⟨hsub.cons _, fun p => ?_⟩
        rw [List.filterMap_cons_none rfl, hmem, List.exists_mem_cons_iff]
        exact ⟨Or.inr, fun h => h.resolve_left fun h => h.1 hpass⟩
      · refine ⟨hsub.cons_cons _, fun p => ?_⟩
        have hcons : (some (k.problem c) :: findings).filterMap id
            = k.problem c :: findings.filterMap id := rfl
        rw [hcons, List.mem_cons, hmem, List.exists_mem_cons_iff]
        exact or_congr_left ⟨fun h => ⟨hfail, h⟩, And.right⟩

theorem sublist_problems (c : Config) :
    c.problems.Sublist (Check.all.map (Check.problem c)) :=
  (sublist_and_mem_of_forall₂ (forall₂_reports_findings c)).1

/-- **The problems are those of the bad fields.** -/
theorem mem_problems_iff {p : Problem} :
    p ∈ c.problems ↔ ∃ k : Check, ¬ k.Passes c ∧ p = k.problem c := by
  rw [problems, (sublist_and_mem_of_forall₂ (forall₂_reports_findings c)).2]
  simp only [Check.mem_all, true_and]

theorem problem_mem_problems_iff {k : Check} : k.problem c ∈ c.problems ↔ ¬ k.Passes c := by
  rw [mem_problems_iff]
  constructor
  · rintro ⟨j, hj, h⟩
    rwa [Check.problem_injective c h]
  · exact fun h => ⟨k, h, rfl⟩

theorem nodup_problems (c : Config) : c.problems.Nodup :=
  (sublist_problems c).nodup (List.Nodup.map (Check.problem_injective c) (by decide))

theorem problems_eq_nil_iff : c.problems = [] ↔ ∀ k : Check, k.Passes c := by
  rw [List.eq_nil_iff_forall_not_mem]
  constructor
  · exact fun h k => of_not_not fun hk => h _ (problem_mem_problems_iff.2 hk)
  · intro h p hp
    obtain ⟨k, hk, -⟩ := mem_problems_iff.1 hp
    exact hk (h k)

theorem Check.passes_of_isValid (h : c.isValid = true) (k : Check) : k.Passes c :=
  problems_eq_nil_iff.1 (isValid_iff.1 h) k

/-- The path is reported exactly if it is bad. -/
theorem invalidCookiePath_mem_problems_iff {path : String} :
    .invalidCookiePath path ∈ c.problems ↔ path = c.cookies.path ∧
      (path.toList.head? ≠ some '/' ∨ ';' ∈ path.toList ∨
        (∃ x ∈ path.toList, Http.isControl x = true) ∨
        ∃ x, path.toList.getLast? = some x ∧ Text.isBlank x = true) := by
  have hbad : ¬ Check.cookiePath.Passes c ↔
      (c.cookies.path.toList.head? ≠ some '/' ∨ ';' ∈ c.cookies.path.toList ∨
        (∃ x ∈ c.cookies.path.toList, Http.isControl x = true) ∨
        ∃ x, c.cookies.path.toList.getLast? = some x ∧ Text.isBlank x = true) := by
    rw [Check.Passes]
    simp only [Classical.not_and_iff_not_or_not, not_not, Classical.not_forall,
      Bool.not_eq_false, exists_prop, ne_eq]
  constructor
  · intro h
    obtain ⟨k, hk, hp⟩ := mem_problems_iff.1 h
    cases k with
    | cookiePath =>
        cases hp
        exact ⟨rfl, hbad.1 hk⟩
    | bindAddress | bodyLimit | requestTimeout | cookieDomain | logLevel | metricsAddress =>
        cases hp
  · rintro ⟨rfl, h⟩
    exact mem_problems_iff.2 ⟨.cookiePath, hbad.2 h, rfl⟩

/-- **A validation reports exactly the bad fields.** A configuration is accepted as it is if every
field is acceptable. Otherwise the problems of the bad fields are reported in the order of the
checks, each once; and whether a field is reported is a matter of this field alone. -/
theorem validated_reports_bad_fields (c : Config) :
    ((∀ k : Check, k.Passes c) ∧ c.validated = .ok c ∨
      (∃ k : Check, ¬ k.Passes c) ∧ c.validated = .error (.invalid c.problems)) ∧
    (c.problems.Sublist (Check.all.map (Check.problem c)) ∧ c.problems.Nodup ∧
      ∀ p, p ∈ c.problems ↔ ∃ k : Check, ¬ k.Passes c ∧ p = k.problem c) ∧
    (∀ (k : Check) (d : Config), k.Agree c d →
      (k.problem c ∈ c.problems ↔ k.problem d ∈ d.problems)) ∧
    ∀ path, .invalidCookiePath path ∈ c.problems ↔ path = c.cookies.path ∧
      (path.toList.head? ≠ some '/' ∨ ';' ∈ path.toList ∨
        (∃ x ∈ path.toList, Http.isControl x = true) ∨
        ∃ x, path.toList.getLast? = some x ∧ Text.isBlank x = true) := by
  refine ⟨?_, ⟨sublist_problems c, nodup_problems c, fun p => mem_problems_iff⟩,
    fun k d h => ?_, fun path => invalidCookiePath_mem_problems_iff⟩
  · by_cases h : ∀ k : Check, k.Passes c
    · refine Or.inl ⟨h, ?_⟩
      rw [validated, if_pos (isValid_iff.2 (problems_eq_nil_iff.2 h))]
    · refine Or.inr ⟨not_forall.1 h, ?_⟩
      rw [validated, if_neg fun hv => h (problems_eq_nil_iff.1 (isValid_iff.1 hv))]
  · rw [problem_mem_problems_iff, problem_mem_problems_iff, Check.passes_congr h]

/-- Inner blanks, a tab, `=` and letters beyond ASCII are all fine in a path; a tab at its end is
not. -/
example : isCookiePath "/a b\t=.é" = true ∧ isCookiePath "/a\t" = false := by
  decide +kernel

end Config

end Session
