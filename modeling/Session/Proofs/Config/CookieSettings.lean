import Session.Config.Validation
import Session.Proofs.Cookie.Directive

set_option autoImplicit false

/-! # What the checks on the cookie settings amount to

The path and the domain are checked apart from each other and with one of the user cookies only.
Each check says something about its own text alone (`isCookiePath_iff`, `isCookieDomain_iff`), so
in a valid configuration they hold together and for any cookie that can be named
(`isReadable_of_isValid`, `isSome_expiry?_of_isValid`).
-/

namespace Session

namespace Cookie

/-! ## Leading dots -/

theorem mem_dropDots_of_mem {s : List Char} {c : Char} (h : c ∈ s) (hc : c ≠ '.') :
    c ∈ dropDots s := by
  rw [← List.takeWhile_append_dropWhile (p := (· = '.')) (l := s), List.mem_append] at h
  rcases h with h | h
  · have hdot := List.mem_takeWhile_imp (p := (· = '.')) h
    exact absurd (of_decide_eq_true hdot) hc
  · exact h

theorem mem_of_mem_dropDot {s : List Char} {c : Char} (h : c ∈ dropDot s) : c ∈ s := by
  unfold dropDot at h
  split at h
  · exact List.mem_cons_of_mem _ h
  · exact h

theorem dropDot_eq_nil_iff {s : List Char} : dropDot s = [] ↔ s = [] ∨ s = ['.'] := by
  unfold dropDot
  split
  · simp
  · next hs =>
      constructor
      · exact Or.inl
      · rintro (rfl | rfl)
        · rfl
        · exact absurd rfl (hs [])

namespace Attributes

variable {a : Attributes}

theorem isWellFormed_iff : a.isWellFormed = true ↔ (a.expiry? userId).isSome = true ∧
    ∃ d, Directive.read? (a.directive userId).toList = some d ∧ d.path = some a.path.toList ∧
      d.domainName? = a.domain.map fun s => dropDots s.toList := by
  rw [isWellFormed, Bool.and_eq_true]
  refine and_congr_right fun _ => ?_
  cases Directive.read? (a.directive userId).toList with
  | none => simp
  | some d => simp

end Attributes

end Cookie

namespace Config

open Cookie (IsPlain dropDot dropDots Directive userId)
open Cookie.Attributes (IsReadable isWritable)

/-! ## The checks one by one -/

/-- **The path is absolute and plain, and it may stand in a header.** -/
theorem isCookiePath_iff {path : String} : isCookiePath path = true ↔
    path.toList.head? = some '/' ∧ IsPlain path.toList ∧ isWritable path.toList = true := by
  rw [isCookiePath, Bool.and_eq_true, decide_eq_true_eq, Cookie.Attributes.isWellFormed_iff]
  refine and_congr_right fun _ => ?_
  constructor
  · rintro ⟨hsome, d, hd, hpath, -⟩
    rw [Cookie.Attributes.isSome_expiry?, Bool.and_eq_true,
      Cookie.Attributes.all_isWritable_parts] at hsome
    exact ⟨(Directive.isSettled_of_read? hd).path _ hpath, hsome.2.1⟩
  · rintro ⟨hplain, hwritable⟩
    have hr : IsReadable { path } := ⟨hplain, fun d hd => nomatch hd⟩
    refine ⟨?_, _, Cookie.Attributes.read?_directive hr (by decide +kernel), rfl, rfl⟩
    rw [Cookie.Attributes.isSome_expiry?, Bool.and_eq_true,
      Cookie.Attributes.all_isWritable_parts]
    exact ⟨by decide +kernel, hwritable, fun d hd => nomatch hd⟩

/-- The domain of a cookie as the settings may give it. -/
structure IsDomain (s : List Char) : Prop where
  noBlank : ∀ c ∈ s, Text.isBlank c = false
  noSemicolon : ';' ∉ s
  /-- What is written of it is something. -/
  dropDot_ne_nil : dropDot s ≠ []
  /-- Its leading dots are at most two. -/
  dropDot_dropDot : dropDot (dropDot s) = dropDots s
  isWritable : isWritable (dropDot s) = true

theorem IsDomain.isPlain {s : List Char} (h : IsDomain s) : IsPlain (dropDot s) :=
  ⟨fun hs => h.noSemicolon (Cookie.mem_of_mem_dropDot hs),
    Text.trim_eq_self_of_forall fun c hc => h.noBlank c (Cookie.mem_of_mem_dropDot hc)⟩

/-- A domain comes back next to a plain path. -/
theorem IsDomain.isReadable {a : Cookie.Attributes} (hp : IsPlain a.path.toList)
    (hd : ∀ d, a.domain = some d → IsDomain d.toList) : IsReadable a :=
  ⟨hp, fun d h => ⟨(hd d h).isPlain, (hd d h).dropDot_ne_nil⟩⟩

/-- **The domain is a word that comes back but for its leading dots.** -/
theorem isCookieDomain_iff {domain : String} :
    isCookieDomain domain = true ↔ IsDomain domain.toList := by
  have hroot : IsPlain "/".toList := by decide
  have hrootWritable : isWritable "/".toList = true := by decide
  have huser : Cookie.IsName userId.toList := by decide +kernel
  rw [isCookieDomain, Bool.and_eq_true, Bool.and_eq_true, Bool.not_eq_true', Bool.not_eq_true',
    List.any_eq_false, Cookie.Attributes.isWellFormed_iff, Cookie.Attributes.isSome_expiry?,
    Bool.and_eq_true, Cookie.Attributes.all_isWritable_parts]
  constructor
  · -- what comes back is settled, so what was written is: it has no `;`, and it says something
    rintro ⟨⟨hempty, hblank⟩, ⟨-, -, hwritable⟩, d, hd, -, hdomain⟩
    obtain ⟨s, hs, hdrop⟩ := Option.map_eq_some_iff.1 hdomain
    have hplain : IsPlain s := ((Directive.isSettled_of_read? hd).domain s hs).1
    have hsemicolon : ';' ∉ domain.toList := fun h =>
      hplain.1 (Cookie.mem_of_mem_dropDot (hdrop ▸ Cookie.mem_dropDots_of_mem h (by decide)))
    have hblank : ∀ c ∈ domain.toList, Text.isBlank c = false := by
      intro c hc
      exact Bool.not_eq_true _ ▸ hblank c hc
    have hnil : dropDot domain.toList ≠ [] := by
      intro h
      rcases Cookie.dropDot_eq_nil_iff.1 h with h | h
      · rw [String.toList_eq_nil_iff.1 h] at hempty
        cases hempty
      · -- of a lone dot nothing is written, and no domain comes back
        have hdot : domain = "." := String.toList_inj.1 h
        subst hdot
        have hlost : (Directive.read? (Cookie.Attributes.directive { domain := some "." }
            userId).toList).bind Directive.domain = none := by decide +kernel
        rw [hd] at hlost
        rw [Option.bind_some, hs] at hlost
        cases hlost
    have hr : IsReadable { domain := some domain } := by
      refine ⟨hroot, fun d hd => ?_⟩
      cases hd
      exact ⟨⟨fun h => hsemicolon (Cookie.mem_of_mem_dropDot h),
        Text.trim_eq_self_of_forall fun c hc => hblank c (Cookie.mem_of_mem_dropDot hc)⟩, hnil⟩
    -- now it is known what comes back, and that it has to be the domain without its dots
    rw [Cookie.Attributes.read?_directive hr huser] at hd
    cases hd
    cases hs
    exact ⟨hblank, hsemicolon, hnil, hdrop, hwritable domain rfl⟩
  · intro h
    have hr : IsReadable { domain := some domain } := by
      refine IsDomain.isReadable hroot fun d hd => ?_
      cases hd
      exact h
    refine ⟨⟨?_, ?_⟩, ⟨by decide +kernel, hrootWritable, ?_⟩, _,
      Cookie.Attributes.read?_directive hr huser, rfl, ?_⟩
    · rw [← Bool.not_eq_true, String.isEmpty_iff]
      rintro rfl
      exact h.dropDot_ne_nil rfl
    · intro c hc
      rw [h.noBlank c hc]
      exact Bool.false_ne_true
    · intro d hd
      cases hd
      exact h.isWritable
    · exact congrArg some h.dropDot_dropDot

/-! ## All checks together -/

variable {c : Config}

/-- A configuration is valid if each field is good by itself. -/
theorem isValid_iff_fields : c.isValid = true ↔
    isAddress c.listener.bindAddress = true ∧ c.limits.maxBodyBytes ≠ 0 ∧
      c.limits.requestTimeout ≠ 0 ∧ isCookiePath c.cookies.path = true ∧
      (∀ d, c.cookies.domain = some d → isCookieDomain d = true) ∧
      isLogLevel c.observability.logLevel = true ∧
      (c.observability.metricsEnabled = true →
        isAddress c.observability.metricsAddress = true) := by
  have hmetrics : (c.observability.metricsEnabled = false ∨
        isAddress c.observability.metricsAddress = true) ↔
      (c.observability.metricsEnabled = true →
        isAddress c.observability.metricsAddress = true) := by
    cases c.observability.metricsEnabled with
    | false => simp
    | true => simp
  rw [isValid_iff, problems, List.filterMap_eq_nil_iff, findings]
  simp only [List.forall_mem_cons, id, problemUnless_eq_none_iff, Option.bind_eq_none_iff,
    Bool.or_eq_true, Bool.not_eq_true', decide_eq_true_eq, List.not_mem_nil, false_imp_iff,
    implies_true, and_true, hmetrics]

theorem isValid_standard : standard.isValid = true := by decide +kernel

theorem isCookiePath_of_isValid (h : c.isValid = true) : isCookiePath c.cookies.path = true :=
  (isValid_iff_fields.1 h).2.2.2.1

theorem isCookieDomain_of_isValid (h : c.isValid = true) {d : String}
    (hd : c.cookies.domain = some d) : isCookieDomain d = true :=
  (isValid_iff_fields.1 h).2.2.2.2.1 d hd

/-- **A valid configuration gives attributes that come back.** -/
theorem isReadable_of_isValid (h : c.isValid = true) : c.cookies.IsReadable :=
  IsDomain.isReadable (isCookiePath_iff.1 (isCookiePath_of_isValid h)).2.1
    fun _ hd => isCookieDomain_iff.1 (isCookieDomain_of_isValid h hd)

/-- **A valid configuration gives directives that may stand in a header.** -/
theorem isSome_expiry?_of_isValid (h : c.isValid = true) {name : String}
    (hn : isWritable name.toList = true) : (c.cookies.expiry? name).isSome = true := by
  rw [Cookie.Attributes.isSome_expiry?, hn, Bool.true_and,
    Cookie.Attributes.all_isWritable_parts]
  exact ⟨(isCookiePath_iff.1 (isCookiePath_of_isValid h)).2.2,
    fun _ hd => (isCookieDomain_iff.1 (isCookieDomain_of_isValid h hd)).isWritable⟩

/-- The domain that comes back is the configured one without its leading dots. -/
theorem domainName?_expired_of_isValid (h : c.isValid = true) (name : String) :
    (c.cookies.expired name).domainName? = c.cookies.domain.map fun d => dropDots d.toList := by
  rw [Directive.domainName?, Cookie.Attributes.expired, Option.map_map]
  cases hd : c.cookies.domain with
  | none => rfl
  | some d =>
      exact congrArg some (isCookieDomain_iff.1 (isCookieDomain_of_isValid h hd)).dropDot_dropDot

end Config

end Session
