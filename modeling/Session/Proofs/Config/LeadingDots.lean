import Session.Proofs.Config.CookieSettings

set_option autoImplicit false

/-! # The leading dots of a cookie's domain

Three rules about leading dots meet at the domain of a cookie. Writing drops one dot, reading drops
one more, and the check of the settings compares what is read with the domain without all of its
dots. So two dots pass the check, even with nothing behind them (`Config.isDomain_dotted_iff`). With
at most one dot, what is written is what is read; of two dots one is written, and what is read is
another text (`Config.domain_of_dotted`).
-/

namespace Session

namespace Cookie

/-- The text with so many dots in front of it. -/
def dotted (k : Nat) (s : List Char) : List Char := List.replicate k '.' ++ s

variable {k : Nat} {rest : List Char}

@[simp] theorem dotted_zero (s : List Char) : dotted 0 s = s := rfl

theorem dotted_succ (k : Nat) (s : List Char) : dotted (k + 1) s = '.' :: dotted k s := rfl

/-- Every text has some number of leading dots. -/
theorem exists_eq_dotted (s : List Char) : ∃ k rest, s = dotted k rest ∧ rest.head? ≠ some '.' := by
  induction s with
  | nil => exact ⟨0, [], rfl, by simp⟩
  | cons c s ih =>
      by_cases hc : c = '.'
      · obtain ⟨k, rest, hs, hrest⟩ := ih
        exact ⟨k + 1, rest, by rw [hc, hs, dotted_succ], hrest⟩
      · exact ⟨0, c :: s, rfl, by simpa using hc⟩

theorem dropDot_dotted (h : rest.head? ≠ some '.') :
    dropDot (dotted k rest) = dotted (k - 1) rest := by
  cases k with
  | zero =>
      cases rest with
      | nil => rfl
      | cons c rest =>
          show dropDot (c :: rest) = c :: rest
          unfold dropDot
          split
          · next hc =>
              cases hc
              exact absurd rfl h
          · rfl
  | succ k => rfl

theorem dropDots_dotted (h : rest.head? ≠ some '.') : dropDots (dotted k rest) = rest := by
  induction k with
  | zero =>
      cases rest with
      | nil => rfl
      | cons c rest =>
          have hc : c ≠ '.' := fun hc => h (congrArg some hc)
          exact List.dropWhile_cons_of_neg (by simpa using hc)
  | succ k ih =>
      rw [dotted_succ, dropDots, List.dropWhile_cons_of_pos (by simp)]
      exact ih

theorem dotted_eq_self_iff {s : List Char} : dotted k s = s ↔ k = 0 := by
  constructor
  · intro h
    have hlen := congrArg List.length h
    rw [dotted, List.length_append, List.length_replicate] at hlen
    omega
  · rintro rfl
    rfl

theorem dotted_eq_nil_iff {s : List Char} : dotted k s = [] ↔ k = 0 ∧ s = [] := by
  rw [dotted, List.append_eq_nil_iff, List.replicate_eq_nil_iff]

theorem mem_dotted_iff {s : List Char} {c : Char} (hc : c ≠ '.') : c ∈ dotted k s ↔ c ∈ s := by
  rw [dotted, List.mem_append, List.mem_replicate]
  constructor
  · rintro (⟨-, rfl⟩ | h)
    · exact absurd rfl hc
    · exact h
  · exact Or.inr

theorem head?_dotted_iff (h : rest.head? ≠ some '.') :
    (dotted k rest).head? = some '.' ↔ 0 < k := by
  cases k with
  | zero => simpa using h
  | succ k => simp [dotted_succ]

theorem Attributes.isWritable_dotted (k : Nat) (s : List Char) :
    isWritable (dotted k s) = isWritable s := by
  have hdots : isWritable (List.replicate k '.') = true := by
    induction k with
    | zero => rfl
    | succ k ih =>
        have hdot : isWritable ['.'] = true := by decide
        rw [List.replicate_succ, ← List.singleton_append, isWritable_append, hdot, ih]
        rfl
  rw [dotted, isWritable_append, hdots, Bool.true_and]

end Cookie

namespace Config

open Cookie (dotted dropDot dropDots Directive userCookies)
open Cookie.Attributes (isWritable)

/-! ## The check -/

/-- What may stand behind the leading dots of a domain. -/
structure IsWord (s : List Char) : Prop where
  noBlank : ∀ c ∈ s, Text.isBlank c = false
  noSemicolon : ';' ∉ s
  isWritable : isWritable s = true

variable {c : Config} {domain : String} {k : Nat} {rest : List Char}

theorem isDomain_dotted_iff (h : rest.head? ≠ some '.') :
    IsDomain (dotted k rest) ↔ IsWord rest ∧ k ≤ 2 ∧ (rest = [] → k = 2) := by
  have hblank : (∀ c ∈ dotted k rest, Text.isBlank c = false)
      ↔ ∀ c ∈ rest, Text.isBlank c = false := by
    refine forall_congr' fun c => ?_
    by_cases hc : c = '.'
    · have hdot : Text.isBlank c = false := by
        rw [hc]
        decide
      exact iff_of_true (fun _ => hdot) (fun _ => hdot)
    · rw [Cookie.mem_dotted_iff hc]
  have hsemicolon : ';' ∉ dotted k rest ↔ ';' ∉ rest :=
    not_congr (Cookie.mem_dotted_iff (by decide))
  have hnil : dropDot (dotted k rest) ≠ [] ↔ (rest = [] → 2 ≤ k) := by
    rw [Cookie.dropDot_dotted h, Ne, Cookie.dotted_eq_nil_iff, not_and']
    exact imp_congr_right fun _ => by omega
  have htwice : dropDot (dropDot (dotted k rest)) = dropDots (dotted k rest) ↔ k ≤ 2 := by
    rw [Cookie.dropDot_dotted h, Cookie.dropDot_dotted h, Cookie.dropDots_dotted h,
      Cookie.dotted_eq_self_iff]
    omega
  have hwritable : isWritable (dropDot (dotted k rest)) = isWritable rest := by
    rw [Cookie.dropDot_dotted h, Cookie.Attributes.isWritable_dotted]
  constructor
  · intro hd
    have hk : k ≤ 2 := htwice.1 hd.dropDot_dropDot
    exact ⟨⟨hblank.1 hd.noBlank, hsemicolon.1 hd.noSemicolon, hwritable ▸ hd.isWritable⟩, hk,
      fun hrest => hk.antisymm (hnil.1 hd.dropDot_ne_nil hrest)⟩
  · rintro ⟨hw, hk, hrest⟩
    exact ⟨hblank.2 hw.noBlank, hsemicolon.2 hw.noSemicolon, hnil.2 fun hr => (hrest hr).ge,
      htwice.2 hk, hwritable.trans hw.isWritable⟩

theorem isValid_iff_of_domain (hc : c.cookies.domain = some domain) : c.isValid = true ↔
    ({ c with cookies.domain := none } : Config).isValid = true ∧ isCookieDomain domain = true := by
  rw [isValid_iff_fields, isValid_iff_fields, hc]
  simp only [Option.some.injEq, forall_eq', reduceCtorEq, false_imp_iff, implies_true, true_and]
  tauto

/-! ## What is written and what comes back -/

theorem toList_directive (a : Cookie.Attributes) (hd : a.domain = some domain) (name : String) :
    (a.directive name).toList = name.toList ++ "=; Path=".toList ++ a.path.toList
      ++ "; Domain=".toList ++ dropDot domain.toList
      ++ "; Max-Age=0; Expires=Thu, 01 Jan 1970 00:00:00 GMT".toList := by
  rw [Cookie.Attributes.directive, String.toList_ofList, Cookie.Attributes.render_removal,
    Cookie.Attributes.parts, hd]
  simp [List.flatMap_cons]

/-- **What becomes of a domain with leading dots.** Among settings that are good otherwise it is
accepted with up to two of them, and a text of dots alone with exactly two. What is written of an
accepted domain has one dot less, and says something. What is read back has none at all: that is
what was written, unless there were two. -/
theorem domain_of_dotted (c : Config) (domain : String) (hc : c.cookies.domain = some domain) :
    ∃ k rest, domain.toList = dotted k rest ∧ rest.head? ≠ some '.' ∧
      (c.isValid = true ↔ ({ c with cookies.domain := none } : Config).isValid = true ∧
        IsWord rest ∧ k ≤ 2 ∧ (rest = [] → k = 2)) ∧
      (c.isValid = true → ∀ name ∈ userCookies,
        let written := dropDot domain.toList
        (c.cookies.directive name).toList = name.toList ++ "=; Path=".toList
          ++ c.cookies.path.toList ++ "; Domain=".toList ++ written
          ++ "; Max-Age=0; Expires=Thu, 01 Jan 1970 00:00:00 GMT".toList ∧
        written ≠ [] ∧ (written.head? = some '.' ↔ k = 2) ∧
        ∃ read, Directive.read? (c.cookies.directive name).toList = some read ∧
          read.domainName? = some rest ∧ (rest = written ↔ k ≤ 1)) := by
  obtain ⟨k, rest, hdomain, hrest⟩ := Cookie.exists_eq_dotted domain.toList
  have hwritten : dropDot domain.toList = dotted (k - 1) rest := by
    rw [hdomain, Cookie.dropDot_dotted hrest]
  refine ⟨k, rest, hdomain, hrest, ?_, fun hvalid name hname => ?_⟩
  · rw [isValid_iff_of_domain hc, isCookieDomain_iff, hdomain, isDomain_dotted_iff hrest]
  · have hd : IsDomain domain.toList := isCookieDomain_iff.1 (isCookieDomain_of_isValid hvalid hc)
    obtain ⟨-, hk, -⟩ := (isDomain_dotted_iff hrest).1 (hdomain ▸ hd)
    refine ⟨toList_directive c.cookies hc name, hd.dropDot_ne_nil, ?_, _,
      Cookie.Attributes.read?_directive (isReadable_of_isValid hvalid)
        (Cookie.isName_of_mem_userCookies hname), ?_, ?_⟩
    · rw [hwritten, Cookie.head?_dotted_iff hrest]
      omega
    · rw [domainName?_expired_of_isValid hvalid, hc, Option.map_some, hdomain,
        Cookie.dropDots_dotted hrest]
    · rw [hwritten, eq_comm, Cookie.dotted_eq_self_iff]
      omega

/-- The settings as they are by default, but for the domain. -/
def forDomain (domain : String) : Config := { standard with cookies.domain := some domain }

theorem isValid_forDomain : (forDomain domain).isValid = true ↔ IsDomain domain.toList := by
  have hc : (forDomain domain).cookies.domain = some domain := rfl
  rw [isValid_iff_of_domain hc, isCookieDomain_iff]
  exact and_iff_right isValid_standard

theorem isWord_example : IsWord "example.com".toList := by
  have hall : ("example.com".toList.all fun c => Text.isBlank c = false) = true := by decide
  exact ⟨by simpa only [List.all_eq_true, decide_eq_true_eq] using hall, by decide,
    by decide +kernel⟩

/-- One leading dot is dropped in writing, and the domain comes back as it was written. -/
theorem domain_of_one_dot :
    (forDomain ".example.com").cookies.domain = some ".example.com" ∧
    (forDomain ".example.com").isValid = true ∧ Cookie.userId ∈ userCookies ∧
    ∃ read, Directive.read?
        ((forDomain ".example.com").cookies.directive Cookie.userId).toList = some read ∧
      read.domainName? = some "example.com".toList := by
  have hvalid : (forDomain ".example.com").isValid = true :=
    isValid_forDomain.2 ((isDomain_dotted_iff (k := 1) (by decide)).2
      ⟨isWord_example, by decide, by decide⟩)
  refine ⟨rfl, hvalid, by decide, ?_⟩
  obtain ⟨k, rest, hdomain, hrest, -, hdirective⟩ :=
    domain_of_dotted (forDomain ".example.com") ".example.com" rfl
  have hdrop : "example.com".toList = rest := by
    rw [← Cookie.dropDots_dotted hrest, ← hdomain]
    decide
  obtain ⟨-, -, -, read, hread, hname, -⟩ := hdirective hvalid Cookie.userId (by decide)
  exact ⟨read, hread, hdrop ▸ hname⟩

/-- What comes back from a directive names the domain without its dots. -/
theorem domainName?_directive (hc : c.isValid = true) {name : String} (hn : name ∈ userCookies) :
    (Directive.read? (c.cookies.directive name).toList).bind Directive.domainName?
      = c.cookies.domain.map fun d => dropDots d.toList := by
  rw [Cookie.Attributes.read?_directive (isReadable_of_isValid hc)
    (Cookie.isName_of_mem_userCookies hn), Option.bind_some, domainName?_expired_of_isValid hc]

/-- **Two dots are accepted.** A dot is written as the domain, and no domain is named by what comes
back. Where a word stands behind the dots it comes back, but it is not what was written. -/
theorem isValid_of_two_dots :
    (forDomain "..").isValid = true ∧ (forDomain "..example.com").isValid = true ∧
    ∀ name ∈ userCookies,
      ((forDomain "..").cookies.directive name).toList = name.toList
        ++ "=; Path=/; Domain=.; Max-Age=0; Expires=Thu, 01 Jan 1970 00:00:00 GMT".toList ∧
      (Directive.read? ((forDomain "..").cookies.directive name).toList).bind
        Directive.domainName? = some [] ∧
      ((forDomain "..example.com").cookies.directive name).toList = name.toList
        ++ "=; Path=/; Domain=.example.com; Max-Age=0; Expires=Thu, 01 Jan 1970 00:00:00 GMT".toList
        ∧
      (Directive.read? ((forDomain "..example.com").cookies.directive name).toList).bind
        Directive.domainName? = some "example.com".toList := by
  have hdots : (forDomain "..").isValid = true :=
    isValid_forDomain.2 ((isDomain_dotted_iff (k := 2) (by decide)).2
      ⟨⟨List.forall_mem_nil _, List.not_mem_nil, rfl⟩, by decide, by decide⟩)
  have hword : (forDomain "..example.com").isValid = true :=
    isValid_forDomain.2 ((isDomain_dotted_iff (k := 2) (by decide)).2
      ⟨isWord_example, by decide, by decide⟩)
  refine ⟨hdots, hword, fun name hname => ⟨?_, ?_, ?_, ?_⟩⟩
  · rw [toList_directive _ rfl]
    simp only [List.append_assoc]
    rfl
  · exact domainName?_directive hdots hname
  · rw [toList_directive _ rfl]
    simp only [List.append_assoc]
    rfl
  · exact domainName?_directive hword hname

end Config

end Session
