import Session.Cookie.Attributes
import Session.Proofs.Text.Cutting

set_option autoImplicit false

/-! # What a directive gives back

Writing escapes nothing, so a text comes back from a directive only if it is plain: it holds no
`;`, and no blank stands at either end. Reading gives plain texts only, whatever is read
(`isSettled_of_read?`), and attributes that are plain come back from the directive that expires a
cookie (`read?_removal`). From attributes that are not plain anything may be read, but still a
cookie without a value and without time left (`read?_directive_expires`).
-/

namespace Session.Cookie

/-! ## Plain texts -/

/-- A text that a directive can carry: without `;`, and without blanks at its ends. -/
def IsPlain (s : List Char) : Prop := ';' ∉ s ∧ Text.trim s = s

instance (s : List Char) : Decidable (IsPlain s) := inferInstanceAs (Decidable (_ ∧ _))

theorem isPlain_trim {s : List Char} (h : ';' ∉ s) : IsPlain (Text.trim s) :=
  ⟨fun hc => h (Text.mem_of_mem_trim hc), Text.trim_trim s⟩

/-- A text that a directive can name a cookie by. -/
def IsName (s : List Char) : Prop := s ≠ [] ∧ '=' ∉ s ∧ IsPlain s

instance (s : List Char) : Decidable (IsName s) := inferInstanceAs (Decidable (_ ∧ _))

theorem isName_of_mem_userCookies {name : String} (h : name ∈ userCookies) :
    IsName name.toList := by
  have hall : ∀ n ∈ userCookies, IsName n.toList := by decide +kernel
  exact hall name h

/-! ## Reading -/

namespace Directive

/-- The path and the domain are plain, and the domain says something. -/
structure IsSettled (d : Directive) : Prop where
  path : ∀ p, d.path = some p → IsPlain p
  domain : ∀ s, d.domain = some s → IsPlain s ∧ s ≠ []

variable {d : Directive} {part : List Char}

/-- One attribute keeps a directive settled. -/
theorem IsSettled.readAttribute (h : d.IsSettled) (hp : ';' ∉ part) :
    (d.readAttribute part).IsSettled := by
  unfold Directive.readAttribute
  cases hc : Text.cut? '=' part with
  | none =>
      -- without a value it is an attribute of another name
      dsimp only
      split <;> first | contradiction | exact ⟨h.path, h.domain⟩
  | some c =>
      obtain ⟨n, v⟩ := c
      have hv : IsPlain (Text.trim v) := isPlain_trim fun hs => hp (Text.mem_of_cut? hc _ hs)
      dsimp only
      generalize Text.trim v = v at hv
      split
      · next hw =>
          cases hw
          refine ⟨fun p hp => ?_, h.domain⟩
          cases hp
          exact hv
      · next hw =>
          cases hw
          split
          · exact h
          · next hne =>
              refine ⟨h.path, fun s hs => ?_⟩
              cases hs
              exact ⟨hv, fun he => hne (List.isEmpty_iff.2 he)⟩
      · split
        · exact ⟨h.path, h.domain⟩
        · exact h
      · split
        · exact ⟨h.path, h.domain⟩
        · exact h
      · exact ⟨h.path, h.domain⟩

theorem IsSettled.foldl_readAttribute {parts : List (List Char)} (h : d.IsSettled)
    (hp : ∀ part ∈ parts, ';' ∉ part) : (parts.foldl Directive.readAttribute d).IsSettled := by
  induction parts generalizing d with
  | nil => exact h
  | cons part parts ih =>
      exact ih (h.readAttribute (hp part List.mem_cons_self))
        fun q hq => hp q (List.mem_cons_of_mem _ hq)

/-- **Whatever is read, the path and the domain that come out of it are plain.** -/
theorem isSettled_of_read? {s : List Char} (h : read? s = some d) : d.IsSettled := by
  have hpieces : ∀ p ∈ Text.pieces ';' s, ';' ∉ p := fun _ => Text.separator_notMem_of_mem_pieces
  rw [read?] at h
  generalize Text.pieces ';' s = ps at h hpieces
  cases ps with
  | nil => cases h
  | cons first rest =>
      dsimp only at h
      split at h
      · cases h
      · split at h
        · cases h
        · cases h
          refine IsSettled.foldl_readAttribute ⟨?_, ?_⟩ fun p hp =>
            hpieces p (List.mem_cons_of_mem _ hp)
          · intro p hp
            cases hp
          · intro p hp
            cases hp

/-! ## Taking one attribute -/

/-- No attribute changes the name or the value. -/
theorem readAttribute_name_value (d : Directive) (part : List Char) :
    (d.readAttribute part).name = d.name ∧ (d.readAttribute part).value = d.value := by
  unfold Directive.readAttribute
  dsimp only
  split
  · exact ⟨rfl, rfl⟩
  · split <;> exact ⟨rfl, rfl⟩
  · split <;> exact ⟨rfl, rfl⟩
  · split <;> exact ⟨rfl, rfl⟩
  · exact ⟨rfl, rfl⟩

theorem foldl_readAttribute_name_value (parts : List (List Char)) (d : Directive) :
    (parts.foldl Directive.readAttribute d).name = d.name ∧
      (parts.foldl Directive.readAttribute d).value = d.value := by
  induction parts generalizing d with
  | nil => exact ⟨rfl, rfl⟩
  | cons part parts ih =>
      obtain ⟨hname, hvalue⟩ := readAttribute_name_value d part
      exact ⟨(ih _).1.trans hname, (ih _).2.trans hvalue⟩

theorem readAttribute_path {p : List Char} (hp : IsPlain p) :
    d.readAttribute (" Path=".toList ++ p) = { d with path := some p } := by
  have hcut : Text.cut? '=' (" Path=".toList ++ p) = some (" Path".toList, p) :=
    Text.cut?_append (s := " Path".toList) (by decide) p
  rw [Directive.readAttribute, hcut]
  dsimp only
  rw [hp.2]
  rfl

theorem readAttribute_domain {s : List Char} (hs : IsPlain s) (hne : s ≠ []) :
    d.readAttribute (" Domain=".toList ++ s) = { d with domain := some s } := by
  have hcut : Text.cut? '=' (" Domain=".toList ++ s) = some (" Domain".toList, s) :=
    Text.cut?_append (s := " Domain".toList) (by decide) s
  rw [Directive.readAttribute, hcut]
  dsimp only
  rw [hs.2]
  show (if s.isEmpty = true then d else { d with domain := some s }) = _
  rw [if_neg (by rwa [List.isEmpty_iff])]

theorem readAttribute_maxAge :
    d.readAttribute " Max-Age=0".toList = { d with maxAge := some 0 } := rfl

theorem readAttribute_expires :
    d.readAttribute " Expires=Thu, 01 Jan 1970 00:00:00 GMT".toList
      = { d with expires := some 0 } := rfl

end Directive

/-! ## The directive that expires a cookie -/

namespace Attributes

variable {a : Attributes} {name : String}

/-- The path comes back from a directive, and so does what is written of the domain. -/
structure IsReadable (a : Attributes) : Prop where
  path : IsPlain a.path.toList
  domain : ∀ d, a.domain = some d → IsPlain (dropDot d.toList) ∧ dropDot d.toList ≠ []

/-- What stands behind the name, between one `;` and the next. -/
def parts (a : Attributes) : List (List Char) :=
  (" Path=".toList ++ a.path.toList) ::
    (a.domain.elim [] fun d => [" Domain=".toList ++ dropDot d.toList])
    ++ [" Max-Age=0".toList, " Expires=Thu, 01 Jan 1970 00:00:00 GMT".toList]

theorem render_removal (a : Attributes) (name : String) :
    (a.removal name).render = (name.toList ++ ['=']) ++ a.parts.flatMap (';' :: ·) := by
  -- what does not depend on the attributes is evaluated
  have hmaxAge : Directive.written "Max-Age" (Text.digitsIn 10 0) = ';' :: " Max-Age=0".toList :=
    rfl
  have hexpires : Directive.written "Expires" (Date.render 0)
      = ';' :: " Expires=Thu, 01 Jan 1970 00:00:00 GMT".toList := rfl
  have hdomain : (((a.domain.map String.toList).map dropDot).elim []
        (Directive.written "Domain"))
      = (a.domain.elim [] fun d => [" Domain=".toList ++ dropDot d.toList]).flatMap
        (';' :: ·) := by
    cases a.domain with
    | none => rfl
    | some s => exact (List.append_nil _).symm
  have hpath : Directive.written "Path" a.path.toList
      = ';' :: (" Path=".toList ++ a.path.toList) := rfl
  simp only [Directive.render, removal, Directive.domainName?, parts, hdomain,
    Option.elim_some, hpath, hmaxAge, hexpires, List.flatMap_nil, List.flatMap_append,
    List.flatMap_cons, List.append_nil, List.append_assoc, List.cons_append]

theorem notMem_parts (ha : a.IsReadable) : ∀ p ∈ a.parts, ';' ∉ p := by
  have hpath : ';' ∉ " Path=".toList ++ a.path.toList := by
    rw [List.mem_append, not_or]
    exact ⟨by decide, ha.path.1⟩
  have hdomain : ∀ p ∈ a.domain.elim [] fun d => [" Domain=".toList ++ dropDot d.toList],
      ';' ∉ p := by
    intro p hp
    cases hd : a.domain with
    | none => simp [hd] at hp
    | some d =>
        rw [hd, Option.elim_some, List.mem_singleton] at hp
        rw [hp, List.mem_append, not_or]
        exact ⟨by decide, (ha.domain d hd).1.1⟩
  intro p hp
  simp only [parts, List.cons_append, List.mem_cons, List.mem_append, List.not_mem_nil,
    or_false] at hp
  rcases hp with rfl | hp | rfl | rfl
  · exact hpath
  · exact hdomain p hp
  · decide
  · decide

/-- Taking the parts one by one gives the path, the domain, and no time left to live. -/
theorem foldl_parts (ha : a.IsReadable) (d : Directive) :
    a.parts.foldl Directive.readAttribute d = { d with
      path := some a.path.toList
      domain := (a.domain.map fun s => dropDot s.toList).or d.domain
      maxAge := some 0
      expires := some 0 } := by
  rw [parts, List.cons_append, List.foldl_cons, List.foldl_append,
    Directive.readAttribute_path ha.path]
  simp only [List.foldl_cons, List.foldl_nil, Directive.readAttribute_maxAge,
    Directive.readAttribute_expires]
  cases hd : a.domain with
  | none => rfl
  | some s =>
      obtain ⟨hs, hne⟩ := ha.domain s hd
      simp only [Option.elim_some, List.foldl_cons, List.foldl_nil,
        Directive.readAttribute_domain hs hne]
      rfl

/-- What is read from a directive that expires a cookie. -/
def expired (a : Attributes) (name : String) : Directive where
  name := name.toList
  value := []
  path := some a.path.toList
  domain := a.domain.map fun s => dropDot s.toList
  maxAge := some 0
  expires := some 0

/-- **What expires a cookie comes back as it was meant.** -/
theorem read?_removal (ha : a.IsReadable) (hn : IsName name.toList) :
    Directive.read? (a.removal name).render = some (a.expired name) := by
  obtain ⟨hne, heq, hplain⟩ := hn
  have hfirst : ';' ∉ name.toList ++ ['='] := by
    rw [List.mem_append, not_or]
    exact ⟨hplain.1, by decide⟩
  -- cutting at each `;` gives the name with its `=`, and the parts
  rw [Directive.read?, render_removal, Text.pieces_append_flatMap _ (notMem_parts ha),
    Text.pieces_of_notMem hfirst, List.singleton_append]
  dsimp only
  rw [Text.cut?_append heq]
  dsimp only
  rw [hplain.2, if_neg (by rwa [List.isEmpty_iff]), foldl_parts ha, Option.or_none]
  rfl

/-- The directive that expires a cookie, read back. -/
theorem read?_directive (ha : a.IsReadable) (hn : IsName name.toList) :
    Directive.read? (a.directive name).toList = some (a.expired name) := by
  rw [directive, String.toList_ofList]
  exact read?_removal ha hn

/-- **Whatever the attributes are, no value and no time are left to the cookie.** A path or a
domain that holds a `;` gives other attributes, but those that expire the cookie come behind. -/
theorem read?_directive_expires (a : Attributes) (hn : IsName name.toList) :
    ∃ d, Directive.read? (a.directive name).toList = some d ∧ d.name = name.toList ∧
      d.value = [] ∧ d.maxAge = some 0 ∧ d.expires = some 0 := by
  obtain ⟨hne, heq, hplain⟩ := hn
  have hfirst : ';' ∉ name.toList ++ ['='] := by
    rw [List.mem_append, not_or]
    exact ⟨hplain.1, by decide⟩
  have hlast : ∀ p ∈ [" Max-Age=0".toList, " Expires=Thu, 01 Jan 1970 00:00:00 GMT".toList],
      ';' ∉ p := by decide
  -- what stands between the name and the last two parts may be cut in any way
  obtain ⟨rest, hrest⟩ : ∃ rest, Text.pieces ';' (a.directive name).toList
      = (name.toList ++ ['=']) :: rest
        ++ [" Max-Age=0".toList, " Expires=Thu, 01 Jan 1970 00:00:00 GMT".toList] := by
    rw [directive, String.toList_ofList, render_removal, parts, List.flatMap_append,
      ← List.append_assoc, Text.pieces_append_flatMap _ hlast, List.flatMap_cons,
      List.cons_append, Text.pieces_append_cons, Text.pieces_of_notMem hfirst]
    exact ⟨_, rfl⟩
  rw [Directive.read?, hrest, List.cons_append]
  dsimp only
  rw [Text.cut?_append heq]
  dsimp only
  rw [hplain.2, if_neg (by rwa [List.isEmpty_iff]), List.foldl_append, List.foldl_cons,
    List.foldl_cons, List.foldl_nil, Directive.readAttribute_maxAge,
    Directive.readAttribute_expires]
  obtain ⟨hname, hvalue⟩ := Directive.foldl_readAttribute_name_value rest
    { name := name.toList, value := Text.trim [] }
  exact ⟨_, rfl, hname, hvalue, rfl, rfl⟩

/-! ## Header values -/

/-- Every byte of the text may stand in a header. -/
def isWritable (s : List Char) : Bool := (Text.Utf8.encode s).all Http.isValueByte

theorem isWritable_append (s t : List Char) :
    isWritable (s ++ t) = (isWritable s && isWritable t) := by
  rw [isWritable, Text.Utf8.encode_append, List.all_append]
  rfl

theorem isWritable_flatMap (parts : List (List Char)) :
    isWritable (parts.flatMap (';' :: ·)) = parts.all isWritable := by
  induction parts with
  | nil => rfl
  | cons p parts ih =>
      have hp : isWritable (';' :: p) = isWritable p := isWritable_append [';'] p
      rw [List.flatMap_cons, isWritable_append, ih, hp, List.all_cons]

theorem isWritable_of_mem_userCookies {name : String} (h : name ∈ userCookies) :
    isWritable name.toList = true := by
  have hall : ∀ n ∈ userCookies, isWritable n.toList = true := by decide +kernel
  exact hall name h

/-- The directive may stand in a header if its name and its parts may. -/
theorem isSome_expiry? (a : Attributes) (name : String) :
    (a.expiry? name).isSome = (isWritable name.toList && a.parts.all isWritable) := by
  have hequals : isWritable ['='] = true := by decide
  rw [expiry?, Http.Value.ofText?, Http.Value.ofBytes?_isSome, utf8, directive,
    String.toList_ofList, render_removal]
  show isWritable _ = _
  rw [isWritable_append, isWritable_append, hequals, Bool.and_true, isWritable_flatMap]

theorem all_isWritable_parts (a : Attributes) :
    a.parts.all isWritable = true ↔ isWritable a.path.toList = true ∧
      ∀ d, a.domain = some d → isWritable (dropDot d.toList) = true := by
  have hpath : isWritable " Path=".toList = true := by decide +kernel
  have hdomain : isWritable " Domain=".toList = true := by decide +kernel
  have hmaxAge : isWritable " Max-Age=0".toList = true := by decide +kernel
  have hexpires : isWritable " Expires=Thu, 01 Jan 1970 00:00:00 GMT".toList = true := by
    decide +kernel
  have hend : [" Max-Age=0".toList, " Expires=Thu, 01 Jan 1970 00:00:00 GMT".toList].all
      isWritable = true := by
    rw [List.all_cons, List.all_cons, hmaxAge, hexpires]
    rfl
  rw [parts, List.cons_append, List.all_cons, List.all_append, isWritable_append, hpath, hend,
    Bool.true_and, Bool.and_true, Bool.and_eq_true]
  refine and_congr_right fun _ => ?_
  cases a.domain with
  | none => simp
  | some d =>
      rw [Option.elim_some, List.all_cons, isWritable_append, hdomain]
      simp

end Attributes

end Session.Cookie
