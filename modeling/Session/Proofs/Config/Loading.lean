import Session.Config.File
import Session.Proofs.Config.Reporting
import Session.Proofs.Text.Utf8

set_option autoImplicit false

/-! # What loading a file comes to

The content of a file has to be bytes, a text, a document, a configuration, and a good one, in
this order. `Loads` says what comes of it at each of these stages, and `load_eq_iff` that loading
does just that. So what is loaded is valid (`isValid_of_loads`).
-/

namespace Session.Config

theorem isValid_iff_forall_passes {c : Config} : c.isValid = true ↔ ∀ k : Check, k.Passes c :=
  isValid_iff.trans problems_eq_nil_iff

/-- What comes of the content of the file at a path: the configuration in it, or the error of the
first stage that fails. -/
inductive Loads (path : String) : Except Files.Fault Bytes → Except LoadError Config → Prop
  /-- There is no content. -/
  | unreadable (fault : Files.Fault) : Loads path (.error fault) (.error (.unreadable path fault))
  /-- The bytes are the encoding of no text. -/
  | notText {bs : Bytes} (h : ∀ s, utf8 s ≠ bs) :
      Loads path (.ok bs) (.error (.unreadable path .notText))
  /-- The text is no document. -/
  | notDocument {s : String} (h : Toml.parse? s.toList = none) :
      Loads path (.ok (utf8 s)) (.error (.unusable .syntaxError))
  /-- A value of the document does not fit. -/
  | misfit {s : String} {document : Toml.Entries} {m : Misfit}
      (hd : Toml.parse? s.toList = some document) (hm : overlay document = .error m) :
      Loads path (.ok (utf8 s))
        (.error (.unusable (.misfit (Toml.excerpt s.toList m.span m.message))))
  /-- A field of the configuration is bad. -/
  | invalid {s : String} {document : Toml.Entries} {c : Config}
      (hd : Toml.parse? s.toList = some document) (hc : overlay document = .ok c)
      (hbad : ∃ k : Check, ¬ k.Passes c) :
      Loads path (.ok (utf8 s)) (.error (.unusable (.invalid c.problems)))
  /-- All fields are good. -/
  | good {s : String} {document : Toml.Entries} {c : Config}
      (hd : Toml.parse? s.toList = some document) (hc : overlay document = .ok c)
      (hgood : ∀ k : Check, k.Passes c) : Loads path (.ok (utf8 s)) (.ok c)

/-! ## The stages of a file -/

variable {read : Files.Reader} {path : String} {result : Except LoadError Config}

theorem load_of_fault {fault : Files.Fault} (h : read path = .error fault) :
    load read path = .error (.unreadable path fault) := by
  have ht : read.text path = .error fault := by
    simp only [Files.Reader.text, h, bind, Except.bind]
  rw [load, ht]

theorem load_of_notText {bs : Bytes} (h : read path = .ok bs) (hbs : ∀ s, utf8 s ≠ bs) :
    load read path = .error (.unreadable path .notText) := by
  have ht : read.text path = .error .notText := by
    simp only [Files.Reader.text, h, bind, Except.bind, textOf?_eq_none_iff.2 hbs]
  rw [load, ht]

theorem load_of_text {s : String} (h : read path = .ok (utf8 s)) :
    load read path = (parse s).mapError .unusable := by
  have ht : read.text path = .ok s := by
    simp only [Files.Reader.text, h, bind, Except.bind, textOf?_eq_some_iff.2 rfl]
  rw [load, ht]
  dsimp only
  cases parse s <;> rfl

/-! ## The stages of a text -/

section Text

variable {s : String} {document : Toml.Entries} {c : Config}

theorem parse_of_notDocument (h : Toml.parse? s.toList = none) : parse s = .error .syntaxError := by
  rw [parse, h]

theorem parse_of_misfit {m : Misfit} (hd : Toml.parse? s.toList = some document)
    (hm : overlay document = .error m) :
    parse s = .error (.misfit (Toml.excerpt s.toList m.span m.message)) := by
  rw [parse, hd]
  simp only [hm]

theorem parse_of_fits (hd : Toml.parse? s.toList = some document) (hc : overlay document = .ok c) :
    parse s = c.validated := by
  rw [parse, hd]
  simp only [hc]

theorem validated_of_good (h : ∀ k : Check, k.Passes c) : c.validated = .ok c :=
  validated_eq_ok_iff.2 ⟨isValid_iff_forall_passes.2 h, rfl⟩

theorem validated_of_bad (h : ∃ k : Check, ¬ k.Passes c) :
    c.validated = .error (.invalid c.problems) :=
  if_neg (mt isValid_iff_forall_passes.1 (not_forall.2 h))

end Text

/-! ## All stages -/

/-- Loading gets as far as the content allows. -/
theorem loads_load (read : Files.Reader) (path : String) :
    Loads path (read path) (load read path) := by
  cases hr : read path with
  | error fault =>
      rw [load_of_fault hr]
      exact .unreadable fault
  | ok bs =>
      by_cases hbs : ∀ s, utf8 s ≠ bs
      · rw [load_of_notText hr hbs]
        exact .notText hbs
      · obtain ⟨s, hs⟩ := not_forall.1 hbs
        obtain rfl : utf8 s = bs := not_not.1 hs
        rw [load_of_text hr]
        cases hd : Toml.parse? s.toList with
        | none =>
            rw [parse_of_notDocument hd]
            exact .notDocument hd
        | some document =>
            cases hc : overlay document with
            | error m =>
                rw [parse_of_misfit hd hc]
                exact .misfit hd hc
            | ok c =>
                rw [parse_of_fits hd hc]
                by_cases hgood : ∀ k : Check, k.Passes c
                · rw [validated_of_good hgood]
                  exact .good hd hc hgood
                · rw [validated_of_bad (not_forall.1 hgood)]
                  exact .invalid hd hc (not_forall.1 hgood)

theorem Loads.load_eq (h : Loads path (read path) result) : load read path = result := by
  generalize hr : read path = content at h
  cases h with
  | unreadable fault => exact load_of_fault hr
  | notText hbs => exact load_of_notText hr hbs
  | notDocument hd => rw [load_of_text hr, parse_of_notDocument hd, Except.mapError]
  | misfit hd hm => rw [load_of_text hr, parse_of_misfit hd hm, Except.mapError]
  | invalid hd hc hbad =>
      rw [load_of_text hr, parse_of_fits hd hc, validated_of_bad hbad, Except.mapError]
  | good hd hc hgood =>
      rw [load_of_text hr, parse_of_fits hd hc, validated_of_good hgood, Except.mapError]

/-- **What loading comes to is what the content of the file calls for.** -/
theorem load_eq_iff : load read path = result ↔ Loads path (read path) result :=
  ⟨fun h => h ▸ loads_load read path, Loads.load_eq⟩

theorem isValid_of_loads {content : Except Files.Fault Bytes} {c : Config}
    (h : Loads path content (.ok c)) : c.isValid = true := by
  cases h with
  | good hd hc hgood => exact isValid_iff_forall_passes.2 hgood

end Session.Config
