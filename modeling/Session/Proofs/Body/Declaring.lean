import Session.Body.Request
import Session.Proofs.Text.Numeral
import Session.Proofs.Text.Utf8

set_option autoImplicit false

/-! # What a request declares

The length that a request declares is told by the bytes of its first `content-length` value: spaces
and tabs around a numeral (`Declares`), perhaps with a plus sign in front. The number is read if it
has 64 bits (`declaredLength_eq_some_iff`), and a greater one is read as no declaration at all
(`declaredLength_of_declares`).
-/

namespace Session

/-! ## Values in ASCII -/

namespace Http

/-- A visible ASCII character, a space or a tab. -/
def IsVisible (c : Char) : Prop := c = '\t' ∨ 0x20 ≤ c.toNat ∧ c.toNat < 0x7F

theorem IsVisible.toNat_lt {c : Char} (hc : IsVisible c) : c.toNat < 0x80 := by
  rcases hc with rfl | ⟨-, h⟩
  · decide
  · omega

namespace Value

variable {v : Value} {t : List Char}

theorem encode_of_ascii (ht : ∀ c ∈ t, c.toNat < 0x80) :
    Text.Utf8.encode t = t.map fun c => UInt8.ofNat c.toNat := by
  induction t with
  | nil => rfl
  | cons c t ih =>
      have hc : c.val.toNat < 0x80 := ht c List.mem_cons_self
      rw [Text.Utf8.encode_cons, Text.Utf8.utf8EncodeChar_of_lt hc,
        ih fun d hd => ht d (List.mem_cons_of_mem c hd)]
      rfl

/-- A value of visible characters, spaces and tabs is read as it was written. -/
theorem ascii?_of_bytes (hv : v.bytes = Text.Utf8.encode t) (ht : ∀ c ∈ t, IsVisible c) :
    v.ascii? = some t := by
  have hbyte : ∀ c ∈ t, (UInt8.ofNat c.toNat).toNat = c.toNat := by
    intro c hc
    have := (ht c hc).toNat_lt
    exact Text.Utf8.Decoder.toNat_ofNat (by omega)
  rw [encode_of_ascii fun c hc => (ht c hc).toNat_lt] at hv
  have hall : (v.bytes.all fun b => (32 ≤ b && b < 127) || b == 9) = true := by
    rw [hv, List.all_map, List.all_eq_true]
    intro c hc
    rcases ht c hc with rfl | ⟨hl, hh⟩
    · decide
    · have h32 : (32 : UInt8) ≤ UInt8.ofNat c.toNat := UInt8.le_iff_toNat_le.2 (by
        rw [hbyte c hc]
        exact hl)
      have h127 : UInt8.ofNat c.toNat < (127 : UInt8) := UInt8.lt_iff_toNat_lt.2 (by
        rw [hbyte c hc]
        exact hh)
      simp [h32, h127]
  have hback : (t.map fun c => UInt8.ofNat c.toNat).map (fun b => Char.ofNat b.toNat) = t := by
    rw [List.map_map]
    refine (List.map_congr_left fun c hc => ?_).trans t.map_id
    show Char.ofNat (UInt8.ofNat c.toNat).toNat = c
    rw [hbyte c hc, Char.ofNat_toNat]
  rw [ascii?, if_pos hall, hv, hback]

/-- No value with other characters is read. -/
theorem bytes_of_ascii? (h : v.ascii? = some t) :
    v.bytes = Text.Utf8.encode t ∧ ∀ c ∈ t, IsVisible c := by
  rw [ascii?] at h
  split at h
  · next hall =>
      obtain rfl := Option.some.inj h
      have hbyte : ∀ b ∈ v.bytes, b = 9 ∨ 0x20 ≤ b.toNat ∧ b.toNat < 0x7F := by
        intro b hb
        have hvisible := List.all_eq_true.1 hall b hb
        simp only [Bool.or_eq_true, Bool.and_eq_true, decide_eq_true_eq, beq_iff_eq] at hvisible
        exact hvisible.symm
      have hchar : ∀ b ∈ v.bytes, (Char.ofNat b.toNat).toNat = b.toNat := by
        intro b hb
        have := b.toNat_lt
        exact Text.Utf8.toNat_ofNat_of_valid (by omega)
      have hvisible : ∀ c ∈ v.bytes.map fun b => Char.ofNat b.toNat, IsVisible c := by
        intro c hc
        obtain ⟨b, hb, rfl⟩ := List.mem_map.1 hc
        rw [IsVisible, hchar b hb]
        rcases hbyte b hb with rfl | hrange
        · exact Or.inl rfl
        · exact Or.inr hrange
      refine ⟨?_, hvisible⟩
      rw [encode_of_ascii fun c hc => (hvisible c hc).toNat_lt, List.map_map]
      refine (List.map_id v.bytes).symm.trans (List.map_congr_left fun b hb => ?_)
      show b = UInt8.ofNat (Char.ofNat b.toNat).toNat
      rw [hchar b hb, UInt8.ofNat_toNat]
  · cases h

end Value

end Http

namespace Body

variable {headers : Http.Headers} {n : Nat}

/-! ## What is declared -/

/-- The first `content-length` value is this text, perhaps with spaces and tabs around it. -/
def Shows (headers : Http.Headers) (text : List Char) : Prop :=
  ∃ value before after, headers.get? .contentLength = some value ∧
    value.bytes = Text.Utf8.encode (before ++ text ++ after) ∧
    ∀ c ∈ before ++ after, c = ' ' ∨ c = '\t'

/-- The first `content-length` value is a numeral of the number, perhaps with spaces and tabs
around it. -/
def Declares (headers : Http.Headers) (n : Nat) : Prop :=
  ∃ value before digits after, headers.get? .contentLength = some value ∧
    value.bytes = Text.Utf8.encode (before ++ digits ++ after) ∧
    (∀ c ∈ before ++ after, c = ' ' ∨ c = '\t') ∧ Text.IsNumeral digits n

theorem declares_iff_exists_shows :
    Declares headers n ↔ ∃ digits, Text.IsNumeral digits n ∧ Shows headers digits := by
  constructor
  · rintro ⟨value, before, digits, after, hvalue, hbytes, hblank, hnumeral⟩
    exact ⟨digits, hnumeral, value, before, after, hvalue, hbytes, hblank⟩
  · rintro ⟨digits, hnumeral, value, before, after, hvalue, hbytes, hblank⟩
    exact ⟨value, before, digits, after, hvalue, hbytes, hblank, hnumeral⟩

section Padded

variable {before text after : List Char} (hb : ∀ c ∈ before ++ after, c = ' ' ∨ c = '\t')
  (ht : ∀ c ∈ text, 0x20 < c.toNat ∧ c.toNat < 0x7F)

include hb ht

theorem trim_of_padded (hne : text ≠ []) : Text.trim (before ++ text ++ after) = text := by
  have hblank : ∀ c ∈ before ++ after, Text.isBlank c = true := by
    intro c hc
    rcases hb c hc with rfl | rfl <;> decide
  exact Text.trim_append_append (fun c hc => hblank c (List.mem_append_left _ hc))
    (fun c hc => hblank c (List.mem_append_right _ hc))
    (fun c hc => Text.isBlank_of_visible (ht c hc).1 (ht c hc).2) hne

theorem ascii?_of_padded {value : Http.Value}
    (hv : value.bytes = Text.Utf8.encode (before ++ text ++ after)) :
    value.ascii? = some (before ++ text ++ after) := by
  refine Http.Value.ascii?_of_bytes hv fun c hc => ?_
  by_cases htext : c ∈ text
  · exact Or.inr ⟨(ht c htext).1.le, (ht c htext).2⟩
  · have hpad : c ∈ before ++ after := by
      simp only [List.mem_append, htext, or_false] at hc
      exact List.mem_append.2 hc
    rcases hb c hpad with rfl | rfl
    · exact Or.inr ⟨by decide, by decide⟩
    · exact Or.inl rfl

end Padded

/-- A value that is read as text and trimmed shows what is left: no other blanks than spaces and
tabs can stand in it. -/
theorem shows_trim {value : Http.Value} {text : List Char}
    (hvalue : headers.get? .contentLength = some value) (hascii : value.ascii? = some text) :
    Shows headers (Text.trim text) := by
  obtain ⟨hbytes, hvisible⟩ := Http.Value.bytes_of_ascii? hascii
  obtain ⟨before, after, htext, hblank⟩ := Text.exists_eq_trim text
  refine ⟨value, before, after, hvalue, htext ▸ hbytes, fun c hc => ?_⟩
  have hmem : c ∈ text := by
    rw [htext]
    simp only [List.mem_append] at hc ⊢
    tauto
  rcases hvisible c hmem with htab | ⟨hlow, hhigh⟩
  · exact Or.inr htab
  · have hblank := hblank c hc
    have hspace : c.toNat = ' '.toNat := by
      by_contra hne
      have hlt : 0x20 < c.toNat := lt_of_le_of_ne hlow (Ne.symm hne)
      rw [Text.isBlank_of_visible hlt hhigh] at hblank
      exact Bool.false_ne_true hblank
    exact Or.inl (Char.toNat_inj.1 hspace)

/-- What a value shows is what is read of it. -/
theorem declaredLength_of_shows {text : List Char} (hs : Shows headers text) (hne : text ≠ [])
    (ht : ∀ c ∈ text, 0x20 < c.toNat ∧ c.toNat < 0x7F) :
    declaredLength headers = Text.readUnsigned? Text.maxUnsigned text := by
  obtain ⟨value, before, after, hvalue, hbytes, hblank⟩ := hs
  simp only [declaredLength, hvalue, ascii?_of_padded hblank ht hbytes, Option.bind_eq_bind,
    Option.bind_some, trim_of_padded hblank ht hne]

/-- **Which length is declared**: the number of 64 bits whose numeral the first `content-length`
value shows, with or without a plus sign. -/
theorem declaredLength_eq_some_iff : declaredLength headers = some n ↔
    n ≤ Text.maxUnsigned ∧ ∃ digits, Text.IsNumeral digits n ∧
      (Shows headers digits ∨ Shows headers ('+' :: digits)) := by
  constructor
  · intro h
    simp only [declaredLength, Option.bind_eq_bind, Option.bind_eq_some_iff] at h
    obtain ⟨value, hvalue, text, hascii, hread⟩ := h
    have hshows := shows_trim hvalue hascii
    obtain ⟨hle, digits, hnumeral, htrim | htrim⟩ := Text.readUnsigned?_eq_some_iff.1 hread
    · exact ⟨hle, digits, hnumeral, Or.inl (htrim ▸ hshows)⟩
    · exact ⟨hle, digits, hnumeral, Or.inr (htrim ▸ hshows)⟩
  · rintro ⟨hle, digits, hnumeral, hs | hs⟩
    · rw [declaredLength_of_shows hs hnumeral.ne_nil (hnumeral.visible (Or.inl rfl))]
      exact Text.readUnsigned?_eq_some_iff.2 ⟨hle, digits, hnumeral, Or.inl rfl⟩
    · rw [declaredLength_of_shows hs (List.cons_ne_nil _ _) (hnumeral.visible (Or.inr rfl))]
      exact Text.readUnsigned?_eq_some_iff.2 ⟨hle, digits, hnumeral, Or.inr rfl⟩

/-- **A declared number is read if it has 64 bits**, and not at all if it has more. -/
theorem declaredLength_of_declares (hd : Declares headers n) :
    declaredLength headers = if n ≤ Text.maxUnsigned then some n else none := by
  obtain ⟨digits, hnumeral, hshows⟩ := declares_iff_exists_shows.1 hd
  rw [declaredLength_of_shows hshows hnumeral.ne_nil (hnumeral.visible (Or.inl rfl))]
  exact Text.readUnsigned?_of_isNumeral hnumeral Text.maxUnsigned

/-- A request that declares this length. -/
def declaring (value : Http.Value) : Http.Headers := Http.Headers.empty.append .contentLength value

end Body

end Session
