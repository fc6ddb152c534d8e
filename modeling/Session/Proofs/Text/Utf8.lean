import Session.Text.Utf8

set_option autoImplicit false

/-! # Facts about the encoding

The decoder reads the encoding of a character as that character (`Decoder.foldl_feed_encodeChar`),
so decoding undoes encoding (`decode_encode`). No two texts have the same encoding, and what is
read strictly are just the encodings (`textOf?_eq_some_iff`).
-/

namespace Session

namespace Text.Utf8

/-! ## What the first byte announces

The first byte of a character is told here by the number of the character, `v`. It fixes the range
of the second byte, which for some of them is narrower. -/

namespace Partial

variable {v : Nat}

theorem ofLead?_two (hl : 0x80 ≤ v) (hh : v < 0x800) :
    ofLead? (v / 64 + 0xC0) = some ⟨v / 64, 0, 0x80, 0xBF⟩ := by
  rw [ofLead?, if_neg (by omega), if_pos (by omega), Nat.add_sub_cancel]

theorem ofLead?_three (hl : 0x800 ≤ v) (hh : v < 0x10000) (hs : v < 0xD800 ∨ 0xDFFF < v) :
    ∃ low high, ofLead? (v / 4096 + 0xE0) = some ⟨v / 4096, 1, low, high⟩ ∧
      low ≤ v / 64 % 64 + 0x80 ∧ v / 64 % 64 + 0x80 ≤ high := by
  rw [ofLead?, if_neg (by omega), if_neg (by omega)]
  split
  · exact ⟨0xA0, 0xBF, by simp; omega, by omega, by omega⟩
  · split
    · -- the upper half would be surrogates
      exact ⟨0x80, 0x9F, by simp; omega, by omega, by omega⟩
    · rw [if_pos (by omega), Nat.add_sub_cancel]
      exact ⟨0x80, 0xBF, rfl, by omega, by omega⟩

theorem ofLead?_four (hl : 0x10000 ≤ v) (hh : v < 0x110000) :
    ∃ low high, ofLead? (v / 262144 + 0xF0) = some ⟨v / 262144, 2, low, high⟩ ∧
      low ≤ v / 4096 % 64 + 0x80 ∧ v / 4096 % 64 + 0x80 ≤ high := by
  rw [ofLead?, if_neg (by omega), if_neg (by omega), if_neg (by omega), if_neg (by omega),
    if_neg (by omega)]
  split
  · exact ⟨0x90, 0xBF, by simp; omega, by omega, by omega⟩
  · split
    · rw [Nat.add_sub_cancel]
      exact ⟨0x80, 0xBF, rfl, by omega, by omega⟩
    · rw [if_pos (by omega)]
      exact ⟨0x80, 0x8F, by simp; omega, by omega, by omega⟩

end Partial

theorem toNat_ofNat_of_valid {v : Nat} (hv : v < 0xD800 ∨ 0xDFFF < v ∧ v < 0x110000) :
    (Char.ofNat v).val.toNat = v := by
  rw [Char.ofNat, dif_pos hv]
  rfl

/-! ## One byte -/

namespace Decoder

variable {w : List Char} {x k low high n : Nat}

theorem toNat_ofNat (h : n < 0x100) : (UInt8.ofNat n).toNat = n := by
  rw [UInt8.toNat_ofNat', Nat.mod_eq_of_lt h]

theorem feed_lead (hn : n < 0x100) (hl : 0x80 ≤ n) {p : Partial} (hp : Partial.ofLead? n = some p) :
    feed ⟨w, none⟩ (UInt8.ofNat n) = ⟨w, some p⟩ := by
  show start w (UInt8.ofNat n).toNat = _
  rw [toNat_ofNat hn, start, if_neg (by omega), hp]

theorem feed_next (hn : n < 64) (hl : low ≤ n + 0x80) (hh : n + 0x80 ≤ high) :
    feed ⟨w, some ⟨x, k + 1, low, high⟩⟩ (UInt8.ofNat (n + 0x80))
      = ⟨w, some ⟨x * 64 + n, k, 0x80, 0xBF⟩⟩ := by
  have hb : (UInt8.ofNat (n + 0x80)).toNat = n + 0x80 := toNat_ofNat (by omega)
  simp only [feed, hb, hl, hh, and_self, if_true, Nat.add_sub_cancel]

theorem feed_last (hn : n < 64) (hl : low ≤ n + 0x80) (hh : n + 0x80 ≤ high) :
    feed ⟨w, some ⟨x, 0, low, high⟩⟩ (UInt8.ofNat (n + 0x80))
      = ⟨Char.ofNat (x * 64 + n) :: w, none⟩ := by
  have hb : (UInt8.ofNat (n + 0x80)).toNat = n + 0x80 := toNat_ofNat (by omega)
  simp only [feed, hb, hl, hh, and_self, if_true, Nat.add_sub_cancel]

/-! ## One character, and a text -/

/-- **The encoding of a character is read as that character**, between characters. -/
theorem foldl_feed_encodeChar (w : List Char) (c : Char) :
    (String.utf8EncodeChar c).foldl feed ⟨w, none⟩ = ⟨c :: w, none⟩ := by
  have hvalid : c.val.toNat < 0xD800 ∨ 0xDFFF < c.val.toNat ∧ c.val.toNat < 0x110000 := c.valid
  have hc : Char.ofNat c.val.toNat = c := Char.ofNat_toNat c
  simp only [String.utf8EncodeChar]
  generalize c.val.toNat = v at hvalid hc
  -- by the number of bytes: the digits to the base 64 of `v` are put together again
  split
  · have hb : (UInt8.ofNat v).toNat = v := toNat_ofNat (by omega)
    rw [List.foldl_cons, List.foldl_nil, feed, hb, start, if_pos (by omega), hc]
  · split
    · have hv : v / 64 * 64 + v % 64 = v := by omega
      rw [Nat.mod_eq_of_lt (by omega : v / 64 < 32), List.foldl_cons, List.foldl_cons,
        List.foldl_nil, feed_lead (by omega) (by omega) (Partial.ofLead?_two (by omega) (by omega)),
        feed_last (by omega) (by omega) (by omega), hv, hc]
    · split
      · obtain ⟨low, high, hlead, hl, hh⟩ :=
          Partial.ofLead?_three (v := v) (by omega) (by omega) (by omega)
        have hv : (v / 4096 * 64 + v / 64 % 64) * 64 + v % 64 = v := by omega
        rw [Nat.mod_eq_of_lt (by omega : v / 4096 < 16), List.foldl_cons, List.foldl_cons,
          List.foldl_cons, List.foldl_nil, feed_lead (by omega) (by omega) hlead,
          feed_next (by omega) hl hh, feed_last (by omega) (by omega) (by omega), hv, hc]
      · obtain ⟨low, high, hlead, hl, hh⟩ :=
          Partial.ofLead?_four (v := v) (by omega) (by omega)
        have hv : ((v / 262144 * 64 + v / 4096 % 64) * 64 + v / 64 % 64) * 64 + v % 64 = v := by
          omega
        rw [Nat.mod_eq_of_lt (by omega : v / 262144 < 8), List.foldl_cons, List.foldl_cons,
          List.foldl_cons, List.foldl_cons, List.foldl_nil, feed_lead (by omega) (by omega) hlead,
          feed_next (by omega) hl hh, feed_next (by omega) (by omega) (by omega),
          feed_last (by omega) (by omega) (by omega), hv, hc]

theorem foldl_feed_encode (w s : List Char) :
    (encode s).foldl feed ⟨w, none⟩ = ⟨s.reverse ++ w, none⟩ := by
  induction s generalizing w with
  | nil => rfl
  | cons c s ih =>
      rw [encode_cons, List.foldl_append, foldl_feed_encodeChar, ih, List.reverse_cons,
        List.append_assoc, List.singleton_append]

end Decoder

/-- **Decoding undoes encoding.** -/
theorem decode_encode (s : List Char) : decode (encode s) = s := by
  rw [decode, Decoder.init, Decoder.foldl_feed_encode, Decoder.finish, List.append_nil,
    List.reverse_reverse]

theorem encode_injective {s t : List Char} (h : encode s = encode t) : s = t := by
  rw [← decode_encode s, h, decode_encode]

theorem decode?_eq_some_iff {bs : Bytes} {s : List Char} :
    decode? bs = some s ↔ encode s = bs := by
  refine ⟨encode_of_decode?, fun h => ?_⟩
  rw [decode?, ← h, decode_encode, if_pos rfl]

end Text.Utf8

theorem utf8_injective {s t : String} (h : utf8 s = utf8 t) : s = t :=
  String.toList_inj.1 (Text.Utf8.encode_injective h)

theorem textOf_utf8 (s : String) : textOf (utf8 s) = s := by
  rw [textOf, utf8, Text.Utf8.decode_encode, String.ofList_toList]

theorem textOf?_eq_some_iff {bs : Bytes} {s : String} : textOf? bs = some s ↔ utf8 s = bs := by
  rw [textOf?, Option.map_eq_some_iff]
  constructor
  · rintro ⟨t, ht, rfl⟩
    rw [utf8, String.toList_ofList]
    exact Text.Utf8.decode?_eq_some_iff.1 ht
  · intro h
    exact ⟨s.toList, Text.Utf8.decode?_eq_some_iff.2 h, String.ofList_toList⟩

theorem textOf?_eq_none_iff {bs : Bytes} : textOf? bs = none ↔ ∀ s, utf8 s ≠ bs := by
  simp only [Option.eq_none_iff_forall_ne_some, ne_eq, textOf?_eq_some_iff]

end Session
