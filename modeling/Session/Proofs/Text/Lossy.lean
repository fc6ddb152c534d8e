import Mathlib.Tactic
import Session.Proofs.Text.Utf8

set_option autoImplicit false

/-! # Reading what is no encoding

Any bytes are read as a text. What text that is, `Spells` says without the decoder: where the
encoding of a character stands, the character; and else one U+FFFD for the longest part that begins
a character, or for a single byte if none does (`IsBroken`). Overlong forms, surrogates and numbers
above 10FFFF need no mention, since no character is encoded so.

The decoder does just this (`spells_iff`). It stands inside a character exactly as long as the bytes
read so far begin one: they do, because a character can be given for every range of numbers that
the decoder still takes into account (`Partial.Covers`, `Decoder.encodeChar_of_covers`), and no
other bytes do (`Decoder.pending_of_begins`).
-/

namespace Session

namespace Text.Utf8

/-! ## What bytes spell -/

/-- The encoding of some character begins so. -/
def Begins (bs : Bytes) : Prop := ∃ c, bs <+: String.utf8EncodeChar c

/-- In front of `rest`, `part` is a maximal part that is not valid. -/
structure IsBroken (part rest : Bytes) : Prop where
  /-- No character stands here. -/
  unreadable : ∀ c, ¬ String.utf8EncodeChar c <+: part ++ rest
  /-- The part begins a character, or it is a single byte. -/
  begins : part.length = 1 ∨ part ≠ [] ∧ Begins part
  /-- Nothing longer begins a character. -/
  longest : ∀ bs, bs <+: part ++ rest → Begins bs → bs.length ≤ part.length

/-- The bytes spell the text. -/
inductive Spells : Bytes → List Char → Prop
  | nil : Spells [] []
  | char (c : Char) {bs : Bytes} {s : List Char} (h : Spells bs s) :
      Spells (String.utf8EncodeChar c ++ bs) (c :: s)
  | broken {part rest : Bytes} {s : List Char} (hp : IsBroken part rest) (h : Spells rest s) :
      Spells (part ++ rest) (replacement :: s)

/-- Where no character stands, there is a maximal part that is not valid. -/
theorem exists_isBroken {bs : Bytes} (hne : bs ≠ [])
    (hc : ∀ c, ¬ String.utf8EncodeChar c <+: bs) :
    ∃ part rest, bs = part ++ rest ∧ part ≠ [] ∧ IsBroken part rest := by
  classical
  -- the greatest number of bytes that begin a character, but one at least
  let k := Nat.findGreatest (fun k => Begins (bs.take k)) bs.length
  have hk : Begins (bs.take k) :=
    Nat.findGreatest_spec (P := fun k => Begins (bs.take k)) (Nat.zero_le _)
      ⟨'a', List.nil_prefix⟩
  have hgreatest : ∀ cs, cs <+: bs → Begins cs → cs.length ≤ k := by
    intro cs hcs hb
    by_contra hlt
    refine Nat.findGreatest_is_greatest (P := fun k => Begins (bs.take k)) (Nat.not_le.1 hlt)
      hcs.length_le ?_
    rwa [← List.prefix_iff_eq_take.1 hcs]
  have hle : k ≤ bs.length := Nat.findGreatest_le _
  have hpos : 0 < bs.length := List.length_pos_iff.2 hne
  refine ⟨bs.take (max 1 k), bs.drop (max 1 k), (List.take_append_drop _ _).symm, ?_, ?_, ?_, ?_⟩
  · rw [← List.length_pos_iff, List.length_take]
    omega
  · rwa [List.take_append_drop]
  · rcases Nat.lt_or_ge k 1 with hlt | hge
    · left
      rw [List.length_take]
      omega
    · right
      rw [Nat.max_eq_right hge]
      refine ⟨?_, hk⟩
      rw [← List.length_pos_iff, List.length_take]
      omega
  · intro cs hcs hb
    rw [List.take_append_drop] at hcs
    have := hgreatest cs hcs hb
    rw [List.length_take]
    omega

theorem exists_spells (bs : Bytes) : ∃ s, Spells bs s := by
  by_cases hne : bs = []
  · subst hne
    exact ⟨[], .nil⟩
  · by_cases hc : ∃ c, String.utf8EncodeChar c <+: bs
    · obtain ⟨c, rest, rfl⟩ := hc
      have hlt : rest.length < (String.utf8EncodeChar c ++ rest).length := by
        have := String.length_utf8EncodeChar c
        have := Char.utf8Size_pos c
        rw [List.length_append]
        omega
      obtain ⟨s, hs⟩ := exists_spells rest
      exact ⟨c :: s, .char c hs⟩
    · obtain ⟨part, rest, rfl, hpart, hbroken⟩ := exists_isBroken hne (not_exists.1 hc)
      have hlt : rest.length < (part ++ rest).length := by
        have := List.length_pos_iff.2 hpart
        rw [List.length_append]
        omega
      obtain ⟨s, hs⟩ := exists_spells rest
      exact ⟨replacement :: s, .broken hbroken hs⟩
termination_by bs.length

/-! ## What is written stays

The decoder only adds to what it has written, so it does the same behind any text. -/

namespace Decoder

variable {d : Decoder} {b : UInt8}

/-- The decoder behind a text that was written before, last character first. -/
def onto (d : Decoder) (w : List Char) : Decoder := ⟨d.written ++ w, d.pending⟩

theorem start_onto (v w : List Char) (n : Nat) : start (v ++ w) n = (start v n).onto w := by
  unfold start
  split
  · rfl
  · split <;> rfl

theorem feed_onto (d : Decoder) (w : List Char) (b : UInt8) :
    feed (d.onto w) b = (feed d b).onto w := by
  obtain ⟨v, _ | p⟩ := d
  · exact start_onto v w b.toNat
  · simp only [feed, onto]
    split
    · split <;> rfl
    · exact start_onto (replacement :: v) w b.toNat

theorem foldl_feed_onto (bs : Bytes) (d : Decoder) (w : List Char) :
    bs.foldl feed (d.onto w) = (bs.foldl feed d).onto w := by
  induction bs generalizing d with
  | nil => rfl
  | cons b bs ih => rw [List.foldl_cons, feed_onto, ih, List.foldl_cons]

theorem finish_onto (d : Decoder) (w : List Char) : (d.onto w).finish = w.reverse ++ d.finish := by
  obtain ⟨v, _ | p⟩ := d
  · exact List.reverse_append
  · show (replacement :: v ++ w).reverse = w.reverse ++ (replacement :: v).reverse
    exact List.reverse_append

/-- Between characters it is as at the beginning. -/
theorem finish_foldl_feed (bs : Bytes) (w : List Char) :
    (bs.foldl feed ⟨w, none⟩).finish = w.reverse ++ decode bs :=
  calc (bs.foldl feed ⟨w, none⟩).finish
      = (bs.foldl feed (init.onto w)).finish := rfl
    _ = ((bs.foldl feed init).onto w).finish := by rw [foldl_feed_onto]
    _ = w.reverse ++ decode bs := finish_onto _ w

/-! ## How far it has got -/

/-- How many characters there are if nothing more comes. -/
def count (d : Decoder) : Nat := d.finish.length

theorem count_none (w : List Char) : (⟨w, none⟩ : Decoder).count = w.length :=
  List.length_reverse

theorem count_some (w : List Char) (p : Partial) :
    (⟨w, some p⟩ : Decoder).count = w.length + 1 :=
  List.length_reverse

theorem count_start (w : List Char) (n : Nat) : (start w n).count = w.length + 1 := by
  unfold start
  split
  · exact count_none _
  · split
    · exact count_some _ _
    · exact count_none _

theorem count_le_count_feed (d : Decoder) (b : UInt8) : d.count ≤ (feed d b).count := by
  obtain ⟨w, _ | p⟩ := d
  · show (⟨w, none⟩ : Decoder).count ≤ (start w b.toNat).count
    rw [count_none, count_start]
    exact Nat.le_succ _
  · simp only [feed]
    split
    · split
      · rw [count_some, count_none, List.length_cons]
      · rw [count_some, count_some]
    · rw [count_some, count_start, List.length_cons]
      exact Nat.le_succ _

theorem count_le_count_foldl (bs : Bytes) (d : Decoder) : d.count ≤ (bs.foldl feed d).count := by
  induction bs generalizing d with
  | nil => exact Nat.le_refl _
  | cons b bs ih => exact Nat.le_trans (count_le_count_feed d b) (ih _)

/-- Between characters every further byte begins another one. -/
theorem lt_count_foldl {bs : Bytes} (hne : bs ≠ []) (w : List Char) :
    w.length < (bs.foldl feed ⟨w, none⟩).count := by
  cases bs with
  | nil => exact absurd rfl hne
  | cons b bs =>
      calc w.length < (start w b.toNat).count := by rw [count_start]; exact Nat.lt_succ_self _
        _ ≤ ((b :: bs).foldl feed ⟨w, none⟩).count := count_le_count_foldl bs _

/-- **The first bytes of a character, but not all of them, leave it pending.** -/
theorem pending_of_begins {c : Char} {part rest : Bytes}
    (hc : part ++ rest = String.utf8EncodeChar c) (hp : part ≠ []) (hr : rest ≠ []) :
    ∃ p, part.foldl feed init = ⟨[], some p⟩ := by
  have hall : rest.foldl feed (part.foldl feed init) = ⟨[c], none⟩ := by
    rw [← List.foldl_append, hc]
    exact foldl_feed_encodeChar [] c
  have hlow : 0 < (part.foldl feed init).count := lt_count_foldl hp []
  have hhigh : (part.foldl feed init).count ≤ 1 :=
    calc (part.foldl feed init).count
        ≤ (rest.foldl feed (part.foldl feed init)).count := count_le_count_foldl rest _
      _ = 1 := by rw [hall]; rfl
  generalize part.foldl feed init = d at hall hlow hhigh
  obtain ⟨w, _ | p⟩ := d
  · -- with the character written there would be two in the end
    have hlt := lt_count_foldl hr w
    rw [hall] at hlt
    rw [count_none] at hlow hlt
    exact absurd hlt (Nat.not_lt.2 hlow)
  · rw [count_some] at hhigh
    have hw : w = [] := List.length_eq_zero_iff.1 (by omega)
    exact ⟨p, by rw [hw]⟩

end Decoder

/-! ## The characters that are still possible -/

namespace Partial

variable {p : Partial} {n v : Nat}

/-- The bytes that may come next are continuations, and there are some. -/
structure IsRanged (p : Partial) : Prop where
  low : 0x80 ≤ p.low
  high : p.high ≤ 0xBF
  low_le_high : p.low ≤ p.high

theorem isRanged_of_ofLead? (h : ofLead? n = some p) : p.IsRanged := by
  rw [ofLead?] at h
  constructor <;> grind

/-- What a first byte announces, by the length of the character. -/
theorem ofLead?_cases (h : ofLead? n = some p) :
    0xC2 ≤ n ∧ n < 0xE0 ∧ p = ⟨n - 0xC0, 0, p.low, p.high⟩ ∨
      0xE0 ≤ n ∧ n < 0xF0 ∧ p = ⟨n - 0xE0, 1, p.low, p.high⟩ ∧
        (n = 0xE0 → p.low = 0xA0) ∧ (n = 0xED → p.high = 0x9F) ∨
      0xF0 ≤ n ∧ n ≤ 0xF4 ∧ p = ⟨n - 0xF0, 2, p.low, p.high⟩ ∧
        (n = 0xF0 → p.low = 0x90) ∧ (n = 0xF4 → p.high = 0x8F) := by
  rw [ofLead?] at h
  grind

/-- The number has the digits read so far to the base 64, and its next digit is in the range. -/
def Covers (p : Partial) (v : Nat) : Prop :=
  v / 64 ^ (p.later + 1) = p.value ∧
    p.low ≤ v / 64 ^ p.later % 64 + 0x80 ∧ v / 64 ^ p.later % 64 + 0x80 ≤ p.high

theorem exists_covers (hp : p.IsRanged) (hl : p.low ≤ n) (hh : n ≤ p.high) :
    ∃ v, p.Covers v ∧ v / 64 ^ p.later % 64 + 0x80 = n := by
  have hlow := hp.low
  have hhigh := hp.high
  have hpos : 0 < 64 ^ p.later := Nat.pow_pos (by omega)
  let digit := n - 0x80
  have hdigit : digit < 64 := by omega
  refine ⟨(p.value * 64 + digit) * 64 ^ p.later, ⟨?_, ?_⟩, ?_⟩
  · rw [Nat.pow_succ, ← Nat.div_div_eq_div_mul, Nat.mul_div_cancel _ hpos]
    omega
  · rw [Nat.mul_div_cancel _ hpos]
    omega
  · rw [Nat.mul_div_cancel _ hpos]
    omega

/-- The numbers that are left after one more byte. -/
theorem Covers.of_next {k x low high : Nat} (hl : low ≤ n) (hh : n ≤ high) (hlow : 0x80 ≤ low)
    (hhigh : high ≤ 0xBF) (hv : Covers ⟨x * 64 + (n - 0x80), k, 0x80, 0xBF⟩ v) :
    Covers ⟨x, k + 1, low, high⟩ v ∧ v / 64 ^ (k + 1) % 64 + 0x80 = n := by
  have hvalue : v / 64 ^ (k + 1) = x * 64 + (n - 0x80) := hv.1
  have hdigit : v / 64 ^ (k + 1) % 64 + 0x80 = n := by
    rw [hvalue]
    omega
  refine ⟨⟨?_, ?_, ?_⟩, hdigit⟩
  · show v / 64 ^ (k + 1 + 1) = x
    rw [Nat.pow_succ, ← Nat.div_div_eq_div_mul, hvalue]
    omega
  · rw [hdigit]
    exact hl
  · rw [hdigit]
    exact hh

end Partial

/-- The last `k` bytes of a character, by its number. -/
def continuations : Nat → Nat → Bytes
  | 0, _ => []
  | k + 1, v => UInt8.ofNat (v / 64 ^ k % 64 + 0x80) :: continuations k v

/-- The character of a number that a first byte leaves possible begins with this byte. -/
theorem encodeChar_of_ofLead? {n v : Nat} {p : Partial} (h : Partial.ofLead? n = some p)
    (hv : p.Covers v) :
    String.utf8EncodeChar (Char.ofNat v) = UInt8.ofNat n :: continuations (p.later + 1) v := by
  obtain ⟨hl, hh, -⟩ := Partial.isRanged_of_ofLead? h
  obtain ⟨hvalue, hlow, hhigh⟩ := hv
  rcases Partial.ofLead?_cases h with ⟨h₁, h₂, hp⟩ | ⟨h₁, h₂, hp, h₃, h₄⟩ | ⟨h₁, h₂, hp, h₃, h₄⟩
  · rw [hp] at hvalue hlow hhigh ⊢
    simp only [Nat.reduceAdd, Nat.reducePow, Nat.div_one] at hvalue hlow hhigh ⊢
    have hn : (Char.ofNat v).val.toNat = v := toNat_ofNat_of_valid (by omega)
    simp only [String.utf8EncodeChar, hn, continuations, Nat.reducePow, Nat.div_one]
    rw [if_neg (by omega), if_pos (by omega), Nat.mod_eq_of_lt (by omega : v / 64 < 32), hvalue,
      Nat.sub_add_cancel (by omega)]
  · rw [hp] at hvalue hlow hhigh ⊢
    simp only [Nat.reduceAdd, Nat.reducePow] at hvalue hlow hhigh ⊢
    have hn : (Char.ofNat v).val.toNat = v := toNat_ofNat_of_valid (by omega)
    simp only [String.utf8EncodeChar, hn, continuations, Nat.reducePow, Nat.div_one]
    rw [if_neg (by omega), if_neg (by omega), if_pos (by omega),
      Nat.mod_eq_of_lt (by omega : v / 4096 < 16), hvalue, Nat.sub_add_cancel (by omega)]
  · rw [hp] at hvalue hlow hhigh ⊢
    simp only [Nat.reduceAdd, Nat.reducePow] at hvalue hlow hhigh ⊢
    have hn : (Char.ofNat v).val.toNat = v := toNat_ofNat_of_valid (by omega)
    simp only [String.utf8EncodeChar, hn, continuations, Nat.reducePow, Nat.div_one]
    rw [if_neg (by omega), if_neg (by omega), if_neg (by omega),
      Nat.mod_eq_of_lt (by omega : v / 262144 < 8), hvalue, Nat.sub_add_cancel (by omega)]

namespace Decoder

variable {d : Decoder} {b : UInt8} {p : Partial} {part : Bytes}

theorem start_eq_pending {v w : List Char} {n : Nat} (h : start v n = ⟨w, some p⟩) :
    v = w ∧ Partial.ofLead? n = some p := by
  unfold start at h
  split at h
  · cases h
  · split at h
    · next hq =>
        cases h
        exact ⟨rfl, hq⟩
    · cases h

/-- A byte that leaves a character pending is the first one of it, behind the text that there would
be without it, or it goes on with the one that was pending. -/
theorem feed_eq_pending {w : List Char} (h : feed d b = ⟨w, some p⟩) :
    d.finish.reverse = w ∧ Partial.ofLead? b.toNat = some p ∨
    ∃ x k low high, d = ⟨w, some ⟨x, k + 1, low, high⟩⟩ ∧ low ≤ b.toNat ∧ b.toNat ≤ high ∧
      p = ⟨x * 64 + (b.toNat - 0x80), k, 0x80, 0xBF⟩ := by
  obtain ⟨v, _ | ⟨x, later, low, high⟩⟩ := d
  · left
    rw [finish, List.reverse_reverse]
    exact start_eq_pending h
  · by_cases hb : low ≤ b.toNat ∧ b.toNat ≤ high
    · right
      cases later with
      | zero =>
          rw [feed] at h
          simp only [hb, and_self, if_true] at h
          have hnone : none = some p := congrArg Decoder.pending h
          cases hnone
      | succ k =>
          rw [feed] at h
          simp only [hb, and_self, if_true] at h
          obtain ⟨rfl, hp⟩ := Decoder.mk.inj h
          exact ⟨x, k, low, high, rfl, hb.1, hb.2, (Option.some.inj hp).symm⟩
    · left
      rw [feed] at h
      simp only [hb, if_false] at h
      rw [finish, List.reverse_reverse]
      exact start_eq_pending h

/-- Whatever was read, the bytes that go on are continuations. -/
theorem isRanged_of_pending {bs : Bytes} {w : List Char}
    (h : bs.foldl feed init = ⟨w, some p⟩) : p.IsRanged := by
  rcases List.eq_nil_or_concat' bs with rfl | ⟨cs, b, rfl⟩
  · cases h
  · rw [List.foldl_concat] at h
    rcases feed_eq_pending h with ⟨-, hlead⟩ | ⟨x, k, low, high, -, -, -, rfl⟩
    · exact Partial.isRanged_of_ofLead? hlead
    · exact ⟨Nat.le_refl 0x80, Nat.le_refl 0xBF, by simp⟩

/-- **While a character is pending, every number that is left continues the bytes read so far.** -/
theorem encodeChar_of_covers (h : part.foldl feed init = ⟨[], some p⟩) {v : Nat}
    (hv : p.Covers v) :
    String.utf8EncodeChar (Char.ofNat v) = part ++ continuations (p.later + 1) v := by
  induction part using List.reverseRecOn generalizing p with
  | nil => cases h
  | append_singleton part b ih =>
      rw [List.foldl_concat] at h
      rcases feed_eq_pending h with ⟨hfin, hlead⟩ | ⟨x, k, low, high, hd, hl, hh, rfl⟩
      · have hpart : part = [] := by
          by_contra hne
          have hpos : 0 < (part.foldl feed init).count := lt_count_foldl hne []
          rw [count, List.reverse_eq_nil_iff.1 hfin] at hpos
          exact Nat.lt_irrefl 0 hpos
        subst hpart
        rw [encodeChar_of_ofLead? hlead hv, UInt8.ofNat_toNat]
        rfl
      · have hr := isRanged_of_pending hd
        obtain ⟨hcovers, hdigit⟩ := Partial.Covers.of_next hl hh hr.low hr.high hv
        rw [ih hd hcovers, List.append_assoc, continuations, hdigit, UInt8.ofNat_toNat]
        rfl

theorem begins_of_mem_range (h : part.foldl feed init = ⟨[], some p⟩) (hl : p.low ≤ b.toNat)
    (hh : b.toNat ≤ p.high) : Begins (part ++ [b]) := by
  obtain ⟨v, hv, hdigit⟩ := Partial.exists_covers (isRanged_of_pending h) hl hh
  refine ⟨Char.ofNat v, continuations p.later v, ?_⟩
  rw [encodeChar_of_covers h hv, continuations, hdigit, UInt8.ofNat_toNat, List.append_assoc]
  rfl

theorem begins_of_pending (h : part.foldl feed init = ⟨[], some p⟩) : Begins part := by
  have hr := isRanged_of_pending h
  obtain ⟨v, hv, -⟩ := Partial.exists_covers hr (Nat.le_refl _) hr.low_le_high
  exact ⟨Char.ofNat v, _, (encodeChar_of_covers h hv).symm⟩

theorem feed_of_not_mem_range {w : List Char} (hb : ¬ (p.low ≤ b.toNat ∧ b.toNat ≤ p.high)) :
    feed ⟨w, some p⟩ b = feed ⟨replacement :: w, none⟩ b := by
  rw [feed, feed]
  simp only [hb, if_false]

end Decoder

/-! ## Reading in parts -/

/-- A byte that goes on with a character. -/
def IsContinuation (b : UInt8) : Prop := 0x80 ≤ b.toNat ∧ b.toNat ≤ 0xBF

instance (b : UInt8) : Decidable (IsContinuation b) := inferInstanceAs (Decidable (_ ∧ _))

/-- **A text is read in parts**, if no part begins with a continuation. -/
theorem decode_append (a : Bytes) {b : Bytes} (hb : ∀ n, b.head? = some n → ¬ IsContinuation n) :
    decode (a ++ b) = decode a ++ decode b := by
  cases b with
  | nil => simp
  | cons n b =>
      have hn : ¬ IsContinuation n := hb n rfl
      have hstart : (a.foldl Decoder.feed .init).feed n
          = Decoder.feed ⟨(decode a).reverse, none⟩ n := by
        rw [decode]
        cases hd : a.foldl Decoder.feed .init with
        | mk w pending =>
            cases pending with
            | none => rw [Decoder.finish, List.reverse_reverse]
            | some p =>
                have hr := Decoder.isRanged_of_pending hd
                have hout : ¬ (p.low ≤ n.toNat ∧ n.toNat ≤ p.high) := fun h =>
                  hn ⟨Nat.le_trans hr.low h.1, Nat.le_trans h.2 hr.high⟩
                rw [Decoder.feed_of_not_mem_range hout, Decoder.finish, List.reverse_reverse]
      calc decode (a ++ n :: b)
          = (b.foldl Decoder.feed ((a.foldl Decoder.feed .init).feed n)).finish := by
            rw [decode, List.foldl_append, List.foldl_cons]
        _ = ((n :: b).foldl Decoder.feed ⟨(decode a).reverse, none⟩).finish := by
            rw [hstart, List.foldl_cons]
        _ = decode a ++ decode (n :: b) := by
            rw [Decoder.finish_foldl_feed, List.reverse_reverse]

/-! ## Reading what is spelled -/

theorem decode_char_append (c : Char) (bs : Bytes) :
    decode (String.utf8EncodeChar c ++ bs) = c :: decode bs := by
  rw [decode, List.foldl_append, Decoder.init, Decoder.foldl_feed_encodeChar,
    Decoder.finish_foldl_feed]
  rfl

/-- A character that is not gone on with is read as one U+FFFD. -/
theorem decode_append_of_pending {part rest : Bytes} {p : Partial}
    (h : part.foldl Decoder.feed .init = ⟨[], some p⟩)
    (hrest : ∀ b, rest.head? = some b → ¬ (p.low ≤ b.toNat ∧ b.toNat ≤ p.high)) :
    decode (part ++ rest) = replacement :: decode rest := by
  rw [decode, List.foldl_append, h]
  cases rest with
  | nil => rfl
  | cons b rest =>
      rw [List.foldl_cons, Decoder.feed_of_not_mem_range (hrest b rfl), ← List.foldl_cons,
        Decoder.finish_foldl_feed]
      rfl

/-- A byte that begins no character is replaced at once. -/
theorem feed_init_of_not_begins {b : UInt8} (h : ¬ Begins [b]) :
    Decoder.init.feed b = ⟨[replacement], none⟩ := by
  show Decoder.start [] b.toNat = _
  rw [Decoder.start]
  split
  · next hascii =>
      -- a character of ASCII is a byte
      have hval : (Char.ofNat b.toNat).val.toNat = b.toNat := toNat_ofNat_of_valid (by omega)
      have hchar := utf8EncodeChar_of_lt (c := Char.ofNat b.toNat) (by omega)
      rw [hval, UInt8.ofNat_toNat] at hchar
      exact absurd ⟨_, [], (List.append_nil _).trans hchar.symm⟩ h
  · next hascii =>
      split
      · next p hp =>
          have hfeed : [b].foldl Decoder.feed .init = ⟨[], some p⟩ := by
            show Decoder.start [] b.toNat = _
            rw [Decoder.start, if_neg hascii, hp]
          exact absurd (Decoder.begins_of_pending hfeed) h
      · rfl

/-- **A part that is not valid is read as one U+FFFD**, and what follows as by itself. -/
theorem decode_broken_append {part rest : Bytes} (h : IsBroken part rest) :
    decode (part ++ rest) = replacement :: decode rest := by
  by_cases hb : part ≠ [] ∧ Begins part
  · obtain ⟨hne, c, more, hc⟩ := hb
    have hmore : more ≠ [] := by
      rintro rfl
      rw [List.append_nil] at hc
      exact h.unreadable c (hc ▸ List.prefix_append part rest)
    obtain ⟨p, hp⟩ := Decoder.pending_of_begins hc hne hmore
    refine decode_append_of_pending hp ?_
    -- with a byte in the range there would be a longer part that begins a character
    rintro b hrest ⟨hl, hh⟩
    obtain ⟨rest, rfl⟩ := List.head?_eq_some_iff.1 hrest
    have hlonger : part ++ [b] <+: part ++ b :: rest :=
      (List.prefix_append_right_inj part).2 (List.prefix_append [b] rest)
    have hle := h.longest _ hlonger (Decoder.begins_of_mem_range hp hl hh)
    rw [List.length_append, List.length_singleton] at hle
    omega
  · have hone : part.length = 1 := h.begins.resolve_right hb
    obtain ⟨b, rfl⟩ := List.length_eq_one_iff.1 hone
    have hfeed := feed_init_of_not_begins fun hbegins => hb ⟨List.cons_ne_nil b [], hbegins⟩
    rw [decode, List.singleton_append, List.foldl_cons, hfeed, Decoder.finish_foldl_feed]
    rfl

/-- **The decoder reads what the bytes spell.** -/
theorem spells_iff {bs : Bytes} {s : List Char} : Spells bs s ↔ decode bs = s := by
  have hdecode : ∀ t, Spells bs t → decode bs = t := by
    intro t ht
    induction ht with
    | nil => rfl
    | char c _ ih => rw [decode_char_append, ih]
    | broken hp _ ih => rw [decode_broken_append hp, ih]
  refine ⟨hdecode s, ?_⟩
  rintro rfl
  obtain ⟨t, ht⟩ := exists_spells bs
  rw [hdecode t ht]
  exact ht

end Text.Utf8

open Text.Utf8 (Spells IsContinuation replacement)

/-- **Any bytes are read faithfully, in parts, and once.** The encoding of a text is read as that
text, and what is read strictly is read no differently otherwise. The text of two sequences, the
second of which does not begin with a continuation, is the text of the one and that of the other.
Bytes are read as just the text that they spell, so each maximal part that is not valid gives one
U+FFFD. And what has been read is read again as it is. -/
theorem textOf_reads (a : Bytes) :
    (∀ s, utf8 s = a → textOf a = s) ∧ (textOf? a).getD (textOf a) = textOf a ∧
    (∀ b : Bytes, (∀ n, b.head? = some n → ¬ IsContinuation n) →
      textOf (a ++ b) = textOf a ++ textOf b) ∧
    (∀ s : String, Spells a s.toList ↔ textOf a = s) ∧
    textOf (utf8 (textOf a)) = textOf a := by
  refine ⟨?_, ?_, ?_, ?_, textOf_utf8 _⟩
  · rintro s rfl
    exact textOf_utf8 s
  · cases h : textOf? a with
    | none => rfl
    | some s =>
        rw [← textOf?_eq_some_iff.1 h, textOf_utf8]
        rfl
  · intro b hb
    rw [textOf, Text.Utf8.decode_append a hb, String.ofList_append]
    rfl
  · intro s
    rw [Text.Utf8.spells_iff, textOf]
    constructor
    · intro h
      rw [h, String.ofList_toList]
    · intro h
      rw [← h, String.toList_ofList]

/-- A character of four bytes that is cut short, in front of a text. -/
theorem textOf_cut_short :
    let cut : Bytes := [0x61, 0xF0, 0x9F, 0x98]
    (∀ n, (utf8 "é!").head? = some n → ¬ IsContinuation n) ∧
      textOf (cut ++ utf8 "é!") = "a\uFFFDé!" := by
  intro cut
  have hhead : ∀ n, (utf8 "é!").head? = some n → ¬ IsContinuation n := by
    have hfirst : (utf8 "é!").head? = some 0xC3 := by decide +kernel
    intro n hn
    rw [hfirst] at hn
    cases hn
    decide
  refine ⟨hhead, ?_⟩
  rw [(textOf_reads cut).2.2.1 _ hhead, textOf_utf8]
  decide +kernel

/-- An overlong form, a surrogate and a number above 10FFFF: no byte of them goes on with the one
before it. -/
example : textOf [0xC0, 0x80] = "\uFFFD\uFFFD" ∧ textOf [0xED, 0xA0, 0x80] = "\uFFFD\uFFFD\uFFFD"
    ∧ textOf [0xF4, 0x90, 0x80, 0x80] = "\uFFFD\uFFFD\uFFFD\uFFFD" := by
  decide +kernel

end Session
