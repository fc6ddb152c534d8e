import Mathlib.Data.Nat.Digits.Defs
import Session.Proofs.Text.Cutting
import Session.Text.Numeral

set_option autoImplicit false

/-! # Reading numerals

A numeral denotes a number by the weights of its places (`valueOf`). It is read as this number if
that is within the bound, however many digits it has, and beside a plus sign in front nothing else is
read (`readUnsigned?_eq_some_iff`). So nothing that is read has blanks in it, and trimming leaves it
alone.
-/

namespace Session.Text

variable {s : List Char} {c : Char} {n : Nat}

/-! ## What a numeral denotes -/

/-- The number that decimal digits denote, by the weights of their places. -/
def valueOf (s : List Char) : Nat := Nat.ofDigits 10 (s.reverse.map fun c => c.toNat - '0'.toNat)

/-- The text is a numeral of the number: decimal digits, perhaps zeros first. -/
structure IsNumeral (s : List Char) (n : Nat) : Prop where
  ne_nil : s ≠ []
  isDigit : ∀ c ∈ s, c.isDigit = true
  denotes : valueOf s = n

theorem valueOf_cons (c : Char) (s : List Char) :
    valueOf (c :: s) = (c.toNat - '0'.toNat) * 10 ^ s.length + valueOf s := by
  rw [valueOf, List.reverse_cons, List.map_append, Nat.ofDigits_append, List.length_map,
    List.length_reverse, List.map_singleton, Nat.ofDigits_singleton, valueOf]
  ring

theorem toNat_of_isDigit (h : c.isDigit = true) : 0x30 ≤ c.toNat ∧ c.toNat ≤ 0x39 := by
  simp only [Char.isDigit, Bool.and_eq_true, decide_eq_true_eq] at h
  exact ⟨UInt32.le_iff_toNat_le.1 h.1, UInt32.le_iff_toNat_le.1 h.2⟩

theorem digit?_of_isDigit (h : c.isDigit = true) : digit? c = some (c.toNat - '0'.toNat) := by
  obtain ⟨hl, hh⟩ := toNat_of_isDigit h
  have hc : '0' ≤ c ∧ c ≤ '9' :=
    ⟨UInt32.le_iff_toNat_le.2 hl, UInt32.le_iff_toNat_le.2 hh⟩
  rw [digit?, if_pos hc]

theorem readDigitsFrom?_of_isDigit (h : ∀ c ∈ s, c.isDigit = true) (acc : Nat) :
    readDigitsFrom? acc s = some (acc * 10 ^ s.length + valueOf s) := by
  induction s generalizing acc with
  | nil => simp [readDigitsFrom?, valueOf]
  | cons c s ih =>
      rw [readDigitsFrom?, digit?_of_isDigit (h c List.mem_cons_self)]
      dsimp only
      rw [ih fun d hd => h d (List.mem_cons_of_mem c hd), valueOf_cons, List.length_cons, pow_succ]
      congr 1
      ring

theorem isDigit_of_digit? {d : Nat} (h : digit? c = some d) : c.isDigit = true := by
  rw [digit?] at h
  split at h
  · next hrange =>
      simp only [Char.isDigit, Bool.and_eq_true, decide_eq_true_eq]
      exact hrange
  · cases h

theorem isDigit_of_readDigitsFrom? {acc : Nat} (h : readDigitsFrom? acc s = some n) :
    ∀ c ∈ s, c.isDigit = true := by
  induction s generalizing acc with
  | nil => exact List.forall_mem_nil _
  | cons d s ih =>
      rw [readDigitsFrom?] at h
      split at h
      · next hd => exact List.forall_mem_cons.2 ⟨isDigit_of_digit? hd, ih h⟩
      · cases h

/-- Numerals are what is read without a sign. -/
theorem readDigits?_eq_some_iff : readDigits? s = some n ↔ IsNumeral s n := by
  cases s with
  | nil => exact iff_of_false (Option.some_ne_none n).symm fun h => h.ne_nil rfl
  | cons c s =>
      have hread : (∀ d ∈ c :: s, d.isDigit = true) →
          readDigits? (c :: s) = some (valueOf (c :: s)) := by
        intro hdigit
        rw [readDigits?, readDigitsFrom?_of_isDigit hdigit, Nat.zero_mul, Nat.zero_add]
      constructor
      · intro h
        have hdigit := isDigit_of_readDigitsFrom? h
        exact ⟨List.cons_ne_nil c s, hdigit, Option.some.inj ((hread hdigit).symm.trans h)⟩
      · rintro ⟨-, hdigit, rfl⟩
        exact hread hdigit

theorem not_isNumeral_plus : ¬ IsNumeral ('+' :: s) n := fun h =>
  absurd (h.isDigit '+' List.mem_cons_self) (by decide)

/-- **What is read as a number within the bound**: its numerals, with or without a plus sign. -/
theorem readUnsigned?_eq_some_iff {bound : Nat} : readUnsigned? bound s = some n ↔
    n ≤ bound ∧ ∃ digits, IsNumeral digits n ∧ (s = digits ∨ s = '+' :: digits) := by
  unfold readUnsigned?
  rw [Option.filter_eq_some_iff, decide_eq_true_iff, and_comm]
  refine and_congr_right fun _ => ?_
  split
  · next rest =>
      rw [readDigits?_eq_some_iff]
      constructor
      · exact fun h => ⟨rest, h, Or.inr rfl⟩
      · rintro ⟨digits, h, rfl | hrest⟩
        · exact absurd h not_isNumeral_plus
        · rwa [(List.cons.inj hrest).2]
  · next hsign =>
      rw [readDigits?_eq_some_iff]
      constructor
      · exact fun h => ⟨s, h, Or.inl rfl⟩
      · rintro ⟨digits, h, rfl | hplus⟩
        · exact h
        · exact absurd hplus (hsign digits)

/-- A numeral is read within the bound, whatever its length. -/
theorem readUnsigned?_of_isNumeral (h : IsNumeral s n) (bound : Nat) :
    readUnsigned? bound s = if n ≤ bound then some n else none := by
  split
  · next hle => exact readUnsigned?_eq_some_iff.2 ⟨hle, s, h, Or.inl rfl⟩
  · next hgt =>
      refine Option.eq_none_iff_forall_ne_some.2 fun m hm => hgt ?_
      obtain ⟨hle, digits, hdigits, rfl | rfl⟩ := readUnsigned?_eq_some_iff.1 hm
      · rwa [← h.denotes, hdigits.denotes]
      · exact absurd h not_isNumeral_plus

/-! ## Blanks -/

theorem isBlank_of_visible (hl : 0x20 < c.toNat) (hh : c.toNat < 0x7F) : isBlank c = false := by
  simp only [isBlank, blankRanges, List.any_cons, List.any_nil, Bool.or_false,
    Bool.or_eq_false_iff, Bool.and_eq_false_iff, decide_eq_false_iff_not]
  omega

/-- All characters of a numeral are visible, and so is the plus sign. -/
theorem IsNumeral.visible {digits : List Char} (h : IsNumeral digits n)
    (hs : s = digits ∨ s = '+' :: digits) : ∀ c ∈ s, 0x20 < c.toNat ∧ c.toNat < 0x7F := by
  have hdigits : ∀ c ∈ digits, 0x20 < c.toNat ∧ c.toNat < 0x7F := by
    intro c hc
    have := toNat_of_isDigit (h.isDigit c hc)
    omega
  rcases hs with rfl | rfl
  · exact hdigits
  · exact List.forall_mem_cons.2 ⟨by decide, hdigits⟩

theorem trim_of_readUnsigned? {bound : Nat} (h : readUnsigned? bound s = some n) : trim s = s := by
  obtain ⟨-, digits, hdigits, hs⟩ := readUnsigned?_eq_some_iff.1 h
  refine trim_eq_self_of_forall fun c hc => ?_
  obtain ⟨hl, hh⟩ := hdigits.visible hs c hc
  exact isBlank_of_visible hl hh

end Session.Text
