import Session.Proofs.Body.Reading

set_option autoImplicit false

/-! # Declared lengths of any size

A request may declare any number as the length of its body, with zeros in front and with spaces and
tabs around it (`Declares`). Of the lengths above the limit those of 64 bits are refused before
anything is taken, and a body that is declared to be longer still is read as if nothing had been
declared (`refused_iff_of_declares`).
-/

namespace Session.Body

variable {s : Stream} {r : Reader} {e : Error}

/-! ## What is refused -/

/-- Without a declared length a reading fails at an item, which it takes. -/
theorem taken_run_of_error (hr : r.expected = none) (he : (r.run s).result = .error e) :
    (r.run s).taken ≠ 0 := by
  have hmet : ∀ n, r.expected = some n → n = s.content.length := by
    rw [hr]
    rintro n ⟨⟩
  rcases Reader.within_or_cut r s with ⟨hc, hw⟩ | ⟨pre, i, rest, rfl, hc, hw, hi⟩
  · rw [Reader.run_of_met hc hw.1 hmet] at he
    cases he
  · obtain ⟨e, hrun⟩ := Reader.run_of_stops hc hw hi rest
    rw [hrun]
    exact Nat.succ_ne_zero _

/-- **Which declared lengths above the limit are refused before reading.** Those of 64 bits are,
whatever the body. A greater one is passed over, and the body is read as if nothing had been
declared. -/
theorem refused_iff_of_declares (limit : Limit) (headers : Http.Headers) (s : Stream) {n max : Nat}
    (hd : Declares headers n) (hm : limit.maxBytes = some max) (hlt : max < n) :
    ((readRequestText limit headers s).value = .error (.tooLarge (some max)) ∧
        (readRequest limit headers s).taken = 0 ↔ n ≤ Text.maxUnsigned) ∧
      (Text.maxUnsigned < n → readRequest limit headers s = Reader.run { limit } s) := by
  have hlength := declaredLength_of_declares hd
  have hread : Text.maxUnsigned < n → readRequest limit headers s = Reader.run { limit } s := by
    intro hgt
    rw [if_neg (Nat.not_le.2 hgt)] at hlength
    rw [readRequest_of_admitted (by rw [hlength]; rintro _ ⟨⟩), requestReader, hlength]
  refine ⟨⟨?_, fun hle => ?_⟩, hread⟩
  · rintro ⟨herror, htaken⟩
    by_contra hgt
    rw [readRequestText_eq_error_iff, hread (Nat.not_le.1 hgt)] at herror
    rw [hread (Nat.not_le.1 hgt)] at htaken
    exact taken_run_of_error rfl herror htaken
  · rw [if_pos hle] at hlength
    rw [readRequestText_eq_error_iff, readRequest_of_refused hlength hm hlt]
    exact ⟨rfl, rfl⟩

/-- The greatest number of 64 bits, with zeros in front and blanks around it. -/
def greatestPadded : Http.Value := ⟨utf8 " 0018446744073709551615\t", by decide +kernel⟩

/-- One more. -/
def beyondGreatest : Http.Value := ⟨utf8 "18446744073709551616", by decide +kernel⟩

theorem refused_of_greatestPadded :
    Declares (declaring greatestPadded) Text.maxUnsigned ∧ (Limit.ofBytes 10).maxBytes = some 10 ∧
      10 < Text.maxUnsigned ∧
      (readRequestText (.ofBytes 10) (declaring greatestPadded) [.chunk (utf8 "small")]).value
        = .error (.tooLarge (some 10)) ∧
      (readRequest (.ofBytes 10) (declaring greatestPadded) [.chunk (utf8 "small")]).taken = 0 := by
  have hd : Declares (declaring greatestPadded) Text.maxUnsigned :=
    ⟨greatestPadded, [' '], "0018446744073709551615".toList, ['\t'], rfl, by decide +kernel,
      by simp, by decide, List.all_eq_true.1 (by decide +kernel), by decide +kernel⟩
  exact ⟨hd, rfl, by decide,
    (refused_iff_of_declares (.ofBytes 10) _ [.chunk (utf8 "small")] hd rfl (by decide)).1.2
      (Nat.le_refl _)⟩

/-- A body that is declared to be longer than any limit is read, and accepted. -/
theorem accepted_of_beyondGreatest :
    Declares (declaring beyondGreatest) (2 ^ 64) ∧ (Limit.ofBytes 10).maxBytes = some 10 ∧
      10 < 2 ^ 64 ∧
      (readRequestText (.ofBytes 10) (declaring beyondGreatest) [.chunk (utf8 "small")]).value
        = .ok "small" ∧
      (readRequest (.ofBytes 10) (declaring beyondGreatest) [.chunk (utf8 "small")]).taken = 1 := by
  refine ⟨⟨beyondGreatest, [], "18446744073709551616".toList, [], rfl, by decide +kernel,
    by simp, by decide, List.all_eq_true.1 (by decide +kernel), by decide +kernel⟩, rfl, by decide,
    by decide +kernel, by decide +kernel⟩

end Session.Body
