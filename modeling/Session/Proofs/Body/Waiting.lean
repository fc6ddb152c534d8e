import Session.Proofs.Body.Limited

set_option autoImplicit false

/-! # How long a reading waits

A reading is decided by the first item that is a failure or leaves the bounds, or else by the end
of the stream (`Reader.DecidedAt`), and it waits for as long as the stream is pending up to there
(`Reader.waited_run`). A limit further out that admits whatever the reader may take cuts the stream
at this item at the earliest, so behind it the reading waits just as long
(`Reader.waited_run_limited`).
-/

namespace Session.Body

namespace Reader

variable {r : Reader} {s pre : Stream} {i : Item} {k : Nat}

/-- The reading of a stream is decided at the place `k`: by the item there, or by the end of the
stream. -/
def DecidedAt (r : Reader) (s : Stream) (k : Nat) : Prop :=
  r.DecidesFirst s k ∨ k = s.length ∧ ∀ j, ¬ r.Decides s j

theorem exists_decidedAt (r : Reader) (s : Stream) : ∃ k, r.DecidedAt s k := by
  classical
  by_cases h : ∃ k, r.Decides s k
  · exact ⟨Nat.find h, Or.inl ⟨Nat.find_spec h, fun j hj => Nat.find_min h hj⟩⟩
  · exact ⟨s.length, Or.inr ⟨rfl, not_exists.1 h⟩⟩

/-- A stream that neither fails nor leaves the bounds is read to its end. -/
theorem decidedAt_length (hc : s.isClean = true) (hw : r.Within s.content.length) :
    r.DecidedAt s s.length := by
  refine Or.inr ⟨rfl, fun j hj => ?_⟩
  rcases hj with ⟨f, hf⟩ | ⟨-, hout⟩
  · rw [Stream.isClean, List.all_eq_true] at hc
    cases hc _ (List.mem_of_getElem? hf)
  · have hsum : s.content = Stream.content (s.take (j + 1)) ++ Stream.content (s.drop (j + 1)) := by
      rw [← Stream.content_append, List.take_append_drop]
    have hle : s.total (j + 1) ≤ s.content.length := by
      rw [hsum, Stream.total, List.length_append]
      omega
    exact hout (hw.mono hle)

/-- A reading that is stopped has waited until then. -/
theorem waited_run_of_stops (hc : pre.isClean = true) (hw : r.Within pre.content.length)
    (hi : r.Stops pre i) (rest : Stream) : (r.run (pre ++ i :: rest)).waited = pre.pending := by
  obtain ⟨e, he⟩ := run_of_stops hc hw hi rest
  rw [he]

/-- The first item that decides a reading stops it. -/
theorem DecidesFirst.stops (h : r.DecidesFirst s k) : ∃ i, s = s.take k ++ i :: s.drop (k + 1) ∧
    Stream.isClean (s.take k) = true ∧ r.Within (Stream.content (s.take k)).length ∧
      r.Stops (s.take k) i := by
  have hk : k < s.length := by
    rcases h.1 with ⟨f, hf⟩ | ⟨hk, -⟩
    · exact (List.getElem?_eq_some_iff.1 hf).1
    · exact hk
  have hi : s[k]? = some s[k] := List.getElem?_eq_getElem hk
  obtain ⟨hc, hw⟩ := clean_and_within_of_undecided (Nat.le_of_lt hk) h.2
  refine ⟨s[k], (eq_take_append hi).2, hc, hw, ?_⟩
  rcases h.1 with ⟨f, hf⟩ | ⟨-, hout⟩
  · exact Or.inl ⟨f, Option.some.inj (hi.symm.trans hf)⟩
  · cases hik : s[k] with
    | fault f => exact Or.inl ⟨f, rfl⟩
    | chunk c =>
        rw [hik] at hi
        rw [total_succ_of_chunk hi] at hout
        exact Or.inr ⟨c, rfl, hout⟩
    | pause ms =>
        -- a pause brings nothing that could leave the bounds
        have hsame : s.total (k + 1) = s.total k := by
          rw [Stream.total, Stream.total, List.take_add_one, hi, hik, Option.toList_some,
            Stream.content_append_pause]
        rw [hsame] at hout
        exact absurd hw hout

/-- **A reading waits until it is decided.** -/
theorem waited_run (h : r.DecidedAt s k) :
    (r.run s).waited = Stream.pending (s.take k) := by
  rcases h with h | ⟨rfl, hu⟩
  · obtain ⟨i, hs, hc, hw, hi⟩ := h.stops
    calc (r.run s).waited
        = (r.run (s.take k ++ i :: s.drop (k + 1))).waited := by rw [← hs]
      _ = Stream.pending (s.take k) := waited_run_of_stops hc hw hi _
  · obtain ⟨hc, hw⟩ := clean_and_within_of_undecided (Nat.le_refl _) fun j _ => hu j
    rw [Stream.total] at hw
    rw [List.take_length] at hc hw ⊢
    by_cases he : ∀ n, r.expected = some n → n = s.content.length
    · rw [run_of_met hc hw.1 he]
    · push Not at he
      obtain ⟨n, hn, hne⟩ := he
      rw [run_of_missed hc hw hn hne]

/-- A limit that admits all that the reader may take lets it wait as long as without. -/
theorem waited_run_limited {cut : Nat} (hcut : ∀ n, r.Within n → n ≤ cut) (s : Stream) :
    (r.run (s.limited cut)).waited = (r.run s).waited := by
  rcases r.within_or_cut s with ⟨-, hw⟩ | ⟨pre, i, rest, rfl, hc, hw, hi⟩
  · rw [Stream.limited_of_le (hcut _ hw)]
  · rw [Stream.limited_append (hcut _ hw), waited_run_of_stops hc hw hi]
    -- whether the item is replaced or not, it stops the reading
    rcases hi with ⟨f, rfl⟩ | ⟨c, rfl, hout⟩
    · rw [Stream.limited, waited_run_of_stops hc hw (Or.inl ⟨f, rfl⟩)]
    · rw [Stream.limited]
      split
      · rw [waited_run_of_stops hc hw (Or.inl ⟨_, rfl⟩)]
      · rw [waited_run_of_stops hc hw (Or.inr ⟨c, rfl, hout⟩)]

end Reader

end Session.Body
