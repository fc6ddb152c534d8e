import Session.Journal

set_option autoImplicit false

/-! # What a run logs

What a run over a list logs is what its steps log; using a result logs nothing.
-/

namespace Session.Traced

variable {α β : Type}

@[simp] theorem journal_map (f : α → β) (t : Traced α) : (f <$> t).journal = t.journal :=
  Journal.append_empty t.journal

theorem mem_events_mapM {f : α → Traced β} {as : List α} {e : Log.Event} :
    e ∈ (as.mapM f).journal.events ↔ ∃ a ∈ as, e ∈ (f a).journal.events := by
  induction as with
  | nil => simp [Journal.empty]
  | cons a as ih =>
      rw [List.mapM_cons, journal_bind, Journal.events_append, List.mem_append, journal_bind,
        Journal.events_append, List.mem_append, ih]
      simp [Journal.empty]

end Session.Traced
