import Session.Log.Event
import Session.Metrics

set_option autoImplicit false

/-! # Journal

What a run leaves behind beside its result: the events it logs, in order, and what it counts.
`Traced α` is a result together with its journal; one after another, journals append.
-/

namespace Session

/-- Logged events in order, and counters. -/
structure Journal where
  events : List Log.Event := []
  counters : Counters := Counters.zero
deriving DecidableEq, Repr

namespace Journal

def empty : Journal := {}

def log (e : Log.Event) : Journal := { events := [e] }

def count (c : Counters) : Journal := { counters := c }

/-- What happens first, then what happens after it. -/
def append (a b : Journal) : Journal := ⟨a.events ++ b.events, a.counters + b.counters⟩

instance : Append Journal := ⟨append⟩

theorem append_def (a b : Journal) : a ++ b = ⟨a.events ++ b.events, a.counters + b.counters⟩ :=
  rfl

@[simp] theorem events_append (a b : Journal) : (a ++ b).events = a.events ++ b.events := rfl

@[simp] theorem counters_append (a b : Journal) :
    (a ++ b).counters = a.counters + b.counters := rfl

@[simp] theorem empty_append (a : Journal) : empty ++ a = a := by
  simp [append_def, empty]

@[simp] theorem append_empty (a : Journal) : a ++ empty = a := by
  simp [append_def, empty]

theorem append_assoc (a b c : Journal) : a ++ b ++ c = a ++ (b ++ c) := by
  simp [append_def, Counters.add_assoc]

end Journal

/-- A result and what was logged and counted on the way to it. -/
structure Traced (α : Type) where
  value : α
  journal : Journal
deriving Repr

namespace Traced

variable {α β : Type}

def quiet (a : α) : Traced α := ⟨a, .empty⟩

def note (j : Journal) : Traced Unit := ⟨(), j⟩

/-- A step, then one that uses its result. -/
def andThen (t : Traced α) (f : α → Traced β) : Traced β :=
  let u := f t.value
  ⟨u.value, t.journal ++ u.journal⟩

theorem andThen_quiet (t : Traced α) : t.andThen quiet = t := by
  simp only [andThen, quiet, Journal.append_empty]

theorem quiet_andThen (a : α) (f : α → Traced β) : (quiet a).andThen f = f a := by
  simp only [andThen, quiet, Journal.empty_append]

theorem andThen_assoc {γ : Type} (t : Traced α) (f : α → Traced β) (g : β → Traced γ) :
    (t.andThen f).andThen g = t.andThen fun a => (f a).andThen g := by
  simp only [andThen, Journal.append_assoc]

instance : Monad Traced where
  pure := quiet
  bind := andThen

instance : LawfulMonad Traced :=
  LawfulMonad.mk' Traced andThen_quiet quiet_andThen andThen_assoc

@[simp] theorem value_pure (a : α) : (pure a : Traced α).value = a := rfl

@[simp] theorem journal_pure (a : α) : (pure a : Traced α).journal = .empty := rfl

@[simp] theorem value_bind (t : Traced α) (f : α → Traced β) :
    (t >>= f).value = (f t.value).value := rfl

@[simp] theorem journal_bind (t : Traced α) (f : α → Traced β) :
    (t >>= f).journal = t.journal ++ (f t.value).journal := rfl

@[simp] theorem value_note (j : Journal) : (note j).value = () := rfl

@[simp] theorem journal_note (j : Journal) : (note j).journal = j := rfl

end Traced

end Session
