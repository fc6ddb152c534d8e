set_option autoImplicit false

/-! # Body limits -/

namespace Session.Body

/-- The greatest number of bytes a body may have; `none` for a body of any size. -/
structure Limit where
  maxBytes : Option Nat
deriving DecidableEq, Repr

namespace Limit

def ofBytes (n : Nat) : Limit := ⟨some n⟩

def unlimited : Limit := ⟨none⟩

def defaultBytes : Nat := 1024 * 1024

/-- The limit where none is configured. -/
def standard : Limit := ofBytes defaultBytes

/-- The bound that a body of this length exceeds, if it exceeds one. -/
def exceededBy (l : Limit) (length : Nat) : Option Nat := l.maxBytes.filter (· < length)

def Admits (l : Limit) (length : Nat) : Prop := ∀ n, l.maxBytes = some n → length ≤ n

instance (l : Limit) (length : Nat) : Decidable (l.Admits length) :=
  inferInstanceAs (Decidable (∀ n ∈ l.maxBytes, length ≤ n))

theorem exceededBy_eq_none_iff {l : Limit} {length : Nat} :
    l.exceededBy length = none ↔ l.Admits length := by
  cases l with
  | mk m => cases m <;> simp [exceededBy, Admits, Option.filter]

theorem exceededBy_eq_some_iff {l : Limit} {length n : Nat} :
    l.exceededBy length = some n ↔ l.maxBytes = some n ∧ n < length := by
  simp [exceededBy, Option.filter_eq_some_iff]

theorem not_admits_iff {l : Limit} {length : Nat} :
    ¬ l.Admits length ↔ ∃ n, l.maxBytes = some n ∧ n < length := by
  simp [Admits]

end Limit

end Session.Body
