set_option autoImplicit false

/-! # Faults of a body stream

A stream may fail in the middle. The failure is either a leaf, which a length limit further out
or anything else may have raised, or it wraps another failure. There are two sorts of wrapper:
one has a message of its own and names the wrapped failure as its source; the other repeats the
message of the failure that it holds and names that failure's source as its own, so the failure
itself is not on the chain of sources.
-/

namespace Session.Body

/-- Why a body stream failed. -/
inductive Fault
  /-- A length limit further out was exceeded. -/
  | lengthLimit
  | message (text : String)
  | wrapped (text : String) (source : Fault)
  /-- A failure passed on with its message and its source. -/
  | passedOn (inner : Fault)
deriving DecidableEq, Repr

namespace Fault

def text : Fault → String
  | lengthLimit => "length limit exceeded"
  | message t => t
  | wrapped t _ => t
  | passedOn f => f.text

/-- The failure that caused this one, if it names one. -/
def source? : Fault → Option Fault
  | lengthLimit => none
  | message _ => none
  | wrapped _ f => some f
  | passedOn f => f.source?

def depth : Fault → Nat
  | lengthLimit => 0
  | message _ => 0
  | wrapped _ f => f.depth + 1
  | passedOn f => f.depth + 1

/-- A source has fewer wrappers than the failure, so a chain of sources ends. -/
theorem depth_source?_lt {f g : Fault} (h : f.source? = some g) : g.depth < f.depth := by
  induction f with
  | lengthLimit => cases h
  | message _ => cases h
  | wrapped t s _ => cases h; exact Nat.lt_succ_self _
  | passedOn s ih => exact Nat.lt_succ_of_lt (ih h)

def isLengthLimit : Fault → Bool
  | lengthLimit => true
  | _ => false

/-- The chain of sources, starting with the failure itself, holds a length limit. -/
def reachesLengthLimit (f : Fault) : Bool :=
  if f.isLengthLimit then true
  else match _h : f.source? with
    | some g => g.reachesLengthLimit
    | none => false
termination_by f.depth
decreasing_by exact depth_source?_lt _h

end Fault

end Session.Body
