import Session.Proofs.Body.Limited

set_option autoImplicit false

/-! # Failures in their wrappers

A failure is a leaf in any number of wrappers, which are of two sorts (`Wrapper`). The reader walks
along its sources in search of a length limit. The walk ends after no more steps than there are
wrappers (`Fault.sourceAfter_eq_none`). A wrapper with a text of its own adds a step to it, and a
wrapper that passes on hides the failure that it holds: so the walk gets to the leaf unless the
innermost wrapper hides just that (`Fault.reachesLengthLimit_iff`).

A failure that is passed on and the one in its wrapper have the same sources, so it is what is
found behind a failure that the induction over the wrappers is about (`Fault.any_source?_iff`).
-/

namespace Session.Body

/-- What one failure is put around another by. -/
inductive Wrapper
  /-- A text of its own; the failure that it holds is its source. -/
  | naming (text : String)
  /-- The text and the source of the failure that it holds. -/
  | passing
deriving DecidableEq, Repr

def Wrapper.around : Wrapper → Fault → Fault
  | naming text, f => .wrapped text f
  | passing, f => .passedOn f

namespace Fault

/-- What is left of a failure without its wrappers. -/
def leaf : Fault → Fault
  | lengthLimit => lengthLimit
  | message text => message text
  | wrapped _ f => f.leaf
  | passedOn f => f.leaf

/-- The wrappers of a failure, the outermost first. -/
def wrappers : Fault → List Wrapper
  | lengthLimit => []
  | message _ => []
  | wrapped text f => .naming text :: f.wrappers
  | passedOn f => .passing :: f.wrappers

theorem wrappers_leaf (f : Fault) : f.leaf.wrappers = [] := by
  induction f with
  | lengthLimit => rfl
  | message text => rfl
  | wrapped text f ih => exact ih
  | passedOn f ih => exact ih

theorem foldr_around_leaf (f : Fault) : f.wrappers.foldr Wrapper.around f.leaf = f := by
  induction f with
  | lengthLimit => rfl
  | message text => rfl
  | wrapped text f ih => exact congrArg (wrapped text) ih
  | passedOn f ih => exact congrArg passedOn ih

theorem length_wrappers (f : Fault) : f.wrappers.length = f.depth := by
  induction f with
  | lengthLimit => rfl
  | message text => rfl
  | wrapped text f ih => exact congrArg (· + 1) ih
  | passedOn f ih => exact congrArg (· + 1) ih

/-! ## The walk -/

/-- Where the walk along the sources is after so many steps. -/
def sourceAfter : Nat → Fault → Option Fault
  | 0, f => some f
  | k + 1, f => f.source?.bind (sourceAfter k)

/-- **The walk ends.** -/
theorem sourceAfter_eq_none {f : Fault} {k : Nat} (h : f.wrappers.length < k) :
    f.sourceAfter k = none := by
  rw [length_wrappers] at h
  induction k generalizing f with
  | zero => omega
  | succ k ih =>
      rw [sourceAfter]
      cases hs : f.source? with
      | none => rfl
      | some g =>
          have hg : g.depth < f.depth := depth_source?_lt hs
          exact ih (by omega)

theorem isLengthLimit_iff {f : Fault} : f.isLengthLimit = true ↔ f = .lengthLimit := by
  cases f <;> simp [isLengthLimit]

/-- One step of the search: the failure itself, or what is found behind it. -/
theorem reachesLengthLimit_eq (f : Fault) :
    f.reachesLengthLimit = (f.isLengthLimit || f.source?.any reachesLengthLimit) := by
  rw [reachesLengthLimit]
  cases f.isLengthLimit with
  | true => rfl
  | false => cases f.source? <;> rfl

/-- The search for a length limit is one along the walk. -/
theorem reachesLengthLimit_iff_sourceAfter {f : Fault} :
    f.reachesLengthLimit = true ↔ ∃ k, f.sourceAfter k = some .lengthLimit := by
  have hzero : f.isLengthLimit = true ↔ f.sourceAfter 0 = some .lengthLimit := by
    rw [isLengthLimit_iff, sourceAfter, Option.some.injEq]
  have hsucc : f.source?.any reachesLengthLimit = true ↔
      ∃ k, f.sourceAfter (k + 1) = some .lengthLimit := by
    cases hs : f.source? with
    | none => simp [sourceAfter, hs]
    | some g =>
        have hg : g.depth < f.depth := depth_source?_lt hs
        rw [Option.any_some, reachesLengthLimit_iff_sourceAfter (f := g)]
        simp only [sourceAfter, hs, Option.bind_some]
  rw [reachesLengthLimit_eq, Bool.or_eq_true, hzero, hsucc]
  constructor
  · rintro (h | ⟨k, hk⟩)
    · exact ⟨0, h⟩
    · exact ⟨k + 1, hk⟩
  · rintro ⟨k, hk⟩
    cases k with
    | zero => exact Or.inl hk
    | succ k => exact Or.inr ⟨k, hk⟩
termination_by f.depth

/-! ## The innermost wrapper -/

/-- What is found behind a failure: a leaf, if the innermost wrapper names it. -/
theorem any_source?_iff (f : Fault) : f.source?.any reachesLengthLimit = true ↔
    f.leaf = .lengthLimit ∧ ∃ text, f.wrappers.getLast? = some (.naming text) := by
  induction f with
  | lengthLimit => simp [source?, wrappers]
  | message text => simp [source?, wrappers]
  | wrapped text f ih =>
      show f.reachesLengthLimit = true ↔ f.leaf = .lengthLimit ∧
        ∃ t, (Wrapper.naming text :: f.wrappers).getLast? = some (.naming t)
      rw [reachesLengthLimit_eq, Bool.or_eq_true, ih]
      -- the failure is the leaf itself, or has an innermost wrapper of its own
      cases f <;> simp [isLengthLimit, leaf, wrappers]
  | passedOn f ih =>
      show f.source?.any reachesLengthLimit = true ↔ f.leaf = .lengthLimit ∧
        ∃ t, (Wrapper.passing :: f.wrappers).getLast? = some (.naming t)
      rw [ih]
      cases f <;> simp [leaf, wrappers]

/-- **The walk gets to a length limit** in no wrapper, or in wrappers of which the innermost
names it. -/
theorem reachesLengthLimit_iff {f : Fault} : f.reachesLengthLimit = true ↔
    f.leaf = .lengthLimit ∧
      (f.wrappers = [] ∨ ∃ text, f.wrappers.getLast? = some (.naming text)) := by
  rw [reachesLengthLimit_eq, Bool.or_eq_true, any_source?_iff, and_or_left]
  refine or_congr_left ?_
  cases f <;> simp [isLengthLimit, leaf, wrappers]

end Fault

/-! ## What a failing stream comes to -/

theorem Error.ofFault_eq_tooLarge_iff {limit : Limit} {f : Fault} :
    Error.ofFault limit f = .tooLarge limit.maxBytes ↔ f.reachesLengthLimit = true := by
  rw [Error.ofFault]
  split
  · next h => exact iff_of_true rfl h
  · next h =>
      refine iff_of_false ?_ h
      intro he
      cases he

theorem Error.ofFault_of_ne {limit : Limit} {f : Fault}
    (h : Error.ofFault limit f ≠ .tooLarge limit.maxBytes) : Error.ofFault limit f = .stream f := by
  rw [Error.ofFault]
  split
  · next hr => exact absurd (Error.ofFault_eq_tooLarge_iff.2 hr) h
  · rfl

theorem readRequestText_of_fault {limit : Limit} {headers : Http.Headers} {pre : Stream}
    (ha : ∀ n, declaredLength headers = some n → limit.Admits n) (hc : pre.isClean = true)
    (hw : (requestReader limit headers).Within pre.content.length) (f : Fault) (rest : Stream) :
    (readRequestText limit headers (pre ++ .fault f :: rest)).value
      = .error (.ofFault limit f) := by
  rw [readRequestText_eq_error_iff, readRequest_of_admitted ha, Reader.run_of_fault hc hw]
  rfl

/-- **What a failing stream comes to.** Every failure is a leaf in wrappers, and the walk along its
sources ends. It gets to a length limit exactly if the leaf is one and there is no wrapper or the
innermost one names it. Then the reading comes to a body that is too large, with the limit of the
reader, and else to that failure of the stream, with its text as it is, whatever came before it
within the bounds. -/
theorem result_of_fault (limit : Limit) (f : Fault) :
    f.leaf.wrappers = [] ∧ f.wrappers.foldr Wrapper.around f.leaf = f ∧
    (∀ k, f.wrappers.length < k → f.sourceAfter k = none) ∧
    ((∃ k, f.sourceAfter k = some .lengthLimit) ↔ f.leaf = .lengthLimit ∧
      (f.wrappers = [] ∨ ∃ text, f.wrappers.getLast? = some (.naming text))) ∧
    ∃ e : Error,
      (e = .tooLarge limit.maxBytes ↔ ∃ k, f.sourceAfter k = some .lengthLimit) ∧
      (e ≠ .tooLarge limit.maxBytes →
        e = .stream f ∧ e.message = "failed to read request body: " ++ f.text) ∧
      (∀ expected pre rest, Stream.isClean pre = true →
        Reader.Within { limit, expected } pre.content.length →
        (Reader.run { limit, expected } (pre ++ .fault f :: rest)).result = .error e) ∧
      ∀ headers pre rest, (∀ n, declaredLength headers = some n → limit.Admits n) →
        Stream.isClean pre = true → (requestReader limit headers).Within pre.content.length →
        (readRequestText limit headers (pre ++ .fault f :: rest)).value = .error e := by
  refine ⟨f.wrappers_leaf, f.foldr_around_leaf, fun k hk => Fault.sourceAfter_eq_none hk, ?_,
    .ofFault limit f, ?_, ?_, ?_, ?_⟩
  · rw [← Fault.reachesLengthLimit_iff_sourceAfter, Fault.reachesLengthLimit_iff]
  · rw [Error.ofFault_eq_tooLarge_iff, Fault.reachesLengthLimit_iff_sourceAfter]
  · intro hne
    have hstream := Error.ofFault_of_ne hne
    exact ⟨hstream, congrArg Error.message hstream⟩
  · intro expected pre rest hc hw
    rw [Reader.run_of_fault hc hw]
  · intro headers pre rest ha hc hw
    exact readRequestText_of_fault ha hc hw f rest

/-- A length limit is found behind a wrapper that is passed on, but not if it is passed on
itself. -/
theorem result_of_fault_passedOn :
    let named : Fault := .passedOn (.passedOn (.wrapped "broken pipe" .lengthLimit))
    let hidden : Fault := .wrapped "broken pipe" (.passedOn .lengthLimit)
    let pre : Stream := [.chunk (utf8 "ab"), .pause 5, .chunk []]
    let r : Reader := { limit := .ofBytes 9, expected := some 2 }
    pre.isClean = true ∧ r.Within pre.content.length ∧
      (r.run (pre ++ [.fault named])).result = .error (.tooLarge (some 9)) ∧
      (r.run (pre ++ [.fault hidden])).result = .error (.stream hidden) ∧
      (Error.stream hidden).message = "failed to read request body: broken pipe" := by
  intro named hidden pre r
  have hw : r.Within pre.content.length := by
    constructor
    · rintro _ ⟨⟩
      decide
    · rintro _ ⟨⟩
      decide
  obtain ⟨-, -, -, hwalk, e, hlimit, -, hrun, -⟩ := result_of_fault (.ofBytes 9) named
  obtain ⟨-, -, -, hwalk', e', hlimit', hstream', hrun', -⟩ := result_of_fault (.ofBytes 9) hidden
  have he : e = .tooLarge (some 9) := hlimit.2 (hwalk.2 ⟨rfl, Or.inr ⟨_, rfl⟩⟩)
  have he' : e' = .stream hidden := by
    refine (hstream' fun h => ?_).1
    rcases (hwalk'.1 (hlimit'.1 h)).2 with hnil | ⟨text, hlast⟩
    · cases hnil
    · cases hlast
  refine ⟨rfl, hw, ?_, ?_, rfl⟩
  · rw [hrun _ pre [] rfl hw, he]
  · rw [hrun' _ pre [] rfl hw, he']

end Session.Body
