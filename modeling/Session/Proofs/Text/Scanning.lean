import Mathlib.Tactic
import Session.Text.Scan

set_option autoImplicit false

/-! # What a scanner gives

`Scan.Gives p P` says that every value that `p` takes off a text has the property `P`, whatever
the text. It follows the way in which a scanner is put together: there is one lemma for each
combinator.
-/

namespace Session.Text.Scan

variable {α β : Type} {p q : Scan α} {P Q : α → Prop} {f : α → Scan β} {R : β → Prop}

/-- Whatever the scanner takes off a text has the property. -/
def Gives (p : Scan α) (P : α → Prop) : Prop := ∀ s a rest, p s = some (a, rest) → P a

theorem Gives.mono (hp : Gives p P) (h : ∀ a, P a → Q a) : Gives p Q :=
  fun s a rest hs => h a (hp s a rest hs)

theorem gives_true (p : Scan α) : Gives p fun _ => True := fun _ _ _ _ => trivial

theorem gives_pure {a : α} (h : P a) : Gives (pure a) P := by
  intro s b rest hs
  cases hs
  exact h

theorem gives_failure : Gives (failure : Scan α) P := by
  intro s a rest hs
  cases hs

theorem Gives.bind (hp : Gives p P) (hf : ∀ a, P a → Gives (f a) R) : Gives (p >>= f) R := by
  intro s b rest hs
  obtain ⟨⟨a, t⟩, ha, hb⟩ := Option.bind_eq_some_iff.1 hs
  exact hf a (hp s a t ha) t b rest hb

/-- Where nothing matters but what comes last. -/
theorem gives_bind (hf : ∀ a, Gives (f a) R) : Gives (p >>= f) R :=
  (gives_true p).bind fun a _ => hf a

theorem Gives.map {g : α → β} (hp : Gives p P) (hg : ∀ a, P a → R (g a)) : Gives (g <$> p) R := by
  rw [map_eq_pure_bind]
  exact hp.bind fun a ha => gives_pure (hg a ha)

theorem Gives.orElse (hp : Gives p P) (hq : Gives q P) : Gives (p <|> q) P := by
  intro s a rest hs
  have hor : (p s <|> q s) = some (a, rest) := hs
  rcases (Option.orElse_eq_some _ _ _).1 hor with hs | ⟨-, hs⟩
  · exact hp s a rest hs
  · exact hq s a rest hs

theorem gives_check {b : Bool} : Gives (check b) fun _ => b = true := by
  cases b with
  | true => exact gives_pure rfl
  | false => exact gives_failure

theorem gives_lift (o : Option α) : Gives (liftM o : Scan α) fun a => o = some a := by
  intro s a rest hs
  cases o with
  | none => cases hs
  | some b =>
      cases hs
      rfl

theorem Gives.many (hp : Gives p P) : Gives (Scan.many p) fun as => ∀ a ∈ as, P a := by
  have hfrom : ∀ fuel s, ∀ a ∈ (manyFrom p fuel s).1, P a := by
    intro fuel
    induction fuel with
    | zero => exact fun s a ha => nomatch ha
    | succ fuel ih =>
        intro s
        rw [manyFrom]
        cases hs : p s with
        | none => exact fun a ha => nomatch ha
        | some found =>
            intro a ha
            rcases List.mem_cons.1 ha with rfl | ha
            · exact hp s _ _ hs
            · exact ih _ a ha
  intro s as rest hs
  have has : (manyFrom p s.length s).1 = as := congrArg Prod.fst (Option.some.inj hs)
  rw [← has]
  exact hfrom _ s

theorem Gives.whole? (hp : Gives p P) {s : List Char} {a : α} (h : p.whole? s = some a) : P a := by
  rw [Scan.whole?] at h
  split at h
  · next hs =>
      cases h
      exact hp _ _ _ hs
  · cases h

end Session.Text.Scan
