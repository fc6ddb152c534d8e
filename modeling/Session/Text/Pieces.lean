set_option autoImplicit false

/-! # Cutting text

A text cut at every separator, or at the first one.
-/

namespace Session.Text

/-- The pieces between the separators, in order; there is always at least one. -/
def pieces (separator : Char) (s : List Char) : List (List Char) :=
  s.foldr (fun c ps =>
    if c = separator then [] :: ps
    else match ps with
      | [] => [[c]]
      | p :: rest => (c :: p) :: rest) [[]]

/-- What stands before the first separator and what stands after it, if there is one. -/
def cut? (separator : Char) (s : List Char) : Option (List Char × List Char) :=
  match s.dropWhile (· ≠ separator) with
  | [] => none
  | _ :: rest => some (s.takeWhile (· ≠ separator), rest)

@[simp] theorem pieces_nil (separator : Char) : pieces separator [] = [[]] := rfl

theorem pieces_cons_separator (separator : Char) (s : List Char) :
    pieces separator (separator :: s) = [] :: pieces separator s := by
  simp [pieces]

theorem pieces_ne_nil (separator : Char) (s : List Char) : pieces separator s ≠ [] := by
  cases s with
  | nil => simp
  | cons c s =>
    simp only [pieces, List.foldr_cons]
    split
    · simp
    · split <;> simp

end Session.Text
