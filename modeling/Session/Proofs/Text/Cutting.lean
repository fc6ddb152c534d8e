import Mathlib.Data.List.DropRight
import Mathlib.Tactic
import Session.Text.Blank
import Session.Text.Pieces

set_option autoImplicit false

/-! # Trimming and cutting

Trimming leaves a text alone that has no blank at either end (`trim_eq_self_iff`), so what is
trimmed stays as it is. Cutting a text undoes joining as long as no part holds the separator
(`pieces_append_flatMap`), and no piece ever holds it (`separator_notMem_of_mem_pieces`).
-/

namespace Session.Text

/-! ## Trimming -/

theorem trimEnd_eq_rdropWhile (s : List Char) : trimEnd s = s.rdropWhile isBlank := rfl

/-- A text is its own trimming exactly if no blank stands at either end. -/
theorem trim_eq_self_iff {s : List Char} :
    trim s = s ↔ (∀ c, s.head? = some c → isBlank c = false) ∧
      ∀ c, s.getLast? = some c → isBlank c = false := by
  rw [trim, trimEnd_eq_rdropWhile, trimStart]
  constructor
  · intro h
    -- both steps only shorten, so neither drops anything
    have hstart : s.dropWhile isBlank = s := by
      refine (List.dropWhile_suffix isBlank).eq_of_length_le ?_
      calc s.length = ((s.dropWhile isBlank).rdropWhile isBlank).length := by rw [h]
        _ ≤ (s.dropWhile isBlank).length := (List.rdropWhile_prefix _ _).length_le
    rw [hstart] at h
    refine ⟨?_, ?_⟩
    · intro c hc
      cases s with
      | nil => cases hc
      | cons d s =>
          cases hc
          have := List.dropWhile_eq_self_iff.1 hstart (by simp)
          simpa using this
    · intro c hc
      have hne : s ≠ [] := by
        rintro rfl
        cases hc
      have := List.rdropWhile_eq_self_iff.1 h hne
      rw [List.getLast?_eq_some_getLast hne, Option.some.injEq] at hc
      rw [hc] at this
      simpa using this
  · rintro ⟨hhead, hlast⟩
    have hstart : s.dropWhile isBlank = s := by
      refine List.dropWhile_eq_self_iff.2 fun hl => ?_
      have := hhead s[0] (by rw [List.head?_eq_getElem?, List.getElem?_eq_getElem hl])
      simp [this]
    rw [hstart]
    refine List.rdropWhile_eq_self_iff.2 fun hne => ?_
    have := hlast (s.getLast hne) (List.getLast?_eq_some_getLast hne)
    simp [this]

theorem trim_eq_self_of_forall {s : List Char} (h : ∀ c ∈ s, isBlank c = false) : trim s = s :=
  trim_eq_self_iff.2 ⟨fun c hc => h c (List.mem_of_mem_head? hc),
    fun c hc => h c (List.mem_of_getLast? hc)⟩

theorem trim_trim (s : List Char) : trim (trim s) = trim s := by
  have hhead : ∀ c, (trim s).head? = some c → isBlank c = false := by
    intro c hc
    -- what is left after both steps is a prefix of what is left after the first one
    obtain ⟨t, ht⟩ := List.rdropWhile_prefix isBlank (s.dropWhile isBlank)
    have hd : (s.dropWhile isBlank).head? = some c := by
      rw [← ht, List.head?_append]
      rw [trim, trimEnd_eq_rdropWhile, trimStart] at hc
      rw [hc]
      rfl
    have := List.head?_dropWhile_not isBlank s
    rw [hd] at this
    simpa using this
  refine trim_eq_self_iff.2 ⟨hhead, fun c hc => ?_⟩
  have hne : trim s ≠ [] := by
    intro h
    rw [h] at hc
    cases hc
  have hlast := List.rdropWhile_last_not isBlank (trimStart s) hne
  rw [List.getLast?_eq_some_getLast hne, Option.some.injEq] at hc
  rw [← hc, ← Bool.not_eq_true]
  exact hlast

theorem mem_of_mem_trim {s : List Char} {c : Char} (h : c ∈ trim s) : c ∈ s :=
  (List.dropWhile_suffix isBlank).subset ((List.rdropWhile_prefix _ _).subset h)

theorem exists_eq_trim (s : List Char) : ∃ before after, s = before ++ trim s ++ after ∧
    ∀ c ∈ before ++ after, isBlank c = true := by
  have hend : trim s ++ (trimStart s).rtakeWhile isBlank = trimStart s := by
    rw [trim, trimEnd, List.rtakeWhile, ← List.reverse_append, List.takeWhile_append_dropWhile,
      List.reverse_reverse]
  refine ⟨s.takeWhile isBlank, (trimStart s).rtakeWhile isBlank, ?_, fun c hc => ?_⟩
  · rw [List.append_assoc, hend, trimStart, List.takeWhile_append_dropWhile]
  · rcases List.mem_append.1 hc with h | h
    · exact List.mem_takeWhile_imp h
    · exact List.mem_rtakeWhile_imp h

/-- Blanks in front of something else. -/
theorem trimStart_append {before s : List Char} (hb : ∀ c ∈ before, isBlank c = true)
    (hs : ∀ c, s.head? = some c → isBlank c = false) : trimStart (before ++ s) = s := by
  rw [trimStart, List.dropWhile_append_of_pos hb]
  cases s with
  | nil => rfl
  | cons c s => exact List.dropWhile_cons_of_neg (by simp [hs c rfl])

theorem trim_append_append {before s after : List Char} (hb : ∀ c ∈ before, isBlank c = true)
    (ha : ∀ c ∈ after, isBlank c = true) (hs : ∀ c ∈ s, isBlank c = false) (hne : s ≠ []) :
    trim (before ++ s ++ after) = s := by
  have hstart : trimStart (before ++ (s ++ after)) = s ++ after := by
    refine trimStart_append hb fun c hc => hs c ?_
    rw [List.head?_append_of_ne_nil _ hne] at hc
    exact List.mem_of_mem_head? hc
  have hend : trimStart (after.reverse ++ s.reverse) = s.reverse :=
    trimStart_append (fun c hc => ha c (List.mem_reverse.1 hc)) fun c hc =>
      hs c (List.mem_reverse.1 (List.mem_of_mem_head? hc))
  rw [List.append_assoc, trim, hstart, trimEnd, List.reverse_append, ← trimStart, hend,
    List.reverse_reverse]

/-! ## Cutting -/

variable {separator : Char}

theorem pieces_of_notMem {s : List Char} (h : separator ∉ s) : pieces separator s = [s] := by
  induction s with
  | nil => rfl
  | cons c s ih =>
      rw [List.mem_cons, not_or] at h
      have hs : s.foldr _ [[]] = pieces separator s := rfl
      rw [pieces, List.foldr_cons, if_neg (Ne.symm h.1), hs, ih h.2]

/-- A text is cut at a separator, and on both sides of it. -/
theorem pieces_append_cons (s t : List Char) :
    pieces separator (s ++ separator :: t) = pieces separator s ++ pieces separator t := by
  induction s with
  | nil => exact pieces_cons_separator separator t
  | cons c s ih =>
      have hs : (s ++ separator :: t).foldr _ [[]] = pieces separator (s ++ separator :: t) := rfl
      by_cases hc : c = separator
      · subst hc
        rw [List.cons_append, pieces_cons_separator, ih, pieces_cons_separator, List.cons_append]
      · -- the first piece is there in any case, and the character goes in front of it
        obtain ⟨p, ps, hp⟩ := List.exists_cons_of_ne_nil (pieces_ne_nil separator s)
        have hone : pieces separator (c :: s) = (c :: p) :: ps := by
          have hr : s.foldr _ [[]] = pieces separator s := rfl
          rw [pieces, List.foldr_cons, if_neg hc, hr, hp]
        rw [List.cons_append, pieces, List.foldr_cons, if_neg hc, hs, ih, hone, hp,
          List.cons_append, List.cons_append]

/-- Cutting undoes joining. -/
theorem pieces_append_flatMap (s : List Char) {parts : List (List Char)}
    (hp : ∀ p ∈ parts, separator ∉ p) :
    pieces separator (s ++ parts.flatMap (separator :: ·)) = pieces separator s ++ parts := by
  induction parts generalizing s with
  | nil => rw [List.flatMap_nil, List.append_nil, List.append_nil]
  | cons p parts ih =>
      have hone : pieces separator p = [p] := pieces_of_notMem (hp p List.mem_cons_self)
      rw [List.flatMap_cons, List.cons_append, pieces_append_cons,
        ih p fun q hq => hp q (List.mem_cons_of_mem _ hq), hone, List.singleton_append]

theorem separator_notMem_of_mem_pieces {s p : List Char} (h : p ∈ pieces separator s) :
    separator ∉ p := by
  induction s generalizing p with
  | nil =>
      rw [pieces_nil, List.mem_singleton] at h
      simp [h]
  | cons c s ih =>
      by_cases hc : c = separator
      · subst hc
        rw [pieces_cons_separator, List.mem_cons] at h
        rcases h with rfl | h
        · exact List.not_mem_nil
        · exact ih h
      · obtain ⟨q, qs, hq⟩ := List.exists_cons_of_ne_nil (pieces_ne_nil separator s)
        have hs : s.foldr _ [[]] = pieces separator s := rfl
        rw [pieces, List.foldr_cons, if_neg hc, hs, hq, List.mem_cons] at h
        rw [hq] at ih
        rcases h with rfl | h
        · rw [List.mem_cons, not_or]
          exact ⟨Ne.symm hc, ih List.mem_cons_self⟩
        · exact ih (List.mem_cons_of_mem q h)

/-- The first separator cuts. -/
theorem cut?_append {s : List Char} (h : separator ∉ s) (t : List Char) :
    cut? separator (s ++ separator :: t) = some (s, t) := by
  have hall : ∀ c ∈ s, decide (c ≠ separator) = true := by
    intro c hc
    rw [decide_eq_true_eq]
    rintro rfl
    exact h hc
  have hdrop : (s ++ separator :: t).dropWhile (· ≠ separator) = separator :: t := by
    rw [List.dropWhile_append_of_pos hall, List.dropWhile_cons_of_neg (by simp)]
  have htake : (s ++ separator :: t).takeWhile (· ≠ separator) = s := by
    rw [List.takeWhile_append_of_pos hall, List.takeWhile_cons_of_neg (by simp), List.append_nil]
  rw [cut?, hdrop, htake]

theorem mem_of_cut? {s a b : List Char} (h : cut? separator s = some (a, b)) :
    ∀ c ∈ b, c ∈ s := by
  intro c hc
  rw [cut?] at h
  split at h
  · cases h
  · next d rest hd =>
      cases h
      exact (List.dropWhile_suffix _).subset (hd ▸ List.mem_cons_of_mem d hc)

end Session.Text
