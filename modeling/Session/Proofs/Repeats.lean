import Mathlib.Data.List.Induction
import Mathlib.Data.List.Nodup

set_option autoImplicit false

/-! # Lists without repetitions

`List.eraseDups` keeps the first occurrence of each element and drops the later ones. The
library unfolds it from the front; what is recorded or stacked grows at its end, so the laws
here are about one more element, and about one more list, behind those that are there, and about
a partial function that never gives one value twice (`filterMap_eraseDups`).
-/

namespace Session

variable {α : Type} [DecidableEq α]

/-- One more element stays if it is new. -/
theorem eraseDups_append_singleton (l : List α) (a : α) :
    (l ++ [a]).eraseDups = if a ∈ l then l.eraseDups else l.eraseDups ++ [a] := by
  rw [List.eraseDups_append]
  by_cases ha : a ∈ l
  · have hdrop : [a].removeAll l = [] := by simp [List.removeAll, ha]
    rw [if_pos ha, hdrop, List.eraseDups_nil, List.append_nil]
  · have hkeep : [a].removeAll l = [a] := by simp [List.removeAll, ha]
    rw [if_neg ha, hkeep]
    simp [List.eraseDups_cons]

theorem nodup_eraseDups (l : List α) : l.eraseDups.Nodup := by
  induction l using List.reverseRecOn with
  | nil => simp
  | append_singleton l a ih =>
      rw [eraseDups_append_singleton]
      by_cases ha : a ∈ l
      · rwa [if_pos ha]
      · rw [if_neg ha, List.nodup_append]
        refine ⟨ih, List.nodup_singleton a, fun b hb c hc hbc => ?_⟩
        -- what stood before is in `l`, and the new element is not
        rw [List.mem_singleton.1 hc] at hbc
        exact ha (hbc ▸ List.mem_eraseDups.1 hb)

theorem eraseDups_of_nodup {l : List α} (h : l.Nodup) : l.eraseDups = l := by
  induction l using List.reverseRecOn with
  | nil => exact List.eraseDups_nil
  | append_singleton l a ih =>
      have ha : a ∉ l := fun ha =>
        List.disjoint_of_nodup_append h ha (List.mem_singleton_self a)
      rw [eraseDups_append_singleton, if_neg ha, ih h.of_append_left]

/-- Of one more list without repetitions those elements stay that are new. -/
theorem eraseDups_append_of_nodup (l : List α) {m : List α} (h : m.Nodup) :
    (l ++ m).eraseDups = l.eraseDups ++ m.filter fun a => a ∉ l.eraseDups := by
  have hnew : m.removeAll l = m.filter fun a => a ∉ l.eraseDups := by
    refine List.filter_congr fun a _ => ?_
    simp [List.mem_eraseDups]
  rw [List.eraseDups_append, hnew, eraseDups_of_nodup (h.filter _)]

/-- Where different elements never give the same value, repetitions may be dropped among the
elements or among their values. -/
theorem filterMap_eraseDups {β : Type} [DecidableEq β] {f : α → Option β}
    (hf : ∀ a b v, f a = some v → f b = some v → a = b) (l : List α) :
    l.eraseDups.filterMap f = (l.filterMap f).eraseDups := by
  induction l using List.reverseRecOn with
  | nil => simp
  | append_singleton l a ih =>
      rw [eraseDups_append_singleton, List.filterMap_append]
      cases hv : f a with
      | none =>
          have hnone : [a].filterMap f = [] := List.filterMap_cons_none hv
          rw [hnone, List.append_nil, ← ih]
          by_cases ha : a ∈ l
          · rw [if_pos ha]
          · rw [if_neg ha, List.filterMap_append, hnone, List.append_nil]
      | some v =>
          have hone : [a].filterMap f = [v] := List.filterMap_cons_some hv
          -- the value is new if the element is, since it comes from no other one
          have hmem : v ∈ l.filterMap f ↔ a ∈ l := by
            rw [List.mem_filterMap]
            exact ⟨fun ⟨b, hb, hbv⟩ => hf b a v hbv hv ▸ hb, fun ha => ⟨a, ha, hv⟩⟩
          rw [hone, eraseDups_append_singleton, ← ih]
          by_cases ha : a ∈ l
          · rw [if_pos ha, if_pos (hmem.2 ha)]
          · rw [if_neg ha, if_neg fun h => ha (hmem.1 h), List.filterMap_append, hone]

end Session
