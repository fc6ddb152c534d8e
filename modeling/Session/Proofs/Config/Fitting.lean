import Session.Config.Overlay
import Session.Proofs.Toml.Proper

set_option autoImplicit false

/-! # Putting the values of a document into their places

A document is read by its fields: a field is a name below the name of a section
(`Entries.field?`). One value after the other is put into its place. What all of them come to in a
single place is told by the entry of its name alone (`get_putEntries`), for the places of a section
and for the sections of a configuration alike, and all of them fit exactly if each does that has a
place (`exists_ok_putEntries_iff`). Which single values fit is a matter of their kind (`Kind`).
-/

namespace Session

namespace Toml

/-! ## Fields -/

def Node.scalar? : Node → Option Scalar
  | .scalar _ v => some v
  | _ => none

def Node.isTable : Node → Bool
  | .table _ _ _ => true
  | _ => false

theorem Node.exists_eq_table {n : Node} (h : n.isTable = true) :
    ∃ span origin es, n = .table span origin es := by
  cases n with
  | table span origin es => exact ⟨span, origin, es, rfl⟩
  | scalar | array | rows => cases h

def Node.find? (name : String) : Node → Option Node
  | .table _ _ es => Entries.find? es name
  | _ => none

/-- The value of a field: a name, below the name of a section. -/
def Entries.field? (es : Entries) (heading name : String) : Option Node :=
  (es.find? heading).bind (Node.find? name)

def Scalar.text? : Scalar → Option String
  | .string s => some s
  | _ => none

/-- The number that a scalar is, if it is not below zero. -/
def Scalar.number? : Scalar → Option Nat
  | .integer n => if n < 0 then none else some n.toNat
  | _ => none

def Scalar.flag? : Scalar → Option Bool
  | .boolean b => some b
  | _ => none

end Toml

namespace Config

open Toml (Node Entries Scalar)

/-! ## Putting values into places -/

theorem ok_of_bind {α β : Type} {x : Fitted α} {f : α → Fitted β} {b : β}
    (h : x >>= f = .ok b) : ∃ a, x = .ok a ∧ f a = .ok b := by
  cases x with
  | error m => cases h
  | ok a => exact ⟨a, rfl, h⟩

theorem exists_ok_bind_pure_iff {α β : Type} {x : Fitted α} {g : α → β} :
    (∃ b, (x >>= fun a => pure (g a)) = .ok b) ↔ ∃ a, x = .ok a := by
  constructor
  · rintro ⟨b, h⟩
    obtain ⟨a, ha, -⟩ := ok_of_bind h
    exact ⟨a, ha⟩
  · rintro ⟨a, rfl⟩
    exact ⟨g a, rfl⟩

section Settings

variable {σ α : Type} {settings : List (Setting σ)} {name : String} {get : σ → α}
  {R : Node → α → α → Prop} {es : Entries} {s s' : σ}

/-- If it succeeds, the setting changes the part of its name as the relation says, and leaves the
parts of other names alone. -/
def Setting.Touches (u : Setting σ) (name : String) (get : σ → α) (R : Node → α → α → Prop) :
    Prop :=
  ∀ n s s', u.put n s = .ok s' → if u.name = name then R n (get s) (get s') else get s' = get s

section Touches

variable {β : Type} {own : String} {fit : Node → σ → Fitted β} {set : σ → β → σ}

theorem touches_self {val : β → α} (hget : ∀ s b, get (set s b) = val b)
    (hfit : ∀ n s b, fit n s = .ok b → R n (get s) (val b)) :
    Setting.Touches ⟨name, fun n s => fit n s >>= fun b => pure (set s b)⟩ name get R := by
  intro n s s' h
  obtain ⟨b, hb, hs⟩ := ok_of_bind h
  cases hs
  rw [if_pos rfl, hget]
  exact hfit n s b hb

theorem touches_of_ne (hne : own ≠ name) (hget : ∀ s b, get (set s b) = get s) :
    Setting.Touches ⟨own, fun n s => fit n s >>= fun b => pure (set s b)⟩ name get R := by
  intro n s s' h
  obtain ⟨b, -, hs⟩ := ok_of_bind h
  cases hs
  rw [if_neg hne]
  exact hget s b

end Touches

/-- One entry is put into the place of its name, or means nothing. -/
theorem putEntries_cons (e : String × Node) :
    putEntries settings (e :: es) s = (match settings.find? (·.name = e.1) with
      | some u => u.put e.2 s
      | none => .ok s) >>= putEntries settings es := by
  rw [putEntries, List.foldlM_cons]
  rfl

theorem mem_and_name_eq_of_find? {u : Setting σ} (hu : settings.find? (·.name = name) = some u) :
    u ∈ settings ∧ u.name = name :=
  ⟨List.mem_of_find?_eq_some hu, by simpa using List.find?_some hu⟩

/-- **What all entries come to in one place.** It is told by the entry of its name alone. -/
theorem get_putEntries (ht : ∀ u ∈ settings, u.Touches name get R)
    (hname : name ∈ settings.map Setting.name) (hn : (es.map Prod.fst).Nodup)
    (h : putEntries settings es s = .ok s') :
    match es.find? name with
    | none => get s' = get s
    | some n => R n (get s) (get s') := by
  induction es generalizing s with
  | nil =>
      cases h
      rfl
  | cons e es ih =>
      rw [putEntries_cons] at h
      obtain ⟨t, hput, h⟩ := ok_of_bind h
      rw [List.map_cons, List.nodup_cons] at hn
      have hrest := ih hn.2 h
      by_cases he : name = e.1
      · -- no other entry has the name
        have hnone : Entries.find? es name = none := Entries.find?_eq_none_iff.2 (he ▸ hn.1)
        have hfind : Entries.find? (e :: es) name = some e.2 := by
          rw [he]
          exact Entries.find?_cons_self _ _ _
        rw [hnone] at hrest
        rw [hfind]
        -- the first place of the name takes the value, and there is one
        split at hput
        · next u hu =>
            obtain ⟨hmem, huname⟩ := mem_and_name_eq_of_find? hu
            have htouch := ht u hmem e.2 s t hput
            rw [if_pos (huname.trans he.symm)] at htouch
            exact hrest ▸ htouch
        · next hu =>
            obtain ⟨u, hmem, huname⟩ := List.mem_map.1 hname
            have hne := List.find?_eq_none.1 hu u hmem
            exact absurd (huname.trans he) (by simpa using hne)
      · -- an entry of another name leaves the part alone
        have hsame : get t = get s := by
          split at hput
          · next u hu =>
              obtain ⟨hmem, huname⟩ := mem_and_name_eq_of_find? hu
              have htouch := ht u hmem e.2 s t hput
              rwa [if_neg fun hx => he (hx.symm.trans huname)] at htouch
          · cases hput
            rfl
        rw [Entries.find?_cons_of_ne he]
        rwa [hsame] at hrest

/-- **When all entries fit**: each of those that have a place does. -/
theorem exists_ok_putEntries_iff {P : Setting σ → Node → Prop}
    (hP : ∀ e ∈ es, ∀ u ∈ settings, u.name = e.1 → ∀ s, (∃ s', u.put e.2 s = .ok s') ↔ P u e.2)
    (hn : (settings.map Setting.name).Nodup) (s : σ) :
    (∃ s', putEntries settings es s = .ok s')
      ↔ ∀ e ∈ es, ∀ u ∈ settings, u.name = e.1 → P u e.2 := by
  induction es generalizing s with
  | nil => exact ⟨fun _ _ he => (nomatch he), fun _ => ⟨s, rfl⟩⟩
  | cons e es ih =>
      have ih := ih fun f hf => hP f (List.mem_cons_of_mem e hf)
      have hP := hP e List.mem_cons_self
      rw [putEntries_cons, List.forall_mem_cons]
      split
      · next u hu =>
          obtain ⟨hmem, huname⟩ := mem_and_name_eq_of_find? hu
          constructor
          · rintro ⟨s', h⟩
            obtain ⟨t, hput, h⟩ := ok_of_bind h
            refine ⟨fun w hw hwname => ?_, (ih t).1 ⟨s', h⟩⟩
            -- the setting of a name is the only one
            obtain rfl : w = u := List.inj_on_of_nodup_map hn hw hmem (hwname.trans huname.symm)
            exact (hP w hw hwname s).1 ⟨t, hput⟩
          · rintro ⟨hfirst, hrest⟩
            obtain ⟨t, hput⟩ := (hP u hmem huname s).2 (hfirst u hmem huname)
            obtain ⟨s', h⟩ := (ih t).2 hrest
            exact ⟨s', by rw [hput]; exact h⟩
      · next hu =>
          have hnone : ∀ w ∈ settings, w.name ≠ e.1 := by simpa using List.find?_eq_none.1 hu
          constructor
          · exact fun h => ⟨fun w hw hwname => absurd hwname (hnone w hw), (ih s).1 h⟩
          · exact fun h => (ih s).2 h.2

end Settings

/-! ## Single values -/

section Values

variable {n : Node}

inductive Kind
  | text
  /-- An unsigned number of 64 bits. -/
  | number
  | flag
deriving DecidableEq, Repr

namespace Kind

/-- A field of the kind takes the scalar. -/
def admits : Kind → Scalar → Bool
  | text, .string _ => true
  | number, .integer n => 0 ≤ n && n ≤ Text.maxUnsigned
  | flag, .boolean _ => true
  | _, _ => false

/-- A field of the kind takes the node. -/
def Takes (k : Kind) (n : Node) : Prop := ∃ v ∈ n.scalar?, k.admits v = true

instance (k : Kind) (n : Node) : Decidable (k.Takes n) :=
  inferInstanceAs (Decidable (∃ v ∈ n.scalar?, k.admits v = true))

end Kind

theorem exists_ok_fitText_iff : (∃ s, fitText n = .ok s) ↔ Kind.text.Takes n := by
  cases n with
  | scalar span v => cases v <;> simp [fitText, misfit, Kind.Takes, Node.scalar?, Kind.admits]
  | array | rows | table => simp [fitText, misfit, Kind.Takes, Node.scalar?]

theorem exists_ok_fitFlag_iff : (∃ b, fitFlag n = .ok b) ↔ Kind.flag.Takes n := by
  cases n with
  | scalar span v => cases v <;> simp [fitFlag, misfit, Kind.Takes, Node.scalar?, Kind.admits]
  | array | rows | table => simp [fitFlag, misfit, Kind.Takes, Node.scalar?]

/-- A document has no integers that are too large. -/
theorem exists_ok_fitNumber_iff {expected : Expectation} (hp : n.IsProper) :
    (∃ k, fitNumber expected n = .ok k) ↔ Kind.number.Takes n := by
  cases n with
  | scalar span v =>
      cases v with
      | integer k =>
          have hk : k ≤ Text.maxUnsigned := by
            cases hp with
            | scalar hs =>
                have hle := (hs k rfl).2
                have hmax : Toml.maxInteger ≤ Text.maxUnsigned := by decide
                omega
          have htakes : Kind.number.Takes (.scalar span (.integer k)) ↔ ¬ k < 0 := by
            simp [Kind.Takes, Node.scalar?, Kind.admits, hk]
          rw [fitNumber, htakes]
          split
          · next hneg => exact ⟨fun ⟨_, hm⟩ => (nomatch hm), fun hpos => absurd hneg hpos⟩
          · next hpos => exact ⟨fun _ => hpos, fun _ => ⟨_, rfl⟩⟩
      | string | float | boolean | moment =>
          simp [fitNumber, misfit, Kind.Takes, Node.scalar?, Kind.admits]
  | array | rows | table => simp [fitNumber, misfit, Kind.Takes, Node.scalar?]

/-- The value is read off the node. -/
def Reads {α : Type} (read : Scalar → Option α) (n : Node) (a : α) : Prop :=
  n.scalar?.bind read = some a

theorem reads_of_fitText {s : String} (h : fitText n = .ok s) : Reads Scalar.text? n s := by
  unfold fitText at h
  split at h
  · cases h
    rfl
  · cases h

theorem reads_of_fitFlag {b : Bool} (h : fitFlag n = .ok b) : Reads Scalar.flag? n b := by
  unfold fitFlag at h
  split at h
  · cases h
    rfl
  · cases h

theorem reads_of_fitNumber {expected : Expectation} {k : Nat} (h : fitNumber expected n = .ok k) :
    Reads Scalar.number? n k := by
  unfold fitNumber at h
  split at h
  · next span m =>
      split at h
      · cases h
      · next hpos =>
          cases h
          exact if_neg hpos
  · cases h

end Values

end Config

end Session
