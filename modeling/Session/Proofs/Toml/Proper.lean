import Session.Proofs.Text.Scanning
import Session.Toml.Document

set_option autoImplicit false

/-! # What every document is

A document that was read is proper (`isProper_of_parse?`): in each of its tables every name stands
once, and its integers have 64 bits with a sign.

A table is changed at the end of a way through other tables. Every change keeps it proper as long
as the change at the end does (`Entries.IsProper.within`).
-/

namespace Session.Toml

open Text (Scan)
open Text.Scan

/-! ## Proper nodes -/

/-- The scalar is no integer, or one of 64 bits with a sign. -/
def Scalar.IsProper (s : Scalar) : Prop := ∀ n, s = .integer n → minInteger ≤ n ∧ n ≤ maxInteger

/-- In all tables of the node every name stands once, and its integers have 64 bits. -/
inductive Node.IsProper : Node → Prop
  | scalar {span : Span} {s : Scalar} (hs : s.IsProper) : IsProper (.scalar span s)
  | array {span : Span} {items : List Node} (hi : ∀ n ∈ items, IsProper n) :
      IsProper (.array span items)
  | rows {span : Span} {items : List Node} (hi : ∀ n ∈ items, IsProper n) :
      IsProper (.rows span items)
  | table {span : Span} {origin : Origin} {es : List (String × Node)}
      (hn : (es.map Prod.fst).Nodup) (he : ∀ e ∈ es, IsProper e.2) :
      IsProper (.table span origin es)

/-- Every name stands once, and all values are proper. -/
structure Entries.IsProper (es : Entries) : Prop where
  nodup : (es.map Prod.fst).Nodup
  proper : ∀ e ∈ es, e.2.IsProper

variable {es : Entries} {name : String} {node : Node} {span : Span} {origin : Origin}
  {items : List Node}

theorem Entries.isProper_nil : Entries.IsProper [] := ⟨List.nodup_nil, fun _ he => nomatch he⟩

theorem Node.isProper_table_iff : (Node.table span origin es).IsProper ↔ es.IsProper := by
  constructor
  · intro h
    cases h with
    | table hn he => exact ⟨hn, he⟩
  · exact fun h => .table h.nodup h.proper

theorem Node.isProper_rows_iff : (Node.rows span items).IsProper ↔ ∀ n ∈ items, n.IsProper := by
  constructor
  · intro h
    cases h with
    | rows hi => exact hi
  · exact .rows

/-! ## Tables -/

namespace Entries

theorem find?_eq_none_iff : es.find? name = none ↔ name ∉ es.map Prod.fst := by
  rw [find?, List.lookup_eq_none_iff, List.mem_map]
  constructor
  · rintro h ⟨e, he, rfl⟩
    exact absurd rfl (bne_iff_ne.1 (h e he))
  · exact fun h e he => bne_iff_ne.2 fun hn => h ⟨e, he, hn.symm⟩

theorem mem_of_find? (h : es.find? name = some node) : (name, node) ∈ es := by
  obtain ⟨front, back, rfl, -⟩ := List.lookup_eq_some_iff.1 h
  exact List.mem_append_right front List.mem_cons_self

theorem find?_cons_self (name : String) (node : Node) (es : Entries) :
    find? ((name, node) :: es) name = some node := List.lookup_cons_self

theorem find?_cons_of_ne {e : String × Node} (h : name ≠ e.1) :
    find? (e :: es) name = es.find? name := by
  rw [find?, List.lookup_cons, beq_eq_false_iff_ne.2 h]
  rfl

theorem find?_of_mem (hn : (es.map Prod.fst).Nodup) (h : (name, node) ∈ es) :
    es.find? name = some node := by
  induction es with
  | nil => cases h
  | cons e es ih =>
      rw [List.map_cons, List.nodup_cons] at hn
      rcases List.mem_cons.1 h with rfl | h
      · exact find?_cons_self name node es
      · have hne : name ≠ e.1 := by
          rintro rfl
          exact hn.1 (List.mem_map.2 ⟨_, h, rfl⟩)
        rw [find?_cons_of_ne hne]
        exact ih hn.2 h

theorem IsProper.of_find? (hp : es.IsProper) (h : es.find? name = some node) : node.IsProper :=
  hp.proper _ (mem_of_find? h)

theorem IsProper.add? {fs : Entries} (hp : es.IsProper) (hn : node.IsProper)
    (h : es.add? name node = some fs) : fs.IsProper := by
  rw [Entries.add?] at h
  split at h
  · next hnone =>
      cases h
      have hnew : name ∉ es.map Prod.fst := find?_eq_none_iff.1 hnone
      constructor
      · rw [List.map_append, List.map_singleton]
        refine List.nodup_append.2 ⟨hp.nodup, List.nodup_singleton _, ?_⟩
        rintro a ha b hb rfl
        have hname : a = name := List.mem_singleton.1 hb
        exact hnew (hname ▸ ha)
      · intro e he
        rcases List.mem_append.1 he with he | he
        · exact hp.proper e he
        · rw [List.mem_singleton.1 he]
          exact hn
  · cases h

theorem IsProper.replace (hp : es.IsProper) (hn : node.IsProper) :
    (es.replace name node).IsProper := by
  have hnames : (es.replace name node).map Prod.fst = es.map Prod.fst := by
    rw [Entries.replace, List.map_map]
    refine List.map_congr_left fun e _ => ?_
    simp only [Function.comp_apply]
    split
    · next h => exact h.symm
    · rfl
  constructor
  · rw [hnames]
    exact hp.nodup
  · intro f hf
    obtain ⟨e, he, rfl⟩ := List.mem_map.1 hf
    split
    · exact hn
    · exact hp.proper e he

theorem IsProper.erase (hp : es.IsProper) : (es.erase name).IsProper where
  nodup := (List.filter_sublist.map Prod.fst).nodup hp.nodup
  proper e he := hp.proper e (List.mem_of_mem_filter he)

theorem isProper_rowsOf (h : ∀ n ∈ items, n.IsProper) : (rowsOf items).IsProper := .rows h

theorem isProper_dropLast_append (hi : ∀ n ∈ items, n.IsProper) (hn : node.IsProper) :
    ∀ n ∈ items.dropLast ++ [node], n.IsProper := by
  intro n hmem
  rcases List.mem_append.1 hmem with hmem | hmem
  · exact hi n (List.dropLast_subset items hmem)
  · rw [List.mem_singleton.1 hmem]
    exact hn

/-- **Changing a table at the end of a way.** -/
theorem IsProper.within {route : Route} {f : Origin → Entries → Option Entries}
    (hf : ∀ origin es fs, es.IsProper → f origin es = some fs → fs.IsProper) {way : List Part}
    {fs : Entries} (hp : es.IsProper) (h : es.within route f way origin = some fs) :
    fs.IsProper := by
  induction way generalizing origin es fs with
  | nil => exact hf _ _ _ hp h
  | cons p way ih =>
      rw [Entries.within] at h
      split at h
      · -- the table is missing
        obtain ⟨inner, hinner, hadd⟩ := Option.bind_eq_some_iff.1 h
        exact hp.add? (Node.isProper_table_iff.2 (ih isProper_nil hinner)) hadd
      · -- the table is there, and the way leads through it
        next span origin inner hfind =>
          have hin : Entries.IsProper inner := Node.isProper_table_iff.1 (hp.of_find? hfind)
          split at h
          · obtain ⟨changed, hchanged, hfs⟩ := Option.bind_eq_some_iff.1 h
            cases hfs
            exact hp.replace (Node.isProper_table_iff.2 (ih hin hchanged))
          · cases h
      · -- of several tables it leads through the last one
        next span items hfind =>
          have hitems := Node.isProper_rows_iff.1 (hp.of_find? hfind)
          split at h
          · next span origin inner hlast =>
              have hin : Entries.IsProper inner :=
                Node.isProper_table_iff.1 (hitems _ (List.mem_of_getLast? hlast))
              obtain ⟨changed, hchanged, hfs⟩ := Option.bind_eq_some_iff.1 h
              cases hfs
              exact hp.replace (isProper_rowsOf
                (isProper_dropLast_append hitems (Node.isProper_table_iff.2 (ih hin hchanged))))
          · cases h
      · cases h

theorem IsProper.insert? {k : Key} {fs : Entries} (hp : es.IsProper) (hn : node.IsProper)
    (h : es.insert? k node = some fs) : fs.IsProper := by
  refine hp.within (fun origin inner gs hi hg => ?_) h
  split at hg
  · cases hg
  · exact hi.add? hn hg

theorem IsProper.foldlM {α : Type} {f : Entries → α → Option Entries} {as : List α} {fs : Entries}
    (hp : es.IsProper) (hf : ∀ a ∈ as, ∀ gs hs : Entries, gs.IsProper → f gs a = some hs →
      hs.IsProper) (h : as.foldlM f es = some fs) : fs.IsProper := by
  induction as generalizing es with
  | nil =>
      cases h
      exact hp
  | cons a as ih =>
      rw [List.foldlM_cons] at h
      obtain ⟨gs, hg, h⟩ := Option.bind_eq_some_iff.1 h
      exact ih (hf a List.mem_cons_self es gs hp hg)
        (fun b hb => hf b (List.mem_cons_of_mem a hb)) h

theorem IsProper.insertAll? {pairs : List (Key × Node)} {fs : Entries} (hp : es.IsProper)
    (hn : ∀ p ∈ pairs, p.2.IsProper) (h : es.insertAll? pairs = some fs) : fs.IsProper :=
  hp.foldlM (fun p hmem _ _ hgs hi => hgs.insert? (hn p hmem) hi) h

/-- Whether the header opens a table or one of several, it finds or makes a place for it. -/
theorem IsProper.addTable? {h : Header} {pairs : List (Key × Node)} {fs : Entries}
    (hp : es.IsProper) (hn : ∀ p ∈ pairs, p.2.IsProper) (ha : es.addTable? h pairs = some fs) :
    fs.IsProper := by
  refine hp.within (fun origin inner gs hi hg => ?_) ha
  dsimp only at hg
  split at hg
  · -- one of several, which come in rows
    obtain ⟨row, hrow, hg⟩ := Option.bind_eq_some_iff.1 hg
    have hnew : (Node.table (h.extent pairs) .header row).IsProper :=
      Node.isProper_table_iff.2 (isProper_nil.insertAll? hn hrow)
    split at hg
    · refine hi.add? (isProper_rowsOf fun n hmem => ?_) hg
      rw [List.mem_singleton.1 hmem]
      exact hnew
    · next span items hfind =>
        cases hg
        refine hi.replace (isProper_rowsOf fun n hmem => ?_)
        rcases List.mem_append.1 hmem with hmem | hmem
        · exact Node.isProper_rows_iff.1 (hi.of_find? hfind) n hmem
        · rw [List.mem_singleton.1 hmem]
          exact hnew
    · cases hg
  · split at hg
    · obtain ⟨table, htable, hg⟩ := Option.bind_eq_some_iff.1 hg
      exact hi.add? (Node.isProper_table_iff.2 (isProper_nil.insertAll? hn htable)) hg
    · -- the table was opened on the way to another one
      next span known hfind =>
        have hknown : Entries.IsProper known := Node.isProper_table_iff.1 (hi.of_find? hfind)
        obtain ⟨table, htable, hg⟩ := Option.bind_eq_some_iff.1 hg
        exact hi.erase.add? (Node.isProper_table_iff.2 (hknown.insertAll? hn htable)) hg
    · cases hg

end Entries

/-! ## Values -/

theorem gives_spanned {α : Type} {p : Scan α} {P : α → Prop} (hp : Gives p P) :
    Gives (spanned p) fun a => P a.1 :=
  gives_bind fun _ => hp.bind fun _ ha => gives_bind fun _ => gives_pure ha

theorem gives_integer : Gives integer fun n => minInteger ≤ n ∧ n ≤ maxInteger := by
  refine gives_bind fun n => gives_check.bind fun _ hn => gives_pure ?_
  simpa using hn

theorem gives_scalar : Gives scalar Scalar.IsProper := by
  have hstring : Gives scalar.string Scalar.IsProper :=
    gives_bind fun _ => gives_pure fun _ h => nomatch h
  refine gives_bind fun next => ?_
  split
  · exact hstring
  · exact hstring
  · exact gives_bind fun _ => gives_pure fun _ h => nomatch h
  · exact gives_bind fun _ => gives_pure fun _ h => nomatch h
  · refine Gives.orElse ?_ (Gives.orElse ?_ ?_)
    · exact gives_bind fun _ => gives_pure fun _ h => nomatch h
    · exact (gives_true float).map fun _ _ _ h => nomatch h
    · refine gives_integer.map fun n hn m h => ?_
      cases h
      exact hn

theorem gives_separated {α : Type} {gap : Scan Unit} {p : Scan α} {P : α → Prop}
    (hp : Gives p P) : Gives (separated gap p) fun found => ∀ a ∈ found.1, P a := by
  have hitem : Gives (do
      let a ← p
      gap
      let hasComma ← Scan.found (Scan.char ',')
      gap
      return (a, hasComma)) fun item => P item.1 :=
    hp.bind fun _ ha => gives_bind fun _ => gives_bind fun _ => gives_bind fun _ => gives_pure ha
  refine gives_bind fun _ => hitem.many.bind fun items hi => gives_bind fun _ => gives_pure ?_
  intro a ha
  obtain ⟨item, hmem, rfl⟩ := List.mem_map.1 ha
  exact hi item hmem

theorem gives_pair {value : Scan Node} (hv : Gives value Node.IsProper) :
    Gives (pair value) fun p => p.2.IsProper :=
  gives_bind fun _ => gives_bind fun _ => gives_bind fun _ => gives_bind fun _ =>
    hv.bind fun _ hn => gives_pure hn

/-- **Every value is proper**, at any depth. -/
theorem gives_value (depth : Nat) : Gives (value depth) Node.IsProper := by
  have hscalar : Gives (spanned scalar >>= fun found => pure (Node.scalar found.2 found.1))
      Node.IsProper :=
    (gives_spanned gives_scalar).bind fun _ hs => gives_pure (.scalar hs)
  induction depth with
  | zero => exact hscalar
  | succ depth ih =>
      refine gives_bind fun next => ?_
      split
      · have harray : Gives (array (value depth)) fun items => ∀ n ∈ items, n.IsProper :=
          gives_bind fun _ => (gives_separated ih).bind fun _ hi => gives_bind fun _ =>
            gives_pure hi
        exact (gives_spanned harray).bind fun _ hi => gives_pure (.array hi)
      · have hinline : Gives (inlineTable (value depth)) Entries.IsProper :=
          gives_bind fun _ => (gives_separated (gives_pair ih)).bind fun _ hi => gives_bind fun _ =>
            gives_bind fun _ => (gives_lift _).mono fun _ hes =>
              Entries.isProper_nil.insertAll? hi hes
        exact (gives_spanned hinline).bind fun _ hes => gives_pure (Node.isProper_table_iff.2 hes)
      · exact hscalar

/-! ## Documents -/

def Line.IsProper : Line → Prop
  | .pair _ node => node.IsProper
  | .header _ => True
  | .empty => True

theorem gives_line : Gives line Line.IsProper := by
  refine gives_bind fun _ => gives_bind fun _ => gives_bind fun _ => gives_bind fun next => ?_
  have hend : ∀ l : Line, l.IsProper → Gives (do lineEnd; return l) Line.IsProper := fun l hl =>
    gives_bind fun _ => gives_pure hl
  split
  · exact ((gives_true header).map fun _ _ => trivial).bind hend
  · split
    · exact (gives_pure trivial).bind hend
    · refine (gives_pair (gives_value (maxDepth - 1))).bind fun p hp => ?_
      exact Gives.bind (P := Line.IsProper) (gives_pure hp) hend
  · exact (gives_pure trivial).bind hend

theorem isProper_sections {lines : List Line} (h : ∀ l ∈ lines, l.IsProper) :
    (∀ p ∈ (sections lines).1, p.2.IsProper) ∧
      ∀ s ∈ (sections lines).2, ∀ p ∈ s.2, p.2.IsProper := by
  induction lines with
  | nil => exact ⟨fun _ hp => (nomatch hp), fun _ hs => (nomatch hs)⟩
  | cons l lines ih =>
      obtain ⟨hpairs, hheaded⟩ := ih fun m hm => h m (List.mem_cons_of_mem l hm)
      cases l with
      | empty => exact ⟨hpairs, hheaded⟩
      | pair k v =>
          refine ⟨fun p hp => ?_, hheaded⟩
          rcases List.mem_cons.1 hp with rfl | hp
          · exact h _ List.mem_cons_self
          · exact hpairs p hp
      | header hd =>
          -- the pairs below it are its own
          refine ⟨fun p hp => (nomatch hp), fun s hs => ?_⟩
          rcases List.mem_cons.1 hs with rfl | hs
          · exact hpairs
          · exact hheaded s hs

/-- **Every document that is read is proper.** -/
theorem isProper_of_parse? {text : List Char} {es : Entries} (h : parse? text = some es) :
    es.IsProper := by
  obtain ⟨lines, hlines, h⟩ := Option.bind_eq_some_iff.1 h
  obtain ⟨hpairs, hheaded⟩ := isProper_sections (gives_line.many.whole? hlines)
  obtain ⟨root, hroot, h⟩ := Option.bind_eq_some_iff.1 h
  exact (Entries.isProper_nil.insertAll? hpairs hroot).foldlM
    (fun s hs _ _ hgs ha => hgs.addTable? (hheaded s hs) ha) h

end Session.Toml
