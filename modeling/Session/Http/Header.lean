import Session.Text.Utf8
import Session.Text.Blank

set_option autoImplicit false

/-! # Header fields

A header map is a list of fields in the order in which they were appended. Names are tokens in
lower case, and values are bytes without control characters other than the tab; both carry the
proof of it, so no operation can build a map that may not be written.
-/

namespace Session.Http

/-! ## Names -/

/-- The characters of a token: letters, digits and a few marks, all ASCII. -/
def isTokenChar (c : Char) : Bool :=
  c.isAlphanum || "!#$%&'*+-.^_\x60|~".toList.contains c

def isToken (s : List Char) : Bool := !s.isEmpty && s.all isTokenChar

def maxNameLength : Nat := 65535

/-- The name of a header field, in lower case. -/
structure Name where
  text : String
  isToken_text : isToken text.toList = true
deriving DecidableEq, Repr

/-- The name that a text spells, in any case. -/
def Name.ofText? (s : List Char) : Option Name :=
  let t := String.ofList (s.map Char.toLower)
  if h : isToken t.toList = true then
    if s.length ≤ maxNameLength then some ⟨t, h⟩ else none
  else none

namespace Name

def contentLength : Name := ⟨"content-length", by decide⟩
def contentType : Name := ⟨"content-type", by decide⟩
def setCookie : Name := ⟨"set-cookie", by decide⟩
def requestId : Name := ⟨"x-request-id", by decide⟩
def allow : Name := ⟨"allow", by decide⟩
def connection : Name := ⟨"connection", by decide⟩
def host : Name := ⟨"host", by decide⟩
def transferEncoding : Name := ⟨"transfer-encoding", by decide⟩

end Name

/-! ## Values -/

/-- The bytes that a value may hold: all but the control characters; the tab is none of them. -/
def isValueByte (b : UInt8) : Bool := (32 ≤ b && b != 127) || b == 9

structure Value where
  bytes : Bytes
  all_isValueByte : bytes.all isValueByte = true
deriving DecidableEq, Repr

namespace Value

def ofBytes? (bs : Bytes) : Option Value :=
  if h : bs.all isValueByte = true then some ⟨bs, h⟩ else none

def ofText? (s : String) : Option Value := ofBytes? (utf8 s)

theorem ofBytes?_eq_some_iff {bs : Bytes} {v : Value} : ofBytes? bs = some v ↔ v.bytes = bs := by
  constructor
  · intro h
    unfold ofBytes? at h
    split at h
    · cases h; rfl
    · cases h
  · rintro rfl
    simp [ofBytes?, v.all_isValueByte]

theorem ofBytes?_isSome {bs : Bytes} :
    (ofBytes? bs).isSome = bs.all isValueByte := by
  unfold ofBytes?
  split
  · next h => simp [h]
  · next h => simp [h]

/-- The value as text, if it holds visible ASCII characters, spaces and tabs only. -/
def ascii? (v : Value) : Option (List Char) :=
  if v.bytes.all fun b => (32 ≤ b && b < 127) || b == 9 then
    some (v.bytes.map fun b => Char.ofNat b.toNat)
  else none

end Value

/-! ## Maps -/

/-- Header fields in the order in which they were appended. -/
structure Headers where
  fields : List (Name × Value)
deriving DecidableEq, Repr

namespace Headers

def empty : Headers := ⟨[]⟩

def append (h : Headers) (n : Name) (v : Value) : Headers := ⟨h.fields ++ [(n, v)]⟩

def getAll (h : Headers) (n : Name) : List Value :=
  h.fields.filterMap fun f => if f.1 = n then some f.2 else none

def get? (h : Headers) (n : Name) : Option Value := (h.getAll n).head?

def contains (h : Headers) (n : Name) : Bool := (h.get? n).isSome

def remove (h : Headers) (n : Name) : Headers := ⟨h.fields.filter fun f => f.1 ≠ n⟩

def others (h : Headers) (n : Name) : List (Name × Value) := h.fields.filter fun f => f.1 ≠ n

/-- One more field, unless the name has one already. -/
def appendIfAbsent (h : Headers) (n : Name) (v : Value) : Headers :=
  if h.contains n then h else h.append n v

@[simp] theorem getAll_empty (n : Name) : empty.getAll n = [] := rfl

@[simp] theorem getAll_append_self (h : Headers) (n : Name) (v : Value) :
    (h.append n v).getAll n = h.getAll n ++ [v] := by
  simp [getAll, append]

theorem getAll_append_of_ne (h : Headers) {n m : Name} (v : Value) (hne : n ≠ m) :
    (h.append n v).getAll m = h.getAll m := by
  simp [getAll, append, hne]

@[simp] theorem getAll_remove_self (h : Headers) (n : Name) : (h.remove n).getAll n = [] := by
  simp [getAll, remove, List.filterMap_eq_nil_iff]

theorem getAll_remove_of_ne (h : Headers) {n m : Name} (hne : n ≠ m) :
    (h.remove n).getAll m = h.getAll m := by
  simp only [getAll, remove, List.filterMap_filter]
  congr 1
  funext f
  by_cases hf : f.1 = m
  · subst hf
    simp [Ne.symm hne]
  · simp [hf]

end Headers

end Session.Http
