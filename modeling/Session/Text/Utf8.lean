set_option autoImplicit false

/-! # UTF-8

Text is a list of characters and its encoding a list of bytes. The file defines

* `encode`, the encoding of a text, one character after the other;
* `decode`, which reads any bytes as text. It is a machine fed one byte at a time: it stands
  either between characters or inside one (`Partial`), and where the bytes read so far can
  no longer be continued to a character it writes one U+FFFD for them and starts anew at the
  offending byte. So every maximal invalid part of the input gives exactly one U+FFFD;
* `decode?`, which refuses what is no encoding.

The range of the second byte depends on the first (`Partial.ofLead?`): this is what rules out
overlong forms, surrogates and values above 10FFFF.
-/

namespace Session

abbrev Bytes := List UInt8

namespace Text.Utf8

/-! ## Encoding -/

def encode (s : List Char) : Bytes := s.flatMap String.utf8EncodeChar

@[simp] theorem encode_nil : encode [] = [] := rfl

theorem encode_cons (c : Char) (s : List Char) :
    encode (c :: s) = String.utf8EncodeChar c ++ encode s := rfl

@[simp] theorem encode_append (s t : List Char) : encode (s ++ t) = encode s ++ encode t := by
  simp [encode]

/-- A character of ASCII is encoded as one byte. -/
theorem utf8EncodeChar_of_lt {c : Char} (h : c.val.toNat < 0x80) :
    String.utf8EncodeChar c = [UInt8.ofNat c.val.toNat] := by
  simp only [String.utf8EncodeChar]
  rw [if_pos (by omega)]

/-! ## Decoding -/

/-- The character that stands for bytes that are no part of an encoding. -/
def replacement : Char := Char.ofNat 0xFFFD

/-- A character whose first bytes have been read. -/
structure Partial where
  value : Nat
  /-- How many bytes come after the next one. -/
  later : Nat
  low : Nat
  high : Nat
deriving DecidableEq, Repr

/-- What the first byte of a longer character announces; `none` for a byte that starts none. -/
def Partial.ofLead? (n : Nat) : Option Partial :=
  if n < 0xC2 then none
  else if n < 0xE0 then some ⟨n - 0xC0, 0, 0x80, 0xBF⟩
  else if n = 0xE0 then some ⟨0, 1, 0xA0, 0xBF⟩
  else if n = 0xED then some ⟨0xD, 1, 0x80, 0x9F⟩
  else if n < 0xF0 then some ⟨n - 0xE0, 1, 0x80, 0xBF⟩
  else if n = 0xF0 then some ⟨0, 2, 0x90, 0xBF⟩
  else if n < 0xF4 then some ⟨n - 0xF0, 2, 0x80, 0xBF⟩
  else if n = 0xF4 then some ⟨4, 2, 0x80, 0x8F⟩
  else none

/-- The text read so far, last character first, and the character that is being read. -/
structure Decoder where
  written : List Char
  pending : Option Partial
deriving DecidableEq, Repr

namespace Decoder

def init : Decoder := ⟨[], none⟩

/-- A byte read between characters. -/
def start (written : List Char) (n : Nat) : Decoder :=
  if n < 0x80 then ⟨Char.ofNat n :: written, none⟩
  else match Partial.ofLead? n with
    | some p => ⟨written, some p⟩
    | none => ⟨replacement :: written, none⟩

/-- One byte. Inside a character it is either the expected continuation, or the bytes before it
are replaced and it starts anew. -/
def feed (d : Decoder) (b : UInt8) : Decoder :=
  match d.pending with
  | none => start d.written b.toNat
  | some p =>
    if p.low ≤ b.toNat ∧ b.toNat ≤ p.high then
      let value := p.value * 64 + (b.toNat - 0x80)
      match p.later with
      | 0 => ⟨Char.ofNat value :: d.written, none⟩
      | k + 1 => ⟨d.written, some ⟨value, k, 0x80, 0xBF⟩⟩
    else start (replacement :: d.written) b.toNat

/-- The text at the end of the input: a character that was cut short is replaced. -/
def finish (d : Decoder) : List Char :=
  match d.pending with
  | none => d.written.reverse
  | some _ => (replacement :: d.written).reverse

end Decoder

/-- The text that the bytes spell, with one U+FFFD for each maximal invalid part. -/
def decode (bs : Bytes) : List Char := (bs.foldl Decoder.feed Decoder.init).finish

@[simp] theorem decode_nil : decode [] = [] := rfl

/-- The text whose encoding the bytes are, if they are one. -/
def decode? (bs : Bytes) : Option (List Char) :=
  let s := decode bs
  if encode s = bs then some s else none

theorem encode_of_decode? {bs : Bytes} {s : List Char} (h : decode? bs = some s) :
    encode s = bs := by
  simp only [decode?] at h
  split at h
  · next he => cases h; exact he
  · cases h

end Text.Utf8

def utf8 (s : String) : Bytes := Text.Utf8.encode s.toList

/-- The string that the bytes spell, invalid parts replaced. -/
def textOf (bs : Bytes) : String := String.ofList (Text.Utf8.decode bs)

def textOf? (bs : Bytes) : Option String := (Text.Utf8.decode? bs).map String.ofList

end Session
