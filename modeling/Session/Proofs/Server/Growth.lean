import Session.Proofs.Server.Echo
import Session.Proofs.Text.Lossy

set_option autoImplicit false

/-! # How much an echo grows

What is sent back is the text of a body, encoded again. A character takes the bytes that it took
before. A part that is not valid has one to three bytes, since a fourth one would complete a
character, and gives one U+FFFD, which takes three (`Text.Utf8.IsBroken.length_le`). So an echo is
never shorter than its body, and at most three times as long (`Grown`); a body of bytes that begin
no character is sent back at just that length.
-/

namespace Session

/-! ## Texts -/

namespace Text.Utf8

variable {bs part rest : Bytes} {s : List Char}

theorem length_encodeChar_pos (c : Char) : 0 < (String.utf8EncodeChar c).length := by
  rw [String.length_utf8EncodeChar]
  exact c.utf8Size_pos

theorem length_encodeChar_le (c : Char) : (String.utf8EncodeChar c).length ≤ 4 := by
  rw [String.length_utf8EncodeChar]
  exact c.utf8Size_le_four

theorem length_encode_replacement_cons (s : List Char) :
    (encode (replacement :: s)).length = 3 + (encode s).length := by
  have hthree : (String.utf8EncodeChar replacement).length = 3 := by decide
  rw [encode_cons, List.length_append, hthree]

theorem IsBroken.length_pos (h : IsBroken part rest) : 0 < part.length := by
  rcases h.begins with hone | ⟨hne, -⟩
  · omega
  · exact List.length_pos_iff.2 hne

/-- A part that is not valid has three bytes at most: with four it would be a character. -/
theorem IsBroken.length_le (h : IsBroken part rest) : part.length ≤ 3 := by
  rcases h.begins with hone | ⟨-, c, hc⟩
  · omega
  · by_contra hlt
    have hle := length_encodeChar_le c
    have hwhole : part = String.utf8EncodeChar c := hc.eq_of_length_le (by omega)
    exact h.unreadable c (hwhole ▸ List.prefix_append part rest)

/-- **What is spelled has at least as many bytes as it is read from**, and at most three times as
many. -/
theorem Spells.length_le (h : Spells bs s) :
    bs.length ≤ (encode s).length ∧ (encode s).length ≤ 3 * bs.length := by
  induction h with
  | nil => exact ⟨Nat.le_refl _, Nat.le_refl _⟩
  | char c _ ih =>
      have hpos := length_encodeChar_pos c
      rw [encode_cons, List.length_append, List.length_append]
      omega
  | broken hp _ ih =>
      have hpos := hp.length_pos
      have hle := hp.length_le
      rw [length_encode_replacement_cons, List.length_append]
      omega

/-- Bytes that begin no character are replaced one by one. -/
theorem decode_replicate (n : Nat) :
    decode (List.replicate n 0xFF) = List.replicate n replacement := by
  induction n with
  | zero => rfl
  | succ n ih =>
      have hone : decode [0xFF] = [replacement] := by decide
      have hhead : ∀ b, (List.replicate n (0xFF : UInt8)).head? = some b → ¬ IsContinuation b := by
        intro b hb
        rw [List.eq_of_mem_replicate (List.mem_of_mem_head? hb)]
        decide
      rw [List.replicate_succ, ← List.singleton_append, decode_append [0xFF] hhead, hone, ih]
      rfl

theorem length_encode_replicate (n : Nat) :
    (encode (List.replicate n replacement)).length = 3 * n := by
  induction n with
  | zero => rfl
  | succ n ih =>
      rw [List.replicate_succ, length_encode_replacement_cons, ih]
      omega

end Text.Utf8

/-- The bytes that are sent back for those that came. -/
structure Grown (raw sent : Bytes) : Prop where
  length_le : raw.length ≤ sent.length
  le_three_mul : sent.length ≤ 3 * raw.length
  eq_of_valid : ∀ t, utf8 t = raw → sent = raw

theorem grown_textOf (bs : Bytes) : Grown bs (utf8 (textOf bs)) := by
  have hspells : Text.Utf8.Spells bs (textOf bs).toList := by
    rw [Text.Utf8.spells_iff, textOf, String.toList_ofList]
  refine ⟨hspells.length_le.1, hspells.length_le.2, ?_⟩
  rintro t rfl
  rw [textOf_utf8]

theorem length_utf8_textOf_replicate (n : Nat) :
    (utf8 (textOf (List.replicate n 0xFF))).length = 3 * n := by
  rw [utf8, textOf, String.toList_ofList, Text.Utf8.decode_replicate,
    Text.Utf8.length_encode_replicate]

/-! ## Bodies -/

namespace Body

variable {limit : Limit} {headers : Http.Headers} {s : Stream} {text : String}

/-- What is accepted is within the limit, and its text is that of all its bytes. -/
theorem eq_textOf_content (h : (readRequestText limit headers s).value = .ok text) :
    limit.Admits s.content.length ∧ text = textOf s.content := by
  obtain ⟨bs, hbs, rfl⟩ := readRequestText_eq_ok_iff.1 h
  obtain ⟨-, hadmits, -, rfl⟩ := readRequest_eq_ok_iff.1 hbs
  exact ⟨hadmits, rfl⟩

end Body

namespace Server

variable {config : Config} {fresh : Http.Value} {r : Request}

/-- What an echo sends back is the text of the body, which is within the limit. -/
theorem body_echo (he : r.IsEcho) (hok : (answer config fresh r).value.status = .ok) :
    r.body.content.length ≤ config.limits.maxBodyBytes ∧
      (answer config fresh r).value.body = utf8 (textOf r.body.content) := by
  rw [status_answer] at hok
  rw [body_answer_of_isEcho he]
  rcases layered_cases config r with hl | hl | hl
  · rw [hl] at hok
    exact absurd hok (by decide)
  · rw [hl] at hok
    exact absurd hok (by decide)
  · have hvalue : (layered config r).value = echoResponse (Body.readRequestText config.bodyLimit
        r.headers (admitted config.limits.maxBodyBytes r)).value := by
      rw [hl, ofRequest_eq_echo_iff.2 he]
      exact echoBack_value _ _ _
    rw [hvalue] at hok ⊢
    cases hres : (Body.readRequestText config.bodyLimit r.headers
        (admitted config.limits.maxBodyBytes r)).value with
    | error e =>
        rw [hres] at hok
        exact absurd hok (status_echoResponse_of_error_ne_ok e)
    | ok text =>
        obtain ⟨bs, hbs, rfl⟩ := Body.readRequestText_eq_ok_iff.1 hres
        obtain ⟨rfl, hmost⟩ := eq_content_of_admitted hbs
        exact ⟨hmost, rfl⟩

/-- **How much an echo grows.** Whatever the limit and however a body is cut, its text has at least
as many bytes as the body and at most three times as many, so at most three times the limit; a valid
body is sent back as it came. This is what `/echo` sends back. Three times as many it is for every
number of bytes that begin no character, if so many are accepted at all. -/
theorem echo_grows_threefold (limit : Body.Limit) (headers : Http.Headers) :
    (∀ s text, (Body.readRequestText limit headers s).value = .ok text →
      Grown s.content (utf8 text) ∧
        ∀ max, limit.maxBytes = some max → (utf8 text).length ≤ 3 * max) ∧
    (∀ config fresh (r : Request), r.IsEcho → (answer config fresh r).value.status = .ok →
      Grown r.body.content (answer config fresh r).value.body ∧
        (answer config fresh r).value.body.length ≤ 3 * config.limits.maxBodyBytes) ∧
    ∀ n s, Body.Stream.isClean s = true → s.content = List.replicate n 0xFF → limit.Admits n →
      (∀ m, Body.declaredLength headers = some m → m = n) →
      ∃ text, (Body.readRequestText limit headers s).value = .ok text ∧
        (utf8 text).length = 3 * n := by
  refine ⟨fun s text htext => ?_, fun config fresh r he hok => ?_, fun n s hc hs hl hd => ?_⟩
  · obtain ⟨hadmits, rfl⟩ := Body.eq_textOf_content htext
    have hgrown := grown_textOf s.content
    refine ⟨hgrown, fun max hmax => ?_⟩
    have hle := hgrown.le_three_mul
    have hmost := hadmits max hmax
    omega
  · obtain ⟨hmost, hbody⟩ := body_echo he hok
    have hgrown := grown_textOf r.body.content
    have hle := hgrown.le_three_mul
    rw [hbody]
    exact ⟨hgrown, by omega⟩
  · have hlength : s.content.length = n := by rw [hs, List.length_replicate]
    have hread : (Body.readRequest limit headers s).result = .ok s.content :=
      Body.readRequest_eq_ok_iff.2 ⟨hc, hlength.symm ▸ hl, hlength.symm ▸ hd, rfl⟩
    refine ⟨textOf s.content, Body.readRequestText_eq_ok_iff.2 ⟨_, hread, rfl⟩, ?_⟩
    rw [hs, length_utf8_textOf_replicate]

/-- A character of four bytes that is cut short gets no longer, and a byte that begins none does. -/
def mixed : Request where
  method := "POST"
  path := "/echo".toList
  headers := .empty
  body := [.chunk [0xF0, 0x9F], .pause 5, .chunk [0x98, 0xFF]]

theorem echo_grows_of_mixed :
    (mixed.IsEcho ∧ (answer hasty someId mixed).value.status = .ok ∧
      Grown [0xF0, 0x9F, 0x98, 0xFF] (answer hasty someId mixed).value.body ∧
      (answer hasty someId mixed).value.body = utf8 "\uFFFD\uFFFD") ∧
    ∃ text, (Body.readRequestText (.ofBytes 2) .empty [.chunk [0xFF], .chunk [0xFF]]).value
      = .ok text ∧ (utf8 text).length = 6 := by
  have he : mixed.IsEcho := by decide +kernel
  have hok : (answer hasty someId mixed).value.status = .ok := by decide +kernel
  have hlimit : (Body.Limit.ofBytes 2).Admits 2 := by
    rintro m ⟨⟩
    exact Nat.le_refl _
  have hnone : ∀ m, Body.declaredLength .empty = some m → m = 2 := by rintro m ⟨⟩
  exact ⟨⟨he, hok, ((echo_grows_threefold .standard .empty).2.1 hasty someId mixed he hok).1,
      by decide +kernel⟩,
    (echo_grows_threefold (.ofBytes 2) .empty).2.2 2 _ (by decide) rfl hlimit hnone⟩

end Server

end Session
