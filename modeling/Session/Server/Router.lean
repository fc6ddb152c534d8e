import Session.Server.Endpoint

set_option autoImplicit false

/-! # The server

Three layers stand around every endpoint. From the outside in:

* the request id: the response carries the id of the request, or a new one;
* the timeout: an answer that is not ready in time is replaced by 408, and with it all that it
  would have logged and counted;
* the body limit: a request that declares a longer body is refused before anything is read, and
  any other body is cut at the limit or at its declared length, whichever is less. This length is
  read as it stands, without trimming.

At the end the response is completed: an answer of a known path carries its exact length, one to a
`HEAD` request loses its body, and one to a wrong method names the right ones.
-/

namespace Session.Server

/-! ## Layers -/

def refusal : Http.Response := .text .payloadTooLarge (utf8 "length limit exceeded")

/-- The length that the body limit goes by: the first `content-length` value, if it is plain
ASCII and, as it stands, an unsigned number. -/
def announcedLength (h : Http.Headers) : Option Nat := do
  let value ← h.get? .contentLength
  let text ← value.ascii?
  Text.readUnsigned? Text.maxUnsigned text

/-- Refuses a body that is announced to be longer than `max` bytes, and cuts any other one. -/
def limitBody (max : Nat) (r : Request)
    (inner : Body.Stream → Timed (Traced Http.Response)) : Timed (Traced Http.Response) :=
  match announcedLength r.headers with
  | some n => if max < n then ⟨return refusal, 0⟩ else inner (r.body.limited (min max n))
  | none => inner (r.body.limited max)

/-- The longest time that a timer runs, in seconds: thirty years of 365 days. -/
def maxTimer : Nat := 30 * 365 * 24 * 60 * 60

/-- The answer, if it is ready before the given number of seconds has passed. -/
def limitTime (seconds : Nat) (t : Timed (Traced Http.Response)) : Traced Http.Response :=
  -- an answer that is ready together with the timer comes too late
  if min seconds maxTimer * 1000 ≤ t.after then return .empty .requestTimeout else t.value

/-- The response with the id of its request, or with a fresh one. -/
def identify (fresh : Http.Value) (r : Request) (response : Http.Response) : Http.Response :=
  { response with
    headers := response.headers.appendIfAbsent .requestId ((r.headers.get? .requestId).getD fresh) }

/-! ## Completing -/

/-- Every digit of a numeral may stand in a header. -/
theorem all_isValueByte_decimal (n : Nat) :
    (utf8 (Text.decimal n)).all Http.isValueByte = true := by
  rw [List.all_eq_true]
  intro b hb
  simp only [utf8, Text.decimal, Text.digitsIn, String.toList_ofList, Text.Utf8.encode,
    List.mem_flatMap] at hb
  obtain ⟨c, hc, hbc⟩ := hb
  have hd : c.isDigit = true := Nat.isDigit_of_mem_toDigits (by decide) (by decide) hc
  have h48 : 48 ≤ c.val.toNat ∧ c.val.toNat ≤ 57 := by
    simp only [Char.isDigit, Bool.and_eq_true, decide_eq_true_eq] at hd
    exact ⟨UInt32.le_iff_toNat_le.1 hd.1, UInt32.le_iff_toNat_le.1 hd.2⟩
  rw [Text.Utf8.utf8EncodeChar_of_lt (by omega), List.mem_singleton] at hbc
  subst hbc
  generalize c.val.toNat = m at h48
  have : ∀ k : Fin 58, 48 ≤ k.val → Http.isValueByte (UInt8.ofNat k.val) = true := by decide
  exact this ⟨m, by omega⟩ h48.1

def lengthValue (n : Nat) : Http.Value := ⟨utf8 (Text.decimal n), all_isValueByte_decimal n⟩

/-- The path is answered by an endpoint itself, whatever the method. A target that is no path at
all is answered likewise. -/
def isCompleted (e : Endpoint) (r : Request) : Bool :=
  match e with
  | .missing => r.path.head? ≠ some '/'
  | _ => true

/-- The response as it goes out. A tunnel that was opened carries no length. -/
def complete (e : Endpoint) (r : Request) (response : Http.Response) : Http.Response :=
  if !isCompleted e r then response
  else if r.method = "CONNECT" && response.status.isSuccess then { response with body := [] }
  else
    let headers := match e with
      | .wrongMethod allowed => response.headers.appendIfAbsent .allow allowed
      | _ => response.headers
    -- the length is that of the body, also where the body is left out
    let headers := headers.appendIfAbsent .contentLength (lengthValue response.body.length)
    { response with headers, body := if r.method = "HEAD" then [] else response.body }

/-! ## Answering -/

/-- The answer to a request; `fresh` is the id of a request that has none. -/
def answer (config : Config) (fresh : Http.Value) (r : Request) : Traced Http.Response := do
  let endpoint := Endpoint.ofRequest r
  let handled := limitBody config.limits.maxBodyBytes r (endpoint.answer config r)
  let response ← limitTime config.limits.requestTimeout handled
  return complete endpoint r (identify fresh r response)

/-- The answers to requests that come one after the other, each with the id that is drawn for it. -/
def answerAll (config : Config) (calls : List (Http.Value × Request)) :
    Traced (List Http.Response) := calls.mapM fun (fresh, r) => answer config fresh r

end Session.Server
