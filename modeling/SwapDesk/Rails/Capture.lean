import SwapDesk.Lib.Check
import SwapDesk.Lib.Json

/-!
# SwapDesk — captured exchanges

The binding of `src/rails/near-evidence.ts` between the request of a captured
JSON-RPC exchange and its answer, which it mirrors from the other rails' readers.
The index of a capture is an editable file, so nothing it says of an exchange is
believed before the bytes agree.

Main result: `answered_of_bindExchange`, what a bound exchange is evidence of.
-/

namespace SwapDesk.Rails

open Check

/-- What the readers use of the runtime and of the hash packages. Nothing proved
here depends on what these compute. -/
structure Runtime where
  /-- `JSON.parse`; `none` when it throws. -/
  jsonParse : String → Option Json
  /-- `JSON.stringify`, of a value that may be missing. -/
  jsonStringify : Option Json → Option String
  /-- `new TextDecoder("utf-8", { fatal: true })`; `none` when it throws. -/
  decodeUtf8 : List UInt8 → Option String
  /-- `Buffer.from(text, "base64").toString("utf8")` -/
  base64Text : String → String
  /-- `Uint8Array.from` -/
  uint8Array : List Json → List UInt8
  /-- `Number`, of a text; `none` when the result is not finite. -/
  number : String → Option JsonNum
  /-- `BigInt`, of a text; `none` when it throws. -/
  bigInt : String → Option Int
  /-- The text of an integer in a template literal. -/
  intText : Int → String
  sha256 : List UInt8 → List UInt8

/-- One exchange as the index file records it. -/
structure CaptureIndexExchange where
  method : String
  params : Option Json
  requestBody : String
  responseSha256 : String

/-- The part of a capture that its exchanges are bound to, with the response bytes
that could be read back. -/
structure Capture where
  ref : String
  checkedAtMs : Int
  nonce : String
  exchanges : List CaptureIndexExchange
  bytes : String → Option (List UInt8)

/-! ## Requests -/

inductive RequestId where
  | num (value : JsonNum)
  | str (value : String)
deriving DecidableEq, Repr

def RequestId.ofJson? : Option Json → Option RequestId
  | some (.num n) => some (.num n)
  | some (.str s) => some (.str s)
  | _ => none

structure ParsedRequest where
  id : RequestId
  method : String
  params : Option Json

def parseRequestBody (rt : Runtime) (exchange : CaptureIndexExchange) : Option ParsedRequest :=
  match (rt.jsonParse exchange.requestBody).filter Json.isContainer with
  | none => none
  | some body =>
    match RequestId.ofJson? (body.field? "id"), body.text? "method" with
    | some id, some method => some ⟨id, method, body.field? "params"⟩
    | _, _ => none

/-- Every id of a capture starts so. -/
def idPrefix (rt : Runtime) (capture : Capture) : String :=
  capture.ref ++ ":" ++ rt.intText capture.checkedAtMs ++ ":" ++ capture.nonce ++ ":"

def idBoundToCapture (rt : Runtime) (capture : Capture) : RequestId → Bool
  | .num _ => false
  | .str id => (idPrefix rt capture).toList.isPrefixOf id.toList

def sameJson (rt : Runtime) (a b : Option Json) : Bool := rt.jsonStringify a = rt.jsonStringify b

/-! ## Binding -/

/-- What the response says: a result, which may be missing, or a JSON-RPC error. -/
inductive EnvelopeOutcome where
  | result (value : Option Json)
  | error

structure BoundExchange where
  request : ParsedRequest
  outcome : EnvelopeOutcome

/-- `error` is set, to something other than null. -/
def rejects (envelope : Json) : Bool :=
  match envelope.field? "error" with
  | none => false
  | some .null => false
  | some _ => true

/-- The request asks for what the index says it does, and the response answers that
request and belongs to this capture. The error is the reason it does not, and each reader
has its own words for what an id is bound to. -/
def bindExchangeTo (parts : String) (rt : Runtime) (capture : Capture)
    (exchange : Option CaptureIndexExchange) (label : String) : Except String BoundExchange := do
  let exchange ← need exchange ("missing/tampered capture: no " ++ label ++ " exchange")
  let request ← need (parseRequestBody rt exchange)
    ("missing/tampered capture: " ++ label ++ " (malformed request)")
  require (request.method = exchange.method ∧ sameJson rt request.params exchange.params)
    ("missing/tampered capture: " ++ label ++
      " (request does not match its own recorded method/params)")
  let bytes ← need (capture.bytes exchange.responseSha256)
    ("missing/tampered capture: " ++ label)
  let bodyText ← need (rt.decodeUtf8 bytes)
    ("missing/tampered capture: " ++ label ++ " (undecodable)")
  let parsed ← need (rt.jsonParse bodyText)
    ("missing/tampered capture: " ++ label ++ " (unparseable)")
  require parsed.isContainer
    ("missing/tampered capture: " ++ label ++ " (not a JSON-RPC object)")
  require (RequestId.ofJson? (parsed.field? "id") = some request.id)
    ("missing/tampered capture: " ++ label ++ " (response id does not match its request)")
  require (idBoundToCapture rt capture request.id)
    ("missing/tampered capture: " ++ label ++
      " (id is not bound to this capture's " ++ parts ++ ")")
  return ⟨request, if rejects parsed then .error else .result (parsed.field? "result")⟩

abbrev bindExchange := bindExchangeTo "ref/checkedAtMs/nonce"

/-- The exchange recorded at a position, if it is a call of the expected method. -/
def exchangeAt (exchanges : List CaptureIndexExchange) (i : Nat) (expectedMethod : String) :
    Option CaptureIndexExchange :=
  exchanges[i]?.filter fun exchange => exchange.method = expectedMethod

theorem exchangeAt_eq_some {exchanges : List CaptureIndexExchange} {i : Nat} {method : String}
    {e : CaptureIndexExchange} :
    exchangeAt exchanges i method = some e ↔ exchanges[i]? = some e ∧ e.method = method := by
  unfold exchangeAt
  rw [Option.filter_eq_some_iff, decide_eq_true_eq]

/-! ## What a bound exchange is evidence of -/

/-- The exchange is a call with `params` that was answered with `value`: its request
body says so, the recorded method and parameters agree with that body, and the
response carries the request's id, which belongs to this capture. -/
def Answered (rt : Runtime) (capture : Capture) (exchange : CaptureIndexExchange)
    (params value : Option Json) : Prop :=
  ∃ body id bytes text envelope,
    rt.jsonParse exchange.requestBody = some body ∧
    body.field? "id" = some (.str id) ∧
    body.field? "method" = some (.str exchange.method) ∧
    body.field? "params" = params ∧
    rt.jsonStringify params = rt.jsonStringify exchange.params ∧
    (idPrefix rt capture).toList <+: id.toList ∧
    capture.bytes exchange.responseSha256 = some bytes ∧
    rt.decodeUtf8 bytes = some text ∧
    rt.jsonParse text = some envelope ∧
    envelope.field? "id" = some (.str id) ∧
    (envelope.field? "error" = none ∨ envelope.field? "error" = some .null) ∧
    envelope.field? "result" = value

variable {rt : Runtime} {capture : Capture}

theorem ofJson?_eq_str {v : Option Json} {s : String} :
    RequestId.ofJson? v = some (.str s) ↔ v = some (.str s) := by
  unfold RequestId.ofJson?
  split <;> simp_all

/-- A request that parses is an object with an id and the method it was parsed to. -/
theorem parseRequestBody_eq_some {exchange : CaptureIndexExchange} {request : ParsedRequest}
    (h : parseRequestBody rt exchange = some request) :
    ∃ body, rt.jsonParse exchange.requestBody = some body ∧
      RequestId.ofJson? (body.field? "id") = some request.id ∧
      body.field? "method" = some (.str request.method) ∧
      body.field? "params" = request.params := by
  unfold parseRequestBody at h
  split at h
  · cases h
  · rename_i body hbody
    split at h
    · rename_i id method hid hmethod
      obtain rfl := Option.some.inj h
      exact ⟨body, (Option.filter_eq_some_iff.mp hbody).1, hid, Json.text?_eq_some.mp hmethod, rfl⟩
    · cases h

theorem not_rejects {envelope : Json} (h : rejects envelope = false) :
    envelope.field? "error" = none ∨ envelope.field? "error" = some .null := by
  unfold rejects at h
  split at h
  · left
    assumption
  · right
    assumption
  · cases h

/-- An exchange that binds with a result was answered with it. -/
theorem answered_of_bindExchange {parts : String} {exchange : Option CaptureIndexExchange}
    {label : String}
    {request : ParsedRequest} {value : Option Json}
    (h : bindExchangeTo parts rt capture exchange label = .ok ⟨request, .result value⟩) :
    ∃ e, exchange = some e ∧ Answered rt capture e request.params value := by
  unfold bindExchangeTo at h
  simp only [need_bind_eq_ok, require_bind_eq_ok] at h
  obtain ⟨e, he, request', hrequest, ⟨hmethod, hsame⟩, bytes, hbytes, text, htext, envelope,
    henvelope, -, hid, hbound, h⟩ := h
  obtain ⟨rfl, houtcome⟩ := BoundExchange.mk.inj (Except.ok.inj h)
  obtain ⟨body, hbody, hbodyId, hbodyMethod, hparams⟩ := parseRequestBody_eq_some hrequest
  refine ⟨e, he, body, ?_⟩
  -- a numeric id is never bound to a capture
  cases hreq : request'.id with
  | num n =>
    rw [hreq] at hbound
    cases hbound
  | str id =>
    rw [hreq] at hid hbodyId hbound
    cases hrejects : rejects envelope with
    | true =>
      rw [hrejects] at houtcome
      cases houtcome
    | false =>
      rw [hrejects] at houtcome
      exact ⟨id, bytes, text, envelope, hbody, ofJson?_eq_str.mp hbodyId, hmethod ▸ hbodyMethod,
        hparams, of_decide_eq_true hsame, List.isPrefixOf_iff_prefix.mp hbound, hbytes, htext,
        henvelope, ofJson?_eq_str.mp hid, not_rejects hrejects, EnvelopeOutcome.result.inj houtcome⟩

/-- The exchange at a position of the capture is a call of this method with these
parameters, answered with `value`. -/
def AnsweredAt (rt : Runtime) (capture : Capture) (i : Nat) (method : String)
    (params : Option Json) (value : Json) : Prop :=
  ∃ e, capture.exchanges[i]? = some e ∧ e.method = method ∧
    Answered rt capture e params (some value)

/-- A bound exchange with a result that is there. -/
theorem answeredAt_of_bindExchange {parts : String} {i : Nat} {method label : String} {bound :
    BoundExchange} {value : Json}
    (hBound : bindExchangeTo parts rt capture (exchangeAt capture.exchanges i method) label =
      .ok bound)
    (hResult : bound.outcome = .result (some value)) :
    AnsweredAt rt capture i method bound.request.params value := by
  obtain ⟨request, outcome⟩ := bound
  dsimp only at hResult
  subst hResult
  obtain ⟨e, he, hAnswered⟩ := answered_of_bindExchange hBound
  obtain ⟨hAt, hMethod⟩ := exchangeAt_eq_some.mp he
  exact ⟨e, hAt, hMethod, hAnswered⟩

end SwapDesk.Rails
