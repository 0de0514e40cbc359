import SwapDesk.Rails.Capture
import SwapDesk.Lib.JsonText

/-!
# SwapDesk — recorded exchanges

The other side of a capture: `CapturingRpc` of `src/rails/rpc-capture.ts` keeps the
request it sent and the bytes it received. A reader that refused such an exchange
would refuse every honest capture, so what is recorded has to bind.

Main results:

* `bindExchange_recorded`, for the readers that bind an exchange by its id;
* `readsBack_textRuntime`, which says that the runtime's own functions qualify.
-/

namespace SwapDesk.Rails

open Check

/-- The bytes of a text. -/
def utf8 (text : String) : List UInt8 := text.toByteArray.data.toList

/-- `JSON.stringify` -/
def jsonText (v : Json) : String := String.ofList (JsonText.print v)

/-- The runtime reads back what it writes. -/
structure ReadsBack (rt : Runtime) : Prop where
  parses : ∀ {v : Json}, JsonText.Plain v → rt.jsonParse (jsonText v) = some v
  decodes : ∀ {text : String}, rt.decodeUtf8 (utf8 text) = some text

/-! ## What is recorded -/

def requestBody (id method : String) (params : Json) : Json :=
  .obj [("jsonrpc", .str "2.0"), ("id", .str id), ("method", .str method), ("params", params)]

/-- A response has a result, unless the endpoint left it out. -/
def responseBody (id : String) (result : Option Json) : Json :=
  .obj (("jsonrpc", .str "2.0") :: ("id", .str id) ::
    result.toList.map fun value => ("result", value))

/-- The exchange is a call with these parameters that was answered with `result`. -/
structure Recorded (capture : Capture) (exchange : CaptureIndexExchange) (id : String)
    (params : Json) (result : Option Json) : Prop where
  recordedParams : exchange.params = some params
  request : exchange.requestBody = jsonText (requestBody id exchange.method params)
  response : capture.bytes exchange.responseSha256 = some (utf8 (jsonText (responseBody id result)))
  plainParams : JsonText.Plain params
  plainResult : ∀ value ∈ result, JsonText.Plain value

variable {rt : Runtime} {capture : Capture}

/-- The body of a plain request is plain JSON. -/
theorem plain_requestBody {id method : String} {params : Json} (h : JsonText.Plain params) :
    JsonText.Plain (requestBody id method params) :=
  ⟨by simp, trivial, trivial, trivial, h, trivial⟩

/-- The body of a plain response is plain JSON. -/
theorem plain_responseBody {id : String} {result : Option Json}
    (h : ∀ value ∈ result, JsonText.Plain value) : JsonText.Plain (responseBody id result) := by
  cases result with
  | none => exact ⟨by simp, trivial, trivial, trivial⟩
  | some value => exact ⟨by simp, trivial, trivial, h value rfl, trivial⟩

/-- A response answers its request, with no error. -/
theorem responseBody_answers (id : String) (result : Option Json) :
    RequestId.ofJson? ((responseBody id result).field? "id") = some (.str id) ∧
      rejects (responseBody id result) = false ∧
      (responseBody id result).field? "result" = result := by
  cases result <;> exact ⟨rfl, rfl, rfl⟩

/-- A recorded request parses back. -/
theorem parseRequestBody_recorded (hrt : ReadsBack rt) {exchange : CaptureIndexExchange}
    {id : String} {params : Json} {result : Option Json}
    (h : Recorded capture exchange id params result) :
    parseRequestBody rt exchange = some ⟨.str id, exchange.method, some params⟩ := by
  unfold parseRequestBody
  rw [h.request, hrt.parses (plain_requestBody h.plainParams)]
  rfl

/-- A recorded exchange binds, and its outcome is what was received. -/
theorem bindExchange_recorded (hrt : ReadsBack rt) {parts : String} {exchange :
    CaptureIndexExchange} {id label : String} {params : Json} {result : Option Json}
    (h : Recorded capture exchange id params result) (hId : (idPrefix rt capture).toList <+:
    id.toList) : bindExchangeTo parts rt capture (some exchange) label =
      .ok ⟨⟨.str id, exchange.method, some params⟩, .result result⟩ := by
  have hSame : sameJson rt (some params) exchange.params = true := by
    rw [h.recordedParams]
    exact decide_eq_true rfl
  have hBound : idBoundToCapture rt capture (.str id) = true :=
    List.isPrefixOf_iff_prefix.mpr hId
  have hObject : (responseBody id result).isContainer = true := rfl
  obtain ⟨hAnswers, hNotRejected, hResult⟩ := responseBody_answers id result
  simp only [bindExchangeTo, need, parseRequestBody_recorded hrt h, require, hSame, h.response,
    hrt.decodes, hrt.parses (plain_responseBody h.plainResult), hBound, bind, Except.bind, and_self,
    if_true, hObject, hAnswers, hNotRejected, hResult, Bool.false_eq_true, if_false]
  rfl

/-! ## A capture that was recorded -/

/-- A call with its parameters and its result. -/
structure Call where
  method : String
  params : Json
  result : Option Json

/-- What the response to the call at a position is kept under. -/
def responseName (position : Nat) : String := String.ofList (JsonText.printNat position)

def recordedId (rt : Runtime) (ref : String) (checkedAtMs : Int) (nonce : String)
    (position : Nat) : String :=
  ref ++ ":" ++ rt.intText checkedAtMs ++ ":" ++ nonce ++ ":" ++ rt.intText (position + 1)

def recordedExchange (id : String) (position : Nat) (call : Call) : CaptureIndexExchange where
  method := call.method
  params := some call.params
  requestBody := jsonText (requestBody id call.method call.params)
  responseSha256 := responseName position

/-- The capture of a sequence of calls, with ids counted from 1. -/
def recordedCapture (rt : Runtime) (ref : String) (checkedAtMs : Int) (nonce : String)
    (calls : List Call) : Capture where
  ref := ref
  checkedAtMs := checkedAtMs
  nonce := nonce
  exchanges := calls.mapIdx fun i call =>
    recordedExchange (recordedId rt ref checkedAtMs nonce i) i call
  bytes name :=
    let i := JsonText.readNat name.toList
    calls[i]?.map fun call =>
      utf8 (jsonText (responseBody (recordedId rt ref checkedAtMs nonce i) call.result))

/-- The name of a response tells its number. -/
theorem readNat_responseName (i : Nat) : JsonText.readNat (responseName i).toList = i := by
  rw [responseName, String.toList_ofList, JsonText.readNat_printNat]

/-- The prefix of the ids in a recorded capture. -/
theorem idPrefix_recordedCapture (ref nonce : String) (checkedAtMs : Int) (calls : List Call)
    (i : Nat) : idPrefix rt (recordedCapture rt ref checkedAtMs nonce calls) ++ rt.intText (i + 1) =
      recordedId rt ref checkedAtMs nonce i := by
  unfold idPrefix recordedCapture recordedId
  rfl

/-- The exchanges of a recorded capture are its calls. -/
theorem exchanges_recordedCapture {ref nonce : String} {checkedAtMs : Int} {calls : List Call}
    {i : Nat} {call : Call} (h : calls[i]? = some call) :
    (recordedCapture rt ref checkedAtMs nonce calls).exchanges[i]? =
      some (recordedExchange (recordedId rt ref checkedAtMs nonce i) i call) := by
  rw [recordedCapture, List.getElem?_mapIdx, h, Option.map_some]

/-- Every call of a recorded capture is read at its position. -/
theorem recordedCapture_at {ref nonce : String} {checkedAtMs : Int} {calls : List Call} {i : Nat}
    {call : Call} (h : calls[i]? = some call) (hParams : JsonText.Plain call.params)
    (hResult : ∀ value ∈ call.result, JsonText.Plain value) :
    ∃ e, (recordedCapture rt ref checkedAtMs nonce calls).exchanges[i]? = some e ∧
      e.method = call.method ∧
      Recorded (recordedCapture rt ref checkedAtMs nonce calls) e
        (idPrefix rt (recordedCapture rt ref checkedAtMs nonce calls) ++ rt.intText (i + 1))
        call.params call.result := by
  rw [idPrefix_recordedCapture]
  refine ⟨recordedExchange (recordedId rt ref checkedAtMs nonce i) i call, ?_, rfl, ?_⟩
  · exact exchanges_recordedCapture h
  · refine ⟨rfl, rfl, ?_, hParams, hResult⟩
    rw [recordedCapture, recordedExchange]
    simp only [readNat_responseName, h, Option.map_some]

/-- The exchange of a call binds, however it is found. -/
theorem bindExchange_recordedExchange (hrt : ReadsBack rt) {parts ref nonce label : String}
    {checkedAtMs : Int} {calls : List Call} {i : Nat} {call : Call} (h : calls[i]? = some call)
    (hParams : JsonText.Plain call.params) (hResult : ∀ value ∈ call.result, JsonText.Plain value) :
    bindExchangeTo parts rt (recordedCapture rt ref checkedAtMs nonce calls)
        (some (recordedExchange (recordedId rt ref checkedAtMs nonce i) i call)) label =
      .ok ⟨⟨.str (recordedId rt ref checkedAtMs nonce i), call.method, some call.params⟩,
        .result call.result⟩ := by
  obtain ⟨e, hAt, hMethod, hRecorded⟩ := recordedCapture_at h hParams hResult
  obtain rfl := Option.some.inj (hAt.symm.trans (exchanges_recordedCapture h))
  have hId : (idPrefix rt (recordedCapture rt ref checkedAtMs nonce calls)).toList <+:
      (idPrefix rt (recordedCapture rt ref checkedAtMs nonce calls) ++ rt.intText (i + 1)).toList := by
    rw [String.toList_append]
    exact List.prefix_append ..
  rw [bindExchange_recorded hrt hRecorded hId, hMethod, idPrefix_recordedCapture]

/-- Every call of a recorded capture binds. -/
theorem bindExchange_recordedCapture (hrt : ReadsBack rt) {parts ref nonce method label : String}
    {checkedAtMs : Int} {calls : List Call} {i : Nat} {params : Json} {result : Option Json}
    (h : calls[i]? = some ⟨method, params, result⟩) (hParams : JsonText.Plain params)
    (hResult : ∀ value ∈ result, JsonText.Plain value) :
    bindExchangeTo parts rt (recordedCapture rt ref checkedAtMs nonce calls)
        (exchangeAt (recordedCapture rt ref checkedAtMs nonce calls).exchanges i method) label =
      .ok ⟨⟨.str (recordedId rt ref checkedAtMs nonce i), method, some params⟩,
      .result result⟩ := by
  have hExchange : exchangeAt (recordedCapture rt ref checkedAtMs nonce calls).exchanges i method =
      some (recordedExchange (recordedId rt ref checkedAtMs nonce i) i ⟨method, params, result⟩) :=
    exchangeAt_eq_some.mpr ⟨exchanges_recordedCapture h, rfl⟩
  rw [hExchange, bindExchange_recordedExchange hrt h hParams hResult]

/-! ## The runtime's own functions -/

/-- JSON and UTF-8 as the runtime has them, and numbers as it reads plain integers. What comes
from packages is left open. -/
def textRuntime (base64Text : String → String) (sha256 : List UInt8 → List UInt8) : Runtime where
  jsonParse text := JsonText.parse (fun number => .other (String.ofList number)) text.toList
  jsonStringify value := value.map jsonText
  decodeUtf8 bytes := String.fromUTF8? ⟨bytes.toArray⟩
  base64Text := base64Text
  uint8Array items := items.map fun
    | .num (.int n) => UInt8.ofNat (n % 256).toNat
    | _ => 0
  number text := (JsonText.exactInt? text.toList).map .int
  bigInt text := JsonText.exactInt? text.toList
  intText n := String.ofList (JsonText.printInt n)
  sha256 := sha256

/-- The text runtime reads back. -/
theorem readsBack_textRuntime (base64Text : String → String)
    (sha256 : List UInt8 → List UInt8) : ReadsBack (textRuntime base64Text sha256) := by
  constructor
  · intro v h
    show JsonText.parse _ (String.ofList (JsonText.print v)).toList = some v
    rw [String.toList_ofList, JsonText.parse_print h]
  · intro text
    show String.fromUTF8? ⟨text.toByteArray.data.toList.toArray⟩ = some text
    rw [Array.toArray_toList, String.fromUTF8?, dif_pos text.isValidUTF8]
    rfl

end SwapDesk.Rails
