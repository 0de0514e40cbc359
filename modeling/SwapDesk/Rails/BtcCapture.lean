import SwapDesk.Rails.BtcSoundness

/-!
# SwapDesk — the capture of a Bitcoin outpoint

`captureBtcLeg` of `src/rails/btc-evidence.ts` and the client of `src/rails/rpc-capture.ts` that
it reads the chain through. The endpoint may do with each call what it likes, so it is the list
of its replies. The reader is given what was captured, and the two are separate code.

A block that is mined after the first read may be the funding block, and then its height is above
the tip that the capture knows. The reader takes such a capture for a tampered one.

Main result: `not_saysTampered_iff` in `SwapDesk.Rails.BtcFreshEvidence`, when the reader does not.
-/

namespace SwapDesk.Rails.BtcLeg

open Check Desk

/-! ## The recording client -/

/-- What becomes of one request. -/
inductive Reply where
  /-- There is no response: the endpoint is out of reach, late or sends too much. -/
  | failed (message : String)
  | received (responseBytes : List UInt8)

/-- One round trip. -/
structure Exchange where
  method : String
  params : List Json
  requestBody : String
  responseBytes : List UInt8

/-- Why a call throws. -/
inductive RpcFailure where
  /-- `RpcCaptureError`, the endpoint's own answer. -/
  | rejected (message : String)
  | broken (message : String)

def RpcFailure.message : RpcFailure → String
  | .rejected message => message
  | .broken message => message

structure CapturingRuntime extends BtcRuntime where
  /-- `new TextDecoder("utf-8")`, which replaces what it cannot decode. -/
  decodeLossy : List UInt8 → String

/-- One call of `captureBtcLeg`, and how each of its requests is replied to. -/
structure CaptureCall where
  config : BtcRailConfig
  ref : String
  nowMs : Int
  nonce : String
  replies : Nat → Reply

section

variable (rt : CapturingRuntime) (call : CaptureCall)

/-- The id of the request that follows `position` others, in the namespace of the call. -/
def CaptureCall.requestId (position : Nat) : String :=
  recordedId rt.toRuntime call.ref call.nowMs call.nonce position

def CaptureCall.requestText (position : Nat) (method : String) (params : List Json) : String :=
  (rt.jsonStringify (some (requestBody (call.requestId rt position) method (.arr params)))).getD ""

/-- `CapturingRpc.request`, after the exchanges of the log. -/
def request (log : List Exchange) (method : String) (params : List Json) :
    List Exchange × Except RpcFailure (Option Json) :=
  match call.replies log.length with
  | .failed message => (log, .error (.broken message))
  | .received responseBytes =>
    let log' := log ++ [⟨method, params, call.requestText rt log.length method params,
      responseBytes⟩]
    match rt.jsonParse (rt.decodeLossy responseBytes) with
    | none => (log', .error (.broken ("rpc-capture: response for " ++ method ++
        " is not valid JSON (endpoint " ++ call.config.endpoint ++ ")")))
    | some envelope =>
      if envelope.isContainer = false then
        (log', .error (.broken ("rpc-capture: response for " ++ method ++
          " is not a JSON-RPC object")))
      else if rejects envelope then
        (log', .error (.rejected
          (((envelope.field? "error").bind (·.text? "message")).getD "rpc error")))
      else (log', .ok (envelope.field? "result"))

/-! ## The capture -/

/-- How a capture ends. -/
inductive Stop where
  | threw
  /-- The log, and the error that the index is given. -/
  | finished (log : List Exchange) (error : Option String)

/-- A request whose failure is one of the capture. -/
def ask (log : List Exchange) (method : String) (params : List Json) :
    Except Stop (List Exchange × Option Json) :=
  match request rt call log method params with
  | (log, .ok value) => .ok (log, value)
  | (log, .error failure) => .error (.finished log (some failure.message))

/-- A node that does not know the transaction says so, which is an answer. -/
def askRawTx (log : List Exchange) (outpoint : Outpoint) :
    Except Stop (List Exchange × Option Json) :=
  match request rt call log "getrawtransaction" [.str outpoint.txid, .bool true] with
  | (log, .ok value) => .ok (log, value)
  | (log, .error (.rejected _)) => .error (.finished log none)
  | (log, .error (.broken message)) => .error (.finished log (some message))

/-- The loop of the scan, with the heights that are left. -/
def captureScan (outpoint : Outpoint) : Nat → Int → List Exchange → Except Stop Stop
  | 0, _, log => .ok (.finished log none)
  | left + 1, height, log => do
    let (log, hash) ← ask rt call log "getblockhash" [.num (.int height)]
    let hash ← need (hash.bind Json.asText?) (.finished log none)
    let (log, block) ← ask rt call log "getblock" [.str hash, .num (.int 2)]
    refute (findSpendWitness block outpoint.txid outpoint.vout) fun _ => .finished log none
    captureScan outpoint left (height + 1) log

/-- The funding transaction, its output and its block, and the scan when the output is spent. -/
def captureFunding (outpoint : Outpoint) (tipHeight : Int) (log : List Exchange) :
    Except Stop Stop := do
  let (log, rawTxResult) ← askRawTx rt call log outpoint
  let (log, txoutResult) ← ask rt call log "gettxout"
    [.str outpoint.txid, .num (.int outpoint.vout), .bool false]
  let _ ← need ((rawTxConfirmations rawTxResult).filter (1 ≤ ·)) (.finished log none)
  let fundingBlockHashLive ← need (rawTxBlockHash rawTxResult) (.finished log none)
  let (log, headerResult) ← ask rt call log "getblockheader" [.str fundingBlockHashLive]
  let fundingHeight ← need (blockHeaderHeight headerResult) (.finished log none)
  require (isNull txoutResult = true) (.finished log none)
  let last := scanEnd call.config tipHeight fundingHeight
  captureScan rt call outpoint (last + 1 - fundingHeight).toNat fundingHeight log

def captureReads (outpoint : Outpoint) : Except Stop Stop := do
  let (log, chainInfo) ← ask rt call [] "getblockchaininfo" []
  -- a field of null or of undefined cannot be read
  let chainInfo ← need (chainInfo.filter fun v => !isNull (some v)) .threw
  let tipHeight ← need (chainInfo.int? "blocks") (.finished log none)
  let (log, _) ← ask rt call log "getblockhash" [.num (.int 0)]
  captureFunding rt call outpoint tipHeight log

/-- How the reads end, early or not. -/
def endOf : Except Stop Stop → Stop
  | .error stop => stop
  | .ok stop => stop

end

/-! ## What is handed on -/

def btcPinJson (pin : BtcChainPin) : Json :=
  .obj ([("name", .str pin.name), ("network", .str pin.network), ("caip2", .str pin.caip2),
    ("genesisHash", .str pin.genesisHash),
    ("finality", .obj [("confirmations", .num (.int pin.finality.confirmations))])] ++
    (pin.signetChallenge.map fun challenge => ("signetChallenge", .str challenge)).toList)

/-- The configuration of a capture, in which the window always stands. -/
def effectiveConfigJson (config : BtcRailConfig) : Json :=
  .obj ([("pin", btcPinJson config.pin), ("endpoint", .str config.endpoint),
    ("scanWindowBlocks", .num (.int (scanWindowFor config)))] ++
    (config.asset.map fun asset => ("asset", .str asset)).toList)

def responseSha256 (rt : Runtime) (bytes : List UInt8) : String := bytesToHex (rt.sha256 bytes)

/-- `buildIndex`, with the bytes of `verifiedExchangeBytes`. -/
def builtCapture (rt : Runtime) (call : CaptureCall) (log : List Exchange)
    (error : Option String) : BtcCapture where
  ref := call.ref
  checkedAtMs := call.nowMs
  nonce := call.nonce
  exchanges := log.map fun exchange =>
    { method := exchange.method
      params := some (.arr exchange.params)
      requestBody := exchange.requestBody
      responseSha256 := responseSha256 rt exchange.responseBytes }
  bytes name :=
    (log.find? fun exchange => responseSha256 rt exchange.responseBytes = name).map
      (·.responseBytes)
  config := some (effectiveConfigJson call.config)
  error := error

/-- `none` when it throws. -/
def captureBtcLeg (rt : CapturingRuntime) (call : CaptureCall) : Option BtcCapture :=
  match parseRef call.ref with
  | none => some (builtCapture rt.toRuntime call [] none)
  | some outpoint =>
    match endOf (captureReads rt call outpoint) with
    | .threw => none
    | .finished log error => some (builtCapture rt.toRuntime call log error)

end SwapDesk.Rails.BtcLeg
