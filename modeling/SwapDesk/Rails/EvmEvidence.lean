import SwapDesk.Rails.BtcEvidence
import SwapDesk.Rails.EvmConfig

/-!
# SwapDesk — evidence from a captured EVM lock

`evmEvidence` of `src/rails/evm-evidence.ts`: turns the captured reads of one hash lock
into evidence for a leg. The reads are found by their method: `eth_chainId`,
`eth_getCode` where the auditor pins the contract's code, the reads that name a final
block, and the `eth_call` of `locks(hashLock)` at that block.

The source is one function that returns early, in one place throws, and attaches an
observation from two branches. Its blocks are `admitEvmCapture`, `checkChain`,
`resolveFinalizedBlock`, `readLock` and `judgeLock`.

Main result: `evmEvidence_bound_iff` in `SwapDesk.Rails.EvmSoundness`.
-/

namespace SwapDesk.Rails.Evm

open Check Desk

/-- `/^0x[0-9a-fA-F]{64}$/` -/
def BLOCK_HASH_SHAPE (value : String) : Bool := hexText value (· = 64)

/-- `/^0x[0-9a-fA-F]+$/` -/
def HEX_VALUE (value : String) : Bool := hexText value (0 < ·)

/-! ## Input and output -/

/-- The hash lock is the ref that the exchanges are bound to. -/
structure EvmCapture extends Capture where
  /-- The contract, as the index names it. -/
  contract : Option Json
  /-- The configuration the capture was taken under, as it stands in the file. -/
  config : Option Json
  /-- Set when the capture did not run to completion. -/
  error : Option String

structure EvmAccounts where
  payee : Option String
  payer : Option String
deriving DecidableEq, Repr

structure EvmEvidenceInput where
  terms : LockTerms
  config : EvmRailConfig
  accounts : EvmAccounts
  capture : EvmCapture

structure EvmEvidenceResult where
  lock : LockEvidence
  rail : Option RailObservation
deriving DecidableEq, Repr

/-- What stops the reader: a refusal, or an exception that it does not catch. -/
inductive EvmStop where
  | refused (refusal : Refusal)
  | threw (message : String)
deriving DecidableEq, Repr

def evmUnknown (reason : String) : EvmStop := .refused (.unknown reason)

def hashLockRefMismatch (terms : LockTerms) (ref : String) : Bool :=
  terms.lock ≠ "hash" || !HASH_LOCK_SHAPE ref || ref ≠ terms.statement

/-- What every object inherits. -/
def INHERITED : List String :=
  ["constructor", "__defineGetter__", "__defineSetter__", "hasOwnProperty", "__lookupGetter__",
    "__lookupSetter__", "isPrototypeOf", "propertyIsEnumerable", "toString", "valueOf",
    "__proto__", "toLocaleString"]

/-- `config.assets[asset]`. What is inherited is no address, and neither is the empty text. -/
def assetToken (config : EvmRailConfig) (asset : String) : Option String :=
  match config.assets.lookup asset with
  | some token => some token
  | none => if asset ∈ INHERITED then some "" else none

/-- Of confirmations the capture may ask for more, and everything else has to be the same. -/
def finalityAtLeastAsStrong (captured auditor : EvmFinality) : Bool :=
  match captured, auditor with
  | .confirmations n, .confirmations m => m ≤ n
  | .tag tag fallback, .tag tag' fallback' => tag = tag' && fallback = fallback'
  | _, _ => false

/-! ## Requests and wire decoding -/

abbrev bindEvmExchange := bindExchangeTo "hashLock/checkedAtMs"

def findByMethod (exchanges : List CaptureIndexExchange) (method : String) :
    Option CaptureIndexExchange :=
  exchanges.find? fun exchange => exchange.method = method

def parseHexNumber (rt : EvmRuntime) (value : Option Json) : Option Int :=
  ((value.bind Json.asText?).filter HEX_VALUE).bind rt.hexToNumber

def blockResultHash (value : Option Json) : Option String := do
  let v ← value.filter Json.isContainer
  (v.text? "hash").filter BLOCK_HASH_SHAPE

def blockResultNumber (rt : EvmRuntime) (value : Option Json) : Option Int := do
  let v ← value.filter Json.isContainer
  parseHexNumber rt (v.field? "number")

def requestedBlockNumberArg (rt : EvmRuntime) (request : ParsedRequest) : Option Int := do
  let params ← requestParams request
  parseHexNumber rt params.head?

/-! ## The finalized view -/

structure FinalizedBlock where
  number : Int
  hash : String
  finalityLabel : String
deriving DecidableEq, Repr

/-- The block a number of confirmations below the latest one. -/
def readNumberedBlock (rt : EvmRuntime) (capture : Capture) (confirmations : Int)
    (blockCall : Option CaptureIndexExchange) : Except String FinalizedBlock := do
  let latest ← bindEvmExchange rt.toRuntime capture
    (findByMethod capture.exchanges "eth_blockNumber") "eth_blockNumber"
  let value ← resultOf latest.outcome "rpc rejected eth_blockNumber"
  let latestNumber ← need (parseHexNumber rt value)
    "evm-htlc: malformed eth_blockNumber result (not hex)"
  let block ← bindEvmExchange rt.toRuntime capture blockCall "eth_getBlockByNumber(confirmations)"
  let value ← resultOf block.outcome "rpc rejected eth_getBlockByNumber"
  let number ← need ((requestedBlockNumberArg rt block.request).filter fun number =>
      (requestParams block.request).any (fun params =>
        params.length = 2 && params[1]?.any (strictEquals · (.bool false))) &&
      number = latestNumber - confirmations)
    ("evm-htlc: the numbered block read does not target latest - confirmations (tampered block " ++
      "selector)")
  let hash ← need (blockResultHash value) "finalized block has no hash"
  return ⟨number, hash, "confirmations-" ++ rt.intText confirmations⟩

/-- The first parameter that the index records. -/
def recordedFirstParam (exchange : CaptureIndexExchange) : Option Json :=
  match exchange.params with
  | some (.arr items) => items.head?
  | _ => none

/-- The block that the tag names. An error reply, and a block without a hash or a number, name
none. -/
def taggedBlock (rt : EvmRuntime) (tag : String) (bound : BoundExchange) :
    Except String (Option FinalizedBlock) :=
  match bound.outcome with
  | .error => .ok none
  | .result value => do
    require (paramsAre bound.request [.str tag, .bool false])
      ("evm-htlc: the finalized-tag read does not request [\"" ++ tag ++
        "\", false] (tampered block selector)")
    return (blockResultHash value).bind fun hash =>
      (blockResultNumber rt value).map fun number => FinalizedBlock.mk number hash "finalized"

/-- The block under a tag, or else one that is numbered, where the configuration allows it. -/
def readTaggedBlock (rt : EvmRuntime) (capture : Capture) (tag : String)
    (fallbackConfirmations : Option Int) : Except String FinalizedBlock := do
  let blockCalls := capture.exchanges.filter fun exchange =>
    exchange.method = "eth_getBlockByNumber"
  let tagIndex := blockCalls.findIdx? fun exchange =>
    (recordedFirstParam exchange).any (strictEquals · (.str tag))
  let tagBound ← bindEvmExchange rt.toRuntime capture (tagIndex.bind (blockCalls[·]?))
    ("eth_getBlockByNumber(" ++ tag ++ ")")
  match ← taggedBlock rt tag tagBound with
  | some block => return block
  | none => do
    let confirmations ← need fallbackConfirmations
      "rpc lacks the finalized tag and no fallbackConfirmations is configured"
    readNumberedBlock rt capture confirmations
      (tagIndex.bind fun i => (blockCalls.eraseIdx i).head?)

def resolveFinalizedBlock (rt : EvmRuntime) (captured : EvmRailConfig) (capture : Capture) :
    Except String FinalizedBlock :=
  match captured.pin.finality with
  | .confirmations n =>
    readNumberedBlock rt capture n (findByMethod capture.exchanges "eth_getBlockByNumber")
  | .tag tag fallbackConfirmations => readTaggedBlock rt capture tag fallbackConfirmations

/-! ## Checks before the lock is read -/

/-- A value that is shaped like an address. -/
def addressShape (rt : EvmRuntime) (value : Option Json) : Option String :=
  (value.bind Json.asText?).filter rt.isAddress

/-- `isAddressEqual`, where nothing catches what it throws. -/
def addressEqual (rt : EvmRuntime) (a b : String) : Except EvmStop Bool :=
  (rt.isAddressEqual a b).mapError .threw

/-- The asset's token, where the auditor has one, is the one of the capture. -/
def sameToken (rt : EvmRuntime) (captured : String) : Option String → Except EvmStop Bool
  | none => .ok true
  | some token => addressEqual rt captured token

/-- Checks that need no exchange. -/
def admitEvmCapture (rt : EvmRuntime) (input : EvmEvidenceInput) :
    Except EvmStop EvmRailConfig := do
  let capture := input.capture
  let config := input.config
  refute capture.error fun error =>
    evmUnknown ("evm-htlc: chain read did not complete: " ++ error)
  require (hashLockRefMismatch input.terms capture.ref = false)
    (.refused (.differs
      "evm-htlc: ref/lock mismatch (ref must equal terms.statement and lock must be \"hash\")"))
  let captured ← (checkEvmRailConfig rt capture.config).mapError fun reason =>
    evmUnknown ("evm-htlc: capture's own config is invalid (A4/D3): " ++ reason)
  let capturedToken ← need (assetToken captured input.terms.asset)
    (evmUnknown ("evm-htlc: capture's own config has no token address for asset \"" ++
      input.terms.asset ++ "\" (D3)"))
  let different := evmUnknown "evm-htlc: capture was taken under a different rail config"
  require (captured.pin.chainId = config.pin.chainId) different
  let sameContract ← addressEqual rt captured.contract config.contract
  require (sameContract = true) different
  let same ← sameToken rt capturedToken (assetToken config input.terms.asset)
  require (same = true) different
  require (finalityAtLeastAsStrong captured.pin.finality config.pin.finality = true)
    (evmUnknown ("evm-htlc: capture's own finality is weaker than the auditor's configured " ++
      "finality (D3)"))
  return captured

/-- The code of the contract, read under this capture, is what the auditor pins. -/
def codePin (rt : EvmRuntime) (capture : Capture) (captured config : EvmRailConfig)
    (pinned : String) : Except EvmStop Unit := do
  require (captured.contractCodeHash.any fun hash => toLowerCase hash = toLowerCase pinned)
    (evmUnknown ("evm-htlc: capture was taken without the auditor's contractCodeHash pin (its own "
    ++
      "config carries none or another)"))
  let bound ← (bindEvmExchange rt.toRuntime capture
    (findByMethod capture.exchanges "eth_getCode") "eth_getCode").mapError evmUnknown
  let value ← (resultOf bound.outcome "rpc rejected eth_getCode").mapError evmUnknown
  let tampered := evmUnknown
    "evm-htlc: eth_getCode request does not read this deployment's contract at latest (tampered)"
  let params ← need ((requestParams bound.request).filter (·.length = 2)) tampered
  let address ← need (addressShape rt params[0]?) tampered
  let same ← addressEqual rt address config.contract
  require (same = true ∧ params[1]?.any (strictEquals · (.str "latest")) = true) tampered
  refute (describeCodeProblem rt (judgeRuntimeCode rt value pinned) config.contract pinned)
    fun problem => evmUnknown ("evm-htlc: " ++ problem)

/-- The chain is the pinned one, and the contract the configured one. -/
def checkChain (rt : EvmRuntime) (input : EvmEvidenceInput) (captured : EvmRailConfig) :
    Except EvmStop Unit := do
  let capture := input.capture.toCapture
  let config := input.config
  let bound ← (bindEvmExchange rt.toRuntime capture
    (findByMethod capture.exchanges "eth_chainId") "eth_chainId").mapError evmUnknown
  let value ← (resultOf bound.outcome "rpc rejected eth_chainId").mapError evmUnknown
  let chainId ← need (parseHexNumber rt value)
    (evmUnknown "evm-htlc: malformed eth_chainId result (not hex)")
  require (chainId = config.pin.chainId)
    (evmUnknown ("captured chain id " ++ rt.intText chainId ++ " does not match pin \"" ++
      config.pin.name ++ "\" (expected " ++ rt.intText config.pin.chainId ++ ")"))
  let contract ← need (addressShape rt input.capture.contract)
    (evmUnknown "evm-htlc: capture index contract is not a valid address")
  let same ← addressEqual rt contract config.contract
  require (same = true) (evmUnknown "capture index contract does not match config.contract")
  match config.contractCodeHash with
  | none => return ()
  | some pinned => codePin rt capture captured config pinned

/-! ## The lock -/

/-- The call asks this contract for this lock at this block. -/
def validateLocksCallRequest (rt : EvmRuntime) (request : ParsedRequest) (config : EvmRailConfig)
    (hashLock finalizedBlockHash : String) : Except EvmStop Unit := do
  let params ← need ((requestParams request).filter (·.length = 2))
    (evmUnknown "evm-htlc: eth_call request is not shaped like a locks() read (tampered)")
  let callObject ← need (params[0]?.filter Json.isContainer)
    (evmUnknown "evm-htlc: eth_call request has no call object (tampered)")
  let otherContract := evmUnknown
    "evm-htlc: eth_call request does not target this deployment's contract (tampered)"
  let target ← need (addressShape rt (callObject.field? "to")) otherContract
  let same ← addressEqual rt target config.contract
  require (same = true) otherContract
  require ((callObject.text? "data").any fun data =>
      toLowerCase data = toLowerCase (rt.encodeLocksCall hashLock))
    (evmUnknown ("evm-htlc: eth_call request does not encode locks(hashLock) for this lock " ++
      "(tampered)"))
  let blockSelector ← need (params[1]?.filter Json.isContainer)
    (evmUnknown "evm-htlc: eth_call request has no block selector (tampered)")
  require ((blockSelector.text? "blockHash").any fun blockHash =>
      BLOCK_HASH_SHAPE blockHash && toLowerCase blockHash = toLowerCase finalizedBlockHash)
    (evmUnknown ("evm-htlc: eth_call request is not pinned to the finalized block (tampered block "
    ++
      "selector)"))

/-- The lock, as it is at the finalized block. -/
def readLock (rt : EvmRuntime) (input : EvmEvidenceInput) (finalized : FinalizedBlock) :
    Except EvmStop LocksResult := do
  let capture := input.capture.toCapture
  let bound ← (bindEvmExchange rt.toRuntime capture
    (findByMethod capture.exchanges "eth_call") "eth_call").mapError evmUnknown
  let value ← (resultOf bound.outcome "rpc rejected eth_call locks(hashLock)").mapError evmUnknown
  validateLocksCallRequest rt bound.request input.config capture.ref finalized.hash
  need (rt.decodeLocksResult value) (evmUnknown "malformed locks() result")

/-- Each check of a field, in turn. The first that fails is the answer. -/
def firstFieldMismatch (rt : EvmRuntime) (lock : LocksResult) (payee payer token : String)
    (terms : LockTerms) : Except String (Option String) := do
  let samePayee ← rt.isAddressEqual lock.payee payee
  if samePayee = false then
    return some "evm-htlc: on-chain payee differs from the payee account line"
  let sameToken ← rt.isAddressEqual lock.token token
  if sameToken = false then
    return some "evm-htlc: on-chain token differs from the configured asset"
  let amount ← need (rt.bigInt terms.amount) ("Cannot convert " ++ terms.amount ++ " to a BigInt")
  if lock.amount ≠ amount then return some "evm-htlc: on-chain amount differs from terms"
  if lock.claimByMs ≠ terms.claimByMs then
    return some "evm-htlc: on-chain claimByMs differs from terms"
  if lock.refundAfterMs ≠ terms.refundAfterMs then
    return some "evm-htlc: on-chain refundAfterMs differs from terms"
  let samePayer ← rt.isAddressEqual lock.payer payer
  if samePayer = false then
    return some "evm-htlc: on-chain payer differs from the payer account line"
  return none

/-- What the lock evidence says, and the observation that goes with it. -/
structure EvmVerdict where
  railVerified : Option Bool
  reason : String
  rail : Option RailStatus
deriving DecidableEq, Repr

/-- The branch of a lock that was claimed or refunded: no observation unless every field is
checked. -/
def judgeSettled (rt : EvmRuntime) (input : EvmEvidenceInput) (lock : LocksResult)
    (label : RailStatus) : Except String EvmVerdict := do
  let baseReason := "evm-htlc: locks(hashLock) is " ++ label.text ++ " on-chain, not locked"
  match input.accounts.payee with
  | none => return ⟨none, baseReason ++ " (payee has no account line to confirm it)", none⟩
  | some payee =>
    match input.accounts.payer with
    | none => return ⟨none, baseReason ++ " (payer has no proven account line, P7)", none⟩
    | some payer =>
      match assetToken input.config input.terms.asset with
      | none => return ⟨none, "asset \"" ++ input.terms.asset ++
          "\" has no configured token address", none⟩
      | some token =>
        match ← firstFieldMismatch rt lock payee payer token input.terms with
        | some mismatch => return ⟨none, "evm-htlc: locks(hashLock) reports " ++ label.text ++
            ", but its other fields do not match this swap's terms/accounts (" ++ mismatch ++
            ") — refusing to trust it as this swap's own lock", none⟩
        | none => return ⟨some false, baseReason, some label⟩

/-- The branch of a lock that stands: the observation is made before any field is checked. -/
def judgeStanding (rt : EvmRuntime) (input : EvmEvidenceInput) (lock : LocksResult) :
    Except String EvmVerdict := do
  match input.accounts.payee with
  | none => return ⟨none, "payee has no account line", some .locked⟩
  | some payee =>
    match input.accounts.payer with
    | none => return ⟨none, "evm-htlc: payer has no proven account line (P7)", some .locked⟩
    | some payer =>
      match assetToken input.config input.terms.asset with
      | none => return ⟨none, "asset \"" ++ input.terms.asset ++
          "\" has no configured token address", some .locked⟩
      | some token =>
        match ← firstFieldMismatch rt lock payee payer token input.terms with
        | some mismatch => return ⟨some false, mismatch, some .locked⟩
        | none => return ⟨some true, "evm-htlc: locked and on-chain state matches terms",
            some .locked⟩

/-- `OnChainStatus` counts from 0: none, locked, claimed, refunded. -/
def judgeLock (rt : EvmRuntime) (input : EvmEvidenceInput) (lock : LocksResult) :
    Except String EvmVerdict :=
  if lock.status = 0 then .ok ⟨none, "no lock at the finalized view", none⟩
  else if lock.status = 1 then judgeStanding rt input lock
  else if lock.status = 2 then judgeSettled rt input lock .claimed
  else if lock.status = 3 then judgeSettled rt input lock .refunded
  else .ok ⟨none, "malformed locks() result (unknown status)", none⟩

/-! ## The reader -/

def evmEvidenceBase (input : EvmEvidenceInput) : LockEvidence :=
  { rail := EVM_RAIL_ID
    ref := input.capture.ref
    terms := input.terms
    railVerified := none
    checkedAtMs := input.capture.checkedAtMs
    finalizedRef := none
    endpoint := some input.config.endpoint
    reason := none
    raw := some (input.capture.exchanges.map (·.responseSha256)) }

/-- A refusal attaches no observation, and an exception leaves the reader. -/
def evmStop (base : LockEvidence) : EvmStop → Except String EvmEvidenceResult
  | .refused refusal =>
    .ok ⟨{ base with railVerified := refusal.railVerified, reason := some refusal.reason }, none⟩
  | .threw message => .error message

def evmAttach (base : LockEvidence) (verdict : EvmVerdict) : EvmEvidenceResult :=
  ⟨{ base with railVerified := verdict.railVerified, reason := some verdict.reason },
    verdict.rail.map (railObservation base)⟩

def evmEvidence (rt : EvmRuntime) (input : EvmEvidenceInput) : Except String EvmEvidenceResult :=
  let base := evmEvidenceBase input
  match admitEvmCapture rt input with
  | .error stop => evmStop base stop
  | .ok captured =>
    let base := { base with endpoint := some captured.endpoint }
    match checkChain rt input captured with
    | .error stop => evmStop base stop
    | .ok () =>
      match resolveFinalizedBlock rt captured input.capture.toCapture with
      | .error reason => evmStop base (evmUnknown reason)
      | .ok finalized =>
        match readLock rt input finalized with
        | .error stop => evmStop base stop
        | .ok lock =>
          let base := { base with
            finalizedRef := some (captured.pin.name ++ ":" ++ finalized.finalityLabel ++ ":" ++
              rt.intText finalized.number ++ ":" ++ finalized.hash) }
          (judgeLock rt input lock).map (evmAttach base)

end SwapDesk.Rails.Evm
