import SwapDesk.Rails.Capture
import SwapDesk.Rails.HexBytes
import SwapDesk.Rails.NearConfig

/-!
# SwapDesk — evidence from a captured NEAR lock

`nearEvidence` of `src/rails/near-evidence.ts`: turns the captured reads of one
lock into evidence for a leg. The reads stand at fixed positions of the capture:
0 `status`, 1 `block`, 2 `get_lock`, 3 `view_account`, 4 `view_access_key_list`,
5 `storage_balance_of`; a `view_access_key` read may stand anywhere.

The source is one function that returns early. Its blocks are `admitCapture`,
`readFinalView` and `judgeLock`, each of which adds to what a refusal carries.

Main result: `nearEvidence_sound` in `SwapDesk.Rails.NearSoundness`.
-/

namespace SwapDesk.Rails

open Check Desk
open CharClass (isBase58 isDigit)

/-- `/^[1-9A-HJ-NP-Za-km-z]{20,44}$/` -/
def BLOCK_HASH_SHAPE (value : String) : Bool :=
  20 ≤ value.toList.length && value.toList.length ≤ 44 && value.toList.all isBase58

/-- `/^[0-9]+$/` -/
def isDigits (value : String) : Bool := !value.toList.isEmpty && value.toList.all isDigit

/-! ## Input and output -/

structure NearCapture extends Capture where
  pin : String
  caip2 : String
  endpoint : String
  /-- The configuration the capture was taken under, as it stands in the file. -/
  config : Option Json
  /-- Set when the capture did not run to completion. -/
  error : Option String

structure NearAccounts where
  payee : Option String
  payer : Option String
  payeeKey : Option String
  payerKey : Option String
deriving DecidableEq, Repr

inductive KeyControl where
  | required
  | flow
deriving DecidableEq, Repr

structure NearEvidenceInput where
  terms : LockTerms
  config : NearRailConfig
  accounts : NearAccounts
  capture : NearCapture
  keyControl : KeyControl

structure NearEvidenceResult where
  lock : LockEvidence
  rail : Option RailObservation
deriving DecidableEq, Repr

/-- Why no observation is made. Nothing is known of the lock, or it is known to differ. -/
inductive Refusal where
  | unknown (reason : String)
  | differs (reason : String)
deriving DecidableEq, Repr

def Refusal.railVerified : Refusal → Option Bool
  | .unknown _ => none
  | .differs _ => some false

def Refusal.reason : Refusal → String
  | .unknown reason => reason
  | .differs reason => reason

def nearLockRefInvalid (terms : LockTerms) (ref : String) : Bool :=
  if terms.lock ≠ "hash" then true
  else
    match parseNearRef ref with
    | none => true
    | some parsed => parsed.hashLock ≠ terms.statement

/-! ## Requests -/

def requestParamsObject (request : ParsedRequest) : Option Json :=
  request.params.filter Json.isObject

/-- The arguments a `call_function` request passes. -/
def decodeCallArgs (rt : Runtime) (params : Json) : Option Json :=
  (params.text? "args_base64").bind fun argsBase64 =>
    (rt.jsonParse (rt.base64Text argsBase64)).filter Json.isObject

/-- A query of this kind, of this account, at this block. -/
def targets (params : Json) (requestType accountId blockHash : String) : Bool :=
  params.text? "request_type" = some requestType && params.text? "account_id" = some accountId &&
    params.text? "block_id" = some blockHash

/-- The result of an exchange, unless the endpoint rejected the call. -/
def resultOf (outcome : EnvelopeOutcome) (reason : String) : Except String (Option Json) :=
  match outcome with
  | .result value => .ok value
  | .error => .error reason

theorem resultOf_eq_ok {outcome : EnvelopeOutcome} {reason : String} {value : Option Json} :
    resultOf outcome reason = .ok value ↔ outcome = .result value := by
  cases outcome <;> simp [resultOf]

/-! ## Wire decoding -/

structure NearStatus where
  chainId : String
  protocolVersion : Int
deriving DecidableEq, Repr

def decodeStatusResult (value : Option Json) : Option NearStatus := do
  let v ← value.filter Json.isContainer
  let chainId ← nonEmptyText? v "chain_id"
  let protocolVersion ← (v.int? "protocol_version").filter (0 < ·)
  return ⟨chainId, protocolVersion⟩

structure NearBlock where
  height : Int
  hash : String
  timestampNs : String
deriving DecidableEq, Repr

def decodeBlockResult (value : Option Json) : Option NearBlock := do
  let v ← value.filter Json.isContainer
  let header ← v.container? "header"
  let height ← (header.int? "height").filter (0 ≤ ·)
  let hash ← (header.text? "hash").filter BLOCK_HASH_SHAPE
  let timestampNs ← (header.text? "timestamp_nanosec").filter isDigits
  return ⟨height, hash, timestampNs⟩

/-- What a view call returned, or the panic it reports inside a successful response. -/
inductive CallFunctionResult where
  | text (resultText : String)
  | panicked (error : String)
deriving DecidableEq, Repr

def decodeCallFunctionResult (rt : Runtime) (value : Option Json) : Option CallFunctionResult :=
  match value.filter Json.isContainer with
  | none => none
  | some v =>
    match v.text? "error" with
    | some error => some (.panicked error)
    | none => do
      let items ← v.items? "result"
      let resultText ← rt.decodeUtf8 (rt.uint8Array items)
      return .text resultText

/-- What the text of an `Option` says: the JSON literal `null` is a genuine absence. -/
inductive Parsed (α : Type) where
  | none
  | malformed
  | ok (value : α)

def parseOption (rt : Runtime) {α : Type} (read : Json → Option α) (text : String) : Parsed α :=
  match rt.jsonParse text with
  | .none => .malformed
  | some .null => .none
  | some v =>
    match read v with
    | .none => .malformed
    | some value => .ok value

inductive NearLockStatus where
  | locked
  | claiming
  | claimed
  | refunding
  | refunded
deriving DecidableEq, Repr

def NearLockStatus.text : NearLockStatus → String
  | .locked => "Locked"
  | .claiming => "Claiming"
  | .claimed => "Claimed"
  | .refunding => "Refunding"
  | .refunded => "Refunded"

def NearLockStatus.ofText? : String → Option NearLockStatus
  | "Locked" => some .locked
  | "Claiming" => some .claiming
  | "Claimed" => some .claimed
  | "Refunding" => some .refunding
  | "Refunded" => some .refunded
  | _ => none

structure NearLockView where
  status : NearLockStatus
  payer : String
  payee : String
  token : String
  amount : String
  claimByMs : JsonNum
  refundAfterMs : JsonNum
  preimage : Option String
deriving DecidableEq, Repr

def readLockView (rt : Runtime) (v : Json) : Option NearLockView := do
  let status ← (v.text? "status").bind NearLockStatus.ofText?
  let payer ← v.text? "payer"
  let payee ← v.text? "payee"
  let token ← v.text? "token"
  let amount ← v.text? "amount"
  let claimByMs ← (v.text? "claim_by_ms").bind rt.number
  let refundAfterMs ← (v.text? "refund_after_ms").bind rt.number
  return ⟨status, payer, payee, token, amount, claimByMs, refundAfterMs,
    (v.text? "preimage").map fun preimage => "0x" ++ preimage⟩

def parseLockView (rt : Runtime) (text : String) : Parsed NearLockView :=
  parseOption rt (readLockView rt) text

structure StorageBalance where
  total : String
  available : String
deriving DecidableEq, Repr

def readStorageBalance (v : Json) : Option StorageBalance := do
  let total ← v.text? "total"
  let available ← v.text? "available"
  return ⟨total, available⟩

def parseStorageBalance (rt : Runtime) (text : String) : Parsed StorageBalance :=
  parseOption rt readStorageBalance text

def amountsEqual (rt : Runtime) (onChain expected : String) : Bool :=
  match rt.bigInt onChain, rt.bigInt expected with
  | some a, some b => a = b
  | _, _ => false

theorem amountsEqual_iff {rt : Runtime} {a b : String} :
    amountsEqual rt a b = true ↔ ∃ n, rt.bigInt a = some n ∧ rt.bigInt b = some n := by
  unfold amountsEqual
  split
  · rename_i m n hm hn
    rw [hm, hn, decide_eq_true_eq]
    constructor
    · rintro rfl
      exact ⟨m, rfl, rfl⟩
    · rintro ⟨k, hk, hk'⟩
      exact (Option.some.inj hk).trans (Option.some.inj hk').symm
  · rename_i hNot
    constructor
    · intro h
      cases h
    · rintro ⟨n, ha, hb⟩
      exact (hNot n n ha hb).elim

def finalizedRefFor (rt : Runtime) (pinName : String) (height : Int) (blockHash : String) :
    String :=
  pinName ++ ":final:" ++ rt.intText height ++ ":" ++ blockHash

def preimageOpensHashLock (rt : Runtime) (preimageHex0x hashLockHex : String) : Bool :=
  match hexToBytes (sliceFrom preimageHex0x 2), hexToBytes hashLockHex with
  | some preimage, some hash => rt.sha256 preimage = hash
  | _, _ => false

def firstFieldMismatch (rt : Runtime) (refPayer : String) (onChain : NearLockView)
    (payee : String) (payer : Option String) (token : String) (terms : LockTerms) :
    Option String :=
  if onChain.payer ≠ refPayer then
    some "near-htlc: on-chain payer differs from the payer named by the ref"
  else if onChain.payee ≠ payee then
    some "near-htlc: on-chain payee differs from the payee account line"
  else if onChain.token ≠ token then
    some "near-htlc: on-chain token differs from the configured USDC asset"
  else if !amountsEqual rt onChain.amount terms.amount then
    some "near-htlc: on-chain amount differs from terms"
  else if onChain.claimByMs ≠ .int terms.claimByMs then
    some "near-htlc: on-chain claimByMs differs from terms"
  else if onChain.refundAfterMs ≠ .int terms.refundAfterMs then
    some "near-htlc: on-chain refundAfterMs differs from terms"
  else if payer.any (onChain.payer ≠ ·) then
    some "near-htlc: on-chain payer differs from the payer account line"
  else none

/-! ## The contract and the account keys -/

/-- The contract runs the pinned code at the block. -/
def contractCodeReason (rt : Runtime) (capture : Capture) (config : NearRailConfig)
    (block : NearBlock) : Except String Unit := do
  let bound ← bindExchange rt capture (exchangeAt capture.exchanges 3 "query") "view_account"
  require ((requestParamsObject bound.request).any
      (targets · "view_account" config.contract block.hash))
    ("near-htlc: the view_account read does not target the contract at the finalized block " ++
      "(tampered)")
  let account ← resultOf bound.outcome "rpc rejected view_account"
  let a ← need (account.filter Json.isContainer) "near-htlc: malformed view_account result"
  let codeHash ← need ((nonEmptyText? a "code_hash").filter fun _ =>
      a.text? "block_hash" = some block.hash)
    ("near-htlc: malformed view_account result " ++
      "(code_hash missing or not at the finalized block)")
  require (some codeHash = config.htlcCodeHash)
    ("near-htlc: contract " ++ quotedPinTextOrPlaceholder config.contract ++ " code_hash \"" ++
      codeHash ++ "\" is not the pinned htlcCodeHash " ++ shortPinnedValue config.htlcCodeHash ++
      " (H8)")

/-- The contract has no access key at the block. -/
def contractKeysReason (rt : Runtime) (capture : Capture) (config : NearRailConfig)
    (block : NearBlock) : Except String Unit := do
  let bound ← bindExchange rt capture (exchangeAt capture.exchanges 4 "query")
    "view_access_key_list"
  require ((requestParamsObject bound.request).any
      (targets · "view_access_key_list" config.contract block.hash))
    ("near-htlc: the view_access_key_list read does not target the contract at the finalized " ++
      "block (tampered)")
  let keyList ← resultOf bound.outcome "rpc rejected view_access_key_list"
  let k ← need (keyList.filter Json.isContainer)
    "near-htlc: malformed view_access_key_list result"
  let keys ← need ((k.items? "keys").filter fun _ => k.text? "block_hash" = some block.hash)
    ("near-htlc: malformed view_access_key_list result " ++
      "(keys missing or not at the finalized block)")
  require (keys.length = 0)
    ("near-htlc: contract " ++ quotedPinTextOrPlaceholder config.contract ++ " still holds " ++
      rt.intText keys.length ++ " access key(s) -- not the locked deployment (H8)")

def contractPinReason (rt : Runtime) (capture : Capture) (config : NearRailConfig)
    (block : NearBlock) : Except String Unit := do
  contractCodeReason rt capture config block
  contractKeysReason rt capture config block

/-- A bound `view_access_key` read of this account and key. -/
def keyReadOf (rt : Runtime) (capture : Capture) (role account key : String)
    (candidate : CaptureIndexExchange) : Option (Json × EnvelopeOutcome) :=
  if candidate.method ≠ "query" then none
  else
    match bindExchange rt capture (some candidate) ("view_access_key(" ++ role ++ ")") with
    | .error _ => none
    | .ok bound =>
      match requestParamsObject bound.request with
      | none => none
      | some params =>
        if params.text? "request_type" ≠ some "view_access_key" ∨
            params.text? "account_id" ≠ some account ∨ params.text? "public_key" ≠ some key then
          none
        else some (params, bound.outcome)

/-- What that read must say. -/
def keyReadReason (role account key : String) (block : NearBlock) (params : Json)
    (outcome : EnvelopeOutcome) : Except String Unit := do
  let notHeld := "near-htlc: key " ++ key ++ " is not an access key of the " ++ role ++
    " account \"" ++ account ++ "\" (P7)"
  require (params.text? "block_id" = some block.hash)
    ("near-htlc: the " ++ role ++ "'s view_access_key read is not at the finalized block " ++
      "(tampered, P7)")
  let value ← resultOf outcome notHeld
  let result ← need (value.filter Json.isContainer)
    ("near-htlc: malformed view_access_key result for the " ++ role ++ " (P7)")
  require (result.text? "error" = none) notHeld
  require (result.text? "block_hash" = some block.hash)
    ("near-htlc: the " ++ role ++ "'s view_access_key result is not at the finalized block (P7)")
  require (result.text? "permission" = some "FullAccess")
    ("near-htlc: key " ++ key ++ " is not a FullAccess key of the " ++ role ++ " account \"" ++
      account ++ "\" (P7)")

/-- The first read of the key decides. -/
def accountKeyScan (rt : Runtime) (capture : Capture) (role account key : String)
    (block : NearBlock) : List CaptureIndexExchange → Except String Unit
  | [] => .error ("missing/tampered capture: no view_access_key read for the " ++ role ++
      " account and key (P7)")
  | candidate :: rest =>
    match keyReadOf rt capture role account key candidate with
    | none => accountKeyScan rt capture role account key block rest
    | some (params, outcome) => keyReadReason role account key block params outcome

/-- Nothing is wanted of a party with neither an account nor a key. -/
def partyKeyReason (rt : Runtime) (capture : Capture) (block : NearBlock) (role : String)
    (account key : Option String) : Except String Unit :=
  match key, account with
  | none, none => .ok ()
  | none, some _ =>
    .error ("near-htlc: the " ++ role ++ "'s account line carries no key to check (P7)")
  | some _, none =>
    .error ("near-htlc: the " ++ role ++ "'s account line carries a key but no account (P7)")
  | some key, some account => accountKeyScan rt capture role account key block capture.exchanges

def accountKeyReason (rt : Runtime) (capture : Capture) (accounts : NearAccounts)
    (block : NearBlock) : Except String Unit := do
  partyKeyReason rt capture block "payee" accounts.payee accounts.payeeKey
  partyKeyReason rt capture block "payer" accounts.payer accounts.payerKey

/-! ## The reader -/

/-- Checks that need no exchange. Returns the capture's own configuration. -/
def admitCapture (input : NearEvidenceInput) : Except Refusal NearRailConfig := do
  let capture := input.capture
  let config := input.config
  refute capture.error fun error =>
    .unknown ("near-htlc: chain read did not complete: " ++ error)
  require (nearLockRefInvalid input.terms capture.ref = false)
    (.differs ("near-htlc: ref/lock mismatch (ref must equal terms.statement and lock must be " ++
      "\"hash\")"))
  require (input.terms.asset = NEAR_ASSET_ID)
    (.differs ("near-htlc: leg asset \"" ++ input.terms.asset ++
      "\" does not match this rail's own asset \"" ++ NEAR_ASSET_ID ++ "\" (K3)"))
  let captured ← (checkNearRailConfig capture.config).mapError fun reason =>
    .unknown ("near-htlc: capture's own config is invalid (A4/D3): " ++ reason)
  require (captured.pin.chainId = config.pin.chainId ∧ captured.pin.name = config.pin.name ∧
      captured.contract = config.contract ∧ captured.assets.USDC = config.assets.USDC ∧
      captured.htlcCodeHash = config.htlcCodeHash)
    (.unknown "near-htlc: capture was taken under a different rail config (D3)")
  require (capture.pin = captured.pin.name ∧ capture.caip2 = captured.pin.caip2 ∧
      capture.endpoint = captured.endpoint)
    (.unknown ("near-htlc: capture's own top-level pin/caip2/endpoint fields disagree with its " ++
      "embedded config (E6, tampered index)"))
  return captured

def checkStatus (rt : Runtime) (capture : Capture) (captured : NearRailConfig) :
    Except String Unit := do
  let bound ← bindExchange rt capture (exchangeAt capture.exchanges 0 "status") "status"
  let value ← resultOf bound.outcome "rpc rejected status"
  let status ← need (decodeStatusResult value) "near-htlc: malformed status result"
  require (status.chainId = captured.pin.chainId)
    ("captured chain \"" ++ status.chainId ++ "\" does not match pin " ++
      quotedPinTextOrPlaceholder captured.pin.name ++ " (expected " ++
      quotedPinTextOrPlaceholder captured.pin.chainId ++ ")")

def readBlock (rt : Runtime) (capture : Capture) : Except String NearBlock := do
  let bound ← bindExchange rt capture (exchangeAt capture.exchanges 1 "block") "block"
  require ((requestParamsObject bound.request).any (·.text? "finality" = some "final"))
    ("near-htlc: the block read does not request finality \"final\" (tampered block selector)")
  let value ← resultOf bound.outcome "rpc rejected block(final)"
  need (decodeBlockResult value) "near-htlc: malformed block result"

/-- The request is `get_lock` of the ref's own pair at the block, with exactly these two
arguments. -/
def targetsLock (rt : Runtime) (captured : NearRailConfig) (block : NearBlock) (ref : NearRef)
    (params : Json) : Bool :=
  targets params "call_function" captured.contract block.hash &&
    params.text? "method_name" = some "get_lock" &&
    (decodeCallArgs rt params).any fun args =>
      args.fieldNames.length = 2 && args.text? "hash_lock" = some (sliceFrom ref.hashLock 2) &&
        args.text? "payer" = some ref.payer

def readLock (rt : Runtime) (capture : Capture) (captured : NearRailConfig) (block : NearBlock)
    (ref : NearRef) : Except String (Option NearLockView) := do
  let bound ← bindExchange rt capture (exchangeAt capture.exchanges 2 "query") "get_lock"
  require ((requestParamsObject bound.request).any (targetsLock rt captured block ref))
    "near-htlc: the get_lock read does not target this lock at the finalized block (tampered)"
  let value ← resultOf bound.outcome "rpc rejected get_lock"
  let call ← need (decodeCallFunctionResult rt value) "near-htlc: malformed get_lock result"
  match call with
  | .panicked error => .error ("near-htlc: get_lock panicked: " ++ error)
  | .text resultText =>
    match parseLockView rt resultText with
    | .malformed => .error "near-htlc: malformed get_lock result (unrecognised LockView shape)"
    | .none => .ok none
    | .ok view => .ok (some view)

/-- What the first three exchanges say; `lock` is missing when the contract has none. -/
structure FinalView where
  block : NearBlock
  ref : NearRef
  lock : Option NearLockView

def readFinalView (rt : Runtime) (capture : Capture) (captured : NearRailConfig) :
    Except Refusal FinalView := do
  (checkStatus rt capture captured).mapError .unknown
  let block ← (readBlock rt capture).mapError .unknown
  let ref ← need (parseNearRef capture.ref)
    (.differs "near-htlc: ref is not 0x<hash lock>:<payer>")
  let lock ← (readLock rt capture captured block ref).mapError .unknown
  return ⟨block, ref, lock⟩

/-- The request is `storage_balance_of` of the payee on the token, at the block. -/
def targetsStorage (rt : Runtime) (token payee : String) (block : NearBlock) (params : Json) :
    Bool :=
  targets params "call_function" token block.hash &&
    params.text? "method_name" = some "storage_balance_of" &&
    (decodeCallArgs rt params).any fun args => args.text? "account_id" = some payee

/-- The payout can land: the payee is registered on the token. -/
def payoutReason (rt : Runtime) (capture : Capture) (token payee : String) (block : NearBlock) :
    Except Refusal Unit := do
  let bound ← (bindExchange rt capture (exchangeAt capture.exchanges 5 "query")
    "storage_balance_of").mapError .unknown
  require ((requestParamsObject bound.request).any (targetsStorage rt token payee block))
    (.unknown ("near-htlc: the storage_balance_of read does not target this leg's payee/token " ++
      "at the finalized block (tampered)"))
  let value ← (resultOf bound.outcome "rpc rejected storage_balance_of").mapError .unknown
  let call ← need (decodeCallFunctionResult rt value)
    (.unknown "near-htlc: malformed storage_balance_of result")
  match call with
  | .panicked error => .error (.unknown ("near-htlc: storage_balance_of panicked: " ++ error))
  | .text resultText =>
    match parseStorageBalance rt resultText with
    | .malformed => .error (.unknown "near-htlc: malformed storage_balance_of result")
    | .none => .error (.differs ("near-htlc: payee \"" ++ payee ++
        "\" is not storage-registered on the token — the payout could never land"))
    | .ok _ => .ok ()

/-- An observation, and what the lock evidence says beside it. -/
structure Verdict where
  status : RailStatus
  railVerified : Bool
  reason : String
deriving DecidableEq, Repr

def judgeLocked (rt : Runtime) (input : NearEvidenceInput) (view : FinalView)
    (onChain : NearLockView) (payee : String) (mismatch : Option String) :
    Except Refusal Verdict := do
  refute mismatch .differs
  require (¬ onChain.preimage.any
      (preimageOpensHashLock rt · (sliceFrom view.ref.hashLock 2)))
    (.unknown "near-htlc: preimage revealed (F4): payer refund refused, payee may claim")
  payoutReason rt input.capture.toCapture input.config.assets.USDC payee view.block
  return ⟨.locked, true,
    "near-htlc: locked and on-chain state matches terms (payee is storage-registered)"⟩

/-- The lock was claimed or refunded. -/
def judgeSettled (input : NearEvidenceInput) (onChain : NearLockView)
    (mismatch : Option String) : Except Refusal Verdict := do
  let label : RailStatus := if onChain.status = .claimed then .claimed else .refunded
  let baseReason := "near-htlc: " ++ input.capture.ref ++ " is " ++ label.text ++
    " on-chain, not locked"
  refute mismatch fun mismatch => .unknown (baseReason ++
    " — and its other fields do not match this swap's terms/accounts (" ++ mismatch ++
    ") — refusing to trust it as this swap's own lock")
  return ⟨label, false, baseReason⟩

def keyControlReason (rt : Runtime) (input : NearEvidenceInput) (block : NearBlock) :
    Except String Unit :=
  if input.keyControl = .flow then .ok ()
  else accountKeyReason rt input.capture.toCapture input.accounts block

def judgeLock (rt : Runtime) (input : NearEvidenceInput) (captured : NearRailConfig)
    (view : FinalView) : Except Refusal Verdict := do
  let onChain ← need view.lock (.unknown "near-htlc: no lock at the finalized view")
  (contractPinReason rt input.capture.toCapture captured view.block).mapError .unknown
  (keyControlReason rt input view.block).mapError .unknown
  -- a transitional state of the contract is no outcome
  require (onChain.status ≠ .claiming ∧ onChain.status ≠ .refunding)
    (.unknown ("near-htlc: lock is " ++ onChain.status.text ++
      " at the finalized view — not yet a final on-chain state (D-N10)"))
  let payee ← need input.accounts.payee (.unknown "near-htlc: payee has no account line")
  let payer ← need input.accounts.payer
    (.unknown "near-htlc: payer has no proven account line (P7)")
  let mismatch := firstFieldMismatch rt view.ref.payer onChain payee (some payer)
    input.config.assets.USDC input.terms
  if onChain.status = .locked then judgeLocked rt input view onChain payee mismatch
  else judgeSettled input onChain mismatch

def evidenceBase (input : NearEvidenceInput) : LockEvidence :=
  { rail := NEAR_RAIL_ID
    ref := input.capture.ref
    terms := input.terms
    railVerified := none
    checkedAtMs := input.capture.checkedAtMs
    finalizedRef := none
    endpoint := some input.config.endpoint
    reason := none
    raw := some (input.capture.exchanges.map (·.responseSha256)) }

/-- A refusal attaches no observation. -/
def refuse (base : LockEvidence) (refusal : Refusal) : NearEvidenceResult :=
  ⟨{ base with railVerified := refusal.railVerified, reason := some refusal.reason }, none⟩

/-- `railBinding`: an observation names exactly what it was checked against. -/
def railObservation (base : LockEvidence) (status : RailStatus) : RailObservation :=
  { status := status
    final := true
    checkedAtMs := base.checkedAtMs
    finalizedRef := base.finalizedRef
    transitionAtMs := none
    rail := some base.rail
    ref := some base.ref
    contract := some base.terms.contract
    terms := some base.terms }

def attach (base : LockEvidence) (verdict : Verdict) : NearEvidenceResult :=
  ⟨{ base with railVerified := some verdict.railVerified, reason := some verdict.reason },
    some (railObservation base verdict.status)⟩

def nearEvidence (rt : Runtime) (input : NearEvidenceInput) : NearEvidenceResult :=
  let base := evidenceBase input
  match admitCapture input with
  | .error refusal => refuse base refusal
  | .ok captured =>
    let base := { base with endpoint := some captured.endpoint }
    match readFinalView rt input.capture.toCapture captured with
    | .error refusal => refuse base refusal
    | .ok view =>
      let base := { base with
        finalizedRef :=
          some (finalizedRefFor rt captured.pin.name view.block.height view.block.hash) }
      match judgeLock rt input captured view with
      | .error refusal => refuse base refusal
      | .ok verdict => attach base verdict

/-- Captures are kept under the hash lock and the leg's contract, so two legs that share
a hash lock do not share a capture. -/
def nearCaptureKey (hashLock legContract : String) : String := hashLock ++ ":" ++ legContract

end SwapDesk.Rails
