import SwapDesk.Rails.BtcConfig

/-!
# SwapDesk — evidence from a captured Bitcoin outpoint

`btcEvidence` of `src/rails/btc-evidence.ts`: turns the captured reads of one funding
output into evidence for a leg. The reads stand at fixed positions of the capture:
0 `getblockchaininfo`, 1 `getblockhash` of height 0, 2 `getrawtransaction`,
3 `gettxout`, 4 `getblockheader`; for an output that is spent, a pair of
`getblockhash` and `getblock` for each height of the scan follows from 5 on.

The source is one function that returns early. Its blocks are `admitBtcCapture`,
`readTip`, `readFunding`, `observeOutput` and `judgeFunding`, each of which adds to
what a refusal carries.

Main result: `btcEvidence_supported_iff` in `SwapDesk.Rails.BtcSoundness`.
-/

namespace SwapDesk.Rails

open Check Desk
open CharClass (isDigit isHex isHexLower)

/-- `/^[0-9a-fA-F]{64}$/` -/
def HEX64_ANY_CASE (value : String) : Bool :=
  value.toList.length = 64 && value.toList.all isHex

/-- `/^0x[0-9a-f]{64}$/` -/
def HASH_LOCK_SHAPE (value : String) : Bool := NEAR_HASH_LOCK_SHAPE value

/-! ## Input and output -/

/-- The index has `pin`, `caip2` and `endpoint` of its own too, which this reader leaves alone. -/
structure BtcCapture extends Capture where
  /-- The configuration the capture was taken under, as it stands in the file. -/
  config : Option Json
  /-- Set when the capture did not run to completion. -/
  error : Option String

structure BtcAccounts where
  payeePubkey : Option String
  payerPubkey : Option String
deriving DecidableEq, Repr

structure BtcEvidenceInput where
  terms : LockTerms
  config : BtcRailConfig
  accounts : BtcAccounts
  capture : BtcCapture

structure BtcEvidenceResult where
  lock : LockEvidence
  rail : Option RailObservation
deriving DecidableEq, Repr

structure Outpoint where
  txid : String
  vout : Nat
deriving DecidableEq, Repr

/-- `/^[0-9a-f]{64}:[0-9]+$/`, in its two parts. -/
def parseRef (ref : String) : Option Outpoint :=
  let txid := String.ofList (ref.toList.take 64)
  let vout := ref.toList.drop 65
  if GENESIS_HASH_SHAPE txid && ref.toList[64]? = some ':' && !vout.isEmpty && vout.all isDigit then
    some ⟨txid, decimal vout⟩
  else none

def btcLockRefInvalid (terms : LockTerms) (ref : String) : Bool :=
  terms.lock ≠ "hash" || (parseRef ref).isNone || !HASH_LOCK_SHAPE terms.statement

def networkParamsFor (network : String) : BtcNetwork :=
  if network = "regtest" then BTC_REGTEST_NETWORK else BTC_SIGNET_NETWORK

/-! ## Requests -/

abbrev bindBtcExchange := bindExchangeTo "ref/checkedAtMs"

/-- `===`, on values that are no objects. -/
def strictEquals : Json → Json → Bool
  | .null, .null => true
  | .bool a, .bool b => a = b
  | .num a, .num b => a = b
  | .str a, .str b => a = b
  | _, _ => false

def requestParams (request : ParsedRequest) : Option (List Json) :=
  match request.params with
  | some (.arr items) => some items
  | _ => none

/-- The request has exactly these parameters. -/
def paramsAre (request : ParsedRequest) (expected : List Json) : Bool :=
  (requestParams request).any fun params =>
    params.length = expected.length && (params.zip expected).all fun p => strictEquals p.1 p.2

/-- The first parameter of the request is this one. -/
def firstParamIs (request : ParsedRequest) (expected : Json) : Bool :=
  (requestParams request).any fun params => params.head?.any (strictEquals · expected)

/-! ## Wire decoding -/

structure FundingOutput where
  scriptPubKey : List UInt8
  amountSats : Int
deriving DecidableEq, Repr

def decodeFundingOutput (rt : BtcRuntime) (rawTxResult : Option Json) (vout : Nat) :
    Option FundingOutput := do
  let v ← rawTxResult.filter Json.isContainer
  let hex ← v.text? "hex"
  let bytes ← hexToBytes hex
  let outputs ← rt.transactionFromRaw bytes
  let output ← outputs[vout]?
  let script ← output.script
  let amount ← output.amount
  return ⟨script, amount⟩

def rawTxConfirmations (rawTxResult : Option Json) : Option Int := do
  let v ← rawTxResult.filter Json.isContainer
  (v.int? "confirmations").filter (0 ≤ ·)

def rawTxBlockHash (rawTxResult : Option Json) : Option String := do
  let v ← rawTxResult.filter Json.isContainer
  let hash ← (v.text? "blockhash").filter HEX64_ANY_CASE
  return toLowerCase hash

def blockHeaderHeight (result : Option Json) : Option Int := do
  let v ← result.filter Json.isContainer
  (v.int? "height").filter (0 ≤ ·)

/-- The witness texts of an input that spends the outpoint. -/
def inputWitness (txid : String) (vout : Nat) (input : Json) : Option (List String) := do
  let inTxid ← input.text? "txid"
  let inVout ← input.int? "vout"
  if toLowerCase inTxid = toLowerCase txid ∧ inVout = vout then
    return ((input.items? "txinwitness").getD []).filterMap Json.asText?
  else none

/-- The first input of the block that spends the outpoint. -/
def findSpendWitness (blockResult : Option Json) (txid : String) (vout : Nat) :
    Option (List String) := do
  let block ← blockResult.filter Json.isContainer
  let txs ← block.items? "tx"
  txs.findSome? fun tx =>
    ((tx.items? "vin").getD []).findSome? fun input => inputWitness txid vout input

/-- A witness item that is the preimage of the hash lock. -/
def opensHashLock (rt : Runtime) (hashLockBytes : List UInt8) (item : String) : Bool :=
  HEX64_ANY_CASE item &&
    (hexToBytes item).any fun candidate => rt.sha256 candidate = hashLockBytes

structure ClassifiedSpend where
  label : RailStatus
  preimage : Option String
deriving DecidableEq, Repr

/-- The items are looked at in order, whatever their place. -/
def classifySpend (rt : Runtime) (witness : List String) (hashLockBytes : List UInt8) :
    ClassifiedSpend :=
  match witness.find? (opensHashLock rt hashLockBytes) with
  | some item => ⟨.claimed, (hexToBytes item).map fun candidate => "0x" ++ bytesToHex candidate⟩
  | none => ⟨.refunded, none⟩

def btcFinalizedRefFor (rt : Runtime) (pinName : String) (n height : Int) (blockHash : String) :
    String :=
  pinName ++ ":confirmations-" ++ rt.intText n ++ ":" ++ rt.intText height ++ ":" ++ blockHash

/-! ## The reader -/

structure BtcAdmitted where
  captured : BtcRailConfig
  outpoint : Outpoint
deriving DecidableEq, Repr

/-- Checks that need no exchange. -/
def admitBtcCapture (input : BtcEvidenceInput) : Except Refusal BtcAdmitted := do
  let capture := input.capture
  let config := input.config
  refute capture.error fun error =>
    .unknown ("btc-htlc: chain read did not complete: " ++ error)
  require (btcLockRefInvalid input.terms capture.ref = false)
    (.differs ("btc-htlc: ref/lock mismatch (ref must look like \"<64-hex txid>:<vout>\", lock " ++
      "must be \"hash\", and statement must be a sha256 hash lock)"))
  require (input.terms.asset = assetIdFor config)
    (.differs ("btc-htlc: leg asset \"" ++ input.terms.asset ++
      "\" does not match this rail's own asset " ++
      quotedAssetNameOrPlaceholder (assetIdFor config) ++ " (K3)"))
  let outpoint ← need (parseRef capture.ref) (.unknown "btc-htlc: malformed ref")
  let captured ← (checkBtcRailConfig capture.config).mapError fun reason =>
    .unknown ("btc-htlc: capture's own config is invalid (A4/D3): " ++ reason)
  require (captured.pin.network = config.pin.network ∧
      toLowerCase captured.pin.genesisHash = toLowerCase config.pin.genesisHash ∧
      captured.pin.name = config.pin.name)
    (.unknown "btc-htlc: capture was taken under a different rail config")
  require (config.pin.finality.confirmations ≤ captured.pin.finality.confirmations)
    (.unknown ("btc-htlc: capture's own finality is weaker than the auditor's configured " ++
      "finality (D3)"))
  require (scanWindowFor config ≤ scanWindowFor captured)
    (.unknown ("btc-htlc: capture's own scan window is narrower than the auditor's configured " ++
      "scan window (H4/D3)"))
  return ⟨captured, outpoint⟩

/-- The chain is the pinned one; returns the height of its tip. -/
def readTip (rt : Runtime) (capture : Capture) (config : BtcRailConfig) : Except String Int := do
  let info ← bindBtcExchange rt capture (exchangeAt capture.exchanges 0 "getblockchaininfo")
    "getblockchaininfo"
  let value ← resultOf info.outcome "rpc rejected getblockchaininfo"
  let v ← need (value.filter Json.isContainer) "btc-htlc: malformed getblockchaininfo result"
  let chain ← need (v.text? "chain") "btc-htlc: malformed getblockchaininfo result"
  let tipHeight ← need (v.int? "blocks") "btc-htlc: malformed getblockchaininfo result"
  require (chain = config.pin.network)
    ("captured chain \"" ++ chain ++ "\" does not match pin " ++
      quotedPinTextOrPlaceholder config.pin.name ++ " (expected " ++
      quotedPinTextOrPlaceholder config.pin.network ++ ")")
  let genesis ← bindBtcExchange rt capture (exchangeAt capture.exchanges 1 "getblockhash")
    "getblockhash(0)"
  let value ← resultOf genesis.outcome "rpc rejected getblockhash(0)"
  require (paramsAre genesis.request [.num (.int 0)])
    "btc-htlc: the genesis read does not request height 0 (tampered block selector)"
  require ((value.bind Json.asText?).any fun hash =>
      toLowerCase hash = toLowerCase config.pin.genesisHash)
    ("genesis hash does not match pin " ++ quotedPinTextOrPlaceholder config.pin.name ++
      " (expected " ++ config.pin.genesisHash ++ ")")
  return tipHeight

/-- What the reads of the funding transaction say. -/
structure Funding where
  output : FundingOutput
  confirmations : Int
  blockHash : String
  height : Int
  /-- The reply to `gettxout`. -/
  txout : Option Json

/-- The funding transaction, in its block. -/
def readFundingTx (rt : BtcRuntime) (capture : Capture) (outpoint : Outpoint) :
    Except String (FundingOutput × Int × String) := do
  let bound ← bindBtcExchange rt.toRuntime capture
    (exchangeAt capture.exchanges 2 "getrawtransaction") "getrawtransaction"
  require (paramsAre bound.request [.str outpoint.txid, .bool true])
    "btc-htlc: the getrawtransaction read does not target this ref's txid (tampered)"
  let value ← resultOf bound.outcome "btc-htlc: no such funding transaction"
  let output ← need (decodeFundingOutput rt value outpoint.vout)
    ("btc-htlc: outpoint " ++ outpoint.txid ++ ":" ++ rt.intText outpoint.vout ++
      " has no such funding output (malformed capture)")
  let unconfirmed := "btc-htlc: funding transaction is not yet confirmed"
  let confirmations ← need ((rawTxConfirmations value).filter (1 ≤ ·)) unconfirmed
  let blockHash ← need (rawTxBlockHash value) unconfirmed
  return (output, confirmations, blockHash)

/-- The reply to `gettxout`, which leaves out what only the mempool knows. -/
def readTxout (rt : Runtime) (capture : Capture) (outpoint : Outpoint) :
    Except String (Option Json) := do
  let bound ← bindBtcExchange rt capture (exchangeAt capture.exchanges 3 "gettxout") "gettxout"
  require (paramsAre bound.request [.str outpoint.txid, .num (.int outpoint.vout), .bool false])
    "btc-htlc: the gettxout read does not target this ref (tampered)"
  resultOf bound.outcome "rpc rejected gettxout"

/-- The height of the funding block. -/
def readHeader (rt : Runtime) (capture : Capture) (blockHash : String) (tipHeight : Int) :
    Except String Int := do
  let bound ← bindBtcExchange rt capture (exchangeAt capture.exchanges 4 "getblockheader")
    "getblockheader"
  require (firstParamIs bound.request (.str blockHash))
    "btc-htlc: the getblockheader read does not target the funding block (tampered)"
  let value ← resultOf bound.outcome "rpc rejected getblockheader"
  need ((blockHeaderHeight value).filter fun height => 1 ≤ height && height ≤ tipHeight)
    "btc-htlc: malformed/out-of-range getblockheader result (tampered capture)"

def readFunding (rt : BtcRuntime) (capture : Capture) (outpoint : Outpoint) (tipHeight : Int) :
    Except String Funding := do
  let (output, confirmations, blockHash) ← readFundingTx rt capture outpoint
  let txout ← readTxout rt.toRuntime capture outpoint
  let height ← readHeader rt.toRuntime capture blockHash tipHeight
  return ⟨output, confirmations, blockHash, height, txout⟩

structure FoundSpend where
  height : Int
  blockHash : String
  witness : List String
deriving DecidableEq, Repr

/-- The block at a height, looked through for the spend. -/
def scanBlock (rt : Runtime) (capture : Capture) (outpoint : Outpoint) (i : Nat) (height : Int) :
    Except String (Option FoundSpend) := do
  let at' := "(" ++ rt.intText height ++ ")"
  let hashBound ← bindBtcExchange rt capture (exchangeAt capture.exchanges i "getblockhash")
    ("getblockhash" ++ at')
  let hashValue ← resultOf hashBound.outcome ("rpc rejected getblockhash" ++ at')
  require (paramsAre hashBound.request [.num (.int height)])
    "btc-htlc: the scan's getblockhash read is out of sequence (tampered)"
  let blockHash ← need ((hashValue.bind Json.asText?).filter HEX64_ANY_CASE)
    ("btc-htlc: malformed getblockhash" ++ at' ++ " result")
  let blockBound ← bindBtcExchange rt capture (exchangeAt capture.exchanges (i + 1) "getblock")
    ("getblock" ++ at')
  let block ← resultOf blockBound.outcome ("rpc rejected getblock" ++ at')
  require (paramsAre blockBound.request [.str blockHash, .num (.int 2)])
    "btc-htlc: the scan's getblock read is not pinned to its own getblockhash (tampered)"
  return (findSpendWitness block outpoint.txid outpoint.vout).map fun witness =>
    ⟨height, toLowerCase blockHash, witness⟩

/-- The loop of the scan: one pair of exchanges for each of the heights that are left. -/
def scanBlocks (rt : Runtime) (capture : Capture) (outpoint : Outpoint) :
    Nat → Nat → Int → Except String (Option FoundSpend)
  | 0, _, _ => .ok none
  | left + 1, i, height => do
    match ← scanBlock rt capture outpoint i height with
    | some found => return some found
    | none => scanBlocks rt capture outpoint left (i + 2) (height + 1)

/-- The last height the scan looks at. -/
def scanEnd (captured : BtcRailConfig) (tipHeight fundingHeight : Int) : Int :=
  min tipHeight (fundingHeight + scanWindowFor captured - 1)

/-- An output that is not in the set of unspent ones was spent in a block that the scan finds. -/
def readSpend (rt : Runtime) (capture : Capture) (captured : BtcRailConfig) (outpoint : Outpoint)
    (tipHeight fundingHeight : Int) : Except String FoundSpend := do
  let last := scanEnd captured tipHeight fundingHeight
  let found ← scanBlocks rt capture outpoint (last + 1 - fundingHeight).toNat 5 fundingHeight
  need found
    (if last < tipHeight then
      "btc-htlc: gettxout reports the output spent but the spend was not found within the " ++
        "configured scan window (" ++ rt.intText (scanWindowFor captured) ++
        " blocks past the funding height); refusing to scan further (H4)"
    else
      "btc-htlc: gettxout reports the output spent but the bounded scan did not find the " ++
        "spending transaction")

/-- What the output is seen as, and the block that shows it. -/
structure OutputView where
  status : RailStatus
  height : Int
  blockHash : String
deriving DecidableEq, Repr

def isNull : Option Json → Bool
  | some .null => true
  | _ => false

def observeOutput (rt : Runtime) (capture : Capture) (input : BtcEvidenceInput)
    (admitted : BtcAdmitted) (tipHeight : Int) (funding : Funding) : Except String OutputView := do
  let n := input.config.pin.finality.confirmations
  if !isNull funding.txout then
    require (n ≤ funding.confirmations)
      ("btc-htlc: funding has " ++ rt.intText funding.confirmations ++
        " confirmation(s), need " ++ rt.intText n)
    return ⟨.locked, funding.height, funding.blockHash⟩
  else
    let found ← readSpend rt capture admitted.captured admitted.outpoint tipHeight funding.height
    let spendConfirmations := tipHeight - found.height + 1
    require (n ≤ spendConfirmations)
      ("btc-htlc: spend has " ++ rt.intText spendConfirmations ++
        " confirmation(s), need " ++ rt.intText n)
    let hashLockBytes ← need (hexToBytes (sliceFrom input.terms.statement 2))
      "hex string expected"
    return ⟨(classifySpend rt found.witness hashLockBytes).label, found.height, found.blockHash⟩

structure ExpectedFunding where
  scriptPubKey : List UInt8
  amount : Int
deriving DecidableEq, Repr

/-- The output that the terms and the two keys call for. -/
def expectedFunding (rt : BtcRuntime) (terms : LockTerms) (network : String)
    (payeePubkey payerPubkey : String) : Except String ExpectedFunding := do
  let locktime ← locktimeFromRefundAfterMs rt.toRuntime terms.refundAfterMs
  let hashLock ← need (hexToBytes (sliceFrom terms.statement 2)) "hex string expected"
  let payee ← need (hexToBytes payeePubkey) "hex string expected"
  let payer ← need (hexToBytes payerPubkey) "hex string expected"
  let script ← buildHtlcScript rt ⟨hashLock, payee, payer, locktime⟩ (networkParamsFor network)
  let amount ← need (rt.bigInt terms.amount)
    ("Cannot convert " ++ terms.amount ++ " to a BigInt")
  return ⟨script.scriptPubKey, amount⟩

/-- The funding output is the leg's own, whatever became of it since. -/
def judgeFunding (rt : BtcRuntime) (input : BtcEvidenceInput) (captured : BtcRailConfig)
    (output : FundingOutput) (status : RailStatus) : Except Refusal Verdict := do
  let missing := Refusal.unknown
    "btc-htlc: payee and/or payer has no pubkey line (P4-BTC-SPEC.md §6)"
  let payee ← need input.accounts.payeePubkey missing
  let payer ← need input.accounts.payerPubkey missing
  require (PUBKEY_SHAPE payee ∧ PUBKEY_SHAPE payer)
    (.unknown "btc-htlc: a resolved pubkey line is not a 33-byte compressed pubkey")
  let expected ← (expectedFunding rt input.terms captured.pin.network payee payer).mapError
    fun message => .unknown
      ("btc-htlc: could not rebuild the expected HTLC script/amount from terms: " ++ message)
  if status = .locked then
    require (output.scriptPubKey = expected.scriptPubKey)
      (.differs ("btc-htlc: on-chain funding scriptPubKey does not match the expected HTLC script "
      ++
        "for these terms"))
    require (output.amountSats = expected.amount)
      (.differs ("btc-htlc: on-chain funding value " ++ rt.intText output.amountSats ++
        " does not match terms.amount " ++ input.terms.amount))
    return ⟨.locked, true, "btc-htlc: locked and on-chain state matches terms"⟩
  else
    require (output.scriptPubKey = expected.scriptPubKey ∧ output.amountSats = expected.amount)
      (.unknown ("btc-htlc: " ++ status.text ++ " on-chain, but the funding output does not match "
      ++
        "this swap's terms/accounts — refusing to trust it as this swap's own lock"))
    return ⟨status, false, "btc-htlc: " ++ input.capture.ref ++ " is " ++ status.text ++
      " on-chain, not locked"⟩

def btcEvidenceBase (input : BtcEvidenceInput) : LockEvidence :=
  { rail := BTC_RAIL_ID
    ref := input.capture.ref
    terms := input.terms
    railVerified := none
    checkedAtMs := input.capture.checkedAtMs
    finalizedRef := none
    endpoint := some input.config.endpoint
    reason := none
    raw := some (input.capture.exchanges.map (·.responseSha256)) }

/-- A refusal attaches no observation. -/
def btcRefuse (base : LockEvidence) (refusal : Refusal) : BtcEvidenceResult :=
  ⟨{ base with railVerified := refusal.railVerified, reason := some refusal.reason }, none⟩

def btcAttach (base : LockEvidence) (verdict : Verdict) : BtcEvidenceResult :=
  ⟨{ base with railVerified := some verdict.railVerified, reason := some verdict.reason },
    some (railObservation base verdict.status)⟩

/-- The reads of the chain, up to what the output is seen as. -/
def readOutput (rt : BtcRuntime) (input : BtcEvidenceInput) (admitted : BtcAdmitted) :
    Except String (Funding × OutputView) := do
  let capture := input.capture.toCapture
  let tipHeight ← readTip rt.toRuntime capture input.config
  let funding ← readFunding rt capture admitted.outpoint tipHeight
  let view ← observeOutput rt.toRuntime capture input admitted tipHeight funding
  return (funding, view)

def btcEvidence (rt : BtcRuntime) (input : BtcEvidenceInput) : BtcEvidenceResult :=
  let base := btcEvidenceBase input
  match admitBtcCapture input with
  | .error refusal => btcRefuse base refusal
  | .ok admitted =>
    let base := { base with endpoint := some admitted.captured.endpoint }
    match readOutput rt input admitted with
    | .error reason => btcRefuse base (.unknown reason)
    | .ok (funding, view) =>
      let base := { base with
        finalizedRef := some (btcFinalizedRefFor rt.toRuntime admitted.captured.pin.name
          input.config.pin.finality.confirmations view.height view.blockHash) }
      match judgeFunding rt input admitted.captured funding.output view.status with
      | .error refusal => btcRefuse base refusal
      | .ok verdict => btcAttach base verdict

end SwapDesk.Rails
