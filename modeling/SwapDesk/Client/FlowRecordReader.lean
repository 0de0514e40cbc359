import SwapDesk.Client.FlowRecord
import SwapDesk.Lib.Runs
import SwapDesk.Lib.Utf16
import SwapDesk.Lib.Utf8

/-!
# SwapDesk — the strict reader of flow records

`parseRecord` and `decodeFlowRecord` of `src/client/flow-record.ts`: an untrusted JSON value is
turned into a record, or refused with the first path that is wrong. Every object is closed. The
record of a Buyer is looked through for the secret that opens its own hash lock.

Main results: `ledger_of_parseRecord` and `noPreimageOf_of_parseRecord`, what is known of a record
that was read.
-/

namespace SwapDesk.Client.Flow

open Check FlowStore
open CharClass (isHex)

/-- What the reader uses of the runtime and of the packages. -/
structure FlowRuntime where
  /-- `OFFER_ROOM` of `@flop-labs/tclk`. -/
  offerRoom : String
  /-- `dealRoom` of `@flop-labs/tclk`, on a contract id of the right shape. -/
  dealRoom : String → String
  /-- `verifyHashPreimage` of `@flop-labs/tclk`: the hash lock and the preimage, as texts. -/
  verifyHashPreimage : String → String → Bool
  sha256 : List UInt8 → List UInt8
  /-- `new TextDecoder("utf-8", { fatal: true })`; `none` when it throws. -/
  decodeUtf8 : List UInt8 → Option String
  /-- `JSON.parse`; `none` when it throws. -/
  jsonParse : String → Option Json

inductive FlowRecordError where
  | corrupt (error : FlowStoreCorruptError)
  | invalid (key reason : String)
  | version (key : String) (version : Option Json)
  | mismatch (field expected actual : String)
  /-- `FlowStoreKeyError` -/
  | badKey (key : String)

-- ---------------------------------------------------------------------------
-- Reads at a path
-- ---------------------------------------------------------------------------

/-- `building`: the record is being written, not read from a store. -/
structure Reader where
  key : String
  building : Bool

def MAX_TEXT : Nat := 8192

def MAX_FLOW_RECORD_BYTES : Nat := 1048576

/-- `text.length` -/
def textLength (text : String) : Nat := (Utf16.encode text.toList).length

/-- `<path>.<name>` -/
def sub (path name : String) : String := path ++ "." ++ name

namespace Reader

variable (r : Reader)

/-- What `fail` throws. -/
def fault (path message : String) : FlowRecordError :=
  let reason := path ++ ": " ++ message
  if r.building then .invalid r.key reason else .corrupt ⟨r.key, reason⟩

/-- An object that has all of the required fields, and no others than the optional ones. -/
def object (value : Option Json) (path : String) (required : List String)
    (optional : List String := []) : Except FlowRecordError Json := do
  let v ← need (value.filter Json.isObject) (r.fault path "must be an object")
  refute (required.find? fun name => (v.field? name).isNone) fun name =>
    r.fault (sub path name) "is required"
  refute (v.fieldNames.find? fun name => !(required ++ optional).contains name) fun name =>
    r.fault (sub path name) "is not a field of this record"
  return v

def string (value : Option Json) (path : String) (longest : Nat := MAX_TEXT)
    (allowEmpty : Bool := false) : Except FlowRecordError String := do
  let text ← need (value.bind Json.asText?) (r.fault path "must be a string")
  require (text ≠ "" ∨ allowEmpty = true) (r.fault path "must not be empty")
  require (textLength text ≤ longest) (r.fault path "is too long")
  return text

/-- A text that matches the pattern. -/
def shaped (shape : String → Bool) (value : Option Json) (path : String)
    (longest : Nat := MAX_TEXT) : Except FlowRecordError (Shaped shape) := do
  let text ← r.string value path longest
  if h : shape text = true then return ⟨text, h⟩
  else throw (r.fault path "has the wrong shape")

def line (value : Option Json) (path : String) : Except FlowRecordError String := do
  let text ← r.string value path
  require (text.toList.all fun c => c ≠ '\r' && c ≠ '\n') (r.fault path "must be a single line")
  return text

def int (value : Option Json) (path : String) (least : Nat := 0) : Except FlowRecordError Nat := do
  let n ← need ((value.bind Json.asInt?).filter fun n : Int =>
      (least : Int) ≤ n && n.toNat ≤ JsonText.maxExact)
    (r.fault path ("must be a safe integer >= " ++ String.ofList (JsonText.printNat least)))
  return n.toNat

def bool (value : Option Json) (path : String) : Except FlowRecordError Bool :=
  match value with
  | some (.bool b) => .ok b
  | _ => .error (r.fault path "must be a boolean")

def array (value : Option Json) (path : String) (longest : Nat := 1024) :
    Except FlowRecordError (List Json) := do
  match value with
  | some (.arr items) =>
    require (items.length ≤ longest) (r.fault path "has too many entries")
    return items
  | _ => throw (r.fault path "must be an array")

def nullableString (value : Option Json) (path : String) :
    Except FlowRecordError (Option String) :=
  match value with
  | some .null => .ok none
  | value => some <$> r.string value path MAX_TEXT true

/-- A field that may be left out. -/
def optional {α : Type} (source : Json) (name : String)
    (parse : Option Json → String → Except FlowRecordError α) (path : String) :
    Except FlowRecordError (Option α) :=
  match source.field? name with
  | none => .ok none
  | some value => some <$> parse (some value) (sub path name)

/-- A field that is `true` or left out. -/
def present (source : Json) (name path : String) : Except FlowRecordError Bool := do
  let flag ← optional source name
    (fun value path => do
      require ((← r.bool value path) = true) (r.fault path "must be true when present")) path
  return flag.isSome

/-- Items read one after another, each at its own path. -/
def each {α : Type} (parse : Option Json → String → Except FlowRecordError α) (path : String) :
    Nat → List Json → Except FlowRecordError (List α)
  | _, [] => .ok []
  | i, item :: items => do
    let a ← parse (some item) (Json.itemPath path i)
    let more ← each parse path (i + 1) items
    return a :: more

-- ---------------------------------------------------------------------------
-- Parts of a record
-- ---------------------------------------------------------------------------

def transcriptRecord (value : Option Json) (path : String) :
    Except FlowRecordError TranscriptRecordJson := do
  let o ← r.object value path ["room", "seq", "timestampMs", "sender", "nonce", "signature", "line"]
  let room ← r.string (o.field? "room") (sub path "room")
  let seq ← r.int (o.field? "seq") (sub path "seq") 1
  let timestampMs ← r.int (o.field? "timestampMs") (sub path "timestampMs")
  let sender ← r.string (o.field? "sender") (sub path "sender")
  let nonce ← r.nullableString (o.field? "nonce") (sub path "nonce")
  let signature ← r.nullableString (o.field? "signature") (sub path "signature")
  let line ← r.line (o.field? "line") (sub path "line")
  return ⟨room, seq, timestampMs, sender, nonce, signature, line⟩

def frameSlot (value : Option Json) (path : String) : Except FlowRecordError FrameSlot := do
  let o ← r.object value path ["text"] ["record"]
  let text ← r.line (o.field? "text") (sub path "text")
  require ("tclk1 ".toList.isPrefixOf text.toList)
    (r.fault (sub path "text") "is not a tclk/1 frame line")
  let record ← optional o "record" r.transcriptRecord path
  require (∀ record' ∈ record, record'.line = text)
    (r.fault (sub path "record.line") "is not the slot's own text")
  return ⟨text, record⟩

def accounts (value : Option Json) (path : String) : Except FlowRecordError RailAccountsJson := do
  let o ← r.object value path [] ["payer", "payee", "payerKey", "payeeKey"]
  let payer ← optional o "payer" r.string path
  let payee ← optional o "payee" r.string path
  let payerKey ← optional o "payerKey" r.string path
  let payeeKey ← optional o "payeeKey" r.string path
  return ⟨payer, payee, payerKey, payeeKey⟩

def markerKind : Option Json → Option MarkerKind
  | some (.str "bigint") => some .bigint
  | some (.str "number") => some .number
  | _ => none

def marker (value : Option Json) (path : String) : Except FlowRecordError BlockMarkerJson := do
  let o ← r.object value path ["kind", "value"]
  let kind ← need (markerKind (o.field? "kind"))
    (r.fault (sub path "kind") "must be \"bigint\" or \"number\"")
  let digits ← r.shaped DIGITS (o.field? "value") (sub path "value") 80
  require (kind = .number → JsonText.readNat digits.val.toList ≤ JsonText.maxExact)
    (r.fault (sub path "value") "is not a safe integer")
  return ⟨kind, digits⟩

def writeEvent : Option Json → Option WriteEvent
  | some (.str "Locked") => some .locked
  | some (.str "Claimed") => some .claimed
  | some (.str "Refunded") => some .refunded
  | _ => none

/-- A value that may be null. -/
def nullable {α : Type} (parse : Option Json → String → Except FlowRecordError α)
    (value : Option Json) (path : String) : Except FlowRecordError (Option α) :=
  match value with
  | some .null => .ok none
  | value => some <$> parse value path

def evidence (value : Option Json) (path : String) :
    Except FlowRecordError WriteEvidenceJson := do
  let o ← r.object value path ["ref", "raw"] ["event", "txHash", "blockNumber", "blockHash",
    "logIndex", "txid", "blockHeight", "rawTx", "claimedByAnotherTransaction"]
  let ref ← r.string (o.field? "ref") (sub path "ref")
  let raw ← each r.string (sub path "raw") 0 (← r.array (o.field? "raw") (sub path "raw"))
  let event ← optional o "event" (fun value path => need (writeEvent value)
    (r.fault path "must be Locked, Claimed or Refunded")) path
  let txHash ← optional o "txHash" r.string path
  let blockNumber ← optional o "blockNumber" (r.shaped DIGITS · · 80) path
  let blockHash ← optional o "blockHash" (nullable r.string) path
  let logIndex ← optional o "logIndex" r.int path
  let txid ← optional o "txid" r.string path
  let blockHeight ← optional o "blockHeight" (nullable r.int) path
  let rawTx ← optional o "rawTx" (r.shaped HEX_EVEN · · MAX_FLOW_RECORD_BYTES) path
  let claimedByAnotherTransaction ← optional o "claimedByAnotherTransaction"
    (fun value path => require (value matches some (.bool true))
      (r.fault path "must be true when present")) path
  return ⟨ref, raw, event, txHash, blockNumber, blockHash, logIndex, txid, blockHeight, rawTx,
    claimedByAnotherTransaction.isSome⟩

/-- The handle of a lock may be an EVM one; that of a refund never is. -/
def recovery (evmAllowed : Bool) (value : Option Json) (path : String) :
    Except FlowRecordError LockRecovery := do
  let v ← need (value.filter Json.isObject) (r.fault path "must be an object")
  let chain := v.text? "chain"
  if chain = some "evm" ∧ evmAllowed = true then
    let o ← r.object value path ["chain", "txHash"]
    return .evm (← r.shaped HEX32 (o.field? "txHash") (sub path "txHash"))
  else if chain = some "btc" then
    let o ← r.object value path ["chain", "txid", "rawTx"]
    let txid ← r.shaped HEX64 (o.field? "txid") (sub path "txid")
    let rawTx ← r.shaped HEX_EVEN (o.field? "rawTx") (sub path "rawTx") MAX_FLOW_RECORD_BYTES
    return .btc txid rawTx
  else if chain = some "near" then
    let o ← r.object value path ["chain", "txHash", "signedTxBase64"]
    let txHash ← r.string (o.field? "txHash") (sub path "txHash") 128
    let signedTxBase64 ← r.shaped BASE64 (o.field? "signedTxBase64") (sub path "signedTxBase64")
      MAX_FLOW_RECORD_BYTES
    return .near txHash signedTxBase64
  else if chain = some "sol" then
    let o ← r.object value path ["chain", "signature", "blockhash", "lastValidBlockHeight"]
      ["signedSlot"]
    let signedSlot ← optional o "signedSlot" r.int path
    let signature ← r.string (o.field? "signature") (sub path "signature") 128
    let blockhash ← r.string (o.field? "blockhash") (sub path "blockhash") 128
    let lastValidBlockHeight ← r.int (o.field? "lastValidBlockHeight")
      (sub path "lastValidBlockHeight")
    return .sol signature blockhash lastValidBlockHeight signedSlot
  else
    throw (r.fault (sub path "chain") (if evmAllowed then
      "must be \"btc\", \"near\", \"sol\" or \"evm\"" else "must be \"btc\", \"near\" or \"sol\""))

def claimTx (value : Option Json) (path : String) : Except FlowRecordError ClaimTxRecord := do
  let o ← r.object value path ["txid", "rawTx"] ["sent"]
  let sent ← r.present o "sent" path
  let txid ← r.shaped HEX64 (o.field? "txid") (sub path "txid")
  let rawTx ← r.shaped HEX_EVEN (o.field? "rawTx") (sub path "rawTx") MAX_FLOW_RECORD_BYTES
  return ⟨txid, rawTx, sent⟩

def claimRecord (value : Option Json) (path : String) :
    Except FlowRecordError RailClaimRecord := do
  let o ← r.object value path ["signature", "blockhash", "lastValidBlockHeight"] ["signedSlot"]
  let signedSlot ← optional o "signedSlot" r.int path
  let signature ← r.string (o.field? "signature") (sub path "signature") 128
  let blockhash ← r.string (o.field? "blockhash") (sub path "blockhash") 128
  let lastValidBlockHeight ← r.int (o.field? "lastValidBlockHeight")
    (sub path "lastValidBlockHeight")
  return ⟨signature, blockhash, lastValidBlockHeight, signedSlot⟩

def ownAccountLine (value : Option Json) (path : String) :
    Except FlowRecordError OwnAccountLine := do
  let o ← r.object value path ["address", "text"]
  let address ← r.string (o.field? "address") (sub path "address")
  let text ← r.line (o.field? "text") (sub path "text")
  return ⟨address, text⟩

/-- `/(?<![0-9a-fA-F])[0-9a-fA-F]{64}(?![0-9a-fA-F])/g`: the runs of exactly 64 digits. -/
def HEX64_RUN (text : String) : List (List Char) :=
  (Runs.runs isHex text.toList).filter fun run => run.length = 64

/-- No text of the value has a run that opens the hash lock. -/
def noPreimageOf (rt : FlowRuntime) (hashLock : String) (value : Json) (path : String) :
    Except FlowRecordError Unit :=
  Json.eachText (fun text path =>
    require (∀ run ∈ HEX64_RUN text,
        rt.verifyHashPreimage hashLock ("0x" ++ String.ofList (run.map Char.toLower)) = false)
      (r.fault path ("holds the swap secret (a 64-hex run that opens lock.hashLock): a Buyer's " ++
        "record never holds it"))) value path

end Reader

-- ---------------------------------------------------------------------------
-- The ledger
-- ---------------------------------------------------------------------------

def ALL_KINDS : List LedgerKind :=
  [.offerA, .acceptA, .offerB, .acceptB, .accountA, .lockA, .lockB, .revealA, .receiptA, .revealB,
    .receiptB, .refundA, .receiptRefundA, .refundB, .receiptRefundB]

def OFFER_ROOM_KINDS : List LedgerKind := [.offerA, .acceptA, .offerB, .acceptB]

def BUYER_KINDS : List LedgerKind :=
  [.offerA, .acceptB, .accountA, .lockA, .revealB, .receiptB, .refundA, .receiptRefundA]

def SELLER_KINDS : List LedgerKind :=
  [.acceptA, .offerB, .accountA, .lockB, .revealA, .receiptA, .refundB, .receiptRefundB]

/-- The kinds of leg A's deal room. The others of a deal room are of leg B's. -/
def CONTRACT_A_KINDS : List LedgerKind :=
  [.accountA, .lockA, .revealA, .receiptA, .refundA, .receiptRefundA]

def roleText : FlowRole → String
  | .buyer => "buyer"
  | .seller => "seller"

/-- What the entries of a ledger are checked against. -/
structure LedgerScope where
  role : FlowRole
  did : String
  contractA : Option (Shaped HEX32)
  contractB : Option (Shaped HEX32)

section

variable (rt : FlowRuntime) (r : Reader)

open Reader

def landedOf (scope : LedgerScope) (digestOnly : Bool) (room text : String) (value : Option Json)
    (path : String) : Except FlowRecordError Landed := do
  let l ← r.object value path ["seq", "nonce"] ["record"]
  let seq ← r.int (l.field? "seq") (sub path "seq") 1
  let nonce ← r.nullableString (l.field? "nonce") (sub path "nonce")
  let record ← optional l "record" r.transcriptRecord path
  require (record.isSome = true → digestOnly = false) (r.fault (sub path "record")
    "must be absent for a reveal-b entry: its line carries the secret")
  require (∀ record' ∈ record, record'.room = room ∧ record'.line = text ∧ record'.seq = seq ∧
      record'.nonce = nonce ∧ record'.sender = scope.did) (r.fault (sub path "record")
    "is not this party's own record of the entry's text, room, seq and nonce")
  return ⟨seq, nonce, record⟩

/-- An entry, after entries of the kinds that were seen. -/
def ledgerItem (scope : LedgerScope) (seen : List LedgerKind) (value : Option Json)
    (path : String) : Except FlowRecordError LedgerEntry := do
  let allowed := match scope.role with | .buyer => BUYER_KINDS | .seller => SELLER_KINDS
  let o ← r.object value path ["kind", "room", "text"] ["landed"]
  let kindText ← r.string (o.field? "kind") (sub path "kind") 40
  let kind ← need (ALL_KINDS.find? fun kind => LedgerKind.text kind = kindText)
    (r.fault (sub path "kind") "is not a ledger kind")
  require (kind ∈ allowed)
    (r.fault (sub path "kind") ("is not something a " ++ roleText scope.role ++ " posts"))
  require (kind ∉ seen)
    (r.fault (sub path "kind") "appears twice: a party records one text per kind")
  let room ← r.string (o.field? "room") (sub path "room") 128
  if kind ∈ OFFER_ROOM_KINDS then
    require (room = rt.offerRoom) (r.fault (sub path "room") ("must be " ++ rt.offerRoom))
  else
    let contract := if kind ∈ CONTRACT_A_KINDS then scope.contractA else scope.contractB
    require (∀ id ∈ contract, room = rt.dealRoom id.val)
      (r.fault (sub path "room") "is not the deal room of this kind's contract")
  let text ← r.line (o.field? "text") (sub path "text")
  -- the text of a Buyer's reveal carries the secret, so only its digest is kept
  let digestOnly := scope.role = .buyer && kind = .revealB
  require (digestOnly = true → DIGEST_TEXT text = true) (r.fault (sub path "text")
    ("a Buyer's reveal-b entry may hold only the sha256 digest of the reveal text, never the " ++
      "text (it carries the secret)"))
  let landed ← optional o "landed" (landedOf r scope digestOnly room text) path
  return ⟨kind, room, text, landed⟩

def ledgerItems (scope : LedgerScope) (path : String) :
    Nat → List LedgerKind → List Json → Except FlowRecordError (List LedgerEntry)
  | _, _, [] => .ok []
  | i, seen, item :: items => do
    let entry ← ledgerItem rt r scope seen (some item) (Json.itemPath path i)
    let more ← ledgerItems scope path (i + 1) (entry.kind :: seen) items
    return entry :: more

def parseLedger (scope : LedgerScope) (value : Option Json) (path : String) :
    Except FlowRecordError (List LedgerEntry) := do
  let items ← r.array value path 64
  ledgerItems rt r scope path 0 [] items

-- ---------------------------------------------------------------------------
-- The fields of both roles
-- ---------------------------------------------------------------------------

def isVersion : Option Json → Bool
  | some (.num (.int n)) => n = FLOW_RECORD_VERSION
  | _ => false

def legBOf (value : Option Json) (path : String) : Except FlowRecordError LegBDeadlinesJson := do
  let l ← r.object value path ["claimByMs", "refundAfterMs", "expiresMs"]
  let claimByMs ← r.int (l.field? "claimByMs") (sub path "claimByMs")
  let refundAfterMs ← r.int (l.field? "refundAfterMs") (sub path "refundAfterMs")
  let expiresMs ← r.int (l.field? "expiresMs") (sub path "expiresMs")
  return ⟨claimByMs, refundAfterMs, expiresMs⟩

def framesOf (value : Option Json) (path : String) :
    Except FlowRecordError (Slot → Option FrameSlot) := do
  let frames ← r.object value path [] ["offerA", "acceptA", "offerB", "acceptB"]
  let offerA ← optional frames "offerA" r.frameSlot path
  let acceptA ← optional frames "acceptA" r.frameSlot path
  let offerB ← optional frames "offerB" r.frameSlot path
  let acceptB ← optional frames "acceptB" r.frameSlot path
  return fun
    | .offerA => offerA
    | .acceptA => acceptA
    | .offerB => offerB
    | .acceptB => acceptB

/-- The fields of both roles, and leg A's contract, which only a Seller has from the start. -/
structure Common where
  record : FlowRecord FlowRecordBase
  contractA : Option (Shaped HEX32)

def commonOf (role : FlowRole) (o : Json) (path : String) : Except FlowRecordError Common := do
  require (isVersion (o.field? "v") = true) (.version r.key (o.field? "v"))
  let swapId ← r.shaped HEX32 (o.field? "swapId") (sub path "swapId")
  let createdAtMs ← r.int (o.field? "createdAtMs") (sub path "createdAtMs")
  let updatedAtMs ← r.int (o.field? "updatedAtMs") (sub path "updatedAtMs")
  require (createdAtMs ≤ updatedAtMs)
    (r.fault (sub path "updatedAtMs") "is earlier than createdAtMs")
  let frames ← framesOf r (o.field? "frames") (sub path "frames")
  let contractA ← optional o "contractA" (r.shaped HEX32) path
  let contractB ← optional o "contractB" (r.shaped HEX32) path
  let lockTimeMs ← optional o "lockTimeMs" r.int path
  let legB ← optional o "legB" (legBOf r) path
  let did ← r.shaped DID (o.field? "did") (sub path "did")
  let ledger ← parseLedger rt r ⟨role, did.val, contractA, contractB⟩ (o.field? "ledger")
    (sub path "ledger")
  let railId ← r.string (o.field? "railId") (sub path "railId") 128
  let caip2 ← r.string (o.field? "caip2") (sub path "caip2") 128
  let deploymentId ← r.string (o.field? "deploymentId") (sub path "deploymentId") 512
  let revision ← r.int (o.field? "revision") (sub path "revision") 1
  let base : FlowRecordBase :=
    { swapId, did, railId, caip2, deploymentId, createdAtMs, contractB, lockTimeMs, legB }
  return ⟨⟨revision, updatedAtMs, frames, ledger, base⟩, contractA⟩

def Common.withState {σ : Type} (common : Common) (state : σ) : FlowRecord (FlowFields σ) :=
  let record := common.record
  ⟨record.revision, record.updatedAtMs, record.frames, record.ledger, ⟨record.rest, state⟩⟩

-- ---------------------------------------------------------------------------
-- A Seller's record
-- ---------------------------------------------------------------------------

def COMMON_REQUIRED : List String :=
  ["v", "role", "swapId", "did", "railId", "caip2", "deploymentId", "createdAtMs", "updatedAtMs",
    "revision", "frames", "ledger"]

def COMMON_OPTIONAL : List String := ["contractB", "lockTimeMs", "legB"]

def SELLER_REQUIRED : List String :=
  ["contractA", "preimage", "statement", "claimAttempted", "claimRecords", "neverLandedClaims",
    "claimOutcome", "revealPosted", "receiptPosted", "legBRefund"]

def SELLER_OPTIONAL : List String :=
  ["attemptedAcceptB", "lockedLegBContract", "frozenLegAAccounts", "frozenLegARailRef",
    "ownAccountLine", "publicClaimSignature", "claimFromBlock", "claimTxHash", "claimTx",
    "legBClaimSeen"]

def BUYER_REQUIRED : List String :=
  ["legBVerified", "lock", "legBClaimAttempted", "legBClaimed", "refund", "refundNotes"]

def BUYER_OPTIONAL : List String := ["contractA", "ownAccountLine", "legBClaimAdopted"]

def claimOutcomeOf : Option Json → Option ClaimOutcome
  | some (.str "none") => some .none
  | some (.str "landed") => some .landed
  | some (.str "failed-public") => some .failedPublic
  | _ => none

def sellerStateOf (o : Json) (path : String) (common : Common) :
    Except FlowRecordError SellerFlowState := do
  let contractA ← need common.contractA (r.fault (sub path "contractA")
    "is required: a Seller record is keyed by leg A's contract id")
  let preimage ← r.shaped HEX32 (o.field? "preimage") (sub path "preimage")
  let statement ← r.shaped HEX32 (o.field? "statement") (sub path "statement")
  require (rt.verifyHashPreimage statement.val preimage.val = true)
    (r.fault (sub path "preimage") "does not open the statement")
  let attemptedAcceptB ← optional o "attemptedAcceptB" (r.shaped HEX32) path
  let lockedLegBContract ← optional o "lockedLegBContract" (r.shaped HEX32) path
  require (lockedLegBContract.isSome = true → lockedLegBContract = attemptedAcceptB)
    (r.fault (sub path "lockedLegBContract") ("must equal attemptedAcceptB: the leg B lock is " ++
      "only ever confirmed for the accept that was tried"))
  let claimItems ← r.array (o.field? "claimRecords") (sub path "claimRecords") 64
  let claimRecords ← each r.claimRecord (sub path "claimRecords") 0 claimItems
  require (claimRecords.map (·.signature)).Nodup
    (r.fault (sub path "claimRecords") "lists a signature twice")
  let publicClaimSignature ← optional o "publicClaimSignature" (r.string · · 128) path
  let claimOutcome ← need (claimOutcomeOf (o.field? "claimOutcome"))
    (r.fault (sub path "claimOutcome") "must be \"none\", \"landed\" or \"failed-public\"")
  let claimAttempted ← r.bool (o.field? "claimAttempted") (sub path "claimAttempted")
  require (claimOutcome ≠ .none → claimAttempted = true)
    (r.fault (sub path "claimOutcome") "a claim outcome needs claimAttempted")
  let claimFromBlock ← optional o "claimFromBlock" r.marker path
  require (claimFromBlock.isSome = true → claimAttempted = true)
    (r.fault (sub path "claimFromBlock") "is saved with claimAttempted and needs it")
  let claimTxHash ← optional o "claimTxHash" (r.shaped HEX32) path
  require (claimTxHash.isSome = true → claimAttempted = true)
    (r.fault (sub path "claimTxHash") "is saved after a claim attempt and needs claimAttempted")
  let claimTx ← optional o "claimTx" r.claimTx path
  require (claimTx.isSome = true → claimAttempted = true) (r.fault (sub path "claimTx")
    "is recorded after the claim attempt was saved and needs claimAttempted")
  require (claimTx.isSome = true → claimTxHash = none)
    (r.fault (sub path "claimTx") "a Bitcoin claim record never comes with an EVM claim hash")
  require (claimTx.isSome = true → claimRecords = [])
    (r.fault (sub path "claimTx") "a Bitcoin claim record never comes with Solana claim records")
  require (claimOutcome = .failedPublic → publicClaimSignature.isSome = true)
    (r.fault (sub path "publicClaimSignature") ("is required for a failed-public claim: it is " ++
      "the proof the secret is public"))
  let refundPath := sub path "legBRefund"
  let refund ← r.object (o.field? "legBRefund") refundPath ["attempted", "done", "framesPosted"]
  let legBClaimSeen ← r.present o "legBClaimSeen" path
  require (legBClaimSeen = true → lockedLegBContract.isSome = true)
    (r.fault (sub path "legBClaimSeen") ("needs lockedLegBContract: only a leg B note this flow " ++
      "locked can be seen claimed"))
  -- `done` is read here only when a claim was seen
  if legBClaimSeen then
    require ((← r.bool (refund.field? "done") (sub refundPath "done")) = false)
      (r.fault (sub path "legBClaimSeen") "a leg B note is claimed or refunded, never both")
  let frozenLegAAccounts ← optional o "frozenLegAAccounts" r.accounts path
  let frozenLegARailRef ← optional o "frozenLegARailRef" r.string path
  let ownAccountLine ← optional o "ownAccountLine" r.ownAccountLine path
  let neverLandedClaims ← r.int (o.field? "neverLandedClaims") (sub path "neverLandedClaims")
  let revealPosted ← r.bool (o.field? "revealPosted") (sub path "revealPosted")
  let receiptPosted ← r.bool (o.field? "receiptPosted") (sub path "receiptPosted")
  let attempted ← r.bool (refund.field? "attempted") (sub refundPath "attempted")
  let done ← r.bool (refund.field? "done") (sub refundPath "done")
  let framesPosted ← r.bool (refund.field? "framesPosted") (sub refundPath "framesPosted")
  return { contractA, preimage, statement, attemptedAcceptB, lockedLegBContract,
           frozenLegAAccounts, frozenLegARailRef, ownAccountLine, claimAttempted, claimFromBlock,
           claimTxHash, claimTx, claimRecords, publicClaimSignature, neverLandedClaims,
           claimOutcome, revealPosted, receiptPosted,
           legBRefund := ⟨attempted, done, framesPosted⟩, legBClaimSeen }

def parseSeller (o : Json) (path : String) (common : Common) :
    Except FlowRecordError SellerFlowRecord := do
  let state ← sellerStateOf rt r o path common
  return common.withState state

-- ---------------------------------------------------------------------------
-- A Buyer's record
-- ---------------------------------------------------------------------------

def preparedOf (value : Option Json) (path : String) : Except FlowRecordError PreparedLock := do
  let q ← r.object value path ["ref"] ["recovery"]
  let recovery ← optional q "recovery" (r.recovery true) path
  let ref ← r.string (q.field? "ref") (sub path "ref")
  return ⟨ref, recovery⟩

/-- The lock, but for `framePosted`, which is read last. -/
def buyerLockOf (value : Option Json) (path : String) :
    Except FlowRecordError (Json × (Bool → BuyerLock)) := do
  let o ← r.object value path ["attempted", "framePosted"]
    ["prepared", "fromBlock", "accounts", "hashLock", "evidence", "neverLanded"]
  let prepared ← optional o "prepared" (preparedOf r) path
  let fromBlock ← optional o "fromBlock" r.marker path
  let accounts ← optional o "accounts" r.accounts path
  let hashLock ← optional o "hashLock" (r.shaped HEX32) path
  let evidence ← optional o "evidence" r.evidence path
  let attempted ← r.bool (o.field? "attempted") (sub path "attempted")
  require (prepared.isSome = true ∨ evidence.isSome = true → attempted = true)
    (r.fault (sub path "attempted") "must be true once a lock was prepared or has evidence")
  let neverLanded ← r.present o "neverLanded" path
  require (neverLanded = true → attempted = true)
    (r.fault (sub path "neverLanded") "needs a lock attempt")
  require (neverLanded = true → evidence = none)
    (r.fault (sub path "neverLanded") "a lock that never landed has no evidence")
  return (o, fun framePosted => { attempted, prepared, fromBlock, accounts, hashLock, evidence,
                                  framePosted, neverLanded })

/-- The refund, but for `framesPosted`, which is read last. -/
def buyerRefundOf (value : Option Json) (path : String) :
    Except FlowRecordError (Json × (Bool → BuyerRefund)) := do
  let o ← r.object value path ["attempted", "framesPosted"] ["recovery", "evidence", "claimSeen"]
  let claimSeen ← r.present o "claimSeen" path
  let recovery ← optional o "recovery" (r.recovery false) path
  let evidence ← optional o "evidence" r.evidence path
  let attempted ← r.bool (o.field? "attempted") (sub path "attempted")
  require (recovery.isSome = true ∨ evidence.isSome = true → attempted = true)
    (r.fault (sub path "attempted") "must be true once a refund was signed or has evidence")
  return (o, fun framesPosted => { attempted, recovery, evidence, framesPosted, claimSeen })

def buyerStateOf (o : Json) (path : String) (common : Common) :
    Except FlowRecordError BuyerFlowState := do
  let ownAccountLine ← optional o "ownAccountLine" r.ownAccountLine path
  let lockPath := sub path "lock"
  let (lockObject, lockOf) ← buyerLockOf r (o.field? "lock") lockPath
  let neverLanded := (lockOf false).neverLanded
  let refundPath := sub path "refund"
  let (refundObject, refundOf) ← buyerRefundOf r (o.field? "refund") refundPath
  require (neverLanded = true → (refundOf false).evidence = none)
    (r.fault (sub lockPath "neverLanded") "a lock that never landed has no refund evidence")
  require (neverLanded = true → (refundOf false).claimSeen = false)
    (r.fault (sub lockPath "neverLanded") "a lock that never landed was never claimed")
  let legBClaimAttempted ← r.bool (o.field? "legBClaimAttempted") (sub path "legBClaimAttempted")
  let legBClaimed ← r.bool (o.field? "legBClaimed") (sub path "legBClaimed")
  require (legBClaimed = true → legBClaimAttempted = true)
    (r.fault (sub path "legBClaimed") "needs legBClaimAttempted")
  require (neverLanded = true → legBClaimed = false) (r.fault (sub lockPath "neverLanded")
    "a lock that never landed cannot have this flow's own leg B claim")
  let legBClaimAdopted ← r.present o "legBClaimAdopted" path
  require (legBClaimAdopted = true → legBClaimAttempted = true)
    (r.fault (sub path "legBClaimAdopted") "needs legBClaimAttempted")
  require (legBClaimAdopted = true → legBClaimed = false) (r.fault (sub path "legBClaimAdopted")
    "a leg B claim is this flow's own or adopted, never both")
  let legBVerified ← r.bool (o.field? "legBVerified") (sub path "legBVerified")
  let framePosted ← r.bool (lockObject.field? "framePosted") (sub lockPath "framePosted")
  let framesPosted ← r.bool (refundObject.field? "framesPosted") (sub refundPath "framesPosted")
  let notes ← r.array (o.field? "refundNotes") (sub path "refundNotes") 64
  let refundNotes ← each (r.string · · 1024) (sub path "refundNotes") 0 notes
  return { contractA := common.contractA, legBVerified, ownAccountLine, lock := lockOf framePosted,
           legBClaimAttempted, legBClaimed, legBClaimAdopted, refund := refundOf framesPosted,
           refundNotes }

/-- Once the lock names the statement, no text of the record may be the secret that opens it. -/
def noSecretIn (record : BuyerFlowRecord) (path : String) : Except FlowRecordError Unit :=
  match record.rest.state.lock.hashLock with
  | some hashLock => r.noPreimageOf rt hashLock.val (buyerJson record) path
  | none => .ok ()

def parseBuyer (o : Json) (path : String) (common : Common) :
    Except FlowRecordError BuyerFlowRecord := do
  let state ← buyerStateOf r o path common
  let record := common.withState state
  noSecretIn rt r record path
  return record

-- ---------------------------------------------------------------------------
-- Records
-- ---------------------------------------------------------------------------

def roleOf (value : Json) : Option FlowRole :=
  match value.text? "role" with
  | some "buyer" => some .buyer
  | some "seller" => some .seller
  | _ => none

def parseRecord (value : Option Json) : Except FlowRecordError StoredRecord := do
  let path := "record"
  let v ← need (value.filter Json.isObject) (r.fault path "must be an object")
  let role ← need (roleOf v) (r.fault (sub path "role") "must be \"buyer\" or \"seller\"")
  match role with
  | .seller => do
    let o ← r.object value path (COMMON_REQUIRED ++ SELLER_REQUIRED)
      (COMMON_OPTIONAL ++ SELLER_OPTIONAL)
    let common ← commonOf rt r .seller o path
    return .seller (← parseSeller rt r o path common)
  | .buyer => do
    let o ← r.object value path (COMMON_REQUIRED ++ BUYER_REQUIRED)
      (COMMON_OPTIONAL ++ BUYER_OPTIONAL)
    let common ← commonOf rt r .buyer o path
    return .buyer (← parseBuyer rt r o path common)

end

-- ---------------------------------------------------------------------------
-- What is known of a record that was read
-- ---------------------------------------------------------------------------

section

variable {rt : FlowRuntime} {r : Reader}

/-- A landed line is the text of its entry. -/
def LinesMatch (entry : LedgerEntry) : Prop :=
  ∀ landed ∈ entry.landed, ∀ record ∈ landed.record, record.line = entry.text

theorem optional_eq_ok {α : Type} {source : Json} {name path : String}
    {parse : Option Json → String → Except FlowRecordError α} {value : Option α}
    (h : Reader.optional source name parse path = .ok value) :
    ∀ a ∈ value, ∃ v path, parse v path = .ok a := by
  unfold Reader.optional at h
  intro a ha
  split at h
  · obtain rfl := Except.ok.inj h
    cases ha
  · rename_i v hField
    cases hParse : parse (some v) (sub path name) with
    | error e =>
      rw [hParse] at h
      cases h
    | ok b =>
      rw [hParse] at h
      obtain rfl := Except.ok.inj h
      obtain rfl := Option.some.inj ha
      exact ⟨_, _, hParse⟩

theorem line_of_landedOf {scope : LedgerScope} {digestOnly : Bool} {room text path : String}
    {value : Option Json} {landed : Landed}
    (h : landedOf r scope digestOnly room text value path = .ok landed) :
    ∀ record ∈ landed.record, record.line = text := by
  unfold landedOf at h
  simp only [bind_eq_ok, require_eq_ok, exists_const] at h
  obtain ⟨_, -, _, -, _, -, _, -, -, hOwn, h⟩ := h
  obtain rfl := Except.ok.inj h
  exact fun record hRecord => (hOwn record hRecord).2.1

theorem linesMatch_of_ledgerItem {scope : LedgerScope} {seen : List LedgerKind}
    {value : Option Json} {path : String} {entry : LedgerEntry}
    (h : ledgerItem rt r scope seen value path = .ok entry) : LinesMatch entry := by
  unfold ledgerItem at h
  simp only [bind_eq_ok, need_eq_ok, require_eq_ok, exists_const] at h
  obtain ⟨o, -, _, -, _, -, -, -, _, -, h⟩ := h
  -- the two kinds of rooms are checked in different ways
  have hRest : ∃ room text digestOnly landed path, entry = ⟨entry.kind, room, text, landed⟩ ∧
      Reader.optional o "landed" (landedOf r scope digestOnly room text) path = .ok landed := by
    split at h
    all_goals
      simp only [bind_eq_ok, require_eq_ok, exists_const] at h
      obtain ⟨-, _, -, -, _, hLanded, h⟩ := h
      obtain rfl := Except.ok.inj h
      exact ⟨_, _, _, _, _, rfl, hLanded⟩
  obtain ⟨room, text, digestOnly, landed, path, hEntry, hLanded⟩ := hRest
  rw [hEntry]
  intro landed' hLanded' record hRecord
  obtain ⟨_, _, hLandedOf⟩ := optional_eq_ok hLanded landed' hLanded'
  exact line_of_landedOf hLandedOf record hRecord

theorem linesMatch_of_ledgerItems {scope : LedgerScope} {path : String} {i : Nat}
    {seen : List LedgerKind} {items : List Json} {entries : List LedgerEntry}
    (h : ledgerItems rt r scope path i seen items = .ok entries) :
    ∀ entry ∈ entries, LinesMatch entry := by
  induction items generalizing i seen entries with
  | nil =>
    obtain rfl := Except.ok.inj h
    exact List.forall_mem_nil _
  | cons item items ih =>
    rw [ledgerItems] at h
    simp only [bind_eq_ok] at h
    obtain ⟨entry, hEntry, more, hMore, h⟩ := h
    obtain rfl := Except.ok.inj h
    exact List.forall_mem_cons.mpr ⟨linesMatch_of_ledgerItem hEntry, ih hMore⟩

theorem linesMatch_of_commonOf {role : FlowRole} {o : Json} {path : String} {common : Common}
    (h : commonOf rt r role o path = .ok common) :
    ∀ entry ∈ common.record.ledger, LinesMatch entry := by
  unfold commonOf at h
  simp only [bind_eq_ok, require_eq_ok, exists_const] at h
  obtain ⟨-, _, -, _, -, _, -, -, _, -, _, -, _, -, _, -, _, -, _, -, ledger, hLedger, _, -, _, -,
    _, -, _, -, h⟩ := h
  obtain rfl := Except.ok.inj h
  unfold parseLedger at hLedger
  rw [bind_eq_ok] at hLedger
  obtain ⟨items, -, hItems⟩ := hLedger
  exact linesMatch_of_ledgerItems hItems

/-- The landed lines of a Seller's record are the texts of their entries. -/
theorem ledger_of_parseRecord {value : Option Json} {record : SellerFlowRecord}
    (h : parseRecord rt r value = .ok (.seller record)) :
    ∀ entry ∈ record.ledger, LinesMatch entry := by
  unfold parseRecord at h
  simp only [need_bind_eq_ok] at h
  obtain ⟨_, -, role, -, h⟩ := h
  cases role with
  | seller =>
    simp only [bind_eq_ok] at h
    obtain ⟨_, -, common, hCommon, parsed, hParsed, h⟩ := h
    obtain rfl := StoredRecord.seller.inj (Except.ok.inj h)
    unfold parseSeller at hParsed
    rw [bind_eq_ok] at hParsed
    obtain ⟨state, -, hParsed⟩ := hParsed
    obtain rfl := Except.ok.inj hParsed
    exact linesMatch_of_commonOf hCommon
  | buyer =>
    simp only [bind_eq_ok] at h
    obtain ⟨_, -, _, -, _, -, h⟩ := h
    cases Except.ok.inj h

/-- A Buyer's record with a hash lock was looked through for what opens it. -/
theorem noPreimageOf_of_parseRecord {value : Option Json} {record : BuyerFlowRecord}
    {hashLock : Shaped HEX32} (h : parseRecord rt r value = .ok (.buyer record))
    (hLock : record.rest.state.lock.hashLock = some hashLock) :
    r.noPreimageOf rt hashLock.val (buyerJson record) "record" = .ok () := by
  unfold parseRecord at h
  simp only [need_bind_eq_ok] at h
  obtain ⟨_, -, role, -, h⟩ := h
  cases role with
  | seller =>
    simp only [bind_eq_ok] at h
    obtain ⟨_, -, _, -, _, -, h⟩ := h
    cases Except.ok.inj h
  | buyer =>
    simp only [bind_eq_ok] at h
    obtain ⟨_, -, common, -, parsed, hParsed, h⟩ := h
    obtain rfl := StoredRecord.buyer.inj (Except.ok.inj h)
    unfold parseBuyer at hParsed
    simp only [bind_eq_ok] at hParsed
    obtain ⟨state, -, ⟨⟩, hScan, hParsed⟩ := hParsed
    obtain rfl := Except.ok.inj hParsed
    unfold noSecretIn at hScan
    rw [hLock] at hScan
    exact hScan

end

-- ---------------------------------------------------------------------------
-- The envelope
-- ---------------------------------------------------------------------------

mutual

/-- JSON with the names of every object sorted by their code units. -/
def canonical : Json → List Char
  | .arr items => '[' :: (canonicalItems items).flatten ++ [']']
  | .obj fields =>
    let parts := (canonicalFields fields).mergeSort fun a b =>
      (Utf16.encode a.1.toList).map UInt16.toNat ≤ (Utf16.encode b.1.toList).map UInt16.toNat
    '\x7b' :: (List.intersperse [','] (parts.map Prod.snd)).flatten ++ ['\x7d']
  | v => JsonText.print v

/-- The items, each after the first with a comma in front. -/
def canonicalItems : List Json → List (List Char)
  | [] => []
  | [item] => [canonical item]
  | item :: items => (canonical item ++ [',']) :: canonicalItems items

/-- Each field under its name. -/
def canonicalFields : List (String × Json) → List (String × List Char)
  | [] => []
  | (name, value) :: fields =>
    (name, JsonText.printString name ++ ':' :: canonical value) :: canonicalFields fields

end

def sha256Hex (rt : FlowRuntime) (text : List Char) : String :=
  String.ofList (Hex.encode (rt.sha256 (Utf8.encode text)))

/-- A key names a role and an id of the right shape. -/
def parseFlowKey (key : String) : Option FlowKey :=
  (FlowStore.after? "buyer:".toList key.toList).bind (flowKeyOf .buyer) <|>
    (FlowStore.after? "seller:".toList key.toList).bind (flowKeyOf .seller)
where
  flowKeyOf (role : FlowRole) (id : List Char) : Option FlowKey :=
    if h : KEY_ID_SHAPE id = true then some ⟨role, id, h⟩ else none

/-- The record is the one that the key names. -/
def checkKey (key : String) (record : StoredRecord) : Except FlowRecordError Unit := do
  let named ← need (parseFlowKey key) (.badKey key)
  let (role, field, id) : FlowRole × String × String := match record with
    | .seller record => (.seller, "contractA", record.rest.state.contractA.val)
    | .buyer record => (.buyer, "swapId", record.rest.swapId.val)
  require (named.role = role) (.mismatch "role" (roleText named.role) (roleText role))
  require (String.ofList named.id = id) (.mismatch field (String.ofList named.id) id)

def ANY_KEY : String := "<record>"

/-- The body of the envelope, when it is the one that the checksum is of. -/
def openEnvelope (rt : FlowRuntime) (bytes : List UInt8) (key : String) :
    Except FlowRecordError Json := do
  let corrupt (reason : String) := FlowRecordError.corrupt ⟨key, reason⟩
  let intText (n : Nat) := String.ofList (JsonText.printNat n)
  require (bytes.length ≤ MAX_FLOW_RECORD_BYTES)
    (corrupt ("record is " ++ intText bytes.length ++ " bytes, over the " ++
      intText MAX_FLOW_RECORD_BYTES ++ "-byte cap"))
  let text ← need (rt.decodeUtf8 bytes) (corrupt "record is not valid UTF-8")
  let envelope ← need (rt.jsonParse text) (corrupt "record is not valid JSON")
  require envelope.isObject (corrupt "record envelope is not an object")
  require (isVersion (envelope.field? "v") = true) (.version key (envelope.field? "v"))
  let shape := corrupt "record envelope must be exactly \x7b\"v\",\"sum\",\"record\"\x7d"
  require (envelope.fieldNames.all (["v", "sum", "record"].contains ·)) shape
  let sum ← need (envelope.text? "sum") shape
  let inner ← need (envelope.field? "record") shape
  require (sha256Hex rt (canonical inner) = sum)
    (corrupt "record checksum does not match its body")
  require (inner.isObject = true → isVersion (inner.field? "v") = true)
    (.version key (inner.field? "v"))
  return inner

def decodeFlowRecord (rt : FlowRuntime) (bytes : List UInt8) (key : String := ANY_KEY) :
    Except FlowRecordError StoredRecord := do
  let inner ← openEnvelope rt bytes key
  let record ← parseRecord rt ⟨key, false⟩ (some inner)
  if key ≠ ANY_KEY then checkKey key record
  return record

/-- What a record is stored as. -/
def envelopeOf (rt : FlowRuntime) (inner : Json) : Json :=
  .obj [("v", .num (.int FLOW_RECORD_VERSION)), ("sum", .str (sha256Hex rt (canonical inner))),
    ("record", inner)]

/-- An envelope made of a body gives the body back. -/
theorem openEnvelope_envelopeOf {rt : FlowRuntime} {bytes : List UInt8} {key text : String}
    {inner : Json} (hSize : bytes.length ≤ MAX_FLOW_RECORD_BYTES)
    (hText : rt.decodeUtf8 bytes = some text)
    (hJson : rt.jsonParse text = some (envelopeOf rt inner))
    (hVersion : isVersion (inner.field? "v") = true) : openEnvelope rt bytes key = .ok inner := by
  have hNames : (envelopeOf rt inner).fieldNames.all (["v", "sum", "record"].contains ·) =
      true := by rfl
  have hSum : (envelopeOf rt inner).text? "sum" = some (sha256Hex rt (canonical inner)) := rfl
  have hInner : (envelopeOf rt inner).field? "record" = some inner := rfl
  have hOuter : isVersion ((envelopeOf rt inner).field? "v") = true := rfl
  have hObject : (envelopeOf rt inner).isObject = true := rfl
  unfold openEnvelope
  simp only [require, need, hSize, hText, hJson, hObject, hOuter, hNames, hSum, hInner, hVersion,
    if_true, bind, Except.bind, pure, Except.pure, implies_true]

theorem decodeFlowRecord_of_openEnvelope {rt : FlowRuntime} {bytes : List UInt8} {inner : Json}
    {record : StoredRecord} (hOpen : openEnvelope rt bytes ANY_KEY = .ok inner)
    (hRead : parseRecord rt ⟨ANY_KEY, false⟩ (some inner) = .ok record) :
    decodeFlowRecord rt bytes = .ok record := by
  unfold decodeFlowRecord
  rw [hOpen]
  show (parseRecord rt ⟨ANY_KEY, false⟩ (some inner) >>= _) = _
  rw [hRead]
  simp [bind, Except.bind, pure, Except.pure]

/-- A record that was decoded was read. -/
theorem parseRecord_of_decodeFlowRecord {rt : FlowRuntime} {bytes : List UInt8} {key : String}
    {record : StoredRecord} (h : decodeFlowRecord rt bytes key = .ok record) :
    ∃ inner, parseRecord rt ⟨key, false⟩ (some inner) = .ok record := by
  unfold decodeFlowRecord at h
  simp only [bind_eq_ok] at h
  obtain ⟨inner, -, parsed, hParsed, h⟩ := h
  refine ⟨inner, ?_⟩
  split at h
  · rw [bind_eq_ok] at h
    obtain ⟨_, -, h⟩ := h
    obtain rfl := Except.ok.inj h
    exact hParsed
  · obtain rfl := Except.ok.inj h
    exact hParsed

theorem ledger_of_decodeFlowRecord {rt : FlowRuntime} {bytes : List UInt8} {key : String}
    {record : SellerFlowRecord} (h : decodeFlowRecord rt bytes key = .ok (.seller record)) :
    ∀ entry ∈ record.ledger, LinesMatch entry := by
  obtain ⟨inner, hParsed⟩ := parseRecord_of_decodeFlowRecord h
  exact ledger_of_parseRecord hParsed

end SwapDesk.Client.Flow
