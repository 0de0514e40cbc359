import SwapDesk.Client.FlowStoreFile
import SwapDesk.Client.Ledger
import SwapDesk.Lib.JsonLeaves

/-!
# SwapDesk — flow records as plain data

The records of `src/client/flow-record.ts` that a party keeps of its side of a swap, with the
fields that the journal does not look at, and the JSON that each of them is. A text that the
reader only takes in one shape carries the shape with it.

Main definitions: `SellerFlowRecord`, `BuyerFlowRecord` and what they are as JSON.
-/

namespace SwapDesk.Client.Flow

open FlowStore JsonText
open CharClass (isAlphanumeric isBase58 isDigit isHexLower)

-- ---------------------------------------------------------------------------
-- Shapes
-- ---------------------------------------------------------------------------

/-- A text of a given shape. -/
abbrev Shaped (shape : String → Bool) := { text : String // shape text = true }

/-- `/^0x[0-9a-f]{64}$/` -/
def HEX32 (text : String) : Bool := KEY_ID_SHAPE text.toList

/-- `/^([0-9a-f]{2})+$/` -/
def HEX_EVEN (text : String) : Bool :=
  !text.toList.isEmpty && text.toList.length % 2 = 0 && text.toList.all isHexLower

/-- `/^[0-9a-f]{64}$/` -/
def HEX64 (text : String) : Bool := text.toList.length = 64 && text.toList.all isHexLower

/-- `/^did:key:z[1-9A-HJ-NP-Za-km-z]+$/` -/
def DID (text : String) : Bool :=
  "did:key:z".toList.isPrefixOf text.toList && !(text.toList.drop 9).isEmpty &&
    (text.toList.drop 9).all isBase58

def isBase64 (c : Char) : Bool := isAlphanumeric c || c = '+' || c = '/'

/-- `/^[A-Za-z0-9+/]+={0,2}$/` -/
def BASE64 (text : String) : Bool :=
  !(text.toList.takeWhile isBase64).isEmpty &&
    [[], ['='], ['=', '=']].contains (text.toList.dropWhile isBase64)

/-- `/^[0-9]+$/` -/
def DIGITS (text : String) : Bool := !text.toList.isEmpty && text.toList.all isDigit

/-- `/^sha256:[0-9a-f]{64}$/` -/
def DIGEST_TEXT (text : String) : Bool :=
  "sha256:".toList.isPrefixOf text.toList && (text.toList.drop 7).length = 64 &&
    (text.toList.drop 7).all isHexLower

-- ---------------------------------------------------------------------------
-- Records
-- ---------------------------------------------------------------------------

structure RailAccountsJson where
  payer : Option String
  payee : Option String
  payerKey : Option String
  payeeKey : Option String
deriving DecidableEq, Repr

inductive MarkerKind where
  | bigint
  | number
deriving DecidableEq, Repr

structure BlockMarkerJson where
  kind : MarkerKind
  value : Shaped DIGITS
deriving DecidableEq, Repr

inductive WriteEvent where
  | locked
  | claimed
  | refunded
deriving DecidableEq, Repr

/-- `blockHash` and `blockHeight` may be null, which is not the same as left out. -/
structure WriteEvidenceJson where
  ref : String
  raw : List String
  event : Option WriteEvent
  txHash : Option String
  blockNumber : Option (Shaped DIGITS)
  blockHash : Option (Option String)
  logIndex : Option Nat
  txid : Option String
  blockHeight : Option (Option Nat)
  rawTx : Option (Shaped HEX_EVEN)
  claimedByAnotherTransaction : Bool
deriving DecidableEq, Repr

structure LegBDeadlinesJson where
  claimByMs : Nat
  refundAfterMs : Nat
  expiresMs : Nat
deriving DecidableEq, Repr

/-- What a rail needs to find a transaction again that it may have sent. -/
inductive LockRecovery where
  | evm (txHash : Shaped HEX32)
  | btc (txid : Shaped HEX64) (rawTx : Shaped HEX_EVEN)
  | near (txHash : String) (signedTxBase64 : Shaped BASE64)
  | sol (signature blockhash : String) (lastValidBlockHeight : Nat) (signedSlot : Option Nat)
deriving DecidableEq, Repr

structure ClaimTxRecord where
  txid : Shaped HEX64
  rawTx : Shaped HEX_EVEN
  sent : Bool
deriving DecidableEq, Repr

structure RailClaimRecord where
  signature : String
  blockhash : String
  lastValidBlockHeight : Nat
  signedSlot : Option Nat
deriving DecidableEq, Repr

structure OwnAccountLine where
  address : String
  text : String
deriving DecidableEq, Repr

/-- The fields of both roles that the journal leaves alone. -/
structure FlowRecordBase where
  swapId : Shaped HEX32
  did : Shaped DID
  railId : String
  caip2 : String
  deploymentId : String
  createdAtMs : Nat
  contractB : Option (Shaped HEX32)
  lockTimeMs : Option Nat
  legB : Option LegBDeadlinesJson
deriving DecidableEq, Repr

/-- With the state of one role. -/
structure FlowFields (σ : Type) extends FlowRecordBase where
  state : σ

inductive ClaimOutcome where
  | none
  | landed
  | failedPublic
deriving DecidableEq, Repr

structure LegBRefund where
  attempted : Bool
  done : Bool
  framesPosted : Bool
deriving DecidableEq, Repr

structure SellerFlowState where
  contractA : Shaped HEX32
  preimage : Shaped HEX32
  statement : Shaped HEX32
  attemptedAcceptB : Option (Shaped HEX32)
  lockedLegBContract : Option (Shaped HEX32)
  frozenLegAAccounts : Option RailAccountsJson
  frozenLegARailRef : Option String
  ownAccountLine : Option OwnAccountLine
  claimAttempted : Bool
  claimFromBlock : Option BlockMarkerJson
  claimTxHash : Option (Shaped HEX32)
  claimTx : Option ClaimTxRecord
  claimRecords : List RailClaimRecord
  publicClaimSignature : Option String
  neverLandedClaims : Nat
  claimOutcome : ClaimOutcome
  revealPosted : Bool
  receiptPosted : Bool
  legBRefund : LegBRefund
  legBClaimSeen : Bool
deriving DecidableEq, Repr

structure PreparedLock where
  ref : String
  recovery : Option LockRecovery
deriving DecidableEq, Repr

structure BuyerLock where
  attempted : Bool
  prepared : Option PreparedLock
  fromBlock : Option BlockMarkerJson
  accounts : Option RailAccountsJson
  hashLock : Option (Shaped HEX32)
  evidence : Option WriteEvidenceJson
  framePosted : Bool
  neverLanded : Bool
deriving DecidableEq, Repr

structure BuyerRefund where
  attempted : Bool
  recovery : Option LockRecovery
  evidence : Option WriteEvidenceJson
  framesPosted : Bool
  claimSeen : Bool
deriving DecidableEq, Repr

structure BuyerFlowState where
  contractA : Option (Shaped HEX32)
  legBVerified : Bool
  ownAccountLine : Option OwnAccountLine
  lock : BuyerLock
  legBClaimAttempted : Bool
  legBClaimed : Bool
  legBClaimAdopted : Bool
  refund : BuyerRefund
  refundNotes : List String
deriving DecidableEq, Repr

abbrev SellerFlowRecord := FlowRecord (FlowFields SellerFlowState)

abbrev BuyerFlowRecord := FlowRecord (FlowFields BuyerFlowState)

/-- A record of either role. -/
inductive StoredRecord where
  | seller (record : SellerFlowRecord)
  | buyer (record : BuyerFlowRecord)

-- ---------------------------------------------------------------------------
-- As JSON
-- ---------------------------------------------------------------------------

def jsonNat (n : Nat) : Json := .num (.int n)

def jsonNullable (text : Option String) : Json :=
  match text with
  | none => .null
  | some text => .str text

/-- A field that is left out when there is no value. -/
def member {α : Type} (name : String) (value : Option α) (toJson : α → Json) :
    List (String × Json) :=
  (value.map fun a => (name, toJson a)).toList

/-- A field that is `true` or left out. -/
def flag (name : String) (present : Bool) : List (String × Json) :=
  if present then [(name, .bool true)] else []

def textMember (name : String) (value : Option String) : List (String × Json) :=
  member name value .str

def shapedMember {shape : String → Bool} (name : String) (value : Option (Shaped shape)) :
    List (String × Json) :=
  member name value fun text => .str text.val

def transcriptJson (record : TranscriptRecordJson) : Json :=
  .obj [("room", .str record.room), ("seq", jsonNat record.seq),
    ("timestampMs", .num (.int record.timestampMs)), ("sender", .str record.sender),
    ("nonce", jsonNullable record.nonce), ("signature", jsonNullable record.signature),
    ("line", .str record.line)]

def frameSlotJson (slot : FrameSlot) : Json :=
  .obj ([("text", .str slot.text)] ++ member "record" slot.record transcriptJson)

def slotNames : List (Slot × String) :=
  [(.offerA, "offerA"), (.acceptA, "acceptA"), (.offerB, "offerB"), (.acceptB, "acceptB")]

def framesJson (frames : Slot → Option FrameSlot) : Json :=
  .obj (slotNames.flatMap fun (slot, name) => member name (frames slot) frameSlotJson)

def LedgerKind.text : LedgerKind → String
  | .offerA => "offer-a"
  | .acceptA => "accept-a"
  | .offerB => "offer-b"
  | .acceptB => "accept-b"
  | .accountA => "account-a"
  | .lockA => "lock-a"
  | .lockB => "lock-b"
  | .revealA => "reveal-a"
  | .receiptA => "receipt-a"
  | .revealB => "reveal-b"
  | .receiptB => "receipt-b"
  | .refundA => "refund-a"
  | .receiptRefundA => "receipt-refund-a"
  | .refundB => "refund-b"
  | .receiptRefundB => "receipt-refund-b"

def landedJson (landed : Landed) : Json :=
  .obj ([("seq", jsonNat landed.seq), ("nonce", jsonNullable landed.nonce)] ++
    member "record" landed.record transcriptJson)

def ledgerEntryJson (entry : LedgerEntry) : Json :=
  .obj ([("kind", .str (LedgerKind.text entry.kind)), ("room", .str entry.room),
    ("text", .str entry.text)] ++ member "landed" entry.landed landedJson)

def accountsJson (accounts : RailAccountsJson) : Json :=
  .obj (textMember "payer" accounts.payer ++ textMember "payee" accounts.payee ++
    textMember "payerKey" accounts.payerKey ++ textMember "payeeKey" accounts.payeeKey)

def markerJson (marker : BlockMarkerJson) : Json :=
  .obj [("kind", .str (match marker.kind with | .bigint => "bigint" | .number => "number")),
    ("value", .str marker.value.val)]

def WriteEvent.text : WriteEvent → String
  | .locked => "Locked"
  | .claimed => "Claimed"
  | .refunded => "Refunded"

def evidenceJson (evidence : WriteEvidenceJson) : Json :=
  .obj ([("ref", .str evidence.ref), ("raw", .arr (evidence.raw.map .str))] ++
    member "event" evidence.event (fun event => .str event.text) ++
    textMember "txHash" evidence.txHash ++ shapedMember "blockNumber" evidence.blockNumber ++
    member "blockHash" evidence.blockHash jsonNullable ++
    member "logIndex" evidence.logIndex jsonNat ++ textMember "txid" evidence.txid ++
    member "blockHeight" evidence.blockHeight
      (fun height => match height with | none => .null | some n => jsonNat n) ++
    shapedMember "rawTx" evidence.rawTx ++
    flag "claimedByAnotherTransaction" evidence.claimedByAnotherTransaction)

def legBJson (legB : LegBDeadlinesJson) : Json :=
  .obj [("claimByMs", jsonNat legB.claimByMs), ("refundAfterMs", jsonNat legB.refundAfterMs),
    ("expiresMs", jsonNat legB.expiresMs)]

def recoveryJson : LockRecovery → Json
  | .evm txHash => .obj [("chain", .str "evm"), ("txHash", .str txHash.val)]
  | .btc txid rawTx =>
    .obj [("chain", .str "btc"), ("txid", .str txid.val), ("rawTx", .str rawTx.val)]
  | .near txHash signedTxBase64 =>
    .obj [("chain", .str "near"), ("txHash", .str txHash),
      ("signedTxBase64", .str signedTxBase64.val)]
  | .sol signature blockhash lastValidBlockHeight signedSlot =>
    .obj ([("chain", .str "sol"), ("signature", .str signature), ("blockhash", .str blockhash),
      ("lastValidBlockHeight", jsonNat lastValidBlockHeight)] ++
      member "signedSlot" signedSlot jsonNat)

def claimTxJson (rawTx : String) (claimTx : ClaimTxRecord) : Json :=
  .obj ([("txid", .str claimTx.txid.val), ("rawTx", .str rawTx)] ++ flag "sent" claimTx.sent)

def claimRecordJson (record : RailClaimRecord) : Json :=
  .obj ([("signature", .str record.signature), ("blockhash", .str record.blockhash),
    ("lastValidBlockHeight", jsonNat record.lastValidBlockHeight)] ++
    member "signedSlot" record.signedSlot jsonNat)

def ownAccountLineJson (line : OwnAccountLine) : Json :=
  .obj [("address", .str line.address), ("text", .str line.text)]

def FLOW_RECORD_VERSION : Nat := 1

/-- The fields of both roles, but for the ledger. -/
def commonFields {σ : Type} (role : String) (record : FlowRecord (FlowFields σ)) :
    List (String × Json) :=
  let rest := record.rest
  [("v", jsonNat FLOW_RECORD_VERSION), ("role", .str role), ("swapId", .str rest.swapId.val),
    ("did", .str rest.did.val), ("railId", .str rest.railId), ("caip2", .str rest.caip2),
    ("deploymentId", .str rest.deploymentId), ("createdAtMs", jsonNat rest.createdAtMs),
    ("updatedAtMs", .num (.int record.updatedAtMs)), ("revision", jsonNat record.revision),
    ("frames", framesJson record.frames)] ++
    shapedMember "contractB" rest.contractB ++ member "lockTimeMs" rest.lockTimeMs jsonNat ++
    member "legB" rest.legB legBJson

def ledgerJson (ledger : List LedgerEntry) : Json := .arr (ledger.map ledgerEntryJson)

def ClaimOutcome.text : ClaimOutcome → String
  | .none => "none"
  | .landed => "landed"
  | .failedPublic => "failed-public"

/-- The fields of a Seller's state, but for the preimage and the claim transaction. -/
def sellerFields (state : SellerFlowState) : List (String × Json) :=
  [("contractA", .str state.contractA.val), ("statement", .str state.statement.val)] ++
    shapedMember "attemptedAcceptB" state.attemptedAcceptB ++
    shapedMember "lockedLegBContract" state.lockedLegBContract ++
    member "frozenLegAAccounts" state.frozenLegAAccounts accountsJson ++
    textMember "frozenLegARailRef" state.frozenLegARailRef ++
    member "ownAccountLine" state.ownAccountLine ownAccountLineJson ++
    [("claimAttempted", .bool state.claimAttempted)] ++
    member "claimFromBlock" state.claimFromBlock markerJson ++
    shapedMember "claimTxHash" state.claimTxHash ++
    [("claimRecords", .arr (state.claimRecords.map claimRecordJson))] ++
    textMember "publicClaimSignature" state.publicClaimSignature ++
    [("neverLandedClaims", jsonNat state.neverLandedClaims),
      ("claimOutcome", .str state.claimOutcome.text), ("revealPosted", .bool state.revealPosted),
      ("receiptPosted", .bool state.receiptPosted),
      ("legBRefund", .obj [("attempted", .bool state.legBRefund.attempted),
        ("done", .bool state.legBRefund.done),
        ("framesPosted", .bool state.legBRefund.framesPosted)])] ++
    flag "legBClaimSeen" state.legBClaimSeen

/-- The fields of a Seller's record that a copy of it may have other texts in. -/
structure SellerCopy where
  ledger : List LedgerEntry
  preimage : String
  /-- The bytes of the claim transaction, when there is one. -/
  rawTx : Option String

/-- The copy that has changed nothing. -/
def sellerCopy (record : SellerFlowRecord) : SellerCopy :=
  let state := record.rest.state
  ⟨record.ledger, state.preimage.val, state.claimTx.map (·.rawTx.val)⟩

def sellerCopyJson (record : SellerFlowRecord) (copy : SellerCopy) : Json :=
  let state := record.rest.state
  .obj (commonFields "seller" record ++ [("ledger", ledgerJson copy.ledger)] ++
    sellerFields state ++ [("preimage", .str copy.preimage)] ++
    member "claimTx" state.claimTx (claimTxJson (copy.rawTx.getD "")))

def sellerJson (record : SellerFlowRecord) : Json := sellerCopyJson record (sellerCopy record)

def preparedJson (prepared : PreparedLock) : Json :=
  .obj ([("ref", .str prepared.ref)] ++ member "recovery" prepared.recovery recoveryJson)

def lockJson (lock : BuyerLock) : Json :=
  .obj ([("attempted", .bool lock.attempted)] ++ member "prepared" lock.prepared preparedJson ++
    member "fromBlock" lock.fromBlock markerJson ++ member "accounts" lock.accounts accountsJson ++
    shapedMember "hashLock" lock.hashLock ++ member "evidence" lock.evidence evidenceJson ++
    [("framePosted", .bool lock.framePosted)] ++ flag "neverLanded" lock.neverLanded)

def refundJson (refund : BuyerRefund) : Json :=
  .obj ([("attempted", .bool refund.attempted)] ++ member "recovery" refund.recovery recoveryJson ++
    member "evidence" refund.evidence evidenceJson ++
    [("framesPosted", .bool refund.framesPosted)] ++ flag "claimSeen" refund.claimSeen)

def buyerFields (state : BuyerFlowState) : List (String × Json) :=
  shapedMember "contractA" state.contractA ++ [("legBVerified", .bool state.legBVerified)] ++
    member "ownAccountLine" state.ownAccountLine ownAccountLineJson ++
    [("lock", lockJson state.lock), ("legBClaimAttempted", .bool state.legBClaimAttempted),
      ("legBClaimed", .bool state.legBClaimed)] ++
    flag "legBClaimAdopted" state.legBClaimAdopted ++
    [("refund", refundJson state.refund), ("refundNotes", .arr (state.refundNotes.map .str))]

def buyerJson (record : BuyerFlowRecord) : Json :=
  .obj (commonFields "buyer" record ++ [("ledger", ledgerJson record.ledger)] ++
    buyerFields record.rest.state)

end SwapDesk.Client.Flow
