import SwapDesk.Client.FlowRecord
import SwapDesk.Desk.Deadlines
import SwapDesk.Desk.Profile
import SwapDesk.Desk.Swap
import SwapDesk.Desk.Replay
import SwapDesk.Lib.Decimal
import SwapDesk.Lib.Routine

/-!
# SwapDesk — the Buyer's flow

`BuyerFlow` of `src/client/buyer.ts` from the point where leg B is accepted, with a store. Each of
its calls is a program: what it reads of its own fields and of the clock, the saves that it
awaits, and what it asks of the venue, of the paper rail and of leg A's rail are operations. A
runner makes one call at a time.

`commitLock` and `refund` of a rail call back into the flow; here they are the steps between
which they do so. Save and post are single operations, of which `SwapDesk.Client.Journal` is the
inside.

The calls that settle the swap are in `SwapDesk.Client.BuyerSettle`, and main results in
`SwapDesk.Client.BuyerSafety`.
-/

namespace SwapDesk.Client.Buyer

open Check Desk Client.Flow

-- ---------------------------------------------------------------------------
-- What the flow is given
-- ---------------------------------------------------------------------------

/-- A `reveal` frame. -/
structure RevealFrame where
  sender : String
  contract : String
  ref : Option String
  secret : String
deriving DecidableEq, Repr

/-- What the flow uses of the code around it. -/
structure BuyerDeps where
  tclk : Tclk
  /-- `tryDecodeFrame`, of a reveal. -/
  decodeReveal : String → Option RevealFrame
  /-- Of a lock kind, a statement and a secret. -/
  verifySecret : String → String → String → Bool
  /-- The text of a number in a template literal. -/
  numberText : ℚ → String
  quotedAssetNameOrPlaceholder : String → String

/-- Leg A's rail, as far as the flow looks at it. -/
structure CounterAssetRail where
  railId : String
  policy : DeadlinePolicy
  /-- `policy === BASE_SEPOLIA_POLICY` -/
  baseSepolia : Bool
  minLockableAmount : Option Nat
  assetId : Option String
  maxChainClockSkewMs : ℤ
  /-- Of the records of the deal room. -/
  resolveAccounts : List Desk.TranscriptRecord → (contract payerDid payeeDid : String) →
    Except String RailAccountsJson
  /-- A lock takes an `approve` first. -/
  approves : Bool
  hasResendLock : Bool
  hasLockRecorded : Bool
  hasSettleDelay : Bool
  hasLockAbsence : Bool
  hasCheckPendingClaim : Bool
  hasRecoverRefund : Bool
  hasResendRefund : Bool
  hasResendRefundIfDropped : Bool

/-- The frames that `acceptLegB` ends with. A statement that decodes is 32 bytes in hex. -/
structure Pairing where
  did : String
  offerA : OfferFrame
  offerB : OfferFrame
  acceptA : AcceptFrame
  acceptB : AcceptFrame
  statement : Shaped HEX32
  statement_eq : acceptA.statement = statement.val

def Pairing.termsA (pairing : Pairing) : LockTerms :=
  offerAcceptLockTerms pairing.offerA pairing.acceptA

def Pairing.termsB (pairing : Pairing) : LockTerms :=
  offerAcceptLockTerms pairing.offerB pairing.acceptB

-- ---------------------------------------------------------------------------
-- The fields of the flow
-- ---------------------------------------------------------------------------

/-- A round trip of a write, as the rail has recorded it. The flow hands it on unread. -/
structure Exchange where
  requestBody : String
  responseBytes : List UInt8
  atMs : ℤ
deriving DecidableEq, Repr

/-- The fields that a step may change. -/
structure Live where
  legBVerified : Bool
  legALockAttempted : Bool
  lockedHashLock : Option (Shaped HEX32)
  lockedRailRef : Option String
  lockedFromBlock : Option BlockMarkerJson
  lockedAccounts : Option RailAccountsJson
  lockFramePosted : Bool
  preparedLock : Option PreparedLock
  lockEvidence : Option WriteEvidenceJson
  lockNeverLanded : Bool
  legBClaimAttempted : Bool
  legBClaimed : Bool
  legBClaimAdopted : Bool
  refundAttempted : Bool
  refundClaimSeen : Bool
  refundRecovery : Option LockRecovery
  refundNotes : List String
  legARefundEvidence : Option WriteEvidenceJson
  legARefundFramesPosted : Bool
  /-- For the evidence bundle. No record has them. -/
  writeExchanges : List Exchange
deriving DecidableEq, Repr

/-- The record of a flow, as far as the calls after the pairing read it or change it. -/
structure Stored where
  state : BuyerFlowState
  /-- The lines that the ledger has an entry of. -/
  entered : List LedgerKind
  /-- The lines that the ledger says have landed. -/
  landed : List LedgerKind
deriving DecidableEq, Repr

def Stored.isLanded (stored : Stored) (kind : LedgerKind) : Bool := stored.landed.contains kind

/-- The live state laid over a record. -/
def project (live : Live) (r : Stored) : Stored :=
  { r with state := { r.state with
    legBVerified := live.legBVerified
    lock :=
      { attempted := live.legALockAttempted
        prepared := live.preparedLock
        fromBlock := live.lockedFromBlock
        accounts := live.lockedAccounts
        hashLock := live.lockedHashLock
        evidence := live.lockEvidence
        framePosted := live.lockFramePosted || r.isLanded .lockA
        neverLanded := live.lockNeverLanded }
    legBClaimAttempted := live.legBClaimAttempted
    legBClaimed := live.legBClaimed
    legBClaimAdopted := live.legBClaimAdopted
    refund :=
      { attempted := live.refundAttempted
        recovery := live.refundRecovery
        evidence := live.legARefundEvidence
        framesPosted := live.legARefundFramesPosted || r.isLanded .receiptRefundA
        claimSeen := live.refundClaimSeen }
    refundNotes := live.refundNotes } }

/-- Every field from a stored record; a new process has no exchanges yet. -/
def applyRecord (record : Stored) : Live :=
  let lock := record.state.lock
  let refund := record.state.refund
  { legBVerified := record.state.legBVerified
    legALockAttempted := lock.attempted
    lockedHashLock := lock.hashLock
    lockedRailRef := (lock.prepared.map (·.ref)).or (lock.evidence.map (·.ref))
    lockedFromBlock := lock.fromBlock
    lockedAccounts := lock.accounts
    lockFramePosted := lock.framePosted || record.isLanded .lockA
    preparedLock := lock.prepared
    lockEvidence := lock.evidence
    lockNeverLanded := lock.neverLanded
    legBClaimAttempted := record.state.legBClaimAttempted
    legBClaimed := record.state.legBClaimed
    legBClaimAdopted := record.state.legBClaimAdopted
    refundAttempted := refund.attempted
    refundClaimSeen := refund.claimSeen
    refundRecovery := refund.recovery
    refundNotes := record.state.refundNotes
    legARefundEvidence := refund.evidence
    legARefundFramesPosted := refund.framesPosted || record.isLanded .receiptRefundA
    writeExchanges := [] }

-- ---------------------------------------------------------------------------
-- What a call asks for
-- ---------------------------------------------------------------------------

inductive RailRecoveryCode where
  | noHandle
  | handleMismatch
  | rebroadcastRefused
  | lockConflict
deriving DecidableEq, Repr

/-- The write of an EVM rail whose receipt did not come in time. -/
inductive EvmWrite where
  | approve
  | lock
  | claim
  | refund
deriving DecidableEq, Repr

inductive Failure where
  | error (message : String)
  | lockPending (ref : String)
  | lockExistsAfterVerdict (ref : String)
  | refundNotFinalYet (ref : String) (refundAfterMs : ℤ)
  | recordConflict (message : String)
  | recoveryRefused (code : RailRecoveryCode) (ref detail : String)
  /-- `EvmReceiptTimeoutError`, with the hash in lower case. -/
  | receiptTimeout (write : EvmWrite) (hash : Shaped HEX32)
  /-- `isLandedAndFailedRefund` -/
  | landedAndFailed (message : String)
deriving DecidableEq, Repr

inductive LockRecoveryOutcome where
  | landed
  | neverLanded
  | pending
  | unknown
deriving DecidableEq, Repr

inductive LockAbsence where
  | landed
  | neverLocked
  | notFinal
deriving DecidableEq, Repr

structure RailEvidenceResult where
  lock : LockEvidence
  rail : Option RailObservation
deriving DecidableEq, Repr

inductive NoteStatus where
  | locked
  | claimed
  | refunded
deriving DecidableEq, Repr

/-- What the paper rail keeps of leg B. -/
structure Note where
  lock : String
  statement : String
  refundAfterMs : ℤ
  status : NoteStatus
  secret : Option String
deriving DecidableEq, Repr

/-- A line to post. The first two are frames; the account line is its own text. -/
inductive Line where
  | lock (contract rail ref : String)
  | reveal (contract ref secret : String)
  | receipt (contract outcome rail ref : String)
  | refund (contract ref : String)
  | account (text : String)
deriving DecidableEq, Repr

/-- What became of a refund that was handed to the network. -/
inductive Sent where
  | sent (evidence : WriteEvidenceJson)
  /-- It provably never was. -/
  | notBroadcast (error : Failure)
deriving DecidableEq, Repr

inductive Op where
  | look
  | modify (change : Live → Live)
  | usable
  | record
  /-- `journal.update`, which lays the live state over the record. -/
  | persist
  | saveAccountLine (line : OwnAccountLine)
  /-- Has the line landed, or is it in the room? -/
  | adopt (kind : LedgerKind) (line : Line)
  | post (kind : LedgerKind) (line : Line)
  | clock
  | read (contract : String)
  | proveAccountLine (address : String)
  | paperVerifyLock
  | paperRead
  | paperClaim (secret : String)
  | connect (accounts : RailAccountsJson)
  | chainTimeMs
  | currentBlockMarker
  /-- `connected.exchanges`, from where the write began. -/
  | newExchanges
  | prepareLock
  /-- The first step of a lock that takes two. -/
  | approve
  | sendLock (prepared : PreparedLock)
  | recoverLock (prepared : PreparedLock)
  | resendLock (prepared : PreparedLock)
  | settleDelay
  | verifyLockFinal (ref : String) (accounts : RailAccountsJson)
  | lockRecorded (ref : String)
  | lockAbsence (ref : String) (refundAfterMs : ℤ)
  | checkPendingClaim (ref : String) (fromBlock : Option BlockMarkerJson)
  | findClaimedPreimage (ref : String) (fromBlock : Option BlockMarkerJson)
  /-- The handle of the refund that was signed, when the rail can give one before it sends. -/
  | signRefund (ref : String)
  | sendRefund (ref : String) (signed : Option LockRecovery)
  | resendRefundIfDropped (ref : String) (evidence : WriteEvidenceJson)
  | recoverRefund (ref : String) (handle : LockRecovery)
  | resendRefund (ref : String) (handle : LockRecovery)

/-- What an operation answers, when it does not throw. -/
@[reducible] def Op.Value : Op → Type
  | .look => Live
  | .record => Stored
  | .adopt .. => Bool
  | .clock => ℤ
  | .read _ => List Desk.TranscriptRecord
  | .proveAccountLine _ => String
  | .paperVerifyLock => Bool
  | .paperRead => Option Note
  | .chainTimeMs => ℤ
  | .currentBlockMarker => BlockMarkerJson
  | .newExchanges => List Exchange
  | .prepareLock => PreparedLock
  | .sendLock _ => WriteEvidenceJson
  | .recoverLock _ => LockRecoveryOutcome
  | .resendLock _ => LockRecoveryOutcome
  | .verifyLockFinal .. => RailEvidenceResult
  | .lockRecorded _ => Bool
  | .lockAbsence .. => LockAbsence
  | .checkPendingClaim .. => Option String
  | .findClaimedPreimage .. => Option String
  | .signRefund _ => Option LockRecovery
  | .sendRefund .. => Sent
  | .resendRefundIfDropped .. => WriteEvidenceJson
  | .recoverRefund .. => LockRecoveryOutcome
  | .resendRefund .. => LockRecoveryOutcome
  | _ => Unit

abbrev Op.Answer (o : Op) : Type := Except Failure o.Value

abbrev BuyerRoutine := Routine Op.Answer Failure

/-- An operation that ends the call when it throws. -/
def ask (o : Op) : BuyerRoutine o.Value := (Routine.call o).bind Routine.ofExcept

/-- A refusal of the flow, in its own words. -/
def refuse {α : Type} (message : String) : BuyerRoutine α := .fail (.error message)

def check (condition : Prop) [Decidable condition] (message : String) : BuyerRoutine Unit :=
  Routine.ofExcept (require condition (.error message))

def found {α : Type} (value : Option α) (message : String) : BuyerRoutine α :=
  Routine.ofExcept (need value (.error message))

/-- A change of the fields that is made durable at once. -/
def save (change : Live → Live) : BuyerRoutine Unit := do
  ask (.modify change)
  ask .persist

/-- What the rail has recorded of a write is kept. -/
def keepExchanges : BuyerRoutine Unit := do
  let exchanges ← ask .newExchanges
  ask (.modify fun live => { live with writeExchanges := live.writeExchanges ++ exchanges })

/-- `if (condition) { … }` -/
def whenever (condition : Bool) (t : BuyerRoutine Unit) : BuyerRoutine Unit :=
  if condition then t else pure ()

/-- A line is posted once, as its saved text, or adopted from the room. -/
def ensurePosted (kind : LedgerKind) (line : Line) (guard : BuyerRoutine Unit) :
    BuyerRoutine Unit := do
  let there ← ask (.adopt kind line)
  whenever (!there) do
    guard
    ask (.post kind line)

section

variable (deps : BuyerDeps) (rail : CounterAssetRail) (pairing : Pairing)

-- ---------------------------------------------------------------------------
-- Before a lock
-- ---------------------------------------------------------------------------

def LOCK_SETTLE_ALLOWANCE_MS : ℤ := 10 * 60000

/-- The deadlines at a lock time, with the room that a lock on Base Sepolia needs to read final. -/
def lockDeadlines (lockTimeMs : ℤ) : DeadlineCheck :=
  let deadlineCheck := checkSwapDeadlines deps.numberText pairing.offerA pairing.offerB lockTimeMs
    rail.policy
  let needMs := rail.policy.finalityAMs + LOCK_SETTLE_ALLOWANCE_MS
  let leftMs := pairing.offerA.claimByMs - lockTimeMs
  if rail.baseSepolia = true ∧ leftMs < needMs then
    { deadlineCheck with
      ok := false
      violations := deadlineCheck.violations ++ [.malformed
        ("finality: leg A's claim-by is " ++ deps.numberText leftMs ++
          " ms after the lock time, less than the " ++ deps.numberText needMs ++
          " ms (finality budget " ++ deps.numberText rail.policy.finalityAMs ++
          " ms plus lock allowance " ++ deps.numberText LOCK_SETTLE_ALLOWANCE_MS ++
          " ms) the lock needs to read final and still be claimed (P94-FUND-05)")] }
  else deadlineCheck

def checkLockDeadlines : BuyerRoutine Unit := do
  let lockTimeMs ← ask .clock
  let deadlineCheck := lockDeadlines deps rail pairing lockTimeMs
  check (deadlineCheck.ok = true)
    ("buyer: refusing to lock leg A — deadlines are no longer safe at lock time (B3): " ++
      "; ".intercalate (deadlineCheck.violations.map Violation.text))

/-- The amounts of offers are decimal integers. -/
def belowMinLockable (amount : String) : Bool :=
  rail.minLockableAmount.any fun least => Nat.ofDigitChars 10 amount.toList 0 < least

def checkLegBMatchesWant (t : Tclk) (offerB : OfferFrame) (want : LegAContext) :
    Except String Unit := do
  require (offerB.asset = want.wantAsset)
    ("leg B pays asset " ++ offerB.asset ++ ", not the " ++ want.wantAsset ++ " leg A asked for")
  require (offerB.amount = want.wantAmount)
    ("leg B pays amount " ++ offerB.amount ++ ", not the " ++ want.wantAmount ++
      " leg A asked for")
  let rails ← need (offerB.rails.mapM t.normalizeRailId) "leg B names an unregistered rail"
  require (want.wantRail ∈ rails)
    ("leg B rails (" ++ ", ".intercalate rails ++ ") do not include the " ++ want.wantRail ++
      " rail leg A asked for")

/-- The checks of the offers that spending real value repeats. -/
def checkOffers : Except String Unit := do
  require (rail.assetId.all fun assetId => pairing.offerA.asset = assetId)
    ("buyer: refusing to lock leg A - asset \"" ++ pairing.offerA.asset ++
      "\" does not match this rail's own asset " ++
      deps.quotedAssetNameOrPlaceholder (rail.assetId.getD "") ++ " (K3)")
  require (belowMinLockable rail pairing.offerA.amount = false)
    ("buyer: refusing to lock leg A — " ++ pairing.offerA.amount ++ " " ++ pairing.offerA.asset ++
      " is below this rail's minimum lockable amount " ++
      deps.numberText (rail.minLockableAmount.getD 0 : ℕ) ++ " (G6)")
  match classifySwapOffer deps.tclk pairing.offerA with
  | some ⟨_, .a context⟩ =>
    (checkLegBMatchesWant deps.tclk pairing.offerB context).mapError fun reason =>
      "buyer: refusing to lock leg A — leg B no longer matches what leg A asked for: " ++
        reason ++ " (C2)"
  | _ =>
    .error
      "buyer: refusing to lock leg A — this flow's own leg A offer is not a valid swap leg"

/-- The guards of every new action on leg A's lock. -/
def checkLockGuards : BuyerRoutine Unit := do
  checkLockDeadlines deps rail pairing
  Routine.ofExcept ((checkOffers deps rail pairing).mapError .error)
  let legBStillLocked ← ask .paperVerifyLock
  check (legBStillLocked = true)
    "buyer: refusing to lock leg A — leg B no longer verifies on the paper rail (E1)"

def checkAccounts (accounts : RailAccountsJson) : BuyerRoutine Unit := do
  check (accounts.payee.isSome = true)
    "buyer: refusing to lock leg A — the Seller's account line has not resolved (D-08)"
  check (accounts.payer.isSome = true)
    ("buyer: refusing to lock leg A, our own proven payer account line has not resolved (P7)")

def chainClockProblem (chainMs localMs boundMs : ℤ) : Option String :=
  if |chainMs - localMs| ≤ boundMs then none
  else some ("the chain's finalized clock (" ++ deps.numberText chainMs ++
    ") and the local clock (" ++ deps.numberText localMs ++ ") differ by " ++
    deps.numberText |chainMs - localMs| ++ " ms, more than " ++ deps.numberText boundMs ++
    " ms (R3-7)")

/-- Solana alone: the two clocks agree. -/
def checkChainClock : BuyerRoutine Unit :=
  whenever (rail.railId = SOL_RAIL_ID) do
    let chainMs ← ask .chainTimeMs
    let localMs ← ask .clock
    Routine.ofExcept (refute (chainClockProblem deps chainMs localMs rail.maxChainClockSkewMs)
      fun problem => .error ("buyer: refusing to lock leg A - " ++ problem))

-- ---------------------------------------------------------------------------
-- Locking leg A
-- ---------------------------------------------------------------------------

def LOCK_MARKER_REORG_MARGIN_EVM : ℕ := 256

/-- A printed number is one of digits. -/
theorem digits_toDigits (n : ℕ) : DIGITS (String.ofList (Nat.toDigits 10 n)) = true := by
  obtain ⟨hSome, hDigits, -⟩ := Decimal.canonical_toDigits n
  have hAll : (Nat.toDigits 10 n).all CharClass.isDigit = true := by
    refine List.all_eq_true.mpr fun c hc => ?_
    obtain ⟨hLow, hHigh⟩ := Char.isDigit_iff_toNat.mp (hDigits c hc)
    simpa only [CharClass.isDigit, Bool.and_eq_true, decide_eq_true_eq] using ⟨hLow, hHigh⟩
  simp only [DIGITS, String.toList_ofList, hAll, List.isEmpty_eq_false_iff.mpr hSome,
    Bool.not_false, Bool.and_self]

/-- A block number of an EVM chain, less the margin. -/
def lockMarkerWithReorgMargin (marker : BlockMarkerJson) : BlockMarkerJson :=
  match marker.kind with
  | .bigint =>
    ⟨.bigint, ⟨_, digits_toDigits
      (Nat.ofDigitChars 10 marker.value.val.toList 0 - LOCK_MARKER_REORG_MARGIN_EVM)⟩⟩
  | .number => marker

/-- Leg A's lock frame, unless the offer's refund time has come. -/
def announceLockA (ref : String) : BuyerRoutine Unit := do
  let live ← ask .look
  whenever (!live.lockFramePosted) do
    let now ← ask .clock
    whenever (now < pairing.offerA.refundAfterMs) do
      ensurePosted .lockA (.lock pairing.acceptA.contract rail.railId ref) (pure ())
      save fun live => { live with lockFramePosted := true }

/-- A rail whose lock takes two steps is asked again before the second. -/
def commitLock (prepared : PreparedLock) : BuyerRoutine WriteEvidenceJson :=
  if rail.approves then do
    ask .approve
    checkLockDeadlines deps rail pairing
    ask (.sendLock prepared)
  else ask (.sendLock prepared)

/-- The hash of a lock whose receipt did not come is kept. -/
def recordTimeout : Failure → BuyerRoutine Unit
  | .receiptTimeout .lock hash => do
    let live ← ask .look
    match live.preparedLock with
    | none => pure ()
    | some prepared =>
      (save fun live =>
        { live with preparedLock := some ⟨prepared.ref, some (.evm hash)⟩ }).orElse fun _ => pure ()
  | _ => pure ()

def commitLockRecordingTimeout (prepared : PreparedLock) : BuyerRoutine WriteEvidenceJson :=
  (commitLock deps rail pairing prepared).orElse fun error => do
    recordTimeout error
    .fail error

/-- Evidence that has no more than what the flow knows itself. -/
def bareEvidence (ref : String) (recovery : Option LockRecovery) : WriteEvidenceJson :=
  { ref, raw := [], event := none, txHash := none, blockNumber := none, blockHash := none
    logIndex := none
    txid := match recovery with
      | some (.btc txid _) => some txid.val
      | _ => none
    blockHeight := none, rawTx := none, claimedByAnotherTransaction := false }

/-- What a call of `lockLegA` hands back. -/
structure Locked where
  hashLock : Shaped HEX32
  writeEvidence : WriteEvidenceJson
deriving DecidableEq, Repr

/-- The lock is sent, and what it left is saved and told. -/
def sendAndAnnounce (prepared : PreparedLock) (hashLock : Shaped HEX32) : BuyerRoutine Locked := do
  let writeEvidence ← commitLockRecordingTimeout deps rail pairing prepared
  keepExchanges
  save fun live => { live with lockEvidence := some writeEvidence }
  announceLockA rail pairing writeEvidence.ref
  return ⟨hashLock, writeEvidence⟩

/-- The chain showed this flow's lock. -/
def recordLockLanded (prepared : PreparedLock) (hashLock : Shaped HEX32) :
    BuyerRoutine Locked := do
  let writeEvidence := bareEvidence prepared.ref prepared.recovery
  save fun live => { live with lockEvidence := some writeEvidence }
  announceLockA rail pairing writeEvidence.ref
  return ⟨hashLock, writeEvidence⟩

/-- The permissive check of a rail that has one. -/
def lockRecorded (ref : String) : BuyerRoutine Bool :=
  if rail.hasLockRecorded then ask (.lockRecorded ref) else pure false

/-- One more read of a lock that the rail says never landed. -/
def lockFoundAfterNeverLanded (ref : String) (accounts : RailAccountsJson) :
    BuyerRoutine Bool := do
  whenever rail.hasSettleDelay (ask .settleDelay)
  let evidence ← ask (.verifyLockFinal ref accounts)
  if evidence.rail.isSome then pure true else lockRecorded rail ref

/-- Exactly one fresh lock, which must be the saved one by its ref. -/
def lockAfresh (prepared : PreparedLock) (hashLock : Shaped HEX32) : BuyerRoutine Locked := do
  let fresh ← ask .prepareLock
  Routine.ofExcept (require (fresh.ref = prepared.ref) (.recoveryRefused .handleMismatch
    prepared.ref ("a fresh prepareLock named " ++ fresh.ref ++
      "; the saved lock is never replaced by a different one")))
  save fun live => { live with preparedLock := some fresh }
  sendAndAnnounce deps rail pairing fresh hashLock

/-- What becomes of a saved lock, by an outcome: it is recorded when it landed, and otherwise what
`otherwise` says is done. -/
def settleLock (prepared : PreparedLock) (hashLock : Shaped HEX32) (accounts : RailAccountsJson)
    (outcome : LockRecoveryOutcome) (otherwise : BuyerRoutine Locked) : BuyerRoutine Locked :=
  match outcome with
  | .landed => recordLockLanded rail pairing prepared hashLock
  | .pending => .fail (.lockPending prepared.ref)
  | .neverLanded => do
    let there ← lockFoundAfterNeverLanded rail prepared.ref accounts
    if there then recordLockLanded rail pairing prepared hashLock
    else otherwise
  | .unknown => otherwise

/-- The same bytes once more, when the node does not know them. -/
def resendUnknown (prepared : PreparedLock) (hashLock : Shaped HEX32)
    (accounts : RailAccountsJson) (outcome : LockRecoveryOutcome) : BuyerRoutine Locked :=
  if outcome = .unknown then do
    Routine.ofExcept (require (rail.hasResendLock = true) (.recoveryRefused .noHandle prepared.ref
      "the rail does not know this transaction and offers no way to send it again"))
    let outcome ← ask (.resendLock prepared)
    settleLock rail pairing prepared hashLock accounts outcome
      (lockAfresh deps rail pairing prepared hashLock)
  else lockAfresh deps rail pairing prepared hashLock

/-- What a saved lock turned into. The chain is read first; a new action has every guard before
it. -/
def recoverLockA (live : Live) : BuyerRoutine Locked := do
  let unrecorded := "buyer: a lock was attempted but its prepared handle was not recorded; " ++
    "refusing to guess (rule 6)"
  let prepared ← found live.preparedLock unrecorded
  let hashLock ← found live.lockedHashLock unrecorded
  let accounts ← found live.lockedAccounts
    "buyer: refusing to recover the lock - its resolved accounts were never recorded"
  ask (.connect accounts)
  let outcome ← ask (.recoverLock prepared)
  settleLock rail pairing prepared hashLock accounts outcome do
    checkLockGuards deps rail pairing
    checkAccounts accounts
    checkChainClock deps rail
    resendUnknown deps rail pairing prepared hashLock accounts outcome

/-- A lock that was not attempted yet. -/
def lockFirst : BuyerRoutine Locked := do
  checkLockGuards deps rail pairing
  let dealRoomARecords ← ask (.read pairing.acceptA.contract)
  let accounts ← Routine.ofExcept ((rail.resolveAccounts dealRoomARecords
    pairing.acceptA.contract pairing.termsA.payer pairing.termsA.payee).mapError .error)
  checkAccounts accounts
  ask (.connect accounts)
  checkChainClock deps rail
  let marker ← ask .currentBlockMarker
  let prepared ← ask .prepareLock
  -- all of it is saved before anything is sent
  save fun live =>
    { live with
      lockedHashLock := some pairing.statement
      lockedFromBlock := some (lockMarkerWithReorgMargin marker)
      lockedAccounts := some accounts
      lockedRailRef := some prepared.ref
      legALockAttempted := true
      preparedLock := some prepared }
  sendAndAnnounce deps rail pairing prepared pairing.statement

def lockLegA : BuyerRoutine Locked := do
  ask .usable
  let live ← ask .look
  check (live.lockNeverLanded = false)
    ("buyer: refusing to lock leg A - this lock attempt was recorded as never landed once leg " ++
      "A's refund time was final, and the escrow refuses every lock from then on (R2-FUND-01)")
  check (live.legBVerified = true) "buyer: refusing to lock leg A before leg B verifies"
  match live.lockEvidence, live.lockedHashLock with
  | some evidence, some hashLock =>
    announceLockA rail pairing evidence.ref
    return ⟨hashLock, evidence⟩
  | _, _ =>
    if live.legALockAttempted then recoverLockA deps rail pairing live
    else lockFirst deps rail pairing

/-- The chain showed this flow's lock, which is its confirmation. -/
def recordLockSeen (ref : String) : BuyerRoutine Unit := do
  let live ← ask .look
  whenever live.lockEvidence.isNone do
    save fun live =>
      { live with
        lockEvidence := some (bareEvidence ref (live.preparedLock.bind (·.recovery))) }

structure Reconciled where
  locked : Bool
  verified : Bool
  reason : Option String
deriving DecidableEq, Repr

def reconcileLockA : BuyerRoutine Reconciled := do
  ask .usable
  let live ← ask .look
  check (live.legALockAttempted = true)
    "buyer: nothing to reconcile — leg A lock was never attempted (G2)"
  match live.lockedRailRef, live.lockedAccounts with
  | some ref, some accounts => do
    ask (.connect accounts)
    let evidence ← ask (.verifyLockFinal ref accounts)
    if evidence.rail.isSome then do
      recordLockSeen ref
      announceLockA rail pairing ref
      return ⟨true, true, none⟩
    else do
      let recorded ← lockRecorded rail ref
      if recorded then do
        recordLockSeen ref
        announceLockA rail pairing ref
        return ⟨true, false, evidence.lock.reason⟩
      else return ⟨false, false, evidence.lock.reason⟩
  | _, _ => return ⟨false, false, none⟩

end

end SwapDesk.Client.Buyer
