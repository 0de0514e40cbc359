import SwapDesk.Desk.Board
import SwapDesk.Near.Text
import SwapDesk.Rails.NearEvidence
import Mathlib.Data.Nat.Digits.Defs

/-!
# SwapDesk — the captured fold

`src/replay.ts`: from collected bytes to a board. One pass over the offers room
finds the swap legs and their accepts (`findSwapLegCandidates`); for each leg the
lock its contract machine accepted (`foldAcceptedLock`) decides which rail reads
its capture (`legEvidence`); the evidence is filed under the leg's contract and
handed to the board.

The readers of the chain rails are parameters: a `ChainRail` names what the fold
asks of one. `nearRail` is the NEAR reader of `SwapDesk.Rails.NearEvidence`.

Main result: `evidence_isolated` in `SwapDesk.Desk.ReplayIsolation`.
-/

namespace SwapDesk.Desk

open Rails
open CharClass (isBase58)

-- ---------------------------------------------------------------------------
-- Swap legs
-- ---------------------------------------------------------------------------

structure SwapLegOffer where
  seq : Nat
  swapId : String
  leg : String
  offer : OfferFrame
  record : TranscriptRecord
deriving DecidableEq, Repr

structure SwapLegCandidate where
  contract : String
  offerSeq : Nat
  acceptSeq : Nat
  swapId : String
  leg : String
  offer : OfferFrame
  accept : AcceptFrame
  offerRecord : TranscriptRecord
  acceptRecord : TranscriptRecord
deriving DecidableEq, Repr

/-- What one pass over the authenticated records collects. -/
structure LegScan where
  swapLegOfferIds : OrdMap String SwapLegOffer
  byContract : OrdMap String SwapLegCandidate

def LegScan.empty : LegScan := ⟨.empty, .empty⟩

/-- An accept counts for the offer of its ref that was posted last before it; the first
genuine accept of a contract stands. -/
def scanLegFrame (t : Tclk) (scan : LegScan) (posted : Posted TclkFrame) : LegScan :=
  match posted.frame with
  | .offer offer =>
    match classifySwapOffer t offer with
    | none => scan
    | some classification =>
      { scan with
        swapLegOfferIds := scan.swapLegOfferIds.set offer.id
          ⟨posted.record.seq, classification.swapId, classification.context.leg, offer,
            posted.record⟩ }
  | .accept accept =>
    match scan.swapLegOfferIds.get? accept.ref with
    | none => scan
    | some legOffer =>
      if !isGenuineAccept t legOffer.offer accept then scan
      else { scan with
        byContract := scan.byContract.setIfAbsent accept.contract
          { contract := accept.contract
            offerSeq := legOffer.seq
            acceptSeq := posted.record.seq
            swapId := legOffer.swapId
            leg := legOffer.leg
            offer := legOffer.offer
            accept := accept
            offerRecord := legOffer.record
            acceptRecord := posted.record } }
  | .other _ _ => scan

/-- The records are authenticated as the board authenticates them. -/
def scanLegs (t : Tclk) (records : List TranscriptRecord) : LegScan :=
  (authenticateOffers t records).foldl (scanLegFrame t) .empty

/-- The candidates, by the sequence number of their offer. -/
def findSwapLegCandidates (t : Tclk) (records : List TranscriptRecord) : List SwapLegCandidate :=
  ((scanLegs t records).byContract.entries.map Prod.snd).insertionSort fun a b =>
    a.offerSeq ≤ b.offerSeq

-- ---------------------------------------------------------------------------
-- The accepted lock
-- ---------------------------------------------------------------------------

structure AcceptedLock where
  rail : String
  railRef : String
  seq : Nat
deriving DecidableEq, Repr

/-- The lock the contract machine accepted, with the record that made it so. -/
def foldAcceptedLock (t : Tclk) (offerRecord acceptRecord : TranscriptRecord)
    (dealRoomRecords : List TranscriptRecord) : Option AcceptedLock := do
  let fold := t.foldTranscript ([offerRecord, acceptRecord] ++ dealRoomRecords)
  let state ← fold.state
  let rail ← state.rail
  let railRef ← state.railRef
  let lockStep ← fold.steps.find? fun step => step.ok && step.type = some "lock"
  return ⟨rail, railRef, lockStep.seq⟩

-- ---------------------------------------------------------------------------
-- Paper notes
-- ---------------------------------------------------------------------------

structure CapturedNote where
  body : String
  endpoint : String
deriving DecidableEq, Repr

structure PaperRecord where
  lock : String
  statement : String
  refundAfterMs : Int
  status : RailStatus
  secret : Option String
deriving DecidableEq, Repr

/-- What the paper rail uses of the packages. -/
structure PaperPackages where
  decodePaperRecord : String → Option PaperRecord
  verifySecret : String → String → String → Bool
  sha256 : List UInt8 → List UInt8

/-- The last line of a note that is not empty: what follows its banner. -/
def stripNoteBanner (body : String) : Option String :=
  ((body.toList.splitOn '\n').map String.ofList).reverse.find? (· ≠ "")

def paperReason (base : String) : String :=
  base ++ "; paper rail holds no value and a stranger can overwrite it"

def termsMatch (terms : LockTerms) (record : PaperRecord) : Bool :=
  record.lock = terms.lock && record.statement = terms.statement &&
    record.refundAfterMs = terms.refundAfterMs

def paperEvidence (p : PaperPackages) (terms : LockTerms) (noteValue : Option String)
    (checkedAtMs : Int) (endpoint : String) : LegEvidence :=
  let lock (railVerified : Option Bool) (reason : String) : LockEvidence :=
    { rail := PAPER_RAIL_ID
      ref := terms.contract
      terms := terms
      railVerified := railVerified
      checkedAtMs := checkedAtMs
      finalizedRef := none
      endpoint := some endpoint
      reason := some (paperReason reason)
      raw := none }
  match noteValue with
  | none => ⟨lock none "no paper record", none⟩
  | some noteValue =>
    match p.decodePaperRecord noteValue with
    | none => ⟨lock none "unreadable paper record", none⟩
    | some record =>
      if !termsMatch terms record then
        ⟨lock (some false) "paper record terms differ from the contract", none⟩
      else if record.status = .claimed ∧
          !p.verifySecret record.lock record.statement (record.secret.getD "") then
        ⟨lock (some false) "claimed record's secret does not open the statement", none⟩
      else
        ⟨lock (some (record.status = .locked)) ("paper record is " ++ record.status.text),
          some
            { status := record.status
              final := true
              checkedAtMs := checkedAtMs
              finalizedRef := some ("paper:sha256:" ++
                Near.hexEncode (p.sha256 (Near.utf8Bytes noteValue)))
              transitionAtMs := none
              rail := some PAPER_RAIL_ID
              ref := some terms.contract
              contract := some terms.contract
              terms := some terms }⟩

-- ---------------------------------------------------------------------------
-- Chain rails
-- ---------------------------------------------------------------------------

/-- What a resolver of account or key lines is asked for, beside the records. -/
structure ResolveInput where
  contract : String
  payerDid : String
  payeeDid : String
  rail : String
  caip2 : String
  beforeSeq : Nat
deriving DecidableEq, Repr

/-- What the fold asks of a chain rail. The capture's reader may throw, with a message. -/
structure ChainRail where
  Config : Type
  Pinned : Type
  Accounts : Type
  Capture : Type
  check : Config → Except String Pinned
  caip2 : Pinned → String
  resolve : List TranscriptRecord → ResolveInput → Accounts
  indexRef : Capture → String
  evidence : LockTerms → Pinned → Accounts → Capture → Except String LegEvidence

/-- The NEAR rail, over any resolver of its account lines. -/
def nearRail (rt : Runtime) (resolve : List TranscriptRecord → ResolveInput → NearAccounts) :
    ChainRail where
  Config := Option Json
  Pinned := NearRailConfig
  Accounts := NearAccounts
  Capture := NearCapture
  check := checkNearRailConfig
  caip2 config := config.pin.caip2
  resolve := resolve
  indexRef capture := capture.ref
  evidence terms config accounts capture :=
    let result := nearEvidence rt ⟨terms, config, accounts, capture, .required⟩
    .ok ⟨result.lock, result.rail⟩

structure Readers where
  paper : PaperPackages
  evm : ChainRail
  btc : ChainRail
  near : ChainRail
  sol : ChainRail

-- ---------------------------------------------------------------------------
-- Solana refs
-- ---------------------------------------------------------------------------

def BASE58_ALPHABET : List Char :=
  "123456789ABCDEFGHJKLMNPQRSTUVWXYZabcdefghijkmnopqrstuvwxyz".toList

/-- How many bytes a base58 text decodes to: one for each leading `1`, and those of the
number that follows. -/
def base58Length (text : List Char) : Nat :=
  let value := text.foldl (fun n c => 58 * n + BASE58_ALPHABET.idxOf c) 0
  (text.takeWhile (· == '1')).length + (Nat.digits 256 value).length

/-- A text of the base58 alphabet is always the canonical one of its bytes. -/
def isValidPubkeyBase58 (text : String) : Bool :=
  32 ≤ text.toList.length && text.toList.length ≤ 44 && text.toList.all isBase58 &&
    base58Length text.toList = 32

structure SolRef where
  hashLock : String
  payer : String
deriving DecidableEq, Repr

/-- `/^(0x[0-9a-f]{64}):([1-9A-HJ-NP-Za-km-z]{32,44})$/` -/
def parseSolRef (ref : String) : Option SolRef :=
  let hashLock := String.ofList (ref.toList.take 66)
  let payer := String.ofList (ref.toList.drop 67)
  if NEAR_HASH_LOCK_SHAPE hashLock && ref.toList[66]? = some ':' && isValidPubkeyBase58 payer then
    some ⟨hashLock, payer⟩
  else none

def solCaptureKey (hashLock legContract : String) : String := hashLock ++ ":" ++ legContract

-- ---------------------------------------------------------------------------
-- The fold
-- ---------------------------------------------------------------------------

/-- `chain`, `btcChain`, `nearChain` and `solChain` are the captures of each rail by key, and
`evm` to `sol` the configured rails. -/
structure FoldCapturedInput (readers : Readers) where
  offers : List TranscriptRecord
  dealRooms : String → Option (List TranscriptRecord)
  notes : String → Option CapturedNote
  chain : String → Option readers.evm.Capture
  btcChain : String → Option readers.btc.Capture
  nearChain : String → Option readers.near.Capture
  solChain : String → Option readers.sol.Capture
  evm : Option readers.evm.Config
  btc : Option readers.btc.Config
  near : Option readers.near.Config
  sol : Option readers.sol.Config
  nowMs : Int

/-- One leg on its way to evidence. -/
structure LegContext where
  contract : String
  terms : LockTerms
  accepted : AcceptedLock
  dealRoomRecords : List TranscriptRecord
  nowMs : Int

/-- Evidence that nothing is known of the lock, and why. -/
def unverified (leg : LegContext) (railId reason : String) : LegEvidence :=
  ⟨{ rail := railId
     ref := leg.accepted.railRef
     terms := leg.terms
     railVerified := none
     checkedAtMs := leg.nowMs
     finalizedRef := none
     endpoint := none
     reason := some reason
     raw := none }, none⟩

/-- The branch of one chain rail. `bindsRef` when the capture's key leaves out the payer, so
that the capture must name the accepted ref itself. A reader that throws fails its own leg. -/
def chainEvidence (rail : ChainRail) (railId label : String) (bindsRef : Bool)
    (config : Option rail.Config) (capture : Option rail.Capture) (leg : LegContext) :
    Option LegEvidence :=
  match config.map rail.check with
  | none => none
  | some (.error reason) =>
    some (unverified leg railId (label ++ ": rail config invalid: " ++ reason))
  | some (.ok pinned) =>
    match capture with
    | none => none
    | some capture =>
      let accounts := rail.resolve leg.dealRoomRecords
        { contract := leg.contract
          payerDid := leg.terms.payer
          payeeDid := leg.terms.payee
          rail := railId
          caip2 := rail.caip2 pinned
          beforeSeq := leg.accepted.seq }
      if bindsRef ∧ rail.indexRef capture ≠ leg.accepted.railRef then
        some (unverified leg railId (label ++
          ": the capture's ref differs from the accepted lock frame's ref (payer mismatch)"))
      else
        match rail.evidence leg.terms pinned accounts capture with
        | .ok result => some result
        | .error message =>
          some (unverified leg railId (label ++ ": evidence check threw unexpectedly: " ++ message))

variable {readers : Readers}

/-- The dispatch on the accepted lock; a rail nobody reads gets no evidence. -/
def railEvidence (input : FoldCapturedInput readers) (leg : LegContext) : Option LegEvidence :=
  let railRef := leg.accepted.railRef
  if leg.accepted.rail = PAPER_RAIL_ID ∧ railRef = leg.contract then
    (input.notes leg.contract).map fun captured =>
      paperEvidence readers.paper leg.terms (stripNoteBanner captured.body) leg.nowMs
        captured.endpoint
  else if leg.accepted.rail = EVM_RAIL_ID ∧ railRef = leg.terms.statement then
    chainEvidence readers.evm EVM_RAIL_ID "evm-htlc" false input.evm (input.chain railRef) leg
  else if leg.accepted.rail = BTC_RAIL_ID then
    chainEvidence readers.btc BTC_RAIL_ID "btc-htlc" false input.btc (input.btcChain railRef) leg
  else if leg.accepted.rail = NEAR_RAIL_ID ∧
      (parseNearRef railRef).map (·.hashLock) = some leg.terms.statement then
    let hashLock := ((parseNearRef railRef).map (·.hashLock)).getD railRef
    chainEvidence readers.near NEAR_RAIL_ID "near-htlc" true input.near
      (input.nearChain (nearCaptureKey hashLock leg.contract)) leg
  else if leg.accepted.rail = SOL_RAIL_ID ∧
      (parseSolRef railRef).map (·.hashLock) = some leg.terms.statement then
    let hashLock := ((parseSolRef railRef).map (·.hashLock)).getD railRef
    chainEvidence readers.sol SOL_RAIL_ID "sol-htlc" true input.sol
      (input.solChain (solCaptureKey hashLock leg.contract)) leg
  else none

def acceptedLockOf (t : Tclk) (input : FoldCapturedInput readers) (candidate : SwapLegCandidate) :
    Option AcceptedLock :=
  foldAcceptedLock t candidate.offerRecord candidate.acceptRecord
    ((input.dealRooms (t.dealRoom candidate.contract)).getD [])

/-- One turn of the loop over the candidates. -/
def legEvidence (t : Tclk) (input : FoldCapturedInput readers) (candidate : SwapLegCandidate) :
    Option LegEvidence :=
  (acceptedLockOf t input candidate).bind fun accepted =>
    railEvidence input
      { contract := candidate.contract
        terms := offerAcceptLockTerms candidate.offer candidate.accept
        accepted := accepted
        dealRoomRecords := (input.dealRooms (t.dealRoom candidate.contract)).getD []
        nowMs := input.nowMs }

def evidenceByContract (t : Tclk) (input : FoldCapturedInput readers) :
    OrdMap String LegEvidence :=
  (findSwapLegCandidates t input.offers).foldl
    (fun evidence candidate =>
      match legEvidence t input candidate with
      | none => evidence
      | some result => evidence.set candidate.contract result) .empty

/-- A registry that admits the Solana rail id only. -/
def createSolRailRegistry : CustomRailRegistry := ⟨(· = SOL_RAIL_ID)⟩

def foldCaptured (t : Tclk) (input : FoldCapturedInput readers) : Option Board :=
  buildBoard t
    { offers := input.offers
      dealRooms := input.dealRooms
      evidence := some (evidenceByContract t input).get?
      nowMs := input.nowMs
      railRegistry := input.sol.map fun _ => createSolRailRegistry }

end SwapDesk.Desk
