import Mathlib.Tactic.Common

/-!
# SwapDesk — the shapes the desk works on

The frames, records and states of the tclk/1 library that the desk reads, the
desk's own views (`src/types.ts`), and the library itself as a parameter: its
source is not part of this repository, so `Tclk` names the functions the desk
calls. A call that may throw returns an `Option`.

Times are milliseconds; an optional field of the source is an `Option`.
-/

namespace SwapDesk.Desk

-- ---------------------------------------------------------------------------
-- tclk/1 frames
-- ---------------------------------------------------------------------------

inductive Role where
  | payer
  | payee
deriving DecidableEq, Repr

def Role.text : Role → String
  | .payer => "payer"
  | .payee => "payee"

/-- `offer.job`, the signed field in which an offer declares what it is for. -/
structure Job where
  proto : String
  id : String
  context : Option String
deriving DecidableEq, Repr

structure OfferFrame where
  id : String
  sender : String
  role : Role
  lock : String
  asset : String
  amount : String
  rails : List String
  expiresMs : Int
  claimByMs : Int
  refundAfterMs : Int
  job : Option Job
deriving DecidableEq, Repr

/-- The part of an accept that its contract id commits to. -/
structure AcceptCore where
  sender : String
  ref : String
  statement : String
  paymentKey : Option String
  nonce : String
deriving DecidableEq, Repr

structure AcceptFrame extends AcceptCore where
  contract : String
deriving DecidableEq, Repr

/-- A decoded frame. The desk reads the sender of every frame, and more of offers
and accepts only. -/
inductive TclkFrame where
  | offer (frame : OfferFrame)
  | accept (frame : AcceptFrame)
  | other (type sender : String)
deriving DecidableEq, Repr

/-- `frame.from`. -/
def TclkFrame.sender : TclkFrame → String
  | .offer frame => frame.sender
  | .accept frame => frame.sender
  | .other _ sender => sender

/-- One row of a room's export. -/
structure TranscriptRecord where
  room : String
  seq : Nat
  timestampMs : Int
  sender : String
  nonce : String
  line : String
  signature : Option String
deriving DecidableEq, Repr

-- ---------------------------------------------------------------------------
-- Chain rails
-- ---------------------------------------------------------------------------

def EVM_RAIL_ID : String := "evm-htlc"
def BTC_RAIL_ID : String := "btc-htlc"
def NEAR_RAIL_ID : String := "near-htlc"
def SOL_RAIL_ID : String := "trustcore.sol-htlc-v1"

-- ---------------------------------------------------------------------------
-- The contract machine
-- ---------------------------------------------------------------------------

/-- The nine fields a lock commits to. -/
structure LockTerms where
  contract : String
  lock : String
  statement : String
  amount : String
  asset : String
  payer : String
  payee : String
  claimByMs : Int
  refundAfterMs : Int
deriving DecidableEq, Repr

/-- The statuses the desk tells apart; `other` is any further one. -/
inductive ContractStatus where
  | proposed
  | accepted
  | locked
  | claimed
  | refunded
  | cancelled
  | other (name : String)
deriving DecidableEq, Repr

/-- What the contract machine knows of one leg. -/
structure ContractState where
  offer : OfferFrame
  status : ContractStatus
  contract : Option String
  payerDid : Option String
  payeeDid : Option String
  statement : Option String
  secret : Option String
  rail : Option String
  railRef : Option String
deriving DecidableEq, Repr

/-- What the machine said to one record. `type` is the frame's, when it has one. -/
structure TranscriptStep where
  seq : Nat
  index : Nat
  type : Option String
  ok : Bool
  reason : Option String
deriving DecidableEq, Repr

structure TranscriptFoldResult where
  state : Option ContractState
  steps : List TranscriptStep
deriving DecidableEq, Repr

/-- The functions of `@flop-labs/tclk` the desk calls. -/
structure Tclk where
  offerRoom : String
  dealRoom : String → String
  verifyTranscriptRecord : TranscriptRecord → Bool
  tryDecodeFrame : String → Option TclkFrame
  foldTranscript : List TranscriptRecord → TranscriptFoldResult
  /-- Throws on a state with no accepted offer. -/
  lockTerms : ContractState → Option LockTerms
  /-- Throws on a pair that derives no contract. -/
  contractId : OfferFrame → AcceptCore → Option String
  /-- Throws on a rail the closed registry does not know. -/
  normalizeRailId : String → Option String

/-- A caller-owned registry of custom rail ids. -/
structure CustomRailRegistry where
  has : String → Bool

-- ---------------------------------------------------------------------------
-- Evidence
-- ---------------------------------------------------------------------------

/-- What a rail read path reported about an announced lock. -/
structure LockEvidence where
  rail : String
  ref : String
  terms : LockTerms
  /-- `none` when there was nothing to check against. -/
  railVerified : Option Bool
  checkedAtMs : Int
  finalizedRef : Option String
  endpoint : Option String
  reason : Option String
  raw : Option (List String)
deriving DecidableEq, Repr

inductive RailStatus where
  | locked
  | claimed
  | refunded
deriving DecidableEq, Repr

def RailStatus.text : RailStatus → String
  | .locked => "locked"
  | .claimed => "claimed"
  | .refunded => "refunded"

/-- A rail observation. The last four fields say what it is an observation of; the
fold does not trust its caller to have filled them, so each may be missing. -/
structure RailObservation where
  status : RailStatus
  final : Bool
  checkedAtMs : Int
  finalizedRef : Option String
  transitionAtMs : Option Int
  rail : Option String
  ref : Option String
  contract : Option String
  terms : Option LockTerms
deriving DecidableEq, Repr

structure SwapEvidence where
  a : Option LockEvidence
  b : Option LockEvidence
  aRail : Option RailObservation
  bRail : Option RailObservation
deriving DecidableEq, Repr

/-- `{}`. -/
def SwapEvidence.empty : SwapEvidence := ⟨none, none, none, none⟩

-- ---------------------------------------------------------------------------
-- Views
-- ---------------------------------------------------------------------------

inductive SwapStatus where
  | bid
  | accepted
  | paired
  | bLocked
  | aLocked
  | revealed
  | settled
  | refundedA
  | refundedB
  | refunded
  | abandoned
  | unpaired
  | orientationUnsupported
deriving DecidableEq, Repr

inductive SettlementView where
  | none
  | unverified
  | unfunded
  | funded
  | claimed
  | refunded
deriving DecidableEq, Repr

/-- The settlement view of each leg. -/
structure SettlementViews where
  a : SettlementView
  b : SettlementView
deriving DecidableEq, Repr

/-- A verdict that rests on data no signature covers. Its basis is always
`coordination-only`, so the reason is all it carries. -/
structure CoordinationOnlyFlag where
  reason : String
deriving DecidableEq, Repr

/-- The desk's view of one swap. -/
structure SwapView where
  swapId : Option String
  status : SwapStatus
  legAOfferId : Option String
  legBOfferId : Option String
  buyerDid : Option String
  sellerDid : Option String
  feeBps : Option Nat
  legA : Option TranscriptFoldResult
  legB : Option TranscriptFoldResult
  pairKey : Option String
  evidence : SwapEvidence
  settlementView : SettlementViews
  coordinationOnly : List CoordinationOnlyFlag
  reasons : List String
  secret : Option String
deriving DecidableEq, Repr

namespace SwapView

/-- `reasons.push(…)` for each reason in turn. -/
def push (view : SwapView) (reasons : List String) : SwapView :=
  { view with reasons := view.reasons ++ reasons }

/-- The view without its reasons. -/
def eraseReasons (view : SwapView) : SwapView := { view with reasons := [] }

end SwapView

structure SwapFoldInput where
  legA : List TranscriptRecord
  legB : List TranscriptRecord
  evidence : Option SwapEvidence
  nowMs : Int
  railRegistry : Option CustomRailRegistry

end SwapDesk.Desk
