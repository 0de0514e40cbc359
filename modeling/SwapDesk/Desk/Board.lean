import SwapDesk.Desk.Swap
import SwapDesk.Lib.OrdMap
import Mathlib.Data.List.Sort

/-!
# SwapDesk — the board

`src/board.ts`: folds every offer of the offers room into one view per leg-A
offer. Only signed, authenticated frames in the right room take part. The loop
over the records is `indexFrame`; the pairing of a leg A with one of the leg-B
offers that name it is `pairLegB`; the accepts of a pair are chosen by
`chooseAccept`.

Main results are in `SwapDesk.Desk.BoardPartition` and
`SwapDesk.Desk.BoardPairing`.
-/

namespace SwapDesk.Desk

-- ---------------------------------------------------------------------------
-- Authenticated records
-- ---------------------------------------------------------------------------

/-- A frame and the record it was decoded from. -/
structure Posted (α : Type) where
  record : TranscriptRecord
  frame : α
deriving DecidableEq, Repr

/-- Signed lane, right room, unforged sender. -/
def authenticate (t : Tclk) (record : TranscriptRecord) : Option (Posted TclkFrame) :=
  if record.room ≠ t.offerRoom then none
  else if !t.verifyTranscriptRecord record then none
  else
    match t.tryDecodeFrame record.line with
    | none => none
    | some frame => if frame.sender ≠ record.sender then none else some ⟨record, frame⟩

def authenticateOffers (t : Tclk) (records : List TranscriptRecord) : List (Posted TclkFrame) :=
  records.filterMap (authenticate t)

-- ---------------------------------------------------------------------------
-- The index of a room
-- ---------------------------------------------------------------------------

structure LegACandidate where
  record : TranscriptRecord
  offer : OfferFrame
  swapId : String
  context : LegAContext
deriving DecidableEq, Repr

/-- `handle` stands for the identity of the object, which the source compares: two
posts of one offer are two candidates. -/
structure LegBCandidate where
  record : TranscriptRecord
  offer : OfferFrame
  swapId : String
  context : LegBContext
  handle : Nat
deriving DecidableEq, Repr

/-- What one pass over the authenticated records collects. -/
structure OfferIndex where
  legAByOfferId : OrdMap String LegACandidate
  legBCandidates : List LegBCandidate
  offersById : OrdMap String OfferFrame
  /-- The genuine accepts of each offer, in venue order. -/
  acceptsByRef : OrdMap String (List (Posted AcceptFrame))

def OfferIndex.empty : OfferIndex := ⟨.empty, [], .empty, .empty⟩

def indexFrame (t : Tclk) (index : OfferIndex) (posted : Posted TclkFrame) : OfferIndex :=
  match posted.frame with
  | .offer offer =>
    let index := { index with offersById := index.offersById.setIfAbsent offer.id offer }
    match classifySwapOffer t offer with
    | none => index
    | some ⟨swapId, .a context⟩ =>
      { index with
        legAByOfferId :=
          index.legAByOfferId.setIfAbsent offer.id ⟨posted.record, offer, swapId, context⟩ }
    | some ⟨swapId, .b context⟩ =>
      { index with
        legBCandidates := index.legBCandidates ++
          [⟨posted.record, offer, swapId, context, index.legBCandidates.length⟩] }
  | .accept accept =>
    -- only a genuine accept of an offer that already appeared can take part
    match index.offersById.get? accept.ref with
    | none => index
    | some acceptedOffer =>
      if !isGenuineAccept t acceptedOffer accept then index
      else { index with
        acceptsByRef := index.acceptsByRef.push accept.ref ⟨posted.record, accept⟩ }
  | .other _ _ => index

def indexOffers (t : Tclk) (records : List TranscriptRecord) : OfferIndex :=
  (authenticateOffers t records).foldl (indexFrame t) .empty

-- ---------------------------------------------------------------------------
-- Pairing
-- ---------------------------------------------------------------------------

/-- The earliest sequence number of an accept by `did`. -/
def acceptSeqOf (accepts : List (Posted AcceptFrame)) (did : String) : Option Nat :=
  ((accepts.filter fun accept => accept.frame.sender = did).map fun accept =>
    accept.record.seq).min?

/-- `some(accept => accept.frame.from === did)` -/
def acceptedBy (accepts : List (Posted AcceptFrame)) (did : String) : Bool :=
  accepts.any fun accept => accept.frame.sender = did

/-- The best crossing candidate so far with its leg-A accept, and the first candidate
signed by an accepter at all. -/
structure CandidateScan where
  crossing : Option (LegBCandidate × Nat)
  fallback : Option LegBCandidate
deriving DecidableEq, Repr

/-- `aSeq < crossingSeq`, which starts at infinity. -/
def CandidateScan.improvedBy (scan : CandidateScan) (aSeq : Nat) : Bool :=
  match scan.crossing with
  | none => true
  | some (_, crossingSeq) => aSeq < crossingSeq

/-- One candidate of the scan. `accepts` are leg A's, `buyer` is the signer of leg A. -/
def scanCandidate (index : OfferIndex) (buyer : String) (accepts : List (Posted AcceptFrame))
    (scan : CandidateScan) (candidate : LegBCandidate) : CandidateScan :=
  match acceptSeqOf accepts candidate.offer.sender with
  | none => scan
  | some aSeq =>
    let buyerAccepted := acceptedBy (index.acceptsByRef.getList candidate.offer.id) buyer
    { crossing :=
        if buyerAccepted && scan.improvedBy aSeq then some (candidate, aSeq) else scan.crossing
      fallback := scan.fallback.or (some candidate) }

/-- The leg B of a leg A, and whether export row order had to choose it. -/
structure Pairing where
  legB : LegBCandidate
  byRowOrder : Bool
  noCrossing : Bool
deriving DecidableEq, Repr

/-- Among crossing candidates the one whose leg-A accept is earliest wins; without one
the first candidate signed by an accepter of leg A stands in, and without any accept
the first candidate. -/
def pairLegB (index : OfferIndex) (legA : LegACandidate) (legAOfferId : String)
    (candidates : List LegBCandidate) : Option Pairing :=
  let accepts := index.acceptsByRef.getList legAOfferId
  if accepts.isEmpty then candidates.head?.map fun candidate => ⟨candidate, true, false⟩
  else
    let scan := candidates.foldl (scanCandidate index legA.offer.sender accepts) ⟨none, none⟩
    match scan.crossing, scan.fallback with
    | some (candidate, _), _ => some ⟨candidate, false, false⟩
    | none, some candidate => some ⟨candidate, false, true⟩
    | none, none => none

def orderedLegB (index : OfferIndex) : List LegBCandidate :=
  index.legBCandidates.insertionSort fun left right => left.record.seq ≤ right.record.seq

def candidatesByLegA (index : OfferIndex) : OrdMap String (List LegBCandidate) :=
  (orderedLegB index).foldl
    (fun lists candidate => lists.push candidate.context.legAOfferId candidate) .empty

def legBByLegAOfferId (index : OfferIndex) : OrdMap String Pairing :=
  (candidatesByLegA index).filterMap fun legAOfferId candidates =>
    (index.legAByOfferId.get? legAOfferId).bind fun legA =>
      pairLegB index legA legAOfferId candidates

-- ---------------------------------------------------------------------------
-- Unpaired offers
-- ---------------------------------------------------------------------------

structure UnpairedOffer where
  offerId : String
  reason : String
deriving DecidableEq, Repr

/-- Why a candidate is not the leg B of its leg A; `none` when it is. -/
def unpairedReason (index : OfferIndex) (candidate : LegBCandidate) : Option String :=
  let legAOfferId := candidate.context.legAOfferId
  let accepts := index.acceptsByRef.getList legAOfferId
  let lost :=
    if !accepts.isEmpty ∧ !acceptedBy accepts candidate.offer.sender then
      "leg B is not signed by the DID that accepted leg A"
    else "leg A already paired"
  if !index.legAByOfferId.has legAOfferId then some "leg B names an unknown leg A offer id"
  else
    match (legBByLegAOfferId index).get? legAOfferId with
    | none => some lost
    | some winner =>
      if winner.legB.handle = candidate.handle then none
      else if winner.legB.record.seq < candidate.record.seq then some "leg A already paired"
      else some lost

def unpairedOffers (index : OfferIndex) : List UnpairedOffer :=
  (orderedLegB index).filterMap fun candidate =>
    (unpairedReason index candidate).map fun reason => ⟨candidate.offer.id, reason⟩

-- ---------------------------------------------------------------------------
-- Accepts of a pair
-- ---------------------------------------------------------------------------

structure ChosenAccept where
  accept : Option (Posted AcceptFrame)
  coordinationOnly : Bool
deriving DecidableEq, Repr

/-- The accept from `counterparty` if one exists, else the earliest. -/
def chooseAccept (accepts : List (Posted AcceptFrame)) (counterparty : Option String) :
    ChosenAccept :=
  match accepts with
  | [] => ⟨none, false⟩
  | first :: _ =>
    match counterparty.bind fun did => accepts.find? fun candidate => candidate.frame.sender = did with
    | some own => ⟨some own, false⟩
    | none => ⟨some first, 1 < accepts.length⟩

/-- A leg A with what the board pairs it with. -/
structure BoardPair where
  legAOfferId : String
  legA : LegACandidate
  legB : Option Pairing
  acceptA : ChosenAccept
  acceptB : ChosenAccept
deriving DecidableEq, Repr

def boardPair (index : OfferIndex) (legAOfferId : String) (legA : LegACandidate) : BoardPair :=
  let legB := (legBByLegAOfferId index).get? legAOfferId
  { legAOfferId := legAOfferId
    legA := legA
    legB := legB
    acceptA := chooseAccept (index.acceptsByRef.getList legAOfferId)
      (legB.map fun pairing => pairing.legB.offer.sender)
    acceptB :=
      match legB with
      | none => ⟨none, false⟩
      | some pairing => chooseAccept (index.acceptsByRef.getList pairing.legB.offer.id)
          (some legA.offer.sender) }

def boardPairs (index : OfferIndex) : List BoardPair :=
  index.legAByOfferId.entries.map fun e => boardPair index e.1 e.2

-- ---------------------------------------------------------------------------
-- Views
-- ---------------------------------------------------------------------------

structure LegEvidence where
  lock : LockEvidence
  rail : Option RailObservation
deriving DecidableEq, Repr

structure BoardInput where
  offers : List TranscriptRecord
  dealRooms : String → Option (List TranscriptRecord)
  evidence : Option (String → Option LegEvidence)
  nowMs : Int
  railRegistry : Option CustomRailRegistry

def buildLegRecords (t : Tclk) (offerRecord : TranscriptRecord)
    (accept : Option (Posted AcceptFrame))
    (dealRooms : String → Option (List TranscriptRecord)) : List TranscriptRecord :=
  match accept with
  | none => [offerRecord]
  | some accept =>
    [offerRecord, accept.record] ++ (dealRooms (t.dealRoom accept.frame.contract)).getD []

/-- A pair's evidence, looked up under the contract each leg's fold accepted. -/
def pairEvidence (byContract : Option (String → Option LegEvidence))
    (contractA contractB : Option String) : Option SwapEvidence :=
  byContract.bind fun get =>
    match contractA.bind get, contractB.bind get with
    | none, none => none
    | legA, legB => some
        { a := legA.map (·.lock)
          b := legB.map (·.lock)
          aRail := legA.bind (·.rail)
          bRail := legB.bind (·.rail) }

/-- How many leg-A offers of this buyer carry this swap id. -/
def sharedCount (index : OfferIndex) (legA : LegACandidate) : Nat :=
  let sameBuyerKey (legA : LegACandidate) : String := legA.offer.sender ++ "|" ++ legA.swapId
  index.legAByOfferId.entries.countP fun e => sameBuyerKey e.2 = sameBuyerKey legA

/-- The flags of the choices the fold cannot see. -/
def boardFlags (pair : BoardPair) : List CoordinationOnlyFlag :=
  (if pair.legB.any (·.byRowOrder) then
    [⟨"leg B paired to a leg A with no accept by export row order (earliest seq), not by its " ++
      "accepter"⟩] else []) ++
  (if pair.legB.any (·.noCrossing) then
    [⟨"leg B paired by export row order among accepters of leg A: no leg B carries the Buyer's " ++
      "own accept (no crossing pair)"⟩] else []) ++
  (if pair.acceptA.coordinationOnly && pair.acceptA.accept.isSome then
    [⟨"leg A's accept chosen by export row order among several candidates, not a matching " ++
      "counterparty"⟩] else []) ++
  (if pair.acceptB.coordinationOnly && pair.acceptB.accept.isSome then
    [⟨"leg B's accept chosen by export row order among several candidates, not a matching " ++
      "counterparty"⟩] else [])

/-- Fold one pair. The first fold has no evidence and only learns the contracts. -/
def foldPair (t : Tclk) (input : BoardInput) (index : OfferIndex) (pair : BoardPair) :
    Option SwapView := do
  let legARecords := buildLegRecords t pair.legA.record pair.acceptA.accept input.dealRooms
  let legBRecords :=
    match pair.legB with
    | none => []
    | some pairing => buildLegRecords t pairing.legB.record pair.acceptB.accept input.dealRooms
  let foldWith (evidence : Option SwapEvidence) : Option SwapView :=
    foldSwap t ⟨legARecords, legBRecords, evidence, input.nowMs, input.railRegistry⟩
  let bare ← foldWith none
  let contractOf (fold : Option TranscriptFoldResult) : Option String :=
    (fold.bind (·.state)).bind (·.contract)
  let view ←
    match pairEvidence input.evidence (contractOf bare.legA) (contractOf bare.legB) with
    | none => some bare
    | some evidence => foldWith (some evidence)
  let sharedCount := sharedCount index pair.legA
  let view :=
    if 1 < sharedCount then
      view.push ["swapId " ++ pair.legA.swapId ++ " is shared by " ++ toString sharedCount ++
        " leg-A offers signed by the same buyer (the swapId is defined per buyer) - information " ++
        "only: rail evidence is keyed per leg contract, so no swap uses another's evidence"]
    else view
  return { view with coordinationOnly := view.coordinationOnly ++ boardFlags pair }

structure Board where
  swaps : List SwapView
  unpaired : List UnpairedOffer
deriving DecidableEq, Repr

/-- Fold every offer into a board. `none` when folding a pair throws. -/
def buildBoard (t : Tclk) (input : BoardInput) : Option Board := do
  let index := indexOffers t input.offers
  let swaps ← (boardPairs index).mapM (foldPair t input index)
  return ⟨swaps, unpairedOffers index⟩

end SwapDesk.Desk
