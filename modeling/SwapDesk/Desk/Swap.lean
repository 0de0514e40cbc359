import SwapDesk.Desk.Profile

/-!
# SwapDesk — the composite fold of two legs

`src/swap.ts`: pairs the independent tclk/1 folds of two legs into one view. The
source is one function that pushes reasons onto a view and returns it early; here
each block of it is a definition in `Except SwapView`, whose error is the view
returned there. `foldSwap` is their sequence, and the last block, the only one
that reads the clock, is `foldLocks`.

Main results are in `SwapDesk.Desk.SwapSafety`.
-/

namespace SwapDesk.Desk

-- ---------------------------------------------------------------------------
-- Constants
-- ---------------------------------------------------------------------------

def PAPER_RAIL_ID : String := "paper"

def PAPER_REHEARSAL_REASON : String := "paper rail: rehearsal only, no value"

/-- Leg A is refunded and leg B was claimed before it, with value. -/
def LEG_A_REFUNDED_AFTER_B_CLAIMED : String :=
  "leg A refunded after leg B was claimed: the Seller received neither leg"

def LEG_A_CLAIMED_REVEAL_NOT_RECORDED : String :=
  "leg A claimed on chain but its reveal frame was not recorded"

/-- The same with the order or the value not proven. -/
def LEG_A_REFUNDED_LEG_B_CLAIMED_UNPROVEN : String :=
  "leg B claimed and leg A refunded; order or value not proven"

-- ---------------------------------------------------------------------------
-- Terms
-- ---------------------------------------------------------------------------

/-- The nine fields an accepted offer/accept pair commits to. -/
def offerAcceptLockTerms (offer : OfferFrame) (accept : AcceptFrame) : LockTerms :=
  let offerIsPayer := offer.role = .payer
  { contract := accept.contract
    lock := offer.lock
    statement := accept.statement
    amount := offer.amount
    asset := offer.asset
    payer := if offerIsPayer then offer.sender else accept.sender
    payee := if offerIsPayer then accept.sender else offer.sender
    claimByMs := offer.claimByMs
    refundAfterMs := offer.refundAfterMs }

/-- The first field in which the terms differ, if any. -/
def lockTermsMismatch (expected actual : LockTerms) : Option String :=
  if expected.contract ≠ actual.contract then some "contract"
  else if expected.lock ≠ actual.lock then some "lock"
  else if expected.statement ≠ actual.statement then some "statement"
  else if expected.amount ≠ actual.amount then some "amount"
  else if expected.asset ≠ actual.asset then some "asset"
  else if expected.payer ≠ actual.payer then some "payer"
  else if expected.payee ≠ actual.payee then some "payee"
  else if expected.claimByMs ≠ actual.claimByMs then some "claimByMs"
  else if expected.refundAfterMs ≠ actual.refundAfterMs then some "refundAfterMs"
  else none

/-- The comparison covers every field. -/
theorem lockTermsMismatch_eq_none {expected actual : LockTerms} :
    lockTermsMismatch expected actual = none ↔ actual = expected := by
  constructor
  · intro h
    unfold lockTermsMismatch at h
    split_ifs at h
    cases expected
    cases actual
    simp_all
  · rintro rfl
    simp [lockTermsMismatch]

/-- An accept counts only when its contract is the id derived from this offer and
the accept's own core, and the offerer did not sign it. -/
def isGenuineAccept (t : Tclk) (offer : OfferFrame) (accept : AcceptFrame) : Bool :=
  if accept.ref ≠ offer.id ∨ accept.sender = offer.sender then false
  else t.contractId offer accept.toAcceptCore == some accept.contract

/-- The identifier of a pair. -/
def pairKey (legAOfferId legAContract legBContract : String) : String :=
  legAOfferId ++ "|" ++ legAContract ++ "|" ++ legBContract

-- ---------------------------------------------------------------------------
-- One leg's evidence
-- ---------------------------------------------------------------------------

inductive Leg where
  | a
  | b
deriving DecidableEq, Repr

def Leg.label : Leg → String
  | .a => "A"
  | .b => "B"

structure LockEvaluation where
  corroborated : Bool
  reason : Option String
deriving DecidableEq, Repr

/-- A leg counts as locked only when its evidence is for the accepted rail and ref,
agrees with the accepted terms in all nine fields, and the rail corroborates it. -/
def evaluateLock (evidence : Option LockEvidence) (expected : LockTerms) (leg : Leg)
    (state : ContractState) : LockEvaluation :=
  match evidence with
  | none => ⟨false, none⟩
  | some evidence =>
    if some evidence.rail ≠ state.rail ∨ some evidence.ref ≠ state.railRef then
      ⟨false, some ("leg " ++ leg.label ++
        " lock evidence is for a different rail/ref than the accepted lock frame")⟩
    else
      match lockTermsMismatch expected evidence.terms with
      | some mismatch =>
        ⟨false, some ("leg " ++ leg.label ++ " lock terms differ from the accepted offer: " ++
          mismatch ++ " mismatch")⟩
      | none =>
        if evidence.railVerified ≠ some true then ⟨false, none⟩ else ⟨true, none⟩

/-- An observation is used only when it is bound to the leg's accepted pair and lock.
Returns what is used, and the reasons pushed. -/
def bindObservation (t : Tclk) (leg : Leg) (state : Option ContractState)
    (observation : Option RailObservation) : Option RailObservation × List String :=
  let refuse (why : String) : Option RailObservation × List String :=
    (none, ["leg " ++ leg.label ++ " rail observation ignored: " ++ why])
  match observation with
  | none => (none, [])
  | some claimed =>
    match claimed.rail, claimed.ref, claimed.contract, claimed.terms with
    | some rail, some ref, some contract, some terms =>
      match state with
      | none => refuse "the leg has no accepted lock frame to bind it to"
      | some state =>
        match state.rail, state.railRef with
        | some stateRail, some stateRef =>
          match t.lockTerms state with
          | none => refuse "the leg has no accepted offer/accept pair to bind it to"
          | some expected =>
            if rail ≠ stateRail then refuse "rail differs from the accepted lock frame's rail"
            else if ref ≠ stateRef then refuse "ref differs from the accepted lock frame's ref"
            else if contract ≠ expected.contract then
              refuse "contract differs from the leg's accepted contract"
            else
              match lockTermsMismatch expected terms with
              | some mismatch =>
                refuse ("terms differ from the accepted offer/accept pair: " ++ mismatch ++
                  " mismatch")
              | none => (some claimed, [])
        | _, _ => refuse "the leg has no accepted lock frame to bind it to"
    | _, _, _, _ => refuse "it carries no rail/ref/contract/terms binding"

def RailStatus.settlementView : RailStatus → SettlementView
  | .locked => .funded
  | .claimed => .claimed
  | .refunded => .refunded

/-- A leg's settlement view, from rail evidence alone. -/
def settlementViewForLeg (evidence : Option LockEvidence) (rail : Option RailObservation) :
    SettlementView :=
  match rail, evidence with
  | some rail, _ => rail.status.settlementView
  | none, none => .none
  | none, some evidence => if evidence.railVerified = none then .none else .unverified

/-- `rail?.status === status && rail.final === true` -/
def observedFinal (status : RailStatus) (rail : Option RailObservation) : Bool :=
  rail.any fun rail => rail.status == status && rail.final

/-- Is the leg refunded? On a chain rail only a final observation says so; the paper
rail has no chain behind it and falls back to the frame. Returns the verdict and the
reasons pushed. -/
def refundedFold (leg : Leg) (state : ContractState) (rail : Option RailObservation) :
    Bool × List String :=
  if state.status ≠ .refunded then (observedFinal .refunded rail, [])
  else if state.rail = some PAPER_RAIL_ID ∧ rail = none then (true, [])
  else if observedFinal .refunded rail then (true, [])
  else
    match rail with
    | none =>
      (false, ["leg " ++ leg.label ++
        " refund frame not corroborated by chain evidence — not folded to refunded"])
    | some rail =>
      (false, ["leg " ++ leg.label ++
        " refund frame conflicts with its own chain evidence (rail reports \"" ++
        rail.status.text ++ "\"" ++ (if rail.final then "" else ", not final") ++
        ") — refund frame not corroborated by chain evidence, not folded to refunded"])

-- ---------------------------------------------------------------------------
-- Steps and lock order
-- ---------------------------------------------------------------------------

def foldLeg (t : Tclk) (records : List TranscriptRecord) : Option TranscriptFoldResult :=
  if records.isEmpty then none else some (t.foldTranscript records)

/-- A leg's rejected steps, as reasons of the swap. -/
def collectStepReasons (fold : Option TranscriptFoldResult) (leg : String) : List String :=
  match fold with
  | none => []
  | some fold => fold.steps.filterMap fun step =>
      if step.ok then none
      else some (leg ++ " step " ++ toString step.seq ++ ": " ++ step.reason.getD "rejected")

/-- The venue timestamp of a leg's first successful `lock` step. -/
def lockTimestampMs (records : List TranscriptRecord) (fold : Option TranscriptFoldResult) :
    Option Int := do
  let fold ← fold
  let step ← fold.steps.find? fun candidate => candidate.type == some "lock" && candidate.ok
  let record ← records[step.index]?
  return record.timestampMs

/-- The secret holder (Seller, leg B) must lock before the Buyer (leg A). -/
def lockOrderViolated (legARecords : List TranscriptRecord)
    (legAFold : Option TranscriptFoldResult) (legBRecords : List TranscriptRecord)
    (legBFold : Option TranscriptFoldResult) : Bool :=
  match lockTimestampMs legARecords legAFold, lockTimestampMs legBRecords legBFold with
  | some aLockMs, some bLockMs => aLockMs < bLockMs
  | _, _ => false

-- ---------------------------------------------------------------------------
-- The stages of the fold
-- ---------------------------------------------------------------------------

section
variable (t : Tclk)

/-- The view every path starts from: both folds, and the evidence with each
observation bound to its leg. -/
def baseView (input : SwapFoldInput) : SwapView :=
  let suppliedEvidence := input.evidence.getD .empty
  let legAFold := foldLeg t input.legA
  let legBFold := foldLeg t input.legB
  let aRail := bindObservation t .a (legAFold.bind (·.state)) suppliedEvidence.aRail
  let bRail := bindObservation t .b (legBFold.bind (·.state)) suppliedEvidence.bRail
  let evidence := { suppliedEvidence with aRail := aRail.1, bRail := bRail.1 }
  let isPaper (evidence : LockEvidence) : Bool := evidence.rail == PAPER_RAIL_ID
  { swapId := none
    status := .unpaired
    legAOfferId := none
    legBOfferId := none
    buyerDid := none
    sellerDid := none
    feeBps := none
    legA := legAFold
    legB := legBFold
    pairKey := none
    evidence := evidence
    settlementView :=
      { a := settlementViewForLeg evidence.a evidence.aRail
        b := settlementViewForLeg evidence.b evidence.bRail }
    coordinationOnly := []
    reasons := collectStepReasons legAFold "legA" ++ collectStepReasons legBFold "legB" ++
      aRail.2 ++ bRail.2 ++
      if evidence.a.any isPaper || evidence.b.any isPaper then [PAPER_REHEARSAL_REASON] else []
    secret := none }

/-- Leg A must be an open, oriented leg-a offer. Returns its state and its swap id. -/
def openLegA (railRegistry : Option CustomRailRegistry) (view : SwapView) :
    Except SwapView ((ContractState × String) × SwapView) :=
  match view.legA.bind (·.state) with
  | none => .error (view.push ["leg A did not fold to an open contract"])
  | some legAState =>
    let view := { view with legAOfferId := some legAState.offer.id }
    match classifySwapOffer t legAState.offer with
    | none => .error (view.push ["leg A offer is not a swap leg"])
    | some ⟨_, .b _⟩ => .error (view.push ["leg A offer carries a leg-b context"])
    | some ⟨swapId, .a context⟩ =>
      let view := { view with swapId := some swapId, feeBps := some context.feeBps }
      match checkOrientation t legAState.offer (.a context) railRegistry with
      | .error reason => .error { view.push [reason] with status := .orientationUnsupported }
      | .ok () =>
        .ok ((legAState, swapId), { view with buyerDid := some legAState.offer.sender })

/-- What leg A alone says. -/
def foldWithoutLegB (legAState : ContractState) (view : SwapView) : SwapView :=
  match legAState.status with
  | .proposed => { view with status := .bid }
  | .accepted => { view with sellerDid := legAState.payeeDid, status := .accepted }
  | .cancelled => { view.push ["leg A cancelled"] with status := .abandoned }
  | .refunded =>
    let refunded := refundedFold .a legAState view.evidence.aRail
    let view := view.push refunded.2
    if refunded.1 then { view.push ["leg A refunded with no leg B"] with status := .refundedA }
    else view.push ["leg A advanced with no leg B present"]
  | _ => view.push ["leg A advanced with no leg B present"]

/-- Leg B must be an open, oriented leg-b offer of the same swap that names leg A, and
both legs must be past their handshake. -/
def openLegB (railRegistry : Option CustomRailRegistry) (legAState : ContractState)
    (swapId : String) (view : SwapView) : Except SwapView (ContractState × SwapView) :=
  match view.legB.bind (·.state) with
  | none => .error (foldWithoutLegB legAState view)
  | some legBState =>
    let view := { view with legBOfferId := some legBState.offer.id }
    match classifySwapOffer t legBState.offer with
    | none => .error (view.push ["leg B offer is not a swap leg"])
    | some ⟨_, .a _⟩ => .error (view.push ["leg B offer carries a leg-a context"])
    | some ⟨legBSwapId, .b context⟩ =>
      if legBSwapId ≠ swapId then .error (view.push ["leg B swapId does not match leg A"])
      else if context.legAOfferId ≠ legAState.offer.id then
        .error (view.push ["leg B context does not name leg A's offer id"])
      else
        match checkOrientation t legBState.offer (.b context) railRegistry with
        | .error reason => .error { view.push [reason] with status := .orientationUnsupported }
        | .ok () =>
          let view :=
            { view with
              sellerDid := some legBState.offer.sender
              pairKey :=
                match legAState.contract, legBState.contract with
                | some legAContract, some legBContract =>
                  some (pairKey legAState.offer.id legAContract legBContract)
                | _, _ => view.pairKey }
          if legAState.status = .proposed then
            .error { view.push ["leg B exists before leg A was accepted"] with
              status := if legBState.status = .proposed then .bid else .unpaired }
          else if legAState.status = .accepted ∧ legBState.status = .proposed then
            .error { view with status := .accepted }
          else if legBState.status = .proposed then
            .error (view.push ["leg B not yet accepted"])
          else .ok (legBState, view)

end

/-- The two accepted legs must cross: the buyer pays leg A and receives leg B, and both
are under one statement. -/
def crossLegs (legARecords legBRecords : List TranscriptRecord)
    (legAState legBState : ContractState) (view : SwapView) : Except SwapView SwapView :=
  match legAState.payerDid, legAState.payeeDid, legBState.payerDid, legBState.payeeDid with
  | some payerA, some payeeA, some payerB, some payeeB =>
    if payerA ≠ payeeB ∨ payeeA ≠ payerB then
      .error (view.push ["leg A/B parties do not cross (buyer/seller mismatch)"])
    else if legAState.statement ≠ legBState.statement then
      .error (view.push ["leg A/B statements do not match"])
    else
      let view := { view with buyerDid := some payerA, sellerDid := some payeeA }
      let reason := "lock order violated: A before B"
      let view :=
        if lockOrderViolated legARecords view.legA legBRecords view.legB then
          { view.push [reason] with
            coordinationOnly :=
              view.coordinationOnly ++ [⟨reason ++ " (depends on unsigned venue ts)"⟩] }
        else view
      if legAState.status = .cancelled ∨ legBState.status = .cancelled then
        .error { view.push ["leg " ++ (if legAState.status = .cancelled then "A" else "B") ++
          " cancelled"] with status := .abandoned }
      else .ok view
  | _, _, _, _ => .error (view.push ["leg missing payer/payee after accept"])

/-- Leg A's refund deprived the Seller of both legs: leg B's claim has value and is
earlier on its chain than leg A's refund on its own. -/
def theftProven (bClaim aRefund : Option RailObservation) : Bool :=
  match bClaim, aRefund with
  | some bClaim, some aRefund =>
    bClaim.status == .claimed && bClaim.final && bClaim.rail != some "paper" &&
      (aRefund.status == .refunded && aRefund.final) &&
      match bClaim.transitionAtMs, aRefund.transitionAtMs with
      | some bClaimMs, some aRefundMs => bClaimMs < aRefundMs
      | _, _ => false
  | _, _ => false

/-- The reasons about refund frames the chain does not bear out, and about a claim of
leg A that its frames do not show. -/
def noteRefunds (legAState legBState : ContractState) (view : SwapView) : SwapView :=
  let refundedA := refundedFold .a legAState view.evidence.aRail
  let refundedB := refundedFold .b legBState view.evidence.bRail
  let view := view.push (refundedA.2 ++ refundedB.2)
  if observedFinal .claimed view.evidence.aRail ∧ legAState.status ≠ .claimed ∧ !refundedA.1 then
    view.push [LEG_A_CLAIMED_REVEAL_NOT_RECORDED]
  else view

/-- Leg A is refunded: was leg B claimed, and was that a theft? -/
def noteTheft (legBState : ContractState) (view : SwapView) : SwapView :=
  if legBState.status = .claimed ∨ observedFinal .claimed view.evidence.bRail then
    view.push [if theftProven view.evidence.bRail view.evidence.aRail
      then LEG_A_REFUNDED_AFTER_B_CLAIMED else LEG_A_REFUNDED_LEG_B_CLAIMED_UNPROVEN]
  else view

def foldRefunds (legAState legBState : ContractState) (view : SwapView) :
    Except SwapView SwapView :=
  let refundedA := (refundedFold .a legAState view.evidence.aRail).1
  let refundedB := (refundedFold .b legBState view.evidence.bRail).1
  let view := noteRefunds legAState legBState view
  if refundedA ∧ refundedB then .error { view with status := .refunded }
  else if refundedA then .error { noteTheft legBState view with status := .refundedA }
  else if refundedB then .error { view with status := .refundedB }
  else .ok view

/-- `if (state.secret !== undefined) view.secret = state.secret;` -/
def SwapView.disclose (view : SwapView) (state : ContractState) : SwapView :=
  { view with secret := state.secret <|> view.secret }

/-- A leg claimed in its frames has disclosed the secret; only the rails settle it. -/
def foldReveal (legAState legBState : ContractState) (view : SwapView) :
    Except SwapView SwapView :=
  if legAState.status = .claimed then
    let view := view.disclose legAState
    if legBState.status = .claimed then
      if observedFinal .claimed view.evidence.aRail ∧ observedFinal .claimed view.evidence.bRail then
        .error { view with status := .settled }
      else .error { view.push ["awaiting finality"] with status := .revealed }
    else .error { view with status := .revealed }
  else if legBState.status = .claimed then
    .error { (view.disclose legBState).push ["secret revealed on leg B before leg A's reveal frame"]
      with status := .revealed }
  else .ok view

/-- Which legs are locked, and whether the swap ran out of time before they were. `none`
when the library throws. -/
def foldLocks (t : Tclk) (nowMs : Int) (legAState legBState : ContractState) (view : SwapView) :
    Option SwapView :=
  if legBState.status ≠ .locked then
    if nowMs ≥ legAState.offer.expiresMs then
      some { view.push ["leg B never locked before leg A's offer expired"] with
        status := .abandoned }
    else some { view with status := .paired }
  else
    match t.lockTerms legBState with
    | none => none
    | some termsB =>
      let legBEvaluation := evaluateLock view.evidence.b termsB .b legBState
      if !legBEvaluation.corroborated then
        some { view.push [legBEvaluation.reason.getD "leg B lock unverified"] with
          status := .paired }
      else if legAState.status ≠ .locked then
        if nowMs ≥ legAState.offer.claimByMs then
          some { view.push ["leg A never locked before its claim deadline"] with
            status := .abandoned }
        else some { view with status := .bLocked }
      else
        match t.lockTerms legAState with
        | none => none
        | some termsA =>
          let legAEvaluation := evaluateLock view.evidence.a termsA .a legAState
          if !legAEvaluation.corroborated then
            some { view.push [legAEvaluation.reason.getD "leg A lock unverified"] with
              status := .bLocked }
          else some { view with status := .aLocked }

/-- Everything before the clock is read. -/
def foldFrames (t : Tclk) (input : SwapFoldInput) :
    Except SwapView ((ContractState × ContractState) × SwapView) := do
  let ((legAState, swapId), view) ← openLegA t input.railRegistry (baseView t input)
  let (legBState, view) ← openLegB t input.railRegistry legAState swapId view
  let view ← crossLegs input.legA input.legB legAState legBState view
  let view ← foldRefunds legAState legBState view
  let view ← foldReveal legAState legBState view
  return ((legAState, legBState), view)

/-- Fold two legs' transcripts into one view. -/
def foldSwap (t : Tclk) (input : SwapFoldInput) : Option SwapView :=
  match foldFrames t input with
  | .error view => some view
  | .ok ((legAState, legBState), view) => foldLocks t input.nowMs legAState legBState view

end SwapDesk.Desk
