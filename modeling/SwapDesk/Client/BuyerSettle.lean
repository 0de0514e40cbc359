import SwapDesk.Client.BuyerFlow

/-!
# SwapDesk — how the Buyer settles

The calls of `BuyerFlow` that follow a lock: the secret is learnt and leg B claimed with it, or leg
A is refunded. With the two small calls that come before a lock they are all the calls of a flow
that is paired.
-/

namespace SwapDesk.Client.Buyer

open Check Desk Client.Flow

section

variable (deps : BuyerDeps) (rail : CounterAssetRail) (pairing : Pairing)

-- ---------------------------------------------------------------------------
-- The secret, and leg B
-- ---------------------------------------------------------------------------

/-- The secret of an authenticated reveal of the Seller that opens the hash lock. -/
def revealFromFrames (railRef : String) (records : List Desk.TranscriptRecord) : Option String :=
  records.findSome? fun record => do
    guard (deps.tclk.verifyTranscriptRecord record = true)
    let frame ← deps.decodeReveal record.line
    guard (frame.sender = record.sender ∧ frame.contract = pairing.acceptA.contract ∧
      frame.ref.all (· = railRef) ∧
      deps.verifySecret "hash" pairing.statement.val frame.secret = true)
    return frame.secret

/-- Leg A's ref, or its hash lock where there is none. -/
def Live.railRef (live : Live) : Option String :=
  live.lockedRailRef.or (live.lockedHashLock.map (·.val))

def learnSecret : BuyerRoutine String := do
  ask .usable
  let live ← ask .look
  let railRef ← found (live.lockedHashLock.bind fun _ => live.railRef)
    "buyer: leg A has not been locked yet"
  let guess := "buyer: refusing to guess the secret — leg A accounts were never resolved (G1)"
  if rail.railId = SOL_RAIL_ID then do
    -- a reveal alone, or a claim that failed, does not count
    let accounts ← found live.lockedAccounts guess
    ask (.connect accounts)
    let stored ← ask (.findClaimedPreimage railRef live.lockedFromBlock)
    found stored
      "buyer: leg A not claimed on chain yet (the escrow does not read Claimed at finalized)"
  else do
    let records ← ask (.read pairing.acceptA.contract)
    match revealFromFrames deps pairing railRef records with
    | some secret => return secret
    | none => do
      let accounts ← found live.lockedAccounts guess
      ask (.connect accounts)
      let preimage ← ask (.findClaimedPreimage railRef live.lockedFromBlock)
      found preimage
        "buyer: refusing to guess the secret — no reveal frame and no Claimed log yet"

/-- The note can still take a claim. -/
def legBNoteClaimable (note : Option Note) : BuyerRoutine Bool :=
  match note with
  | some note =>
    if note.status = .locked then do
      let now ← ask .clock
      return decide (now < note.refundAfterMs)
    else pure false
  | none => pure false

def ADOPTED_NOTE : String :=
  "leg B's paper note read claimed with this swap's secret and this flow's own claim never " ++
    "returned: the claim is adopted, not this flow's own; paper notes are not bound to who " ++
    "wrote them, so the refund of leg A stays available (R1-06)"

/-- A note is recorded once. -/
def noted (note : String) (notes : List String) : List String :=
  if note ∈ notes then notes else notes ++ [note]

def Live.adoptLegBClaim (live : Live) : Live :=
  { live with legBClaimAdopted := true, refundNotes := noted ADOPTED_NOTE live.refundNotes }

/-- Look once whether leg A reads claimed. A read that fails changes nothing. -/
def noteLegAClaimSeen : BuyerRoutine Unit := do
  let live ← ask .look
  match live.refundClaimSeen, live.lockedAccounts, live.railRef with
  | false, some accounts, some railRef => do
    let look : BuyerRoutine Bool := do
      ask (.connect accounts)
      let evidence ← ask (.verifyLockFinal railRef accounts)
      return evidence.rail.any (·.status = .claimed)
    let claimed ← look.orElse fun _ => pure false
    whenever claimed do
      save fun live => { live with refundClaimSeen := true }
  | _, _, _ => pure ()

/-- A claim on the paper rail that threw: the note decides. Was it this swap's own secret? -/
def settleFailedClaim (secret : String) (error : Failure) : BuyerRoutine Unit := do
  let note ← ask .paperRead
  if note.any fun note => note.status = .claimed ∧ note.secret = some secret then
    ask (.modify Live.adoptLegBClaim)
  else do
    let claimable ← legBNoteClaimable note
    if claimable then .fail error
    else do
      save fun live => { live with legBClaimAttempted := false }
      .fail error

/-- The intent is saved before the note is written. -/
def claimNote (secret : String) : BuyerRoutine Unit := do
  save fun live => { live with legBClaimAttempted := true }
  let own : BuyerRoutine Bool := do
    ask (.paperClaim secret)
    return true
  let ownClaim ← own.orElse fun error => do
    settleFailedClaim secret error
    return false
  whenever ownClaim (ask (.modify fun live => { live with legBClaimed := true }))
  ask .persist

/-- Solana alone: leg A reads claimed with this very secret. -/
def checkClaimedOnChain (secret : String) : BuyerRoutine Unit :=
  whenever (rail.railId = SOL_RAIL_ID) do
    let live ← ask .look
    let never := "buyer: refusing to claim leg B — leg A was never locked by this flow"
    let railRef ← found live.railRef never
    let accounts ← found live.lockedAccounts never
    ask (.connect accounts)
    let stored ← ask (.findClaimedPreimage railRef live.lockedFromBlock)
    check (stored = some secret)
      ("buyer: refusing to claim leg B — leg A is not Claimed on chain with this secret yet (S2-1)")

def claimLegB (secret : String) : BuyerRoutine Unit := do
  ask .usable
  check (deps.verifySecret pairing.termsB.lock pairing.termsB.statement secret = true)
    "buyer: refusing to claim leg B — secret does not open its statement"
  checkClaimedOnChain rail secret
  let contract := pairing.acceptB.contract
  let live ← ask .look
  whenever (!live.legBClaimed && !live.legBClaimAdopted) (claimNote secret)
  ensurePosted .revealB (.reveal contract contract secret) (pure ())
  ensurePosted .receiptB (.receipt contract "claimed" "paper" contract) (pure ())
  let live ← ask .look
  whenever live.legBClaimAdopted noteLegAClaimSeen

-- ---------------------------------------------------------------------------
-- Refunding leg A
-- ---------------------------------------------------------------------------

def NEVER_LOCKED : String := "buyer: leg A was never locked, nothing to refund"

def REFUND_UNCONFIRMED : String :=
  "buyer: refund signed but not yet confirmed; it may never have been sent; call refundLegA() " ++
    "again later (G7)"

/-- The Buyer is sent to the claim of leg B, and that is saved first. -/
def routeToClaim {α : Type} (message : String) : BuyerRoutine α := do
  let live ← ask .look
  whenever (!live.refundClaimSeen) do
    save fun live => { live with refundClaimSeen := true }
  refuse message

/-- A lock of this payer that a recorded verdict says cannot be. -/
def refuseIfLockExistsAfterVerdict (live : Live) : BuyerRoutine Unit :=
  match live.preparedLock, live.lockedAccounts with
  | some prepared, some accounts => do
    ask (.connect accounts)
    whenever rail.hasLockAbsence do
      let outcome ← (ask (.recoverLock prepared)).orElse fun error =>
        match error with
        | .recoveryRefused .. => pure .neverLanded
        | error => .fail error
      whenever (outcome = .landed) (.fail (.lockExistsAfterVerdict prepared.ref))
  | _, _ => pure ()

/-- A claim of leg B was attempted, and its outcome is not recorded: the note decides. -/
def settleLegBClaimAttempt : BuyerRoutine Unit := do
  let note ← ask .paperRead
  if note.any fun note => note.status = .claimed ∧ deps.verifySecret pairing.termsB.lock
      pairing.termsB.statement (note.secret.getD "") = true then do
    save Live.adoptLegBClaim
  else do
    let claimable ← legBNoteClaimable note
    check (claimable = false)
      ("buyer: refusing to refund leg A - a claim of leg B was attempted and its outcome is not " ++
        "recorded; call learnSecret() then claimLegB() to settle it first (P8)")
    save fun live => { live with legBClaimAttempted := false }

/-- Nobody has claimed the lock, mined or not. -/
def checkPendingClaim (railRef : String) (live : Live) : BuyerRoutine Unit :=
  whenever rail.hasCheckPendingClaim do
    let pendingSecret ← ask (.checkPendingClaim railRef live.lockedFromBlock)
    whenever pendingSecret.isSome (routeToClaim
      ("buyer: refusing to refund leg A — the lock has been claimed (on chain or already " ++
        "broadcast); call learnSecret() then claimLegB() instead of refundLegA() (K2)"))

/-- A lock attempt with no evidence may never have landed. -/
def checkLockAbsence (railRef : String) (live : Live) : BuyerRoutine Unit :=
  whenever (live.legALockAttempted && live.lockEvidence.isNone &&
      live.legARefundEvidence.isNone && rail.hasLockAbsence) do
    let absence ← ask (.lockAbsence railRef pairing.offerA.refundAfterMs)
    match absence with
    | .landed => recordLockSeen railRef
    | .neverLocked => do
      save fun live => { live with lockNeverLanded := true }
      refuse NEVER_LOCKED
    | .notFinal => .fail (.refundNotFinalYet railRef pairing.offerA.refundAfterMs)

/-- What a note of leg B that reads claimed is worth. -/
def claimNoteText (note : Note) : String :=
  if note.lock = pairing.termsB.lock ∧ note.statement = pairing.termsB.statement ∧
      note.refundAfterMs = pairing.termsB.refundAfterMs ∧
      deps.verifySecret pairing.termsB.lock pairing.termsB.statement (note.secret.getD "") =
        true then
    "leg B's paper note is a proven claim: the secret is public and leg B's paper note reads " ++
      "claimed; paper moves no value, so the refund of leg A goes ahead (RR4-1)"
  else
    "leg B's paper note reads claimed but is not a proven claim (terms differ or its secret " ++
      "does not open the statement): ignored (R4-1)"

/-- Solana alone: a note of leg B that reads claimed is recorded, and stops nothing. -/
def noteLegBRecord (live : Live) : BuyerRoutine Unit :=
  whenever (rail.railId = SOL_RAIL_ID ∧ live.legARefundEvidence = none) do
    let record ← ask .paperRead
    match record.filter (·.status = .claimed) with
    | none => pure ()
    | some note => ask (.modify fun live =>
        { live with refundNotes := noted (claimNoteText deps pairing note) live.refundNotes })

def onSigned : Option LockRecovery → BuyerRoutine Unit
  | none => pure ()
  | some recovery => do
    save fun live => { live with refundRecovery := some recovery }

def forgetRefund : BuyerRoutine Unit := do
  save fun live => { live with refundRecovery := none }

/-- `connected.refund`, with the recorder of the flow. -/
def refund (railRef : String) : BuyerRoutine WriteEvidenceJson := do
  let signed ← ask (.signRefund railRef)
  onSigned signed
  let sent ← ask (.sendRefund railRef signed)
  match sent with
  | .sent evidence => do
    keepExchanges
    return evidence
  | .notBroadcast error => do
    forgetRefund
    .fail error

def CLAIMED_INSTEAD : String :=
  "the lock was claimed instead (the refund lost the race to a claim); call learnSecret() then " ++
    "claimLegB() instead of refundLegA() (G7)"

/-- A refund of an earlier attempt whose outcome is not known. `none` when it never got a handle;
a refund that landed and failed is told apart from one that never landed. -/
def refundOutcome (railRef : String) (handle : Option LockRecovery) :
    BuyerRoutine (Option (LockRecoveryOutcome ⊕ Unit)) :=
  match handle with
  | none => pure none
  | some handle =>
    if rail.hasRecoverRefund then
      let resolve : BuyerRoutine (Option (LockRecoveryOutcome ⊕ Unit)) := do
        let outcome ← ask (.recoverRefund railRef handle)
        if outcome = .unknown ∧ rail.hasResendRefund = true then do
          let outcome ← ask (.resendRefund railRef handle)
          return some (.inl outcome)
        else return some (.inl outcome)
      resolve.orElse fun error =>
        match error with
        | .landedAndFailed _ => pure (some (.inr ()))
        | error => .fail error
    else pure none

def recoverRefundA (railRef : String) (accounts : RailAccountsJson) : BuyerRoutine Unit := do
  let live ← ask .look
  let handle := live.refundRecovery
  let outcome ← refundOutcome rail railRef handle
  let observed ← ask (.verifyLockFinal railRef accounts)
  if observed.rail.any fun rail => rail.status = .refunded ∧ rail.final = true then do
    let evidence : WriteEvidenceJson := { bareEvidence railRef handle with
      rawTx := match handle with
        | some (.btc _ rawTx) => some rawTx
        | _ => none }
    save fun live => { live with legARefundEvidence := some evidence }
  else if observed.rail.any fun rail => rail.status = .claimed then
    routeToClaim ("buyer: refusing to report leg A refunded - " ++ CLAIMED_INSTEAD)
  else
    match outcome, handle with
    | some (.inr ()), _ => do
      -- nothing was paid and nobody claimed
      check (observed.rail.any fun rail => rail.status = .locked ∧ rail.final = true)
        REFUND_UNCONFIRMED
      forgetRefund
    | some (.inl .pending), _ => refuse REFUND_UNCONFIRMED
    | some (.inl .landed), _ => refuse REFUND_UNCONFIRMED
    | some (.inl .unknown), _ => refuse REFUND_UNCONFIRMED
    | _, some (.btc ..) =>
      refuse ("buyer: the recorded Bitcoin refund can no longer land (the funding output is " ++
        "spent by another transaction); a second refund is not built - call learnSecret() then " ++
        "claimLegB() if it was claimed (K2, rule 2)")
    | _, _ => forgetRefund

/-- A refund that threw: it counts when the evidence reader shows it. -/
def settleFailedRefund (railRef : String) (accounts : RailAccountsJson) (error : Failure) :
    BuyerRoutine WriteEvidenceJson := do
  let priorEvidence ← ask (.verifyLockFinal railRef accounts)
  if priorEvidence.rail.any fun rail => rail.status = .refunded ∧ rail.final = true then
    return bareEvidence railRef none
  else if priorEvidence.rail.any fun rail => rail.status = .claimed then
    routeToClaim ("buyer: refusing to refund leg A - the lock was claimed (seen after the " ++
      "refund failed); call learnSecret() then claimLegB() instead of refundLegA() (R3-8)")
  else .fail error

/-- The refund, unless an earlier one has left its evidence. -/
def refundOrResend (railRef : String) (accounts : RailAccountsJson) : BuyerRoutine Unit := do
  let live ← ask .look
  match live.legARefundEvidence with
  | none => do
    save fun live => { live with refundAttempted := true }
    let evidence ← (refund railRef).orElse fun error => do
      keepExchanges
      settleFailedRefund railRef accounts error
    ask (.modify fun live => { live with legARefundEvidence := some evidence })
  | some evidence =>
    whenever rail.hasResendRefundIfDropped do
      let evidence ← ask (.resendRefundIfDropped railRef evidence)
      ask (.modify fun live => { live with legARefundEvidence := some evidence })
      keepExchanges

/-- The refund's two lines, once the evidence reader has confirmed it. -/
def announceRefundA (railRef : String) : BuyerRoutine Unit := do
  let live ← ask .look
  whenever (!live.legARefundFramesPosted) do
    let contract := pairing.acceptA.contract
    ensurePosted .refundA (.refund contract railRef) (pure ())
    ensurePosted .receiptRefundA (.receipt contract "refunded" rail.railId railRef) (pure ())
    save fun live => { live with legARefundFramesPosted := true }

/-- What is looked at before a refund of leg A. -/
def checkRefund (railRef : String) : BuyerRoutine Unit := do
  let live ← ask .look
  check (live.legBClaimed = false)
    "buyer: refusing to refund leg A — this flow already claimed leg B"
  whenever (live.legBClaimAttempted && !live.legBClaimAdopted)
    (settleLegBClaimAttempt deps pairing)
  checkPendingClaim rail railRef live
  checkLockAbsence rail pairing railRef live
  noteLegBRecord deps rail pairing live

/-- What became of the refund, by the evidence reader. -/
def confirmRefund (railRef : String) (accounts : RailAccountsJson) : BuyerRoutine Unit := do
  let evidence ← ask (.verifyLockFinal railRef accounts)
  if evidence.rail.any fun rail => rail.status = .claimed then
    routeToClaim ("buyer: refusing to report leg A refunded — " ++ CLAIMED_INSTEAD)
  else
    check (evidence.rail.any fun rail => rail.status = .refunded ∧ rail.final = true)
      REFUND_UNCONFIRMED

def refundLegA : BuyerRoutine WriteEvidenceJson := do
  ask .usable
  let live ← ask .look
  let railRef ← found (live.lockedHashLock.bind fun _ => live.railRef) NEVER_LOCKED
  if live.lockNeverLanded then do
    refuseIfLockExistsAfterVerdict rail live
    refuse NEVER_LOCKED
  else do
    let now ← ask .clock
    check (pairing.offerA.refundAfterMs ≤ now)
      "buyer: refusing to refund leg A before its refundAfterMs"
    let accounts ← found live.lockedAccounts
      "buyer: refusing to refund leg A — leg A accounts were never resolved (G1)"
    ask (.connect accounts)
    checkRefund deps rail pairing railRef
    whenever (live.legARefundEvidence.isNone && live.refundAttempted)
      (recoverRefundA rail railRef accounts)
    refundOrResend rail railRef accounts
    ask .persist
    confirmRefund railRef accounts
    announceRefundA rail pairing railRef
    let live ← ask .look
    found live.legARefundEvidence "buyer: the refund's evidence is missing"

-- ---------------------------------------------------------------------------
-- The other calls
-- ---------------------------------------------------------------------------

def verifyLegBLocked : BuyerRoutine Unit := do
  ask .usable
  let verified ← ask .paperVerifyLock
  check (verified = true)
    "buyer: refusing to proceed — leg B does not verify on the paper rail"
  save fun live => { live with legBVerified := true }

/-- The proven line is built once, and its exact text saved before it is posted. -/
def savedAccountLine (address : String) : BuyerRoutine String := do
  let record ← ask .record
  match record.state.ownAccountLine with
  | some saved => do
    Routine.ofExcept (require (saved.address = address) (.recordConflict
      ("buyer: this swap's account line was already built for another address; a party never " ++
        "posts a second, different account line")))
    return saved.text
  | none => do
    let text ← ask (.proveAccountLine address)
    ask (.saveAccountLine ⟨address, text⟩)
    return text

def postAccountLineA (address : String) : BuyerRoutine Unit := do
  ask .usable
  let text ← savedAccountLine address
  ensurePosted .accountA (.account text) do
    let live ← ask .look
    let record ← ask .record
    Routine.ofExcept (require (live.legALockAttempted = false ∧ .lockA ∉ record.entered)
      (.recordConflict ("buyer: refusing to post the account line - this Buyer's lock was " ++
        "already attempted, so a line posted now would not count (rule 3)")))

inductive Call where
  | verifyLegBLocked
  | postAccountLineA (address : String)
  | lockLegA
  | reconcileLockA
  | learnSecret
  | claimLegB (secret : String)
  | refundLegA
deriving DecidableEq, Repr

/-- A call, without what it hands back. -/
def program : Call → BuyerRoutine Unit
  | .verifyLegBLocked => verifyLegBLocked
  | .postAccountLineA address => postAccountLineA address
  | .lockLegA => do let _ ← lockLegA deps rail pairing
  | .reconcileLockA => do let _ ← reconcileLockA rail pairing
  | .learnSecret => do let _ ← learnSecret deps rail pairing
  | .claimLegB secret => claimLegB deps rail pairing secret
  | .refundLegA => do let _ ← refundLegA deps rail pairing

end

-- ---------------------------------------------------------------------------
-- The next step
-- ---------------------------------------------------------------------------

inductive BuyerNextStep where
  | bid
  | acceptLegB
  | verifyLegBLocked
  | postAccountLineA
  | lockLegA
  | learnSecret
  | refundLegA
  | done
  | abandoned
deriving DecidableEq, Repr

/-- The expiry of leg B's offer, and when the venue stamped the accept of it. -/
structure LegBTimes where
  expiresMs : Option ℤ
  acceptedMs : Option ℤ
deriving DecidableEq, Repr

def LegBTimes.acceptBStampedLate (times : LegBTimes) : Bool :=
  times.expiresMs.any fun expiresMs => times.acceptedMs.any fun acceptedMs => expiresMs ≤ acceptedMs

def legBDone (live : Live) (stored : Stored) : Bool :=
  stored.isLanded .receiptB &&
    (live.legBClaimed || (live.legBClaimAdopted && live.refundClaimSeen))

/-- Leg A was seen claimed, or leg B was: leg B is settled. -/
def settleLegB (live : Live) (stored : Stored) : BuyerNextStep :=
  if legBDone live stored then .done else .learnSecret

/-- Settling leg B names one of two steps. -/
theorem settleLegB_ne {live : Live} {stored : Stored} {step : BuyerNextStep} (hDone : step ≠ .done)
    (hLearn : step ≠ .learnSecret) : settleLegB live stored ≠ step := by
  unfold settleLegB
  split
  · exact hDone.symm
  · exact hLearn.symm

/-- The next safe step, by the record and the clock alone. -/
def nextStep (pairing : Pairing) (times : LegBTimes) (live : Live) (stored : Stored) (now : ℤ) :
    BuyerNextStep :=
  if !stored.isLanded .offerA then .bid
  else if !stored.isLanded .acceptB then
    -- nothing is at stake before accept B has landed
    if times.expiresMs.any (· ≤ now) then .abandoned else .acceptLegB
  else if !live.legBVerified && !live.legALockAttempted && times.acceptBStampedLate then .abandoned
  else if live.lockNeverLanded then .done
  else if live.refundAttempted then
    if stored.isLanded .receiptRefundA then .done
    else if live.refundClaimSeen || live.legBClaimed then settleLegB live stored
    else .refundLegA
  else if !live.legBVerified then .verifyLegBLocked
  else if !stored.isLanded .accountA then .postAccountLineA
  else if live.refundClaimSeen || live.legBClaimed then settleLegB live stored
  else if live.lockEvidence.isNone || !live.lockFramePosted then
    -- an adopted claim of leg B does not close the way to the refund
    if live.legALockAttempted && pairing.offerA.refundAfterMs ≤ now then .refundLegA
    else .lockLegA
  else if live.legBClaimAttempted || live.legBClaimed then settleLegB live stored
  else .learnSecret

/-- A step that is not the one of a branch is named after it. -/
theorem of_ite_ne {c : Prop} [Decidable c] {a b step : BuyerNextStep}
    (h : (if c then a else b) = step) (hNe : a ≠ step) : ¬c ∧ b = step := by
  split at h
  · exact absurd h hNe
  · exact ⟨‹_›, h⟩

section

variable {pairing : Pairing} {times : LegBTimes} {live : Live} {stored : Stored} {now : ℤ}

/-- A refund is named where a refund or a lock was attempted, and no claim of leg B is on record. -/
theorem next_refundLegA (h : nextStep pairing times live stored now = .refundLegA) :
    live.lockNeverLanded = false ∧ live.legBClaimed = false ∧
      (live.refundAttempted = true ∨ live.legALockAttempted = true) := by
  have hSettle : settleLegB live stored ≠ .refundLegA := settleLegB_ne (by decide) (by decide)
  have hOpen {b : Bool} (h : ¬(b || live.legBClaimed) = true) : live.legBClaimed = false :=
    (Bool.or_eq_false_iff.mp (Bool.eq_false_iff.mpr h)).2
  unfold nextStep at h
  obtain ⟨-, h⟩ := of_ite_ne h (by decide)
  obtain ⟨-, h⟩ := of_ite_ne h (by split <;> decide)
  obtain ⟨-, h⟩ := of_ite_ne h (by decide)
  obtain ⟨hVerdict, h⟩ := of_ite_ne h (by decide)
  refine ⟨by simpa using hVerdict, ?_⟩
  -- a refund that was begun goes on, another one waits for its time
  split at h
  · rename_i hIntent
    obtain ⟨-, h⟩ := of_ite_ne h (by decide)
    exact ⟨hOpen (of_ite_ne h hSettle).1, .inl hIntent⟩
  · obtain ⟨-, h⟩ := of_ite_ne h (by decide)
    obtain ⟨-, h⟩ := of_ite_ne h (by decide)
    obtain ⟨hClaimed, h⟩ := of_ite_ne h hSettle
    refine ⟨hOpen hClaimed, .inr ?_⟩
    split at h
    · split at h
      · rename_i hLate
        simp only [Bool.and_eq_true] at hLate
        exact hLate.1
      · cases h
    · cases (of_ite_ne h hSettle).2

/-- A lock is named once leg B's lock is verified, while no claim of leg B is on record. -/
theorem next_lockLegA (h : nextStep pairing times live stored now = .lockLegA) :
    live.lockNeverLanded = false ∧ live.legBVerified = true ∧ live.legBClaimed = false := by
  have hSettle : settleLegB live stored ≠ .lockLegA := settleLegB_ne (by decide) (by decide)
  unfold nextStep at h
  obtain ⟨-, h⟩ := of_ite_ne h (by decide)
  obtain ⟨-, h⟩ := of_ite_ne h (by split <;> decide)
  obtain ⟨-, h⟩ := of_ite_ne h (by decide)
  obtain ⟨hVerdict, h⟩ := of_ite_ne h (by decide)
  split at h
  · obtain ⟨-, h⟩ := of_ite_ne h (by decide)
    cases (of_ite_ne h hSettle).2
  · obtain ⟨hVerified, h⟩ := of_ite_ne h (by decide)
    obtain ⟨-, h⟩ := of_ite_ne h (by decide)
    obtain ⟨hClaimed, -⟩ := of_ite_ne h hSettle
    exact ⟨by simpa using hVerdict, by simpa using hVerified,
      (Bool.or_eq_false_iff.mp (Bool.eq_false_iff.mpr hClaimed)).2⟩

/-- A paired flow is abandoned only before it has attempted its lock. -/
theorem next_abandoned (h : nextStep pairing times live stored now = .abandoned)
    (hLanded : stored.isLanded .acceptB = true) : live.legALockAttempted = false := by
  have hSettle : settleLegB live stored ≠ .abandoned := settleLegB_ne (by decide) (by decide)
  unfold nextStep at h
  obtain ⟨-, h⟩ := of_ite_ne h (by decide)
  rw [hLanded, Bool.not_true, if_neg Bool.false_ne_true] at h
  split at h
  · rename_i hLate
    simp only [Bool.and_eq_true, Bool.not_eq_true'] at hLate
    exact hLate.1.2
  · obtain ⟨-, h⟩ := of_ite_ne h (by decide)
    split at h
    · obtain ⟨-, h⟩ := of_ite_ne h (by decide)
      cases (of_ite_ne h hSettle).2
    · obtain ⟨-, h⟩ := of_ite_ne h (by decide)
      obtain ⟨-, h⟩ := of_ite_ne h (by decide)
      obtain ⟨-, h⟩ := of_ite_ne h hSettle
      obtain ⟨-, h⟩ := of_ite_ne h (by split <;> decide)
      cases (of_ite_ne h hSettle).2

end

end SwapDesk.Client.Buyer
