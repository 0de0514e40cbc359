import SwapDesk.Rails.BtcNode

/-!
# SwapDesk — what becomes of a recorded Bitcoin spend

`recoverFunding`, `claimStatus` and `resendClaim` of `src/rails/btc-htlc.ts`, and `recoverRefund` of
`src/client/btc-rail.ts`. Each looks the recorded transaction up, reads the funding output, and
looks the transaction up again before it gives the spend up for lost.

Main result: `lostSpend_sound`. The verdict holds unless the recorded transaction moves at the wrong
moment.
-/

namespace SwapDesk.Rails.BtcNode

open Check Desk
open CharClass (isHexLower)

/-! ## The calls -/

structure RecoveredFunding where
  broadcast : Bool
  blockHash : Option String
  confirmations : Option Nat
deriving DecidableEq, Repr

def recoverFunding (run : NodeRun) (now : Nat) (txid : String) :
    Except RpcFailure RecoveredFunding := do
  run.assertPinnedChain now
  match run.ask (now + 1) (·.getrawtransaction txid) with
  | .error .notFound => .ok ⟨false, none, none⟩
  | .error failure => .error failure
  | .ok result => .ok ⟨true, result.blockhash, some (result.confirmations.getD 0)⟩

/-- It has a confirmation, and is not just known. -/
def RecoveredFunding.Confirmed (known : RecoveredFunding) : Prop :=
  known.confirmations.any (1 ≤ ·) = true

instance (known : RecoveredFunding) : Decidable known.Confirmed :=
  inferInstanceAs (Decidable (_ = true))

inductive ClaimTxPresence where
  | mined
  | inMempool
deriving DecidableEq, Repr

def claimTxPresence (run : NodeRun) (now : Nat) (claimTxid : String) :
    Except RpcFailure (Option ClaimTxPresence) := do
  let known ← recoverFunding run now claimTxid
  if known.broadcast = false then return none
  if known.Confirmed then return some .mined
  match run.ask (now + 2) (·.getmempoolentry claimTxid) with
  | .ok _ => .ok (some .inMempool)
  | .error .notFound => .ok none
  | .error failure => .error failure

def fundingOutputUnspent (run : NodeRun) (now : Nat) (ref : String) : Except RpcFailure Bool := do
  let outpoint ← parseOutpointRef ref
  run.assertPinnedChain now
  run.ask (now + 1) fun view => .ok (view.gettxout outpoint)

inductive BtcClaimStatus where
  | mined
  | inMempool
  | unknown
  | spentByOther
deriving DecidableEq, Repr

def ClaimTxPresence.status : ClaimTxPresence → BtcClaimStatus
  | .mined => .mined
  | .inMempool => .inMempool

def claimStatus (run : NodeRun) (now : Nat) (ref claimTxid : String) :
    Except RpcFailure BtcClaimStatus := do
  let _ ← parseOutpointRef ref
  match ← claimTxPresence run now claimTxid with
  | some known => return known.status
  | none =>
    if ← fundingOutputUnspent run (now + 3) ref then return .unknown
    match ← claimTxPresence run (now + 5) claimTxid with
    | some again => return again.status
    | none => return .spentByOther

/-- What a transaction decodes to: its id, and the outputs that its inputs name. -/
structure DecodedTx where
  id : String
  inputs : List (Option String × Option Nat)
deriving DecidableEq, Repr

/-- What a re-send uses besides reads: the decoder, the guard on chain time, and the sending. -/
structure ResendRuntime where
  /-- `Transaction.fromRaw`; `none` when it throws. -/
  transactionFromRaw : String → Option DecodedTx
  assertChainTimeBeforeOrThrow : Int → Except RpcFailure Unit
  broadcastOrThrow : String → String → Except RpcFailure String

inductive BtcClaimResend where
  | mined
  | inMempool
  | spentByOther
deriving DecidableEq, Repr

def ClaimTxPresence.resend : ClaimTxPresence → BtcClaimResend
  | .mined => .mined
  | .inMempool => .inMempool

def resendClaim (rt : ResendRuntime) (run : NodeRun) (now : Nat) (ref claimTxid claimRawTx : String)
    (notAfterMs : Option Int) : Except RpcFailure BtcClaimResend := do
  let outpoint ← parseOutpointRef ref
  let decoded ← need (rt.transactionFromRaw claimRawTx)
    (.error "btc-htlc: the recorded claim rawTx does not decode as a transaction")
  require (decoded.id = claimTxid) (.error ("btc-htlc: the recorded claim rawTx does not hash to" ++
    " the recorded txid, refusing to broadcast it"))
  require (decoded.inputs = [(some outpoint.txid, some outpoint.vout)])
    (.error ("btc-htlc: the recorded claim rawTx does not spend exactly the funding output it is" ++
      " recorded for, refusing to broadcast it"))
  run.assertPinnedChain now
  match ← claimTxPresence run (now + 1) claimTxid with
  | some known => return known.resend
  | none =>
    if ← run.ask (now + 4) fun view => .ok (view.gettxout outpoint) then
      let _ ← notAfterMs.mapM rt.assertChainTimeBeforeOrThrow
      let sentTxid ← rt.broadcastOrThrow claimRawTx claimTxid
      require (sentTxid = claimTxid) (.error ("btc-htlc: resending the recorded claim produced a" ++
        " different txid than recorded (unexpected)"))
      return .inMempool
    else
      match ← claimTxPresence run (now + 5) claimTxid with
      | some again => return again.resend
      | none => return .spentByOther

inductive LockRecoveryOutcome where
  | landed
  | neverLanded
  | pending
  | unknown
deriving DecidableEq, Repr

/-- The handle of a recorded spend, for whatever chain. -/
structure LockRecovery where
  chain : String
  txid : String
  rawTx : String
deriving DecidableEq, Repr

/-- `/^[0-9a-f]{64}$/` and `/^([0-9a-f]{2})+$/`, on the handle. -/
def LockRecovery.shapeOk (recovery : LockRecovery) : Bool :=
  GENESIS_HASH_SHAPE recovery.txid && recovery.rawTx.toList.all isHexLower &&
    recovery.rawTx.toList.length % 2 = 0 && recovery.rawTx ≠ ""

/-- `requireBtcHandle`, of a spend: the handle is this chain's, and its bytes have its id. -/
def requireBtcHandle (rt : ResendRuntime) (ref : String) (recovery : Option LockRecovery) :
    Except RpcFailure LockRecovery := do
  let recovery ← need recovery (.error ("btc-htlc needs the funding transaction's txid and bytes" ++
    " recorded at prepareLock"))
  require (recovery.chain = "btc")
    (.error ("a " ++ recovery.chain ++ " recovery handle was given to the btc-htlc rail"))
  require (recovery.shapeOk = true)
    (.error "the recorded txid or rawTx is not lowercase hex of the expected shape")
  require ((parseRef ref).isSome = true) (.error "ref is not \"<64-hex txid>:<vout>\"")
  let decoded ← need (rt.transactionFromRaw recovery.rawTx)
    (.error "the recorded rawTx does not decode as a transaction")
  require (decoded.id = recovery.txid)
    (.error "the recorded rawTx does not hash to the recorded txid")
  return recovery

def recoverRefund (rt : ResendRuntime) (run : NodeRun) (now : Nat) (ref : String)
    (recovery : Option LockRecovery) : Except RpcFailure LockRecoveryOutcome := do
  let handle ← requireBtcHandle rt ref recovery
  let known ← recoverFunding run now handle.txid
  if known.broadcast = true then return if known.Confirmed then .landed else .pending
  if ← fundingOutputUnspent run (now + 2) ref then return .unknown
  let again ← recoverFunding run (now + 4) handle.txid
  if again.broadcast = true then return if again.Confirmed then .landed else .pending
  return .neverLanded

/-! ## What a look-up saw -/

section

variable {run : NodeRun} {now : Nat} {txid ref : String}

/-- A transaction that was not found was nowhere, and one that was found has its confirmations. -/
theorem recoverFunding_ok {known : RecoveredFunding} (h : recoverFunding run now txid = .ok known) :
    (known.broadcast = false ∧ ¬ (run.view (now + 1)).InMempool txid ∧
      ¬ (run.view (now + 1)).InChain txid) ∨
    (known.broadcast = true ∧ ∃ answer,
      (run.view (now + 1)).getrawtransaction txid = .ok answer ∧
      known.confirmations = some (answer.confirmations.getD 0)) := by
  unfold recoverFunding at h
  obtain ⟨-, -, h⟩ := bind_eq_ok.mp h
  split at h
  · rename_i hAsked
    cases Except.ok.inj h
    exact .inl ⟨rfl, getrawtransaction_notFound (ask_notFound hAsked)⟩
  · cases h
  · rename_i answer hAsked
    cases Except.ok.inj h
    exact .inr ⟨rfl, answer, ask_eq_ok hAsked, rfl⟩

/-- A mined transaction that is found is seen to be confirmed. -/
theorem confirmed_of_recoverFunding (hSteady : run.Steady) {known : RecoveredFunding}
    (h : recoverFunding run now txid = .ok known)
    (hChain : (run.view (now + 1)).InChain txid) : known.broadcast = true ∧ known.Confirmed := by
  rcases recoverFunding_ok h with ⟨-, -, hNot⟩ | ⟨hKnown, answer, hAnswer, hConfirmations⟩
  · exact absurd hChain hNot
  · obtain ⟨n, hn, hOne⟩ := confirmed_of_inChain (hSteady.consistent _) hChain hAnswer
    refine ⟨hKnown, ?_⟩
    unfold RecoveredFunding.Confirmed
    rw [hConfirmations, hn]
    exact decide_eq_true hOne

/-- What the look-up of a claim that is not held saw: nothing at its first read, or a transaction
without a confirmation there, and no pending one at its second. -/
theorem claimTxPresence_none (hSteady : run.Steady)
    (h : claimTxPresence run now txid = .ok none) :
    ¬ (run.view (now + 1)).InChain txid ∧
      (¬ (run.view (now + 1)).InMempool txid ∨ ¬ (run.view (now + 2)).InMempool txid) := by
  unfold claimTxPresence at h
  obtain ⟨known, hKnown, h⟩ := bind_eq_ok.mp h
  have hMined := confirmed_of_recoverFunding hSteady hKnown
  split at h
  · rename_i hNot
    rcases recoverFunding_ok hKnown with ⟨-, hMempool, hChain⟩ | ⟨hFound, -⟩
    · exact ⟨hChain, .inl hMempool⟩
    · rw [hFound] at hNot
      cases hNot
  · split at h
    · cases h
    · rename_i hUnconfirmed
      refine ⟨fun hChain => hUnconfirmed (hMined hChain).2, .inr ?_⟩
      split at h
      · cases h
      · rename_i hAsked
        have hEntry := ask_notFound hAsked
        unfold NodeView.getmempoolentry at hEntry
        split at hEntry
        · cases hEntry
        · assumption
      · cases h

/-- Whether the funding output is unspent was answered. -/
theorem fundingOutputUnspent_ok {unspent : Bool}
    (h : fundingOutputUnspent run now ref = .ok unspent) :
    ∃ outpoint, parseRef ref = some outpoint ∧
      (run.view (now + 1)).gettxout outpoint = unspent := by
  unfold fundingOutputUnspent parseOutpointRef at h
  obtain ⟨outpoint, hRef, h⟩ := bind_eq_ok.mp h
  obtain ⟨-, -, h⟩ := bind_eq_ok.mp h
  exact ⟨outpoint, need_eq_ok.mp hRef, Except.ok.inj (ask_eq_ok h)⟩

/-! ## The verdicts -/

/-- The reads behind a verdict: the funding output at one moment, and then the recorded transaction,
known or not at the next and pending or not at the last. -/
structure GivenUp (run : NodeRun) (txid : String) (outpoint : Outpoint) (spent known last : Nat) :
    Prop where
  spent : (run.view spent).gettxout outpoint = false
  unmined : ¬ (run.view known).InChain txid
  absent : ¬ (run.view known).InMempool txid ∨ known < last ∧ ¬ (run.view last).InMempool txid

/-- A claim is called spent by another only when it was given up. -/
theorem claimStatus_spentByOther (hSteady : run.Steady)
    (h : claimStatus run now ref txid = .ok .spentByOther) :
    ∃ outpoint, parseRef ref = some outpoint ∧
      GivenUp run txid outpoint (now + 4) (now + 6) (now + 7) := by
  unfold claimStatus at h
  obtain ⟨-, -, h⟩ := bind_eq_ok.mp h
  obtain ⟨known, -, h⟩ := bind_eq_ok.mp h
  cases known with
  | some known => cases known <;> cases Except.ok.inj h
  | none =>
    obtain ⟨unspent, hUnspent, h⟩ := bind_eq_ok.mp h
    obtain ⟨outpoint, hRef, hOutput⟩ := fundingOutputUnspent_ok hUnspent
    cases unspent with
    | true => cases Except.ok.inj h
    | false =>
      obtain ⟨again, hAgain, h⟩ := bind_eq_ok.mp h
      cases again with
      | some again => cases again <;> cases Except.ok.inj h
      | none =>
        obtain ⟨hChain, hAbsent⟩ := claimTxPresence_none hSteady hAgain
        exact ⟨outpoint, hRef, hOutput, hChain, hAbsent.imp_right fun h => ⟨by omega, h⟩⟩

/-- A resent claim is called spent by another only when it was given up. -/
theorem resendClaim_spentByOther {rt : ResendRuntime} {claimRawTx : String}
    {notAfterMs : Option Int} (hSteady : run.Steady)
    (h : resendClaim rt run now ref txid claimRawTx notAfterMs = .ok .spentByOther) :
    ∃ outpoint, parseRef ref = some outpoint ∧
      GivenUp run txid outpoint (now + 4) (now + 6) (now + 7) := by
  unfold resendClaim parseOutpointRef at h
  -- the checks of what was recorded, before the node is asked
  obtain ⟨outpoint, hRef, h⟩ := bind_eq_ok.mp h
  obtain ⟨decoded, -, h⟩ := bind_eq_ok.mp h
  obtain ⟨-, h⟩ := require_bind_eq_ok.mp h
  obtain ⟨-, h⟩ := require_bind_eq_ok.mp h
  obtain ⟨-, -, h⟩ := bind_eq_ok.mp h
  obtain ⟨known, -, h⟩ := bind_eq_ok.mp h
  -- a claim that the node knows is not given up
  cases known with
  | some known => cases known <;> cases Except.ok.inj h
  | none =>
    obtain ⟨unspent, hUnspent, h⟩ := bind_eq_ok.mp h
    -- it is sent while the output is unspent
    cases unspent with
    | true =>
      rw [if_pos rfl] at h
      obtain ⟨-, -, h⟩ := bind_eq_ok.mp h
      obtain ⟨sent, -, h⟩ := bind_eq_ok.mp h
      obtain ⟨-, h⟩ := require_bind_eq_ok.mp h
      cases Except.ok.inj h
    | false =>
      -- spent, and still unknown on the second look
      obtain ⟨again, hAgain, h⟩ := bind_eq_ok.mp h
      cases again with
      | some again => cases again <;> cases Except.ok.inj h
      | none =>
        obtain ⟨hChain, hAbsent⟩ := claimTxPresence_none hSteady hAgain
        exact ⟨outpoint, need_eq_ok.mp hRef, Except.ok.inj (ask_eq_ok hUnspent), hChain,
          hAbsent.imp_right fun h => ⟨by omega, h⟩⟩

/-- A refund is called never landed only with its handle at hand. -/
theorem recoverRefund_neverLanded {rt : ResendRuntime} {recovery : Option LockRecovery}
    (h : recoverRefund rt run now ref recovery = .ok .neverLanded) :
    ∃ handle outpoint, requireBtcHandle rt ref recovery = .ok handle ∧
      parseRef ref = some outpoint ∧
      GivenUp run handle.txid outpoint (now + 3) (now + 5) (now + 5) := by
  unfold recoverRefund at h
  obtain ⟨handle, hHandle, h⟩ := bind_eq_ok.mp h
  obtain ⟨known, -, h⟩ := bind_eq_ok.mp h
  split at h
  · split at h <;> cases Except.ok.inj h
  · obtain ⟨unspent, hUnspent, h⟩ := bind_eq_ok.mp h
    obtain ⟨outpoint, hRef, hOutput⟩ := fundingOutputUnspent_ok hUnspent
    cases unspent with
    | true => cases Except.ok.inj h
    | false =>
      obtain ⟨again, hAgain, h⟩ := bind_eq_ok.mp h
      split at h
      · split at h <;> cases Except.ok.inj h
      · rename_i hNot
        rcases recoverFunding_ok hAgain with ⟨-, hMempool, hChain⟩ | ⟨hFound, -⟩
        · exact ⟨handle, outpoint, hHandle, hRef, hOutput, hChain, .inl hMempool⟩
        · exact absurd hFound hNot

end

/-! ## When they hold -/

/-- The recorded transaction is nowhere. -/
def Nowhere (view : NodeView) (txid : String) : Prop := ¬ view.InMempool txid ∧ ¬ view.InChain txid

/-- Another transaction spends the output, and the recorded one is nowhere. -/
def Superseded (view : NodeView) (txid : String) (outpoint : Outpoint) : Prop :=
  (∃ rival, rival.txid ≠ txid ∧ view.SpentBy rival outpoint) ∧ Nowhere view txid

/-- When the recorded transaction leaves the mempool, from the read of the funding output on, it is
mined or gives way to another spend; between the two reads of the last look-up it is not mined. -/
structure Undisturbed (run : NodeRun) (txid : String) (outpoint : Outpoint)
    (spent looked last : Nat) : Prop where
  before : ∀ t, spent ≤ t → t < looked → (run.view t).InMempool txid →
    (run.view (t + 1)).InMempool txid ∨ (run.view (t + 1)).InChain txid ∨
      Superseded (run.view (t + 1)) txid outpoint
  within : ∀ t, looked ≤ t → t < last → (run.view t).InMempool txid →
    (run.view (t + 1)).InMempool txid ∨ Superseded (run.view (t + 1)) txid outpoint

/-- What the verdicts say: at some moment of the call the output was another's, and the recorded
transaction was nowhere when it was looked up for the last time. -/
def Lost (run : NodeRun) (txid : String) (outpoint : Outpoint) (spent looked last : Nat) : Prop :=
  (∃ t, spent ≤ t ∧ t ≤ last ∧ Superseded (run.view t) txid outpoint) ∧
    ∃ t, looked ≤ t ∧ t ≤ last ∧ Nowhere (run.view t) txid

/-- The funding transaction is in the chain. -/
def Funded (run : NodeRun) (outpoint : Outpoint) : Prop :=
  ∀ t, ∃ tx ∈ (run.view t).chain, tx.txid = outpoint.txid ∧ outpoint.vout < tx.outputs

section

variable {run : NodeRun} {txid : String} {outpoint : Outpoint} {spent looked last : Nat}

/-- A pending transaction stays until it is mined or superseded. -/
theorem Undisturbed.pending (hSteady : run.Steady)
    (h : Undisturbed run txid outpoint spent looked last) (hLe : spent ≤ looked)
    (hPending : (run.view spent).InMempool txid) :
    (run.view looked).InMempool txid ∨ (run.view looked).InChain txid ∨
      ∃ t, spent ≤ t ∧ t ≤ looked ∧ Superseded (run.view t) txid outpoint := by
  have hStays : ∀ n, spent + n ≤ looked →
      (run.view (spent + n)).InMempool txid ∨ (run.view (spent + n)).InChain txid ∨
        ∃ t, spent ≤ t ∧ t ≤ looked ∧ Superseded (run.view t) txid outpoint := by
    intro n
    induction n with
    | zero => exact fun _ => .inl hPending
    | succ n ih =>
      intro hn
      rcases ih (by omega) with hMempool | hChain | hSuperseded
      · have hStep := h.before (spent + n) (Nat.le_add_right spent n) (by omega) hMempool
        exact hStep.imp_right fun hStep => hStep.imp_right fun hStep =>
          ⟨spent + n + 1, by omega, hn, hStep⟩
      · exact .inr (.inl (hSteady.inChain (Nat.le_succ (spent + n)) hChain))
      · exact .inr (.inr hSuperseded)
  have hAt := hStays (looked - spent) (by omega)
  rwa [Nat.add_sub_cancel' hLe] at hAt

/-- Within the last look-up it stays pending unless it is superseded. -/
theorem Undisturbed.lookup (h : Undisturbed run txid outpoint spent looked last)
    (hLe : looked ≤ last) (hPending : (run.view looked).InMempool txid) :
    (run.view last).InMempool txid ∨
      ∃ t, looked ≤ t ∧ t ≤ last ∧ Superseded (run.view t) txid outpoint := by
  have hStays : ∀ n, looked + n ≤ last → (run.view (looked + n)).InMempool txid ∨
      ∃ t, looked ≤ t ∧ t ≤ last ∧ Superseded (run.view t) txid outpoint := by
    intro n
    induction n with
    | zero => exact fun _ => .inl hPending
    | succ n ih =>
      intro hn
      rcases ih (by omega) with hMempool | hSuperseded
      · have hStep := h.within (looked + n) (Nat.le_add_right looked n) (by omega) hMempool
        exact hStep.imp_right fun hStep => ⟨looked + n + 1, by omega, hn, hStep⟩
      · exact .inr hSuperseded
  have hAt := hStays (last - looked) (by omega)
  rwa [Nat.add_sub_cancel' hLe] at hAt

/-- A spend that is given up in an undisturbed run is lost. -/
theorem lost_of_givenUp (hSteady : run.Steady) (hFunded : Funded run outpoint)
    (hUndisturbed : Undisturbed run txid outpoint spent looked last) (hSpent : spent ≤ looked)
    (hLast : looked ≤ last) (h : GivenUp run txid outpoint spent looked last) :
    Lost run txid outpoint spent looked last := by
  by_cases hPending : (run.view looked).InMempool txid
  · -- it was there at the first read and not at the second, so it gave way to another spend
    have hGone := h.absent.resolve_left (not_not.mpr hPending)
    obtain ⟨t, hFrom, hTo, hSuperseded⟩ :=
      (hUndisturbed.lookup hLast hPending).resolve_left hGone.2
    exact ⟨⟨t, hSpent.trans hFrom, hTo, hSuperseded⟩, t, hFrom, hTo, hSuperseded.2⟩
  · refine ⟨?_, looked, le_refl looked, hLast, hPending, h.unmined⟩
    by_cases hHeld : (run.view spent).InMempool txid
    · -- it held the output, and has left the mempool without being mined
      obtain ⟨t, hFrom, hTo, hSuperseded⟩ :=
        ((hUndisturbed.pending hSteady hSpent hHeld).resolve_left hPending).resolve_left h.unmined
      exact ⟨t, hFrom, hTo.trans hLast, hSuperseded⟩
    · have hUnmined : ¬ (run.view spent).InChain txid := fun hChain =>
        h.unmined (hSteady.inChain hSpent hChain)
      obtain ⟨rival, hRival⟩ := spentBy_of_gettxout h.spent (hFunded spent)
      refine ⟨spent, le_refl spent, hSpent.trans hLast, ⟨rival, fun hSame => ?_, hRival⟩, hHeld,
        hUnmined⟩
      rcases hRival.1 with hMempool | hChain
      · exact hHeld ⟨rival, hMempool, hSame⟩
      · exact hUnmined ⟨rival, hChain, hSame⟩

end

/-- A recorded claim is reported superseded, and a recorded refund given up, only when it is lost,
unless the recorded transaction drops out or is mined at the wrong moment. -/
theorem lostSpend_sound {run : NodeRun} (hSteady : run.Steady) {ref : String} {outpoint : Outpoint}
    (hRef : parseRef ref = some outpoint) (hFunded : Funded run outpoint) (now : Nat) :
    (∀ txid, Undisturbed run txid outpoint (now + 4) (now + 6) (now + 7) →
      claimStatus run now ref txid = .ok .spentByOther →
      Lost run txid outpoint (now + 4) (now + 6) (now + 7)) ∧
    (∀ rt txid rawTx notAfterMs, Undisturbed run txid outpoint (now + 4) (now + 6) (now + 7) →
      resendClaim rt run now ref txid rawTx notAfterMs = .ok .spentByOther →
      Lost run txid outpoint (now + 4) (now + 6) (now + 7)) ∧
    ∀ rt recovery handle, requireBtcHandle rt ref recovery = .ok handle →
      Undisturbed run handle.txid outpoint (now + 3) (now + 5) (now + 5) →
      recoverRefund rt run now ref recovery = .ok .neverLanded →
      Lost run handle.txid outpoint (now + 3) (now + 5) (now + 5) := by
  refine ⟨fun txid hUndisturbed h => ?_, fun rt txid rawTx notAfterMs hUndisturbed h => ?_,
    fun rt recovery handle hHandle hUndisturbed h => ?_⟩
  · obtain ⟨parsed, hParsed, hGiven⟩ := claimStatus_spentByOther hSteady h
    cases hRef.symm.trans hParsed
    exact lost_of_givenUp hSteady hFunded hUndisturbed (by omega) (by omega) hGiven
  · obtain ⟨parsed, hParsed, hGiven⟩ := resendClaim_spentByOther hSteady h
    cases hRef.symm.trans hParsed
    exact lost_of_givenUp hSteady hFunded hUndisturbed (by omega) (by omega) hGiven
  · obtain ⟨checked, parsed, hChecked, hParsed, hGiven⟩ := recoverRefund_neverLanded h
    cases hRef.symm.trans hParsed
    cases hHandle.symm.trans hChecked
    exact lost_of_givenUp hSteady hFunded hUndisturbed (by omega) (le_refl _) hGiven

/-! ## A spend that arrives during a call -/

namespace RecoverySample

open NodeSample

def claimTxid : String := repeated 'c'

def rivalTxid : String := repeated 'd'

/-- The sample's transactions differ. -/
theorem distinct : claimTxid ≠ fundingTxid ∧ rivalTxid ≠ fundingTxid ∧ claimTxid ≠ rivalTxid :=
  ⟨repeated_ne (by decide), repeated_ne (by decide), repeated_ne (by decide)⟩

/-- The sample's output is funded. -/
theorem funded (txid : String) (witness : List String) (pending mined : Nat) :
    Funded (arriving txid witness pending mined) outpoint := by
  intro t
  refine ⟨fundingTx, ?_, rfl, Nat.zero_lt_one⟩
  rcases view_cases txid witness pending mined t with hView | hView | hView <;> rw [hView] <;>
    simp [NodeView.chain, first]

section

variable {txid : String} {witness : List String}

/-- A transaction that is nowhere is not found. -/
theorem nowhere_reads (hOther : txid ≠ fundingTxid) :
    NodeView.getrawtransaction ⟨[], [first], []⟩ txid = .error .notFound := by
  simp [NodeView.getrawtransaction, findMined, first, fundingTx, hOther.symm]

/-- How a pending spend reads. -/
theorem pending_reads :
    NodeView.getrawtransaction ⟨[spendTx txid witness], [first], []⟩ txid =
        .ok ⟨none, none, (spendTx txid witness).vin⟩ ∧
      NodeView.gettxout ⟨[spendTx txid witness], [first], []⟩ outpoint = false := by
  simp [NodeView.getrawtransaction, NodeView.gettxout, spendTx, NodeTx.spends, NodeInput.spends,
    outpoint]

/-- How a mined spend reads. -/
theorem mined_reads :
    NodeView.getmempoolentry ⟨[], [first, ⟨"1", [spendTx txid witness]⟩], []⟩ txid =
      .error .notFound := by
  simp [NodeView.getmempoolentry, NodeView.InMempool]

/-- Any other one is never found. -/
theorem other_reads {other : String} (hOther : txid ≠ fundingTxid) (hSpend : txid ≠ other)
    (pending mined t : Nat) :
    ((arriving other witness pending mined).view t).getrawtransaction txid = .error .notFound := by
  rcases view_cases other witness pending mined t with hView | hView | hView <;> rw [hView] <;>
    simp [NodeView.getrawtransaction, findMined, first, fundingTx, spendTx, hOther.symm,
      hSpend.symm]

/-- A transaction that is not found is not present. -/
theorem claimTxPresence_notFound {other : String} {pending mined now : Nat}
    (h : ((arriving other witness pending mined).view (now + 1)).getrawtransaction txid =
      .error .notFound) :
    claimTxPresence (arriving other witness pending mined) now txid = .ok none := by
  unfold claimTxPresence recoverFunding NodeRun.assertPinnedChain NodeRun.ask
  simp only [h]
  rfl

/-- Before the spend arrives it is not found. -/
theorem claimTxPresence_nowhere {pending mined now : Nat} (h : now + 1 < pending)
    (hOther : txid ≠ fundingTxid) :
    claimTxPresence (arriving txid witness pending mined) now txid = .ok none :=
  claimTxPresence_notFound (by simp only [arriving, if_pos h, nowhere_reads hOther])

/-- While it is pending it holds the funding output. -/
theorem fundingOutputUnspent_pending {pending mined now : Nat} (h : pending ≤ now + 1)
    (hMined : now + 1 < mined) :
    fundingOutputUnspent (arriving txid witness pending mined) now ref = .ok false := by
  unfold fundingOutputUnspent parseOutpointRef NodeRun.assertPinnedChain NodeRun.ask
  rw [parseRef_ref]
  simp only [arriving, if_neg (Nat.not_lt.mpr h), if_pos hMined, need]
  exact congrArg Except.ok pending_reads.2

/-- Mined between the two reads, it is found without a confirmation at the first, and is no longer
in the mempool at the second. -/
theorem claimTxPresence_minedBetween {pending now : Nat} (h : pending ≤ now + 1) :
    claimTxPresence (arriving txid witness pending (now + 2)) now txid = .ok none := by
  unfold claimTxPresence recoverFunding NodeRun.assertPinnedChain NodeRun.ask
  simp only [arriving, if_neg (Nat.not_lt.mpr h), if_pos (Nat.lt_succ_self (now + 1)),
    if_neg (Nat.not_lt.mpr (Nat.le_succ_of_le h)), if_neg (Nat.lt_irrefl (now + 2)),
    pending_reads.1, mined_reads]
  rfl

end

/-- The rival is pending when the funding output is read, and the claim never arrives. -/
theorem lostSpend_sound_sample :
    claimStatus (arriving rivalTxid [] 2 5) 0 ref claimTxid = .ok .spentByOther ∧
      Lost (arriving rivalTxid [] 2 5) claimTxid outpoint 4 6 7 := by
  have hNever : ∀ t, ((arriving rivalTxid [] 2 5).view t).getrawtransaction claimTxid =
      .error .notFound := other_reads distinct.1 distinct.2.2 2 5
  have hStatus : claimStatus (arriving rivalTxid [] 2 5) 0 ref claimTxid = .ok .spentByOther := by
    unfold claimStatus parseOutpointRef
    rw [parseRef_ref, claimTxPresence_notFound (hNever 1),
      fundingOutputUnspent_pending (by omega) (by omega), claimTxPresence_notFound (hNever 6)]
    rfl
  have hAbsent : ∀ t, ¬ ((arriving rivalTxid [] 2 5).view t).InMempool claimTxid := fun t =>
    (getrawtransaction_notFound (hNever t)).1
  have hUndisturbed : Undisturbed (arriving rivalTxid [] 2 5) claimTxid outpoint 4 6 7 :=
    ⟨fun t _ _ h => absurd h (hAbsent t), fun t _ _ h => absurd h (hAbsent t)⟩
  exact ⟨hStatus, (lostSpend_sound (steady distinct.2.1 [] 2 5) parseRef_ref
    (funded rivalTxid [] 2 5) 0).1 claimTxid hUndisturbed hStatus⟩

/-- A claim that is pending from the read of the funding output on, and mined between the reads of
the second look-up, is called spent by another, which nothing ever does. -/
theorem claimStatus_minedBetween :
    (arriving claimTxid [] 4 7).Steady ∧ parseRef ref = some outpoint ∧
      Funded (arriving claimTxid [] 4 7) outpoint ∧
      claimStatus (arriving claimTxid [] 4 7) 0 ref claimTxid = .ok .spentByOther ∧
      ((arriving claimTxid [] 4 7).view 7).InChain claimTxid ∧
      ∀ t tx, ((arriving claimTxid [] 4 7).view t).SpentBy tx outpoint → tx.txid = claimTxid := by
  refine ⟨steady distinct.1 [] 4 7, parseRef_ref, funded claimTxid [] 4 7, ?_, ?_, fun t tx h => ?_⟩
  · unfold claimStatus parseOutpointRef
    rw [parseRef_ref, claimTxPresence_nowhere (by omega) distinct.1]
    rw [fundingOutputUnspent_pending (by omega) (by omega),
      claimTxPresence_minedBetween (by omega)]
    rfl
  · exact ⟨spendTx claimTxid [], by simp [arriving, NodeView.chain], rfl⟩
  · have hHeld : tx = fundingTx ∨ tx = spendTx claimTxid [] := by
      have hTx := h.1
      rcases view_cases claimTxid [] 4 7 t with hView | hView | hView <;> rw [hView] at hTx <;>
        simp [NodeView.chain, first] at hTx <;> tauto
    rcases hHeld with rfl | rfl
    · cases h.2
    · rfl

end RecoverySample

end SwapDesk.Rails.BtcNode
