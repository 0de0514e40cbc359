import SwapDesk.Client.BuyerRefund

/-!
# SwapDesk — what a Buyer's flow never does

The remaining calls keep to the rules as well, and with them every run of a flow does: over any
calls, any answers of the outside, any saves that fail and any restarts.

Main results: `lock_is_on_record`, `locks_are_one`, `refund_is_due`, `refunds_are_one`,
`no_refund_after_claim`, `claim_is_on_record`, `line_is_on_record`, `account_line_is_one`,
`resume_restores`, `next_is_open`.
-/

namespace SwapDesk.Client.Buyer

open Check Desk Client.Flow

section

variable {deps : BuyerDeps} {rail : CounterAssetRail} {pairing : Pairing} {s s' : World}

-- ---------------------------------------------------------------------------
-- The small calls
-- ---------------------------------------------------------------------------

/-- Verifying leg B ends synced. -/
theorem spec_verifyLegBLocked (hInv : Inv rail pairing s) (hSynced : Synced s) :
    Spec deps rail pairing verifyLegBLocked (fun _ s' => Synced s') s := by
  refine spec_usable_then hInv fun _ => ?_
  refine spec_read_then rfl trivial hInv hSynced fun verified _ hInv₁ hSynced₁ => ?_
  refine spec_check_then hInv₁ hSynced₁ fun _ => ?_
  refine spec_save ?_ fun _ _ hSynced₂ => hSynced₂
  exact hInv₁.touch ⟨hInv₁.live.attempted, hInv₁.live.untouched, hInv₁.live.refundless,
    hInv₁.live.landed⟩ { Behind.refl s.live with verified := fun _ => rfl } rfl

/-- Reading the record first only names it. -/
theorem spec_record_then {β : Type} {f : Stored → BuyerRoutine β} {F : β → World → Prop}
    (hInv : Inv rail pairing s) (hf : Spec deps rail pairing (f s.stored) F s) :
    Spec deps rail pairing (ask .record >>= f) F s := by
  refine Spec.bind (spec_record (F := fun stored s' => stored = s.stored ∧ s' = s) hInv
    ⟨rfl, rfl⟩) ?_
  rintro stored s' hInv' ⟨rfl, rfl⟩
  exact hf

/-- The account line is on record before it is posted. -/
theorem spec_savedAccountLine {address : String} (hInv : Inv rail pairing s) (hSynced : Synced s)
    (hFailed : s.failed = false) :
    Spec deps rail pairing (savedAccountLine address) (fun text s' => Synced s' ∧
      s'.failed = false ∧ ∃ address, s'.stored.state.ownAccountLine = some ⟨address, text⟩) s := by
  refine spec_record_then hInv ?_
  -- A line on record stays as it is; a new one is saved before it is handed on.
  split
  · rename_i saved hSaved
    refine Spec.bind (F := fun _ s' => s' = s) (spec_require hInv hSynced fun _ => rfl) ?_
    rintro _ s₁ hInv₁ rfl
    exact spec_pure hInv ⟨hSynced, hFailed, saved.address, hSaved⟩
  · rename_i hNone
    refine spec_read_then rfl trivial hInv hSynced fun text _ hInv₁ hSynced₁ => ?_
    refine Spec.bind (F := fun _ s' => Synced s' ∧ s'.failed = false ∧
      s'.stored.state.ownAccountLine = some ⟨address, text⟩) (spec_ask fun r s' hDoes => ?_) ?_
    · have hLaid : Laid _ s' := hDoes.laid
        { Grows.refl _ with
          line := fun line hLine => by
            rw [note_stored, hNone] at hLine
            cases hLine }
      refine ⟨⟨hNone, hInv₁.keeps hLaid⟩, ?_⟩
      have hSynced₂ := hSynced₁.laid hInv₁ hLaid
      cases r with
      | error e => exact ⟨hInv₁.laid hLaid, hSynced₂⟩
      | ok _ =>
        cases hDoes with
        | saved _ => exact ⟨hInv₁.laid hLaid, hSynced₂, hFailed, rfl⟩
    · rintro _ s₂ hInv₂ ⟨hSynced₂, hFailed₂, hLine⟩
      exact spec_pure hInv₂ ⟨hSynced₂, hFailed₂, address, hLine⟩

/-- Posting the account line ends synced. -/
theorem spec_postAccountLineA {address : String} (hInv : Inv rail pairing s)
    (hSynced : Synced s) :
    Spec deps rail pairing (postAccountLineA address) (fun _ s' => Synced s') s := by
  refine spec_usable_then hInv fun hFailed => ?_
  refine Spec.bind (spec_savedAccountLine hInv hSynced hFailed) ?_
  rintro text s₁ hInv₁ ⟨hSynced₁, hFailed₁, own, hLine⟩
  refine Spec.mono (spec_ensurePosted hInv₁ hSynced₁ hFailed₁ ?_) fun _ _ _ hTold => hTold.synced
  refine spec_look_then hInv₁ (spec_record_then hInv₁ ?_)
  refine spec_require hInv₁ hSynced₁ fun ⟨hAttempted, hEntered⟩ => ⟨.refl s₁, ?_⟩
  have hStored : s₁.stored.state.lock.attempted = s₁.live.legALockAttempted :=
    congrArg Live.legALockAttempted (hSynced₁ hFailed₁)
  exact ⟨hStored.trans hAttempted, hEntered, own, text, rfl, hLine⟩

-- ---------------------------------------------------------------------------
-- Every run
-- ---------------------------------------------------------------------------

/-- What a call hands back is nothing that the flow keeps. -/
theorem spec_dropped {α : Type} {t : BuyerRoutine α}
    (h : Spec deps rail pairing t (fun _ s' => Synced s') s) :
    Spec deps rail pairing (t >>= fun _ => pure ()) (fun _ s' => Synced s') s :=
  Spec.bind h fun _ _ hInv' hSynced' => spec_pure hInv' hSynced'

/-- Every call of the buyer keeps the invariant and ends synced. -/
theorem spec_program (call : Call) (hInv : Inv rail pairing s) (hSynced : Synced s) :
    Spec deps rail pairing (program deps rail pairing call) (fun _ s' => Synced s') s := by
  cases call with
  | verifyLegBLocked => exact spec_verifyLegBLocked hInv hSynced
  | postAccountLineA address => exact spec_postAccountLineA hInv hSynced
  | lockLegA => exact spec_dropped (spec_lockLegA hInv hSynced)
  | reconcileLockA => exact spec_dropped (spec_reconcileLockA hInv hSynced)
  | learnSecret => exact spec_dropped (spec_learnSecret hInv hSynced)
  | claimLegB secret => exact spec_claimLegB hInv hSynced
  | refundLegA => exact spec_dropped (spec_refundLegA hInv hSynced)

/-- What was read back is on record. -/
theorem synced_applied (hLive : s.live = applyRecord s.stored) : Synced s := by
  intro _
  rw [hLive]
  unfold Live.shown applyRecord
  simp only [Stored.isLanded, Bool.or_assoc, Bool.or_self]

/-- What a blank record applies is recorded. -/
theorem Blank.recorded {r : Stored} (h : Blank r) : Recorded rail pairing (applyRecord r) := by
  unfold applyRecord
  rw [h.lock, h.refund]
  exact ⟨fun hAttempted => absurd hAttempted Bool.false_ne_true,
    fun _ => ⟨rfl, rfl, rfl, rfl, rfl, rfl⟩, fun _ => ⟨rfl, rfl⟩,
    fun _ hRefunded => absurd hRefunded Bool.false_ne_true⟩

/-- A blank record is paired. -/
theorem Blank.paired {r : Stored} (h : Blank r) : r.paired = true := by
  simp [Stored.paired, Stored.isLanded, h.landed]

/-- A new process knows what is on record. -/
theorem Inv.resumed (h : Inv rail pairing s) :
    Inv rail pairing { s with live := applyRecord s.stored, failed := false, call := [] } where
  live := h.stored
  stored := h.stored
  behind := .refl _
  locks := h.locks
  refund handle hOut := ⟨(h.refund handle hOut).1, (h.refund handle hOut).1⟩
  sent := h.sent
  handle := h.handleStored
  handleStored := h.handleStored
  accountLine := h.accountLine
  paired := h.paired

/-- A flow that resumes takes its live state from the record alone. -/
theorem resume_eq_some (h : resume pairing s = some s') :
    s' = { s with live := applyRecord s.stored, failed := false, call := [] } := by
  unfold resume at h
  split at h
  · cases h
  · split at h
    · exact (Option.some.inj h).symm
    · cases h

/-- No record that a flow leaves is refused. -/
theorem Inv.resumes (h : Inv rail pairing s) : resume pairing s =
    some { s with live := applyRecord s.stored, failed := false, call := [] } := by
  have hHashLock : s.stored.state.lock.hashLock.all (· = pairing.statement) = true := by
    cases hAttempted : (applyRecord s.stored).legALockAttempted with
    | true =>
      obtain ⟨_, _, -, -, hHashLock, -⟩ := h.stored.attempted hAttempted
      have hSome : s.stored.state.lock.hashLock = some pairing.statement := hHashLock
      rw [hSome]
      exact decide_eq_true rfl
    | false =>
      have hNone : s.stored.state.lock.hashLock = none := (h.stored.untouched hAttempted).2.2.1
      rw [hNone]
      rfl
  have hAccepted : s.stored.isLanded .acceptB = true := (Bool.and_eq_true_iff.mp h.paired).2
  unfold resume
  rw [hAccepted, Bool.not_true, Bool.and_false, if_neg Bool.false_ne_true, if_pos hHashLock]

/-- Every operation of every run is one that the rules allow. -/
theorem sound (deps : BuyerDeps) (rail : CounterAssetRail) (pairing : Pairing) :
    (flow deps rail pairing).Sound (Inv rail pairing) Synced
      (fun o s _ s' => Guard deps rail pairing s o ∧ Keeps s s') where
  init s hInit := by
    obtain ⟨hBlank, hLive, hFailed, hCall, hPast⟩ := hInit
    refine ⟨?_, synced_applied hLive⟩
    have hRecovery : (applyRecord s.stored).refundRecovery = none :=
      congrArg BuyerRefund.recovery hBlank.refund
    exact
      { live := by rw [hLive]; exact hBlank.recorded
        stored := hBlank.recorded
        behind := by rw [hLive]; exact .refl _
        locks := by rw [hPast]; intro p hp; cases hp
        refund := by rw [hPast]; intro handle hOut; cases hOut
        sent := .inl (by rw [hPast]; rfl)
        handle := by rw [hLive, hRecovery]; intro h; cases h
        handleStored := fun h => by
          have hNone : s.stored.state.refund.recovery = none := hRecovery
          rw [hNone] at h
          cases h
        accountLine := by rw [hPast]; intro text answer hPost; cases hPost
        paired := hBlank.paired }
  begin s hInv hSynced := { hInv with }
  call call s hInv hSynced := by
    have hBegun : Inv rail pairing { s with call := [] } := { hInv with }
    refine Routine.Meets.mono (spec_program call hBegun hSynced) ?_
    rintro (e | _) s' ⟨-, hSynced'⟩
    · exact hSynced'
    · exact hSynced'
  -- The record outlives a crash, and the new process knows nothing else.
  restart s s' hInv hResume := by
    obtain rfl := resume_eq_some hResume
    exact ⟨hInv.resumed, synced_applied rfl⟩

-- ---------------------------------------------------------------------------
-- Operations
-- ---------------------------------------------------------------------------

/-- Anything that is asked may fail. -/
theorem exists_answer (rail : CounterAssetRail) (o : Op) (s : World) :
    ∃ r s', Does rail o s r s' := by
  have hWrites (next : Stored) : ∃ s', Writes s next (.error (.error "")) s' := by
    cases hFailed : s.failed with
    | true => exact ⟨s, .dead _ hFailed⟩
    | false => exact ⟨_, .refused _ hFailed⟩
  -- Saves and posts fail by the store, everything outside by an answer without a value.
  cases o with
  | look => exact ⟨_, _, rfl, rfl⟩
  | modify change => exact ⟨_, _, rfl, rfl⟩
  | record => exact ⟨_, _, rfl, rfl⟩
  | usable =>
    refine ⟨if s.failed = false then .ok () else .error (.error ""), s, ?_, rfl⟩
    split <;> simp_all
  | persist => exact ⟨_, hWrites _⟩
  | saveAccountLine line => exact ⟨_, hWrites _⟩
  | adopt kind line => exact ⟨_, s, .unread (.error "")⟩
  | post kind line =>
    obtain ⟨s₁, h⟩ := hWrites (project s.live (s.stored.enter kind))
    exact ⟨_, _, s₁, .unsaved _ (.saves h), rfl⟩
  | clock => exact ⟨.ok 0, _, ⟨0, rfl⟩, rfl⟩
  | newExchanges => exact ⟨.ok [], _, ⟨[], rfl⟩, rfl⟩
  | _ =>
    refine ⟨.error (.error ""), _, And.intro (fun value hValue => ?_) rfl⟩
    cases hValue

/-- A new action on leg A's lock. -/
def Op.movesLock : Op → Bool
  | .approve | .sendLock _ | .resendLock _ => true
  | _ => false

/-- The lock whose bytes an operation sends. -/
def Op.lock : Op → Option PreparedLock
  | .sendLock prepared | .resendLock prepared => some prepared
  | _ => none

/-- The lock that an operation signs or sends a refund of. -/
def Op.refundRef : Op → Option String
  | .signRefund ref | .sendRefund ref _ | .resendRefund ref _ | .resendRefundIfDropped ref _ =>
    some ref
  | _ => none

/-- The text of an account line that was posted. -/
def Entry.accountText : Entry → Option String
  | ⟨.post .accountA (.account text), _⟩ => some text
  | _ => none

/-- The account lines that were posted, with or without an answer. -/
def accountTexts (past : List Entry) : List String := past.filterMap Entry.accountText

/-- No refund was sent without a handle. -/
def Handled (past : List Entry) : Prop := ∀ ref r, ⟨.sendRefund ref none, r⟩ ∉ past

/-- A refund without a handle is outstanding only when one was sent so. -/
theorem handled_outstanding {past : List Entry} (h : Handled past) : none ∉ outstanding past := by
  induction past using List.reverseRecOn with
  | nil => exact List.not_mem_nil
  | append_singleton past entry ih =>
    have hBefore := ih fun ref r hMem => h ref r (List.mem_append_left _ hMem)
    intro hOut
    rw [outstanding_append] at hOut
    obtain ⟨o, r⟩ := entry
    -- only two operations open a refund
    cases o with
    | sendRefund ref signed =>
      rcases of_sent hOut with hOld | rfl
      · exact hBefore hOld
      · exact h ref r (List.mem_append_right _ (List.mem_singleton.mpr rfl))
    | resendRefund ref handle =>
      rcases of_resent hOut with hOld | hSame
      · exact hBefore hOld
      · cases hSame
    | _ => exact hBefore (after_unsent rfl r hOut)

variable {o : Op} {next : o.Answer → BuyerRoutine Unit}

/-- A refund that is guarded may be made. -/
theorem Guard.refund {ref : String} (h : Guard deps rail pairing s o)
    (hRefund : o.refundRef = some ref) : MayRefund rail pairing s ref := by
  cases o with
  | signRefund | sendRefund | resendRefund | resendRefundIfDropped =>
    obtain rfl := Option.some.inj hRefund
    exact h.1
  | _ => cases hRefund

/-- An operation that a run gets to is one that the rules allow. -/
theorem guarded
    (hReach : (flow deps rail pairing).machine.Reachable ⟨s, some (.perform o next)⟩) :
    Guard deps rail pairing s o := by
  -- The rules bind what is asked, not what is answered, so any answer will do.
  obtain ⟨r, s', hDoes⟩ := exists_answer rail o s
  exact ((sound deps rail pairing).allows hReach hDoes).1

end

-- ---------------------------------------------------------------------------
-- A sample flow
-- ---------------------------------------------------------------------------

namespace BuyerSample

def deps : BuyerDeps where
  tclk :=
    { offerRoom := "tclk-offers"
      dealRoom := id
      verifyTranscriptRecord := fun _ => false
      tryDecodeFrame := fun _ => none
      foldTranscript := fun _ => ⟨none, []⟩
      lockTerms := fun _ => none
      contractId := fun _ _ => none
      normalizeRailId := some }
  decodeReveal _ := none
  verifySecret _ _ secret := secret = "secret"
  numberText := Desk.Sample.digits
  quotedAssetNameOrPlaceholder := id

def rail (railId : String) : CounterAssetRail where
  railId := railId
  policy := Desk.Sample.policy
  baseSepolia := false
  minLockableAmount := none
  assetId := some "TOKEN"
  maxChainClockSkewMs := 0
  resolveAccounts _ _ _ _ := .ok ⟨some "buyer", some "seller", none, none⟩
  approves := false
  hasResendLock := true
  hasLockRecorded := false
  hasSettleDelay := false
  hasLockAbsence := false
  hasCheckPendingClaim := true
  hasRecoverRefund := true
  hasResendRefund := true
  hasResendRefundIfDropped := false

def idOf (c : Char) : String := String.ofList ('0' :: 'x' :: List.replicate 64 c)

def pairing (railId : String) : Pairing where
  did := "did:key:buyer"
  offerA :=
    { id := idOf 'a', sender := "did:key:buyer", role := .payer, lock := "hash", asset := "TOKEN"
      amount := "5", rails := [railId], expiresMs := 1000000, claimByMs := 2000000
      refundAfterMs := 4600000, job := some ⟨SWAP_PROTO, idOf 'e', some "a|FLOP|100|flop-htlc"⟩ }
  offerB :=
    { id := idOf 'b', sender := "did:key:seller", role := .payer, lock := "hash", asset := "FLOP"
      amount := "100", rails := ["flop-htlc"], expiresMs := 1000000, claimByMs := 5200000
      refundAfterMs := 8200000, job := some ⟨SWAP_PROTO, idOf 'e', some ("b|" ++ idOf 'a')⟩ }
  acceptA :=
    { sender := "did:key:seller", ref := idOf 'a', statement := idOf '7', paymentKey := none
      nonce := "1", contract := "0xca" }
  acceptB :=
    { sender := "did:key:buyer", ref := idOf 'b', statement := idOf '7', paymentKey := none
      nonce := "1", contract := "0xcb" }
  statement := ⟨idOf '7', by decide⟩
  statement_eq := rfl

/-- What a flow meets: the rail, the time, and whether the answer to a lock is lost. -/
structure Day where
  railId : String
  now : ℤ
  lost : Bool

def near : Day := ⟨"near-htlc", 1000000, false⟩

def solana : Day := { near with railId := SOL_RAIL_ID }

def lossy : Day := { near with lost := true }

/-- Leg A's refund time has come. -/
def late : Day := { near with now := 4600000 }

def system (d : Day) : Serving Op.Answer Failure World Call :=
  flow deps (rail d.railId) (pairing d.railId)

def blank : Stored where
  state :=
    { contractA := none, legBVerified := false, ownAccountLine := none
      lock := ⟨false, none, none, none, none, none, false, false⟩, legBClaimAttempted := false
      legBClaimed := false, legBClaimAdopted := false
      refund := ⟨false, none, none, false, false⟩, refundNotes := [] }
  entered := [.offerA, .acceptB]
  landed := [.offerA, .acceptB]

def start : World := ⟨applyRecord blank, false, blank, [], []⟩

/-- The sample's first world is reachable. -/
theorem reachable_start (d : Day) : (system d).machine.Reachable ⟨start, none⟩ := by
  have hBlank : Blank blank :=
    ⟨rfl, rfl, rfl, rfl, rfl, rfl, rfl, rfl, fun _ h => h, fun _ => .rfl⟩
  exact .init ⟨⟨hBlank, rfl, rfl, rfl, rfl⟩, rfl⟩

def told (s : World) (o : Op) (value : o.Value) : o.Answer × World :=
  (.ok value, s.note o (.ok value))

def prepared : PreparedLock := ⟨idOf '7', some (.near "lock" ⟨"AAAA", by decide⟩)⟩

def handle : LockRecovery := .near "refund" ⟨"AAAA", by decide⟩

def withLine (s : World) (line : OwnAccountLine) : Stored :=
  { s.stored with state := { s.stored.state with ownAccountLine := some line } }

/-- The chain shows nothing of leg A. -/
def unseen (ref : String) : RailEvidenceResult where
  lock := ⟨"near-htlc", ref, (pairing "near-htlc").termsA, none, 0, none, none, none, none⟩
  rail := none

def entering (s : World) (kind : LedgerKind) : World :=
  { s with stored := project s.live (s.stored.enter kind) }

/-- Everything goes well, but for the answers to posts, which are all lost; a lock or a refund that
was sent is not known any more, and never landed. -/
def answer (d : Day) : (o : Op) → World → o.Answer × World
  | .look, s => (.ok s.live, s)
  | .modify change, s => (.ok (), { s with live := change s.live })
  | .usable, s => (.ok (), s)
  | .record, s => (.ok s.stored, s)
  | .persist, s => (.ok (), s.saved)
  | .saveAccountLine line, s => (.ok (), { s with stored := project s.live (withLine s line) })
  | .adopt kind _, s => (.ok (decide (kind ∈ s.stored.landed)), s)
  | .post kind line, s => (.error (.error "lost"), (entering s kind).note (.post kind line)
      (.error (.error "lost")))
  | .clock, s => told s .clock d.now
  | .read contract, s => told s (.read contract) []
  | .proveAccountLine address, s => told s (.proveAccountLine address) ("account " ++ address)
  | .paperVerifyLock, s => told s .paperVerifyLock true
  | .paperClaim secret, s => told s (.paperClaim secret) ()
  | .connect accounts, s => told s (.connect accounts) ()
  | .chainTimeMs, s => told s .chainTimeMs d.now
  | .currentBlockMarker, s => told s .currentBlockMarker ⟨.number, ⟨"700", by decide +kernel⟩⟩
  | .newExchanges, s => told s .newExchanges [⟨"write", [], d.now⟩]
  | .prepareLock, s => told s .prepareLock prepared
  | .sendLock prepared, s => if d.lost then (.error (.error "lost"),
        s.note (.sendLock prepared) (.error (.error "lost")))
      else told s (.sendLock prepared) (bareEvidence prepared.ref none)
  | .recoverLock prepared, s => told s (.recoverLock prepared) .unknown
  | .resendLock prepared, s => told s (.resendLock prepared) .neverLanded
  | .verifyLockFinal ref accounts, s => told s (.verifyLockFinal ref accounts) (unseen ref)
  | .checkPendingClaim ref fromBlock, s => told s (.checkPendingClaim ref fromBlock) none
  | .findClaimedPreimage ref fromBlock, s =>
    told s (.findClaimedPreimage ref fromBlock) (some "secret")
  | .signRefund ref, s => told s (.signRefund ref) (some handle)
  | .recoverRefund ref handle, s => told s (.recoverRefund ref handle) .unknown
  | .resendRefund ref handle, s => told s (.resendRefund ref handle) .neverLanded
  | o, s => (.error (.error "down"), s.note o (.error (.error "down")))

/-- The sample's day answers every operation as the world may. -/
theorem answers (d : Day) (o : Op) (s : World) (hFailed : s.failed = false) :
    (system d).act o s (answer d o s).1 (answer d o s).2 ∧
      (answer d o s).2.failed = false := by
  cases o with
  | look => exact ⟨⟨rfl, rfl⟩, hFailed⟩
  | modify change => exact ⟨⟨rfl, rfl⟩, hFailed⟩
  | usable => exact ⟨⟨iff_of_true rfl hFailed, rfl⟩, hFailed⟩
  | record => exact ⟨⟨rfl, rfl⟩, hFailed⟩
  | persist => exact ⟨.saved hFailed, hFailed⟩
  | saveAccountLine line => exact ⟨.saved hFailed, hFailed⟩
  | adopt kind line =>
    refine ⟨?_, hFailed⟩
    -- a line is found where it has landed
    by_cases hLanded : kind ∈ s.stored.landed
    · rw [show answer d (.adopt kind line) s = (.ok true, s) by simp [answer, hLanded]]
      exact .landed hFailed hLanded
    · rw [show answer d (.adopt kind line) s = (.ok false, s) by simp [answer, hLanded]]
      exact .absent hFailed hLanded
  | post kind line =>
    exact ⟨⟨_, .unanswered _ (.saves (.saved hFailed)), rfl⟩, hFailed⟩
  | clock => exact ⟨⟨⟨d.now, rfl⟩, rfl⟩, hFailed⟩
  | newExchanges => exact ⟨⟨⟨_, rfl⟩, rfl⟩, hFailed⟩
  | sendLock prepared =>
    -- the send throws on a lossy day, which is an answer as well
    dsimp only [answer]
    split
    · exact ⟨And.intro (fun _ _ => trivial) rfl, hFailed⟩
    · exact ⟨And.intro (fun _ _ => trivial) rfl, hFailed⟩
  | signRefund ref => exact ⟨And.intro (fun _ _ _ => rfl) rfl, hFailed⟩
  | resendLock prepared =>
    refine ⟨And.intro (fun outcome hOutcome => ?_) rfl, hFailed⟩
    -- a resend that says never landed owes no evidence
    obtain rfl : .neverLanded = outcome := Except.ok.inj hOutcome
    exact nofun
  | resendRefund ref handle =>
    refine ⟨And.intro (fun outcome hOutcome => ?_) rfl, hFailed⟩
    obtain rfl : .neverLanded = outcome := Except.ok.inj hOutcome
    exact nofun
  | _ => exact ⟨And.intro (fun _ _ => trivial) rfl, hFailed⟩

/-- A call that goes on until an operation that `stop` holds of. -/
theorem reaches {s : World} {d : Day} {stop : Op → Bool} {call : Call} (hFailed : s.failed = false)
    (hReach : (system d).machine.Reachable ⟨s, none⟩) :
    (system d).machine.Reachable ⟨((system d).serve (answer d) stop call s).2,
        some ((system d).serve (answer d) stop call s).1⟩ ∧
      ((system d).serve (answer d) stop call s).2.failed = false :=
  Serving.reachable_serve (I := fun s => s.failed = false) (answers d) hFailed hReach

/-- A call is answered up to an operation. -/
def upTo (d : Day) (stop : Op → Bool) (call : Call) (s : World) : BuyerRoutine Unit × World :=
  (system d).serve (answer d) stop call s

/-- A call is answered to its end. -/
def after (d : Day) (call : Call) (s : World) : World := (upTo d (fun _ => false) call s).2

def verified (d : Day) : World := after d .verifyLegBLocked start

/-- Leg A is locked, or the answer to the lock is lost; the answer to the lock frame is. -/
def locked (d : Day) : World := after d .lockLegA (verified d)

/-- A new process goes on from what an old one has left. -/
def revived (s : World) : World :=
  { s with live := applyRecord s.stored, failed := false, call := [] }

/-- A lock whose answer was lost, in the eyes of a new process. -/
def missed : World := revived (locked lossy)

def claimed : World := after solana (.claimLegB "secret") (locked solana)

/-- The account line is posted, the answer is lost, and it is posted again. -/
def posted : World := after near (.postAccountLineA "buyer.near")
  (after near (.postAccountLineA "buyer.near") start)

/-- A refund is sent, and what becomes of it is not known. -/
def refunded : World := after late .refundLegA (locked near)

def sends : Op → Bool
  | .sendLock _ => true
  | _ => false

def resends : Op → Bool
  | .resendLock _ => true
  | _ => false

def claims : Op → Bool
  | .paperClaim _ => true
  | _ => false

def posts : Op → Bool
  | .post .. => true
  | _ => false

def refunds : Op → Bool
  | .sendRefund .. => true
  | _ => false

/-- An operation that sends a lock is `sendLock`. -/
theorem of_sends {o : Op} (h : sends o = true) : ∃ prepared, o = .sendLock prepared := by
  cases o with
  | sendLock prepared => exact ⟨prepared, rfl⟩
  | _ => cases h

/-- An operation that resends a lock is `resendLock`. -/
theorem of_resends {o : Op} (h : resends o = true) : ∃ prepared, o = .resendLock prepared := by
  cases o with
  | resendLock prepared => exact ⟨prepared, rfl⟩
  | _ => cases h

/-- An operation that claims is `paperClaim`. -/
theorem of_claims {o : Op} (h : claims o = true) : ∃ secret, o = .paperClaim secret := by
  cases o with
  | paperClaim secret => exact ⟨secret, rfl⟩
  | _ => cases h

/-- An operation that posts is `post`. -/
theorem of_posts {o : Op} (h : posts o = true) : ∃ kind line, o = .post kind line := by
  cases o with
  | post kind line => exact ⟨kind, line, rfl⟩
  | _ => cases h

/-- An operation that refunds is `sendRefund`. -/
theorem of_refunds {o : Op} (h : refunds o = true) : ∃ ref signed, o = .sendRefund ref signed := by
  cases o with
  | sendRefund ref signed => exact ⟨ref, signed, rfl⟩
  | _ => cases h

/-- A call comes to its end. -/
abbrev Ends (d : Day) (call : Call) (s : World) : Prop :=
  (Serving.asks (upTo d (fun _ => false) call s).1).isNone = true

/-- A call comes to an operation. -/
abbrev Stops (d : Day) (stop : Op → Bool) (call : Call) (s : World) : Prop :=
  (Serving.asks (upTo d stop call s).1).any stop = true

/-- A call of the sample that ends leads to a reachable world. -/
theorem reachable_after {s : World} {d : Day} {call : Call} (hFailed : s.failed = false)
    (hReach : (system d).machine.Reachable ⟨s, none⟩) (hEnd : Ends d call s) :
    (system d).machine.Reachable ⟨after d call s, none⟩ ∧ (after d call s).failed = false :=
  ⟨Serving.reachable_rest (reaches hFailed hReach).1 hEnd, (reaches hFailed hReach).2⟩

/-- A call that stops at an operation. -/
theorem reachable_upTo {s : World} {d : Day} {stop : Op → Bool} {call : Call}
    (hFailed : s.failed = false) (hReach : (system d).machine.Reachable ⟨s, none⟩)
    (hStop : Stops d stop call s) : ∃ o next, stop o = true ∧
      (system d).machine.Reachable ⟨(upTo d stop call s).2, some (.perform o next)⟩ := by
  obtain ⟨o, next, hNext, hStops⟩ := Serving.exists_next hStop
  refine ⟨o, next, hStops, ?_⟩
  rw [← hNext]
  exact (reaches hFailed hReach).1

/-- A process may die anywhere. -/
theorem reachable_revived {st : Serving.State Op.Answer Failure World} {d : Day}
    (hReach : (system d).machine.Reachable st) :
    (system d).machine.Reachable ⟨revived st.now, none⟩ :=
  hReach.step (.crash ((sound deps (rail d.railId) (pairing d.railId)).always hReach).resumes)

/-- Leg A is locked. -/
abbrev LockRuns (d : Day) : Prop :=
  Ends d .verifyLegBLocked start ∧ Ends d .lockLegA (verified d)

abbrev FirstRuns : Prop :=
  Stops near sends .lockLegA (verified near) ∧ Stops near posts .lockLegA (verified near)

/-- A lock that was sent is sent again, and once more as a fresh one. -/
abbrev AgainRuns : Prop :=
  Stops near resends .lockLegA missed ∧
    locksSent (upTo near resends .lockLegA missed).2.past = [prepared] ∧
    Stops near sends .lockLegA missed ∧
    locksSent (upTo near sends .lockLegA missed).2.past = [prepared, prepared]

abbrev ClaimRuns : Prop :=
  Stops solana claims (.claimLegB "secret") (locked solana) ∧
    Ends solana (.claimLegB "secret") (locked solana) ∧ claimed.stored.state.legBClaimed = true

/-- A refund is sent, and a fresh one when the first is known to be void. -/
abbrev RefundRuns : Prop :=
  Stops late refunds .refundLegA (locked near) ∧ Ends late .refundLegA (locked near) ∧
    outstanding refunded.past = [some handle] ∧ Stops late refunds .refundLegA refunded ∧
    (refundsSent (upTo late refunds .refundLegA refunded).2.past).length = 2 ∧
    nextStep (pairing "near-htlc") ⟨some 1000000, some 900000⟩ refunded.live refunded.stored
      4600000 = .refundLegA

abbrev AccountRuns : Prop :=
  Ends near (.postAccountLineA "buyer.near") start ∧
    Ends near (.postAccountLineA "buyer.near")
      (after near (.postAccountLineA "buyer.near") start) ∧
    accountTexts posted.past = ["account buyer.near", "account buyer.near"]

/-- What a record keeps, and what it does not. -/
abbrev RestoreRuns : Prop :=
  (locked near).live.lockEvidence = some (bareEvidence prepared.ref none) ∧
    (locked near).live.writeExchanges = [⟨"write", [], 1000000⟩]

/-- What the calls come to. -/
theorem runs : (LockRuns near ∧ LockRuns lossy ∧ LockRuns solana) ∧ FirstRuns ∧ AgainRuns ∧
    ClaimRuns ∧ RefundRuns ∧ AccountRuns ∧ RestoreRuns := by decide +kernel

/-- The sample reaches a world with leg B verified. -/
theorem reachable_verified {d : Day} (hRuns : LockRuns d) :
    (system d).machine.Reachable ⟨verified d, none⟩ ∧ (verified d).failed = false :=
  reachable_after rfl (reachable_start d) hRuns.1

/-- The sample reaches a world with leg A locked. -/
theorem reachable_locked {d : Day} (hRuns : LockRuns d) :
    (system d).machine.Reachable ⟨locked d, none⟩ ∧ (locked d).failed = false :=
  reachable_after (reachable_verified hRuns).2 (reachable_verified hRuns).1 hRuns.2

/-- The NEAR day reaches its lock. -/
theorem reachable_near : (system near).machine.Reachable ⟨locked near, none⟩ ∧
    (locked near).failed = false := reachable_locked runs.1.1

/-- The Solana day reaches its lock. -/
theorem reachable_solana : (system solana).machine.Reachable ⟨locked solana, none⟩ ∧
    (locked solana).failed = false := reachable_locked runs.1.2.2

/-- The rail of a day does not change with the weather or the time. -/
theorem reachable_missed : (system near).machine.Reachable ⟨missed, none⟩ :=
  reachable_revived (d := lossy) (reachable_locked runs.1.2.1).1

/-- The NEAR day is about to send its lock. -/
theorem reachable_sending : ∃ prepared next, (system near).machine.Reachable
    ⟨(upTo near sends .lockLegA (verified near)).2, some (.perform (.sendLock prepared) next)⟩ := by
  have hVerified := reachable_verified runs.1.1
  obtain ⟨o, next, hSends, hReach⟩ := reachable_upTo hVerified.2 hVerified.1 runs.2.1.1
  obtain ⟨prepared, rfl⟩ := of_sends hSends
  exact ⟨prepared, next, hReach⟩

/-- The late day is about to send its refund. -/
theorem reachable_refunding : ∃ ref signed next, (system late).machine.Reachable
    ⟨(upTo late refunds .refundLegA refunded).2,
      some (.perform (.sendRefund ref signed) next)⟩ := by
  have hRefunded := reachable_after (d := late) reachable_near.2 reachable_near.1
    runs.2.2.2.2.1.2.1
  obtain ⟨o, next, hRefunds, hReach⟩ := reachable_upTo hRefunded.2 hRefunded.1
    runs.2.2.2.2.1.2.2.2.1
  obtain ⟨ref, signed, rfl⟩ := of_refunds hRefunds
  exact ⟨ref, signed, next, hReach⟩

end BuyerSample

section

variable {deps : BuyerDeps} {rail : CounterAssetRail} {pairing : Pairing} {s s' : World} {o : Op}
  {next : o.Answer → BuyerRoutine Unit}

-- ---------------------------------------------------------------------------
-- What no run does
-- ---------------------------------------------------------------------------

/-- A new action on leg A's lock: everything that is needed to find it again is on record before
it is sent, and every guard ran in this very call, whatever happened before. -/
theorem lock_is_on_record
    (hReach : (flow deps rail pairing).machine.Reachable ⟨s, some (.perform o next)⟩)
    (hMoves : o.movesLock = true) : ∃ prepared, WriteAhead pairing s prepared ∧
      Guarded deps rail pairing s.call ∧ s.live.legBVerified = true ∧
      ∀ sent, o.lock = some sent → sent = prepared := by
  have hGuard := guarded hReach
  cases o with
  | approve =>
    obtain ⟨prepared, hMay⟩ := hGuard
    exact ⟨prepared, hMay.ahead, hMay.guarded, hMay.verified, fun sent hSent => by cases hSent⟩
  | sendLock prepared =>
    obtain ⟨hMay, -⟩ := hGuard
    exact ⟨prepared, hMay.ahead, hMay.guarded, hMay.verified,
      fun sent hSent => (Option.some.inj hSent).symm⟩
  | resendLock prepared =>
    obtain ⟨hAhead, hGuarded, hVerified, -⟩ := hGuard
    exact ⟨prepared, hAhead, hGuarded, hVerified, fun sent hSent => (Option.some.inj hSent).symm⟩
  | _ => cases hMoves

theorem lock_is_on_record_sample : ∃ prepared,
    WriteAhead (BuyerSample.pairing "near-htlc") (BuyerSample.upTo BuyerSample.near
      BuyerSample.sends .lockLegA (BuyerSample.verified BuyerSample.near)).2 prepared := by
  obtain ⟨prepared, next, hReach⟩ := BuyerSample.reachable_sending
  obtain ⟨recorded, hAhead, -⟩ := lock_is_on_record hReach rfl
  exact ⟨recorded, hAhead⟩

/-- A lock that is sent is the one on record and has the ref of all that any process has sent. It is
a fresh one only when there was none, or when the rail has said in this call that the one before
never landed and a read has not found it; the same bytes are sent again only when the rail has said
in this call that it does not know them. -/
theorem locks_are_one {sent : PreparedLock}
    (hReach : (flow deps rail pairing).machine.Reachable ⟨s, some (.perform o next)⟩)
    (hLock : o.lock = some sent) : s.stored.state.lock.prepared = some sent ∧
      (∀ p ∈ locksSent s.past, p.ref = sent.ref) ∧
      (o = .sendLock sent → locksSent s.past = [] ∨ Dead s.call sent.ref) ∧
      (o = .resendLock sent → ⟨.recoverLock sent, .ok .unknown⟩ ∈ s.call) := by
  have hGuard := guarded hReach
  have hRecord : s.stored.state.lock.prepared = some sent := by
    cases o with
    | sendLock prepared =>
      obtain rfl := Option.some.inj hLock
      exact hGuard.1.ahead.prepared
    | resendLock prepared =>
      obtain rfl := Option.some.inj hLock
      exact hGuard.1.prepared
    | _ => cases hLock
  refine ⟨hRecord, fun p hp => ?_, ?_, ?_⟩
  · -- the record has had one ref from the first lock on
    obtain ⟨q, hq, hRef⟩ := ((sound deps rail pairing).always hReach).locks p hp
    rw [← hRef, Option.some.inj (hq.symm.trans hRecord)]
  · rintro rfl
    exact hGuard.1.alone
  · rintro rfl
    exact hGuard.2.2.2

/-- A new process sends a lock again whose answer was lost, and then a fresh one. -/
theorem locks_are_one_sample : (∃ sent : PreparedLock,
    (∀ p ∈ locksSent (BuyerSample.upTo BuyerSample.near BuyerSample.resends .lockLegA
      BuyerSample.missed).2.past, p.ref = sent.ref) ∧
      ⟨.recoverLock sent, .ok .unknown⟩ ∈ (BuyerSample.upTo BuyerSample.near BuyerSample.resends
        .lockLegA BuyerSample.missed).2.call) ∧
    ∃ sent : PreparedLock, (∀ p ∈ locksSent (BuyerSample.upTo BuyerSample.near BuyerSample.sends
        .lockLegA BuyerSample.missed).2.past, p.ref = sent.ref) ∧
      Dead (BuyerSample.upTo BuyerSample.near BuyerSample.sends .lockLegA
        BuyerSample.missed).2.call sent.ref := by
  obtain ⟨-, -, hAgain, -⟩ := BuyerSample.runs
  refine ⟨?_, ?_⟩
  · obtain ⟨o, next, hResends, hReach⟩ := BuyerSample.reachable_upTo (d := BuyerSample.near) rfl
      BuyerSample.reachable_missed hAgain.1
    obtain ⟨sent, rfl⟩ := BuyerSample.of_resends hResends
    obtain ⟨-, hOne, -, hUnknown⟩ := locks_are_one hReach rfl
    exact ⟨sent, hOne, hUnknown rfl⟩
  · obtain ⟨o, next, hSends, hReach⟩ := BuyerSample.reachable_upTo (d := BuyerSample.near) rfl
      BuyerSample.reachable_missed hAgain.2.2.1
    obtain ⟨sent, rfl⟩ := BuyerSample.of_sends hSends
    obtain ⟨-, hOne, hFresh, -⟩ := locks_are_one hReach rfl
    refine ⟨sent, hOne, (hFresh rfl).resolve_left fun hNone => ?_⟩
    rw [hAgain.2.2.2] at hNone
    cases hNone

/-- Leg A is refunded only from its refund time on, when nobody is seen to claim it and this flow
has not claimed leg B. -/
theorem refund_is_due {ref : String}
    (hReach : (flow deps rail pairing).machine.Reachable ⟨s, some (.perform o next)⟩)
    (hRefund : o.refundRef = some ref) : MayRefund rail pairing s ref :=
  (guarded hReach).refund hRefund

theorem refund_is_due_sample : ∃ ref, MayRefund (BuyerSample.rail "near-htlc")
    (BuyerSample.pairing "near-htlc") (BuyerSample.upTo BuyerSample.late BuyerSample.refunds
      .refundLegA BuyerSample.refunded).2 ref := by
  obtain ⟨ref, signed, next, hReach⟩ := BuyerSample.reachable_refunding
  exact ⟨ref, refund_is_due hReach rfl⟩

/-- A refund that may still land and has a handle is the one on record, however often the flow was
restarted; only that one is sent again. A fresh refund is sent when none of them is left, with its
own handle on record, and if any was sent before, only after a read of this call has shown leg A
neither refunded for good nor claimed. So no two refunds are in flight on a rail that gives a handle
of each; where it gives none, the escrow refuses the second. -/
theorem refunds_are_one
    (hReach : (flow deps rail pairing).machine.Reachable ⟨s, some (.perform o next)⟩) :
    (∀ refund ∈ outstanding s.past, refund = none ∨ refund = s.stored.state.refund.recovery) ∧
      (∀ ref signed, o = .sendRefund ref signed → s.stored.state.refund.recovery = signed ∧
        Fresh s ref ∧ (Handled s.past → outstanding s.past = [])) ∧
      ∀ ref handle, o = .resendRefund ref handle →
        s.stored.state.refund.recovery = some handle := by
  have hGuard := guarded hReach
  refine ⟨fun refund hOut => ?_, ?_, ?_⟩
  · cases refund with
    | none => exact .inl rfl
    | some handle =>
      exact .inr (((sound deps rail pairing).always hReach).refund handle hOut).1.symm
  · rintro ref signed rfl
    obtain ⟨-, hFresh, hRecovery⟩ := hGuard
    refine ⟨hRecovery, hFresh, fun hHandled => ?_⟩
    refine List.eq_nil_iff_forall_not_mem.mpr fun refund hOut => ?_
    obtain rfl := hFresh.void refund hOut
    exact handled_outstanding hHandled hOut
  · rintro ref handle rfl
    exact hGuard.2.1

/-- A first refund has turned out to be void, and a second is about to be sent. -/
theorem refunds_are_one_sample : ∃ ref,
    (refundsSent (BuyerSample.upTo BuyerSample.late BuyerSample.refunds .refundLegA
      BuyerSample.refunded).2.past).length = 2 ∧
    Fresh (BuyerSample.upTo BuyerSample.late BuyerSample.refunds .refundLegA
      BuyerSample.refunded).2 ref := by
  obtain ⟨ref, signed, next, hReach⟩ := BuyerSample.reachable_refunding
  exact ⟨ref, BuyerSample.runs.2.2.2.2.1.2.2.2.2.1,
    ((refunds_are_one hReach).2.1 ref signed rfl).2.1⟩

/-- Once this flow's own claim of leg B is on record, leg A is never refunded, in this process or
in a later one. -/
theorem no_refund_after_claim {st : Serving.State Op.Answer Failure World}
    {es : List (Serving.Event Op.Answer Call)}
    (hReach : (flow deps rail pairing).machine.Reachable st)
    (hClaimed : st.now.stored.state.legBClaimed = true)
    (hRun : (flow deps rail pairing).machine.Leads st es ⟨s, some (.perform o next)⟩) :
    o.refundRef = none := by
  have hKept : Keeps st.now s := (sound deps rail pairing).leads .refl (fun _ _ _ => .trans)
    (fun _ _ _ _ hG => hG.2) (fun s => ⟨.refl _, fun _ h => h⟩) (fun s s' _ hResume => by
      obtain rfl := resume_eq_some hResume
      exact ⟨.refl _, fun _ h => h⟩) hReach hRun
  cases hRefund : o.refundRef with
  | none => rfl
  | some ref =>
    have hUnclaimed : (applyRecord s.stored).legBClaimed = false :=
      ((guarded (hReach.leads hRun)).refund hRefund).unclaimed
    rw [hKept.behind.claimed hClaimed] at hUnclaimed
    cases hUnclaimed

theorem no_refund_after_claim_sample : ∃ o next, program BuyerSample.deps
    (BuyerSample.rail SOL_RAIL_ID) (BuyerSample.pairing SOL_RAIL_ID) .refundLegA =
      .perform o next ∧ o.refundRef = none := by
  obtain ⟨-, -, -, hRuns, -⟩ := BuyerSample.runs
  have hReach := (BuyerSample.reachable_after (d := BuyerSample.solana)
    BuyerSample.reachable_solana.2 BuyerSample.reachable_solana.1 hRuns.2.1).1
  obtain ⟨o, next, hNext, -⟩ := Serving.exists_next (P := fun _ => true)
    (t := program BuyerSample.deps (BuyerSample.rail SOL_RAIL_ID)
      (BuyerSample.pairing SOL_RAIL_ID) .refundLegA) rfl
  have hCall : (BuyerSample.system BuyerSample.solana).machine.step ⟨BuyerSample.claimed, none⟩
      (.call .refundLegA) ⟨{ BuyerSample.claimed with call := [] }, some (.perform o next)⟩ := by
    rw [← hNext]
    exact .call BuyerSample.claimed Call.refundLegA
  exact ⟨o, next, hNext, no_refund_after_claim hReach hRuns.2.2 (.single hCall)⟩

/-- Leg B is claimed with a secret that opens its statement, which on Solana is the one that the
escrow of the lock on record reads claimed with; that it is about to be claimed is on record. -/
theorem claim_is_on_record {secret : String}
    {next : Except Failure Unit → BuyerRoutine Unit}
    (hReach : (flow deps rail pairing).machine.Reachable
      ⟨s, some (.perform (.paperClaim secret) next)⟩) : MayClaim deps rail pairing s secret :=
  guarded hReach

theorem claim_is_on_record_sample : ∃ secret, Paid
    (applyRecord (BuyerSample.upTo BuyerSample.solana BuyerSample.claims (.claimLegB "secret")
      (BuyerSample.locked BuyerSample.solana)).2.stored)
    (BuyerSample.upTo BuyerSample.solana BuyerSample.claims (.claimLegB "secret")
      (BuyerSample.locked BuyerSample.solana)).2.call secret := by
  obtain ⟨-, -, -, hRuns, -⟩ := BuyerSample.runs
  obtain ⟨o, next, hClaims, hReach⟩ := BuyerSample.reachable_upTo (d := BuyerSample.solana)
    BuyerSample.reachable_solana.2 BuyerSample.reachable_solana.1 hRuns.1
  obtain ⟨secret, rfl⟩ := BuyerSample.of_claims hClaims
  exact ⟨secret, (claim_is_on_record hReach).paid rfl⟩

/-- What a line says is on record before it is posted. -/
theorem line_is_on_record {kind : LedgerKind} {line : Line}
    {next : Except Failure Unit → BuyerRoutine Unit}
    (hReach : (flow deps rail pairing).machine.Reachable
      ⟨s, some (.perform (.post kind line) next)⟩) : MayPost deps rail pairing s kind line :=
  guarded hReach

theorem line_is_on_record_sample : ∃ kind line, MayPost BuyerSample.deps
    (BuyerSample.rail "near-htlc") (BuyerSample.pairing "near-htlc") (BuyerSample.upTo
      BuyerSample.near BuyerSample.posts .lockLegA (BuyerSample.verified BuyerSample.near)).2
      kind line := by
  have hVerified := BuyerSample.reachable_verified BuyerSample.runs.1.1
  obtain ⟨o, next, hPosts, hReach⟩ := BuyerSample.reachable_upTo (d := BuyerSample.near)
    hVerified.2 hVerified.1 BuyerSample.runs.2.1.2
  obtain ⟨kind, line, rfl⟩ := BuyerSample.of_posts hPosts
  exact ⟨kind, line, line_is_on_record hReach⟩

/-- A line of the ledger is among those that were asked to be posted. -/
theorem exists_post {past : List Entry} {text : String} (h : text ∈ accountTexts past) :
    ∃ r, ⟨.post .accountA (.account text), r⟩ ∈ past := by
  obtain ⟨⟨o, r⟩, hMem, hText⟩ := List.mem_filterMap.mp h
  unfold Entry.accountText at hText
  split at hText
  · rename_i own answer hEntry
    obtain rfl := Option.some.inj hText
    obtain ⟨rfl, hAnswer⟩ := Entry.mk.inj hEntry
    obtain rfl := eq_of_heq hAnswer
    exact ⟨_, hMem⟩
  · cases hText

/-- All account lines of a flow are the same text. -/
theorem account_line_is_one {st : Serving.State Op.Answer Failure World} {text text' : String}
    (hReach : (flow deps rail pairing).machine.Reachable st)
    (hPost : text ∈ accountTexts st.now.past) (hPost' : text' ∈ accountTexts st.now.past) :
    text = text' := by
  have hInv := (sound deps rail pairing).always hReach
  obtain ⟨r, hPost⟩ := exists_post hPost
  obtain ⟨r', hPost'⟩ := exists_post hPost'
  obtain ⟨address, hLine⟩ := hInv.accountLine text r hPost
  obtain ⟨address', hLine'⟩ := hInv.accountLine text' r' hPost'
  exact congrArg OwnAccountLine.text (Option.some.inj (hLine.symm.trans hLine'))

theorem account_line_is_one_sample :
    accountTexts BuyerSample.posted.past = ["account buyer.near", "account buyer.near"] ∧
      "account buyer.near" = "account buyer.near" := by
  obtain ⟨-, -, -, -, -, hRuns, -⟩ := BuyerSample.runs
  have hFirst := BuyerSample.reachable_after rfl (BuyerSample.reachable_start BuyerSample.near)
    hRuns.1
  have hReach := (BuyerSample.reachable_after hFirst.2 hFirst.1 hRuns.2.1).1
  have hMem : "account buyer.near" ∈ accountTexts BuyerSample.posted.past := by
    rw [hRuns.2.2]
    exact List.mem_cons_self
  exact ⟨hRuns.2.2, account_line_is_one hReach hMem hMem⟩

/-- A flow can be resumed wherever its process died, and is paired then. One that stands still, and
whose saves have not failed, is what it was but for notes that were not saved yet and the exchanges
of its writes; a line that has landed counts as posted. -/
theorem resume_restores {st : Serving.State Op.Answer Failure World}
    (hReach : (flow deps rail pairing).machine.Reachable st) :
    ∃ s', resume pairing st.now = some s' ∧ s'.stored = st.now.stored ∧
      s'.stored.paired = true ∧ (st.running = none → st.now.failed = false →
        s'.live = { st.now.live.shown st.now.stored with
          refundNotes := st.now.stored.state.refundNotes }) := by
  have hInv := (sound deps rail pairing).always hReach
  refine ⟨_, hInv.resumes, rfl, hInv.paired, fun hRest hFailed => ?_⟩
  obtain ⟨s, t⟩ := st
  obtain rfl : t = none := hRest
  exact (sound deps rail pairing).at_rest hReach hFailed

theorem resume_restores_sample : ∃ s',
    resume (BuyerSample.pairing "near-htlc") (BuyerSample.locked BuyerSample.near) = some s' ∧
      s'.live.lockEvidence = some (bareEvidence BuyerSample.prepared.ref none) ∧
      s'.live.writeExchanges = [] := by
  obtain ⟨s', hResume, -, -, hLive⟩ := resume_restores BuyerSample.reachable_near.1
  have hLive := hLive rfl BuyerSample.reachable_near.2
  obtain ⟨-, -, -, -, -, -, hEvidence, -⟩ := BuyerSample.runs
  refine ⟨s', hResume, ?_, ?_⟩
  · rw [hLive]
    exact hEvidence
  · rw [hLive]
    rfl

/-- The step that a flow names is one that its record does not refuse: a lock or a refund that is
named has everything on record that it starts from, and a swap is abandoned only when no lock of
leg A was ever sent. -/
theorem next_is_open {times : LegBTimes} {now : ℤ}
    (hReach : (flow deps rail pairing).machine.Reachable ⟨s, none⟩) :
    (nextStep pairing times s.live s.stored now = .refundLegA → s.live.lockNeverLanded = false ∧
      s.live.legBClaimed = false ∧ ∃ prepared accounts, s.live.railRef = some prepared.ref ∧
        s.live.preparedLock = some prepared ∧ s.live.lockedAccounts = some accounts) ∧
    (nextStep pairing times s.live s.stored now = .lockLegA → s.live.lockNeverLanded = false ∧
      s.live.legBVerified = true ∧ s.live.legBClaimed = false ∧ (locksSent s.past = [] ∨
        ∃ prepared accounts, s.live.preparedLock = some prepared ∧
          s.live.lockedAccounts = some accounts)) ∧
    (nextStep pairing times s.live s.stored now = .abandoned →
      s.stored.isLanded .acceptB = true → locksSent s.past = []) := by
  have hInv := (sound deps rail pairing).always hReach
  -- an attempted lock has left the lock and the accounts on record
  have hLocked (hAttempted : s.live.legALockAttempted = true) : ∃ prepared accounts,
      s.live.railRef = some prepared.ref ∧ s.live.preparedLock = some prepared ∧
        s.live.lockedAccounts = some accounts := by
    obtain ⟨prepared, accounts, hPrepared, hRef, -, hAccounts, -⟩ := hInv.live.attempted hAttempted
    refine ⟨prepared, accounts, ?_, hPrepared, hAccounts⟩
    unfold Live.railRef
    rw [hRef]
    rfl
  refine ⟨fun hNext => ?_, fun hNext => ?_, fun hNext hLanded => ?_⟩
  · obtain ⟨hVerdict, hClaimed, hWhy⟩ := next_refundLegA hNext
    refine ⟨hVerdict, hClaimed, hLocked ?_⟩
    rcases hWhy with hIntent | hAttempted
    · -- nothing is refunded that was not locked
      by_contra hNot
      have hNone := (hInv.live.untouched (by simpa using hNot)).2.2.2.2.2
      rw [hNone] at hIntent
      cases hIntent
    · exact hAttempted
  · obtain ⟨hVerdict, hVerified, hClaimed⟩ := next_lockLegA hNext
    refine ⟨hVerdict, hVerified, hClaimed, ?_⟩
    -- a lock that was attempted is recovered, and only an untouched flow locks for the first time
    cases hAttempted : s.live.legALockAttempted with
    | false => exact .inl (hInv.nothingSent hAttempted)
    | true =>
      obtain ⟨prepared, accounts, -, hPrepared, hAccounts⟩ := hLocked hAttempted
      exact .inr ⟨prepared, accounts, hPrepared, hAccounts⟩
  · exact hInv.nothingSent (next_abandoned hNext hLanded)

/-- A refund whose fate is not known is asked about again. -/
theorem next_is_open_sample : ∃ prepared,
    BuyerSample.refunded.live.preparedLock = some prepared ∧
      nextStep (BuyerSample.pairing "near-htlc") ⟨some 1000000, some 900000⟩
        BuyerSample.refunded.live BuyerSample.refunded.stored 4600000 = .refundLegA := by
  obtain ⟨-, -, -, -, hRuns, -⟩ := BuyerSample.runs
  have hReach := (BuyerSample.reachable_after (d := BuyerSample.late) BuyerSample.reachable_near.2
    BuyerSample.reachable_near.1 hRuns.2.1).1
  have hNext := hRuns.2.2.2.2.2
  obtain ⟨-, -, prepared, -, -, hPrepared, -⟩ := (next_is_open hReach).1 hNext
  exact ⟨prepared, hPrepared, hNext⟩

end

end SwapDesk.Client.Buyer
