import SwapDesk.Client.BuyerClaim
import SwapDesk.Client.BuyerLock

/-!
# SwapDesk — the Buyer refunds by the rules

Every part of `refundLegA` keeps to the rules: a refund is on record before it is sent, nothing is
refunded that this flow has claimed leg B for, and a second refund is not built as long as the
first may land.
-/

namespace SwapDesk.Client.Buyer

open Check Desk Client.Flow

section

variable {deps : BuyerDeps} {rail : CounterAssetRail} {pairing : Pairing} {s s' : World}
  {railRef : String}

-- ---------------------------------------------------------------------------
-- What was looked at
-- ---------------------------------------------------------------------------

/-- Everything that was looked at allows a refund, by the live fields. -/
structure Refundable (rail : CounterAssetRail) (pairing : Pairing) (railRef : String)
    (s : World) : Prop where
  failed : s.failed = false
  ref : s.live.railRef = some railRef
  time : ∃ now, ⟨.clock, .ok now⟩ ∈ s.call ∧ pairing.offerA.refundAfterMs ≤ now
  unclaimed : s.live.legBClaimed = false
  settled : s.live.legBClaimAttempted = true → s.live.legBClaimAdopted = true
  pending : rail.hasCheckPendingClaim = true →
    ⟨.checkPendingClaim railRef s.live.lockedFromBlock, .ok none⟩ ∈ s.call
  landed : rail.hasLockAbsence = true → s.live.lockEvidence.isSome = true
  verdict : s.live.lockNeverLanded = false

/-- The live fields that a refund goes by, those of the refund itself apart. -/
structure Alike (old new : Live) : Prop where
  railRef : new.railRef = old.railRef
  claimed : new.legBClaimed = old.legBClaimed
  attempt : new.legBClaimAttempted = old.legBClaimAttempted
  adopted : new.legBClaimAdopted = old.legBClaimAdopted
  fromBlock : new.lockedFromBlock = old.lockedFromBlock
  evidence : new.lockEvidence = old.lockEvidence
  verdict : new.lockNeverLanded = old.lockNeverLanded

/-- What is refundable stays so in a world that looks alike. -/
theorem Refundable.alike (h : Refundable rail pairing railRef s) (hFailed : s'.failed = false)
    (hLive : Alike s.live s'.live) (hAsked : ∀ entry ∈ s.call, entry ∈ s'.call) :
    Refundable rail pairing railRef s' where
  failed := hFailed
  ref := hLive.railRef.trans h.ref
  time := by
    obtain ⟨now, hClock, hTime⟩ := h.time
    exact ⟨now, hAsked _ hClock, hTime⟩
  unclaimed := hLive.claimed.trans h.unclaimed
  settled hAttempt := hLive.adopted.trans (h.settled (hLive.attempt.symm.trans hAttempt))
  pending hHas := by
    rw [hLive.fromBlock]
    exact hAsked _ (h.pending hHas)
  landed hHas := by
    rw [hLive.evidence]
    exact h.landed hHas
  verdict := hLive.verdict.trans h.verdict

/-- What is refundable stays so while the flow only hears. -/
theorem Refundable.heard (h : Refundable rail pairing railRef s) (hHeard : Heard s s') :
    Refundable rail pairing railRef s' := by
  refine h.alike (hHeard.failed.trans h.failed) ?_ hHeard.asked
  rw [hHeard.live]
  exact ⟨rfl, rfl, rfl, rfl, rfl, rfl, rfl⟩

/-- What the live fields allow, the record allows. -/
theorem Refundable.may (h : Refundable rail pairing railRef s) (hSynced : Synced s)
    (hIntent : s.live.refundAttempted = true) : MayRefund rail pairing s railRef := by
  have hRecord := hSynced h.failed
  have hLive : ∀ {α : Type} (field : Live → α), field (applyRecord s.stored) =
      field { s.live.shown s.stored with refundNotes := s.stored.state.refundNotes } :=
    fun field => congrArg field hRecord
  -- every field that the rule reads is the same in the record as in the flow
  exact
    { usable := h.failed
      intent := (hLive Live.refundAttempted).trans hIntent
      ref := (hLive Live.railRef).trans h.ref
      time := h.time
      unclaimed := (hLive Live.legBClaimed).trans h.unclaimed
      settled := fun hAttempt => (hLive Live.legBClaimAdopted).trans
        (h.settled ((hLive Live.legBClaimAttempted).symm.trans hAttempt))
      pending := fun hHas => by
        have hBlock : s.stored.state.lock.fromBlock = s.live.lockedFromBlock :=
          hLive Live.lockedFromBlock
        rw [hBlock]
        exact h.pending hHas
      landed := fun hHas =>
        (congrArg Option.isSome (hLive Live.lockEvidence)).trans (h.landed hHas)
      verdict := (hLive Live.lockNeverLanded).trans h.verdict }

/-- A refund that may be sent may be sent after a hearing. -/
theorem MayRefund.heard (h : MayRefund rail pairing s railRef) (hHeard : Heard s s') :
    MayRefund rail pairing s' railRef where
  usable := hHeard.failed.trans h.usable
  intent := by rw [hHeard.stored]; exact h.intent
  ref := by rw [hHeard.stored]; exact h.ref
  time := by
    obtain ⟨now, hClock, hTime⟩ := h.time
    exact ⟨now, hHeard.asked _ hClock, hTime⟩
  unclaimed := by rw [hHeard.stored]; exact h.unclaimed
  settled := by rw [hHeard.stored]; exact h.settled
  pending hHas := by
    rw [hHeard.stored]
    exact hHeard.asked _ (h.pending hHas)
  landed := by rw [hHeard.stored]; exact h.landed
  verdict := by rw [hHeard.stored]; exact h.verdict

-- ---------------------------------------------------------------------------
-- Before a refund
-- ---------------------------------------------------------------------------

/-- A ref of leg A's lock comes from an attempt to lock it. -/
theorem Recorded.attempted_of_ref {live : Live} (h : Recorded rail pairing live)
    (hRef : live.railRef = some railRef) : live.legALockAttempted = true := by
  by_contra hNot
  obtain ⟨-, hNoRef, hNoLock, -⟩ := h.untouched (by simpa using hNot)
  unfold Live.railRef at hRef
  rw [hNoRef, hNoLock] at hRef
  cases hRef

/-- Routing to the claim fails the call. -/
theorem spec_routeToClaim {α : Type} {message : String} {F : α → World → Prop}
    (hInv : Inv rail pairing s) (hSynced : Synced s) :
    Spec deps rail pairing (routeToClaim message : BuyerRoutine α) F s := by
  refine spec_look_then hInv ?_
  refine Spec.bind (F := fun _ s' => Synced s') (spec_whenever hInv (fun _ => ?_)
    fun _ => hSynced) ?_
  · exact spec_save hInv.claimSeen fun _ _ hSynced₁ => hSynced₁
  · exact fun _ s₁ hInv₁ hSynced₁ => spec_fail hInv₁ hSynced₁

/-- The refusal after a verdict ends synced. -/
theorem spec_refuseIfLockExistsAfterVerdict {live : Live} (hInv : Inv rail pairing s)
    (hSynced : Synced s) :
    Spec deps rail pairing (refuseIfLockExistsAfterVerdict rail live)
      (fun _ s' => Synced s') s := by
  unfold refuseIfLockExistsAfterVerdict
  split
  · refine spec_read_then rfl trivial hInv hSynced fun _ _ hInv₁ hSynced₁ => ?_
    refine spec_whenever hInv₁ (fun _ => ?_) fun _ => hSynced₁
    refine Spec.bind (F := fun _ s' => Synced s') (Spec.orElse (E := fun _ => Synced)
      (spec_read rfl trivial hInv₁ hSynced₁ fun _ _ _ => hSynced₁)
      fun e s₂ hInv₂ hSynced₂ => ?_) ?_
    · split
      · exact spec_pure hInv₂ hSynced₂
      · exact spec_fail hInv₂ hSynced₂
    · intro outcome s₂ hInv₂ hSynced₂
      exact spec_whenever hInv₂ (fun _ => spec_fail hInv₂ hSynced₂) fun _ => hSynced₂
  · exact spec_pure hInv hSynced

/-- What a look at leg B may change. -/
structure Aside (s s' : World) : Prop where
  failed : s'.failed = false
  synced : Synced s'
  live : ∃ attempted adopted notes, s'.live =
    { s.live with
      legBClaimAttempted := attempted
      legBClaimAdopted := adopted
      refundNotes := notes }
  asked : ∀ entry ∈ s.call, entry ∈ s'.call

/-- An attempt to claim leg B is settled by the note. -/
theorem spec_settleLegBClaimAttempt (hInv : Inv rail pairing s) (hSynced : Synced s) :
    Spec deps rail pairing (settleLegBClaimAttempt deps pairing) (fun _ s' => Aside s s' ∧
      (s'.live.legBClaimAttempted = true → s'.live.legBClaimAdopted = true)) s := by
  refine spec_read_then rfl trivial hInv hSynced fun note _ hInv₁ hSynced₁ => ?_
  have hAsked := (reads_note (s := s) (o := .paperRead) rfl (.ok note)).asked
  split
  · exact spec_save hInv₁.adopt fun hFailed _ hSynced₂ =>
      ⟨⟨hFailed, hSynced₂, ⟨_, _, _, rfl⟩, hAsked⟩, fun _ => rfl⟩
  · refine Spec.bind (spec_legBNoteClaimable hInv₁ hSynced₁) ?_
    intro claimable s₂ hInv₂ hReads
    refine spec_check_then hInv₂ (hReads.synced hSynced₁) fun _ => ?_
    refine spec_save (hInv₂.claimAttempt false) fun hFailed _ hSynced₃ =>
      ⟨⟨hFailed, hSynced₃, ⟨false, s.live.legBClaimAdopted, s.live.refundNotes, ?_⟩, ?_⟩,
        fun h => absurd h Bool.false_ne_true⟩
    · dsimp only [World.saved]
      rw [hReads.live]
      rfl
    · exact fun entry hEntry => hReads.asked entry (hAsked entry hEntry)

/-- Looking for a pending claim only reads, and none is seen after it. -/
theorem spec_checkPendingClaim {live : Live} (hInv : Inv rail pairing s) (hSynced : Synced s) :
    Spec deps rail pairing (checkPendingClaim rail railRef live) (fun _ s' => Reads s s' ∧
      (rail.hasCheckPendingClaim = true →
        ⟨.checkPendingClaim railRef live.lockedFromBlock, .ok none⟩ ∈ s'.call)) s := by
  refine spec_whenever hInv (fun _ => ?_) fun hNot => ⟨.refl s, fun hHas => ?_⟩
  · refine spec_read_then rfl trivial hInv hSynced fun secret _ hInv₁ hSynced₁ => ?_
    refine spec_whenever hInv₁ (fun _ => spec_routeToClaim hInv₁ hSynced₁) fun hNone => ?_
    obtain rfl : secret = none := by simpa using hNone
    exact ⟨reads_note rfl _, fun _ => mem_note _⟩
  · rw [hNot] at hHas
    cases hHas

/-- A lock attempt with no evidence has landed, or there is nothing to refund. -/
theorem spec_checkLockAbsence {live : Live} (hInv : Inv rail pairing s) (hSynced : Synced s)
    (hFailed : s.failed = false) (hAttempted : live.legALockAttempted = s.live.legALockAttempted)
    (hLock : live.lockEvidence = s.live.lockEvidence)
    (hRefund : live.legARefundEvidence = s.live.legARefundEvidence) :
    Spec deps rail pairing (checkLockAbsence rail pairing railRef live) (fun _ s' =>
      Synced s' ∧ s'.failed = false ∧
      (∃ evidence, s'.live = { s.live with lockEvidence := evidence }) ∧
      (∀ entry ∈ s.call, entry ∈ s'.call) ∧ (rail.hasLockAbsence = true →
        s.live.legALockAttempted = true → s'.live.lockEvidence.isSome = true)) s := by
  refine spec_whenever hInv (fun hOpen => ?_) fun hNot =>
    ⟨hSynced, hFailed, ⟨_, rfl⟩, fun _ h => h, fun hHas hTried => ?_⟩
  · simp only [Bool.and_eq_true] at hOpen
    refine spec_read_then rfl trivial hInv hSynced fun absence _ hInv₁ hSynced₁ => ?_
    cases absence with
    | landed =>
      refine Spec.mono (spec_recordLockSeen hInv₁ hSynced₁ hFailed
        (hAttempted.symm.trans hOpen.1.1.1)) ?_
      rintro _ s₂ _ ⟨hSynced₂, hFailed₂, hSome, evidence, hLive, hCall⟩
      refine ⟨hSynced₂, hFailed₂, ⟨some evidence, hLive⟩, ?_, fun _ _ => hSome⟩
      rw [hCall]
      exact fun entry hEntry => List.mem_append_left _ hEntry
    | neverLocked =>
      refine Spec.bind (F := fun _ s' => Synced s') (spec_save ?_ fun _ _ hSynced₂ => hSynced₂) ?_
      · exact hInv₁.touch ⟨hInv₁.live.attempted, hInv₁.live.untouched, hInv₁.live.refundless,
          hInv₁.live.landed⟩ { Behind.refl s.live with neverLanded := fun _ => rfl } rfl
      · exact fun _ s₂ hInv₂ hSynced₂ => spec_fail hInv₂ hSynced₂
    | notFinal => exact spec_fail hInv₁ hSynced₁
  -- Nothing is asked of the chain where the lock or a refund has left evidence.
  · rw [hAttempted, hLock, hRefund, hTried, hHas, Bool.true_and, Bool.and_true] at hNot
    cases hEvidence : s.live.lockEvidence with
    | some evidence => rfl
    | none =>
      rw [hEvidence] at hNot
      cases hRefunded : s.live.legARefundEvidence with
      | none =>
        rw [hRefunded] at hNot
        cases hNot
      | some evidence =>
        have hSome := hInv.live.landed hHas (by rw [hRefunded]; rfl)
        rw [hEvidence] at hSome
        cases hSome

/-- Leg B's record is noted, and nothing else changes. -/
theorem spec_noteLegBRecord {live : Live} (hInv : Inv rail pairing s) (hSynced : Synced s) :
    Spec deps rail pairing (noteLegBRecord deps rail pairing live) (fun _ s' => Synced s' ∧
      s'.failed = s.failed ∧ (∃ notes, s'.live = { s.live with refundNotes := notes }) ∧
      ∀ entry ∈ s.call, entry ∈ s'.call) s := by
  refine spec_whenever hInv (fun _ => ?_) fun _ => ⟨hSynced, rfl, ⟨_, rfl⟩, fun _ h => h⟩
  refine spec_read_then rfl trivial hInv hSynced fun note _ hInv₁ hSynced₁ => ?_
  have hAsked := (reads_note (s := s) (o := .paperRead) rfl (.ok note)).asked
  split
  · exact spec_pure hInv₁ ⟨hSynced₁, rfl, ⟨_, rfl⟩, hAsked⟩
  · refine spec_modify ?_ ⟨hSynced₁, rfl, ⟨_, rfl⟩, hAsked⟩
    exact hInv₁.touch ⟨hInv₁.live.attempted, hInv₁.live.untouched, hInv₁.live.refundless,
      hInv₁.live.landed⟩ { Behind.refl s.live with } rfl

/-- The refund's own fields. -/
structure SameRefund (old new : Live) : Prop where
  attempted : new.refundAttempted = old.refundAttempted
  recovery : new.refundRecovery = old.refundRecovery
  evidence : new.legARefundEvidence = old.legARefundEvidence

/-- What is looked at before a refund leaves it allowed. -/
theorem spec_checkRefund (hInv : Inv rail pairing s) (hSynced : Synced s)
    (hFailed : s.failed = false) (hRef : s.live.railRef = some railRef)
    (hTime : ∃ now, ⟨.clock, .ok now⟩ ∈ s.call ∧ pairing.offerA.refundAfterMs ≤ now)
    (hVerdict : s.live.lockNeverLanded = false) :
    Spec deps rail pairing (checkRefund deps rail pairing railRef) (fun _ s' => Synced s' ∧
      Refundable rail pairing railRef s' ∧ SameRefund s.live s'.live) s := by
  refine spec_look_then hInv ?_
  refine spec_check_then hInv hSynced fun hUnclaimed => ?_
  refine Spec.bind (F := fun _ s' => Aside s s' ∧ (s'.live.legBClaimAttempted = true →
    s'.live.legBClaimAdopted = true)) (spec_whenever hInv
      (fun _ => spec_settleLegBClaimAttempt hInv hSynced) fun hDone => ?_) ?_
  · refine ⟨⟨hFailed, hSynced, ⟨_, _, _, rfl⟩, fun _ h => h⟩, fun hAttempted => ?_⟩
    rw [hAttempted, Bool.true_and] at hDone
    simpa using hDone
  · rintro _ s₁ hInv₁ ⟨⟨hFailed₁, hSynced₁, ⟨attempted, adopted, notes, hLive₁⟩, hAsked₁⟩, hSettled⟩
    refine Spec.bind (spec_checkPendingClaim hInv₁ hSynced₁) ?_
    rintro _ s₂ hInv₂ ⟨hReads₂, hPending⟩
    have hLive₂ := hReads₂.live.trans hLive₁
    refine Spec.bind (spec_checkLockAbsence hInv₂ (hReads₂.synced hSynced₁)
      (hReads₂.failed.trans hFailed₁) (by rw [hLive₂]) (by rw [hLive₂]) (by rw [hLive₂])) ?_
    rintro _ s₃ hInv₃ ⟨hSynced₃, hFailed₃, ⟨evidence, hLive₃⟩, hAsked₃, hLanded⟩
    refine Spec.mono (spec_noteLegBRecord hInv₃ hSynced₃) ?_
    rintro _ s₄ _ ⟨hSynced₄, hFailed₄, ⟨notes', hLive₄⟩, hAsked₄⟩
    have hAsked : ∀ entry ∈ s₂.call, entry ∈ s₄.call := fun entry hEntry =>
      hAsked₄ entry (hAsked₃ entry hEntry)
    -- None of the four looks touches what another one has found.
    rw [hLive₂] at hLive₃ hLanded
    rw [hLive₁] at hSettled
    rw [hLive₃] at hLive₄ hLanded
    refine ⟨hSynced₄, ?_, ?_⟩
    · obtain ⟨now, hClock, hLate⟩ := hTime
      refine ⟨hFailed₄.trans hFailed₃, ?_, ⟨now, ?_, hLate⟩, ?_, ?_, fun hHas => ?_, ?_, ?_⟩
      · rw [hLive₄]
        exact hRef
      · exact hAsked _ (hReads₂.asked _ (hAsked₁ _ hClock))
      · rw [hLive₄]
        exact hUnclaimed
      · rw [hLive₄]
        exact hSettled
      · rw [hLive₄]
        exact hAsked _ (hPending hHas)
      · rw [hLive₄]
        exact fun hHas => hLanded hHas (hInv.live.attempted_of_ref hRef)
      · rw [hLive₄]
        exact hVerdict
    · rw [hLive₄]
      exact ⟨rfl, rfl, rfl⟩

-- ---------------------------------------------------------------------------
-- A refund that was sent before
-- ---------------------------------------------------------------------------

/-- An outcome that leaves the fate of a refund open. -/
def isOpen : Option (LockRecoveryOutcome ⊕ Unit) → Bool
  | some (.inl .pending) | some (.inl .landed) | some (.inl .unknown) => true
  | _ => false

/-- An outcome that is neither pending, landed nor unknown is not open. -/
theorem isOpen_eq_false {outcome : Option (LockRecoveryOutcome ⊕ Unit)}
    (hPending : outcome ≠ some (.inl .pending)) (hLanded : outcome ≠ some (.inl .landed))
    (hUnknown : outcome ≠ some (.inl .unknown)) : isOpen outcome = false := by
  unfold isOpen
  split
  · exact absurd rfl hPending
  · exact absurd rfl hLanded
  · exact absurd rfl hUnknown
  · rfl

/-- Of the outcomes of a recovery only `neverLanded` is not open. -/
theorem eq_neverLanded_of_isOpen {outcome : LockRecoveryOutcome}
    (h : isOpen (some (.inl outcome)) = false) : outcome = .neverLanded := by
  cases outcome with
  | neverLanded => rfl
  | _ => cases h

/-- The only refund with a handle that can be outstanding is the one on record. -/
theorem Inv.voided (h : Inv rail pairing s) {handle : LockRecovery}
    (hHandle : s.live.refundRecovery = some handle) :
    ∀ refund ∈ (outstanding s.past).filter (· ≠ some handle), refund = none := by
  intro refund hOut
  obtain ⟨hOut, hOther⟩ := List.mem_filter.mp hOut
  cases refund with
  | none => rfl
  | some other =>
    have hSame := (h.refund other hOut).2
    rw [hHandle] at hSame
    rw [hSame] at hOther
    simp at hOther

/-- Without a handle on record no refund is outstanding. -/
theorem Inv.settled (h : Inv rail pairing s) (hNone : s.live.refundRecovery = none) :
    Void s.past := by
  intro refund hOut
  cases refund with
  | none => rfl
  | some handle =>
    rw [(h.refund handle hOut).2] at hNone
    cases hNone

/-- Recovering a refund tells its outcome, and only that. -/
theorem spec_recoverRefund {handle : LockRecovery} (hInv : Inv rail pairing s)
    (hHandle : s.live.refundRecovery = some handle) :
    Ends deps rail pairing (ask (.recoverRefund railRef handle))
      (fun outcome s' => Heard s s' ∧ ⟨.recoverRefund railRef handle, .ok outcome⟩ ∈ s'.call ∧
        (outcome = .neverLanded → Void s'.past))
      (fun e s' => Heard s s' ∧
        ((∃ message, e = .landedAndFailed message) → Void s'.past)) s := by
  refine spec_ask fun r s' hDoes => ?_
  obtain ⟨-, rfl⟩ := hDoes.outside rfl
  refine ⟨⟨trivial, .refl _, fun _ hLine => hLine⟩, ?_⟩
  have hVoid := hInv.voided hHandle
  cases r with
  | ok outcome =>
    refine ⟨hInv.read rfl _, heard_note _, mem_note _, ?_⟩
    rintro rfl
    unfold Void
    rw [note_past, outstanding_append]
    exact hVoid
  | error e =>
    refine ⟨hInv.read rfl _, heard_note _, ?_⟩
    rintro ⟨message, rfl⟩
    unfold Void
    rw [note_past, outstanding_append]
    exact hVoid

/-- The same refund is sent again. -/
theorem spec_resendRefund {handle : LockRecovery} (hInv : Inv rail pairing s) (hSynced : Synced s)
    (hMay : MayRefund rail pairing s railRef) (hHandle : s.live.refundRecovery = some handle)
    (hUnknown : ⟨.recoverRefund railRef handle, .ok .unknown⟩ ∈ s.call) :
    Ends deps rail pairing (ask (.resendRefund railRef handle))
      (fun outcome s' => Heard s s' ∧ (outcome = .neverLanded → Void s'.past))
      (fun e s' => Heard s s' ∧
        ((∃ message, e = .landedAndFailed message) → Void s'.past)) s := by
  have hStored : s.stored.state.refund.recovery = some handle :=
    (congrArg Live.refundRecovery (hSynced hMay.usable)).trans hHandle
  refine spec_ask fun r s' hDoes => ?_
  obtain ⟨-, rfl⟩ := hDoes.outside rfl
  refine ⟨⟨⟨hMay, hStored, hUnknown⟩, .refl _, fun _ hLine => hLine⟩, ?_⟩
  have hInv' : Inv rail pairing (s.note (.resendRefund railRef handle) r) := by
    refine hInv.noted (fun p hp => ?_) (fun other hOut => ?_) (fun _ => hMay.intent)
      fun text answer hPost => ?_
    -- a resend sends no lock
    · cases hp
    -- the refund sent again is the recorded one
    · obtain hOld | hSame := of_resent hOut
      · exact .inl hOld
      · obtain rfl := Option.some.inj hSame
        exact .inr ⟨hStored, hHandle⟩
    -- and posts nothing
    · cases (Entry.mk.inj hPost).1
  have hVoid := hInv.voided hHandle
  cases r with
  | ok outcome =>
    -- whatever comes back, what may still land was there before
    refine ⟨hInv', heard_note _, ?_⟩
    rintro rfl
    unfold Void
    rw [note_past, outstanding_append]
    exact hVoid
  | error e =>
    refine ⟨hInv', heard_note _, ?_⟩
    rintro ⟨message, rfl⟩
    unfold Void
    rw [note_past, outstanding_append]
    exact hVoid

/-- An outcome that is not open leaves no refund outstanding. -/
theorem spec_refundOutcome (hInv : Inv rail pairing s) (hSynced : Synced s)
    (hMay : MayRefund rail pairing s railRef) :
    Spec deps rail pairing (refundOutcome rail railRef s.live.refundRecovery)
      (fun outcome s' => Heard s s' ∧ (isOpen outcome = false → Void s'.past)) s := by
  cases hHandle : s.live.refundRecovery with
  | none => exact spec_pure hInv ⟨(Reads.refl s).toHeard, fun _ => hInv.settled hHandle⟩
  | some handle =>
    have hHas : rail.hasRecoverRefund = true := hInv.handle (by rw [hHandle]; rfl)
    dsimp only [refundOutcome]
    rw [if_pos hHas]
    refine Spec.orElse (E := fun e s' => Heard s s' ∧
      ((∃ message, e = .landedAndFailed message) → Void s'.past)) ?_ ?_
    · refine Spec.bind (spec_recoverRefund hInv hHandle) ?_
      rintro outcome s₁ hInv₁ ⟨hHeard, hAnswer, hNever⟩
      -- The same bytes are sent again only after the rail has said that it does not know them.
      split
      · rename_i hUnknown
        obtain ⟨rfl, -⟩ := hUnknown
        refine Spec.bind (F := fun outcome s' => Heard s s' ∧
          (outcome = .neverLanded → Void s'.past)) (Spec.imp (spec_resendRefund hInv₁
            (hHeard.synced hSynced) (hMay.heard hHeard)
            ((congrArg Live.refundRecovery hHeard.live).trans hHandle) hAnswer) ?_ ?_) ?_
        · exact fun _ s₂ hEnd => ⟨hHeard.trans hEnd.1, hEnd.2⟩
        · exact fun _ s₂ hEnd => ⟨hHeard.trans hEnd.1, hEnd.2⟩
        · rintro outcome s₂ hInv₂ ⟨hHeard₂, hNever₂⟩
          exact spec_pure hInv₂ ⟨hHeard₂, fun hOpen => hNever₂ (eq_neverLanded_of_isOpen hOpen)⟩
      · exact spec_pure hInv₁ ⟨hHeard, fun hOpen => hNever (eq_neverLanded_of_isOpen hOpen)⟩
    · rintro e s₁ hInv₁ ⟨hHeard, hFailed⟩
      cases e with
      | landedAndFailed message =>
        exact spec_pure hInv₁ ⟨hHeard, fun _ => hFailed ⟨message, rfl⟩⟩
      | _ => exact spec_fail hInv₁ (hHeard.synced hSynced)

-- ---------------------------------------------------------------------------
-- Sending a refund
-- ---------------------------------------------------------------------------

/-- A refund is under way, as far as it is recorded. -/
structure Refunding (rail : CounterAssetRail) (pairing : Pairing) (railRef : String) (s : World) :
    Prop where
  synced : Synced s
  refundable : Refundable rail pairing railRef s
  intent : s.live.refundAttempted = true

/-- A refund under way may be sent. -/
theorem Refunding.may (h : Refunding rail pairing railRef s) : MayRefund rail pairing s railRef :=
  h.refundable.may h.synced h.intent

/-- A refund under way stays so while the flow only hears. -/
theorem Refunding.heard (h : Refunding rail pairing railRef s) (hHeard : Heard s s') :
    Refunding rail pairing railRef s' :=
  ⟨hHeard.synced h.synced, h.refundable.heard hHeard, by rw [hHeard.live]; exact h.intent⟩

/-- The handle of the refund is the only thing that changes. -/
theorem Refunding.rehandled (h : Refunding rail pairing railRef s) {handle : Option LockRecovery}
    (hSynced : Synced { s with live := { s.live with refundRecovery := handle } }.saved) :
    Refunding rail pairing railRef { s with live := { s.live with refundRecovery := handle } }.saved
    where
  synced := hSynced
  refundable := h.refundable.alike h.refundable.failed ⟨rfl, rfl, rfl, rfl, rfl, rfl, rfl⟩
    fun _ hEntry => hEntry
  intent := h.intent

/-- A new handle keeps the invariant where no refund is outstanding. -/
theorem Inv.rehandle (h : Inv rail pairing s) (hIntent : s.live.refundAttempted = true)
    (hVoid : Void s.past) {handle : Option LockRecovery}
    (hHandle : handle.isSome = true → rail.hasRecoverRefund = true) :
    Inv rail pairing { s with live := { s.live with refundRecovery := handle } } := by
  refine h.modify ⟨h.live.attempted, h.live.untouched, fun hNot => ?_, h.live.landed⟩
    { Behind.refl s.live with } (fun other hOther => ?_) hHandle
  · rw [hIntent] at hNot
    cases hNot
  · cases hVoid _ hOther

/-- Forgetting a void refund leaves the next one under way. -/
theorem spec_forgetRefund (hInv : Inv rail pairing s) (h : Refunding rail pairing railRef s)
    (hVoid : Void s.past) :
    Spec deps rail pairing forgetRefund (fun _ s' => Refunding rail pairing railRef s' ∧
      s'.past = s.past ∧ s'.call = s.call ∧ s'.live.refundRecovery = none) s :=
  spec_save (hInv.rehandle h.intent hVoid fun hSome => absurd hSome Bool.false_ne_true)
    fun _ _ hSynced => ⟨h.rehandled hSynced, rfl, rfl, rfl⟩

/-- The handle of a refund is on record before it is sent. -/
theorem spec_onSigned {signed : Option LockRecovery} (hInv : Inv rail pairing s)
    (h : Refunding rail pairing railRef s) (hFresh : Fresh s railRef)
    (hNone : s.live.refundRecovery = none)
    (hSigned : signed.isSome = true → rail.hasRecoverRefund = true) :
    Spec deps rail pairing (onSigned signed) (fun _ s' => Refunding rail pairing railRef s' ∧
      Fresh s' railRef ∧ s'.live.refundRecovery = signed) s := by
  cases signed with
  | none => exact spec_pure hInv ⟨h, hFresh, hNone⟩
  | some handle =>
    exact spec_save (hInv.rehandle h.intent hFresh.void hSigned)
      fun _ _ hSynced => ⟨h.rehandled hSynced, ⟨hFresh.void, hFresh.looked⟩, rfl⟩

/-- A fresh refund is sent, or it fails, as the invariant allows. -/
theorem spec_sendRefund {signed : Option LockRecovery} (hInv : Inv rail pairing s)
    (h : Refunding rail pairing railRef s) (hFresh : Fresh s railRef)
    (hHandle : s.live.refundRecovery = signed) :
    Spec deps rail pairing (ask (.sendRefund railRef signed)) (fun sent s' =>
      Refunding rail pairing railRef s' ∧
        ((∃ error, sent = .notBroadcast error) → Void s'.past)) s := by
  have hStored : s.stored.state.refund.recovery = signed :=
    (congrArg Live.refundRecovery (h.synced h.refundable.failed)).trans hHandle
  refine spec_ask fun r s' hDoes => ?_
  obtain ⟨-, rfl⟩ := hDoes.outside rfl
  refine ⟨⟨⟨h.may, hFresh, hStored⟩, .refl _, fun _ hLine => hLine⟩, ?_⟩
  have hInv' : Inv rail pairing (s.note (.sendRefund railRef signed) r) := by
    refine hInv.noted (fun p hp => ?_) (fun handle hNew => ?_) (fun _ => h.may.intent)
      fun text answer hPost => ?_
    -- a send of a refund sends no lock
    · cases hp
    -- what is in flight now is an older refund, or this one, whose handle is on record
    · obtain hOld | hSent := of_sent hNew
      · exact .inl hOld
      · exact .inr ⟨hStored.trans hSent, hHandle.trans hSent⟩
    · cases (Entry.mk.inj hPost).1
  cases r with
  | ok sent =>
    refine ⟨hInv', h.heard (heard_note _), ?_⟩
    -- one that the network refused is in flight no longer
    rintro ⟨error, rfl⟩ refund hOut
    rw [note_past, outstanding_append] at hOut
    exact hFresh.void refund (of_notBroadcast hOut)
  | error e => exact ⟨hInv', h.synced⟩

/-- A refund is signed, recorded and sent, in this order. -/
theorem spec_refund (hInv : Inv rail pairing s) (h : Refunding rail pairing railRef s)
    (hFresh : Fresh s railRef) (hNone : s.live.refundRecovery = none) :
    Spec deps rail pairing (refund railRef) (fun _ _ => True) s := by
  refine spec_read_then rfl ⟨h.may, hFresh⟩ hInv h.synced fun signed hSigned hInv₁ _ => ?_
  have hReads := reads_note (s := s) (o := .signRefund railRef) rfl (.ok signed)
  refine Spec.bind (spec_onSigned hInv₁ (h.heard hReads.toHeard) (hFresh.reads hReads) hNone
    hSigned) ?_
  rintro _ s₂ hInv₂ ⟨h₂, hFresh₂, hHandle₂⟩
  refine Spec.bind (spec_sendRefund hInv₂ h₂ hFresh₂ hHandle₂) ?_
  rintro sent s₃ hInv₃ ⟨h₃, hVoid⟩
  cases sent with
  | sent evidence =>
    refine Spec.bind (spec_keepExchanges hInv₃) ?_
    exact fun _ s₄ hInv₄ _ => spec_pure hInv₄ trivial
  | notBroadcast error =>
    refine Spec.bind (spec_forgetRefund hInv₃ h₃ (hVoid ⟨error, rfl⟩)) ?_
    rintro _ s₄ hInv₄ ⟨h₄, -⟩
    exact spec_fail hInv₄ h₄.synced

/-- A refund that failed is looked for on the rail. -/
theorem spec_settleFailedRefund {accounts : RailAccountsJson} {e : Failure}
    (hInv : Inv rail pairing s) (hSynced : Synced s) :
    Spec deps rail pairing (settleFailedRefund railRef accounts e)
      (fun _ s' => s'.live = s.live) s := by
  refine spec_read_then rfl trivial hInv hSynced fun observed _ hInv₁ hSynced₁ => ?_
  split
  · exact spec_pure hInv₁ rfl
  · split
    · exact spec_routeToClaim hInv₁ hSynced₁
    · exact spec_fail hInv₁ hSynced₁

/-- What the live fields have before the evidence of a refund is kept. -/
structure Backed (rail : CounterAssetRail) (live : Live) : Prop where
  intent : live.refundAttempted = true
  landed : rail.hasLockAbsence = true → live.lockEvidence.isSome = true

/-- A refund under way is backed by the rail. -/
theorem Refunding.backed (h : Refunding rail pairing railRef s) : Backed rail s.live :=
  ⟨h.intent, h.refundable.landed⟩

/-- What allowed a refund once is not taken back. -/
theorem MayRefund.backed (h : MayRefund rail pairing s railRef) (hInv : Inv rail pairing s')
    (hKeeps : Keeps s s') : Backed rail s'.live where
  intent := hInv.behind.refundAttempted (hKeeps.behind.refundAttempted h.intent)
  landed hHas := hInv.behind.evidence (hKeeps.behind.evidence (h.landed hHas))

/-- Evidence of a refund keeps the invariant. -/
theorem Inv.refundSeen (h : Inv rail pairing s) (hBacked : Backed rail s.live)
    (evidence : WriteEvidenceJson) :
    Inv rail pairing { s with live := { s.live with legARefundEvidence := some evidence } } := by
  refine h.touch ⟨h.live.attempted, h.live.untouched, fun hNot => ?_,
    fun hHas _ => hBacked.landed hHas⟩ { Behind.refl s.live with refunded := fun _ => rfl } rfl
  rw [hBacked.intent] at hNot
  cases hNot

/-- A refund has left its evidence, or a fresh one may follow. -/
def Resolved (railRef : String) (s : World) : Prop :=
  s.live.legARefundEvidence.isSome = true ∨ Fresh s railRef ∧ s.live.refundRecovery = none

/-- After an earlier refund: it has left its evidence, or one fresh refund may follow. -/
theorem spec_recoverRefundA {accounts : RailAccountsJson} (hInv : Inv rail pairing s)
    (h : Refunding rail pairing railRef s) :
    Spec deps rail pairing (recoverRefundA rail railRef accounts) (fun _ s' =>
      Refunding rail pairing railRef s' ∧ Resolved railRef s') s := by
  refine spec_look_then hInv ?_
  refine Spec.bind (spec_refundOutcome hInv h.synced h.may) ?_
  rintro outcome s₁ hInv₁ ⟨hHeard, hVoid⟩
  have h₁ := h.heard hHeard
  refine spec_read_then rfl trivial hInv₁ h₁.synced fun observed _ hInv₂ hSynced₂ => ?_
  have hReads := reads_note (s := s₁) (o := .verifyLockFinal railRef accounts) rfl (.ok observed)
  have h₂ := h₁.heard hReads.toHeard
  -- what is left when the refund is void, and leg A was seen neither refunded nor claimed
  have hForget (hOpen : isOpen outcome = false)
      (hSeen : SeenOpen (s₁.note (.verifyLockFinal railRef accounts) (.ok observed)).call railRef) :
      Spec deps rail pairing forgetRefund (fun _ s' =>
        Refunding rail pairing railRef s' ∧ Resolved railRef s')
        (s₁.note (.verifyLockFinal railRef accounts) (.ok observed)) := by
    have hVoid₂ : Void (s₁.note (.verifyLockFinal railRef accounts) (.ok observed)).past :=
      fun refund hOut => hVoid hOpen refund (hReads.refund refund hOut)
    refine Spec.mono (spec_forgetRefund hInv₂ h₂ hVoid₂) ?_
    rintro _ s₃ _ ⟨h₃, hPast, hCall, hHandle⟩
    exact ⟨h₃, .inr ⟨⟨by rw [hPast]; exact hVoid₂, .inr (by rw [hCall]; exact hSeen)⟩, hHandle⟩⟩
  split
  · refine spec_save (hInv₂.refundSeen h₂.backed _) fun _ _ hSynced₃ =>
      ⟨⟨hSynced₃, ?_, h₂.intent⟩, .inl rfl⟩
    exact h₂.refundable.alike h₂.refundable.failed
      ⟨rfl, rfl, rfl, rfl, rfl, rfl, rfl⟩ fun _ hEntry => hEntry
  · rename_i hRefunded
    split
    · exact spec_routeToClaim hInv₂ hSynced₂
    · rename_i hClaimed
      have hSeen := mem_note (s := s₁) (o := .verifyLockFinal railRef accounts) (.ok observed)
      have hOpen : SeenOpen _ railRef := ⟨accounts, observed, hSeen,
        Bool.eq_false_iff.mpr hRefunded, Bool.eq_false_iff.mpr hClaimed⟩
      split
      · exact spec_check_then hInv₂ hSynced₂ fun _ => hForget rfl hOpen
      · exact spec_fail hInv₂ hSynced₂
      · exact spec_fail hInv₂ hSynced₂
      · exact spec_fail hInv₂ hSynced₂
      · exact spec_fail hInv₂ hSynced₂
      · rename_i hPending hLanded hUnknown _
        exact hForget (isOpen_eq_false hPending hLanded hUnknown) hOpen

/-- A refund leaves its evidence, which the caller saves. -/
theorem spec_refundOrResend {accounts : RailAccountsJson} (hInv : Inv rail pairing s)
    (hSynced : Synced s) (h : Refundable rail pairing railRef s)
    (hResolved : Resolved railRef s) :
    Spec deps rail pairing (refundOrResend rail railRef accounts)
      (fun _ s' => s'.live.legARefundEvidence.isSome = true) s := by
  refine spec_look_then hInv ?_
  split
  · rename_i hNone
    obtain ⟨hFresh, hHandle⟩ := hResolved.resolve_left (by rw [hNone]; exact Bool.false_ne_true)
    refine Spec.bind (F := fun _ s' => Refunding rail pairing railRef s' ∧
      Fresh s' railRef ∧ s'.live.refundRecovery = none) (spec_save ?_ ?_) ?_
    · refine hInv.touch ⟨hInv.live.attempted, fun hNot => ?_,
        fun hNot => absurd hNot.symm Bool.false_ne_true, hInv.live.landed⟩
        { Behind.refl s.live with refundAttempted := fun _ => rfl } rfl
      -- nothing is refunded that was not locked
      rw [hInv.live.attempted_of_ref h.ref] at hNot
      cases hNot
    · exact fun hFailed _ hSynced₁ => ⟨⟨hSynced₁, h.alike hFailed
        ⟨rfl, rfl, rfl, rfl, rfl, rfl, rfl⟩ fun _ hEntry => hEntry, rfl⟩,
        ⟨hFresh.void, hFresh.looked⟩, hHandle⟩
    · rintro _ s₁ hInv₁ ⟨h₁, hFresh₁, hHandle₁⟩
      -- Whatever the rail answers, the intent stays on record.
      refine Spec.bind (F := fun _ s' => Backed rail s'.live)
        (Spec.orElse (E := fun e s' => Keeps s₁ s' ∧ Synced s') ?_ ?_) ?_
      · refine Spec.mono (Spec.keeps (spec_refund hInv₁ h₁ hFresh₁ hHandle₁)) ?_
        exact fun _ s₂ hInv₂ hEnd => h₁.may.backed hInv₂ hEnd.1
      · rintro e s₂ hInv₂ ⟨hKeeps, hSynced₂⟩
        refine Spec.bind (spec_keepExchanges hInv₂) ?_
        rintro _ s₃ hInv₃ hKept
        refine Spec.mono (spec_settleFailedRefund hInv₃ (hKept.synced hSynced₂)) ?_
        intro _ s₄ _ hLive
        obtain ⟨exchanges, hLive₃⟩ := hKept.live
        obtain ⟨hIntent, hLanded⟩ := h₁.may.backed hInv₂ hKeeps
        rw [hLive, hLive₃]
        exact ⟨hIntent, hLanded⟩
      · exact fun evidence s₂ hInv₂ hBacked => spec_modify (hInv₂.refundSeen hBacked _) rfl
  · rename_i evidence hEvidence
    have hIntent : s.live.refundAttempted = true := by
      by_contra hNot
      rw [(hInv.live.refundless (by simpa using hNot)).2] at hEvidence
      cases hEvidence
    refine spec_whenever hInv (fun _ => ?_) fun _ => by rw [hEvidence]; rfl
    have hStored : s.stored.state.refund.evidence = some evidence :=
      (congrArg Live.legARefundEvidence (hSynced h.failed)).trans hEvidence
    refine spec_read_then rfl ⟨h.may hSynced hIntent, hStored⟩ hInv hSynced
      fun evidence _ hInv₁ _ => ?_
    refine Spec.bind (F := fun _ s' => s'.live.legARefundEvidence.isSome = true)
      (spec_modify (hInv₁.refundSeen ⟨hIntent, h.landed⟩ evidence) rfl) ?_
    intro _ s₂ hInv₂ hSome
    refine Spec.mono (spec_keepExchanges hInv₂) ?_
    rintro _ s₃ _ ⟨⟨exchanges, hLive₃⟩, -, -⟩
    rw [hLive₃]
    exact hSome

-- ---------------------------------------------------------------------------
-- After a refund
-- ---------------------------------------------------------------------------

/-- Confirming a refund only reads, and it is seen after it. -/
theorem spec_confirmRefund {accounts : RailAccountsJson} (hInv : Inv rail pairing s)
    (hSynced : Synced s) :
    Spec deps rail pairing (confirmRefund railRef accounts)
      (fun _ s' => Reads s s' ∧ SeenRefunded s'.call railRef) s := by
  refine spec_read_then rfl trivial hInv hSynced fun evidence _ hInv₁ hSynced₁ => ?_
  split
  · exact spec_routeToClaim hInv₁ hSynced₁
  · exact spec_check hInv₁ hSynced₁ fun hSeen =>
      ⟨reads_note rfl _, accounts, evidence, mem_note _, hSeen⟩

/-- A refund that was seen is seen in every longer call. -/
theorem SeenRefunded.mono {call call' : List Entry} (h : SeenRefunded call railRef)
    (hCall : ∀ entry ∈ call, entry ∈ call') : SeenRefunded call' railRef := by
  obtain ⟨accounts, evidence, hRead, hSeen⟩ := h
  exact ⟨accounts, evidence, hCall _ hRead, hSeen⟩

/-- Announcing the refund posts the ref of the lock that was refunded. -/
theorem spec_announceRefundA (hInv : Inv rail pairing s) (hSynced : Synced s)
    (hFailed : s.failed = false) (hEvidence : s.live.legARefundEvidence.isSome = true)
    (hRef : s.live.railRef = some railRef) (hSeen : SeenRefunded s.call railRef) :
    Spec deps rail pairing (announceRefundA rail pairing railRef) (fun _ s' => Synced s') s := by
  -- a line says what is on record, before and after another line
  have hMay {s : World} (hSynced : Synced s) (hFailed : s.failed = false)
      (hEvidence : s.live.legARefundEvidence.isSome = true) (hRef : s.live.railRef = some railRef) :
      s.stored.state.refund.evidence.isSome = true ∧
        (applyRecord s.stored).railRef = some railRef := by
    have hStored : s.stored.state.refund.evidence = s.live.legARefundEvidence :=
      congrArg Live.legARefundEvidence (hSynced hFailed)
    rw [hStored]
    exact ⟨hEvidence, (congrArg Live.railRef (hSynced hFailed)).trans hRef⟩
  have hFirst := hMay hSynced hFailed hEvidence hRef
  refine spec_look_then hInv ?_
  refine spec_whenever hInv (fun _ => ?_) fun _ => hSynced
  refine Spec.bind (spec_ensurePosted hInv hSynced hFailed (spec_pure hInv ⟨.refl s,
    hFirst.1, railRef, hFirst.2, hSeen, rfl⟩)) ?_
  rintro _ s₁ hInv₁ hTold
  have hSecond := hMay hTold.synced hTold.failed (by rw [hTold.live]; exact hEvidence)
    (by rw [hTold.live]; exact hRef)
  refine Spec.bind (spec_ensurePosted hInv₁ hTold.synced hTold.failed (spec_pure hInv₁ ⟨.refl s₁,
    hSecond.1, railRef, hSecond.2, hSeen.mono hTold.asked, rfl⟩)) ?_
  intro _ s₂ hInv₂ _
  refine spec_save ?_ fun _ _ hSynced₃ => hSynced₃
  exact hInv₂.touch ⟨hInv₂.live.attempted, hInv₂.live.untouched, hInv₂.live.refundless,
    hInv₂.live.landed⟩ { Behind.refl s₂.live with } rfl

/-- A ref that was on record stays that of the lock. -/
theorem Inv.keepsRef (h : Inv rail pairing s) (h' : Inv rail pairing s') (hKeeps : Keeps s s')
    (hRef : (applyRecord s.stored).railRef = some railRef) : s'.live.railRef = some railRef := by
  have hBehind := hKeeps.behind.trans h'.behind
  have hAttempted := h.stored.attempted_of_ref hRef
  obtain ⟨p, -, hPrepared, hOld, -⟩ := h.stored.attempted hAttempted
  obtain ⟨q, -, hPrepared', hNew, -⟩ := h'.live.attempted (hBehind.attempted hAttempted)
  obtain ⟨q', hq', hSame⟩ := hBehind.prepared p hPrepared
  obtain rfl := Option.some.inj (hPrepared'.symm.trans hq')
  unfold Live.railRef at hRef ⊢
  rw [hOld, Option.some_or] at hRef
  rw [hNew, hSame, Option.some_or]
  exact hRef

/-- Refunding leg A ends synced. -/
theorem spec_refundLegA (hInv : Inv rail pairing s) (hSynced : Synced s) :
    Spec deps rail pairing (refundLegA deps rail pairing) (fun _ s' => Synced s') s := by
  refine spec_usable_then hInv fun hFailed => spec_look_then hInv ?_
  refine spec_found_then hInv hSynced fun railRef hFound => ?_
  -- the ref of the record is that of the flow's lock
  have hRef : s.live.railRef = some railRef := by
    obtain ⟨-, -, hRef⟩ := Option.bind_eq_some_iff.mp hFound
    exact hRef
  -- after a verdict that no lock landed there is nothing to refund
  split
  · refine Spec.bind (spec_refuseIfLockExistsAfterVerdict hInv hSynced) ?_
    exact fun _ s₁ hInv₁ hSynced₁ => spec_fail hInv₁ hSynced₁
  rename_i hVerdict
  -- the refund time has passed by the clock of this call
  refine spec_read_then rfl trivial hInv hSynced fun now _ hInv₁ hSynced₁ => ?_
  refine spec_check_then hInv₁ hSynced₁ fun hNow => ?_
  refine spec_found_then hInv₁ hSynced₁ fun accounts _ => ?_
  refine spec_read_then rfl trivial hInv₁ hSynced₁ fun _ _ hInv₂ hSynced₂ => ?_
  -- no claim of leg B is open, and the escrow can pay back
  refine Spec.bind (spec_checkRefund hInv₂ hSynced₂ hFailed hRef
    ⟨now, List.mem_append_left _ (mem_note _), hNow⟩ (by simpa using hVerdict)) ?_
  rintro _ s₃ hInv₃ ⟨hSynced₃, hMay₃, hSame⟩
  refine Spec.bind (F := fun _ s' => Synced s' ∧ Refundable rail pairing railRef s' ∧
    Resolved railRef s')
    (spec_whenever hInv₃ (fun hOpen => ?_) fun hNot => ⟨hSynced₃, hMay₃, ?_⟩) ?_
  -- an earlier refund is settled first
  · rw [Bool.and_eq_true] at hOpen
    refine Spec.mono (spec_recoverRefundA hInv₃
      ⟨hSynced₃, hMay₃, hSame.attempted.trans hOpen.2⟩) ?_
    exact fun _ s₄ _ hEnd => ⟨hEnd.1.synced, hEnd.1.refundable, hEnd.2⟩
  · -- there was no refund yet, or it has left its evidence
    have hEither : s.live.legARefundEvidence.isSome = true ∨ s.live.refundAttempted = false := by
      cases hEvidence : s.live.legARefundEvidence with
      | some evidence => exact .inl rfl
      | none =>
        rw [hEvidence] at hNot
        exact .inr hNot
    unfold Resolved
    rw [hSame.evidence]
    refine hEither.imp_right fun hNone => ?_
    have hIntent := hSame.attempted.trans hNone
    have hRecovery := (hInv₃.live.refundless hIntent).1
    refine ⟨⟨hInv₃.settled hRecovery, .inl (hInv₃.sent.resolve_right fun hStored => ?_)⟩, hRecovery⟩
    rw [hInv₃.behind.refundAttempted hStored] at hIntent
    cases hIntent
  -- the refund itself, sent or sent again, leaves its evidence
  rintro _ s₄ hInv₄ ⟨hSynced₄, hMay₄, hResolved⟩
  have hRef₄ : (applyRecord s₄.stored).railRef = some railRef :=
    (congrArg Live.railRef (hSynced₄ hMay₄.failed)).trans hMay₄.ref
  have hSent : Spec deps rail pairing (refundOrResend rail railRef accounts) (fun _ s' =>
      Keeps s₄ s' ∧ s'.live.legARefundEvidence.isSome = true) s₄ :=
    Spec.imp (Spec.keeps (spec_refundOrResend hInv₄ hSynced₄ hMay₄ hResolved))
      (fun _ _ hEnd => hEnd) fun _ _ hEnd => hEnd.2
  refine Spec.bind hSent ?_
  rintro _ s₅ hInv₅ ⟨hKeeps, hEvidence₅⟩
  -- which is kept together with the ref
  have hRef₅ := hInv₄.keepsRef hInv₅ hKeeps hRef₄
  refine Spec.bind (F := fun _ s' => Synced s' ∧ s'.failed = false ∧
      s'.live.legARefundEvidence.isSome = true ∧ s'.live.railRef = some railRef)
    (spec_persist hInv₅ fun hUsable _ hSynced₆ => ⟨hSynced₆, hUsable, hEvidence₅, hRef₅⟩) ?_
  rintro _ s₆ hInv₆ ⟨hSynced₆, hFailed₆, hEvidence₆, hRef₆⟩
  -- then it is confirmed on the chain and announced
  refine Spec.bind (spec_confirmRefund hInv₆ hSynced₆) ?_
  rintro _ s₇ hInv₇ ⟨hReads₇, hSeen⟩
  refine Spec.bind (spec_announceRefundA hInv₇ (hReads₇.synced hSynced₆)
    (hReads₇.failed.trans hFailed₆) (by rw [hReads₇.live]; exact hEvidence₆)
    (by rw [hReads₇.live]; exact hRef₆) hSeen) ?_
  exact fun _ s₈ hInv₈ hSynced₈ => spec_look_then hInv₈
    (spec_found hInv₈ hSynced₈ fun _ _ => hSynced₈)

end

end SwapDesk.Client.Buyer
