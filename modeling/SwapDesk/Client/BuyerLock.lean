import SwapDesk.Client.BuyerRules

/-!
# SwapDesk — the Buyer locks by the rules

Every part of `lockLegA` and of `reconcileLockA` keeps to the rules: a lock is on record before it
is sent, every guard ran in the same call, and a second one is sent only when the first is dead.
-/

namespace SwapDesk.Client.Buyer

open Check Desk Client.Flow

section

variable {deps : BuyerDeps} {rail : CounterAssetRail} {pairing : Pairing} {s s' : World}

-- ---------------------------------------------------------------------------
-- Guards
-- ---------------------------------------------------------------------------

/-- The deadlines are checked at the clock that was last read. -/
theorem spec_checkLockDeadlines (hInv : Inv rail pairing s) (hSynced : Synced s) :
    Spec deps rail pairing (checkLockDeadlines deps rail pairing) (fun _ s' => Reads s s' ∧
      ∃ now, s'.call.getLast? = some ⟨.clock, .ok now⟩ ∧ DeadlinesAt deps rail pairing now) s := by
  refine spec_read_then rfl trivial hInv hSynced fun now _ hInv' hSynced' => ?_
  refine spec_check hInv' hSynced' fun hOk => ⟨reads_note rfl _, now, ?_, hOk⟩
  rw [note_call, List.getLast?_concat]

/-- Guards looked at stay looked at in every longer call. -/
theorem Guarded.mono {call call' : List Entry} (h : Guarded deps rail pairing call)
    (hCall : ∀ entry ∈ call, entry ∈ call') : Guarded deps rail pairing call' where
  deadlines := by
    obtain ⟨now, hClock, hOk⟩ := h.deadlines
    exact ⟨now, hCall _ hClock, hOk⟩
  offers := h.offers
  legB := hCall _ h.legB
  clocks hSol := by
    obtain ⟨chainMs, localMs, hChain, hLocal, hGap⟩ := h.clocks hSol
    exact ⟨chainMs, localMs, hCall _ hChain, hCall _ hLocal, hGap⟩

/-- A lock that was found dead is dead in every longer call. -/
theorem Dead.mono {call call' : List Entry} {ref : String} (h : Dead call ref)
    (hCall : ∀ entry ∈ call, entry ∈ call') : Dead call' ref := by
  obtain ⟨⟨prepared, hRef, hSaid⟩, accounts, evidence, hRead, hNone⟩ := h
  exact ⟨⟨prepared, hRef, hSaid.imp (hCall _) (hCall _)⟩, accounts, evidence, hCall _ hRead, hNone⟩

/-- A lock that may be sent may be sent after a read. -/
theorem MayLock.reads {prepared : PreparedLock} (h : MayLock deps rail pairing s prepared)
    (hReads : Reads s s') : MayLock deps rail pairing s' prepared where
  ahead :=
    { usable := hReads.failed.trans h.ahead.usable
      attempted := by rw [hReads.stored]; exact h.ahead.attempted
      prepared := by rw [hReads.stored]; exact h.ahead.prepared
      hashLock := by rw [hReads.stored]; exact h.ahead.hashLock
      accounts := by rw [hReads.stored]; exact h.ahead.accounts }
  guarded := h.guarded.mono hReads.asked
  verified := by rw [hReads.live]; exact h.verified
  alone := h.alone.imp (fun hNone => hReads.sent.trans hNone) fun hDead => hDead.mono hReads.asked

/-- The guards that look at the offers, the clock and leg B. -/
structure Looked (deps : BuyerDeps) (rail : CounterAssetRail) (pairing : Pairing)
    (call : List Entry) : Prop where
  deadlines : ∃ now, ⟨.clock, .ok now⟩ ∈ call ∧ DeadlinesAt deps rail pairing now
  offers : checkOffers deps rail pairing = .ok ()
  legB : ⟨.paperVerifyLock, .ok true⟩ ∈ call

/-- The guards that were looked at stand, once the clocks agree. -/
theorem Looked.guarded {call call' : List Entry} (h : Looked deps rail pairing call)
    (hCall : ∀ entry ∈ call, entry ∈ call') (hClocks : ClocksAgree rail call') :
    Guarded deps rail pairing call' where
  deadlines := by
    obtain ⟨now, hClock, hOk⟩ := h.deadlines
    exact ⟨now, hCall _ hClock, hOk⟩
  offers := h.offers
  legB := hCall _ h.legB
  clocks := hClocks

/-- Checking the guards only reads, and leaves them looked at. -/
theorem spec_checkLockGuards (hInv : Inv rail pairing s) (hSynced : Synced s) :
    Spec deps rail pairing (checkLockGuards deps rail pairing) (fun _ s' => Reads s s' ∧
      Looked deps rail pairing s'.call) s := by
  refine Spec.bind (spec_checkLockDeadlines hInv hSynced) ?_
  rintro _ s₁ hInv₁ ⟨hReads₁, now, hLast, hOk⟩
  have hSynced₁ := hReads₁.synced hSynced
  refine Spec.bind (F := fun _ s' => s' = s₁ ∧ checkOffers deps rail pairing = .ok ())
    (spec_ofExcept hInv₁ hSynced₁ fun _ hOffers => ⟨rfl, hOffers⟩) ?_
  rintro _ s₂ hInv₂ ⟨rfl, hOffers⟩
  refine spec_read_then rfl trivial hInv₁ hSynced₁ fun locked _ hInv₃ hSynced₃ => ?_
  refine spec_check hInv₃ hSynced₃ fun hLocked => ?_
  obtain rfl := hLocked
  refine ⟨hReads₁.trans (reads_note rfl _), ⟨now, ?_, hOk⟩, hOffers, mem_note _⟩
  exact List.mem_append_left _ (List.mem_of_getLast? hLast)

/-- Both accounts are there after the check. -/
theorem spec_checkAccounts {accounts : RailAccountsJson} (hInv : Inv rail pairing s)
    (hSynced : Synced s) :
    Spec deps rail pairing (checkAccounts accounts) (fun _ s' => s' = s ∧
      accounts.payee.isSome = true ∧ accounts.payer.isSome = true) s := by
  refine Spec.bind (spec_check (F := fun _ s' => s' = s ∧ accounts.payee.isSome = true) hInv hSynced
    fun hPayee => ⟨rfl, hPayee⟩) ?_
  rintro _ s' hInv' ⟨rfl, hPayee⟩
  exact spec_check hInv hSynced fun hPayer => ⟨rfl, hPayee, hPayer⟩

/-- Checking the chain clock only reads, and the clocks agree after it. -/
theorem spec_checkChainClock (hInv : Inv rail pairing s) (hSynced : Synced s) :
    Spec deps rail pairing (checkChainClock deps rail) (fun _ s' => Reads s s' ∧
      ClocksAgree rail s'.call) s := by
  -- Only the Solana rail compares the two clocks.
  refine spec_whenever hInv (fun _ => ?_) fun hNot => ⟨.refl s, fun hSol => ?_⟩
  · refine spec_read_then rfl trivial hInv hSynced fun chainMs _ hInv₁ hSynced₁ => ?_
    refine spec_read_then rfl trivial hInv₁ hSynced₁ fun localMs _ hInv₂ hSynced₂ => ?_
    by_cases hGap : |chainMs - localMs| ≤ rail.maxChainClockSkewMs
    · have hNone : chainClockProblem deps chainMs localMs rail.maxChainClockSkewMs = none :=
        if_pos hGap
      rw [hNone]
      refine spec_pure (a := ()) hInv₂ ⟨(reads_note rfl _).trans (reads_note rfl _), fun _ => ?_⟩
      exact ⟨chainMs, localMs, List.mem_append_left _ (mem_note _), mem_note _, hGap⟩
    · obtain ⟨problem, hSome⟩ : ∃ problem,
          chainClockProblem deps chainMs localMs rail.maxChainClockSkewMs = some problem :=
        ⟨_, if_neg hGap⟩
      rw [hSome]
      exact spec_fail hInv₂ hSynced₂
  · exact absurd hSol (of_decide_eq_false hNot)

-- ---------------------------------------------------------------------------
-- What a lock leaves
-- ---------------------------------------------------------------------------

/-- A fresh lock of the same ref keeps the live state recorded. -/
theorem Recorded.relocked {live : Live} (h : Recorded rail pairing live)
    {prepared fresh : PreparedLock} (hPrepared : live.preparedLock = some prepared)
    (hRef : fresh.ref = prepared.ref) :
    Recorded rail pairing { live with preparedLock := some fresh } where
  attempted hAttempted := by
    obtain ⟨p, accounts, hp, hRailRef, hRest⟩ := h.attempted hAttempted
    obtain rfl := Option.some.inj (hp.symm.trans hPrepared)
    exact ⟨fresh, accounts, rfl, by rw [hRef]; exact hRailRef, hRest⟩
  untouched hAttempted := by
    rw [(h.untouched hAttempted).1] at hPrepared
    cases hPrepared
  refundless := h.refundless
  landed := h.landed

/-- A fresh lock of the same ref puts nothing behind. -/
theorem behind_relocked {live : Live} {prepared fresh : PreparedLock}
    (hPrepared : live.preparedLock = some prepared) (hRef : fresh.ref = prepared.ref) :
    Behind live { live with preparedLock := some fresh } :=
  { Behind.refl live with
    prepared := fun p hp => by
      obtain rfl := Option.some.inj (hp.symm.trans hPrepared)
      exact ⟨fresh, rfl, hRef⟩ }

/-- A fresh lock of the same ref keeps the invariant. -/
theorem Inv.relock (h : Inv rail pairing s) {prepared fresh : PreparedLock}
    (hPrepared : s.live.preparedLock = some prepared) (hRef : fresh.ref = prepared.ref) :
    Inv rail pairing { s with live := { s.live with preparedLock := some fresh } } :=
  h.touch (h.live.relocked hPrepared hRef) (behind_relocked hPrepared hRef) rfl

/-- Evidence of the lock keeps the invariant. -/
theorem Inv.seen (h : Inv rail pairing s) (hAttempted : s.live.legALockAttempted = true)
    (evidence : WriteEvidenceJson) :
    Inv rail pairing { s with live := { s.live with lockEvidence := some evidence } } := by
  refine h.touch ⟨h.live.attempted, fun hNot => ?_, h.live.refundless, fun _ _ => rfl⟩
    { Behind.refl s.live with evidence := fun _ => rfl } rfl
  rw [hAttempted] at hNot
  cases hNot

/-- Announcing the lock posts the ref of the lock that was sent. -/
theorem spec_announceLockA {ref : String} (hInv : Inv rail pairing s) (hSynced : Synced s)
    (hFailed : s.failed = false) (hEvidence : s.live.lockEvidence.isSome = true)
    (hNames : s.live.NamesLock ref) :
    Spec deps rail pairing (announceLockA rail pairing ref) (fun _ s' => Synced s') s := by
  refine spec_look_then hInv ?_
  refine spec_whenever hInv (fun _ => ?_) fun _ => hSynced
  refine spec_read_then rfl trivial hInv hSynced fun now _ hInv₁ hSynced₁ => ?_
  refine spec_whenever hInv₁ (fun hNow => ?_) fun _ => hSynced₁
  have hStored : s.stored.state.lock.evidence = s.live.lockEvidence :=
    congrArg Live.lockEvidence (hSynced hFailed)
  refine Spec.bind (spec_ensurePosted hInv₁ hSynced₁ hFailed (spec_pure hInv₁ ⟨.refl _, ?_⟩)) ?_
  · refine ⟨?_, ⟨now, mem_note _, of_decide_eq_true hNow⟩, ref, ?_, rfl⟩
    · rw [note_stored, hStored]
      exact hEvidence
    · rw [note_stored, hSynced hFailed]
      exact hNames
  · intro _ s₂ hInv₂ _
    refine spec_save ?_ fun _ _ hSynced₂ => hSynced₂
    exact hInv₂.touch ⟨hInv₂.live.attempted, hInv₂.live.untouched, hInv₂.live.refundless,
      hInv₂.live.landed⟩
      { Behind.refl s₂.live with } rfl

/-- A timeout on the way is recorded. -/
theorem spec_recordTimeout {e : Failure} (hInv : Inv rail pairing s) (hSynced : Synced s) :
    Spec deps rail pairing (recordTimeout e) (fun _ s' => Synced s') s := by
  unfold recordTimeout
  split
  · rename_i hash
    refine spec_look_then hInv ?_
    split
    · exact spec_pure hInv hSynced
    · rename_i prepared hPrepared
      refine Spec.orElse (spec_save (hInv.relock hPrepared rfl) fun _ _ hSynced' => hSynced') ?_
      exact fun _ s' hInv' hSynced' => spec_pure hInv' hSynced'
  · exact spec_pure hInv hSynced

/-- A lock that may be sent is sent. -/
theorem spec_sendLock {prepared : PreparedLock} (hInv : Inv rail pairing s) (hSynced : Synced s)
    (hMay : MayLock deps rail pairing s prepared) (hLast : rail.approves = true →
      ∃ now, s.call.getLast? = some ⟨.clock, .ok now⟩ ∧ DeadlinesAt deps rail pairing now) :
    Spec deps rail pairing (ask (.sendLock prepared))
      (fun _ s' => Synced s' ∧ s'.live = s.live) s := by
  refine spec_ask fun r s' hDoes => ?_
  obtain ⟨-, rfl⟩ := hDoes.outside rfl
  have hInv' : Inv rail pairing (s.note (.sendLock prepared) r) := by
    refine hInv.noted (fun p hp => ?_) (fun handle hOut => .inl hOut)
      (fun hSends => absurd hSends Bool.false_ne_true) fun text answer hPost => ?_
    · obtain rfl := Option.some.inj hp
      exact hMay.ahead.prepared
    · cases (Entry.mk.inj hPost).1
  refine ⟨⟨⟨hMay, hLast⟩, .refl _, fun _ hLine => hLine⟩, ?_⟩
  cases r with
  | ok evidence => exact ⟨hInv', hSynced, rfl⟩
  | error e => exact ⟨hInv', hSynced⟩

/-- Committing the lock keeps the right to send it. -/
theorem spec_commitLock {prepared : PreparedLock} (hInv : Inv rail pairing s) (hSynced : Synced s)
    (hMay : MayLock deps rail pairing s prepared) :
    Spec deps rail pairing (commitLock deps rail pairing prepared)
      (fun _ s' => Synced s' ∧ s'.live = s.live) s := by
  unfold commitLock
  split
  · refine spec_read_then rfl ⟨prepared, hMay⟩ hInv hSynced fun _ _ hInv₁ hSynced₁ => ?_
    refine Spec.bind (spec_checkLockDeadlines hInv₁ hSynced₁) ?_
    rintro _ s₂ hInv₂ ⟨hReads, hLast⟩
    have hAll := (reads_note rfl _).trans hReads
    refine Spec.mono (spec_sendLock hInv₂ (hReads.synced hSynced₁) (hMay.reads hAll)
      fun _ => hLast) ?_
    rintro _ s₃ _ ⟨hSynced₃, hLive⟩
    exact ⟨hSynced₃, hLive.trans hAll.live⟩
  · rename_i hOne
    exact spec_sendLock hInv hSynced hMay fun hTwo => absurd hTwo hOne

/-- Sending the lock and announcing it ends synced. -/
theorem spec_sendAndAnnounce {prepared : PreparedLock} {hashLock : Shaped HEX32}
    (hInv : Inv rail pairing s) (hSynced : Synced s)
    (hMay : MayLock deps rail pairing s prepared) :
    Spec deps rail pairing (sendAndAnnounce deps rail pairing prepared hashLock)
      (fun _ s' => Synced s') s := by
  have hAttempted : s.live.legALockAttempted = true := hInv.behind.attempted hMay.ahead.attempted
  -- the send: what it throws is noted as a timeout
  have hCommit : Spec deps rail pairing (commitLockRecordingTimeout deps rail pairing prepared)
      (fun _ s' => Synced s' ∧ s'.live = s.live) s := by
    refine Spec.orElse (spec_commitLock hInv hSynced hMay) fun e s₁ hInv₁ hSynced₁ => ?_
    refine Spec.bind (spec_recordTimeout hInv₁ hSynced₁) ?_
    exact fun _ s₂ hInv₂ hSynced₂ => spec_fail hInv₂ hSynced₂
  refine Spec.bind hCommit ?_
  -- what it returns is evidence of the lock, kept and then announced
  rintro evidence s₁ hInv₁ ⟨-, hLive⟩
  refine Spec.bind (spec_keepExchanges hInv₁) ?_
  rintro _ s₂ hInv₂ ⟨⟨exchanges, hLive₂⟩, -, -⟩
  have hAttempted₂ : s₂.live.legALockAttempted = true := by
    rw [hLive₂, hLive]
    exact hAttempted
  refine Spec.bind (F := fun _ s' => Synced s' ∧ s'.failed = false ∧
    s'.live.lockEvidence = some evidence) (spec_save (hInv₂.seen hAttempted₂ evidence)
      fun hFailed _ hSynced₃ => ⟨hSynced₃, hFailed, rfl⟩) ?_
  rintro _ s₃ hInv₃ ⟨hSynced₃, hFailed, hEvidence⟩
  refine Spec.bind (spec_announceLockA hInv₃ hSynced₃ hFailed (by rw [hEvidence]; rfl)
    (.inr ⟨evidence, hEvidence, rfl⟩)) ?_
  exact fun _ s₄ hInv₄ hSynced₄ => spec_pure hInv₄ hSynced₄

/-- A lock that landed is recorded and announced. -/
theorem spec_recordLockLanded {prepared : PreparedLock} {hashLock : Shaped HEX32}
    (hInv : Inv rail pairing s) (hAttempted : s.live.legALockAttempted = true) :
    Spec deps rail pairing (recordLockLanded rail pairing prepared hashLock)
      (fun _ s' => Synced s') s := by
  refine Spec.bind (F := fun _ s' => Synced s' ∧ s'.failed = false ∧
    s'.live.lockEvidence = some (bareEvidence prepared.ref prepared.recovery))
    (spec_save (hInv.seen hAttempted _) fun hFailed _ hSynced => ⟨hSynced, hFailed, rfl⟩) ?_
  rintro _ s₁ hInv₁ ⟨hSynced₁, hFailed, hEvidence⟩
  refine Spec.bind (spec_announceLockA hInv₁ hSynced₁ hFailed (by rw [hEvidence]; rfl)
    (.inr ⟨_, hEvidence, rfl⟩)) ?_
  exact fun _ s₂ hInv₂ hSynced₂ => spec_pure hInv₂ hSynced₂

-- ---------------------------------------------------------------------------
-- A lock that was sent before
-- ---------------------------------------------------------------------------

/-- Looking for the lock on the rail only reads. -/
theorem spec_lockRecorded {ref : String} (hInv : Inv rail pairing s) (hSynced : Synced s) :
    Spec deps rail pairing (lockRecorded rail ref) (fun _ s' => Reads s s') s := by
  unfold lockRecorded
  split
  · exact spec_read rfl trivial hInv hSynced fun _ _ _ => reads_note rfl _
  · exact spec_pure hInv (.refl s)

/-- The second look after `neverLanded` only reads, and a lock not found is shown so. -/
theorem spec_lockFoundAfterNeverLanded {ref : String} {accounts : RailAccountsJson}
    (hInv : Inv rail pairing s) (hSynced : Synced s) :
    Spec deps rail pairing (lockFoundAfterNeverLanded rail ref accounts) (fun there s' =>
      Reads s s' ∧ (there = false → ∃ evidence,
        ⟨.verifyLockFinal ref accounts, .ok evidence⟩ ∈ s'.call ∧ evidence.rail = none)) s := by
  refine Spec.bind (F := fun _ s' => Reads s s') ?_ ?_
  · refine spec_whenever hInv (fun _ => ?_) fun _ => .refl s
    exact spec_read rfl trivial hInv hSynced fun _ _ _ => reads_note rfl _
  · rintro _ s₁ hInv₁ hReads₁
    refine spec_read_then rfl trivial hInv₁ (hReads₁.synced hSynced)
      fun evidence _ hInv₂ hSynced₂ => ?_
    have hReads₂ := hReads₁.trans
      (reads_note (o := .verifyLockFinal ref accounts) rfl (.ok evidence))
    split
    · exact spec_pure hInv₂ ⟨hReads₂, fun h => absurd h.symm Bool.false_ne_true⟩
    · rename_i hNone
      refine Spec.mono (spec_lockRecorded hInv₂ hSynced₂) fun there s₃ _ hReads₃ => ?_
      refine ⟨hReads₂.trans hReads₃, fun _ => ⟨evidence, hReads₃.asked _ (mem_note _), ?_⟩⟩
      simpa using hNone

/-- What is known of a lock that is to be recovered. -/
structure Recovering (s : World) (prepared : PreparedLock) : Prop where
  failed : s.failed = false
  attempted : s.live.legALockAttempted = true
  prepared : s.live.preparedLock = some prepared
  verified : s.live.legBVerified = true

/-- A recovery goes on after a read. -/
theorem Recovering.reads {prepared : PreparedLock} (h : Recovering s prepared)
    (hReads : Reads s s') : Recovering s' prepared :=
  ⟨hReads.failed.trans h.failed, by rw [hReads.live]; exact h.attempted,
    by rw [hReads.live]; exact h.prepared, by rw [hReads.live]; exact h.verified⟩

/-- A persisted attempt is written ahead. -/
theorem WriteAhead.of_saved {prepared : PreparedLock} (hInv : Inv rail pairing s)
    (hFailed : s.failed = false) (hAttempted : s.live.legALockAttempted = true)
    (hPrepared : s.live.preparedLock = some prepared) : WriteAhead pairing s.saved prepared := by
  obtain ⟨-, accounts, -, -, hHashLock, hAccounts, hPayee, hPayer⟩ := hInv.live.attempted hAttempted
  exact ⟨hFailed, hAttempted, hPrepared, hHashLock, accounts, hAccounts, hPayee, hPayer⟩

/-- A fresh lock is sent only for a ref that is dead. -/
theorem spec_lockAfresh {prepared : PreparedLock} {hashLock : Shaped HEX32}
    (hInv : Inv rail pairing s) (hSynced : Synced s) (hRecovering : Recovering s prepared)
    (hGuarded : Guarded deps rail pairing s.call) (hDead : Dead s.call prepared.ref) :
    Spec deps rail pairing (lockAfresh deps rail pairing prepared hashLock)
      (fun _ s' => Synced s') s := by
  refine spec_read_then rfl trivial hInv hSynced fun fresh _ hInv₁ hSynced₁ => ?_
  refine Spec.bind (F := fun _ s' => s' = s.note .prepareLock (.ok fresh) ∧
    fresh.ref = prepared.ref) (spec_require hInv₁ hSynced₁ fun hRef => ⟨rfl, hRef⟩) ?_
  rintro _ s₂ hInv₂ ⟨rfl, hRef⟩
  refine Spec.bind (F := fun _ s' => Synced s' ∧ MayLock deps rail pairing s' fresh)
    (spec_save (hInv₂.relock hRecovering.prepared hRef) fun hFailed hInv₃ hSynced₃ =>
      ⟨hSynced₃, ?_, ?_, hRecovering.verified, ?_⟩) ?_
  · exact WriteAhead.of_saved (hInv₂.relock hRecovering.prepared hRef) hFailed
      hRecovering.attempted rfl
  · exact hGuarded.mono fun _ h => List.mem_append_left _ h
  · refine .inr ?_
    rw [hRef]
    exact hDead.mono fun _ h => List.mem_append_left _ h
  · rintro _ s₃ hInv₃ ⟨hSynced₃, hMay⟩
    exact spec_sendAndAnnounce hInv₃ hSynced₃ hMay

/-- In a synced world the attempt under recovery is written ahead. -/
theorem WriteAhead.of_synced {prepared : PreparedLock} (hInv : Inv rail pairing s)
    (hSynced : Synced s) (hRecovering : Recovering s prepared) : WriteAhead pairing s prepared := by
  have hRecord := hSynced hRecovering.failed
  have hAttempted : s.stored.state.lock.attempted = s.live.legALockAttempted :=
    congrArg Live.legALockAttempted hRecord
  have hPrepared : s.stored.state.lock.prepared = s.live.preparedLock :=
    congrArg Live.preparedLock hRecord
  have hStored : s.stored.state.lock.attempted = true := hAttempted.trans hRecovering.attempted
  obtain ⟨-, accounts, -, -, hHashLock, hAccounts, hPayee, hPayer⟩ := hInv.stored.attempted hStored
  exact ⟨hRecovering.failed, hStored, hPrepared.trans hRecovering.prepared, hHashLock, accounts,
    hAccounts, hPayee, hPayer⟩

/-- The lock is recorded when it landed; else what is done next has its outcome to go by. -/
theorem spec_settleLock {prepared : PreparedLock} {hashLock : Shaped HEX32}
    {accounts : RailAccountsJson} {outcome : LockRecoveryOutcome} {otherwise : BuyerRoutine Locked}
    (hInv : Inv rail pairing s) (hSynced : Synced s)
    (hAttempted : s.live.legALockAttempted = true)
    (hOtherwise : ∀ s', Inv rail pairing s' → Reads s s' →
      (outcome = .unknown ∨ outcome = .neverLanded ∧ ∃ evidence,
        ⟨.verifyLockFinal prepared.ref accounts, .ok evidence⟩ ∈ s'.call ∧ evidence.rail = none) →
      Spec deps rail pairing otherwise (fun _ s' => Synced s') s') :
    Spec deps rail pairing (settleLock rail pairing prepared hashLock accounts outcome otherwise)
      (fun _ s' => Synced s') s := by
  cases outcome with
  | landed => exact spec_recordLockLanded hInv hAttempted
  | pending => exact spec_fail hInv hSynced
  | neverLanded =>
    refine Spec.bind (spec_lockFoundAfterNeverLanded hInv hSynced) ?_
    rintro there s₁ hInv₁ ⟨hReads, hThere⟩
    cases there with
    | true => exact spec_recordLockLanded hInv₁ (by rw [hReads.live]; exact hAttempted)
    | false => exact hOtherwise s₁ hInv₁ hReads (.inr ⟨rfl, hThere rfl⟩)
  | unknown => exact hOtherwise s hInv (.refl s) (.inl rfl)

/-- The same bytes are sent again. -/
theorem spec_resendLock {prepared : PreparedLock} (hInv : Inv rail pairing s) (hSynced : Synced s)
    (hRecovering : Recovering s prepared) (hGuarded : Guarded deps rail pairing s.call)
    (hUnknown : ⟨.recoverLock prepared, .ok .unknown⟩ ∈ s.call) :
    Spec deps rail pairing (ask (.resendLock prepared)) (fun outcome s' => outcome ≠ .unknown ∧
      s' = s.note (.resendLock prepared) (.ok outcome)) s := by
  have hAhead := WriteAhead.of_synced hInv hSynced hRecovering
  refine spec_ask fun r s' hDoes => ?_
  obtain ⟨hAnswers, rfl⟩ := hDoes.outside rfl
  have hInv' : Inv rail pairing (s.note (.resendLock prepared) r) := by
    refine hInv.noted (fun p hp => ?_) (fun handle hOut => .inl hOut)
      (fun hSends => absurd hSends Bool.false_ne_true) fun text answer hPost => ?_
    · obtain rfl := Option.some.inj hp
      exact hAhead.prepared
    · cases (Entry.mk.inj hPost).1
  refine ⟨⟨⟨hAhead, hGuarded, hRecovering.verified, hUnknown⟩, .refl _, fun _ hLine => hLine⟩, ?_⟩
  cases r with
  | ok outcome => exact ⟨hInv', hAnswers outcome rfl, rfl⟩
  | error e => exact ⟨hInv', hSynced⟩

/-- An unknown lock is resent under its own ref. -/
theorem spec_resendUnknown {prepared : PreparedLock} {hashLock : Shaped HEX32}
    {accounts : RailAccountsJson} {outcome : LockRecoveryOutcome}
    (hInv : Inv rail pairing s) (hSynced : Synced s) (hRecovering : Recovering s prepared)
    (hGuarded : Guarded deps rail pairing s.call)
    (hOutcome : ⟨.recoverLock prepared, .ok outcome⟩ ∈ s.call)
    (hKnown : outcome = .unknown ∨ outcome = .neverLanded ∧ ∃ evidence,
      ⟨.verifyLockFinal prepared.ref accounts, .ok evidence⟩ ∈ s.call ∧ evidence.rail = none) :
    Spec deps rail pairing (resendUnknown deps rail pairing prepared hashLock accounts outcome)
      (fun _ s' => Synced s') s := by
  unfold resendUnknown
  split
  -- the rail does not know the lock: the recorded bytes are sent once more
  · rename_i hUnknown
    subst hUnknown
    refine Spec.bind (F := fun _ s' => s' = s) (spec_require hInv hSynced fun _ => rfl) ?_
    rintro _ s₁ hInv₁ rfl
    refine Spec.bind (spec_resendLock hInv hSynced hRecovering hGuarded hOutcome) ?_
    rintro outcome s₂ hInv₂ ⟨hKnown, rfl⟩
    refine spec_settleLock hInv₂ hSynced hRecovering.attempted fun s₃ hInv₃ hReads hDead => ?_
    have hSaid := hReads.asked _ (mem_note _)
    -- a resend is answered by something it knows
    rcases hDead with rfl | ⟨rfl, hEvidence⟩
    · exact absurd rfl hKnown
    -- and one that never landed leaves room for a fresh lock
    · have hCall : ∀ entry ∈ s₁.call, entry ∈ s₃.call := fun _ hEntry =>
        hReads.asked _ (List.mem_append_left _ hEntry)
      have hNoted : Recovering (s₁.note (.resendLock prepared) (.ok .neverLanded)) prepared :=
        ⟨hRecovering.failed, hRecovering.attempted, hRecovering.prepared, hRecovering.verified⟩
      exact spec_lockAfresh hInv₃ (hReads.synced hSynced) (hNoted.reads hReads)
        (hGuarded.mono hCall) ⟨⟨prepared, rfl, .inr hSaid⟩, accounts, hEvidence⟩
  -- the rail has said itself that the lock never landed
  · rename_i hNot
    rcases hKnown with rfl | ⟨rfl, hEvidence⟩
    · exact absurd rfl hNot
    · exact spec_lockAfresh hInv hSynced hRecovering hGuarded
        ⟨⟨prepared, rfl, .inl hOutcome⟩, accounts, hEvidence⟩

/-- The recovery of a lock ends synced. -/
theorem spec_recoverLockA (hInv : Inv rail pairing s) (hSynced : Synced s)
    (hFailed : s.failed = false) (hAttempted : s.live.legALockAttempted = true)
    (hVerified : s.live.legBVerified = true) :
    Spec deps rail pairing (recoverLockA deps rail pairing s.live) (fun _ s' => Synced s') s := by
  refine Spec.bind (F := fun prepared s' => s' = s ∧ s.live.preparedLock = some prepared)
    (spec_found hInv hSynced fun _ hPrepared => ⟨rfl, hPrepared⟩) ?_
  rintro prepared s₁ hInv₁ ⟨rfl, hPrepared⟩
  refine Spec.bind (F := fun _ s' => s' = s₁) (spec_found hInv hSynced fun _ _ => rfl) ?_
  rintro hashLock s₂ hInv₂ rfl
  refine Spec.bind (F := fun accounts s' => s' = s₂ ∧ s₂.live.lockedAccounts = some accounts)
    (spec_found hInv hSynced fun _ hAccounts => ⟨rfl, hAccounts⟩) ?_
  rintro accounts s₃ hInv₃ ⟨rfl, hAccounts⟩
  have hRecovering : Recovering s₃ prepared := ⟨hFailed, hAttempted, hPrepared, hVerified⟩
  refine spec_read_then rfl trivial hInv hSynced fun _ _ hInv₄ hSynced₄ => ?_
  refine spec_read_then rfl trivial hInv₄ hSynced₄ fun outcome _ hInv₅ hSynced₅ => ?_
  refine spec_settleLock hInv₅ hSynced₅ hAttempted fun s₆ hInv₆ hReads₆ hKnown => ?_
  -- a new action follows: every guard first
  have hSynced₆ := hReads₆.synced hSynced₅
  refine Spec.bind (spec_checkLockGuards hInv₆ hSynced₆) ?_
  rintro _ s₇ hInv₇ ⟨hReads₇, hLooked⟩
  have hSynced₇ := hReads₇.synced hSynced₆
  refine Spec.bind (spec_checkAccounts hInv₇ hSynced₇) ?_
  rintro _ s₈ hInv₈ ⟨rfl, -⟩
  refine Spec.bind (spec_checkChainClock hInv₇ hSynced₇) ?_
  rintro _ s₉ hInv₉ ⟨hReads₉, hClocks⟩
  have hReads := hReads₆.trans (hReads₇.trans hReads₉)
  refine spec_resendUnknown hInv₉ (hReads₉.synced hSynced₇) ?_
    (hLooked.guarded hReads₉.asked hClocks) (hReads.asked _ (mem_note _)) ?_
  · exact (hRecovering.reads ((reads_note rfl _).trans (reads_note rfl _))).reads hReads
  · refine hKnown.imp_right fun ⟨hNever, evidence, hRead, hNone⟩ => ⟨hNever, evidence, ?_, hNone⟩
    exact hReads₉.asked _ (hReads₇.asked _ hRead)

-- ---------------------------------------------------------------------------
-- The calls
-- ---------------------------------------------------------------------------

/-- The first lock ends synced. -/
theorem spec_lockFirst (hInv : Inv rail pairing s) (hSynced : Synced s)
    (hFailed : s.failed = false) (hAttempted : s.live.legALockAttempted = false)
    (hVerified : s.live.legBVerified = true) :
    Spec deps rail pairing (lockFirst deps rail pairing) (fun _ s' => Synced s') s := by
  have hNone := hInv.nothingSent hAttempted
  -- the guards, the accounts and the clocks, all read in this call
  refine Spec.bind (spec_checkLockGuards hInv hSynced) ?_
  rintro _ s₁ hInv₁ ⟨hReads₁, hLooked⟩
  have hSynced₁ := hReads₁.synced hSynced
  refine spec_read_then rfl trivial hInv₁ hSynced₁ fun records _ hInv₂ hSynced₂ => ?_
  have hReads₂ := hReads₁.trans (reads_note (o := .read pairing.acceptA.contract) rfl (.ok records))
  refine Spec.bind (F := fun _ s' => s' = s₁.note (.read pairing.acceptA.contract) (.ok records))
    (spec_ofExcept hInv₂ hSynced₂ fun _ _ => rfl) ?_
  rintro accounts s₃ hInv₃ rfl
  refine Spec.bind (spec_checkAccounts hInv₃ hSynced₂) ?_
  rintro _ s₄ hInv₄ ⟨rfl, hPayee, hPayer⟩
  refine spec_read_then rfl trivial hInv₃ hSynced₂ fun _ _ hInv₅ hSynced₅ => ?_
  refine Spec.bind (spec_checkChainClock hInv₅ hSynced₅) ?_
  rintro _ s₆ hInv₆ ⟨hReads₆, hClocks⟩
  have hSynced₆ := hReads₆.synced hSynced₅
  -- then the block to search from, and the lock that is prepared
  refine spec_read_then rfl trivial hInv₆ hSynced₆ fun marker _ hInv₇ hSynced₇ => ?_
  refine spec_read_then rfl trivial hInv₇ hSynced₇ fun prepared _ hInv₈ hSynced₈ => ?_
  have hReads₈ : Reads s
      ((s₆.note .currentBlockMarker (.ok marker)).note .prepareLock (.ok prepared)) :=
    (hReads₂.trans ((reads_note rfl _).trans hReads₆)).trans
      ((reads_note rfl _).trans (reads_note rfl _))
  have hLive := hReads₈.live
  have hUntouched := hInv.live.untouched hAttempted
  -- the attempt is on record before anything is sent
  refine Spec.bind (F := fun _ s' => Synced s' ∧ MayLock deps rail pairing s' prepared)
    (spec_save ?_ fun _ hInv₉ hSynced₉ => ⟨hSynced₉, ?_⟩) ?_
  · refine hInv₈.touch ⟨fun _ => ⟨prepared, accounts, rfl, rfl, rfl, rfl, hPayee, hPayer⟩,
      fun h => absurd h.symm Bool.false_ne_true, ?_, ?_⟩ ?_ rfl
    · exact hInv₈.live.refundless
    · exact hInv₈.live.landed
    · rw [hLive]
      exact
        { Behind.refl s.live with
          attempted := fun _ => rfl
          prepared := fun p hp => by rw [hUntouched.1] at hp; cases hp
          accounts := fun a ha => by rw [hUntouched.2.2.2.1] at ha; cases ha }
  -- so the lock may be sent
  · refine ⟨⟨hReads₈.failed.trans hFailed, rfl, rfl, rfl, accounts, rfl, hPayee, hPayer⟩, ?_, ?_,
      .inl (hReads₈.sent.trans hNone)⟩
    · refine hLooked.guarded ?_ ?_
      · exact ((reads_note rfl _).trans ((reads_note rfl _).trans (hReads₆.trans
          ((reads_note rfl _).trans (reads_note rfl _))))).asked
      · intro hSol
        obtain ⟨chainMs, localMs, hChain, hLocal, hGap⟩ := hClocks hSol
        have hCall := ((reads_note (s := s₆) (o := .currentBlockMarker) rfl (.ok marker)).trans
          (reads_note (o := .prepareLock) rfl (.ok prepared))).asked
        exact ⟨chainMs, localMs, hCall _ hChain, hCall _ hLocal, hGap⟩
    · exact (congrArg Live.legBVerified hLive).trans hVerified
  · rintro _ s₉ hInv₉ ⟨hSynced₉, hMay⟩
    exact spec_sendAndAnnounce hInv₉ hSynced₉ hMay

/-- Locking leg A ends synced. -/
theorem spec_lockLegA (hInv : Inv rail pairing s) (hSynced : Synced s) :
    Spec deps rail pairing (lockLegA deps rail pairing) (fun _ s' => Synced s') s := by
  refine Spec.bind (F := fun _ s' => s' = s ∧ s.failed = false)
    (spec_usable hInv fun hFailed => ⟨rfl, hFailed⟩) ?_
  rintro _ s₁ hInv₁ ⟨rfl, hFailed⟩
  refine spec_look_then hInv ?_
  refine Spec.bind (F := fun _ s' => s' = s₁) (spec_check hInv hSynced fun _ => rfl) ?_
  rintro _ s₂ hInv₂ rfl
  refine Spec.bind (F := fun _ s' => s' = s₂ ∧ s₂.live.legBVerified = true)
    (spec_check hInv hSynced fun hVerified => ⟨rfl, hVerified⟩) ?_
  rintro _ s₃ hInv₃ ⟨rfl, hVerified⟩
  -- a lock with evidence is only announced
  split
  · rename_i evidence hashLock hEvidence _
    refine Spec.bind (spec_announceLockA hInv hSynced hFailed (by rw [hEvidence]; rfl)
      (.inr ⟨evidence, hEvidence, rfl⟩)) ?_
    exact fun _ s₄ hInv₄ hSynced₄ => spec_pure hInv₄ hSynced₄
  -- an attempted one is recovered, otherwise this is the first
  · split
    · rename_i hAttempted
      exact spec_recoverLockA hInv hSynced hFailed hAttempted hVerified
    · rename_i hAttempted
      exact spec_lockFirst hInv hSynced hFailed (by simpa using hAttempted) hVerified

/-- A lock that was seen is recorded. -/
theorem spec_recordLockSeen {ref : String} (hInv : Inv rail pairing s) (hSynced : Synced s)
    (hFailed : s.failed = false) (hAttempted : s.live.legALockAttempted = true) :
    Spec deps rail pairing (recordLockSeen ref) (fun _ s' => Synced s' ∧ s'.failed = false ∧
      s'.live.lockEvidence.isSome = true ∧ ∃ evidence, s'.live =
        { s.live with lockEvidence := some evidence } ∧ s'.call = s.call) s := by
  refine spec_look_then hInv ?_
  refine spec_whenever hInv (fun _ => ?_) fun hSome => ?_
  · refine spec_save (hInv.seen hAttempted _) fun hFailed' _ hSynced' =>
      ⟨hSynced', hFailed', rfl, _, rfl, rfl⟩
  · obtain ⟨evidence, hEvidence⟩ := Option.isSome_iff_exists.mp (by simpa using hSome)
    refine ⟨hSynced, hFailed, by rw [hEvidence]; rfl, evidence, ?_, rfl⟩
    rw [← hEvidence]

/-- Reconciling the lock ends synced. -/
theorem spec_reconcileLockA (hInv : Inv rail pairing s) (hSynced : Synced s) :
    Spec deps rail pairing (reconcileLockA rail pairing) (fun _ s' => Synced s') s := by
  -- the lock is recorded and its frame posted, as far as the rail has seen it
  have hTell : ∀ {s : World} {ref : String} {result : Reconciled}, Inv rail pairing s → Synced s →
      s.failed = false → s.live.legALockAttempted = true → s.live.railRef = some ref →
      Spec deps rail pairing (do
        recordLockSeen ref
        announceLockA rail pairing ref
        return result) (fun _ s' => Synced s') s := by
    intro s ref result hInv hSynced hFailed hAttempted hRef
    refine Spec.bind (spec_recordLockSeen hInv hSynced hFailed hAttempted) ?_
    rintro _ s₁ hInv₁ ⟨hSynced₁, hFailed₁, hEvidence, _, hLive, -⟩
    refine Spec.bind (spec_announceLockA hInv₁ hSynced₁ hFailed₁ hEvidence ?_) ?_
    · rw [hLive]
      exact .inl hRef
    exact fun _ s₂ hInv₂ hSynced₂ => spec_pure hInv₂ hSynced₂
  refine Spec.bind (F := fun _ s' => s' = s ∧ s.failed = false)
    (spec_usable hInv fun hFailed => ⟨rfl, hFailed⟩) ?_
  rintro _ s₁ hInv₁ ⟨rfl, hFailed⟩
  refine spec_look_then hInv ?_
  refine Spec.bind (F := fun _ s' => s' = s₁ ∧ s₁.live.legALockAttempted = true)
    (spec_check hInv hSynced fun hAttempted => ⟨rfl, hAttempted⟩) ?_
  rintro _ s₂ hInv₂ ⟨rfl, hAttempted⟩
  split
  · rename_i ref accounts hRef _
    have hRailRef : s₂.live.railRef = some ref := by
      unfold Live.railRef
      rw [hRef]
      rfl
    refine spec_read_then rfl trivial hInv hSynced fun _ _ hInv₃ hSynced₃ => ?_
    refine spec_read_then rfl trivial hInv₃ hSynced₃ fun evidence _ hInv₄ hSynced₄ => ?_
    split
    · exact hTell hInv₄ hSynced₄ hFailed hAttempted hRailRef
    · refine Spec.bind (spec_lockRecorded hInv₄ hSynced₄) ?_
      rintro recorded s₅ hInv₅ hReads
      have hSynced₅ := hReads.synced hSynced₄
      cases recorded with
      | true =>
        refine hTell hInv₅ hSynced₅ (hReads.failed.trans hFailed) ?_ ?_
        · rw [hReads.live]
          exact hAttempted
        · rw [hReads.live]
          exact hRailRef
      | false => exact spec_pure hInv₅ hSynced₅
  · exact spec_pure hInv hSynced

end

end SwapDesk.Client.Buyer
