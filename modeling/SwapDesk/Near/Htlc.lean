import SwapDesk.Lib.Htlc
import SwapDesk.Near.Safety

/-!
# SwapDesk — the NEAR contract as a hash time lock

A lock is claimed for good as soon as its preimage is out, whatever becomes of the transfer, and
refunded when the refund's transfer has been made. In between, while a refund is under way, it can
still fail, and counts as locked.

Main result: `lock_refines_htlc`.
-/

namespace SwapDesk.Near

structure Terms where
  hashLock : String
  payer : AccountId
  payee : AccountId
  token : AccountId
  amount : Nat
  claimByMs : Nat
  refundAfterMs : Nat
deriving DecidableEq

def Lock.terms (l : Lock) (hashLock : String) : Terms :=
  ⟨hashLock, l.payer, l.payee, l.token, l.amount, l.claimByMs, l.refundAfterMs⟩

def Lock.phase (l : Lock) : Htlc.Phase Bytes32 :=
  if l.revealed then .claimed l.preimage
  else if l.status = .refunded then .refunded
  else .locked

def rules (host : Host) : Htlc.Rules Terms Bytes32 ℤ where
  refundAfter terms := terms.refundAfterMs
  opens terms secret := hexEncode (host.sha256 secret.bytes) = terms.hashLock

def viewOf (hashLock : String) (lock : Option Lock) : Option (Htlc.Lock Terms Bytes32) :=
  lock.map fun l => ⟨l.terms hashLock, l.phase⟩

def State.view (s : State) (payer : AccountId) (hashLock : String) :
    Option (Htlc.Lock Terms Bytes32) :=
  viewOf hashLock (s.lock? payer hashLock)

section

variable {host : Host} {usdcToken payer : AccountId} {hashLock : String} {nowMs : Nat}
  {lock lock' : Option Lock} {new : List (Promise × Nat)} {s s' : State}

-- ---------------------------------------------------------------------------
-- Refunds under way
-- ---------------------------------------------------------------------------

/-- A refund is under way or made only after its time, with the preimage never out. -/
def RefundsLate (nowMs : Nat) (lock : Option Lock) : Prop :=
  ∀ l, lock = some l → l.status = .refunding ∨ l.status = .refunded →
    l.refundAfterMs ≤ nowMs ∧ l.revealed = false

/-- What refunds late refunds late at any later time. -/
theorem RefundsLate.mono {nowMs' : Nat} (h : RefundsLate nowMs lock) (hNow : nowMs ≤ nowMs') :
    RefundsLate nowMs' lock := by
  intro l hLock hStatus
  obtain ⟨hLate, hHidden⟩ := h l hLock hStatus
  exact ⟨hLate.trans hNow, hHidden⟩

/-- A step of a lock refunds late. -/
theorem LockStep.refundsLate (hStep : LockStep host nowMs hashLock lock lock' new)
    (h : RefundsLate nowMs lock) : RefundsLate nowMs lock' := by
  intro l' hLock' hStatus
  cases hStep with
  | stay => exact h l' hLock' hStatus
  | opened l hLocked hHidden _ =>
    obtain rfl := Option.some.inj hLock'
    rw [hLocked] at hStatus
    rcases hStatus with hStatus | hStatus <;> cases hStatus
  | claiming l secret _ _ =>
    obtain rfl := Option.some.inj hLock'
    rcases hStatus with hStatus | hStatus <;> cases hStatus
  | refunding l _ hHidden hLate =>
    obtain rfl := Option.some.inj hLock'
    exact ⟨hLate, hHidden⟩
  | resolved l exit ok hLeaving =>
    obtain rfl := Option.some.inj hLock'
    cases exit with
    | claim => cases ok <;> rcases hStatus with hStatus | hStatus <;> cases hStatus
    | refund => exact h l rfl (.inl hLeaving)

/-- An event happens at its time. -/
theorem nowMs_of_step (hReach : (system host usdcToken).Reachable s) {e : Event}
    (hStep : (system host usdcToken).step s e s') : s.nowMs ≤ e.atMs ∧ s'.nowMs = e.atMs := by
  obtain ⟨hNow, hAct⟩ := act_of_step hStep
  refine ⟨hNow, ?_⟩
  cases effect_of_act ((inv_of_reachable hReach).at e.atMs) hAct <;> rfl

/-- Every lock reached refunds late. -/
theorem refundsLate (hReach : (system host usdcToken).Reachable s) (payer : AccountId)
    (hashLock : String) : RefundsLate s.nowMs (s.lock? payer hashLock) := by
  refine Machine.invariant (P := fun s => RefundsLate s.nowMs (s.lock? payer hashLock))
    (fun s hInit l hLock _ => ?_) (fun s e s' hReach h hStep => ?_) hReach
  · rw [State.lock?, hInit.contract] at hLock
    cases hLock
  · obtain ⟨new, hLockStep, -⟩ := lockStep_of_step payer hashLock hReach hStep
    obtain ⟨hNow, hAt⟩ := nowMs_of_step hReach hStep
    rw [hAt]
    exact hLockStep.refundsLate (h.mono hNow)

-- ---------------------------------------------------------------------------
-- Locks as hash time locks
-- ---------------------------------------------------------------------------

/-- A lock that was revealed is claimed. -/
theorem phase_of_revealed {l : Lock} (h : l.revealed = true) : l.phase = .claimed l.preimage :=
  if_pos h

/-- A lock that is neither revealed nor refunded is open. -/
theorem phase_of_hidden {l : Lock} (hHidden : l.revealed = false) (hOpen : l.status ≠ .refunded) :
    l.phase = .locked := by
  unfold Lock.phase
  rw [hHidden, if_neg Bool.false_ne_true, if_neg hOpen]

/-- A lock that has left nothing but its status changed is in the same phase. -/
theorem phase_resolved {l : Lock} (hBefore : l.status ≠ .refunded) (status : LockStatus)
    (hAfter : status ≠ .refunded) : ({ l with status := status } : Lock).phase = l.phase := by
  unfold Lock.phase
  rw [if_neg hBefore, if_neg hAfter]

/-- What an event does to a lock is nothing, or a step of a hash time lock. -/
theorem LockStep.steps (hStep : LockStep host nowMs hashLock lock lock' new)
    (hLate : RefundsLate nowMs lock)
    (hOpens : ∀ l', lock' = some l' → l'.revealed = true →
      hexEncode (host.sha256 l'.preimage.bytes) = hashLock) :
    Htlc.Steps (rules host) (nowMs : ℤ) (viewOf hashLock lock) (viewOf hashLock lock') := by
  cases hStep with
  | stay => exact .refl
  | opened l hLocked hHidden hWindow =>
    have hPhase := phase_of_hidden hHidden (by rw [hLocked]; decide)
    show Htlc.Steps _ _ none (some ⟨l.terms hashLock, l.phase⟩)
    rw [hPhase]
    exact .single (.lock _ (Int.ofNat_lt.mpr hWindow))
  | claiming l secret hLocked hWindow =>
    have hOpensSecret := hOpens _ rfl rfl
    show Htlc.Steps _ _ (some ⟨l.terms hashLock, l.phase⟩)
      (some ⟨l.terms hashLock, .claimed secret⟩)
    -- a first claim is made in time, a later one finds the secret out
    cases hRevealed : l.revealed with
    | false =>
      rw [hRevealed] at hWindow
      have hBefore := hWindow.resolve_right Bool.false_ne_true
      rw [phase_of_hidden hRevealed (by rw [hLocked]; decide)]
      exact .single (.claim _ secret (Int.ofNat_lt.mpr hBefore) hOpensSecret)
    | true =>
      rw [phase_of_revealed hRevealed]
      exact .single (.again _ l.preimage secret hOpensSecret)
  | refunding l hLocked hHidden _ =>
    show Htlc.Steps _ _ (some ⟨l.terms hashLock, l.phase⟩)
      (some ⟨l.terms hashLock, ({ l with status := .refunding } : Lock).phase⟩)
    have hOpen : l.status ≠ .refunded := by
      rw [hLocked]
      decide
    rw [phase_resolved hOpen .refunding (by decide)]
  | resolved l exit ok hLeaving =>
    have hOpen : l.status ≠ .refunded := by
      rw [hLeaving]
      cases exit <;> decide
    show Htlc.Steps _ _ (some ⟨l.terms hashLock, l.phase⟩)
      (some ⟨l.terms hashLock, ({ l with status := resolvedStatus exit ok } : Lock).phase⟩)
    by_cases hAfter : resolvedStatus exit ok = .refunded
    · -- only the transfer of a refund closes a lock so
      have hRefunding : l.status = .refunding := by
        cases exit with
        | claim => cases ok <;> cases hAfter
        | refund => exact hLeaving
      obtain ⟨hTime, hHidden⟩ := hLate l rfl (.inl hRefunding)
      rw [phase_of_hidden hHidden hOpen, hAfter]
      have hPhase : ({ l with status := .refunded } : Lock).phase = .refunded := by
        unfold Lock.phase
        rw [hHidden, if_neg Bool.false_ne_true, if_pos rfl]
      rw [hPhase]
      exact .single (.refund _ (Int.ofNat_le.mpr hTime))
    · rw [phase_resolved hOpen _ hAfter]

/-- The contract refines the abstract lock. -/
theorem refines (host : Host) (usdcToken payer : AccountId) (hashLock : String) :
    Htlc.Refines (system host usdcToken) (rules host) (fun s => (s.nowMs : ℤ))
      (fun s => s.view payer hashLock) where
  init s hInit := by
    show viewOf hashLock (s.lock? payer hashLock) = none
    rw [State.lock?, hInit.contract]
    rfl
  time s e s' hReach hStep := by
    obtain ⟨hNow, hAt⟩ := nowMs_of_step hReach hStep
    exact Int.ofNat_le.mpr (hNow.trans_eq hAt.symm)
  step s e s' hReach hStep := by
    obtain ⟨new, hLockStep, -⟩ := lockStep_of_step payer hashLock hReach hStep
    obtain ⟨hNow, hAt⟩ := nowMs_of_step hReach hStep
    have hLate := (refundsLate hReach payer hashLock).mono hNow
    rw [hAt]
    refine hLockStep.steps hLate fun l' hLock' => ?_
    have hLife := (inv_of_reachable (hReach.step hStep)).life payer hashLock
    rw [hLock'] at hLife
    exact hLife.stored.opens

-- ---------------------------------------------------------------------------
-- What the contract accepts
-- ---------------------------------------------------------------------------

/-- A lock that counts as locked is locked, or a refund is under way. -/
theorem status_of_locked (hReach : (system host usdcToken).Reachable s) {l : Lock}
    (hLock : s.lock? payer hashLock = some l) (hPhase : l.phase = .locked) :
    l.revealed = false ∧ (l.status = .locked ∨ l.status = .refunding) := by
  -- the life of a lock leaves two ways to be locked for everybody else
  have hLife := (inv_of_reachable hReach).life payer hashLock
  rw [hLock] at hLife
  have hHidden : l.revealed = false := by
    cases hRevealed : l.revealed with
    | false => rfl
    | true =>
      rw [phase_of_revealed hRevealed] at hPhase
      cases hPhase
  -- a lock without its secret out is never left by a claim
  have hNoClaim : ∀ exit, l.AgreesWith exit → exit = .refund := by
    intro exit hAgrees
    cases exit with
    | refund => rfl
    | claim => exact absurd (hAgrees.mpr rfl) (by rw [hHidden]; exact Bool.false_ne_true)
  refine ⟨hHidden, ?_⟩
  generalize s.pendingFor payer hashLock = ts at hLife
  generalize s.paidFor payer hashLock = ps at hLife
  cases hLife with
  | locked _ hStatus => exact .inl hStatus
  | leaving exit _ hStatus hAgrees _ =>
    rw [hNoClaim exit hAgrees] at hStatus
    exact .inr hStatus
  | closed exit _ hStatus hAgrees =>
    have hRefunded : l.status = .refunded := by
      rw [hStatus, hNoClaim exit hAgrees]
      rfl
    unfold Lock.phase at hPhase
    rw [hHidden, if_neg Bool.false_ne_true, if_pos hRefunded] at hPhase
    cases hPhase

/-- What a claim needs to go through. -/
theorem claim_of_locked {ctx : Ctx} {self : Contract} {l : Lock} {secret : Bytes32}
    (hStored : self.locks (lockKey payer hashLock) = some l) (hLocked : l.status = .locked)
    (hWindow : ctx.blockTimestampMs < l.refundAfterMs)
    (hOpens : hexEncode (host.sha256 secret.bytes) = hashLock) :
    ∃ result, self.claim host ctx hashLock payer (hexEncode secret.bytes) = .ok result := by
  unfold Contract.claim
  dsimp only
  rw [hStored]
  dsimp only
  rw [if_neg (not_not.mpr hLocked), if_neg (not_not.mpr (.inl hWindow)), decodeHex_hexEncode]
  dsimp only
  rw [dif_pos secret.length_eq, if_neg (not_not.mpr hOpens)]
  exact ⟨_, rfl⟩

/-- What a refund needs to go through. -/
theorem refund_of_locked {ctx : Ctx} {self : Contract} {l : Lock}
    (hStored : self.locks (lockKey ctx.predecessorAccountId hashLock) = some l)
    (hPayer : ctx.predecessorAccountId = l.payer) (hLocked : l.status = .locked)
    (hHidden : l.revealed = false) (hWindow : l.refundAfterMs ≤ ctx.blockTimestampMs) :
    ∃ result, self.refund ctx hashLock = .ok result := by
  unfold Contract.refund
  dsimp only
  rw [hStored]
  dsimp only
  rw [if_neg (not_not.mpr hPayer), if_neg (not_not.mpr hLocked), hHidden,
    if_neg Bool.false_ne_true, if_neg (not_not.mpr hWindow)]
  exact ⟨_, rfl⟩

/-- What calls do about a lock that counts as locked. -/
structure Exits (host : Host) (s : State) (payer : AccountId) (hashLock : String) (terms : Terms) :
    Prop where
  /-- Before the refund time anybody who has the secret can claim it for the payee. -/
  claim : ∀ (ctx : Ctx) (secret : Bytes32), s.nowMs ≤ ctx.blockTimestampMs →
    ctx.blockTimestampMs < terms.refundAfterMs →
    hexEncode (host.sha256 secret.bytes) = terms.hashLock → ∃ contract event promise,
      s.contract.claim host ctx hashLock payer (hexEncode secret.bytes) =
        .ok (contract, event, promise) ∧
      promise.receiverId = terms.payee ∧ promise.amount = terms.amount
  /-- From the refund time on the payer can take it back, or is about to get it. -/
  refund : ∀ ctx : Ctx, ctx.predecessorAccountId = payer →
    terms.refundAfterMs ≤ ctx.blockTimestampMs →
    (∃ t, s.pendingFor payer hashLock = [t] ∧ t.promise.exit = .refund) ∨
    ∃ contract event promise, s.contract.refund ctx hashLock = .ok (contract, event, promise) ∧
      promise.receiverId = terms.payer ∧ promise.amount = terms.amount

/-- An open lock can be claimed in its window and refunded after it. -/
theorem exits (hReach : (system host usdcToken).Reachable s) {terms : Terms}
    (hView : s.view payer hashLock = some ⟨terms, .locked⟩) : Exits host s payer hashLock terms := by
  obtain ⟨l, hLock, hIs⟩ := Option.map_eq_some_iff.mp hView
  obtain ⟨rfl, hPhase⟩ := Htlc.Lock.mk.inj hIs
  have hLife := (inv_of_reachable hReach).life payer hashLock
  rw [hLock] at hLife
  have hPayer := hLife.stored.payer
  obtain ⟨hHidden, hStatus⟩ := status_of_locked hReach hLock hPhase
  have hStored : s.contract.locks (lockKey payer hashLock) = some l := hLock
  refine ⟨fun ctx secret hNow hWindow hOpens => ?_, fun ctx hPredecessor hWindow => ?_⟩
  -- a refund that is under way was called after the time of the refund, so no claim is in time
  · have hLocked : l.status = .locked := by
      refine hStatus.resolve_right fun hRefunding => ?_
      have hLate := (refundsLate hReach payer hashLock l hLock (.inl hRefunding)).1
      exact absurd (hLate.trans hNow) (not_le.mpr hWindow)
    obtain ⟨⟨contract, event, promise⟩, hClaim⟩ := claim_of_locked hStored hLocked hWindow hOpens
    obtain ⟨l', -, hStored', -, -, -, -, -, rfl⟩ := claim_spec hClaim
    obtain rfl : l = l' := Option.some.inj (hStored.symm.trans hStored')
    exact ⟨contract, event, _, hClaim, rfl, rfl⟩
  -- it is refunded by this call, or its refund is on the way
  · rcases hStatus with hLocked | hRefunding
    · subst hPredecessor
      obtain ⟨⟨contract, event, promise⟩, hRefund⟩ :=
        refund_of_locked hStored hPayer.symm hLocked hHidden hWindow
      obtain ⟨l', hStored', -, -, -, -, -, rfl⟩ := refund_spec hRefund
      obtain rfl : l = l' := Option.some.inj (hStored.symm.trans hStored')
      exact .inr ⟨contract, event, _, hRefund, rfl, rfl⟩
    · exact .inl ((hLife.leaving_iff .refund).mp hRefunding)

/-- Every lock of the contract is a hash time lock, in all interleavings with its token and its
promises, and the contract lets it be claimed and refunded whenever that is so. -/
theorem lock_refines_htlc (host : Host) (usdcToken payer : AccountId) (hashLock : String) :
    Htlc.Refines (system host usdcToken) (rules host) (fun s => (s.nowMs : ℤ))
      (fun s => s.view payer hashLock) ∧
    ∀ s terms, (system host usdcToken).Reachable s →
      s.view payer hashLock = some ⟨terms, .locked⟩ → Exits host s payer hashLock terms :=
  ⟨refines host usdcToken payer hashLock, fun _ _ hReach hView => exits hReach hView⟩

end

end SwapDesk.Near
