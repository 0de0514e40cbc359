import SwapDesk.Lib.Htlc
import SwapDesk.Sol.Safety

/-!
# SwapDesk — the Solana escrow as a hash time lock

The escrow at an address is made, claimed and refunded as a hash time lock, by the clock of the
chain in milliseconds. An instruction whose clock overflows on the way to milliseconds fails, so
none that succeeds is about another time.

Main result: `escrow_refines_htlc`.
-/

namespace SwapDesk.Sol

structure Terms where
  hashLock : Bytes32
  payer : Pubkey
  payee : Pubkey
  mint : Pubkey
  amount : UInt64
  claimByMs : Int64
  refundAfterMs : Int64
deriving DecidableEq

def EscrowView.terms (view : EscrowView) : Terms :=
  ⟨view.escrow.hashLock, view.escrow.payer, view.escrow.payee, view.escrow.mint,
    view.escrow.amount, view.claimByMs, view.escrow.refundAfterMs⟩

def EscrowView.phase (view : EscrowView) : Htlc.Phase Bytes32 :=
  if view.escrow.status = statusLocked then .locked
  else if view.escrow.status = statusClaimed then .claimed view.preimage
  else .refunded

def rules (rt : Runtime) : Htlc.Rules Terms Bytes32 ℤ where
  refundAfter terms := terms.refundAfterMs.toInt
  opens terms secret := rt.hash secret.bytes = terms.hashLock

def viewOf (view : Option EscrowView) : Option (Htlc.Lock Terms Bytes32) :=
  view.map fun v => ⟨v.terms, v.phase⟩

def State.view (s : State) (key : Pubkey) : Option (Htlc.Lock Terms Bytes32) :=
  viewOf (s.escrow? key)

/-- The clock sysvar in milliseconds, without a bound. -/
def State.clock (s : State) : ℤ := s.unixTimestamp.toInt * 1000

section

variable {rt : Runtime} {s s' : State} {key : Pubkey} {unixTimestamp now : Int64}

/-- A clock that does not overflow is exact. -/
theorem nowMs_eq (h : nowMs unixTimestamp = .ok now) : now.toInt = unixTimestamp.toInt * 1000 := by
  simp only [nowMs, ensure, Check.require_bind_eq_ok] at h
  obtain ⟨⟨hMin, hMax⟩, hNow⟩ := h
  obtain rfl := Except.ok.inj hNow
  unfold int64Min at hMin
  unfold int64Max at hMax
  exact Int64.toInt_ofInt_of_le (by omega) (by omega)

theorem EscrowStep.steps {e : Event} {view view' : EscrowView} (h : EscrowStep rt e view view') :
    Htlc.Steps (rules rt) (e.unixTimestamp.toInt * 1000) (viewOf (some view))
      (viewOf (some view')) := by
  cases h with
  | stay => exact .refl
  | claimed now preimage hLocked hNow hWindow hHash =>
    have hPhase : view.phase = .locked := if_pos hLocked
    show Htlc.Steps _ _ (some ⟨view.terms, view.phase⟩) (some ⟨view.terms, .claimed preimage⟩)
    rw [hPhase, ← nowMs_eq hNow]
    exact .single (.claim _ preimage (Int64.lt_iff_toInt_lt.mp hWindow) hHash)
  | refunded now infos data hLocked hNow hWindow =>
    have hPhase : view.phase = .locked := if_pos hLocked
    show Htlc.Steps _ _ (some ⟨view.terms, view.phase⟩) (some ⟨view.terms, .refunded⟩)
    rw [hPhase, ← nowMs_eq hNow]
    exact .single (.refund _ (Int64.le_iff_toInt_le.mp hWindow))

/-- Where there is no escrow, an event leaves it so or opens one that is locked, in time. -/
theorem opened_of_step (hrt : rt.Lawful) {e : Event} (hStep : (system rt).step s e s')
    (hNone : s.escrow? key = none) :
    s'.escrow? key = none ∨ ∃ view, s'.escrow? key = some view ∧
      view.escrow.status = statusLocked ∧
      e.unixTimestamp.toInt * 1000 < view.escrow.refundAfterMs.toInt := by
  obtain ⟨-, hAct⟩ := hStep
  split at hAct
  · obtain ⟨-, rfl⟩ := hAct
    rename_i infos data _
    rcases execute_cases hrt { s with unixTimestamp := e.unixTimestamp } infos data with
      hSame | ⟨accounts, now, hNow, o, hOpening, hSame⟩ | ⟨accounts, now, -, p, hPayout, hSame⟩
    · rw [hSame]
      exact .inl hNone
    -- an escrow is opened, this one or another
    · rw [hSame, State.escrow?, hOpening.escrow?_eq key]
      by_cases hKey : key = o.escrow
      · rw [if_pos hKey]
        refine .inr ⟨_, rfl, rfl, ?_⟩
        rw [← nowMs_eq hNow]
        exact Int64.lt_iff_toInt_lt.mp hOpening.window
      · rw [if_neg hKey]
        exact .inl hNone
    · -- a payout needs an escrow where it pays from
      have hKey : key ≠ p.escrow := by
        rintro rfl
        obtain ⟨view, hView, -⟩ := hPayout.view_after
        exact absurd (hView.symm.trans hNone) (Option.some_ne_none view)
      rw [hSame]
      exact .inl ((hPayout.escrow?_eq hKey).trans hNone)
  -- the program's accounts are left alone from outside
  · obtain ⟨hExternal, rfl⟩ := hAct
    exact .inl ((hExternal.escrow?_eq key).trans hNone)

/-- An event happens at its time. -/
theorem unixTimestamp_of_step {e : Event} (hStep : (system rt).step s e s') :
    s.unixTimestamp ≤ e.unixTimestamp ∧ s'.unixTimestamp = e.unixTimestamp := by
  obtain ⟨hNow, hAct⟩ := hStep
  refine ⟨hNow, ?_⟩
  split at hAct
  · obtain ⟨-, rfl⟩ := hAct
    unfold State.execute
    split
    · rfl
    · unfold State.record
      split <;> rfl
  · obtain ⟨-, rfl⟩ := hAct
    rfl

theorem refines (hrt : rt.Lawful) (key : Pubkey) :
    Htlc.Refines (system rt) (rules rt) State.clock (·.view key) where
  init s hInit := by
    -- at first nothing of the program's is anything but zeros
    have hNone : s.escrow? key = none := by
      by_cases hOwner : (s.accounts.contents key).owner = id
      · exact escrow?_of_zeros (hInit.zeroed key hOwner)
      · exact escrow?_of_owner_ne hOwner
    show viewOf (s.escrow? key) = none
    rw [hNone]
    rfl
  time s e s' _ hStep := by
    obtain ⟨hNow, hAt⟩ := unixTimestamp_of_step hStep
    rw [← hAt] at hNow
    have hInt := Int64.le_iff_toInt_le.mp hNow
    unfold State.clock
    omega
  step s e s' hReach hStep := by
    have hClock : s'.clock = e.unixTimestamp.toInt * 1000 :=
      congrArg (fun now => now.toInt * 1000) (unixTimestamp_of_step hStep).2
    show Htlc.Steps _ s'.clock (viewOf (s.escrow? key)) (viewOf (s'.escrow? key))
    rw [hClock]
    -- there was no escrow, or there was one
    cases hView : s.escrow? key with
    | none =>
      rcases opened_of_step hrt hStep hView with hNone | ⟨view, hSome, hLocked, hWindow⟩
      · rw [hNone]
      · have hPhase : view.phase = .locked := if_pos hLocked
        rw [hSome]
        show Htlc.Steps _ _ none (some ⟨view.terms, view.phase⟩)
        rw [hPhase]
        exact .single (.lock _ hWindow)
    | some view =>
      obtain ⟨view', hMove⟩ := escrowMove_of_step hrt (inv_of_reachable hrt hReach) hStep hView
      rw [hMove.after]
      exact hMove.step.steps

/-- The escrow at any address is a hash time lock, whatever instructions the program is given and
whatever other programs do. -/
theorem escrow_refines_htlc (hrt : rt.Lawful) (key : Pubkey) :
    Htlc.Refines (system rt) (rules rt) State.clock (·.view key) :=
  refines hrt key

/-- The sample's escrow is one, and was claimed with the sample's secret. -/
theorem escrow_refines_htlc_sample :
    Htlc.Refines (system Sample.rt) (rules Sample.rt) State.clock (·.view Sample.escrow) ∧
    (Sample.final.view Sample.escrow).map Htlc.Lock.phase = some (.claimed Sample.secret) :=
  ⟨escrow_refines_htlc Sample.lawful Sample.escrow, by decide +kernel⟩

end

end SwapDesk.Sol
