import Mathlib.Data.Int.Order.Basic
import SwapDesk.HashRail.Solvency
import SwapDesk.Lib.Htlc

/-!
# SwapDesk — what the EVM hash rail guarantees

Over every run of the machine of `SwapDesk.HashRail.Contract`, whatever foreign code does:

* `row_refines_htlc`: each row is a hash time lock, whose secret is the preimage its event shows;
* `log_tells_rows`: the log tells of each row what happened to it, once;
* `exits_pay`: a row of a known token is claimed and refunded exactly when its terms allow it, and
  then it is paid in full.
-/

namespace SwapDesk.HashRail

open Check Relation

variable {env : Deployment} {timestamp : Nat} {w w' : World}

-- ---------------------------------------------------------------------------
-- Rows as hash time locks
-- ---------------------------------------------------------------------------

structure Terms where
  hashLock : Bytes32
  payer : Address
  payee : Address
  token : Address
  amount : Nat
  claimByMs : Nat
  refundAfterMs : Nat
deriving DecidableEq, Repr

def Lock.terms (row : Lock) (hashLock : Bytes32) : Terms :=
  ⟨hashLock, row.payer, row.payee, row.token, row.amount, row.claimByMs, row.refundAfterMs⟩

/-- The times are those of the terms, in milliseconds. -/
def rules (env : Deployment) : Htlc.Rules Terms Bytes32 ℤ where
  refundAfter terms := terms.refundAfterMs
  opens terms secret := env.sha256 secret = terms.hashLock

/-- `block.timestamp * 1000` -/
def State.clock (s : State) : ℤ := (s.timestamp * 1000 : ℕ)

/-- The hash lock that an event is about. -/
def Event.hashLock : Event → Bytes32
  | .locked hashLock _ _ _ _ _ _ => hashLock
  | .claimed hashLock _ => hashLock
  | .refunded hashLock => hashLock

def Event.preimage? : Event → Option Bytes32
  | .claimed _ preimage => some preimage
  | _ => none

/-- The events of a hash lock, newest first. -/
def World.eventsOf (w : World) (hashLock : Bytes32) : List Event :=
  w.events.filter fun event => event.hashLock = hashLock

/-- A row as a hash time lock, with the preimage that its events show. -/
def viewOf (hashLock : Bytes32) (row : Lock) (events : List Event) :
    Option (Htlc.Lock Terms Bytes32) :=
  match row.status with
  | .none => none
  | .locked => some ⟨row.terms hashLock, .locked⟩
  | .claimed => (events.findSome? Event.preimage?).map fun preimage =>
      ⟨row.terms hashLock, .claimed preimage⟩
  | .refunded => some ⟨row.terms hashLock, .refunded⟩

def World.view (w : World) (hashLock : Bytes32) : Option (Htlc.Lock Terms Bytes32) :=
  viewOf hashLock (w.locks hashLock) (w.eventsOf hashLock)

/-- A locked row is viewed as its open lock. -/
theorem viewOf_locked {hashLock : Bytes32} {row : Lock} {events : List Event}
    (h : row.status = .locked) : viewOf hashLock row events = some ⟨row.terms hashLock, .locked⟩ := by
  unfold viewOf
  rw [h]

section

variable {hashLock other : Bytes32} {row : Lock} {event : Event} {tokens : Address → Token}

/-- A write adds its event to the lock's own. -/
theorem eventsOf_write_self (hEvent : event.hashLock = hashLock) :
    ((w.write hashLock row event).withTokens tokens).eventsOf hashLock =
      event :: w.eventsOf hashLock :=
  List.filter_cons_of_pos (decide_eq_true hEvent)

/-- A write adds nothing to the events of another lock. -/
theorem eventsOf_write_of_ne (hEvent : event.hashLock = hashLock) (hOther : other ≠ hashLock) :
    ((w.write hashLock row event).withTokens tokens).eventsOf other = w.eventsOf other := by
  refine List.filter_cons_of_neg ?_
  rw [decide_eq_true_eq, hEvent]
  exact Ne.symm hOther

/-- A write sets its row. -/
theorem locks_write_self :
    ((w.write hashLock row event).withTokens tokens).locks hashLock = row :=
  Function.update_self ..

/-- A write leaves the row of another lock. -/
theorem locks_write_of_ne (hOther : other ≠ hashLock) :
    ((w.write hashLock row event).withTokens tokens).locks other = w.locks other :=
  Function.update_of_ne hOther _ _

end

/-- What an effect does to the row of one hash lock and to its events. -/
inductive RowStep (env : Deployment) (timestamp : Nat) (hashLock : Bytes32) :
    Lock → List Event → Lock → List Event → Prop
  | stay (row : Lock) (events : List Event) :
      RowStep env timestamp hashLock row events row events
  | lock (terms : Terms) (row : Lock) (events : List Event) : row.status = .none →
      terms.hashLock = hashLock → timestamp * 1000 < terms.refundAfterMs →
      RowStep env timestamp hashLock row events
        ⟨terms.payer, terms.payee, terms.token, terms.amount, terms.claimByMs, terms.refundAfterMs,
          .locked⟩
        (.locked hashLock terms.payer terms.payee terms.token terms.amount terms.claimByMs
          terms.refundAfterMs :: events)
  | claim (row : Lock) (events : List Event) (preimage : Bytes32) : row.status = .locked →
      timestamp * 1000 < row.refundAfterMs → env.sha256 preimage = hashLock →
      RowStep env timestamp hashLock row events { row with status := .claimed }
        (.claimed hashLock preimage :: events)
  | refund (row : Lock) (events : List Event) : row.status = .locked →
      row.refundAfterMs ≤ timestamp * 1000 →
      RowStep env timestamp hashLock row events { row with status := .refunded }
        (.refunded hashLock :: events)

/-- Writing one row leaves the others alone. -/
theorem RowStep.write {changed : Bytes32} {row : Lock} {event : Event} {tokens : Address → Token}
    (h : RowStep env timestamp changed (w.locks changed) (w.eventsOf changed) row
      (event :: w.eventsOf changed)) (hEvent : event.hashLock = changed) (hashLock : Bytes32) :
    RowStep env timestamp hashLock (w.locks hashLock) (w.eventsOf hashLock)
      (((w.write changed row event).withTokens tokens).locks hashLock)
      (((w.write changed row event).withTokens tokens).eventsOf hashLock) := by
  by_cases hIs : hashLock = changed
  · subst hIs
    rw [locks_write_self, eventsOf_write_self hEvent]
    exact h
  · rw [locks_write_of_ne hIs, eventsOf_write_of_ne hEvent hIs]
    exact .stay _ _

/-- An effect is at most one step of a row. -/
theorem Effect.rowStep (hashLock : Bytes32) (h : Effect env timestamp w w') :
    RowStep env timestamp hashLock (w.locks hashLock) (w.eventsOf hashLock) (w'.locks hashLock)
      (w'.eventsOf hashLock) := by
  cases h with
  | locked sender changed payee amount token claimByMs refundAfterMs tokens hNone _ _ _ hTime _ =>
    exact RowStep.write (.lock ⟨changed, sender, payee, token, amount, claimByMs, refundAfterMs⟩
      _ _ hNone rfl hTime) rfl hashLock
  | claimed changed preimage tokens hLocked hTime hOpens _ =>
    exact RowStep.write (.claim _ _ preimage hLocked hTime hOpens) rfl hashLock
  | refunded changed tokens hLocked _ hTime _ =>
    exact RowStep.write (.refund _ _ hLocked hTime) rfl hashLock
  | called token t _ => exact .stay _ _

/-- A step of a row is a step of its lock. -/
theorem RowStep.steps {hashLock : Bytes32} {row row' : Lock} {events events' : List Event}
    (h : RowStep env timestamp hashLock row events row' events') :
    Htlc.Steps (rules env) (timestamp * 1000 : ℕ) (viewOf hashLock row events)
      (viewOf hashLock row' events') := by
  cases h with
  | stay => exact .refl
  | lock terms _ _ hNone hIs hTime =>
    have hBefore : viewOf hashLock row events = none := by
      unfold viewOf
      rw [hNone]
    rw [hBefore]
    exact .single (.lock _ (Int.ofNat_lt.mpr hTime))
  | claim _ _ preimage hLocked hTime hOpens =>
    rw [viewOf_locked hLocked]
    exact .single (.claim _ preimage (Int.ofNat_lt.mpr hTime) hOpens)
  | refund _ _ hLocked hTime =>
    rw [viewOf_locked hLocked]
    exact .single (.refund _ (Int.ofNat_le.mpr hTime))

/-- A transaction takes every lock along its steps. -/
theorem view_steps (hashLock : Bytes32) (h : ReflTransGen (FlatStep env timestamp) w w') :
    Htlc.Steps (rules env) (timestamp * 1000 : ℕ) (w.view hashLock) (w'.view hashLock) := by
  induction h with
  | refl => exact .refl
  | tail _ hStep ih => exact ih.trans (hStep.effect.rowStep hashLock).steps

/-- Each row is a hash time lock. -/
theorem refines (env : Deployment) (hashLock : Bytes32) :
    Htlc.Refines (system env) (rules env) State.clock fun s => s.world.view hashLock where
  init s hInit := by
    show viewOf hashLock (s.world.locks hashLock) _ = none
    rw [hInit.locks]
    rfl
  time s e s' _ hStep := by
    obtain ⟨hTime, hNow, -⟩ := State.flat_of_step hStep
    unfold State.clock
    rw [hNow]
    exact Int.ofNat_le.mpr (Nat.mul_le_mul_right 1000 hTime)
  step s e s' _ hStep := by
    obtain ⟨-, hNow, hFlat⟩ := State.flat_of_step hStep
    unfold State.clock
    rw [hNow]
    exact view_steps hashLock hFlat

-- ---------------------------------------------------------------------------
-- The log
-- ---------------------------------------------------------------------------

/-- A row with its events, newest first: one that locked it, and at most one that closed it. -/
inductive Story (env : Deployment) (hashLock : Bytes32) : Lock → List Event → Prop
  | unknown : Story env hashLock .empty []
  | locked (terms : Terms) : Story env hashLock
      ⟨terms.payer, terms.payee, terms.token, terms.amount, terms.claimByMs, terms.refundAfterMs,
        .locked⟩
      [.locked hashLock terms.payer terms.payee terms.token terms.amount terms.claimByMs
        terms.refundAfterMs]
  | claimed (row : Lock) (events : List Event) (preimage : Bytes32) : row.status = .locked →
      Story env hashLock row events → env.sha256 preimage = hashLock →
      Story env hashLock { row with status := .claimed } (.claimed hashLock preimage :: events)
  | refunded (row : Lock) (events : List Event) : row.status = .locked →
      Story env hashLock row events →
      Story env hashLock { row with status := .refunded } (.refunded hashLock :: events)

/-- The story of a row goes on with its step. -/
theorem Story.step {hashLock : Bytes32} {row row' : Lock} {events events' : List Event}
    (h : Story env hashLock row events)
    (hStep : RowStep env timestamp hashLock row events row' events') :
    Story env hashLock row' events' := by
  cases hStep with
  | stay => exact h
  | lock terms _ _ hNone _ _ =>
    cases h with
    | unknown => exact .locked terms
    | locked _ => cases hNone
    | claimed _ _ _ _ _ _ => cases hNone
    | refunded _ _ _ _ => cases hNone
  | claim _ _ preimage hLocked _ hOpens => exact .claimed row events preimage hLocked h hOpens
  | refund _ _ hLocked _ => exact .refunded row events hLocked h

/-- Every reachable row has its story. -/
theorem story {s : State} (hReach : (system env).Reachable s) (hashLock : Bytes32) :
    Story env hashLock (s.world.locks hashLock) (s.world.eventsOf hashLock) := by
  refine invariant (P := fun w => Story env hashLock (w.locks hashLock) (w.eventsOf hashLock))
    (fun s hInit => ?_) (fun _ _ _ h hEffect => h.step (hEffect.rowStep hashLock)) hReach
  rw [hInit.locks]
  unfold World.eventsOf
  rw [hInit.events]
  exact .unknown

/-- A row is shown as soon as it is made. -/
theorem Story.view_eq_none {hashLock : Bytes32} {row : Lock} {events : List Event}
    (h : Story env hashLock row events) (hView : viewOf hashLock row events = none) :
    row.status = .none := by
  cases h with
  | unknown => rfl
  | locked terms => cases hView
  | claimed row events preimage _ _ _ => cases hView
  | refunded row events _ _ => cases hView

-- ---------------------------------------------------------------------------
-- Payouts
-- ---------------------------------------------------------------------------

/-- The row of a hash lock is closed, and its tokens have gone from the rail to an address. -/
structure PaidOut (env : Deployment) (w : World) (hashLock : Bytes32) (status : Status)
    (dst : Address) (w' : World) : Prop where
  row : w'.locks hashLock = { w.locks hashLock with status := status }
  rows : ∀ other, other ≠ hashLock → w'.locks other = w.locks other
  received : (w'.tokens (w.locks hashLock).token).balanceOf dst =
    (w.tokens (w.locks hashLock).token).balanceOf dst + (w.locks hashLock).amount
  paid : (w'.tokens (w.locks hashLock).token).balanceOf env.rail + (w.locks hashLock).amount =
    (w.tokens (w.locks hashLock).token).balanceOf env.rail
  balances : ∀ a, a ≠ dst → a ≠ env.rail →
    (w'.tokens (w.locks hashLock).token).balanceOf a =
      (w.tokens (w.locks hashLock).token).balanceOf a
  tokens : ∀ other, other ≠ (w.locks hashLock).token → w'.tokens other = w.tokens other

section

variable {s : State} {hashLock : Bytes32}

/-- A token that there is enough of is transferred exactly when the receiver has room for it. -/
theorem transfer_iff {t : Token} {src dst : Address} {amount : Nat} (hDst : dst ≠ src)
    (hFunds : amount ≤ t.balanceOf src) :
    (∃ t', t.transfer src dst amount = .ok (t', true)) ↔
      t.balanceOf dst + amount ≤ UINT256_MAX := by
  have hDebited : Function.update t.balanceOf src (t.balanceOf src - amount) dst =
      t.balanceOf dst := Function.update_of_ne hDst _ _
  unfold Token.transfer Token.move
  constructor
  · rintro ⟨t', h⟩
    obtain ⟨moved, hMoved, -⟩ := bind_eq_ok.mp h
    obtain ⟨-, hMoved⟩ := require_bind_eq_ok.mp hMoved
    rw [← hDebited]
    exact (require_bind_eq_ok.mp hMoved).1
  · intro hRoom
    refine ⟨_, bind_eq_ok.mpr ⟨_, require_bind_eq_ok.mpr ⟨hFunds, require_bind_eq_ok.mpr
      ⟨?_, rfl⟩⟩, rfl⟩⟩
    rw [hDebited]
    exact hRoom

/-- The rail has enough of a known token for every row that is locked. -/
theorem funded (hReach : (system env).Reachable s)
    (hKnown : env.isToken (s.world.locks hashLock).token = true)
    (hLocked : (s.world.locks hashLock).status = .locked) :
    (s.world.locks hashLock).amount ≤
      (s.world.tokens (s.world.locks hashLock).token).balanceOf env.rail := by
  have hOwed := (solvent hReach hKnown).covers.sum_le {hashLock}
  rw [Finset.sum_singleton] at hOwed
  unfold World.owed at hOwed
  rwa [if_pos ⟨hLocked, rfl⟩] at hOwed

/-- The call of a known token ends well exactly when its transfer does. -/
theorem settle_iff {entered ran : World} {token : Address}
    {code : Token → Except String (Token × Bool)} {answer : Answer} {failed : String}
    (hKnown : env.isToken token = true) :
    entered.settle env token code ran answer failed = .ok w' ↔
      ∃ t, code (entered.tokens token) = .ok (t, true) ∧ w' = entered.setToken token t := by
  unfold World.settle
  rw [if_pos hKnown]
  constructor
  · intro h
    obtain ⟨answered, hAnswered, h⟩ := bind_eq_ok.mp h
    obtain ⟨hOk, h⟩ := require_bind_eq_ok.mp h
    obtain ⟨t, hCode, hWorld⟩ := callToken_ok hAnswered
    rw [hOk] at hCode
    exact ⟨t, hCode, (Except.ok.inj h).symm.trans hWorld⟩
  · rintro ⟨t, hCode, rfl⟩
    exact bind_eq_ok.mpr ⟨(entered.setToken token t, true),
      bind_eq_ok.mpr ⟨(t, true), hCode, rfl⟩, require_bind_eq_ok.mpr ⟨rfl, rfl⟩⟩

/-- What a claim needs to go through. -/
theorem claim_of {preimage : Bytes32} (hLocked : (w.locks hashLock).status = .locked)
    (hTime : timestamp * 1000 < (w.locks hashLock).refundAfterMs)
    (hOpens : env.sha256 preimage = hashLock) :
    w.claim env timestamp hashLock preimage = .ok (w.write hashLock
      { w.locks hashLock with status := .claimed } (.claimed hashLock preimage)) := by
  have hMade : (w.locks hashLock).status ≠ .none := by
    rw [hLocked]
    decide
  exact require_bind_eq_ok.mpr ⟨hMade, require_bind_eq_ok.mpr ⟨hLocked,
    require_bind_eq_ok.mpr ⟨hTime, require_bind_eq_ok.mpr ⟨hOpens, rfl⟩⟩⟩⟩

/-- What a refund needs to go through. -/
theorem refund_of {sender : Address} (hLocked : (w.locks hashLock).status = .locked)
    (hPayer : sender = (w.locks hashLock).payer)
    (hTime : (w.locks hashLock).refundAfterMs ≤ timestamp * 1000) :
    w.refund timestamp sender hashLock = .ok (w.write hashLock
      { w.locks hashLock with status := .refunded } (.refunded hashLock)) := by
  have hMade : (w.locks hashLock).status ≠ .none := by
    rw [hLocked]
    decide
  exact require_bind_eq_ok.mpr ⟨hMade, require_bind_eq_ok.mpr ⟨hLocked,
    require_bind_eq_ok.mpr ⟨hPayer, require_bind_eq_ok.mpr ⟨hTime, rfl⟩⟩⟩⟩

/-- What closing a row and transferring its tokens comes to. -/
theorem paidOut_of_transfer {status : Status} {event : Event} {dst : Address} {t : Token}
    (hDst : dst ≠ env.rail)
    (h : (w.tokens (w.locks hashLock).token).transfer env.rail dst (w.locks hashLock).amount =
      .ok (t, true)) :
    PaidOut env w hashLock status dst
      ((w.write hashLock { w.locks hashLock with status := status } event).setToken
        (w.locks hashLock).token t) := by
  have hMove := Token.transfer_ok h
  obtain ⟨hFunds, -, hBalance⟩ := Token.move_ok hMove
  have hToken : ((w.write hashLock { w.locks hashLock with status := status } event).setToken
      (w.locks hashLock).token t).tokens (w.locks hashLock).token = t := Function.update_self ..
  refine ⟨Function.update_self .., fun other hOther => Function.update_of_ne hOther _ _, ?_, ?_,
    fun a hNe hRail => ?_, fun other hOther => Function.update_of_ne hOther _ _⟩
  · rw [hToken]
    exact Token.move_dst hMove hDst
  · rw [hToken, hBalance, Function.update_of_ne (Ne.symm hDst), Function.update_self]
    omega
  · rw [hToken, hBalance, Function.update_of_ne hNe, Function.update_of_ne hRail]

/-- A claim pays the payee. -/
theorem claim_pays (hReach : (system env).Reachable s)
    (hKnown : env.isToken (s.world.locks hashLock).token = true)
    (hLocked : (s.world.locks hashLock).status = .locked)
    (hPayee : (s.world.locks hashLock).payee ≠ env.rail) (timestamp : Nat) (sender : Caller env)
    (preimage : Bytes32) (foreign : List (Call env)) (answer : Answer) :
    ((∃ w', (Call.claim sender hashLock preimage foreign answer).run timestamp s.world = .ok w') ↔
      timestamp * 1000 < (s.world.locks hashLock).refundAfterMs ∧
      env.sha256 preimage = hashLock ∧
      (s.world.tokens (s.world.locks hashLock).token).balanceOf (s.world.locks hashLock).payee +
        (s.world.locks hashLock).amount ≤ UINT256_MAX) ∧
    ∀ w', (Call.claim sender hashLock preimage foreign answer).run timestamp s.world = .ok w' →
      PaidOut env s.world hashLock .claimed (s.world.locks hashLock).payee w' := by
  have hFunds := funded hReach hKnown hLocked
  unfold Call.run
  refine ⟨⟨?_, ?_⟩, fun w' h => ?_⟩
  · rintro ⟨w', h⟩
    obtain ⟨entered, hEntered, h⟩ := bind_eq_ok.mp h
    obtain ⟨-, hTime, hOpens, rfl⟩ := claim_ok hEntered
    obtain ⟨t, hCode, -⟩ := (settle_iff hKnown).mp h
    exact ⟨hTime, hOpens, (transfer_iff hPayee hFunds).mp ⟨t, hCode⟩⟩
  · rintro ⟨hTime, hOpens, hRoom⟩
    obtain ⟨t, hCode⟩ := (transfer_iff hPayee hFunds).mpr hRoom
    exact ⟨_, bind_eq_ok.mpr ⟨_, claim_of hLocked hTime hOpens,
      (settle_iff hKnown).mpr ⟨t, hCode, rfl⟩⟩⟩
  · obtain ⟨entered, hEntered, h⟩ := bind_eq_ok.mp h
    obtain ⟨-, -, -, rfl⟩ := claim_ok hEntered
    obtain ⟨t, hCode, rfl⟩ := (settle_iff hKnown).mp h
    exact paidOut_of_transfer hPayee hCode

/-- A refund pays the payer. -/
theorem refund_pays (hReach : (system env).Reachable s)
    (hKnown : env.isToken (s.world.locks hashLock).token = true)
    (hLocked : (s.world.locks hashLock).status = .locked) (timestamp : Nat) (sender : Caller env)
    (foreign : List (Call env)) (answer : Answer) :
    ((∃ w', (Call.refund sender hashLock foreign answer).run timestamp s.world = .ok w') ↔
      sender = (s.world.locks hashLock).payer ∧
      (s.world.locks hashLock).refundAfterMs ≤ timestamp * 1000 ∧
      (s.world.tokens (s.world.locks hashLock).token).balanceOf (s.world.locks hashLock).payer +
        (s.world.locks hashLock).amount ≤ UINT256_MAX) ∧
    ∀ w', (Call.refund sender hashLock foreign answer).run timestamp s.world = .ok w' →
      PaidOut env s.world hashLock .refunded (s.world.locks hashLock).payer w' := by
  have hFunds := funded hReach hKnown hLocked
  unfold Call.run
  refine ⟨⟨?_, ?_⟩, fun w' h => ?_⟩
  · rintro ⟨w', h⟩
    obtain ⟨entered, hEntered, h⟩ := bind_eq_ok.mp h
    obtain ⟨-, hPayer, hTime, rfl⟩ := refund_ok hEntered
    obtain ⟨t, hCode, -⟩ := (settle_iff hKnown).mp h
    exact ⟨hPayer, hTime, (transfer_iff (hPayer ▸ sender.2) hFunds).mp ⟨t, hCode⟩⟩
  · rintro ⟨hPayer, hTime, hRoom⟩
    obtain ⟨t, hCode⟩ := (transfer_iff (hPayer ▸ sender.2) hFunds).mpr hRoom
    exact ⟨_, bind_eq_ok.mpr ⟨_, refund_of hLocked hPayer hTime,
      (settle_iff hKnown).mpr ⟨t, hCode, rfl⟩⟩⟩
  · obtain ⟨entered, hEntered, h⟩ := bind_eq_ok.mp h
    obtain ⟨-, hPayer, -, rfl⟩ := refund_ok hEntered
    obtain ⟨t, hCode, rfl⟩ := (settle_iff hKnown).mp h
    exact paidOut_of_transfer (hPayer ▸ sender.2) hCode

end

-- ---------------------------------------------------------------------------
-- Guarantees
-- ---------------------------------------------------------------------------

/-- Each row is a hash time lock from the call that makes it, whatever foreign code is called. -/
theorem row_refines_htlc (env : Deployment) (hashLock : Bytes32) :
    Htlc.Refines (system env) (rules env) State.clock (fun s => s.world.view hashLock) ∧
    ∀ s, (system env).Reachable s → s.world.view hashLock = none →
      (s.world.locks hashLock).status = .none :=
  ⟨refines env hashLock, fun _ hReach => (story hReach hashLock).view_eq_none⟩

/-- The log tells of each row what it is, and nothing twice. -/
theorem log_tells_rows {s : State} (hReach : (system env).Reachable s) (hashLock : Bytes32) :
    Story env hashLock (s.world.locks hashLock) (s.world.eventsOf hashLock) :=
  story hReach hashLock

section

open Sample

theorem log_tells_rows_sample :
    Story deployment hashLock (final.world.locks hashLock) (final.world.eventsOf hashLock) ∧
      final.world.eventsOf hashLock = [.locked hashLock alice bob usdc 4 20000 30000] :=
  ⟨log_tells_rows reachable_final hashLock, by decide⟩

end

/-- The tokens of a locked row can be claimed, for a payee that is not the rail itself, and refunded
as its terms say and in no other way, whatever foreign code has done before; only an overflow of
the receiver's balance stands in the way. -/
theorem exits_pay {s : State} (hReach : (system env).Reachable s) {hashLock : Bytes32}
    (hKnown : env.isToken (s.world.locks hashLock).token = true)
    (hLocked : (s.world.locks hashLock).status = .locked) (timestamp : Nat) (sender : Caller env)
    (preimage : Bytes32) (foreign : List (Call env)) (answer : Answer) :
    ((s.world.locks hashLock).payee ≠ env.rail →
      ((∃ w', (Call.claim sender hashLock preimage foreign answer).run timestamp s.world = .ok w') ↔
        timestamp * 1000 < (s.world.locks hashLock).refundAfterMs ∧
        env.sha256 preimage = hashLock ∧
        (s.world.tokens (s.world.locks hashLock).token).balanceOf (s.world.locks hashLock).payee +
          (s.world.locks hashLock).amount ≤ UINT256_MAX) ∧
      ∀ w', (Call.claim sender hashLock preimage foreign answer).run timestamp s.world = .ok w' →
        PaidOut env s.world hashLock .claimed (s.world.locks hashLock).payee w') ∧
    (((∃ w', (Call.refund sender hashLock foreign answer).run timestamp s.world = .ok w') ↔
        sender = (s.world.locks hashLock).payer ∧
        (s.world.locks hashLock).refundAfterMs ≤ timestamp * 1000 ∧
        (s.world.tokens (s.world.locks hashLock).token).balanceOf (s.world.locks hashLock).payer +
          (s.world.locks hashLock).amount ≤ UINT256_MAX) ∧
      ∀ w', (Call.refund sender hashLock foreign answer).run timestamp s.world = .ok w' →
        PaidOut env s.world hashLock .refunded (s.world.locks hashLock).payer w') :=
  ⟨fun hPayee => claim_pays hReach hKnown hLocked hPayee timestamp sender preimage foreign answer,
    refund_pays hReach hKnown hLocked timestamp sender foreign answer⟩

section

open Sample

/-- Anybody can claim for Bob. -/
theorem exits_pay_sample : ∃ w', (Call.claim (caller mallory) hashLock secret [] .reverts).run 12
    final.world = .ok w' ∧ PaidOut deployment final.world hashLock .claimed bob w' := by
  have hKnown : deployment.isToken (final.world.locks hashLock).token = true := by decide
  obtain ⟨hIff, hPays⟩ := (exits_pay reachable_final hKnown (by decide) 12 (caller mallory) secret []
    .reverts).1 (by decide)
  obtain ⟨w', h⟩ := hIff.mpr (by decide)
  exact ⟨w', h, hPays w' h⟩

end

end SwapDesk.HashRail
