import SwapDesk.Lib.Machine
import SwapDesk.Lib.Pool
import SwapDesk.Near.Contract

/-!
# SwapDesk — the NEAR contract among its token and its promises

The contract never runs alone: `ft_on_transfer` is called by the token while a
transfer call is in flight, and `claim` and `refund` only schedule a transfer
whose outcome comes back in a later block. This file is the machine of all of
it. Calls, token transfers and callbacks interleave in any order, at block
times that never decrease.

Of the token (a NEP-141 contract, not part of the repository) the machine has
what the contract relies on:

* `ft_transfer_call` credits the HTLC account before `ft_on_transfer` runs,
  and afterwards takes back at most what that call returned;
* the configured token calls `ft_on_transfer` in no other way;
* an `ft_transfer` the HTLC account scheduled moves exactly its amount, which
  the account must hold, or fails and moves nothing;
* nothing else debits the HTLC account: `external` is any change of the
  balances that does not lower it.

`on_transfer_complete` is `#[private]`: it runs as the callback of a scheduled
transfer and in no other way, exactly once for each.
-/

namespace SwapDesk.Near

/-- A promise in flight. `outcome` is `none` until its `ft_transfer` has run. -/
structure PendingTransfer where
  promise : Promise
  outcome : Option Bool
deriving DecidableEq

/-- A transfer call in flight. `unused` is `none` until `ft_on_transfer` has run. -/
structure Deposit where
  senderId : AccountId
  amount : Nat
  msg : String
  unused : Option Nat
deriving DecidableEq

structure State where
  contract : Contract
  nowMs : Nat
  ledger : AccountId → Nat
  deposits : List Deposit
  pending : List PendingTransfer
  /-- History: every promise a call scheduled, with its block time, newest first. -/
  scheduled : List (Promise × Nat)
  /-- History: every promise whose transfer succeeded, newest first. -/
  paid : List Promise

inductive Action
  | transferCall (senderId : AccountId) (amount : Nat) (msg : String)
  /-- The token calls `ft_on_transfer` for the `i`-th deposit; `ran` is false
  when the call ran out of gas. -/
  | deliver (i : Nat) (ran : Bool) (storageUsage accountBalance : Nat)
  /-- The token takes back what `ft_on_transfer` returned. -/
  | resolveTransfer (i : Nat)
  /-- Anybody but the token calls `ft_on_transfer`. -/
  | directCall (predecessor senderId : AccountId) (amount : Nat) (msg : String)
      (storageUsage accountBalance : Nat)
  | claim (predecessor : AccountId) (hashLock : String) (payer : AccountId) (preimage : String)
  | refund (predecessor : AccountId) (hashLock : String)
  /-- The `ft_transfer` of the `i`-th promise runs. -/
  | transfer (i : Nat) (ok : Bool)
  /-- The callback of the `i`-th promise runs. -/
  | callback (i : Nat)
  | external (ledger : AccountId → Nat)

structure Event where
  atMs : Nat
  action : Action

def moveTokens (ledger : AccountId → Nat) (src dst : AccountId) (amount : Nat) :
    AccountId → Nat :=
  let debited := Function.update ledger src (ledger src - amount)
  Function.update debited dst (debited dst + amount)

/-- The context of a call at the current block. -/
def State.ctx (s : State) (predecessor : AccountId) (storageUsage accountBalance : Nat) : Ctx where
  predecessorAccountId := predecessor
  blockTimestampMs := s.nowMs
  storageUsage := storageUsage
  accountBalance := accountBalance

/-- A scheduled promise joins the pool and the history. -/
def State.schedule (s : State) (contract : Contract) (promise : Promise) : State :=
  { s with
    contract := contract
    pending := ⟨promise, none⟩ :: s.pending
    scheduled := (promise, s.nowMs) :: s.scheduled }

variable (host : Host)

def State.act (s : State) : Action → Option State
  | .transferCall senderId amount msg =>
    -- the HTLC account itself has no method that transfers by a call
    if senderId = host.currentAccountId ∨ s.ledger senderId < amount then none
    else some { s with
      ledger := moveTokens s.ledger senderId host.currentAccountId amount
      deposits := ⟨senderId, amount, msg, none⟩ :: s.deposits }
  | .deliver i ran storageUsage accountBalance =>
    match Pool.take s.deposits i with
    | none => none
    | some (d, rest) =>
      if d.unused.isSome then none
      else if ran then
        let answer := s.contract.ftOnTransfer host
          (s.ctx s.contract.usdcToken storageUsage accountBalance) d.senderId d.amount d.msg
        some { s with
          contract := answer.1
          deposits := { d with unused := some answer.2.2 } :: rest }
      else some { s with deposits := { d with unused := some d.amount } :: rest }
  | .resolveTransfer i =>
    match Pool.take s.deposits i with
    | none => none
    | some (d, rest) =>
      match d.unused with
      | none => none
      | some unused =>
        some { s with
          ledger := moveTokens s.ledger host.currentAccountId d.senderId
            (min (min d.amount unused) (s.ledger host.currentAccountId))
          deposits := rest }
  | .directCall predecessor senderId amount msg storageUsage accountBalance =>
    if predecessor = s.contract.usdcToken then none
    else some { s with
      contract := (s.contract.ftOnTransfer host
        (s.ctx predecessor storageUsage accountBalance) senderId amount msg).1 }
  | .claim predecessor hashLock payer preimage =>
    match s.contract.claim host (s.ctx predecessor 0 0) hashLock payer preimage with
    | .error _ => some s
    | .ok (contract, _, promise) => some (s.schedule contract promise)
  | .refund predecessor hashLock =>
    match s.contract.refund (s.ctx predecessor 0 0) hashLock with
    | .error _ => some s
    | .ok (contract, _, promise) => some (s.schedule contract promise)
  | .transfer i ok =>
    match Pool.take s.pending i with
    | none => none
    | some (t, rest) =>
      if t.outcome.isSome then none
      else if !ok then some { s with pending := { t with outcome := some false } :: rest }
      else if t.promise.token ≠ s.contract.usdcToken then
        some { s with
          pending := { t with outcome := some true } :: rest
          paid := t.promise :: s.paid }
      else if s.ledger host.currentAccountId < t.promise.amount then none
      else
        some { s with
          ledger := moveTokens s.ledger host.currentAccountId t.promise.receiverId t.promise.amount
          pending := { t with outcome := some true } :: rest
          paid := t.promise :: s.paid }
  | .callback i =>
    match Pool.take s.pending i with
    | none => none
    | some (t, rest) =>
      match t.outcome with
      | none => none
      | some ok =>
        match s.contract.onTransferComplete t.promise.hashLock t.promise.payer
            t.promise.exit ok with
        | .error _ => some { s with pending := rest }
        | .ok (contract, _) => some { s with contract := contract, pending := rest }
  | .external ledger =>
    if ledger host.currentAccountId < s.ledger host.currentAccountId then none
    else some { s with ledger := ledger }

/-- One event. Block times never decrease. -/
def State.step (s : State) (e : Event) : Option State :=
  if e.atMs < s.nowMs then none else ({ s with nowMs := e.atMs } : State).act host e.action

/-- A freshly deployed contract, at any time and over any balances. -/
structure Initial (usdcToken : AccountId) (s : State) : Prop where
  contract : s.contract = .new usdcToken
  deposits : s.deposits = []
  pending : s.pending = []
  scheduled : s.scheduled = []
  paid : s.paid = []

def system (usdcToken : AccountId) : Machine State Event :=
  Machine.ofFun (Initial usdcToken) (State.step host)

-- ---------------------------------------------------------------------------
-- Reading a state
-- ---------------------------------------------------------------------------

/-- The lock `payer` made under `hashLock`. -/
def State.lock? (s : State) (payer : AccountId) (hashLock : String) : Option Lock :=
  s.contract.locks (lockKey payer hashLock)

/-- A promise is for the lock it names. -/
def Promise.isFor (payer : AccountId) (hashLock : String) (p : Promise) : Bool :=
  p.payer = payer && p.hashLock = hashLock

/-- The unresolved promises for a lock. -/
def State.pendingFor (s : State) (payer : AccountId) (hashLock : String) : List PendingTransfer :=
  s.pending.filter fun t => t.promise.isFor payer hashLock

/-- The successful transfers for a lock. -/
def State.paidFor (s : State) (payer : AccountId) (hashLock : String) : List Promise :=
  s.paid.filter (Promise.isFor payer hashLock)

/-- The promises scheduled for a lock, newest first. -/
def State.scheduledFor (s : State) (payer : AccountId) (hashLock : String) :
    List (Promise × Nat) :=
  s.scheduled.filter fun p => p.1.isFor payer hashLock

theorem Promise.isFor_iff {payer : AccountId} {hashLock : String} {p : Promise} :
    p.isFor payer hashLock = true ↔ p.payer = payer ∧ p.hashLock = hashLock := by
  simp [isFor]

/-- Storing a lock under its own payer and hash lock is seen there and nowhere
else. -/
theorem locks_update (locks : String → Option Lock) (payer payer' : AccountId)
    (hashLock hashLock' : String) (lock : Option Lock) :
    Function.update locks (lockKey payer hashLock) lock (lockKey payer' hashLock') =
      if payer' = payer ∧ hashLock' = hashLock then lock else locks (lockKey payer' hashLock') := by
  rw [Function.update_apply]
  simp only [lockKey_inj]

-- ---------------------------------------------------------------------------
-- Moving tokens
-- ---------------------------------------------------------------------------

theorem moveTokens_src_le (ledger : AccountId → Nat) (src dst : AccountId) (amount : Nat) :
    ledger src ≤ moveTokens ledger src dst amount src + amount := by
  unfold moveTokens
  by_cases h : src = dst
  · subst h
    simp only [Function.update_self]
    omega
  · rw [Function.update_of_ne h, Function.update_self]
    omega

theorem moveTokens_dst {ledger : AccountId → Nat} {src dst : AccountId} (h : src ≠ dst)
    (amount : Nat) : moveTokens ledger src dst amount dst = ledger dst + amount := by
  unfold moveTokens
  rw [Function.update_self, Function.update_of_ne (Ne.symm h)]

end SwapDesk.Near
