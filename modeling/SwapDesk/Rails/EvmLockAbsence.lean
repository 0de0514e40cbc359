import SwapDesk.Lib.Double
import SwapDesk.Rails.EvmConfig

/-!
# SwapDesk — the permanent verdict on an EVM lock attempt

`contracts/EvmHashRail.sol` over the blocks of a chain, and `readLockAbsence` of
`src/rails/evm-htlc.ts` with `lockAbsence` of `src/client/evm-rail.ts`, which read a node between
whose answers the chain may grow and give up blocks that are not final.

Main result: `readLockAbsence_permanent`.
-/

namespace SwapDesk.Rails.EvmLock

open Check Desk

/-! ## The contract -/

inductive Status where
  | none
  | locked
  | claimed
  | refunded
deriving DecidableEq, Repr

structure Lock where
  payer : String
  payee : String
  token : String
  amount : Nat
  claimByMs : Nat
  refundAfterMs : Nat
  status : Status
deriving DecidableEq, Repr

/-- `mapping(bytes32 => Lock)`, by the text of the hash lock. -/
abbrev Locks := String → Lock

def Locks.empty : Locks := fun _ => ⟨"0x0", "0x0", "0x0", 0, 0, 0, .none⟩

def ZERO_ADDRESS : String := "0x0000000000000000000000000000000000000000"

/-- A call of the contract. Whether the token's transfer succeeds, and whether the preimage opens
the statement, is part of the call. -/
inductive Call where
  | lock (sender hashLock payee : String) (amount : Nat) (token : String)
      (claimByMs refundAfterMs : Nat) (paid : Bool)
  | claim (hashLock : String) (opens paid : Bool)
  | refund (sender hashLock : String) (paid : Bool)
deriving DecidableEq, Repr

/-- A call in a block of this time, in seconds; `none` when it reverts. -/
def Call.run (timestamp : Nat) (locks : Locks) : Call → Option Locks
  | .lock sender hashLock payee amount token claimByMs refundAfterMs paid =>
    if (locks hashLock).status = .none ∧ payee ≠ ZERO_ADDRESS ∧ 0 < amount ∧
        claimByMs < refundAfterMs ∧ timestamp * 1000 < refundAfterMs ∧ paid = true then
      some (Function.update locks hashLock
        ⟨sender, payee, token, amount, claimByMs, refundAfterMs, .locked⟩)
    else none
  | .claim hashLock opens paid =>
    if (locks hashLock).status = .locked ∧ timestamp * 1000 < (locks hashLock).refundAfterMs ∧
        opens = true ∧ paid = true then
      some (Function.update locks hashLock { locks hashLock with status := .claimed })
    else none
  | .refund sender hashLock paid =>
    if (locks hashLock).status = .locked ∧ sender = (locks hashLock).payer ∧
        (locks hashLock).refundAfterMs ≤ timestamp * 1000 ∧ paid = true then
      some (Function.update locks hashLock { locks hashLock with status := .refunded })
    else none

/-! ## The chain -/

/-- A block, with the calls that reach the contract in it, in the order of what they write. -/
structure Block where
  timestamp : Nat
  calls : List Call
deriving DecidableEq, Repr

/-- A call that reverts leaves nothing. -/
def Block.run (locks : Locks) (block : Block) : Locks :=
  block.calls.foldl (fun locks call => (call.run block.timestamp locks).getD locks) locks

/-- The state after the block of this number. -/
def locksAt (chain : List Block) (number : Nat) : Locks :=
  (chain.take (number + 1)).foldl Block.run Locks.empty

/-- `locks(hashLock)` there, if it is not the row of a lock that was never made. -/
def rowAt (chain : List Block) (number : Nat) (hashLock : String) : Option Lock :=
  if (locksAt chain number hashLock).status = .none then none
  else some (locksAt chain number hashLock)

/-! ## The node -/

/-- The chain that a node has taken for the canonical one, and the number of the block that it has
under the finality tag, if it serves that tag. -/
structure NodeView where
  chain : List Block
  tagged : Option Nat
deriving DecidableEq, Repr

structure RpcFailure where
  code : Option Int
  message : String
deriving DecidableEq, Repr

/-- How a request is answered: by the state of the node, by something that is no such answer, or by
an error. -/
inductive Reply where
  | answered
  | malformed
  | failed (failure : RpcFailure)
deriving DecidableEq, Repr

structure NodeRun where
  view : Nat → NodeView
  reply : Nat → Reply

/-- One request; nothing is what an answer of the wrong form is read as. -/
def NodeRun.ask {α : Type} (run : NodeRun) (now : Nat) (read : NodeView → α) :
    Except RpcFailure (Option α) :=
  match run.reply now with
  | .answered => .ok (some (read (run.view now)))
  | .malformed => .ok none
  | .failed failure => .error failure

structure EvmBlockHead where
  number : Nat
  timestampMs : ℚ
deriving DecidableEq

/-- `blockHeadOf`, of a block: its time is a double. -/
def blockHeadOf (number : Nat) (block : Block) : EvmBlockHead :=
  ⟨number, Double.round ((block.timestamp * 1000 : ℕ) : ℚ)⟩

def NodeView.blockByNumber (view : NodeView) (number : Nat) : Option EvmBlockHead :=
  (view.chain[number]?).map (blockHeadOf number)

def NodeView.taggedBlock (view : NodeView) : Option EvmBlockHead :=
  view.tagged.bind view.blockByNumber

/-- `eth_blockNumber` -/
def NodeView.head (view : NodeView) : Nat := view.chain.length - 1

/-! ## The reads -/

section

variable (run : NodeRun) (now : Nat)

def numberedBlock (confirmations : Int) : Except RpcFailure (Option EvmBlockHead) := do
  match ← run.ask now NodeView.head with
  | none => return none
  | some head =>
    if (head : Int) - confirmations < 0 then return none
    let raw ← run.ask (now + 1) (·.blockByNumber (head - confirmations).toNat)
    return raw.join

/-- The node says that it does not serve the tag. -/
def RpcFailure.unserved (failure : RpcFailure) : Bool :=
  failure.code = some (-32601) || failure.code = some (-32602)

def finalizedBlockForVerdict : Evm.EvmFinality → Except RpcFailure (Option EvmBlockHead)
  | .confirmations confirmations => numberedBlock run now confirmations
  | .tag _ fallbackConfirmations =>
    let fallback : Except RpcFailure (Option EvmBlockHead) :=
      match fallbackConfirmations with
      | none => .ok none
      | some confirmations => numberedBlock run (now + 1) confirmations
    match run.ask now NodeView.taggedBlock with
    | .error failure => if failure.unserved then fallback else .ok none
    | .ok (some none) => fallback
    | .ok (some (some head)) => .ok (some head)
    | .ok none => .ok none

/-- `readLock`, at a block or at the latest one. -/
def readLock (hashLock : String) (atBlock : Option Nat) : Except RpcFailure (Option Lock) := do
  let row ← run.ask now fun view => rowAt view.chain (atBlock.getD view.head) hashLock
  need row ⟨none, "evm-htlc: locks(hashLock) returned no row"⟩

inductive EvmLockAbsence where
  | notFinal
  | landed (row : Lock)
  | neverLocked (finalized : EvmBlockHead)
deriving DecidableEq

def readLockAbsence (finality : Evm.EvmFinality) (hashLock : String) (refundAfterMs : Int) :
    Except RpcFailure EvmLockAbsence := do
  match ← finalizedBlockForVerdict run now finality with
  | none => return .notFinal
  | some finalized =>
    let latest ← readLock run (now + 3) hashLock none
    match ← readLock run (now + 4) hashLock (some finalized.number) with
    | some row => return .landed row
    | none =>
      if finalized.timestampMs < refundAfterMs then return .notFinal
      if latest.isSome then return .notFinal
      return .neverLocked finalized

inductive LockAbsence where
  | notFinal
  | landed
  | neverLocked
deriving DecidableEq, Repr

/-- `lockAbsence` of the client's rail, for this account. -/
def lockAbsence (finality : Evm.EvmFinality) (account ref : String) (refundAfterMs : Int) :
    Except RpcFailure LockAbsence := do
  match ← readLockAbsence run now finality ref refundAfterMs with
  | .notFinal => return .notFinal
  | .neverLocked _ => return .neverLocked
  | .landed row =>
    require (toLowerCase row.payer = toLowerCase account)
      ⟨none, "a lock already exists under this hash lock with payer " ++ row.payer ++
        ", not this account " ++ account⟩
    return .landed

end

/-! ## What a call leaves -/

/-- Every row stays with its refund time, and a new one has a refund time after this block. -/
def Follows (timestamp : Nat) (locks locks' : Locks) : Prop :=
  ∀ hashLock,
    ((locks hashLock).status ≠ .none → (locks' hashLock).status ≠ .none ∧
      (locks' hashLock).refundAfterMs = (locks hashLock).refundAfterMs) ∧
    ((locks hashLock).status = .none →
      (locks' hashLock).status = .none ∨ timestamp * 1000 < (locks' hashLock).refundAfterMs)

/-- Locks follow themselves. -/
theorem Follows.refl (timestamp : Nat) (locks : Locks) : Follows timestamp locks locks :=
  fun _ => ⟨fun h => ⟨h, rfl⟩, fun h => .inl h⟩

/-- Following is transitive. -/
theorem Follows.trans {timestamp : Nat} {locks locks' locks'' : Locks}
    (h : Follows timestamp locks locks') (h' : Follows timestamp locks' locks'') :
    Follows timestamp locks locks'' := by
  intro hashLock
  obtain ⟨hKept, hNew⟩ := h hashLock
  obtain ⟨hKept', hNew'⟩ := h' hashLock
  refine ⟨fun hMade => ?_, fun hNone => ?_⟩
  · obtain ⟨hStill, hSame⟩ := hKept hMade
    obtain ⟨hStill', hSame'⟩ := hKept' hStill
    exact ⟨hStill', hSame'.trans hSame⟩
  · by_cases hStill : (locks' hashLock).status = .none
    · exact hNew' hStill
    · -- it was made before, and keeps its refund time
      have hLate := (hNew hNone).resolve_left hStill
      exact .inr ((hKept' hStill).2.symm ▸ hLate)

/-- A call writes one row; a new one passed the guard on the refund time. -/
theorem Call.run_follows {timestamp : Nat} {locks locks' : Locks} {call : Call}
    (h : call.run timestamp locks = some locks') : Follows timestamp locks locks' := by
  intro key
  cases call with
  | lock sender hashLock payee amount token claimByMs refundAfterMs paid =>
    obtain ⟨⟨hNone, -, -, -, hTime, -⟩, h⟩ := Option.ite_none_right_eq_some.mp h
    cases h
    -- the row of this hash lock is new; every other one is as it was
    by_cases hKey : key = hashLock
    · subst hKey
      rw [Function.update_self]
      exact ⟨fun hMade => absurd hNone hMade, fun _ => .inr hTime⟩
    · rw [Function.update_of_ne hKey]
      exact Follows.refl timestamp locks key
  | claim hashLock opens paid =>
    obtain ⟨⟨hLocked, -⟩, h⟩ := Option.ite_none_right_eq_some.mp h
    cases h
    -- a claimed row keeps its refund time
    by_cases hKey : key = hashLock
    · subst hKey
      rw [Function.update_self, hLocked]
      exact ⟨fun _ => ⟨Status.noConfusion, rfl⟩, Status.noConfusion⟩
    · rw [Function.update_of_ne hKey]
      exact Follows.refl timestamp locks key
  | refund sender hashLock paid =>
    obtain ⟨⟨hLocked, -⟩, h⟩ := Option.ite_none_right_eq_some.mp h
    cases h
    -- and so does a refunded one
    by_cases hKey : key = hashLock
    · subst hKey
      rw [Function.update_self, hLocked]
      exact ⟨fun _ => ⟨Status.noConfusion, rfl⟩, Status.noConfusion⟩
    · rw [Function.update_of_ne hKey]
      exact Follows.refl timestamp locks key

/-- The locks after a block follow those before it. -/
theorem Block.run_follows (locks : Locks) (block : Block) :
    Follows block.timestamp locks (block.run locks) := by
  have hCalls : ∀ (calls : List Call) (locks : Locks), Follows block.timestamp locks
      (calls.foldl (fun locks call => (Call.run block.timestamp locks call).getD locks) locks) := by
    intro calls
    induction calls with
    | nil => exact Follows.refl block.timestamp
    | cons call calls ih =>
      intro locks
      have hCall : Follows block.timestamp locks
          ((call.run block.timestamp locks).getD locks) := by
        cases hRun : call.run block.timestamp locks with
        | none => exact Follows.refl block.timestamp locks
        | some locks' => exact Call.run_follows hRun
      exact hCall.trans (ih _)
  exact hCalls block.calls locks

/-! ## What a chain leaves -/

section

variable {chain : List Block} {hashLock : String} {row : Lock}

/-- The state after one more block, or the same beyond the end. -/
theorem locksAt_succ (chain : List Block) (number : Nat) :
    locksAt chain (number + 1) =
      (chain[number + 1]?).elim (locksAt chain number) (Block.run (locksAt chain number)) := by
  unfold locksAt
  rw [List.take_add_one, List.foldl_append]
  cases chain[number + 1]? <;> rfl

/-- A row is there when its lock is set. -/
theorem rowAt_eq_some {number : Nat} :
    rowAt chain number hashLock = some row ↔
      (locksAt chain number hashLock).status ≠ .none ∧ locksAt chain number hashLock = row := by
  unfold rowAt
  rw [Option.ite_none_left_eq_some, Option.some.injEq]

/-- No row is there when its lock is not set. -/
theorem rowAt_eq_none {number : Nat} :
    rowAt chain number hashLock = none ↔ (locksAt chain number hashLock).status = .none := by
  unfold rowAt
  rw [ite_eq_left_iff]
  simp

/-- A row stays. -/
theorem rowAt_stays {first last : Nat} (h : first ≤ last)
    (hMade : (locksAt chain first hashLock).status ≠ .none) :
    (locksAt chain last hashLock).status ≠ .none := by
  induction last, h using Nat.le_induction with
  | base => exact hMade
  | succ last _ ih =>
    rw [locksAt_succ]
    cases chain[last + 1]? with
    | none => exact ih
    | some block => exact ((Block.run_follows _ block hashLock).1 ih).1

/-- A row that is not there at one block and is there at a later one has a refund time after some
block in between. -/
theorem rowAt_made {first last : Nat} (h : first ≤ last)
    (hNone : (locksAt chain first hashLock).status = .none)
    (hMade : (locksAt chain last hashLock).status ≠ .none) :
    ∃ number block, first < number ∧ chain[number]? = some block ∧
      block.timestamp * 1000 < (locksAt chain last hashLock).refundAfterMs := by
  induction last, h using Nat.le_induction with
  | base => exact absurd hNone hMade
  | succ last hLe ih =>
    rw [locksAt_succ] at hMade ⊢
    cases hBlock : chain[last + 1]? with
    | none =>
      rw [hBlock] at hMade
      exact ih hMade
    | some block =>
      rw [hBlock] at hMade
      obtain ⟨hKept, hNew⟩ := Block.run_follows (locksAt chain last) block hashLock
      by_cases hLast : (locksAt chain last hashLock).status = .none
      · exact ⟨last + 1, block, Nat.lt_succ_of_le hLe, hBlock, (hNew hLast).resolve_left hMade⟩
      · obtain ⟨number, earlier, hNumber, hEarlier, hTime⟩ := ih hLast
        exact ⟨number, earlier, hNumber, hEarlier, (hKept hLast).2.symm ▸ hTime⟩

/-- Once a block at or after the refund time has no row, no block has one with that refund time. -/
theorem rowAt_never (hOrdered : chain.Pairwise fun a b => a.timestamp ≤ b.timestamp)
    {final : Nat} {block : Block} (hBlock : chain[final]? = some block)
    (hNone : rowAt chain final hashLock = none) {refundAfterMs : Int}
    (hLate : refundAfterMs ≤ (block.timestamp * 1000 : ℕ)) {number : Nat}
    (hRow : rowAt chain number hashLock = some row) :
    (row.refundAfterMs : Int) ≠ refundAfterMs := by
  rw [rowAt_eq_none] at hNone
  obtain ⟨hMade, rfl⟩ := rowAt_eq_some.mp hRow
  intro hSame
  rcases Nat.le_total number final with hLe | hLe
  · exact rowAt_stays hLe hMade hNone
  · obtain ⟨between, later, hBetween, hLater, hTime⟩ := rowAt_made hLe hNone hMade
    obtain ⟨hLt, hAt⟩ := List.getElem?_eq_some_iff.mp hLater
    obtain ⟨hFinal, hAtFinal⟩ := List.getElem?_eq_some_iff.mp hBlock
    have hTimes := List.pairwise_iff_getElem.mp hOrdered final between hFinal hLt hBetween
    rw [hAt, hAtFinal] at hTimes
    omega

end

/-! ## What the node keeps -/

/-- Below the settled block of a moment no block is ever given up, and times do not decrease. -/
structure NodeRun.Settles (run : NodeRun) (settled : Nat → Nat) : Prop where
  within : ∀ t, settled t < (run.view t).chain.length
  rises : ∀ t, settled t ≤ settled (t + 1)
  keeps : ∀ t, (run.view (t + 1)).chain.take (settled t + 1) =
    (run.view t).chain.take (settled t + 1)
  ordered : ∀ t, (run.view t).chain.Pairwise fun a b => a.timestamp ≤ b.timestamp

/-- The block so far below the head is settled. -/
def NodeView.Deep (view : NodeView) (settled : Nat) (confirmations : Int) : Prop :=
  ∀ number : Nat, (number : Int) = view.head - confirmations → number ≤ settled

/-- What this finality takes for final is settled. -/
def NodeView.Honours (view : NodeView) (settled : Nat) : Evm.EvmFinality → Prop
  | .confirmations confirmations => view.Deep settled confirmations
  | .tag _ fallbackConfirmations =>
    (∀ number, view.tagged = some number → number ≤ settled) ∧
      ∀ confirmations, fallbackConfirmations = some confirmations → view.Deep settled confirmations

section

variable {run : NodeRun} {settled : Nat → Nat}

/-- What has settled stays settled. -/
theorem NodeRun.Settles.mono (h : run.Settles settled) {a b : Nat} (hLe : a ≤ b) :
    settled a ≤ settled b := by
  induction b, hLe using Nat.le_induction with
  | base => exact le_refl (settled a)
  | succ b _ ih => exact ih.trans (h.rises b)

/-- The settled part of the chain stays as it is. -/
theorem NodeRun.Settles.take (h : run.Settles settled) {a b number : Nat} (hLe : a ≤ b)
    (hNumber : number ≤ settled a) :
    (run.view b).chain.take (number + 1) = (run.view a).chain.take (number + 1) := by
  induction b, hLe using Nat.le_induction with
  | base => rfl
  | succ b hLe ih =>
    have hUnder : number + 1 ≤ settled b + 1 :=
      Nat.succ_le_succ (hNumber.trans (h.mono hLe))
    have hStep := congrArg (List.take (number + 1)) (h.keeps b)
    rw [List.take_take, List.take_take, Nat.min_eq_left hUnder] at hStep
    rw [hStep, ih]

/-- A settled block has the same rows from then on. -/
theorem NodeRun.Settles.rowAt (h : run.Settles settled) {a b number : Nat} (hLe : a ≤ b)
    (hNumber : number ≤ settled a) (hashLock : String) :
    rowAt (run.view b).chain number hashLock = rowAt (run.view a).chain number hashLock := by
  unfold EvmLock.rowAt locksAt
  rw [h.take hLe hNumber]

/-- A settled block stays as it is. -/
theorem NodeRun.Settles.block (h : run.Settles settled) {a b number : Nat} (hLe : a ≤ b)
    (hNumber : number ≤ settled a) :
    (run.view b).chain[number]? = (run.view a).chain[number]? := by
  have hSame := congrArg (fun blocks => blocks[number]?) (h.take hLe hNumber)
  rwa [List.getElem?_take_of_lt (Nat.lt_succ_self number),
    List.getElem?_take_of_lt (Nat.lt_succ_self number)] at hSame

/-! ## What the reads say -/

/-- An answer is read off the view of its moment. -/
theorem ask_eq_ok {α : Type} {now : Nat} {read : NodeView → α} {a : α}
    (h : run.ask now read = .ok (some a)) : read (run.view now) = a := by
  unfold NodeRun.ask at h
  split at h
  · exact Option.some.inj (Except.ok.inj h)
  · cases h
  · cases h

/-- The head that a verdict rests on is that of a block that was settled when it was read. -/
def Settled (run : NodeRun) (settled : Nat → Nat) (last : Nat) (head : EvmBlockHead) : Prop :=
  ∃ t block, t ≤ last ∧ head.number ≤ settled t ∧
    (run.view t).chain[head.number]? = some block ∧ head = blockHeadOf head.number block

/-- A block deep enough is settled. -/
theorem numberedBlock_settled (hSettles : run.Settles settled) {now : Nat} {confirmations : Int}
    (hDeep : (run.view now).Deep (settled now) confirmations) {head : EvmBlockHead}
    (h : numberedBlock run now confirmations = .ok (some head)) :
    Settled run settled (now + 1) head := by
  unfold numberedBlock at h
  obtain ⟨tip, hTip, h⟩ := bind_eq_ok.mp h
  cases tip with
  | none => cases h
  | some tip =>
    dsimp only at h
    split at h
    · cases h
    · rename_i hTarget
      obtain ⟨raw, hRaw, h⟩ := bind_eq_ok.mp h
      cases raw with
      | none => cases h
      | some raw =>
        have hHead : raw = some head := Except.ok.inj h
        have hBlock := (ask_eq_ok hRaw).trans hHead
        obtain ⟨block, hAt, rfl⟩ := Option.map_eq_some_iff.mp hBlock
        have hTip := ask_eq_ok hTip
        have hNumber : ((tip - confirmations).toNat : Int) =
            (run.view now).head - confirmations := by
          rw [hTip]
          omega
        exact ⟨now + 1, block, le_refl _, (hDeep _ hNumber).trans (hSettles.rises now), hAt, rfl⟩

/-- The block that the verdict rests on is settled. -/
theorem finalizedBlockForVerdict_settled (hSettles : run.Settles settled)
    {finality : Evm.EvmFinality}
    (hFinal : ∀ t, (run.view t).Honours (settled t) finality) {now : Nat} {head : EvmBlockHead}
    (h : finalizedBlockForVerdict run now finality = .ok (some head)) :
    Settled run settled (now + 2) head := by
  have hLater {head : EvmBlockHead} (h : Settled run settled (now + 1) head) :
      Settled run settled (now + 2) head :=
    let ⟨t, block, hLe, hRest⟩ := h
    ⟨t, block, hLe.trans (Nat.le_succ (now + 1)), hRest⟩
  cases finality with
  | confirmations confirmations => exact hLater (numberedBlock_settled hSettles (hFinal now) h)
  | tag tag fallbackConfirmations =>
    -- without an answer to the tag the verdict rests on the configured depth, if there is one
    have hFallback (h : (match fallbackConfirmations with
        | none => Except.ok none
        | some confirmations => numberedBlock run (now + 1) confirmations) = .ok (some head)) :
        Settled run settled (now + 2) head := by
      cases fallbackConfirmations with
      | none => cases h
      | some confirmations =>
        exact numberedBlock_settled hSettles ((hFinal (now + 1)).2 confirmations rfl) h
    unfold finalizedBlockForVerdict at h
    dsimp only at h
    split at h
    · split at h
      · exact hFallback h
      · cases h
    · exact hFallback h
    · rename_i found hAsked
      cases Except.ok.inj h
      obtain ⟨number, hTagged, hBlock⟩ := Option.bind_eq_some_iff.mp (ask_eq_ok hAsked)
      obtain ⟨block, hAt, rfl⟩ := Option.map_eq_some_iff.mp hBlock
      exact hLater ⟨now, block, Nat.le_succ now, (hFinal now).1 number hTagged, hAt, rfl⟩
    · cases h

/-- The row read is that of the block named. -/
theorem readLock_eq_ok {now : Nat} {hashLock : String} {number : Nat} {row : Option Lock}
    (h : readLock run now hashLock (some number) = .ok row) :
    rowAt (run.view now).chain number hashLock = row := by
  unfold readLock at h
  obtain ⟨answer, hAsked, h⟩ := bind_eq_ok.mp h
  have hAnswer := need_eq_ok.mp h
  rw [hAnswer] at hAsked
  exact ask_eq_ok hAsked

/-! ## The verdicts -/

/-- From a moment on no block of the chain, and of the settled chain no block at any moment, has a
row with this refund time under the hash lock. -/
def NeverLocked (run : NodeRun) (settled : Nat → Nat) (since : Nat) (hashLock : String)
    (refundAfterMs : Int) : Prop :=
  ∀ t number row, since ≤ t ∨ number ≤ settled t →
    rowAt (run.view t).chain number hashLock = some row → (row.refundAfterMs : Int) ≠ refundAfterMs

/-- The row is that of a settled block, in the chain of every later moment. -/
def Landed (run : NodeRun) (settled : Nat → Nat) (since : Nat) (hashLock : String) (row : Lock) :
    Prop :=
  ∃ number, ∀ t, since ≤ t →
    number ≤ settled t ∧ rowAt (run.view t).chain number hashLock = some row

section

variable {finality : Evm.EvmFinality} {hashLock : String} {refundAfterMs : Int} {now : Nat}

/-- A time that reads as one at or after the refund time is one. -/
theorem le_of_not_lt_round {time : Nat} (hSafe : Double.isSafe refundAfterMs = true)
    (h : ¬ Double.round ((time : ℕ) : ℚ) < refundAfterMs) : refundAfterMs ≤ time := by
  by_contra hLt
  have hSmall : |(time : Int)| < 2 ^ 53 := by
    have hBound : |refundAfterMs| < 2 ^ 53 := of_decide_eq_true hSafe
    rw [abs_lt] at hBound ⊢
    omega
  have hExact := Double.round_intCast hSmall
  apply h
  rw [show ((time : ℕ) : ℚ) = ((time : Int) : ℚ) by push_cast; rfl, hExact]
  exact_mod_cast not_le.mp hLt

/-- A lock called landed is in the settled chain. -/
theorem readLockAbsence_landed (hSettles : run.Settles settled)
    (hFinal : ∀ t, (run.view t).Honours (settled t) finality) {row : Lock}
    (h : readLockAbsence run now finality hashLock refundAfterMs = .ok (.landed row)) :
    Landed run settled (now + 4) hashLock row := by
  unfold readLockAbsence at h
  obtain ⟨finalized, hFinalized, h⟩ := bind_eq_ok.mp h
  cases finalized with
  | none => cases h
  | some finalized =>
    obtain ⟨latest, -, h⟩ := bind_eq_ok.mp h
    obtain ⟨found, hFound, h⟩ := bind_eq_ok.mp h
    obtain ⟨t, block, hLe, hNumber, -⟩ :=
      finalizedBlockForVerdict_settled hSettles hFinal hFinalized
    cases found with
    | none =>
      dsimp only at h
      split at h
      · cases h
      · split at h <;> cases h
    | some found =>
      cases Except.ok.inj h
      have hAt := hNumber.trans (hSettles.mono (show t ≤ now + 4 by omega))
      refine ⟨finalized.number, fun later hLater => ⟨hAt.trans (hSettles.mono hLater), ?_⟩⟩
      rw [hSettles.rowAt hLater hAt, readLock_eq_ok hFound]

/-- A lock called never locked is absent past its refund time. -/
theorem readLockAbsence_neverLocked (hSettles : run.Settles settled)
    (hFinal : ∀ t, (run.view t).Honours (settled t) finality)
    (hSafe : Double.isSafe refundAfterMs = true) {finalized : EvmBlockHead}
    (h : readLockAbsence run now finality hashLock refundAfterMs = .ok (.neverLocked finalized)) :
    NeverLocked run settled (now + 4) hashLock refundAfterMs := by
  unfold readLockAbsence at h
  obtain ⟨head, hHead, h⟩ := bind_eq_ok.mp h
  cases head with
  | none => cases h
  | some head =>
    obtain ⟨latest, -, h⟩ := bind_eq_ok.mp h
    obtain ⟨found, hFound, h⟩ := bind_eq_ok.mp h
    cases found with
    | some found => cases h
    | none =>
      dsimp only at h
      split at h
      · cases h
      · rename_i hLate
        obtain ⟨t, block, hLe, hNumber, hBlock, hIs⟩ :=
          finalizedBlockForVerdict_settled hSettles hFinal hHead
        have hTime : refundAfterMs ≤ (block.timestamp * 1000 : ℕ) := by
          rw [hIs] at hLate
          exact le_of_not_lt_round hSafe hLate
        have hAt := hNumber.trans (hSettles.mono (show t ≤ now + 4 by omega))
        -- the block and its missing row are in the chain of every later moment
        have hAfter {later number : Nat} {row : Lock} (hLater : now + 4 ≤ later)
            (hRow : rowAt (run.view later).chain number hashLock = some row) :
            (row.refundAfterMs : Int) ≠ refundAfterMs := by
          have hStill := (hSettles.block (show t ≤ later by omega) hNumber).trans hBlock
          have hNone := (hSettles.rowAt hLater hAt hashLock).trans (readLock_eq_ok hFound)
          exact rowAt_never (hSettles.ordered later) hStill hNone hTime hRow
        intro later number row hWhen hRow
        rcases Nat.le_total (now + 4) later with hLater | hEarlier
        · exact hAfter hLater hRow
        · rcases hWhen with hSince | hSettled
          · exact hAfter hSince hRow
          · rw [← hSettles.rowAt hEarlier hSettled] at hRow
            exact hAfter (le_refl _) hRow

end

end

/-- A lock attempt is called never made only when no block of the settled chain, before or after,
has a lock with its refund time, and landed only from the row of a settled block; so for the
client's rail, which also takes the row for its own account's only. -/
theorem readLockAbsence_permanent {run : NodeRun} {settled : Nat → Nat}
    (hSettles : run.Settles settled) {finality : Evm.EvmFinality}
    (hFinal : ∀ t, (run.view t).Honours (settled t) finality) (account hashLock : String)
    {refundAfterMs : Int} (hSafe : Double.isSafe refundAfterMs = true) (now : Nat) :
    (∀ finalized, readLockAbsence run now finality hashLock refundAfterMs =
        .ok (.neverLocked finalized) →
      NeverLocked run settled (now + 4) hashLock refundAfterMs) ∧
    (∀ row, readLockAbsence run now finality hashLock refundAfterMs = .ok (.landed row) →
      Landed run settled (now + 4) hashLock row) ∧
    (lockAbsence run now finality account hashLock refundAfterMs = .ok .neverLocked →
      NeverLocked run settled (now + 4) hashLock refundAfterMs) ∧
    (lockAbsence run now finality account hashLock refundAfterMs = .ok .landed →
      ∃ row, Landed run settled (now + 4) hashLock row ∧
        toLowerCase row.payer = toLowerCase account) := by
  refine ⟨fun finalized h => readLockAbsence_neverLocked hSettles hFinal hSafe h,
    fun row h => readLockAbsence_landed hSettles hFinal h, fun h => ?_, fun h => ?_⟩
  · unfold lockAbsence at h
    obtain ⟨found, hFound, h⟩ := bind_eq_ok.mp h
    cases found with
    | notFinal => cases h
    | neverLocked finalized => exact readLockAbsence_neverLocked hSettles hFinal hSafe hFound
    | landed row =>
      obtain ⟨-, h⟩ := require_bind_eq_ok.mp h
      cases h
  · unfold lockAbsence at h
    obtain ⟨found, hFound, h⟩ := bind_eq_ok.mp h
    cases found with
    | notFinal => cases h
    | neverLocked finalized => cases h
    | landed row =>
      obtain ⟨hPayer, -⟩ := require_bind_eq_ok.mp h
      exact ⟨row, readLockAbsence_landed hSettles hFinal hFound, hPayer⟩

namespace Sample

def attempt (refundAfterMs : Nat) : Call :=
  .lock "0xaa" "0x01" "0xbb" 7 "0xcc" 2000 refundAfterMs true

/-- A third block with another lock is given up for one with the attempt, which is too late and
reverts. Then the chain grows by a block in which another lock is made. -/
def chainAt (t : Nat) : List Block :=
  if t < 3 then [⟨1, []⟩, ⟨5, []⟩, ⟨6, [attempt 9000]⟩]
  else if t < 5 then [⟨1, []⟩, ⟨5, []⟩, ⟨7, [attempt 3000]⟩]
  else [⟨1, []⟩, ⟨5, []⟩, ⟨7, [attempt 3000]⟩, ⟨8, [attempt 9000]⟩]

def settledAt (t : Nat) : Nat := if t < 5 then 1 else 2

/-- A node whose second block is final, and after the refund time. -/
def run : NodeRun := ⟨fun t => ⟨chainAt t, some (settledAt t)⟩, fun _ => .answered⟩

/-- The sample gives up no block that is settled. -/
theorem settles : run.Settles settledAt where
  within t := by
    show settledAt t < (chainAt t).length
    unfold settledAt chainAt
    split_ifs <;> decide
  rises t := by
    unfold settledAt
    split_ifs <;> omega
  keeps t := by
    show (chainAt (t + 1)).take (settledAt t + 1) = (chainAt t).take (settledAt t + 1)
    unfold settledAt chainAt
    split_ifs <;> first | rfl | omega
  ordered t := by
    show (chainAt t).Pairwise fun a b => a.timestamp ≤ b.timestamp
    unfold chainAt
    split_ifs <;> decide

/-- At first the latest row is that of the block which is given up, at last that of a new one. -/
theorem rows : (rowAt (chainAt 0) 2 "0x01").map (·.refundAfterMs) = some 9000 ∧
    rowAt (chainAt 3) 2 "0x01" = none ∧
    (rowAt (chainAt 5) 3 "0x01").map (·.refundAfterMs) = some 9000 := by
  decide

/-- The attempt is called never locked, in the chain without either. -/
theorem reads : readLockAbsence run 0 (.tag "finalized" none) "0x01" 3000 =
    .ok (.neverLocked (blockHeadOf 1 ⟨5, []⟩)) := by
  have hRound : ¬ Double.round ((5 * 1000 : ℕ) : ℚ) < (3000 : Int) := by
    rw [show ((5 * 1000 : ℕ) : ℚ) = ((5000 : Int) : ℚ) by norm_num,
      Double.round_intCast (by decide)]
    norm_num
  show (if Double.round ((5 * 1000 : ℕ) : ℚ) < (3000 : Int) then
    Except.ok EvmLockAbsence.notFinal else if (rowAt (chainAt 3) 2 "0x01").isSome then
      Except.ok EvmLockAbsence.notFinal else _) = _
  rw [if_neg hRound, rows.2.1]
  rfl

end Sample

/-- The verdict stands although a block with another lock is given up between the reads, and one
is made after them. -/
theorem readLockAbsence_permanent_sample :
    (rowAt (Sample.chainAt 0) 2 "0x01").map (·.refundAfterMs) = some 9000 ∧
    (rowAt (Sample.chainAt 5) 3 "0x01").map (·.refundAfterMs) = some 9000 ∧
    readLockAbsence Sample.run 0 (.tag "finalized" none) "0x01" 3000 =
        .ok (.neverLocked (blockHeadOf 1 ⟨5, []⟩)) ∧
      NeverLocked Sample.run Sample.settledAt 4 "0x01" 3000 := by
  have hFinal (t : Nat) : (Sample.run.view t).Honours (Sample.settledAt t)
      (.tag "finalized" none) :=
    ⟨fun _ h => (Option.some.inj h).ge, fun _ h => nomatch h⟩
  obtain ⟨hGivenUp, -, hGrown⟩ := Sample.rows
  exact ⟨hGivenUp, hGrown, Sample.reads, (readLockAbsence_permanent Sample.settles hFinal
    "0xaa" "0x01" (by decide) 0).1 _ Sample.reads⟩

end SwapDesk.Rails.EvmLock
