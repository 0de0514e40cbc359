import SwapDesk.HashRail.Effects
import SwapDesk.Lib.Bytes
import SwapDesk.Rails.EvmLockAbsence

/-!
# SwapDesk — the EVM hash rail as the desk reads it

The desk reads the rows of the rail at the blocks of a chain, by the texts of hash locks and
addresses (`SwapDesk.Rails.EvmLockAbsence`). There a call is one that foreign code has no part in.
Every run of the rail, with all that foreign code does, leaves the rows of such a chain.

Main result: `run_is_chain`.
-/

namespace SwapDesk.HashRail

open Relation Rails

variable {env : Deployment} {timestamp : Nat} {w w' : World}

-- ---------------------------------------------------------------------------
-- Texts
-- ---------------------------------------------------------------------------

/-- A number as that many bytes in hexadecimal, the first one the highest. -/
def hexText (width n : Nat) : String :=
  String.ofList ('0' :: 'x' :: Hex.encode (Bytes.toLe width n).reverse)

def addressText (a : Address) : String := hexText 20 a.toNat

def hashText (hashLock : Bytes32) : String := hexText 32 hashLock.toNat

/-- Numbers of one width print alike only if they are the same. -/
theorem hexText_inj {width m n : Nat} (hM : m < 256 ^ width) (hN : n < 256 ^ width) :
    hexText width m = hexText width n ↔ m = n := by
  refine ⟨fun h => ?_, congrArg (hexText width)⟩
  have hDigits := (List.cons.inj (List.cons.inj (String.ofList_inj.mp h)).2).2
  have hBytes := Option.some.inj
    ((Hex.decode_encode _).symm.trans ((congrArg Hex.decode hDigits).trans (Hex.decode_encode _)))
  have hLe := congrArg Bytes.fromLe (List.reverse_inj.mp hBytes)
  rwa [Bytes.fromLe_toLe, Bytes.fromLe_toLe, Nat.mod_eq_of_lt hM, Nat.mod_eq_of_lt hN] at hLe

/-- Addresses print alike only if they are the same. -/
theorem addressText_inj {a b : Address} : addressText a = addressText b ↔ a = b := by
  unfold addressText
  rw [hexText_inj (lt_of_lt_of_eq a.isLt (by norm_num)) (lt_of_lt_of_eq b.isLt (by norm_num))]
  exact BitVec.toNat_inj

/-- Hashes print alike only if they are the same. -/
theorem hashText_inj {a b : Bytes32} : hashText a = hashText b ↔ a = b := by
  unfold hashText
  rw [hexText_inj (lt_of_lt_of_eq a.isLt (by norm_num)) (lt_of_lt_of_eq b.isLt (by norm_num))]
  exact BitVec.toNat_inj

/-- The zero address prints as the client's. -/
theorem addressText_zero : addressText 0 = EvmLock.ZERO_ADDRESS := by
  decide +kernel

-- ---------------------------------------------------------------------------
-- Rows
-- ---------------------------------------------------------------------------

def Status.shown : Status → EvmLock.Status
  | .none => .none
  | .locked => .locked
  | .claimed => .claimed
  | .refunded => .refunded

def Lock.shown (row : Lock) : EvmLock.Lock :=
  ⟨addressText row.payer, addressText row.payee, addressText row.token, row.amount, row.claimByMs,
    row.refundAfterMs, row.status.shown⟩

/-- A row is shown as it is; of one that was never made only that is shown. -/
def Shows (row : Lock) (shown : EvmLock.Lock) : Prop :=
  if row.status = .none then shown.status = .none else shown = row.shown

/-- Every row of the rail is shown under its hash lock. -/
def World.ShownBy (w : World) (locks : EvmLock.Locks) : Prop :=
  ∀ hashLock, Shows (w.locks hashLock) (locks (hashText hashLock))

/-- An empty row is shown as none. -/
theorem Shows.none {row : Lock} {shown : EvmLock.Lock} (h : Shows row shown)
    (hNone : row.status = .none) : shown.status = .none := by
  unfold Shows at h
  rwa [if_pos hNone] at h

/-- A row that was made is shown as it is. -/
theorem Shows.made {row : Lock} {shown : EvmLock.Lock} (h : Shows row shown)
    (hMade : row.status ≠ .none) : shown = row.shown := by
  unfold Shows at h
  rwa [if_neg hMade] at h

/-- A write is shown by the same write of the client's rows. -/
theorem World.ShownBy.write {locks : EvmLock.Locks} (h : w.ShownBy locks) {hashLock : Bytes32}
    {row : Lock} {event : Event} {tokens : Address → Token} (hMade : row.status ≠ .none) :
    ((w.write hashLock row event).withTokens tokens).ShownBy
      (Function.update locks (hashText hashLock) row.shown) := by
  intro other
  by_cases hIs : other = hashLock
  · subst hIs
    rw [Function.update_self]
    show Shows (Function.update w.locks other row other) row.shown
    unfold Shows
    rw [Function.update_self, if_neg hMade]
  · rw [Function.update_of_ne fun hText => hIs (hashText_inj.mp hText)]
    show Shows (Function.update w.locks hashLock row other) _
    rw [Function.update_of_ne hIs]
    exact h other

/-- An open row is shown as it is. -/
theorem shown_locked {locks : EvmLock.Locks} (hShown : w.ShownBy locks) {hashLock : Bytes32}
    (hLocked : (w.locks hashLock).status = .locked) :
    locks (hashText hashLock) = (w.locks hashLock).shown ∧
      (locks (hashText hashLock)).status = .locked := by
  have hMade : (w.locks hashLock).status ≠ .none := by
    rw [hLocked]
    decide
  have hRow := (hShown hashLock).made hMade
  refine ⟨hRow, ?_⟩
  rw [hRow]
  exact congrArg Status.shown hLocked

/-- An effect on a row is a call of the rail in which foreign code has no part. -/
theorem Effect.shown {locks : EvmLock.Locks} (hShown : w.ShownBy locks)
    (h : Effect env timestamp w w') : w'.ShownBy locks ∨
      ∃ call locks', EvmLock.Call.run timestamp locks call = some locks' ∧ w'.ShownBy locks' := by
  cases h with
  | locked sender hashLock payee amount token claimByMs refundAfterMs tokens hNone hPayee hAmount
      hOrder hTime _ =>
    refine .inr ⟨.lock (addressText sender) (hashText hashLock) (addressText payee) amount
      (addressText token) claimByMs refundAfterMs true, _, if_pos ⟨?_, ?_, hAmount, hOrder, hTime,
      rfl⟩, hShown.write Status.noConfusion⟩
    -- the hash lock is free in the node's rows as well
    · exact (hShown hashLock).none hNone
    · rw [← addressText_zero]
      exact fun hText => hPayee (addressText_inj.mp hText)
  | claimed hashLock preimage tokens hLocked hTime _ _ =>
    obtain ⟨hRow, hStatus⟩ := shown_locked hShown hLocked
    -- the window is that of the row which the node shows
    have hBefore : timestamp * 1000 < (locks (hashText hashLock)).refundAfterMs := by
      rw [hRow]
      exact hTime
    refine .inr ⟨.claim (hashText hashLock) true true, _, if_pos ⟨hStatus, hBefore, rfl, rfl⟩, ?_⟩
    rw [hRow]
    exact hShown.write fun h => (by cases h)
  | refunded hashLock tokens hLocked _ hTime _ =>
    obtain ⟨hRow, hStatus⟩ := shown_locked hShown hLocked
    have hAfter : (locks (hashText hashLock)).refundAfterMs ≤ timestamp * 1000 := by
      rw [hRow]
      exact hTime
    refine .inr ⟨.refund (locks (hashText hashLock)).payer (hashText hashLock) true, _,
      if_pos ⟨hStatus, rfl, hAfter, rfl⟩, ?_⟩
    rw [hRow]
    exact hShown.write fun h => (by cases h)
  | called token t _ => exact .inl hShown

-- ---------------------------------------------------------------------------
-- Blocks
-- ---------------------------------------------------------------------------

/-- A transaction is a block of such calls. -/
theorem block_of_flat {locks : EvmLock.Locks} (hShown : w.ShownBy locks)
    (h : ReflTransGen (FlatStep env timestamp) w w') :
    ∃ calls, w'.ShownBy (EvmLock.Block.run locks ⟨timestamp, calls⟩) := by
  induction h with
  | refl => exact ⟨[], hShown⟩
  | tail _ hStep ih =>
    obtain ⟨calls, hShown⟩ := ih
    rcases hStep.effect.shown hShown with hSame | ⟨call, locks', hRun, hNext⟩
    · exact ⟨calls, hSame⟩
    · refine ⟨calls ++ [call], ?_⟩
      have hBlock : EvmLock.Block.run locks ⟨timestamp, calls ++ [call]⟩ = locks' := by
        unfold EvmLock.Block.run at hRun ⊢
        dsimp only at hRun ⊢
        rw [List.foldl_append, List.foldl_cons, List.foldl_nil, hRun]
        rfl
      rw [hBlock]
      exact hNext

/-- A run of the contract is a chain of the client's blocks. -/
theorem chain_of_leads {s s' : State} {es : List (Transaction env)} {locks : EvmLock.Locks}
    (hRun : (system env).Leads s es s') (hShown : s.world.ShownBy locks) :
    ∃ chain : List EvmLock.Block, chain.map (·.timestamp) = es.map (·.timestamp) ∧
      s'.world.ShownBy (chain.foldl EvmLock.Block.run locks) := by
  induction hRun generalizing locks with
  | nil s => exact ⟨[], rfl, hShown⟩
  | @cons s t s' e es hStep hRest ih =>
    obtain ⟨-, -, hFlat⟩ := State.flat_of_step hStep
    obtain ⟨calls, hBlock⟩ := block_of_flat hShown hFlat
    obtain ⟨chain, hTimes, hEnd⟩ := ih hBlock
    refine ⟨⟨e.timestamp, calls⟩ :: chain, ?_, hEnd⟩
    rw [List.map_cons, List.map_cons, hTimes]

/-- The times of a run do not decrease. -/
theorem times_of_leads {s s' : State} {es : List (Transaction env)}
    (hRun : (system env).Leads s es s') :
    (es.map (·.timestamp)).Pairwise (· ≤ ·) ∧ ∀ e ∈ es, s.timestamp ≤ e.timestamp := by
  induction hRun with
  | nil s => exact ⟨.nil, fun e he => by cases he⟩
  | @cons s t s' e es hStep hRest ih =>
    obtain ⟨hTime, hNow, -⟩ := State.flat_of_step hStep
    rw [hNow] at ih
    refine ⟨List.pairwise_cons.mpr ⟨fun time hMem => ?_, ih.1⟩, fun later hLater => ?_⟩
    · obtain ⟨later, hLater, rfl⟩ := List.mem_map.mp hMem
      exact ih.2 later hLater
    · rcases List.mem_cons.mp hLater with rfl | hLater
      · exact hTime
      · exact hTime.trans (ih.2 later hLater)

/-- Whatever foreign code is called in a run of the rail, there is a chain of blocks at the run's
times in which no foreign code has a part, and which leaves the same rows. -/
theorem run_is_chain {s₀ s : State} {es : List (Transaction env)} (hInit : Initial env s₀)
    (hRun : (system env).Leads s₀ es s) :
    ∃ chain : List EvmLock.Block, chain.map (·.timestamp) = es.map (·.timestamp) ∧
      chain.Pairwise (fun a b => a.timestamp ≤ b.timestamp) ∧
      ∀ hashLock, EvmLock.rowAt chain (chain.length - 1) (hashText hashLock) =
        if (s.world.locks hashLock).status = .none then none
        else some (s.world.locks hashLock).shown := by
  -- a deployed contract has no rows
  have hStart : s₀.world.ShownBy EvmLock.Locks.empty := by
    intro hashLock
    rw [hInit.locks]
    exact rfl
  obtain ⟨chain, hTimes, hEnd⟩ := chain_of_leads hRun hStart
  have hOrdered := (times_of_leads hRun).1
  rw [← hTimes] at hOrdered
  refine ⟨chain, hTimes, List.pairwise_map.mp hOrdered, fun hashLock => ?_⟩
  -- the state at the head is that of all the blocks
  have hAll : EvmLock.locksAt chain (chain.length - 1) =
      chain.foldl EvmLock.Block.run EvmLock.Locks.empty := by
    unfold EvmLock.locksAt
    rw [List.take_of_length_le (by omega)]
  have hRow := hEnd hashLock
  unfold EvmLock.rowAt
  rw [hAll]
  -- a row that was never made, then the others
  by_cases hNone : (s.world.locks hashLock).status = .none
  · rw [if_pos hNone, if_pos (hRow.none hNone)]
  · have hMade : (s.world.locks hashLock).shown.status ≠ .none := by
      intro hShown
      refine hNone ?_
      unfold Lock.shown at hShown
      cases hStatus : (s.world.locks hashLock).status with
      | none => rfl
      | locked | claimed | refunded =>
        rw [hStatus] at hShown
        cases hShown
    rw [if_neg hNone, hRow.made hNone, if_neg hMade]

section

open Sample

/-- The attack of the sample run is not to be seen in the row of Alice's lock. -/
theorem run_is_chain_sample : ∃ chain : List EvmLock.Block, chain.map (·.timestamp) = [10, 11] ∧
    EvmLock.rowAt chain (chain.length - 1) (hashText hashLock) =
      some (Lock.shown ⟨alice, bob, usdc, 4, 20000, 30000, .locked⟩) := by
  obtain ⟨chain, hTimes, -, hRows⟩ := run_is_chain initial_start leads_final
  have hRow : final.world.locks hashLock = ⟨alice, bob, usdc, 4, 20000, 30000, .locked⟩ := by
    decide
  refine ⟨chain, hTimes, ?_⟩
  rw [hRows, hRow]
  rfl

end

end SwapDesk.HashRail
