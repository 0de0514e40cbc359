import Mathlib.Data.Int.Range
import SwapDesk.Rails.EvmConfig

/-!
# SwapDesk — the bounded log scan of the EVM rail

`planLogScan`, `findClaimedPreimage` and `captureWriteEvidence` of `src/rails/evm-htlc.ts`. A scan
makes its requests one after another, and the node may answer each from another state of the
chain; a moment is the number of a request within the call.

Main results: `planLogScan_covers`, `findClaimedPreimage_complete`, and `captureWriteEvidence_only`.
-/

namespace SwapDesk.Rails.Evm

open Check Desk

/-! ## Ranges -/

/-- `LogRange.to` -/
inductive RangeEnd where
  | block (number : Int)
  | latest
deriving DecidableEq, Repr

structure LogRange where
  fromBlock : Int
  toBlock : RangeEnd
deriving DecidableEq, Repr

structure LogScanPlan where
  ranges : List LogRange
  tip : Option Int
  unread : Option (Int × Int)
  limit : Option Int
deriving DecidableEq, Repr

def BASE_SEPOLIA_MAX_LOG_RANGE : Int := 500

def MAX_LOG_SCAN_CHUNKS : Nat := 100

def EVM_WRITE_LOOKUP_REPLANS : Nat := 3

def effectiveMaxLogRange (config : EvmRailConfig) : Option Int :=
  match config.maxLogRange with
  | some limit => some limit
  | none =>
    if config.pin.chainId = BASE_SEPOLIA_CHAIN_ID then some BASE_SEPOLIA_MAX_LOG_RANGE else none

/-- The loop of `planLogScan`, with the number of ranges that may still be cut, and where it
stops. -/
def cutRanges (width tip : Int) : Nat → Int → List LogRange × Int
  | 0, low => ([], low)
  | chunks + 1, low =>
    if low ≤ tip then
      let high := if low + width - 1 < tip then low + width - 1 else tip
      let rest := cutRanges width tip chunks (high + 1)
      (⟨low, .block high⟩ :: rest.1, rest.2)
    else ([], low)

/-! ## The node -/

inductive WriteEventName where
  | Locked
  | Claimed
  | Refunded
deriving DecidableEq, Repr

/-- The parameters of `getLogs`. -/
structure LogQuery where
  address : String
  event : WriteEventName
  hashLock : String
  range : LogRange
deriving DecidableEq, Repr

/-- A log as the chain library decodes it: what a pending log has no value for may be missing, and
so may the argument of one that does not decode. -/
structure EventLog where
  event : WriteEventName
  hashLock : String
  preimage : Option String
  blockNumber : Option Int
  blockHash : Option String
  transactionHash : Option String
  logIndex : Option Int
deriving DecidableEq, Repr

/-- What the endpoint answers to the request of each moment, or the error that is thrown. -/
structure EvmNode where
  blockNumber : Nat → Except String Json
  getLogs : Nat → LogQuery → Except String (List EventLog)

structure EvmLogScanBoundError where
  fromBlock : Int
  toBlock : Int
  unreadFrom : Int
  unreadTo : Int
  maxLogRange : Int
  chunkBound : Nat
deriving DecidableEq, Repr

inductive LogScanFailure where
  | bound (error : EvmLogScanBoundError)
  | error (message : String)
deriving DecidableEq, Repr

/-- What a scan is made with: the number of ranges is `MAX_LOG_SCAN_CHUNKS` in the code. -/
structure LogScanner where
  config : EvmRailConfig
  chunkBound : Nat
  node : EvmNode
  verifyHashPreimage : String → String → Bool

/-! ## The scan -/

/-- `BigInt` of a text that passes `/^0x[0-9a-fA-F]+$/`. -/
def hexNumber? (raw : Json) : Option Int :=
  match raw with
  | .str text =>
    if hexText text (0 < ·) = true then
      some ((text.toList.drop 2).foldl (fun n c => 16 * n + (Hex.value? c).getD 0) 0 : Nat)
    else none
  | _ => none

/-- A request that was answered. -/
def answered {α : Type} : Except String α → Except LogScanFailure α
  | .ok value => .ok value
  | .error message => .error (.error message)

/-- `minTip !== undefined && minTip > read ? minTip : read` -/
def flooredTip (minTip : Option Int) (read : Int) : Int :=
  match minTip with
  | some minTip => if read < minTip then minTip else read
  | none => read

/-- The plan for the blocks up to a tip; what does not fit is unread. -/
def planTo (chunkBound : Nat) (limit fromBlock tip : Int) : LogScanPlan :=
  let (ranges, low) := cutRanges limit tip chunkBound fromBlock
  ⟨ranges, some tip, if low ≤ tip then some (low, tip) else none, some limit⟩

def LogScanner.planLogScan (scan : LogScanner) (now : Nat) (fromBlock : Int)
    (minTip : Option Int) : Except LogScanFailure LogScanPlan :=
  match effectiveMaxLogRange scan.config with
  | none => .ok ⟨[⟨fromBlock, .latest⟩], none, none, none⟩
  | some limit => do
    let raw ← answered (scan.node.blockNumber now)
    match hexNumber? raw with
    | none => .error (.error ("evm-htlc: eth_blockNumber returned something that is not a hex " ++
        "number, so a log scan cannot be planned"))
    | some read => .ok (planTo scan.chunkBound limit fromBlock (flooredTip minTip read))

def logScanBoundError (chunkBound : Nat) (fromBlock : Int) (plan : LogScanPlan) :
    LogScanFailure :=
  match plan.unread, plan.tip, plan.limit with
  | some unread, some tip, some limit =>
    .bound ⟨fromBlock, tip, unread.1, unread.2, limit, chunkBound⟩
  | _, _, _ => .error "evm-htlc: internal error: a log scan bound error without a bounded plan"

def LogScanner.query (scan : LogScanner) (event : WriteEventName) (hashLock : String)
    (range : LogRange) : LogQuery :=
  ⟨scan.config.contract, event, hashLock, range⟩

/-- The preimage of a log, if it opens the hash lock. -/
def LogScanner.opener? (scan : LogScanner) (hashLock : String) (log : EventLog) : Option String :=
  log.preimage.filter (scan.verifyHashPreimage hashLock)

/-- The first opener in the ranges, which are read one after another until there is one. -/
def LogScanner.readRanges (scan : LogScanner) (hashLock : String) :
    Nat → List LogRange → Except LogScanFailure (Option String)
  | _, [] => .ok none
  | now, range :: ranges => do
    let logs ← answered (scan.node.getLogs now (scan.query .Claimed hashLock range))
    match logs.findSome? (scan.opener? hashLock) with
    | some preimage => .ok (some preimage)
    | none => scan.readRanges hashLock (now + 1) ranges

def LogScanner.findClaimedPreimage (scan : LogScanner) (hashLock : String) (fromBlock : Int) :
    Except LogScanFailure (Option String) := do
  let plan ← scan.planLogScan 0 fromBlock none
  match ← scan.readRanges hashLock 1 plan.ranges with
  | some preimage => .ok (some preimage)
  | none =>
    if plan.unread ≠ none then .error (logScanBoundError scan.chunkBound fromBlock plan)
    else .ok none

/-- Every log for the hash lock across the ranges. -/
def LogScanner.readWriteLogs (scan : LogScanner) (event : WriteEventName) (hashLock : String) :
    Nat → List LogRange → Except LogScanFailure (List EventLog)
  | _, [] => .ok []
  | now, range :: ranges => do
    let logs ← answered (scan.node.getLogs now (scan.query event hashLock range))
    let rest ← scan.readWriteLogs event hashLock (now + 1) ranges
    return logs ++ rest

/-- A plan that covers the interval, and the logs in all of it. -/
def LogScanner.readPlanned (scan : LogScanner) (event : WriteEventName) (hashLock : String)
    (fromBlock : Int) (receiptBlock : Option Int) (now : Nat) :
    Except LogScanFailure (LogScanPlan × List EventLog) := do
  let plan ← scan.planLogScan now fromBlock receiptBlock
  if plan.unread ≠ none then .error (logScanBoundError scan.chunkBound fromBlock plan)
  else do
    let logs ← scan.readWriteLogs event hashLock (now + 1) plan.ranges
    return (plan, logs)

/-- Planned and read again while there are no logs, as often as is left. -/
def LogScanner.lookupWrite (scan : LogScanner) (event : WriteEventName) (hashLock : String)
    (fromBlock : Int) (receiptBlock : Option Int) :
    Nat → Nat → Except LogScanFailure (LogScanPlan × List EventLog)
  | 0, now => scan.readPlanned event hashLock fromBlock receiptBlock now
  | replans + 1, now => do
    let read ← scan.readPlanned event hashLock fromBlock receiptBlock now
    if read.2.length = 0 then
      scan.lookupWrite event hashLock fromBlock receiptBlock replans
        (now + 1 + read.1.ranges.length)
    else .ok read

structure WriteEvidence where
  ref : String
  event : WriteEventName
  txHash : String
  blockNumber : Int
  blockHash : String
  logIndex : Int
deriving DecidableEq, Repr

def WriteEventName.text : WriteEventName → String
  | .Locked => "Locked"
  | .Claimed => "Claimed"
  | .Refunded => "Refunded"

def LogScanner.captureWriteEvidence (rt : Runtime) (scan : LogScanner) (event : WriteEventName)
    (hashLock : String) (fromBlock : Int) (receiptBlock : Option Int) :
    Except LogScanFailure WriteEvidence := do
  let (plan, logs) ←
    scan.lookupWrite event hashLock fromBlock receiptBlock EVM_WRITE_LOOKUP_REPLANS 0
  match logs with
  | [log] =>
    match log.blockNumber, log.blockHash, log.transactionHash, log.logIndex with
    | some blockNumber, some blockHash, some transactionHash, some logIndex =>
      .ok ⟨hashLock, event, transactionHash, blockNumber, blockHash, logIndex⟩
    | _, _, _, _ => .error (.error
        ("evm-htlc: " ++ event.text ++ " log for " ++ hashLock ++ " is missing block/tx identity"))
  | logs => .error (.error
      ("evm-htlc: expected exactly one " ++ event.text ++ " log for " ++ hashLock ++
        " in blocks [" ++ rt.intText fromBlock ++ ", " ++
        (match plan.tip with | some tip => rt.intText tip | none => "latest") ++ "], found " ++
        rt.intText logs.length))

/-! ## Cutting -/

/-- The blocks from one to another, both counted. -/
def blocks (low high : Int) : List Int := Int.range low (high + 1)

/-- The blocks of a range. -/
@[simp] theorem mem_blocks {low high n : Int} : n ∈ blocks low high ↔ low ≤ n ∧ n ≤ high := by
  rw [blocks, Int.mem_range_iff, Int.lt_add_one_iff]

/-- A range that ends before it begins has no blocks. -/
theorem blocks_of_lt {low high : Int} (h : high < low) : blocks low high = [] := by
  rw [List.eq_nil_iff_forall_not_mem]
  intro n hn
  have hn := mem_blocks.mp hn
  omega

/-- An interval splits after any of its blocks. -/
theorem blocks_append {low mid high : Int} (hLow : low ≤ mid + 1) (hHigh : mid ≤ high) :
    blocks low mid ++ blocks (mid + 1) high = blocks low high := by
  obtain ⟨a, ha⟩ := Int.le.dest hLow
  obtain ⟨b, hb⟩ := Int.le.dest hHigh
  have hA : (mid + 1 - low).toNat = a := by omega
  have hB : (high + 1 - (mid + 1)).toNat = b := by omega
  have hAB : (high + 1 - low).toNat = a + b := by omega
  unfold blocks Int.range
  rw [hA, hB, hAB, List.range_add, List.map_append, List.map_map]
  congr 1
  refine List.map_congr_left fun r _ => ?_
  simp only [Function.comp_apply, Nat.cast_add]
  omega

/-- The blocks of a range ascend. -/
theorem pairwise_blocks (low high : Int) : (blocks low high).Pairwise (· < ·) := by
  unfold blocks Int.range
  rw [List.pairwise_map]
  refine List.Pairwise.imp ?_ List.pairwise_lt_range
  intro a b h
  omega

/-- The blocks of a range that ends at a block. -/
def LogRange.blocks (range : LogRange) : List Int :=
  match range.toBlock with
  | .block high => Evm.blocks range.fromBlock high
  | .latest => []

section

variable {width tip : Int}

/-- One range more takes the blocks up to its end from what is left. -/
theorem cutRanges_step (hWidth : 0 < width) {low : Int} (h : low ≤ tip) :
    ∃ high, low ≤ high ∧ high ≤ tip ∧ high - low + 1 ≤ width ∧ ∀ chunks,
      cutRanges width tip (chunks + 1) low =
        (⟨low, .block high⟩ :: (cutRanges width tip chunks (high + 1)).1,
          (cutRanges width tip chunks (high + 1)).2) := by
  refine ⟨if low + width - 1 < tip then low + width - 1 else tip, ?_, ?_, ?_, fun chunks => ?_⟩
  · split <;> omega
  · split <;> omega
  · split <;> omega
  · rw [cutRanges, if_pos h]

/-- Past the tip nothing is cut. -/
theorem cutRanges_of_lt {low : Int} (h : tip < low) (chunks : Nat) :
    cutRanges width tip chunks low = ([], low) := by
  cases chunks with
  | zero => rfl
  | succ chunks => rw [cutRanges, if_neg (by omega)]

/-- The ranges, and what is left after them, are the interval. -/
theorem cutRanges_blocks (hWidth : 0 < width) (chunks : Nat) (low : Int) :
    (cutRanges width tip chunks low).1.flatMap LogRange.blocks ++
      blocks (cutRanges width tip chunks low).2 tip = blocks low tip := by
  induction chunks generalizing low with
  | zero => rfl
  | succ chunks ih =>
    rcases Int.lt_or_le tip low with h | h
    · rw [cutRanges_of_lt h]
      rfl
    · obtain ⟨high, hLow, hHigh, -, hStep⟩ := cutRanges_step hWidth h
      rw [hStep, List.flatMap_cons, List.append_assoc, ih (high + 1)]
      show blocks low high ++ blocks (high + 1) tip = blocks low tip
      exact blocks_append (by omega) hHigh

/-- Every range cut is narrow enough for the node. -/
theorem cutRanges_narrow (hWidth : 0 < width) (chunks : Nat) (low : Int) :
    ∀ range ∈ (cutRanges width tip chunks low).1, ∃ high, range.toBlock = .block high ∧
      range.fromBlock ≤ high ∧ high - range.fromBlock + 1 ≤ width := by
  induction chunks generalizing low with
  | zero => exact fun _ h => absurd h (List.not_mem_nil)
  | succ chunks ih =>
    rcases Int.lt_or_le tip low with h | h
    · rw [cutRanges_of_lt h]
      exact fun _ h => absurd h (List.not_mem_nil)
    · obtain ⟨high, hLow, -, hNarrow, hStep⟩ := cutRanges_step hWidth h
      rw [hStep]
      intro range hRange
      rcases List.mem_cons.mp hRange with rfl | hRange
      · exact ⟨high, rfl, hLow, hNarrow⟩
      · exact ih (high + 1) range hRange

/-- No more ranges are cut than allowed. -/
theorem cutRanges_length (chunks : Nat) (low : Int) :
    (cutRanges width tip chunks low).1.length ≤ chunks := by
  induction chunks generalizing low with
  | zero => exact Nat.le_refl 0
  | succ chunks ih =>
    rw [cutRanges]
    split
    · exact Nat.succ_le_succ (ih _)
    · exact Nat.zero_le _

/-- Blocks are left only when no range is. -/
theorem cutRanges_full (chunks : Nat) (low : Int) (h : (cutRanges width tip chunks low).2 ≤ tip) :
    (cutRanges width tip chunks low).1.length = chunks := by
  induction chunks generalizing low with
  | zero => rfl
  | succ chunks ih =>
    rw [cutRanges] at h ⊢
    split
    · rename_i hLow
      rw [if_pos hLow] at h
      exact congrArg (· + 1) (ih _ h)
    · rename_i hLow
      rw [if_neg hLow] at h
      exact absurd h hLow

end

/-! ## The plan -/

def LogScanPlan.unreadBlocks (plan : LogScanPlan) : List Int :=
  match plan.unread with
  | some (low, high) => blocks low high
  | none => []

/-- The plan covers the blocks up to the tip, or says which newest ones it does not. -/
structure LogScanPlan.Covers (plan : LogScanPlan) (chunkBound : Nat) (fromBlock tip limit : Int) :
    Prop where
  tipRead : plan.tip = some tip
  inForce : plan.limit = some limit
  parts : plan.ranges.flatMap LogRange.blocks ++ plan.unreadBlocks = blocks fromBlock tip
  narrow : ∀ range ∈ plan.ranges, ∃ high, range.toBlock = .block high ∧ range.fromBlock ≤ high ∧
    high - range.fromBlock + 1 ≤ limit
  few : plan.ranges.length ≤ chunkBound
  ascending : plan.ranges.Pairwise fun a b => ∀ m ∈ a.blocks, ∀ n ∈ b.blocks, m < n
  unread : ∀ low high, plan.unread = some (low, high) →
    low ≤ high ∧ high = tip ∧ plan.ranges.length = chunkBound

/-- A tip is raised to the receipt's block. -/
theorem flooredTip_eq (minTip : Option Int) (read : Int) :
    flooredTip minTip read = minTip.elim read (max read) := by
  cases minTip with
  | none => rfl
  | some minTip =>
    simp only [flooredTip, Option.elim_some]
    split <;> omega

/-- What a plan leaves unread. -/
theorem planTo_unread (chunkBound : Nat) (limit fromBlock tip : Int) :
    (planTo chunkBound limit fromBlock tip).unread =
      if (cutRanges limit tip chunkBound fromBlock).2 ≤ tip then
        some ((cutRanges limit tip chunkBound fromBlock).2, tip) else none := rfl

/-- What is not read is what no range was left for. -/
theorem planTo_unreadBlocks (chunkBound : Nat) (limit fromBlock tip : Int) :
    (planTo chunkBound limit fromBlock tip).unreadBlocks =
      blocks (cutRanges limit tip chunkBound fromBlock).2 tip := by
  unfold LogScanPlan.unreadBlocks
  rw [planTo_unread]
  by_cases h : (cutRanges limit tip chunkBound fromBlock).2 ≤ tip
  · rw [if_pos h]
  · rw [if_neg h]
    exact (blocks_of_lt (by omega)).symm

/-- A plan covers what it reads, without gap or overlap. -/
theorem planTo_covers (chunkBound : Nat) {limit : Int} (hLimit : 0 < limit) (fromBlock tip : Int) :
    (planTo chunkBound limit fromBlock tip).Covers chunkBound fromBlock tip limit := by
  have hParts := @cutRanges_blocks limit tip hLimit chunkBound fromBlock
  refine ⟨rfl, rfl, ?_, cutRanges_narrow hLimit _ _, cutRanges_length _ _, ?_, ?_⟩
  · rw [planTo_unreadBlocks]
    exact hParts
  · have hSorted := pairwise_blocks fromBlock tip
    rw [← hParts] at hSorted
    exact (List.pairwise_flatMap.mp (List.pairwise_append.mp hSorted).1).2
  · intro low high hEq
    rw [planTo_unread] at hEq
    split at hEq
    · rename_i hLeft
      cases hEq
      exact ⟨hLeft, rfl, cutRanges_full _ _ hLeft⟩
    · cases hEq

/-- The tip that a plan is cut from: what the node answered, but no less than the floor. -/
def LogScanner.TipRead (scan : LogScanner) (now : Nat) (minTip : Option Int) (tip : Int) : Prop :=
  ∃ raw read, scan.node.blockNumber now = .ok raw ∧ hexNumber? raw = some read ∧
    tip = minTip.elim read (max read)

/-- The range limit of the configuration is a positive number. -/
def EvmRailConfig.LimitsPositive (config : EvmRailConfig) : Prop :=
  ∀ limit, effectiveMaxLogRange config = some limit → 0 < limit

/-- An answer is the value that was returned. -/
theorem answered_eq_ok {α : Type} {x : Except String α} {a : α} :
    answered x = .ok a ↔ x = .ok a := by
  cases x <;> simp [answered]

section

variable {scan : LogScanner}

/-- Without a limit one range reaches to the latest block; with one the plan is cut from the tip
that was read, and what it returns partitions the interval. -/
theorem planLogScan_covers (hLimit : scan.config.LimitsPositive) {now : Nat} {fromBlock : Int}
    {minTip : Option Int} {plan : LogScanPlan}
    (h : scan.planLogScan now fromBlock minTip = .ok plan) :
    (effectiveMaxLogRange scan.config = none ∧
      plan = ⟨[⟨fromBlock, .latest⟩], none, none, none⟩) ∨
    ∃ limit tip, effectiveMaxLogRange scan.config = some limit ∧ scan.TipRead now minTip tip ∧
      plan.Covers scan.chunkBound fromBlock tip limit := by
  unfold LogScanner.planLogScan at h
  split at h
  · rename_i hNone
    exact .inl ⟨hNone, (Except.ok.inj h).symm⟩
  · rename_i limit hSome
    obtain ⟨raw, hRaw, h⟩ := bind_eq_ok.mp h
    split at h
    · cases h
    · rename_i read hRead
      obtain rfl := Except.ok.inj h
      exact .inr ⟨limit, _, hSome,
        ⟨raw, read, answered_eq_ok.mp hRaw, hRead, flooredTip_eq minTip read⟩,
        planTo_covers _ (hLimit limit hSome) _ _⟩

/-- Planning fails only where the node does. -/
theorem planLogScan_error {now : Nat} {fromBlock : Int} {minTip : Option Int}
    {failure : LogScanFailure} (h : scan.planLogScan now fromBlock minTip = .error failure) :
    ∃ message, failure = .error message := by
  unfold LogScanner.planLogScan at h
  split at h
  · cases h
  · cases hRaw : scan.node.blockNumber now with
    | error message =>
      rw [hRaw] at h
      exact ⟨message, (Except.error.inj h).symm⟩
    | ok raw =>
      rw [hRaw] at h
      dsimp only [answered, bind, Except.bind] at h
      split at h
      · exact ⟨_, (Except.error.inj h).symm⟩
      · cases h

/-- A checked configuration has a range limit of at least the marker's margin, if any. -/
theorem limitsPositive_of_checked {rt : EvmRuntime} {value : Option Json} {config : EvmRailConfig}
    (h : checkEvmRailConfig rt value = .ok config) : config.LimitsPositive := by
  unfold checkEvmRailConfig at h
  simp only [bind_eq_ok] at h
  obtain ⟨checked, hShape, u, -, h⟩ := h
  obtain rfl := Except.ok.inj h
  unfold evmRailConfigShape at hShape
  simp only [bind_eq_ok, need_eq_ok, require_eq_ok, refute_eq_ok, exists_const] at hShape
  obtain ⟨v, -, pin, -, chainId, -, name, -, caip2, -, -, finality, -, finality', -, endpoint, -,
    contract, -, assets, -, assets', -, receiptTimeoutMs, -, contractCodeHash, -, maxLogRange,
    -, hRange, maxFee, -, h⟩ := hShape
  obtain rfl := Except.ok.inj h
  intro limit hLimit
  unfold effectiveMaxLogRange at hLimit
  dsimp only at hLimit
  split at hLimit
  · rename_i configured hConfigured
    obtain rfl := Option.some.inj hLimit
    have hMin : ¬ configured < EVM_MIN_LOG_RANGE := by simpa using hRange
    unfold EVM_MIN_LOG_RANGE at hMin
    omega
  · split at hLimit
    · obtain rfl := Option.some.inj hLimit
      decide
    · cases hLimit

end

/-! ## What the node is taken to answer -/

/-- The log stands in a block of the range. -/
def LogRange.Holds (range : LogRange) (log : EventLog) : Prop :=
  ∃ n, log.blockNumber = some n ∧ range.fromBlock ≤ n ∧
    ∀ high, range.toBlock = .block high → n ≤ high

instance (range : LogRange) (log : EventLog) : Decidable (range.Holds log) :=
  match h : log.blockNumber, hTo : range.toBlock with
  | none, _ => isFalse fun ⟨_, hn, _⟩ => by rw [h] at hn; cases hn
  | some n, .latest => decidable_of_iff (range.fromBlock ≤ n) (by
      unfold LogRange.Holds
      rw [h, hTo]
      constructor
      · exact fun hLow => ⟨n, rfl, hLow, fun _ h => by cases h⟩
      · rintro ⟨m, hm, hLow, -⟩
        obtain rfl := Option.some.inj hm
        exact hLow)
  | some n, .block high => decidable_of_iff (range.fromBlock ≤ n ∧ n ≤ high) (by
      unfold LogRange.Holds
      rw [h, hTo]
      constructor
      · rintro ⟨hLow, hHigh⟩
        refine ⟨n, rfl, hLow, fun high' h => ?_⟩
        cases h
        exact hHigh
      · rintro ⟨m, hm, hLow, hHigh⟩
        obtain rfl := Option.some.inj hm
        exact ⟨hLow, hHigh high rfl⟩)

/-- The escrow's logs are `chain now` when the request of that moment is answered, and an answer
holds those of them that the query asks for. -/
def LogScanner.Truthful (scan : LogScanner) (chain : Nat → List EventLog) : Prop :=
  ∀ now event hashLock range logs,
    scan.node.getLogs now (scan.query event hashLock range) = .ok logs →
    logs.Perm ((chain now).filter fun log =>
      log.event = event ∧ log.hashLock = hashLock ∧ range.Holds log)

/-- A `Claimed` log of the hash lock, with a preimage that opens it. -/
def LogScanner.Opens (scan : LogScanner) (hashLock : String) (log : EventLog) : Prop :=
  log.event = .Claimed ∧ log.hashLock = hashLock ∧
    ∃ preimage, log.preimage = some preimage ∧ scan.verifyHashPreimage hashLock preimage = true

/-- The log is on the chain whenever a request is answered. -/
def Throughout (chain : Nat → List EventLog) (log : EventLog) : Prop :=
  ∀ now, log ∈ chain now

/-- Every request for logs is answered. -/
def LogScanner.LogsAnswered (scan : LogScanner) : Prop :=
  ∀ now query, ∃ logs, scan.node.getLogs now query = .ok logs

/-! ## Reading -/

section

variable {scan : LogScanner} {chain : Nat → List EventLog} {hashLock : String}

/-- A log opens the lock when its preimage verifies. -/
theorem opener?_eq_some {log : EventLog} {preimage : String} :
    scan.opener? hashLock log = some preimage ↔
      log.preimage = some preimage ∧ scan.verifyHashPreimage hashLock preimage = true := by
  unfold LogScanner.opener?
  rw [Option.filter_eq_some_iff]

/-- What an answer holds. -/
theorem mem_logs (hTruth : scan.Truthful chain) {now : Nat} {event : WriteEventName}
    {range : LogRange} {logs : List EventLog}
    (h : scan.node.getLogs now (scan.query event hashLock range) = .ok logs) {log : EventLog} :
    log ∈ logs ↔ log ∈ chain now ∧ log.event = event ∧ log.hashLock = hashLock ∧
      range.Holds log := by
  rw [(hTruth now event hashLock range logs h).mem_iff, List.mem_filter, decide_eq_true_eq]

/-- A preimage that is found comes from a log of one of the ranges, as the chain is then. -/
theorem readRanges_some (hTruth : scan.Truthful chain) {ranges : List LogRange} {now : Nat}
    {preimage : String} (h : scan.readRanges hashLock now ranges = .ok (some preimage)) :
    ∃ range ∈ ranges, ∃ moment, ∃ log ∈ chain moment, range.Holds log ∧ log.event = .Claimed ∧
      log.hashLock = hashLock ∧ log.preimage = some preimage ∧
      scan.verifyHashPreimage hashLock preimage = true := by
  induction ranges generalizing now with
  | nil => cases h
  | cons range ranges ih =>
    unfold LogScanner.readRanges at h
    obtain ⟨logs, hLogs, h⟩ := bind_eq_ok.mp h
    have hMem := @mem_logs scan chain hashLock hTruth _ _ _ _ (answered_eq_ok.mp hLogs)
    split at h
    · rename_i found hFound
      obtain rfl := Option.some.inj (Except.ok.inj h)
      obtain ⟨log, hLog, hOpener⟩ := List.exists_of_findSome?_eq_some hFound
      obtain ⟨hChain, hEvent, hHash, hHolds⟩ := hMem.mp hLog
      obtain ⟨hPreimage, hVerify⟩ := opener?_eq_some.mp hOpener
      exact ⟨range, List.mem_cons_self .., now, log, hChain, hHolds, hEvent, hHash, hPreimage,
        hVerify⟩
    · obtain ⟨other, hOther, rest⟩ := ih h
      exact ⟨other, List.mem_cons_of_mem _ hOther, rest⟩

/-- When the ranges are read through, no log in them opens the hash lock. -/
theorem readRanges_none (hTruth : scan.Truthful chain) {ranges : List LogRange} {now : Nat}
    (h : scan.readRanges hashLock now ranges = .ok none) {range : LogRange}
    (hRange : range ∈ ranges) {log : EventLog} (hLog : Throughout chain log)
    (hHolds : range.Holds log) : ¬ scan.Opens hashLock log := by
  induction ranges generalizing now with
  | nil => cases hRange
  | cons first ranges ih =>
    unfold LogScanner.readRanges at h
    obtain ⟨logs, hLogs, h⟩ := bind_eq_ok.mp h
    split at h
    · cases h
    · rename_i hNone
      rcases List.mem_cons.mp hRange with rfl | hRange
      · rintro ⟨hEvent, hHash, preimage, hPreimage, hVerify⟩
        have hMem := (mem_logs hTruth (answered_eq_ok.mp hLogs)).mpr
          ⟨hLog now, hEvent, hHash, hHolds⟩
        have hOpener := List.findSome?_eq_none_iff.mp hNone log hMem
        rw [opener?_eq_some.mpr ⟨hPreimage, hVerify⟩] at hOpener
        cases hOpener
      · exact ih h hRange

/-- The reading ends when every request is answered, and fails only with what a request did. -/
theorem readRanges_answered (hAnswered : scan.LogsAnswered) (ranges : List LogRange) (now : Nat) :
    ∃ found, scan.readRanges hashLock now ranges = .ok found := by
  induction ranges generalizing now with
  | nil => exact ⟨none, rfl⟩
  | cons range ranges ih =>
    obtain ⟨logs, hLogs⟩ := hAnswered now (scan.query .Claimed hashLock range)
    unfold LogScanner.readRanges
    rw [hLogs]
    dsimp only [answered, bind, Except.bind]
    split
    · exact ⟨_, rfl⟩
    · exact ih (now + 1)

/-- Reading ranges fails only where the node does. -/
theorem readRanges_error {ranges : List LogRange} {now : Nat} {failure : LogScanFailure}
    (h : scan.readRanges hashLock now ranges = .error failure) :
    ∃ message, failure = .error message := by
  induction ranges generalizing now with
  | nil => cases h
  | cons range ranges ih =>
    unfold LogScanner.readRanges at h
    cases hLogs : scan.node.getLogs now (scan.query .Claimed hashLock range) with
    | error message =>
      rw [hLogs] at h
      exact ⟨message, (Except.error.inj h).symm⟩
    | ok logs =>
      rw [hLogs] at h
      dsimp only [answered, bind, Except.bind] at h
      split at h
      · cases h
      · exact ih h

/-! ## The search -/

/-- The plan of a search, and what the ranges hold. -/
theorem findClaimedPreimage_eq {fromBlock : Int}
    {result : Except LogScanFailure (Option String)}
    (h : scan.findClaimedPreimage hashLock fromBlock = result) :
    (∃ message, result = .error (.error message) ∧
      (scan.planLogScan 0 fromBlock none = .error (.error message) ∨
        ∃ plan, scan.planLogScan 0 fromBlock none = .ok plan ∧
          scan.readRanges hashLock 1 plan.ranges = .error (.error message))) ∨
    ∃ plan, scan.planLogScan 0 fromBlock none = .ok plan ∧
      ((∃ preimage, scan.readRanges hashLock 1 plan.ranges = .ok (some preimage) ∧
          result = .ok (some preimage)) ∨
        (scan.readRanges hashLock 1 plan.ranges = .ok none ∧
          ((plan.unread = none ∧ result = .ok none) ∨
            (plan.unread ≠ none ∧
              result = .error (logScanBoundError scan.chunkBound fromBlock plan))))) := by
  unfold LogScanner.findClaimedPreimage at h
  -- the plan, then its ranges, then what the plan left unread
  cases hPlan : scan.planLogScan 0 fromBlock none with
  | error failure =>
    obtain ⟨message, rfl⟩ := planLogScan_error hPlan
    rw [hPlan] at h
    exact .inl ⟨message, h.symm, .inl rfl⟩
  | ok plan =>
    rw [hPlan] at h
    dsimp only [bind, Except.bind] at h
    cases hRead : scan.readRanges hashLock 1 plan.ranges with
    | error failure =>
      obtain ⟨message, rfl⟩ := readRanges_error hRead
      rw [hRead] at h
      exact .inl ⟨message, h.symm, .inr ⟨plan, rfl, hRead⟩⟩
    | ok found =>
      rw [hRead] at h
      refine .inr ⟨plan, rfl, ?_⟩
      cases found with
      | some preimage => exact .inl ⟨preimage, hRead, h.symm⟩
      | none =>
        dsimp only at h
        split at h
        · rename_i hUnread
          exact .inr ⟨hRead, .inr ⟨hUnread, h.symm⟩⟩
        · rename_i hUnread
          exact .inr ⟨hRead, .inl ⟨not_not.mp hUnread, h.symm⟩⟩

/-- A block of the interval that is not reported unread is in a range. -/
theorem holds_of_planned {plan : LogScanPlan} {fromBlock : Int} {minTip : Option Int} {now : Nat}
    (hLimit : scan.config.LimitsPositive)
    (hPlan : scan.planLogScan now fromBlock minTip = .ok plan) (hUnread : plan.unread = none)
    {log : EventLog} {n : Int} (hBlock : log.blockNumber = some n) (hFrom : fromBlock ≤ n)
    (hTip : ∀ tip, plan.tip = some tip → n ≤ tip) : ∃ range ∈ plan.ranges, range.Holds log := by
  rcases planLogScan_covers hLimit hPlan with ⟨-, rfl⟩ | ⟨limit, tip, -, -, hCovers⟩
  · exact ⟨_, List.mem_cons_self .., n, hBlock, hFrom, fun _ h => by cases h⟩
  · have hMem : n ∈ blocks fromBlock tip := mem_blocks.mpr ⟨hFrom, hTip tip hCovers.tipRead⟩
    rw [← hCovers.parts, LogScanPlan.unreadBlocks, hUnread, List.append_nil] at hMem
    obtain ⟨range, hRange, hIn⟩ := List.mem_flatMap.mp hMem
    obtain ⟨high, hHigh, -, -⟩ := hCovers.narrow range hRange
    rw [LogRange.blocks, hHigh] at hIn
    obtain ⟨hLow, hUp⟩ := mem_blocks.mp hIn
    refine ⟨range, hRange, n, hBlock, hLow, fun high' h => ?_⟩
    rw [hHigh] at h
    cases h
    exact hUp

/-- A scan that is bounded says so, with the part it has not read. -/
theorem logScanBoundError_eq {plan : LogScanPlan} {fromBlock : Int} {minTip : Option Int}
    {now : Nat} (hLimit : scan.config.LimitsPositive)
    (hPlan : scan.planLogScan now fromBlock minTip = .ok plan) (hUnread : plan.unread ≠ none) :
    ∃ tip limit low, plan.tip = some tip ∧ plan.limit = some limit ∧
      plan.unread = some (low, tip) ∧ logScanBoundError scan.chunkBound fromBlock plan =
        .bound ⟨fromBlock, tip, low, tip, limit, scan.chunkBound⟩ := by
  rcases planLogScan_covers hLimit hPlan with ⟨-, rfl⟩ | ⟨limit, tip, -, -, hCovers⟩
  · exact absurd rfl hUnread
  · obtain ⟨⟨low, high⟩, hEq⟩ := Option.ne_none_iff_exists'.mp hUnread
    obtain ⟨-, rfl, -⟩ := hCovers.unread low high hEq
    refine ⟨high, limit, low, hCovers.tipRead, hCovers.inForce, hEq, ?_⟩
    unfold logScanBoundError
    rw [hEq, hCovers.tipRead, hCovers.inForce]

end

/-- The scan loses nothing silently. A plan partitions the interval into its ranges and what it
reports unread. The search finds a preimage exactly of the logs in the ranges, and any log there
that stays on the chain keeps it from ending in null or in the bound; it ends in null only when the
whole interval was read and nothing in it opens the hash lock, and, when no request fails, in the
bound otherwise. -/
theorem findClaimedPreimage_complete (scan : LogScanner) (chain : Nat → List EventLog)
    (hLimit : scan.config.LimitsPositive) (hTruth : scan.Truthful chain) (hashLock : String)
    (fromBlock : Int) :
    (∀ now minTip plan, scan.planLogScan now fromBlock minTip = .ok plan →
      (effectiveMaxLogRange scan.config = none ∧
        plan = ⟨[⟨fromBlock, .latest⟩], none, none, none⟩) ∨
      ∃ limit tip, effectiveMaxLogRange scan.config = some limit ∧ scan.TipRead now minTip tip ∧
        plan.Covers scan.chunkBound fromBlock tip limit) ∧
    (∀ preimage, scan.findClaimedPreimage hashLock fromBlock = .ok (some preimage) →
      ∃ plan, scan.planLogScan 0 fromBlock none = .ok plan ∧
        ∃ range ∈ plan.ranges, ∃ now, ∃ log ∈ chain now, range.Holds log ∧
          scan.Opens hashLock log ∧ log.preimage = some preimage) ∧
    (∀ plan log, scan.planLogScan 0 fromBlock none = .ok plan → Throughout chain log →
      scan.Opens hashLock log → (∃ range ∈ plan.ranges, range.Holds log) →
      (∃ preimage, scan.findClaimedPreimage hashLock fromBlock = .ok (some preimage)) ∨
      ¬ scan.LogsAnswered ∧
        ∃ message, scan.findClaimedPreimage hashLock fromBlock = .error (.error message)) ∧
    (scan.findClaimedPreimage hashLock fromBlock = .ok none →
      ∃ plan, scan.planLogScan 0 fromBlock none = .ok plan ∧ plan.unread = none ∧
        ∀ log n, Throughout chain log → log.blockNumber = some n → fromBlock ≤ n →
          (∀ tip, plan.tip = some tip → n ≤ tip) → ¬ scan.Opens hashLock log) ∧
    (∀ plan, scan.planLogScan 0 fromBlock none = .ok plan → scan.LogsAnswered →
      (∀ preimage, scan.findClaimedPreimage hashLock fromBlock ≠ .ok (some preimage)) →
      (plan.unread = none ∧ scan.findClaimedPreimage hashLock fromBlock = .ok none) ∨
      ∃ tip limit low, plan.tip = some tip ∧ plan.limit = some limit ∧
        plan.unread = some (low, tip) ∧
        scan.findClaimedPreimage hashLock fromBlock =
          .error (.bound ⟨fromBlock, tip, low, tip, limit, scan.chunkBound⟩)) := by
  have hCases := @findClaimedPreimage_eq scan hashLock fromBlock _ rfl
  refine ⟨fun now minTip plan h => planLogScan_covers hLimit h, ?_, ?_, ?_, ?_⟩
  -- what is found opens the lock, in one of the ranges
  · intro preimage hFound
    rcases hCases with ⟨message, h, -⟩ | ⟨plan, hPlan, ⟨other, hRead, h⟩ | ⟨-, ⟨-, h⟩ | ⟨-, h⟩⟩⟩
    · rw [h] at hFound
      cases hFound
    · rw [h] at hFound
      obtain rfl := Option.some.inj (Except.ok.inj hFound)
      obtain ⟨range, hRange, now, log, hLog, hHolds, hEvent, hHash, hPreimage, hVerify⟩ :=
        readRanges_some hTruth hRead
      exact ⟨plan, hPlan, range, hRange, now, log, hLog, hHolds,
        ⟨hEvent, hHash, other, hPreimage, hVerify⟩, hPreimage⟩
    · rw [h] at hFound
      cases hFound
    · rw [h] at hFound
      cases hFound
  -- an event in the ranges is found, unless the node does not answer
  · intro plan log hPlan hLog hOpens ⟨range, hRange, hHolds⟩
    rcases hCases with ⟨message, h, hFailed⟩ | ⟨plan', hPlan', ⟨preimage, -, h⟩ | ⟨hRead, -⟩⟩
    · refine .inr ⟨fun hAnswered => ?_, message, h⟩
      rcases hFailed with hFailed | ⟨plan', -, hFailed⟩
      · rw [hPlan] at hFailed
        cases hFailed
      · obtain ⟨found, hFound⟩ := @readRanges_answered scan hashLock hAnswered plan'.ranges 1
        rw [hFound] at hFailed
        cases hFailed
    · exact .inl ⟨preimage, h⟩
    -- read through and not found: no log in the ranges opens the lock
    · obtain rfl := Except.ok.inj (hPlan.symm.trans hPlan')
      exact absurd hOpens (readRanges_none hTruth hRead hRange hLog hHolds)
  -- nothing found and nothing unread: the ranges are all the blocks there were
  · intro hNone
    rcases hCases with ⟨message, h, -⟩ |
      ⟨plan, hPlan, ⟨preimage, -, h⟩ | ⟨hRead, ⟨hUnread, -⟩ | ⟨-, h⟩⟩⟩
    · rw [h] at hNone
      cases hNone
    · rw [h] at hNone
      cases hNone
    · refine ⟨plan, hPlan, hUnread, fun log n hLog hBlock hFrom hTip => ?_⟩
      obtain ⟨range, hRange, hHolds⟩ := holds_of_planned hLimit hPlan hUnread hBlock hFrom hTip
      exact readRanges_none hTruth hRead hRange hLog hHolds
    · rw [h] at hNone
      cases hNone
  -- nothing found by an answering node: an unread rest is reported with its bounds
  · intro plan hPlan hAnswered hMissing
    obtain ⟨found, hFound⟩ := @readRanges_answered scan hashLock hAnswered plan.ranges 1
    rcases hCases with ⟨message, -, hFailed⟩ | ⟨plan', hPlan', ⟨preimage, -, h⟩ | ⟨-, hEnd⟩⟩
    · rcases hFailed with hFailed | ⟨plan', hPlan', hFailed⟩
      · rw [hPlan] at hFailed
        cases hFailed
      · obtain rfl := Except.ok.inj (hPlan.symm.trans hPlan')
        rw [hFound] at hFailed
        cases hFailed
    · exact absurd h (hMissing preimage)
    · obtain rfl := Except.ok.inj (hPlan.symm.trans hPlan')
      rcases hEnd with ⟨hUnread, h⟩ | ⟨hUnread, h⟩
      · exact .inl ⟨hUnread, h⟩
      · obtain ⟨tip, limit, low, hTip, hInForce, hEq, hBound⟩ :=
          logScanBoundError_eq hLimit hPlan hUnread
        exact .inr ⟨tip, limit, low, hTip, hInForce, hEq, h.trans (congrArg _ hBound)⟩

namespace ScanSample

/-- A scan of two blocks in each of two ranges, with an opener past them. -/
def config : EvmRailConfig :=
  ⟨BASE_SEPOLIA_PIN, "", "0xescrow", [], none, none, some 2, none⟩

def log : EventLog :=
  ⟨.Claimed, "0xhash", some "0xsecret", some 6, some "0xblock", some "0xtx", some 0⟩

def scan : LogScanner where
  config := config
  chunkBound := 2
  node := {
    blockNumber := fun _ => .ok (.str "0x6")
    getLogs := fun _ query => .ok ([log].filter fun log =>
      log.event = query.event ∧ log.hashLock = query.hashLock ∧ query.range.Holds log) }
  verifyHashPreimage := fun hashLock preimage => hashLock = "0xhash" ∧ preimage = "0xsecret"

/-- A runtime of which only texts of numbers are used. -/
def runtime : Runtime where
  jsonParse _ := none
  jsonStringify _ := none
  decodeUtf8 _ := none
  base64Text text := text
  uint8Array _ := []
  number _ := none
  bigInt _ := none
  intText n := toString n
  sha256 bytes := bytes

/-- The sample's limits are positive. -/
theorem limitsPositive : scan.config.LimitsPositive := by
  intro limit h
  obtain rfl := Option.some.inj h
  decide

/-- The sample's node answers truthfully. -/
theorem truthful : scan.Truthful fun _ => [log] := by
  intro now event hashLock range logs h
  obtain rfl := Except.ok.inj h
  exact List.Perm.refl _

end ScanSample

/-- From block 1 the ranges end at block 4, and the log at block 6 is neither found nor denied. -/
theorem findClaimedPreimage_complete_sample :
    ScanSample.scan.findClaimedPreimage "0xhash" 1 ≠ .ok none ∧
      ∃ preimage, ScanSample.scan.findClaimedPreimage "0xhash" 5 = .ok (some preimage) := by
  have hFrom := findClaimedPreimage_complete ScanSample.scan _ ScanSample.limitsPositive
    ScanSample.truthful "0xhash"
  have hThroughout : Throughout (fun _ => [ScanSample.log]) ScanSample.log :=
    fun _ => List.mem_singleton_self _
  have hOpens : ScanSample.scan.Opens "0xhash" ScanSample.log :=
    ⟨rfl, rfl, "0xsecret", rfl, by decide⟩
  have hAnswered : ScanSample.scan.LogsAnswered := fun _ _ => ⟨_, rfl⟩
  constructor
  · intro hNone
    obtain ⟨plan, hPlan, hUnread, hAll⟩ := (hFrom 1).2.2.2.1 hNone
    have hTip : plan.tip = some 6 := by
      obtain rfl := Except.ok.inj hPlan
      decide
    refine hAll ScanSample.log 6 hThroughout rfl (by omega) (fun tip h => ?_) hOpens
    rw [hTip] at h
    exact (Option.some.inj h).le
  · have hPlan : ScanSample.scan.planLogScan 0 5 none =
        .ok ⟨[⟨5, .block 6⟩], some 6, none, some 2⟩ := by rfl
    rcases (hFrom 5).2.2.1 _ _ hPlan hThroughout hOpens
      ⟨_, List.mem_cons_self .., by decide⟩ with h | h
    · exact h
    · exact absurd hAnswered h.1

/-! ## The evidence of a write -/

section

variable {scan : LogScanner} {chain : Nat → List EventLog} {event : WriteEventName}
  {hashLock : String}

/-- A log that stays on the chain is read with the range that holds it. -/
theorem readWriteLogs_mem (hTruth : scan.Truthful chain) {ranges : List LogRange} {now : Nat}
    {logs : List EventLog} (h : scan.readWriteLogs event hashLock now ranges = .ok logs)
    {range : LogRange} (hRange : range ∈ ranges) {log : EventLog} (hLog : Throughout chain log)
    (hEvent : log.event = event) (hHash : log.hashLock = hashLock) (hHolds : range.Holds log) :
    log ∈ logs := by
  induction ranges generalizing now logs with
  | nil => cases hRange
  | cons first ranges ih =>
    unfold LogScanner.readWriteLogs at h
    obtain ⟨read, hRead, h⟩ := bind_eq_ok.mp h
    obtain ⟨rest, hRest, h⟩ := bind_eq_ok.mp h
    obtain rfl := Except.ok.inj h
    rcases List.mem_cons.mp hRange with rfl | hRange
    · exact List.mem_append_left _ ((mem_logs hTruth (answered_eq_ok.mp hRead)).mpr
        ⟨hLog now, hEvent, hHash, hHolds⟩)
    · exact List.mem_append_right _ (ih hRest hRange)

/-- A log that is read is in the chain, of the event and the lock. -/
theorem mem_readWriteLogs (hTruth : scan.Truthful chain) {ranges : List LogRange} {now : Nat}
    {logs : List EventLog} (h : scan.readWriteLogs event hashLock now ranges = .ok logs)
    {log : EventLog} (hLog : log ∈ logs) :
    ∃ moment, log ∈ chain moment ∧ log.event = event ∧ log.hashLock = hashLock := by
  induction ranges generalizing now logs with
  | nil =>
    obtain rfl := Except.ok.inj h
    cases hLog
  | cons first ranges ih =>
    unfold LogScanner.readWriteLogs at h
    obtain ⟨read, hRead, h⟩ := bind_eq_ok.mp h
    obtain ⟨rest, hRest, h⟩ := bind_eq_ok.mp h
    obtain rfl := Except.ok.inj h
    rcases List.mem_append.mp hLog with hLog | hLog
    · obtain ⟨hChain, hEvent, hHash, -⟩ := (mem_logs hTruth (answered_eq_ok.mp hRead)).mp hLog
      exact ⟨now, hChain, hEvent, hHash⟩
    · exact ih hRest hLog

/-- What a planned read consists of. -/
theorem readPlanned_ok {fromBlock : Int} {receiptBlock : Option Int} {now : Nat}
    {read : LogScanPlan × List EventLog}
    (h : scan.readPlanned event hashLock fromBlock receiptBlock now = .ok read) :
    scan.planLogScan now fromBlock receiptBlock = .ok read.1 ∧ read.1.unread = none ∧
      scan.readWriteLogs event hashLock (now + 1) read.1.ranges = .ok read.2 := by
  unfold LogScanner.readPlanned at h
  obtain ⟨plan, hPlan, h⟩ := bind_eq_ok.mp h
  split at h
  · cases h
  · rename_i hUnread
    obtain ⟨logs, hLogs, h⟩ := bind_eq_ok.mp h
    obtain rfl := Except.ok.inj h
    exact ⟨hPlan, not_not.mp hUnread, hLogs⟩

/-- The lookup ends with a plan that leaves nothing unread, and with what its ranges hold. -/
theorem lookupWrite_ok {fromBlock : Int} {receiptBlock : Option Int} {replans now : Nat}
    {read : LogScanPlan × List EventLog}
    (h : scan.lookupWrite event hashLock fromBlock receiptBlock replans now = .ok read) :
    ∃ moment, scan.planLogScan moment fromBlock receiptBlock = .ok read.1 ∧ read.1.unread = none ∧
      scan.readWriteLogs event hashLock (moment + 1) read.1.ranges = .ok read.2 := by
  induction replans generalizing now with
  | zero => exact ⟨now, readPlanned_ok h⟩
  | succ replans ih =>
    unfold LogScanner.lookupWrite at h
    obtain ⟨first, hFirst, h⟩ := bind_eq_ok.mp h
    split at h
    · exact ih h
    · obtain rfl := Except.ok.inj h
      exact ⟨now, readPlanned_ok hFirst⟩

/-- A plan that knows the block of the write's receipt does not end below it. -/
theorem receipt_le_tip (hLimit : scan.config.LimitsPositive) {now : Nat} {fromBlock receipt : Int}
    {plan : LogScanPlan} (h : scan.planLogScan now fromBlock (some receipt) = .ok plan) {tip : Int}
    (hTip : plan.tip = some tip) : receipt ≤ tip := by
  rcases planLogScan_covers hLimit h with ⟨-, rfl⟩ | ⟨limit, tip', -, hRead, hCovers⟩
  · cases hTip
  · obtain ⟨raw, read, -, -, hEq⟩ := hRead
    obtain rfl := Option.some.inj (hTip.symm.trans hCovers.tipRead)
    rw [hEq]
    exact le_max_right _ _

end

/-- **The evidence of a write is of the only log there is.** It names a log that the node has shown
for the event and the hash lock, with the block and the transaction of that log; and every such log
that stays on the chain, between the marker and the tip of a plan that left nothing unread and does
not end below the write's own receipt, is that one. -/
theorem captureWriteEvidence_only (rt : Runtime) (scan : LogScanner)
    (chain : Nat → List EventLog) (hLimit : scan.config.LimitsPositive)
    (hTruth : scan.Truthful chain) (event : WriteEventName) (hashLock : String) (fromBlock : Int)
    (receiptBlock : Option Int) (evidence : WriteEvidence)
    (h : scan.captureWriteEvidence rt event hashLock fromBlock receiptBlock = .ok evidence) :
    evidence.ref = hashLock ∧ evidence.event = event ∧
      ∃ now plan, scan.planLogScan now fromBlock receiptBlock = .ok plan ∧ plan.unread = none ∧
        (∀ receipt ∈ receiptBlock, ∀ tip, plan.tip = some tip → receipt ≤ tip) ∧
        ∃ moment, ∃ log ∈ chain moment, log.event = event ∧ log.hashLock = hashLock ∧
          log.blockNumber = some evidence.blockNumber ∧ log.blockHash = some evidence.blockHash ∧
          log.transactionHash = some evidence.txHash ∧ log.logIndex = some evidence.logIndex ∧
          ∀ other n, Throughout chain other → other.event = event → other.hashLock = hashLock →
            other.blockNumber = some n → fromBlock ≤ n →
            (∀ tip, plan.tip = some tip → n ≤ tip) → other = log := by
  unfold LogScanner.captureWriteEvidence at h
  obtain ⟨⟨plan, logs⟩, hLookup, h⟩ := bind_eq_ok.mp h
  obtain ⟨now, hPlan, hUnread, hRead⟩ := lookupWrite_ok hLookup
  dsimp only at h
  split at h
  · rename_i log
    split at h
    · rename_i hNumber hHash hTx hIndex
      obtain rfl := Except.ok.inj h
      obtain ⟨moment, hLog, hEvent, hLock⟩ :=
        mem_readWriteLogs hTruth hRead (List.mem_singleton_self log)
      refine ⟨rfl, rfl, now, plan, hPlan, hUnread, fun receipt hReceipt tip hTip => ?_, moment, log,
        hLog, hEvent, hLock, hNumber, hHash, hTx, hIndex,
        fun other n hOther hOtherEvent hOtherLock hBlock hFrom hTip => ?_⟩
      · obtain rfl := Option.mem_def.mp hReceipt
        exact receipt_le_tip hLimit hPlan hTip
      · -- its block is in a range that was read, and one log was read in all
        obtain ⟨range, hRange, hHolds⟩ := holds_of_planned hLimit hPlan hUnread hBlock hFrom hTip
        exact List.mem_singleton.mp
          (readWriteLogs_mem hTruth hRead hRange hOther hOtherEvent hOtherLock hHolds)
    · cases h
  · cases h

theorem captureWriteEvidence_only_sample : ∃ evidence,
    ScanSample.scan.captureWriteEvidence ScanSample.runtime .Claimed "0xhash" 5 (some 6) =
      .ok evidence ∧ evidence.blockNumber = 6 ∧ ∃ log : EventLog,
        log.transactionHash = some evidence.txHash ∧ ScanSample.log = log := by
  have hEvidence : ScanSample.scan.captureWriteEvidence ScanSample.runtime .Claimed "0xhash" 5
      (some 6) = .ok ⟨"0xhash", .Claimed, "0xtx", 6, "0xblock", 0⟩ := by rfl
  obtain ⟨-, -, now, plan, hPlan, -, -, moment, log, -, -, -, -, -, hTx, -, hOnly⟩ :=
    captureWriteEvidence_only _ ScanSample.scan (fun _ => [ScanSample.log])
      ScanSample.limitsPositive ScanSample.truthful _ _ _ _ _ hEvidence
  refine ⟨_, hEvidence, rfl, log, hTx, hOnly ScanSample.log 6 (fun _ => List.mem_singleton_self _)
    rfl rfl rfl (by omega) fun tip hTip => ?_⟩
  exact receipt_le_tip ScanSample.limitsPositive hPlan hTip

end SwapDesk.Rails.Evm
