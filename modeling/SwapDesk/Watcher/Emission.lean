import SwapDesk.Desk.BoardFacts
import SwapDesk.Lib.ChangeLog

/-!
# SwapDesk — the log of statuses

The last step of `runSweep` in `src/watcher.ts`: the lines that a sweep appends to `swaps.jsonl`,
and what it keeps in `state.json` to tell which statuses changed.

Main result: `swapsJsonl_write`. The log is the one that would be written by looking at nothing
but the log, under one key for each pair and one for each bid that is not a pair yet.
-/

namespace SwapDesk.Watcher

open Desk

-- ---------------------------------------------------------------------------
-- Files
-- ---------------------------------------------------------------------------

def STATUS_RANK : SwapStatus → Int
  | .bid => 0
  | .accepted => 1
  | .paired => 2
  | .bLocked => 3
  | .aLocked => 4
  | .revealed => 5
  | .settled => 6
  | .refundedA => 6
  | .refundedB => 6
  | .refunded => 6
  | .abandoned => 6
  | .unpaired => -1
  | .orientationUnsupported => -1

/-- `state.json` -/
structure StateFile where
  statuses : OrdMap String SwapStatus
  hitCreated : Bool

/-- A line of `swaps.jsonl`. -/
structure SwapLine where
  sweptAtMs : Int
  swapId : String
  pairKey : Option String
  status : SwapStatus
  settlementView : SettlementViews
  legAOfferId : Option String
  legBOfferId : Option String
  buyerDid : Option String
  sellerDid : Option String
  feeBps : Option Nat
  reasons : List String
deriving DecidableEq, Repr

/-- The files that sweeps share. -/
structure Root where
  swapsJsonl : List SwapLine
  state : StateFile
  /-- The time in `HIT`. -/
  hit : Option Int

structure Sweep where
  sweptAtMs : Int
  board : Board

-- ---------------------------------------------------------------------------
-- A sweep
-- ---------------------------------------------------------------------------

/-- A swap's own key: its pair's once both legs are accepted, else its bid's. -/
def stateKeyOf (pairKey legAOfferId : Option String) (swapId : String) : String :=
  match pairKey with
  | some pairKey => "pair:" ++ pairKey
  | none => "offer:" ++ legAOfferId.getD "" ++ "|" ++ swapId

def SwapLine.stateKey (line : SwapLine) : String :=
  stateKeyOf line.pairKey line.legAOfferId line.swapId

/-- How many swaps of the board have the id. A buyer can use one for several. -/
def swapIdCount (swaps : List SwapView) (swapId : String) : Nat :=
  swaps.countP fun swap => swap.swapId = some swapId

/-- What is kept under a swap's own key, and else what an earlier version kept under its id. -/
def previousStatus (statuses : String → Option SwapStatus) (swaps : List SwapView)
    (swap : SwapView) (swapId : String) : Option SwapStatus :=
  let legacy := if swapIdCount swaps swapId = 1 then statuses swapId else none
  (statuses (stateKeyOf swap.pairKey swap.legAOfferId swapId)).or legacy

def lineOf (sweptAtMs : Int) (swap : SwapView) (swapId : String) : SwapLine where
  sweptAtMs
  swapId
  pairKey := swap.pairKey
  status := swap.status
  settlementView := swap.settlementView
  legAOfferId := swap.legAOfferId
  legBOfferId := swap.legBOfferId
  buyerDid := swap.buyerDid
  sellerDid := swap.sellerDid
  feeBps := swap.feeBps
  reasons := swap.reasons

structure Emission where
  statuses : OrdMap String SwapStatus
  newLines : List SwapLine

def emitSwap (sweep : Sweep) (emission : Emission) (swap : SwapView) : Emission :=
  match swap.swapId with
  | none => emission
  | some swapId =>
    if previousStatus emission.statuses.get? sweep.board.swaps swap swapId = some swap.status then
      emission
    else
      { statuses := emission.statuses.set (stateKeyOf swap.pairKey swap.legAOfferId swapId)
          swap.status
        newLines := emission.newLines ++ [lineOf sweep.sweptAtMs swap swapId] }

def reachedPairedOrLater (board : Board) : Bool :=
  board.swaps.any fun swap =>
    swap.swapId.isSome && decide (STATUS_RANK .paired ≤ STATUS_RANK swap.status)

/-- What a completed sweep writes besides its board. -/
def Root.write (root : Root) (sweep : Sweep) : Root :=
  let emission := sweep.board.swaps.foldl (emitSwap sweep) ⟨root.state.statuses, []⟩
  let hit := reachedPairedOrLater sweep.board && !root.state.hitCreated && root.hit.isNone
  { swapsJsonl := root.swapsJsonl ++ emission.newLines
    state := ⟨emission.statuses, root.state.hitCreated || hit⟩
    hit := if hit then some sweep.sweptAtMs else root.hit }

def Root.afterSweeps (root : Root) (sweeps : List Sweep) : Root := sweeps.foldl Root.write root

-- ---------------------------------------------------------------------------
-- The log by itself
-- ---------------------------------------------------------------------------

/-- The status last recorded under a key: the log's, or what was kept before it began. -/
def recorded (start : OrdMap String SwapStatus) (log : List SwapLine) (key : String) :
    Option SwapStatus :=
  (ChangeLog.last SwapLine.stateKey SwapLine.status log key).or (start.get? key)

/-- The status last recorded for a swap: the one under its own key, or, where there is none and
no other swap of the board has the id, the one under the bare id. -/
def recordedOf (start : OrdMap String SwapStatus) (log : List SwapLine) (swaps : List SwapView)
    (swap : SwapView) (swapId : String) : Option SwapStatus :=
  match recorded start log (stateKeyOf swap.pairKey swap.legAOfferId swapId) with
  | some status => some status
  | none =>
    if (swaps.filter fun other => other.swapId = some swapId).length = 1 then
      recorded start log swapId
    else none

/-- A status is logged if it is not the one last recorded. -/
def logSwap (start : OrdMap String SwapStatus) (sweep : Sweep) (log : List SwapLine)
    (swap : SwapView) : List SwapLine :=
  match swap.swapId with
  | none => log
  | some swapId =>
    if recordedOf start log sweep.board.swaps swap swapId = some swap.status then log
    else log ++ [lineOf sweep.sweptAtMs swap swapId]

def logSweep (start : OrdMap String SwapStatus) (log : List SwapLine) (sweep : Sweep) :
    List SwapLine :=
  sweep.board.swaps.foldl (logSwap start sweep) log

/-- The lines of a run of sweeps. -/
def changeLog (start : OrdMap String SwapStatus) (sweeps : List Sweep) : List SwapLine :=
  sweeps.foldl (logSweep start) []

-- ---------------------------------------------------------------------------
-- What the state file keeps
-- ---------------------------------------------------------------------------

section

variable {start statuses : OrdMap String SwapStatus} {log : List SwapLine}

/-- The state file keeps what was last recorded under each key. -/
def Tracks (start statuses : OrdMap String SwapStatus) (log : List SwapLine) : Prop :=
  statuses.get? = recorded start log

/-- A line that is logged is kept under its key. -/
theorem Tracks.push (h : Tracks start statuses log) (line : SwapLine) :
    Tracks start (statuses.set line.stateKey line.status) (log ++ [line]) := by
  funext key
  have hKey := congrFun h key
  unfold recorded at hKey ⊢
  rw [OrdMap.get?_set, ChangeLog.last_push]
  by_cases hSame : key = line.stateKey
  · rw [if_pos hSame, if_pos hSame.symm, Option.some_or]
  · rw [if_neg hSame, if_neg (Ne.symm hSame), hKey]

/-- Looked up in what was recorded, the previous status is the one last recorded for the swap. -/
theorem previousStatus_recorded (swaps : List SwapView) (swap : SwapView) (swapId : String) :
    previousStatus (recorded start log) swaps swap swapId =
      recordedOf start log swaps swap swapId := by
  unfold previousStatus recordedOf swapIdCount
  rw [List.countP_eq_length_filter]
  cases recorded start log (stateKeyOf swap.pairKey swap.legAOfferId swapId) with
  | none => rfl
  | some status => rfl

/-- One swap of a sweep: its line is appended to both logs or to neither. -/
theorem emitSwap_eq_logSwap (sweep : Sweep) {newLines : List SwapLine}
    (h : Tracks start statuses (log ++ newLines)) (swap : SwapView) :
    let next := emitSwap sweep ⟨statuses, newLines⟩ swap
    log ++ next.newLines = logSwap start sweep (log ++ newLines) swap ∧
      Tracks start next.statuses (log ++ next.newLines) := by
  unfold emitSwap logSwap
  cases hSwap : swap.swapId with
  | none => exact ⟨rfl, h⟩
  | some swapId =>
    have hPrevious : recordedOf start (log ++ newLines) sweep.board.swaps swap swapId =
        previousStatus statuses.get? sweep.board.swaps swap swapId := by
      rw [← previousStatus_recorded]
      exact congrArg (previousStatus · sweep.board.swaps swap swapId) h.symm
    dsimp only
    rw [hPrevious]
    by_cases hSame : previousStatus statuses.get? sweep.board.swaps swap swapId = some swap.status
    · rw [if_pos hSame, if_pos hSame]
      exact ⟨rfl, h⟩
    · rw [if_neg hSame, if_neg hSame, ← List.append_assoc]
      exact ⟨rfl, h.push (lineOf sweep.sweptAtMs swap swapId)⟩

/-- The swaps of a sweep, one by one. -/
theorem emitSwaps_eq_logSwaps (sweep : Sweep) (swaps : List SwapView) {newLines : List SwapLine}
    (h : Tracks start statuses (log ++ newLines)) :
    let next := swaps.foldl (emitSwap sweep) ⟨statuses, newLines⟩
    log ++ next.newLines = swaps.foldl (logSwap start sweep) (log ++ newLines) ∧
      Tracks start next.statuses (log ++ next.newLines) := by
  induction swaps generalizing statuses newLines with
  | nil => exact ⟨rfl, h⟩
  | cons swap swaps ih =>
    obtain ⟨hLines, hTracks⟩ := emitSwap_eq_logSwap sweep h swap
    obtain ⟨hRest, hNext⟩ := ih hTracks
    rw [List.foldl_cons, List.foldl_cons]
    exact ⟨hRest.trans (congrArg (swaps.foldl (logSwap start sweep)) hLines), hNext⟩

/-- A run of sweeps keeps the two logs equal, and the state file up to date. -/
theorem afterSweeps_eq (before : List SwapLine) (sweeps : List Sweep) {root : Root}
    (hLog : root.swapsJsonl = before ++ log) (h : Tracks start root.state.statuses log) :
    (root.afterSweeps sweeps).swapsJsonl = before ++ sweeps.foldl (logSweep start) log := by
  induction sweeps generalizing root log with
  | nil => exact hLog
  | cons sweep sweeps ih =>
    rw [← List.append_nil log] at h
    obtain ⟨hLines, hTracks⟩ := emitSwaps_eq_logSwaps sweep sweep.board.swaps h
    rw [List.append_nil] at hLines
    rw [hLines] at hTracks
    have hNext : (root.write sweep).swapsJsonl = before ++ logSweep start log sweep := by
      unfold Root.write
      dsimp only
      rw [hLog, List.append_assoc, hLines]
      rfl
    rw [List.foldl_cons]
    exact ih hNext hTracks

-- ---------------------------------------------------------------------------
-- What the log says
-- ---------------------------------------------------------------------------

open ChangeLog

/-- What is recorded under the key of a swap is never logged again. -/
theorem logSwap_changes (sweep : Sweep) (h : Changes SwapLine.stateKey SwapLine.status log)
    (swap : SwapView) :
    Changes SwapLine.stateKey SwapLine.status (logSwap start sweep log swap) := by
  unfold logSwap
  cases hSwap : swap.swapId with
  | none => exact h
  | some swapId =>
    dsimp only
    by_cases hSame : recordedOf start log sweep.board.swaps swap swapId = some swap.status
    · rw [if_pos hSame]
      exact h
    · rw [if_neg hSame]
      refine h.push fun hLast => hSame ?_
      have hKey : recorded start log (stateKeyOf swap.pairKey swap.legAOfferId swapId) =
          some swap.status := by
        rw [recorded, show last SwapLine.stateKey SwapLine.status log
          (stateKeyOf swap.pairKey swap.legAOfferId swapId) = some swap.status from hLast,
          Option.some_or]
      rw [recordedOf, hKey]

/-- Nor over a run of sweeps. -/
theorem foldl_logSweep_changes (sweeps : List Sweep)
    (h : Changes SwapLine.stateKey SwapLine.status log) :
    Changes SwapLine.stateKey SwapLine.status (sweeps.foldl (logSweep start) log) := by
  induction sweeps generalizing log with
  | nil => exact h
  | cons sweep sweeps ih =>
    refine ih ?_
    unfold logSweep
    generalize sweep.board.swaps = swaps
    induction swaps generalizing log with
    | nil => exact h
    | cons swap swaps ihSwaps => exact ihSwaps (logSwap_changes sweep h swap)

end

/-- From any files, a run of sweeps appends a line for a swap exactly when its status is not the one
last recorded under its key, and no two lines in a row under one key have the same status. -/
theorem swapsJsonl_write (root : Root) (sweeps : List Sweep) :
    (root.afterSweeps sweeps).swapsJsonl =
      root.swapsJsonl ++ changeLog root.state.statuses sweeps ∧
    ChangeLog.Changes SwapLine.stateKey SwapLine.status
      (changeLog root.state.statuses sweeps) := by
  refine ⟨afterSweeps_eq root.swapsJsonl sweeps (List.append_nil _).symm ?_,
    foldl_logSweep_changes sweeps ChangeLog.changes_nil⟩
  funext key
  rw [recorded, ChangeLog.last_nil, Option.none_or]

-- ---------------------------------------------------------------------------
-- A pair that is overtaken
-- ---------------------------------------------------------------------------

/-- The sweep of what a board is built from. -/
def sweepOf (t : Tclk) (input : BoardInput) : Option Sweep :=
  (buildBoard t input).map (Sweep.mk input.nowMs)

def Root.fresh : Root := ⟨[], ⟨.empty, false⟩, none⟩

/-- What a sweep appends. -/
def Root.appended (root : Root) (sweep : Sweep) : List SwapLine :=
  (root.write sweep).swapsJsonl.drop root.swapsJsonl.length

/-- The status in the last line of a bid. -/
def bidStatus (log : List SwapLine) (legAOfferId : String) : Option SwapStatus :=
  ChangeLog.last SwapLine.legAOfferId SwapLine.status log (some legAOfferId)

namespace Sample

/-- The Seller accepts the bid first, but the stranger's leg B crosses first. -/
def early : List TranscriptRecord :=
  [Room.post 1 "buyer" "offer a", Room.post 2 "seller" "accept a",
   Room.post 3 "stranger" "stranger accepts a", Room.post 4 "stranger" "offer d",
   Room.post 5 "buyer" "accept d"]

def late : List TranscriptRecord :=
  early ++ [Room.post 6 "seller" "offer b", Room.post 7 "buyer" "accept b"]

end Sample

/-- When the leg B of a bid changes, so does the key, and the status is logged once more although
it is the same. -/
theorem appended_unchanged : ¬ ∀ (t : Tclk) (inputs : List BoardInput) (sweeps : List Sweep)
    (next : BoardInput) (sweep : Sweep), inputs.mapM (sweepOf t) = some sweeps →
    sweepOf t next = some sweep → ∀ swap ∈ sweep.board.swaps, ∀ legAOfferId,
    swap.swapId.isSome = true → swap.legAOfferId = some legAOfferId →
    ((∃ line ∈ (Root.fresh.afterSweeps sweeps).appended sweep,
        line.legAOfferId = some legAOfferId) ↔
      bidStatus (Root.fresh.afterSweeps sweeps).swapsJsonl legAOfferId ≠ some swap.status) := by
  intro hAll
  have hRun : ((sweepOf Room.tclk (Room.inputOf Sample.early)).bind fun sweep =>
      (sweepOf Room.tclk (Room.inputOf Sample.late)).map fun next =>
        (next.board.swaps.map fun swap => (swap.swapId.isSome, swap.legAOfferId, swap.status),
          ((Root.fresh.afterSweeps [sweep]).appended next).map (·.legAOfferId),
          bidStatus (Root.fresh.afterSweeps [sweep]).swapsJsonl (Room.idOf 'a'))) =
      some ([(true, some (Room.idOf 'a'), .paired)], [some (Room.idOf 'a')], some .paired) := by
    decide +kernel
  obtain ⟨sweep, hSweep, hRest⟩ := Option.bind_eq_some_iff.mp hRun
  obtain ⟨next, hNext, hSeen⟩ := Option.map_eq_some_iff.mp hRest
  obtain ⟨hSwaps, hSeen⟩ := Prod.mk.inj hSeen
  obtain ⟨hLines, hStatus⟩ := Prod.mk.inj hSeen
  obtain ⟨swap, hSwap, hFields⟩ := List.mem_map.mp
    (hSwaps ▸ List.mem_singleton_self (true, some (Room.idOf 'a'), SwapStatus.paired))
  obtain ⟨hId, hFields⟩ := Prod.mk.inj hFields
  obtain ⟨hOffer, hPaired⟩ := Prod.mk.inj hFields
  obtain ⟨line, hLine, hLineOffer⟩ := List.mem_map.mp
    (hLines ▸ List.mem_singleton_self (some (Room.idOf 'a')))
  have hSweeps : [Room.inputOf Sample.early].mapM (sweepOf Room.tclk) = some [sweep] := by
    rw [List.mapM_cons, hSweep]
    rfl
  refine (hAll Room.tclk _ [sweep] _ next hSweeps hNext swap hSwap (Room.idOf 'a') hId hOffer).mp
    ⟨line, hLine, hLineOffer⟩ ?_
  rw [hPaired]
  exact hStatus

end SwapDesk.Watcher
