import SwapDesk.Rails.BtcNode

/-!
# SwapDesk — the search for a claim's preimage on Bitcoin

`findMempoolSpend`, `scanMinedSpend` and `findClaimPreimage` of `src/rails/btc-htlc.ts`: the mempool
is read before the tip, and the blocks after it.

Main result: `findClaimPreimage_complete`. A claim that is known all along is found, wherever it
goes between the reads.
-/

namespace SwapDesk.Rails.BtcNode

open Check Desk

/-! ## The search -/

structure MempoolSpend where
  txid : String
  witness : List String
deriving DecidableEq, Repr

def findMempoolSpend (run : NodeRun) (now : Nat) (ref : String) :
    Except RpcFailure (Option MempoolSpend) := do
  let outpoint ← parseOutpointRef ref
  match ← run.ask now fun view => .ok (view.gettxspendingprevout outpoint) with
  | none => return none
  | some spendingtxid =>
    let spender ← run.ask (now + 1) (·.getrawtransaction spendingtxid)
    return (spender.vin.find? (·.spends outpoint)).map fun input =>
      ⟨spendingtxid, input.txinwitness⟩

/-- The first item of 32 bytes that the hash lock is the hash of. -/
def preimageOpening (sha256 : List UInt8 → List UInt8) (witness : List String)
    (hashLockBytes : List UInt8) : Option String :=
  witness.findSome? fun item => do
    guard (HEX64_ANY_CASE item)
    let candidate ← hexToBytes item
    guard (sha256 candidate = hashLockBytes)
    return "0x" ++ bytesToHex candidate

/-- The first input of the block that spends the output. -/
def NodeBlock.spend (block : NodeBlock) (outpoint : Outpoint) : Option NodeInput :=
  block.tx.findSome? fun tx => tx.vin.find? (·.spends outpoint)

section

variable (sha256 : List UInt8 → List UInt8) (run : NodeRun)

/-- The loop of `scanMinedSpend`, with the number of heights that are left. -/
def scanHeights (outpoint : Outpoint) (hashLockBytes : List UInt8) :
    Nat → Nat → Nat → Except RpcFailure (Option String)
  | _, _, 0 => .ok none
  | now, height, left + 1 => do
    let blockHash ← run.ask now (·.getblockhash height)
    let block ← run.ask (now + 1) (·.getblock blockHash)
    match block.spend outpoint with
    | some input => return preimageOpening sha256 input.txinwitness hashLockBytes
    | none => scanHeights outpoint hashLockBytes (now + 2) (height + 1) left

def scanMinedSpend (now : Nat) (outpoint : Outpoint) (hashLockBytes : List UInt8)
    (fromHeight : Nat) : Except RpcFailure (Option String) := do
  let tip ← run.ask now fun view => .ok view.tip
  scanHeights sha256 run outpoint hashLockBytes (now + 1) fromHeight (tip + 1 - fromHeight)

def findClaimPreimage (now : Nat) (ref hashLockHex : String) (fromHeight : Nat) :
    Except RpcFailure (Option String) := do
  let outpoint ← parseOutpointRef ref
  require (HASH_LOCK_SHAPE hashLockHex = true)
    (.error "btc-htlc: hashLock must be 0x + 64 lowercase hex")
  -- the shape leaves the decoder nothing to refuse
  let hashLockBytes := (hexToBytes (sliceFrom hashLockHex 2)).getD []
  let mempoolSpend ← findMempoolSpend run now ref
  match mempoolSpend.bind fun spend => preimageOpening sha256 spend.witness hashLockBytes with
  | some preimage => return some preimage
  | none => scanMinedSpend sha256 run (now + 2) outpoint hashLockBytes fromHeight

end

/-! ## What it looks for -/

/-- An item of the witness opens the hash lock, and this is its text. -/
def Opening (sha256 : List UInt8 → List UInt8) (hashLockHex : String) (witness : List String)
    (preimage : String) : Prop :=
  ∃ item ∈ witness, ∃ bytes, hexToBytes item = some bytes ∧ bytes.length = 32 ∧
    hexToBytes (sliceFrom hashLockHex 2) = some (sha256 bytes) ∧ preimage = "0x" ++ bytesToHex bytes

/-- The transaction is in the mempool, or in a block from this height on. -/
def NodeView.Known (view : NodeView) (fromHeight : Nat) (tx : NodeTx) : Prop :=
  tx ∈ view.mempool ∨
    ∃ height block, fromHeight ≤ height ∧ view.blocks[height]? = some block ∧ tx ∈ block.tx

/-- The search has returned such a text. -/
def Found (sha256 : List UInt8 → List UInt8) (hashLockHex : String) (witness : List String)
    (result : Option String) : Prop :=
  ∃ preimage, result = some preimage ∧ Opening sha256 hashLockHex witness preimage

/-- A call returned such a value, or a request failed on the way. -/
def Reads {α : Type} (run : NodeRun) (result : Except RpcFailure α) (good : α → Prop) : Prop :=
  (∃ a, result = .ok a ∧ good a) ∨
    ∃ t message, run.failure t = some message ∧ result = .error (.error message)

section

variable {sha256 : List UInt8 → List UInt8} {run : NodeRun} {outpoint : Outpoint}
variable {hashLockHex : String}

/-- A value reads well when it is good. -/
theorem Reads.ok {α : Type} {good : α → Prop} {a : α} (h : good a) : Reads run (.ok a) good :=
  .inl ⟨a, rfl, h⟩

/-- A request reads the view of its moment. -/
theorem Reads.ask {α : Type} {now : Nat} {read : NodeView → Except RpcFailure α} {a : α}
    (hRead : read (run.view now) = .ok a) : Reads run (run.ask now read) (· = a) := by
  unfold NodeRun.ask
  cases hFailure : run.failure now with
  | some message => exact .inr ⟨now, message, hFailure, rfl⟩
  | none => exact .inl ⟨a, hRead, rfl⟩

/-- Reads are sequenced. -/
theorem Reads.bind {α β : Type} {first : Except RpcFailure α} {rest : α → Except RpcFailure β}
    {middle : α → Prop} {good : β → Prop} (h : Reads run first middle)
    (hRest : ∀ a, middle a → Reads run (rest a) good) : Reads run (first >>= rest) good := by
  rcases h with ⟨a, rfl, hMiddle⟩ | ⟨t, message, hFailure, rfl⟩
  · exact hRest a hMiddle
  · exact .inr ⟨t, message, hFailure, rfl⟩

/-- A read whose answer is known hands it on. -/
theorem Reads.askBind {α β : Type} {now : Nat} {read : NodeView → Except RpcFailure α} {a : α}
    {rest : α → Except RpcFailure β} {good : β → Prop} (hRead : read (run.view now) = .ok a)
    (h : Reads run (rest a) good) : Reads run (run.ask now read >>= rest) good :=
  (Reads.ask hRead).bind fun _ hSame => hSame ▸ h

/-- A witness that opens the hash lock gives a preimage, and only such a one. -/
theorem preimageOpening_spec {witness : List String}
    (h : ∃ preimage, Opening sha256 hashLockHex witness preimage) :
    Found sha256 hashLockHex witness
      (preimageOpening sha256 witness ((hexToBytes (sliceFrom hashLockHex 2)).getD [])) := by
  obtain ⟨preimage, item, hItem, bytes, hBytes, hLength, hHash, rfl⟩ := h
  -- the item that opens the lock is one that the search tries
  have hShape : HEX64_ANY_CASE item = true := by
    unfold HEX64_ANY_CASE
    rw [Bool.and_eq_true, decide_eq_true_eq, List.all_eq_true]
    have hTwice := Hex.length_of_decode hBytes
    exact ⟨by omega, Hex.isHex_of_decode hBytes⟩
  rw [hHash, Option.getD_some]
  -- and what it finds first opens the lock as well
  cases hFound : preimageOpening sha256 witness (sha256 bytes) with
  | none =>
    have hNot := List.findSome?_eq_none_iff.mp hFound item hItem
    simp [hShape, hBytes, guard] at hNot
  | some found =>
    obtain ⟨opener, hMem, hOpens⟩ := List.exists_of_findSome?_eq_some hFound
    refine ⟨found, rfl, opener, hMem, ?_⟩
    obtain ⟨_, hDigits, hRest⟩ := Option.bind_eq_some_iff.mp hOpens
    obtain ⟨candidate, hCandidate, hRest⟩ := Option.bind_eq_some_iff.mp hRest
    obtain ⟨_, hOpened, hText⟩ := Option.bind_eq_some_iff.mp hRest
    have hLong : opener.toList.length = 64 := by
      by_contra hNot
      simp [guard, HEX64_ANY_CASE, hNot] at hDigits
    have hSame : sha256 candidate = sha256 bytes := by
      by_contra hNot
      simp [guard, hNot] at hOpened
    have hTwice := Hex.length_of_decode hCandidate
    exact ⟨candidate, hCandidate, by omega, by rw [hHash, hSame], (Option.some.inj hText).symm⟩

/-- The blocks of a later moment hold those of an earlier one at their heights. -/
theorem NodeRun.Steady.getElem? (hSteady : run.Steady) {a b : Nat} (h : a ≤ b) {height : Nat}
    {block : NodeBlock} (hBlock : (run.view a).blocks[height]? = some block) :
    (run.view b).blocks[height]? = some block := by
  obtain ⟨more, hMore⟩ := hSteady.blocks h
  rw [hMore]
  rw [List.getElem?_append_left (List.getElem?_eq_some_iff.mp hBlock).1, hBlock]

/-- The one input that spends the output is the one that is found in a list of such inputs. -/
theorem find?_spends {inputs : List NodeInput} {input : NodeInput} (hInput : input ∈ inputs)
    (hSpends : input.spends outpoint = true)
    (hOnly : ∀ other ∈ inputs, other.spends outpoint = true → other = input) :
    inputs.find? (·.spends outpoint) = some input := by
  cases hFound : inputs.find? (·.spends outpoint) with
  | none => exact absurd hSpends (List.find?_eq_none.mp hFound input hInput)
  | some other =>
    have hOther := List.find?_some hFound
    rw [hOnly other (List.mem_of_find?_eq_some hFound) hOther]

/-- A block whose spend it is has that spend, and the others have none. -/
theorem NodeBlock.spend_eq {view : NodeView} (hConsistent : view.Consistent) {tx : NodeTx}
    {input : NodeInput} (hTx : tx ∈ view.chain) (hInput : input ∈ tx.vin)
    (hSpends : input.spends outpoint = true) {block : NodeBlock} (hBlock : block ∈ view.blocks) :
    (∀ found, block.spend outpoint = some found → found = input) ∧
      (tx ∈ block.tx → block.spend outpoint ≠ none) := by
  have hTxSpends : tx.spends outpoint = true := List.any_eq_true.mpr ⟨input, hInput, hSpends⟩
  constructor
  · intro found hFound
    obtain ⟨other, hOther, hFind⟩ := List.exists_of_findSome?_eq_some hFound
    have hFoundSpends := List.find?_some hFind
    have hMem := List.mem_of_find?_eq_some hFind
    have hChain : other ∈ view.chain := mem_chain.mpr ⟨block, hBlock, hOther⟩
    have hSame := hConsistent.once other tx outpoint
      ⟨.inr hChain, List.any_eq_true.mpr ⟨found, hMem, hFoundSpends⟩⟩ ⟨.inr hTx, hTxSpends⟩
    exact hConsistent.inputs tx (.inr hTx) found (hSame ▸ hMem) input hInput outpoint
      hFoundSpends hSpends
  · intro hIn hNone
    have hNot := List.findSome?_eq_none_iff.mp hNone tx hIn
    exact absurd hSpends (List.find?_eq_none.mp hNot input hInput)

/-- The block of a hash is the one that has it. -/
theorem getblock_eq {view : NodeView} (hConsistent : view.Consistent) {block : NodeBlock}
    (hBlock : block ∈ view.blocks) : view.getblock block.hash = .ok block := by
  unfold NodeView.getblock
  cases hFound : view.blocks.find? (·.hash = block.hash) with
  | none => exact absurd (decide_eq_true rfl) (List.find?_eq_none.mp hFound block hBlock)
  | some other =>
    have hHash := List.find?_some hFound
    rw [List.inj_on_of_nodup_map hConsistent.hashes (List.mem_of_find?_eq_some hFound) hBlock
      (of_decide_eq_true hHash)]

/-- A spend that was mined at one of the heights that are left is found. -/
theorem scanHeights_complete (hSteady : run.Steady) {tx : NodeTx} {input : NodeInput}
    (hInput : input ∈ tx.vin) (hSpends : input.spends outpoint = true)
    (hOpens : ∃ preimage, Opening sha256 hashLockHex input.txinwitness preimage) {target : Nat}
    {block : NodeBlock} (hTx : tx ∈ block.tx) (left : Nat) :
    ∀ now height, (run.view now).blocks[target]? = some block → height ≤ target →
      target < height + left → height + left ≤ (run.view now).blocks.length →
      Reads run (scanHeights sha256 run outpoint
        ((hexToBytes (sliceFrom hashLockHex 2)).getD []) now height left)
        (Found sha256 hashLockHex input.txinwitness) := by
  induction left with
  | zero =>
    intro now height _ hFrom hTo _
    omega
  | succ left ih =>
    intro now height hBlock hFrom hTo hLength
    have hAt : (run.view now).blocks[height]? = some (run.view now).blocks[height] :=
      List.getElem?_eq_getElem (by omega)
    generalize (run.view now).blocks[height] = here at hAt
    have hNext := hSteady.getElem? (Nat.le_succ now) hAt
    have hHere : here ∈ (run.view (now + 1)).blocks := List.mem_of_getElem? hNext
    have hMined : tx ∈ (run.view (now + 1)).chain :=
      mem_chain.mpr ⟨block, List.mem_of_getElem? (hSteady.getElem? (Nat.le_succ now) hBlock), hTx⟩
    obtain ⟨hOnly, hSome⟩ := NodeBlock.spend_eq (hSteady.consistent (now + 1)) hMined hInput
      hSpends hHere
    unfold scanHeights
    have hHash : (run.view now).getblockhash height = .ok here.hash := by
      unfold NodeView.getblockhash
      rw [hAt]
    refine Reads.askBind hHash ?_
    refine Reads.askBind (getblock_eq (hSteady.consistent (now + 1)) hHere) ?_
    cases hSpend : here.spend outpoint with
    | some found =>
      rw [hOnly found hSpend]
      exact Reads.ok (preimageOpening_spec hOpens)
    | none =>
      -- the block of the spend is a later one
      have hLater : height ≠ target := by
        rintro rfl
        rw [hBlock] at hAt
        cases hAt
        exact hSome hTx hSpend
      refine ih (now + 2) (height + 1) (hSteady.getElem? (by omega) hBlock) (by omega) (by omega) ?_
      obtain ⟨more, hMore⟩ := hSteady.blocks (Nat.le_add_right now 2)
      rw [hMore, List.length_append]
      omega

/-- A mined spend is found, whatever the tip grows to. -/
theorem scanMinedSpend_complete (hSteady : run.Steady) {tx : NodeTx} {input : NodeInput}
    (hInput : input ∈ tx.vin) (hSpends : input.spends outpoint = true)
    (hOpens : ∃ preimage, Opening sha256 hashLockHex input.txinwitness preimage)
    {now fromHeight target : Nat} {block : NodeBlock} (hTx : tx ∈ block.tx)
    (hBlock : (run.view now).blocks[target]? = some block) (hFrom : fromHeight ≤ target) :
    Reads run (scanMinedSpend sha256 run now outpoint
      ((hexToBytes (sliceFrom hashLockHex 2)).getD []) fromHeight)
      (Found sha256 hashLockHex input.txinwitness) := by
  have hTarget := (List.getElem?_eq_some_iff.mp hBlock).1
  unfold scanMinedSpend
  refine Reads.askBind rfl ?_
  refine scanHeights_complete hSteady hInput hSpends hOpens hTx _ (now + 1) fromHeight
    (hSteady.getElem? (Nat.le_succ now) hBlock) hFrom ?_ ?_
  · unfold NodeView.tip
    omega
  · obtain ⟨more, hMore⟩ := hSteady.blocks (Nat.le_succ now)
    rw [hMore, List.length_append]
    unfold NodeView.tip
    omega

/-- A transaction that the node knows is found, with its inputs. -/
theorem getrawtransaction_ok {view : NodeView} (hConsistent : view.Consistent) {tx : NodeTx}
    (hTx : tx ∈ view.mempool ∨ tx ∈ view.chain) :
    ∃ answer, view.getrawtransaction tx.txid = .ok answer ∧ answer.vin = tx.vin := by
  unfold NodeView.getrawtransaction
  cases hPending : view.mempool.find? (·.txid = tx.txid) with
  | some pending =>
    have hSame := List.find?_some hPending
    have hMem := List.mem_of_find?_eq_some hPending
    exact ⟨_, rfl, congrArg NodeTx.vin
      (hConsistent.ids pending tx (.inl hMem) hTx (of_decide_eq_true hSame))⟩
  | none =>
    have hMined : view.InChain tx.txid := by
      refine ⟨tx, hTx.resolve_left fun hMem => ?_, rfl⟩
      exact absurd (decide_eq_true rfl) (List.find?_eq_none.mp hPending tx hMem)
    cases hFound : findMined tx.txid view.blocks with
    | none => exact absurd hFound (inChain_iff.mp hMined)
    | some found =>
      obtain ⟨height, block, mined⟩ := found
      obtain ⟨-, hBlock, hMem, hSame⟩ := findMined_eq_some hFound
      have hChain : mined ∈ view.chain := mem_chain.mpr ⟨block, hBlock, hMem⟩
      exact ⟨_, rfl, congrArg NodeTx.vin (hConsistent.ids mined tx (.inr hChain) hTx hSame)⟩

/-- A pending spend is the one that the mempool is asked for. -/
theorem gettxspendingprevout_eq {view : NodeView} (hConsistent : view.Consistent) {tx : NodeTx}
    (hTx : tx ∈ view.mempool ∨ tx ∈ view.chain) (hSpends : tx.spends outpoint = true) :
    view.gettxspendingprevout outpoint = if tx ∈ view.mempool then some tx.txid else none := by
  unfold NodeView.gettxspendingprevout
  cases hFound : view.mempool.find? (·.spends outpoint) with
  | none =>
    have hNot : tx ∉ view.mempool := fun hMem =>
      absurd hSpends (List.find?_eq_none.mp hFound tx hMem)
    rw [if_neg hNot, Option.map_none]
  | some pending =>
    have hPending := List.find?_some hFound
    have hMem := List.mem_of_find?_eq_some hFound
    have hSame := hConsistent.once pending tx outpoint ⟨.inl hMem, hPending⟩ ⟨hTx, hSpends⟩
    rw [if_pos (hSame ▸ hMem), Option.map_some, hSame]

/-- A known transaction is in the mempool or in the chain. -/
theorem NodeView.Known.held {view : NodeView} {fromHeight : Nat} {tx : NodeTx}
    (h : view.Known fromHeight tx) : tx ∈ view.mempool ∨ tx ∈ view.chain :=
  h.imp_right fun ⟨_, block, _, hBlock, hTx⟩ =>
    mem_chain.mpr ⟨block, List.mem_of_getElem? hBlock, hTx⟩

/-- The mempool's spend is the one that is known, with its witness, if it is pending. -/
theorem findMempoolSpend_spec (hSteady : run.Steady) {ref : String}
    (hRef : parseRef ref = some outpoint) {now fromHeight : Nat} {tx : NodeTx}
    (hNow : (run.view now).Known fromHeight tx)
    (hNext : (run.view (now + 1)).Known fromHeight tx) {input : NodeInput}
    (hInput : input ∈ tx.vin) (hSpends : input.spends outpoint = true) :
    Reads run (findMempoolSpend run now ref) fun spend =>
      (tx ∈ (run.view now).mempool ∧ spend = some ⟨tx.txid, input.txinwitness⟩) ∨
        (tx ∉ (run.view now).mempool ∧ spend = none) := by
  have hTxSpends : tx.spends outpoint = true := List.any_eq_true.mpr ⟨input, hInput, hSpends⟩
  have hAsked := gettxspendingprevout_eq (hSteady.consistent now) hNow.held hTxSpends
  unfold findMempoolSpend parseOutpointRef
  rw [hRef]
  refine Reads.askBind (congrArg Except.ok hAsked) ?_
  by_cases hPending : tx ∈ (run.view now).mempool
  · rw [if_pos hPending]
    obtain ⟨answer, hAnswer, hVin⟩ :=
      getrawtransaction_ok (hSteady.consistent (now + 1)) hNext.held
    refine Reads.askBind hAnswer (Reads.ok (.inl ⟨hPending, ?_⟩))
    have hOnly : ∀ other ∈ tx.vin, other.spends outpoint = true → other = input :=
      fun other hOther hOtherSpends => (hSteady.consistent now).inputs tx hNow.held other hOther
        input hInput outpoint hOtherSpends hSpends
    rw [hVin, find?_spends hInput hSpends hOnly, Option.map_some]
  · rw [if_neg hPending]
    exact Reads.ok (.inr ⟨hPending, rfl⟩)

end

/-- A claim that is known when the mempool is read and at the next read is found, whether it is
pending, mined, or mined in between; so nothing is returned only if no claim is known all along. -/
theorem findClaimPreimage_complete {run : NodeRun} (hSteady : run.Steady)
    (sha256 : List UInt8 → List UInt8) {ref : String} {outpoint : Outpoint}
    (hRef : parseRef ref = some outpoint) {hashLockHex : String}
    (hLock : HASH_LOCK_SHAPE hashLockHex = true) (now fromHeight : Nat) :
    (∀ tx, (run.view now).Known fromHeight tx → (run.view (now + 1)).Known fromHeight tx →
      ∀ input ∈ tx.vin, input.spends outpoint = true →
      (∃ preimage, Opening sha256 hashLockHex input.txinwitness preimage) →
      Reads run (findClaimPreimage sha256 run now ref hashLockHex fromHeight)
        (Found sha256 hashLockHex input.txinwitness)) ∧
    (findClaimPreimage sha256 run now ref hashLockHex fromHeight = .ok none →
      ∀ tx, (run.view now).Known fromHeight tx → (run.view (now + 1)).Known fromHeight tx →
      ∀ input ∈ tx.vin, input.spends outpoint = true →
      ¬ ∃ preimage, Opening sha256 hashLockHex input.txinwitness preimage) := by
  have hFinds : ∀ tx, (run.view now).Known fromHeight tx →
      (run.view (now + 1)).Known fromHeight tx → ∀ input ∈ tx.vin, input.spends outpoint = true →
      (∃ preimage, Opening sha256 hashLockHex input.txinwitness preimage) →
      Reads run (findClaimPreimage sha256 run now ref hashLockHex fromHeight)
        (Found sha256 hashLockHex input.txinwitness) := by
    intro tx hNow hNext input hInput hSpends hOpens
    unfold findClaimPreimage parseOutpointRef
    rw [hRef, require, if_pos hLock]
    refine (findMempoolSpend_spec hSteady hRef hNow hNext hInput hSpends).bind ?_
    rintro spend (⟨hPending, rfl⟩ | ⟨hPending, rfl⟩)
    · obtain ⟨preimage, hOpened, hOpening⟩ := preimageOpening_spec hOpens
      rw [Option.bind_some, hOpened]
      exact Reads.ok ⟨preimage, rfl, hOpening⟩
    · -- it is mined already, and the tip that is read next is not below its block
      obtain ⟨height, block, hFrom, hBlock, hTx⟩ := hNow.resolve_left hPending
      exact scanMinedSpend_complete hSteady hInput hSpends hOpens hTx
        (hSteady.getElem? (Nat.le_add_right now 2) hBlock) hFrom
  refine ⟨hFinds, fun hNone tx hNow hNext input hInput hSpends hOpens => ?_⟩
  rcases hFinds tx hNow hNext input hInput hSpends hOpens with ⟨result, hOk, preimage, rfl, -⟩ |
    ⟨t, message, -, hError⟩
  · cases hNone.symm.trans hOk
  · cases hNone.symm.trans hError

namespace ClaimSearchSample

open NodeSample

def secret : List UInt8 := List.replicate 32 0

/-- What the secret hashes to. -/
def hash : List UInt8 := (List.range 32).map fun i => UInt8.ofNat (
  0x66687aadf862bd776c8fc18b8e9f8e20089714856ee233b3902a591d0d5f2925 / 256 ^ (31 - i))

def sha256 (_ : List UInt8) : List UInt8 := hash

def claimTxid : String := repeated 'c'

/-- The claim is pending when the mempool is read, and mined at the next read. -/
def run : NodeRun := arriving claimTxid [bytesToHex secret] 0 1

/-- The sample's hash lock has its shape. -/
theorem shape : HASH_LOCK_SHAPE ("0x" ++ bytesToHex hash) = true := by
  unfold HASH_LOCK_SHAPE NEAR_HASH_LOCK_SHAPE
  decide +kernel

/-- The sample's claim is known throughout. -/
theorem known (t : Nat) :
    (run.view t).Known 0 (spendTx claimTxid [bytesToHex secret]) := by
  rcases Nat.eq_zero_or_pos t with rfl | hMined
  · exact .inl (List.mem_singleton.mpr rfl)
  · have hView : run.view t =
        ⟨[], [first, ⟨"1", [spendTx claimTxid [bytesToHex secret]]⟩], []⟩ := by
      unfold run arriving
      dsimp only
      rw [if_neg (by omega), if_neg (by omega)]
    rw [hView]
    exact .inr ⟨1, _, Nat.zero_le 1, rfl, List.mem_singleton.mpr rfl⟩

/-- The sample's preimage opens the lock. -/
theorem opening : Opening sha256 ("0x" ++ bytesToHex hash) [bytesToHex secret]
    ("0x" ++ bytesToHex secret) := by
  have hDecoded : hexToBytes (bytesToHex secret) = some secret := by
    unfold hexToBytes bytesToHex
    rw [String.toList_ofList, Hex.decode_encode]
  exact ⟨bytesToHex secret, List.mem_singleton.mpr rfl, secret, hDecoded, List.length_replicate,
    hexToBytes_sliceFrom hash, rfl⟩

end ClaimSearchSample

open NodeSample ClaimSearchSample in
theorem findClaimPreimage_complete_sample :
    ∃ preimage, findClaimPreimage sha256 run 0 ref ("0x" ++ bytesToHex hash) 0 =
        .ok (some preimage) ∧
      Opening sha256 ("0x" ++ bytesToHex hash) [bytesToHex secret] preimage := by
  have hTxid : claimTxid ≠ fundingTxid := repeated_ne (by decide)
  rcases (findClaimPreimage_complete (steady hTxid _ 0 1) sha256 parseRef_ref shape 0 0).1
    (spendTx claimTxid [bytesToHex secret]) (known 0) (known 1)
    ⟨some fundingTxid, some 0, [bytesToHex secret]⟩ (List.mem_singleton.mpr rfl)
    (by simp [NodeInput.spends, outpoint]) ⟨_, opening⟩ with
    ⟨result, hOk, preimage, rfl, hOpening⟩ | ⟨t, message, hFailure, -⟩
  · exact ⟨preimage, hOk, hOpening⟩
  · cases hFailure

end SwapDesk.Rails.BtcNode
