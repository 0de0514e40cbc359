import SwapDesk.Rails.BtcEvidence

/-!
# SwapDesk — a Bitcoin node between two reads

What a node knows at a moment, what it answers to each of the reads that `src/rails/btc-htlc.ts`
makes of it, and a run of such moments. A call makes its reads one after another, each at a moment
of its own, and anything may happen in between that leaves the blocks in place.
-/

namespace SwapDesk.Rails.BtcNode

open Check Desk
open CharClass (isHexLower)

/-! ## What a node knows -/

/-- An input, which names no output in a coinbase transaction. -/
structure NodeInput where
  txid : Option String
  vout : Option Nat
  txinwitness : List String
deriving DecidableEq, Repr

def NodeInput.spends (input : NodeInput) (outpoint : Outpoint) : Bool :=
  input.txid = some outpoint.txid && input.vout = some outpoint.vout

structure NodeTx where
  txid : String
  vin : List NodeInput
  outputs : Nat
deriving DecidableEq, Repr

def NodeTx.spends (tx : NodeTx) (outpoint : Outpoint) : Bool := tx.vin.any (·.spends outpoint)

structure NodeBlock where
  hash : String
  tx : List NodeTx
deriving DecidableEq, Repr

/-- The mempool, the best chain by height, and the blocks that are not on it. -/
structure NodeView where
  mempool : List NodeTx
  blocks : List NodeBlock
  stale : List NodeBlock
deriving DecidableEq, Repr

namespace NodeView

variable (view : NodeView)

def chain : List NodeTx := view.blocks.flatMap NodeBlock.tx

def InMempool (txid : String) : Prop := ∃ tx ∈ view.mempool, tx.txid = txid

def InChain (txid : String) : Prop := ∃ tx ∈ view.chain, tx.txid = txid

instance (txid : String) : Decidable (view.InMempool txid) :=
  inferInstanceAs (Decidable (∃ tx ∈ view.mempool, tx.txid = txid))

instance (txid : String) : Decidable (view.InChain txid) :=
  inferInstanceAs (Decidable (∃ tx ∈ view.chain, tx.txid = txid))

/-- A transaction in the mempool or in the chain spends the output. -/
def SpentBy (tx : NodeTx) (outpoint : Outpoint) : Prop :=
  (tx ∈ view.mempool ∨ tx ∈ view.chain) ∧ tx.spends outpoint = true

/-- No output is spent twice, an id is that of one transaction, and what is mined is not pending. -/
structure Consistent : Prop where
  apart : ∀ tx ∈ view.mempool, tx ∉ view.chain
  ids : ∀ tx tx', (tx ∈ view.mempool ∨ tx ∈ view.chain) → (tx' ∈ view.mempool ∨ tx' ∈ view.chain) →
    tx.txid = tx'.txid → tx = tx'
  once : ∀ tx tx' outpoint, view.SpentBy tx outpoint → view.SpentBy tx' outpoint → tx = tx'
  inputs : ∀ tx, (tx ∈ view.mempool ∨ tx ∈ view.chain) → ∀ input ∈ tx.vin, ∀ input' ∈ tx.vin,
    ∀ outpoint, input.spends outpoint = true → input'.spends outpoint = true → input = input'
  hashes : (view.blocks.map NodeBlock.hash).Nodup

end NodeView

/-! ## What it answers -/

inductive RpcFailure where
  /-- Core's code -5. -/
  | notFound
  | error (message : String)
deriving DecidableEq, Repr

/-- The verbose answer to `getrawtransaction`. A transaction that is in no block of the best chain
has no confirmations, or none to show. -/
structure RawTransaction where
  blockhash : Option String
  confirmations : Option Nat
  vin : List NodeInput
deriving DecidableEq, Repr

/-- The first block that holds the transaction, with its place, and the transaction. -/
def findMined (txid : String) (blocks : List NodeBlock) : Option (Nat × NodeBlock × NodeTx) :=
  blocks.zipIdx.findSome? fun (block, height) =>
    (block.tx.find? (·.txid = txid)).map fun tx => (height, block, tx)

/-- With an index of all transactions it answers for one in a block too, on whatever branch. -/
def NodeView.getrawtransaction (view : NodeView) (txid : String) :
    Except RpcFailure RawTransaction :=
  match view.mempool.find? (·.txid = txid) with
  | some tx => .ok ⟨none, none, tx.vin⟩
  | none =>
    match findMined txid view.blocks with
    | some (height, block, tx) =>
      .ok ⟨some block.hash, some (view.blocks.length - height), tx.vin⟩
    | none =>
      match findMined txid view.stale with
      | some (_, block, tx) => .ok ⟨some block.hash, some 0, tx.vin⟩
      | none => .error .notFound

def NodeView.getmempoolentry (view : NodeView) (txid : String) : Except RpcFailure Unit :=
  if view.InMempool txid then .ok () else .error .notFound

/-- `gettxout` with the mempool: whether there is an output to describe. -/
def NodeView.gettxout (view : NodeView) (outpoint : Outpoint) : Bool :=
  ((view.mempool ++ view.chain).any fun tx =>
    tx.txid = outpoint.txid && outpoint.vout < tx.outputs) &&
  !(view.mempool ++ view.chain).any (·.spends outpoint)

/-- The id of the mempool's transaction that spends the output. -/
def NodeView.gettxspendingprevout (view : NodeView) (outpoint : Outpoint) : Option String :=
  (view.mempool.find? (·.spends outpoint)).map NodeTx.txid

/-- `getblockchaininfo().blocks`, the height of the tip. -/
def NodeView.tip (view : NodeView) : Nat := view.blocks.length - 1

def NodeView.getblockhash (view : NodeView) (height : Nat) : Except RpcFailure String :=
  match view.blocks[height]? with
  | some block => .ok block.hash
  | none => .error (.error "Block height out of range")

def NodeView.getblock (view : NodeView) (hash : String) : Except RpcFailure NodeBlock :=
  match view.blocks.find? (·.hash = hash) with
  | some block => .ok block
  | none => .error .notFound

/-! ## Runs -/

/-- The node at each moment, and the requests that fail for no reason of the chain. -/
structure NodeRun where
  view : Nat → NodeView
  failure : Nat → Option String

/-- One read. -/
def NodeRun.ask {α : Type} (run : NodeRun) (now : Nat)
    (read : NodeView → Except RpcFailure α) : Except RpcFailure α :=
  match run.failure now with
  | some message => .error (.error message)
  | none => read (run.view now)

/-- The node is always consistent, and blocks are only added. -/
structure NodeRun.Steady (run : NodeRun) : Prop where
  consistent : ∀ now, (run.view now).Consistent
  extends_ : ∀ now, ∃ more, (run.view (now + 1)).blocks = (run.view now).blocks ++ more

/-- The two reads of `assertPinnedChain`, which pass on the pinned chain. -/
def NodeRun.assertPinnedChain (run : NodeRun) (now : Nat) : Except RpcFailure Unit :=
  run.ask now fun _ => .ok ()

def parseOutpointRef (ref : String) : Except RpcFailure Outpoint :=
  need (parseRef ref)
    (.error ("btc-htlc: ref must look like \"<64-hex txid>:<vout>\", got \"" ++ ref ++ "\""))

/-! ## What an answer says -/

section

variable {view : NodeView} {txid : String} {outpoint : Outpoint}

/-- The chain is the transactions of its blocks. -/
theorem mem_chain {tx : NodeTx} : tx ∈ view.chain ↔ ∃ block ∈ view.blocks, tx ∈ block.tx :=
  List.mem_flatMap

/-- A transaction is found in a block exactly when some block holds it. -/
theorem findMined_eq_none {blocks : List NodeBlock} :
    findMined txid blocks = none ↔ ∀ block ∈ blocks, ∀ tx ∈ block.tx, tx.txid ≠ txid := by
  unfold findMined
  rw [List.findSome?_eq_none_iff]
  simp only [Prod.forall, Option.map_eq_none_iff, List.find?_eq_none, decide_eq_true_eq]
  constructor
  · intro h block hBlock tx hTx
    obtain ⟨height, hHeight, hAt⟩ := List.getElem_of_mem hBlock
    exact h block height (List.mem_zipIdx_iff_getElem?.mpr (by simp [hHeight, hAt])) tx hTx
  · intro h block height hMem tx hTx
    exact h block (List.fst_mem_of_mem_zipIdx hMem) tx hTx

/-- A mined transaction is found in its block. -/
theorem findMined_eq_some {blocks : List NodeBlock} {height : Nat} {block : NodeBlock}
    {tx : NodeTx} (h : findMined txid blocks = some (height, block, tx)) :
    height < blocks.length ∧ block ∈ blocks ∧ tx ∈ block.tx ∧ tx.txid = txid := by
  unfold findMined at h
  obtain ⟨⟨found, index⟩, hMem, h⟩ := List.exists_of_findSome?_eq_some h
  obtain ⟨candidate, hFind, h⟩ := Option.map_eq_some_iff.mp h
  cases h
  obtain ⟨hTxid, -⟩ := List.find?_eq_some_iff_append.mp hFind
  refine ⟨?_, List.fst_mem_of_mem_zipIdx hMem, List.mem_of_find?_eq_some hFind,
    of_decide_eq_true hTxid⟩
  have hAt := List.mem_zipIdx_iff_getElem?.mp hMem
  exact (List.getElem?_eq_some_iff.mp hAt).1

/-- A transaction is in the chain when it is found there. -/
theorem inChain_iff : view.InChain txid ↔ findMined txid view.blocks ≠ none := by
  rw [ne_eq, findMined_eq_none]
  unfold NodeView.InChain
  simp only [mem_chain]
  push Not
  constructor
  · rintro ⟨tx, ⟨block, hBlock, hTx⟩, hId⟩
    exact ⟨block, hBlock, tx, hTx, hId⟩
  · rintro ⟨block, hBlock, tx, hTx, hId⟩
    exact ⟨tx, ⟨block, hBlock, hTx⟩, hId⟩

/-- A transaction is in the mempool when it is found there. -/
theorem inMempool_iff : view.InMempool txid ↔ view.mempool.find? (·.txid = txid) ≠ none := by
  rw [ne_eq, List.find?_eq_none]
  unfold NodeView.InMempool
  push Not
  simp only [decide_eq_true_eq]

/-- A transaction that is not found is nowhere. -/
theorem getrawtransaction_notFound (h : view.getrawtransaction txid = .error .notFound) :
    ¬ view.InMempool txid ∧ ¬ view.InChain txid := by
  rw [inMempool_iff, inChain_iff, not_not, not_not]
  unfold NodeView.getrawtransaction at h
  split at h
  · cases h
  · rename_i hMempool
    refine ⟨hMempool, ?_⟩
    split at h
    · cases h
    · rename_i hChain
      exact hChain

/-- A mined transaction has a confirmation. -/
theorem confirmed_of_inChain (hConsistent : view.Consistent) (hChain : view.InChain txid)
    {answer : RawTransaction} (h : view.getrawtransaction txid = .ok answer) :
    ∃ n, answer.confirmations = some n ∧ 1 ≤ n := by
  have hMempool : view.mempool.find? (·.txid = txid) = none := by
    by_contra hFound
    obtain ⟨tx, hTx, hId⟩ := inMempool_iff.mpr hFound
    obtain ⟨mined, hMined, hMinedId⟩ := hChain
    have hSame := hConsistent.ids tx mined (.inl hTx) (.inr hMined) (hId.trans hMinedId.symm)
    exact hConsistent.apart tx hTx (hSame ▸ hMined)
  unfold NodeView.getrawtransaction at h
  rw [hMempool] at h
  dsimp only at h
  split at h
  · rename_i height block tx hFound
    cases Except.ok.inj h
    have hHeight := (findMined_eq_some hFound).1
    exact ⟨_, rfl, by omega⟩
  · rename_i hNone
    exact absurd hNone (inChain_iff.mp hChain)

/-- An output that was made and is not to be had is spent. -/
theorem spentBy_of_gettxout (h : view.gettxout outpoint = false)
    (hMade : ∃ tx ∈ view.chain, tx.txid = outpoint.txid ∧ outpoint.vout < tx.outputs) :
    ∃ tx, view.SpentBy tx outpoint := by
  obtain ⟨made, hMem, hId, hVout⟩ := hMade
  have hAny : ((view.mempool ++ view.chain).any fun tx =>
      tx.txid = outpoint.txid && outpoint.vout < tx.outputs) = true :=
    List.any_eq_true.mpr ⟨made, List.mem_append_right _ hMem, by simp [hId, hVout]⟩
  unfold NodeView.gettxout at h
  rw [hAny, Bool.true_and, Bool.not_eq_false', List.any_eq_true] at h
  obtain ⟨tx, hTx, hSpends⟩ := h
  exact ⟨tx, List.mem_append.mp hTx, hSpends⟩

end

/-! ## What stays -/

section

variable {run : NodeRun} {txid : String}

/-- What an answered read says of the moment it was made. -/
theorem ask_eq_ok {α : Type} {now : Nat} {read : NodeView → Except RpcFailure α} {a : α}
    (h : run.ask now read = .ok a) : read (run.view now) = .ok a := by
  unfold NodeRun.ask at h
  split at h
  · cases h
  · exact h

/-- A request is not found where its read is not. -/
theorem ask_notFound {α : Type} {now : Nat} {read : NodeView → Except RpcFailure α}
    (h : run.ask now read = .error .notFound) : read (run.view now) = .error .notFound := by
  unfold NodeRun.ask at h
  split at h
  · cases h
  · exact h

/-- Blocks stay where they are. -/
theorem NodeRun.Steady.blocks (hSteady : run.Steady) {a b : Nat} (h : a ≤ b) :
    ∃ more, (run.view b).blocks = (run.view a).blocks ++ more := by
  induction b, h using Nat.le_induction with
  | base => exact ⟨[], (List.append_nil _).symm⟩
  | succ b _ ih =>
    obtain ⟨more, hMore⟩ := ih
    obtain ⟨next, hNext⟩ := hSteady.extends_ b
    exact ⟨more ++ next, by rw [hNext, hMore, List.append_assoc]⟩

/-- A steady node keeps the transactions of its chain. -/
theorem NodeRun.Steady.mem_chain (hSteady : run.Steady) {a b : Nat} (h : a ≤ b) {tx : NodeTx}
    (hTx : tx ∈ (run.view a).chain) : tx ∈ (run.view b).chain := by
  obtain ⟨more, hMore⟩ := hSteady.blocks h
  obtain ⟨block, hBlock, hIn⟩ := BtcNode.mem_chain.mp hTx
  exact BtcNode.mem_chain.mpr ⟨block, hMore ▸ List.mem_append_left _ hBlock, hIn⟩

/-- A steady node keeps what is in its chain. -/
theorem NodeRun.Steady.inChain (hSteady : run.Steady) {a b : Nat} (h : a ≤ b)
    (hTx : (run.view a).InChain txid) : (run.view b).InChain txid := by
  obtain ⟨tx, hMem, hId⟩ := hTx
  exact ⟨tx, hSteady.mem_chain h hMem, hId⟩

end

/-! ## A node that one spend reaches -/

namespace NodeSample

/-- The id that repeats this digit. -/
@[irreducible] def repeated (digit : Char) : String := String.ofList (List.replicate 64 digit)

/-- Texts of different digits differ. -/
theorem repeated_ne {digit other : Char} (h : digit ≠ other) : repeated digit ≠ repeated other := by
  unfold repeated
  exact fun hSame =>
    h (List.replicate_right_injective (Nat.succ_ne_zero 63) (String.ofList_injective hSame))

def fundingTxid : String := repeated 'a'

def ref : String := fundingTxid ++ ":0"

def outpoint : Outpoint := ⟨fundingTxid, 0⟩

def fundingTx : NodeTx := ⟨fundingTxid, [], 1⟩

def spendTx (txid : String) (witness : List String) : NodeTx :=
  ⟨txid, [⟨some fundingTxid, some 0, witness⟩], 1⟩

def first : NodeBlock := ⟨"0", [fundingTx]⟩

/-- This spend enters the mempool at one moment and a block at another. -/
def arriving (txid : String) (witness : List String) (pending mined : Nat) : NodeRun where
  view t :=
    if t < pending then ⟨[], [first], []⟩
    else if t < mined then ⟨[spendTx txid witness], [first], []⟩
    else ⟨[], [first, ⟨"1", [spendTx txid witness]⟩], []⟩
  failure _ := none

/-- It is one of three views: the spend is nowhere, pending, or mined. -/
theorem view_cases (txid : String) (witness : List String) (pending mined t : Nat) :
    (arriving txid witness pending mined).view t = ⟨[], [first], []⟩ ∨
    (arriving txid witness pending mined).view t = ⟨[spendTx txid witness], [first], []⟩ ∨
    (arriving txid witness pending mined).view t =
      ⟨[], [first, ⟨"1", [spendTx txid witness]⟩], []⟩ := by
  unfold arriving
  dsimp only
  split
  · exact .inl rfl
  · split
    · exact .inr (.inl rfl)
    · exact .inr (.inr rfl)

/-- A view that holds the funding and the one spend only is consistent. -/
theorem consistent {txid : String} (witness : List String) (hTxid : txid ≠ fundingTxid)
    {view : NodeView}
    (hHeld : ∀ tx, (tx ∈ view.mempool ∨ tx ∈ view.chain) →
      tx = fundingTx ∨ tx = spendTx txid witness)
    (hApart : ∀ tx ∈ view.mempool, tx ∉ view.chain)
    (hHashes : (view.blocks.map NodeBlock.hash).Nodup) : view.Consistent where
  apart := hApart
  ids tx tx' hTx hTx' hSame := by
    rcases hHeld tx hTx with rfl | rfl <;> rcases hHeld tx' hTx' with rfl | rfl
    · rfl
    · exact absurd hSame.symm hTxid
    · exact absurd hSame hTxid
    · rfl
  once tx tx' spent hTx hTx' := by
    have hSpend : ∀ tx, view.SpentBy tx spent → tx = spendTx txid witness := fun tx h =>
      (hHeld tx h.1).resolve_left fun hFunding => by
        have hSpends := h.2
        rw [hFunding] at hSpends
        cases hSpends
    rw [hSpend tx hTx, hSpend tx' hTx']
  inputs tx hTx input hInput input' hInput' spent _ _ := by
    rcases hHeld tx hTx with rfl | rfl
    · cases hInput
    · rw [List.mem_singleton.mp hInput, List.mem_singleton.mp hInput']
  hashes := hHashes

/-- The sample's node is steady. -/
theorem steady {txid : String} (hTxid : txid ≠ fundingTxid) (witness : List String)
    (pending mined : Nat) : (arriving txid witness pending mined).Steady where
  consistent t := by
    have hOther : spendTx txid witness ≠ fundingTx := fun h => hTxid (congrArg NodeTx.txid h)
    -- nowhere, in the pool, or in a block
    rcases view_cases txid witness pending mined t with hView | hView | hView <;> rw [hView]
    · exact consistent witness hTxid (by simp [NodeView.chain, first]) (by simp) (by simp)
    · exact consistent witness hTxid (by simp [NodeView.chain, first, or_comm])
        (by simp [NodeView.chain, first, hOther]) (by simp)
    · exact consistent witness hTxid (by simp [NodeView.chain, first]) (by simp)
        (by simp [first])
  extends_ t := by
    unfold arriving
    dsimp only
    -- the block comes once, and stays
    split
    · rw [if_pos (by omega)]
      exact ⟨[], rfl⟩
    · by_cases hPending : t < pending
      · rw [if_pos hPending]
        split
        · exact ⟨[], rfl⟩
        · exact ⟨[⟨"1", [spendTx txid witness]⟩], rfl⟩
      · rw [if_neg hPending]
        split
        · rw [if_pos (by omega)]
          exact ⟨[], rfl⟩
        · split
          · exact ⟨[⟨"1", [spendTx txid witness]⟩], rfl⟩
          · exact ⟨[], rfl⟩

/-- A ref of 64 digits parses. -/
theorem parseRef_ofList {body : List Char} (hLength : body.length = 64)
    (hHex : body.all isHexLower = true) :
    parseRef (String.ofList body ++ ":0") = some ⟨String.ofList body, 0⟩ := by
  have hText : (String.ofList body ++ ":0").toList = body ++ [':', '0'] := by
    rw [String.toList_append, String.toList_ofList]
    rfl
  have hShape : GENESIS_HASH_SHAPE (String.ofList body) = true := by
    simp only [GENESIS_HASH_SHAPE, String.toList_ofList]
    simp [hLength, hHex]
  have hDrop : (body ++ [':', '0']).drop 65 = ['0'] ∧ (body ++ [':', '0'])[64]? = some ':' := by
    rw [List.drop_append, List.getElem?_append_right (by omega), hLength]
    simp [hLength]
  simp only [parseRef, hText, List.take_left' hLength, hShape, hDrop.1, hDrop.2]
  rfl

/-- The sample's ref parses. -/
theorem parseRef_ref : parseRef ref = some outpoint := by
  unfold ref outpoint fundingTxid repeated
  exact parseRef_ofList List.length_replicate (by rw [List.all_replicate]; decide)

end NodeSample

end SwapDesk.Rails.BtcNode
