import SwapDesk.Rails.SolLanding
import SwapDesk.Rails.SolWire

/-!
# SwapDesk — the recovery of a Solana write

`awaitFinalized`, `confirmNeverLanded`, `confirmWrite` and `recoverBySignature` of
`src/rails/sol-htlc.ts` over a node whose chain grows between the reads of one call.

Main result: `recovery_sound`. A write is called lost only when it can never land, and evidence
of it is returned only when it landed and the escrow shows what it did.
-/

namespace SwapDesk.Rails.Sol

open Check Desk

/-! ## What a node knows -/

/-- A finalized block, with the error that each of its transactions ended with. -/
structure SolBlock where
  slot : Nat
  height : Nat
  transactions : List (String × Option String)
deriving DecidableEq, Repr

structure SolSignatureStatus where
  slot : Nat
  err : Option String
  confirmationStatus : Option SolCommitment
deriving DecidableEq, Repr

/-- A node at a moment: the finalized chain, oldest block first, what it keeps of it, and the
accounts as the last block leaves them. -/
structure SolNodeView where
  genesis : String
  chain : List SolBlock
  kept : List SolBlock
  firstAvailableBlock : Nat
  status : String → Option SolSignatureStatus
  account : String → Option WireAccount
  clock : ℚ

namespace SolNodeView

variable (view : SolNodeView)

/-- The transaction stands in this block, and ended so. -/
def Holds (blocks : List SolBlock) (signature : String) (slot : Nat) (err : Option String) : Prop :=
  ∃ block ∈ blocks, block.slot = slot ∧ (signature, err) ∈ block.transactions

def InChain (signature : String) : Prop := ∃ slot err, Holds view.chain signature slot err

def finalizedHeight : Nat := (view.chain.getLast?.map SolBlock.height).getD 0
def finalizedSlot : Nat := (view.chain.getLast?.map SolBlock.slot).getD 0

/-- `getTransaction` at finalized. -/
def getTransaction (signature : String) : Option SolSignatureStatus :=
  view.kept.findSome? fun block =>
    (block.transactions.lookup signature).map fun err => ⟨block.slot, err, some .finalized⟩

/-- What it says is so: what it keeps is of the chain and goes back to the block it names, and a
finalized status is that of a transaction in the chain. -/
structure Truthful : Prop where
  kept_sub : ∀ block ∈ view.kept, block ∈ view.chain
  keeps : ∀ block ∈ view.chain, view.firstAvailableBlock ≤ block.slot → block ∈ view.kept
  status : ∀ signature status, view.status signature = some status →
    status.confirmationStatus = some .finalized →
      Holds view.chain signature status.slot status.err

end SolNodeView

/-- How a read ends that is not answered. -/
inductive SolReadFailure where
  | minContextSlot
  | error (message : String)
deriving DecidableEq, Repr

/-- A node over a run of moments. Blocks are added at the end of the finalized chain, each higher
than the one before, and the ledger loses blocks only at its start. -/
structure SolNodeRun where
  view : Nat → SolNodeView
  fails : Nat → Option String
  truthful : ∀ now, (view now).Truthful
  grows : ∀ now, (view now).chain <+: (view (now + 1)).chain
  climbs : ∀ now, ((view now).chain.map SolBlock.height).Pairwise (· < ·)
  forgets : ∀ now, (view now).firstAvailableBlock ≤ (view (now + 1)).firstAvailableBlock

/-! ## What the rail makes of the answers -/

/-- `SolPreparedRecord`, with the terms of a lock. -/
structure SolWriteRecord extends SolPreparedRecord where
  terms : Option SolHtlcTerms
deriving DecidableEq, Repr

structure SolWriteEvidence where
  ref : String
  signature : String
  slot : Nat
  claimedByAnotherTransaction : Bool
deriving DecidableEq, Repr

inductive SolStop where
  | plain (message : String)
  /-- `SolPendingError` -/
  | pending (signature detail : String)
  /-- `SolNotLandedError` -/
  | notLanded (signature : String)
  /-- `SolLockRefusedError`, `SolClaimFailedError` or `SolRefundFailedError` -/
  | txFailed (kind : SolWriteKind) (signature : String) (err : Option String)
      (detail : Option String)
  /-- The rounds of the model's loops are used up. -/
  | usedUp
deriving DecidableEq, Repr

def plain {α : Type} (x : Except String α) : Except SolStop α := x.mapError .plain

namespace SolNodeRun

variable (run : SolNodeRun)

/-- A read at a moment. -/
def ask {α : Type} (now : Nat) (read : SolNodeView → α) : Except SolStop α :=
  match run.fails now with
  | some message => .error (.plain message)
  | none => .ok (read (run.view now))

/-- `getMultipleAccounts` at finalized. -/
def getMultipleAccounts (now : Nat) (keys : List String) (minContextSlot : Option Nat) :
    Except SolReadFailure (List (Option WireAccount)) :=
  match run.fails now with
  | some message => .error (.error message)
  | none =>
    let view := run.view now
    if ∃ slot ∈ minContextSlot, view.finalizedSlot < slot then .error .minContextSlot
    else .ok (keys.map view.account)

end SolNodeRun

section

variable (run : SolNodeRun) (finalityTimeoutMs : ℚ) (rounds : Nat)

/-- The loop of `readFinalized`, with the number of rounds left. -/
def readFinalizedRounds (deadline : ℚ) (keys : List String) (minContextSlot : Option Nat) :
    Nat → Nat → Except SolStop (List (Option WireAccount))
  | 0, _ => .error .usedUp
  | rounds + 1, now =>
    match run.getMultipleAccounts now keys minContextSlot with
    | .ok accounts => .ok accounts
    | .error (.error message) => .error (.plain message)
    | .error .minContextSlot =>
      if deadline ≤ (run.view (now + 1)).clock then
        .error (.plain "sol-rpc: the node has not reached the minimum context slot")
      else readFinalizedRounds deadline keys minContextSlot rounds (now + 2)

def readFinalized (now : Nat) (keys : List (List UInt8)) (minContextSlot : Option Nat) :
    Except SolStop (List (Option WireAccount)) := do
  let texts ← plain (keys.mapM pubkeyToBase58)
  readFinalizedRounds run ((run.view now).clock + finalityTimeoutMs) texts minContextSlot rounds
    now

/-- The transaction itself, where there is no status of it. -/
def confirmNeverLanded (now : Nat) (signature : String) (signedSlot : Option Nat) :
    Except SolStop (Option SolSignatureStatus) := do
  match ← run.ask now (·.getTransaction signature) with
  | some found => return some found
  | none =>
    match signedSlot with
    | none => return none
    | some signedSlot =>
      let first ← run.ask (now + 1) (·.firstAvailableBlock)
      require (first ≤ signedSlot)
        (.pending signature (s!"the node's ledger starts at slot {first}, after the slot " ++
          s!"{signedSlot} this transaction was signed at: it has no history for that range"))
      return none

def commitmentText : Option SolCommitment → String
  | none => "null"
  | some .processed => "processed"
  | some .confirmed => "confirmed"
  | some .finalized => "finalized"

/-- The loop of `awaitFinalized`, with the number of rounds left. -/
def awaitFinalizedRounds (deadline : ℚ) (signature : String) (lastValidBlockHeight : Nat)
    (signedSlot : Option Nat) : Nat → Nat → Except SolStop SolSignatureStatus
  | 0, _ => .error .usedUp
  | rounds + 1, now => do
    let height ← run.ask now (·.finalizedHeight)
    match ← run.ask (now + 1) (·.status signature) with
    | some status =>
      if status.confirmationStatus = some .finalized then return status
      else
        require ((run.view (now + 2)).clock < deadline)
          (.pending signature ("status " ++ commitmentText status.confirmationStatus))
        awaitFinalizedRounds deadline signature lastValidBlockHeight signedSlot rounds (now + 5)
    | none =>
      if lastValidBlockHeight < height then
        match ← confirmNeverLanded run (now + 2) signature signedSlot with
        | some found => return found
        | none => .error (.notLanded signature)
      else
        require ((run.view (now + 2)).clock < deadline) (.pending signature "no status yet")
        awaitFinalizedRounds deadline signature lastValidBlockHeight signedSlot rounds (now + 5)

def awaitFinalized (now : Nat) (signature : String) (lastValidBlockHeight : Nat)
    (signedSlot : Option Nat) : Except SolStop SolSignatureStatus :=
  awaitFinalizedRounds run ((run.view now).clock + finalityTimeoutMs) signature
    lastValidBlockHeight signedSlot rounds now

namespace SolHtlcRail

variable (rail : SolHtlcRail)

def requireWriteRef (ref : String) : Except SolStop SolRef :=
  need (parseSolRef ref) (.plain "sol-htlc: ref must be 0x<64 hex hash lock>:<payer base58>")

/-- The keys of the escrow and its vault. -/
def escrowKeys (ref : SolRef) : Except String (List UInt8 × List UInt8) := do
  let escrow ← escrowAddress rail.rt rail.config.programId ref.payer ref.hashLock
  let vault ← vaultAddress rail.rt rail.config.programId escrow
  return (escrow, vault)

/-- Whether a stored preimage opens the hash lock. -/
def opensLock (ref : SolRef) (view : SolEscrowView) : Except String Bool :=
  match view.preimage with
  | none => .ok false
  | some preimage => do
    let bytes ← need (hexToBytes (sliceFrom preimage 2)) "hex string expected"
    let hash ← need (hexToBytes (sliceFrom ref.hashLock 2)) "hex string expected"
    return rail.rt.sha256 bytes = hash

/-- The escrow holds these terms, and the vault at least their amount. -/
def holdsTerms (terms : SolHtlcTerms) (view : SolEscrowView) (vaultBalance : Option Nat) : Bool :=
  view.status = .locked && view.payer = rail.signerPublicKey && view.payee = terms.payee &&
    view.mint = rail.config.assets.USDC && view.amount = terms.amount &&
    view.claimByMs = terms.claimByMs && view.refundAfterMs = terms.refundAfterMs &&
    view.hashLock = terms.hashLock &&
    vaultBalance.any fun balance => (terms.amount.toNat?.getD 0) ≤ balance

/-- The escrow under the ref once the transaction failed: claimed by another one. -/
def claimSettledByAnotherTransaction (now : Nat) (record : SolWriteRecord)
    (status : SolSignatureStatus) (claimPreimage : Option String) :
    Except SolStop (Option SolWriteEvidence) := do
  let parsed ← requireWriteRef record.ref
  let (escrow, _) ← plain (rail.escrowKeys parsed)
  let accounts ← readFinalized run finalityTimeoutMs rounds now [escrow] (some status.slot)
  match ← plain (viewEscrow rail (accounts.head?.bind id) parsed) with
  | none => return none
  | some view =>
    if view.status ≠ .claimed ∨ view.revealed = false ∨ view.preimage = none then return none
    else if ¬ (← plain (rail.opensLock parsed view)) then return none
    else if ∃ preimage ∈ claimPreimage, view.preimage ≠ some preimage then return none
    else return some ⟨record.ref, record.signature, status.slot, true⟩

/-- Any failure of that is no answer. -/
def caught {α : Type} (x : Except SolStop (Option α)) : Except SolStop (Option α) :=
  match x with
  | .error .usedUp => .error .usedUp
  | .error _ => .ok none
  | .ok found => .ok found

def statusName (view : Option SolEscrowView) : String :=
  if view.isNone then "missing" else statusText view

/-- `confirmWrite` for a lock. -/
def confirmLock (record : SolWriteRecord) (evidence : SolWriteEvidence)
    (accounts : List (Option WireAccount)) (escrow : List UInt8) (view : Option SolEscrowView)
    (recovering : Bool) : Except SolStop SolWriteEvidence := do
  let refused (detail : String) : SolStop := .txFailed .lock record.signature none (some detail)
  let terms ← need record.terms (.plain "sol-htlc: internal - a lock record is missing its terms")
  let view ← need view (refused "no escrow exists after the transaction")
  if recovering ∧ view.status ≠ .locked then
    require (view.payer = rail.signerPublicKey ∧ view.hashLock = terms.hashLock)
      (refused "the escrow under this ref is not this payer's lock for this hash lock")
    return evidence
  else
    let mint ← plain (pubkeyFromBase58 rail.config.assets.USDC)
    let vault := tokenAccountProblem (accounts[1]?.bind id) mint escrow
    require (rail.holdsTerms terms view (vault.toOption.map SplTokenAccount.amount) = true)
      (refused "the escrow does not hold the terms that were sent")
    return evidence

/-- `confirmWrite` for a claim. -/
def confirmClaim (record : SolWriteRecord) (evidence : SolWriteEvidence) (ref : SolRef)
    (view : Option SolEscrowView) (claimPreimage : Option String) :
    Except SolStop SolWriteEvidence := do
  let opens ← plain ((view.map (rail.opensLock ref)).getD (.ok false))
  require (∃ v ∈ view, v.status = .claimed ∧ v.revealed = true ∧ opens = true ∧
      ∀ preimage ∈ claimPreimage, v.preimage = some preimage)
    (.txFailed .claim record.signature none
      (some ("the escrow is " ++ statusName view ++ " after a successful transaction")))
  return evidence

def confirmWrite (now : Nat) (record : SolWriteRecord) (status : SolSignatureStatus)
    (claimPreimage : Option String) (recovering : Bool) : Except SolStop SolWriteEvidence := do
  match status.err with
  | some err =>
    let settled : Except SolStop (Option SolWriteEvidence) := if record.kind = .claim then
        caught (rail.claimSettledByAnotherTransaction run finalityTimeoutMs rounds now record status
          claimPreimage)
      else .ok none
    match ← settled with
    | some evidence => return evidence
    | none => .error (.txFailed record.kind record.signature (some err) none)
  | none =>
    let parsed ← requireWriteRef record.ref
    let (escrow, vault) ← plain (rail.escrowKeys parsed)
    let accounts ← readFinalized run finalityTimeoutMs rounds now [escrow, vault] (some status.slot)
    let view ← plain (viewEscrow rail (accounts.head?.bind id) parsed)
    let evidence : SolWriteEvidence := ⟨record.ref, record.signature, status.slot, false⟩
    match record.kind with
    | .lock => rail.confirmLock record evidence accounts escrow view recovering
    | .claim => rail.confirmClaim record evidence parsed view claimPreimage
    | .refund =>
      require (∃ v ∈ view, v.status = .refunded) (.txFailed .refund record.signature none
        (some ("the escrow is " ++ statusName view ++ " after a successful transaction")))
      return evidence

def recoverBySignature (now : Nat) (record : SolWriteRecord) :
    Except SolStop (Option SolWriteEvidence) := do
  require (parseSolRef record.ref).isSome (.plain "sol-htlc: recover needs the record's own ref")
  let genesis ← run.ask now (·.genesis)
  plain (refute (solGenesisProblem rail.config.pin genesis) id)
  let height ← run.ask (now + 1) (·.finalizedHeight)
  match ← run.ask (now + 2) (·.status record.signature) with
  | none =>
    require (record.lastValidBlockHeight < height)
      (.pending record.signature "no status yet and the blockhash has not expired")
    match ← confirmNeverLanded run (now + 3) record.signature record.signedSlot with
    | none => return none
    | some found =>
      let evidence ←
        rail.confirmWrite run finalityTimeoutMs rounds (now + 5) record found none true
      return some evidence
  | some status =>
    require (status.confirmationStatus = some .finalized) (.pending record.signature
      ("status " ++ commitmentText status.confirmationStatus ++ ", not finalized yet"))
    return some (← rail.confirmWrite run finalityTimeoutMs rounds (now + 3) record status none true)

end SolHtlcRail

end

/-! ## What is true of a write -/

/-- What was recorded of a transaction is so: it was signed no earlier than the slot says, and its
blockhash lives no longer than the height says. -/
structure Recorded (run : SolNodeRun) (record : SolPreparedRecord) : Prop where
  signedSlot : ∃ slot, record.signedSlot = some slot ∧ ∀ now, ∀ block ∈ (run.view now).chain,
    ∀ err, (record.signature, err) ∈ block.transactions → slot ≤ block.slot
  lifetime : ∀ now, ∀ block ∈ (run.view now).chain,
    ∀ err, (record.signature, err) ∈ block.transactions →
      block.height ≤ record.lastValidBlockHeight

/-- The blockhash has expired at the finalized height, and the transaction is in the finalized
chain at no moment of the run. -/
structure NeverLands (run : SolNodeRun) (record : SolPreparedRecord) : Prop where
  expired : ∃ now, record.lastValidBlockHeight < (run.view now).finalizedHeight
  absent : ∀ now, ¬ (run.view now).InChain record.signature

/-- The finalized escrow of the ref, at some moment. -/
def EscrowIs (rail : SolHtlcRail) (run : SolNodeRun) (ref : String) (parts : SolRef)
    (view : SolEscrowView) : Prop :=
  parseSolRef ref = some parts ∧ ∃ now escrow vault text,
    rail.escrowKeys parts = .ok (escrow, vault) ∧ pubkeyToBase58 escrow = .ok text ∧
      viewEscrow rail ((run.view now).account text) parts = .ok (some view)

/-- The escrow shows that this kind of write happened. -/
def ShowsWrite (rail : SolHtlcRail) (record : SolWriteRecord) (parts : SolRef)
    (view : SolEscrowView) : Prop :=
  match record.kind with
  | .lock => ∃ terms ∈ record.terms,
    view.payer = rail.signerPublicKey ∧ view.hashLock = terms.hashLock ∧
      (view.status ≠ .locked ∨ view.payee = terms.payee ∧ view.mint = rail.config.assets.USDC ∧
        view.amount = terms.amount ∧ view.claimByMs = terms.claimByMs ∧
          view.refundAfterMs = terms.refundAfterMs)
  | .claim => view.status = .claimed ∧ rail.opensLock parts view = .ok true
  | .refund => view.status = .refunded

/-- What evidence of a write says. -/
def IsSound (rail : SolHtlcRail) (run : SolNodeRun) (record : SolWriteRecord)
    (evidence : SolWriteEvidence) : Prop :=
  ∃ parts view, EscrowIs rail run record.ref parts view ∧
    if evidence.claimedByAnotherTransaction then
      view.status = .claimed ∧ rail.opensLock parts view = .ok true
    else
      (∃ now, SolNodeView.Holds (run.view now).chain record.signature evidence.slot none) ∧
        ShowsWrite rail record parts view

section

variable {rail : SolHtlcRail} {run : SolNodeRun} {finalityTimeoutMs : ℚ} {rounds : Nat}
  {record : SolWriteRecord}

/-! ## The chain over the run -/

/-- The chain of an earlier view begins that of a later one. -/
theorem SolNodeRun.chain_prefix {earlier later : Nat} (h : earlier ≤ later) :
    (run.view earlier).chain <+: (run.view later).chain := by
  induction later, h using Nat.le_induction with
  | base => exact List.prefix_rfl
  | succ later _ ih => exact ih.trans (run.grows later)

/-- The node only forgets from the front. -/
theorem SolNodeRun.firstAvailable_le {earlier later : Nat} (h : earlier ≤ later) :
    (run.view earlier).firstAvailableBlock ≤ (run.view later).firstAvailableBlock := by
  induction later, h using Nat.le_induction with
  | base => exact le_rfl
  | succ later _ ih => exact ih.trans (run.forgets later)

/-- A block that is lower than the finalized height at a moment is in the chain by then. -/
theorem SolNodeRun.mem_of_height_lt {now moment : Nat} {block : SolBlock}
    (hBlock : block ∈ (run.view moment).chain)
    (hHeight : block.height < (run.view now).finalizedHeight) :
    block ∈ (run.view now).chain := by
  rcases Nat.le_total moment now with hLe | hLe
  · exact (run.chain_prefix hLe).subset hBlock
  · obtain ⟨newer, hNewer⟩ := run.chain_prefix hLe
    have hClimbs := run.climbs moment
    rw [← hNewer] at hBlock hClimbs
    rcases List.mem_append.mp hBlock with hBlock | hBlock
    · exact hBlock
    · unfold SolNodeView.finalizedHeight at hHeight
      cases hLast : (run.view now).chain.getLast? with
      | none =>
        rw [hLast] at hHeight
        exact absurd hHeight (Nat.not_lt_zero _)
      | some last =>
        rw [hLast] at hHeight
        rw [List.map_append, List.pairwise_append] at hClimbs
        -- a block of the newer part is higher than the last one of the older
        have hLower := hClimbs.2.2 _ (List.mem_map_of_mem (List.mem_of_getLast? hLast)) _
          (List.mem_map_of_mem hBlock)
        exact absurd hHeight (Nat.lt_asymm hLower)

/-- A signature that is listed is found. -/
theorem lookup_isSome_of_mem {transactions : List (String × Option String)} {signature : String}
    {err : Option String} (h : (signature, err) ∈ transactions) :
    (transactions.lookup signature).isSome = true := by
  induction transactions with
  | nil => cases h
  | cons entry transactions ih =>
    rw [List.lookup_cons]
    cases hEq : signature == entry.1 with
    | true => rfl
    | false =>
      rcases List.mem_cons.mp h with rfl | h
      · rw [beq_self_eq_true] at hEq
        cases hEq
      · exact ih h

/-- A transaction that the node has no body of is in no block that it keeps. -/
theorem not_mem_of_getTransaction {now : Nat} {signature : String} {block : SolBlock}
    (h : (run.view now).getTransaction signature = none) (hBlock : block ∈ (run.view now).kept)
    (err : Option String) : (signature, err) ∉ block.transactions := by
  intro hMem
  have hNone := Option.map_eq_none_iff.mp (List.findSome?_eq_none_iff.mp h block hBlock)
  have hSome := lookup_isSome_of_mem hMem
  rw [hNone] at hSome
  cases hSome

/-- A transaction that is served is in the chain. -/
theorem holds_of_getTransaction {now : Nat} {signature : String} {status : SolSignatureStatus}
    (h : (run.view now).getTransaction signature = some status) :
    SolNodeView.Holds (run.view now).chain signature status.slot status.err := by
  obtain ⟨block, hBlock, hFound⟩ := List.exists_of_findSome?_eq_some h
  obtain ⟨err, hLookup, rfl⟩ := Option.map_eq_some_iff.mp hFound
  obtain ⟨before, after, hSplit, -⟩ := List.lookup_eq_some_iff.mp hLookup
  refine ⟨block, (run.truthful now).kept_sub block hBlock, rfl, ?_⟩
  rw [hSplit]
  exact List.mem_append_right _ List.mem_cons_self

/-! ## Never landed -/

/-- An answer is read off the view of its moment. -/
theorem ask_eq_ok {α : Type} {now : Nat} {read : SolNodeView → α} {a : α}
    (h : run.ask now read = .ok a) : a = read (run.view now) := by
  unfold SolNodeRun.ask at h
  split at h
  · cases h
  · exact (Except.ok.inj h).symm

/-- No request fails as not landed. -/
theorem ask_ne_notLanded {α : Type} {now : Nat} {read : SolNodeView → α} {signature : String} :
    run.ask now read ≠ .error (.notLanded signature) := by
  unfold SolNodeRun.ask
  split <;> exact nofun

/-- A sequence fails exactly when its first part does, or the rest with what that returned. -/
theorem bind_eq_error {α β : Type} {x : Except SolStop α} {f : α → Except SolStop β}
    {stop : SolStop} :
    (x >>= f) = .error stop ↔ x = .error stop ∨ ∃ a, x = .ok a ∧ f a = .error stop := by
  cases x <;> simp [bind, Except.bind]

/-- A requirement fails with its own stop only. -/
theorem require_ne_error {c : Prop} [Decidable c] {stop stop' : SolStop} (h : stop ≠ stop') :
    require c stop ≠ .error stop' := by
  unfold require
  split
  · exact nofun
  · exact fun hEq => h (Except.error.inj hEq)

/-- Confirming does not fail as not landed. -/
theorem confirmNeverLanded_ne_notLanded {now : Nat} {signature signature' : String}
    {signedSlot : Option Nat} :
    confirmNeverLanded run now signature signedSlot ≠ .error (.notLanded signature') := by
  intro h
  unfold confirmNeverLanded at h
  rcases bind_eq_error.mp h with h | ⟨found, -, h⟩
  · exact ask_ne_notLanded h
  · cases found with
    | some found => cases h
    | none =>
      cases signedSlot with
      | none => cases h
      | some slot =>
        rcases bind_eq_error.mp h with h | ⟨first, -, h⟩
        · exact ask_ne_notLanded h
        · rcases bind_eq_error.mp h with h | ⟨_, -, h⟩
          · exact require_ne_error (fun hEq => by cases hEq) h
          · cases h

/-- Where the body is absent once the blockhash expired, the transaction never lands. -/
theorem neverLands_of_confirm {now moment : Nat}
    (hRecorded : Recorded run record.toSolPreparedRecord) (hBefore : now ≤ moment)
    (hExpired : record.lastValidBlockHeight < (run.view now).finalizedHeight)
    (h : confirmNeverLanded run moment record.signature record.signedSlot = .ok none) :
    NeverLands run record.toSolPreparedRecord := by
  obtain ⟨slot, hSlot, hFrom⟩ := hRecorded.signedSlot
  unfold confirmNeverLanded at h
  obtain ⟨found, hFound, h⟩ := bind_eq_ok.mp h
  obtain rfl := ask_eq_ok hFound
  cases hBody : (run.view moment).getTransaction record.signature with
  | some status =>
    rw [hBody] at h
    cases h
  | none =>
    rw [hBody, hSlot] at h
    obtain ⟨first, hFirst, h⟩ := bind_eq_ok.mp h
    obtain rfl := ask_eq_ok hFirst
    obtain ⟨hKept, -⟩ := require_bind_eq_ok.mp h
    refine ⟨⟨now, hExpired⟩, fun other hIn => ?_⟩
    obtain ⟨_, err, block, hBlock, -, hMem⟩ := hIn
    -- a block with the transaction is low enough to be in the chain already
    have hLow := hRecorded.lifetime other block hBlock err hMem
    have hThen := run.mem_of_height_lt hBlock (hLow.trans_lt hExpired)
    have hNow := (run.chain_prefix hBefore).subset hThen
    -- and new enough for the node to keep it
    have hAvailable : (run.view moment).firstAvailableBlock ≤ block.slot :=
      ((run.firstAvailable_le (Nat.le_succ moment)).trans hKept).trans
        (hFrom other block hBlock err hMem)
    exact not_mem_of_getTransaction hBody ((run.truthful moment).keeps block hNow hAvailable) err
      hMem

/-- A status that is confirmed is in the chain. -/
theorem holds_of_confirm {moment : Nat} {signature : String} {signedSlot : Option Nat}
    {status : SolSignatureStatus}
    (h : confirmNeverLanded run moment signature signedSlot = .ok (some status)) :
    SolNodeView.Holds (run.view moment).chain signature status.slot status.err := by
  unfold confirmNeverLanded at h
  obtain ⟨found, hFound, h⟩ := bind_eq_ok.mp h
  obtain rfl := ask_eq_ok hFound
  cases hBody : (run.view moment).getTransaction signature with
  | some found =>
    rw [hBody] at h
    obtain rfl := Option.some.inj (Except.ok.inj h)
    exact holds_of_getTransaction hBody
  | none =>
    rw [hBody] at h
    cases signedSlot with
    | none => cases h
    | some slot =>
      obtain ⟨first, -, h⟩ := bind_eq_ok.mp h
      obtain ⟨-, h⟩ := require_bind_eq_ok.mp h
      cases h

/-- The wait calls a transaction lost only when it never lands. By induction on the rounds: what
a round has read of the height is older than what it reads of the transaction. -/
theorem neverLands_of_awaitFinalizedRounds
    (hRecorded : Recorded run record.toSolPreparedRecord) {deadline : ℚ} {signature : String}
    {now : Nat}
    (h : awaitFinalizedRounds run deadline record.signature record.lastValidBlockHeight
      record.signedSlot rounds now = .error (.notLanded signature)) :
    NeverLands run record.toSolPreparedRecord := by
  induction rounds generalizing now with
  | zero => cases h
  | succ rounds ih =>
    rw [awaitFinalizedRounds] at h
    -- no request of a round says `notLanded`; only the confirmation past expiry does
    rcases bind_eq_error.mp h with h | ⟨height, hHeight, h⟩
    · exact absurd h ask_ne_notLanded
    obtain rfl := ask_eq_ok hHeight
    rcases bind_eq_error.mp h with h | ⟨status, -, h⟩
    · exact absurd h ask_ne_notLanded
    cases status with
    | some status =>
      dsimp only at h
      split at h
      · cases h
      · rcases bind_eq_error.mp h with h | ⟨-, -, h⟩
        · exact absurd h (require_ne_error fun hEq => by cases hEq)
        · exact ih h
    | none =>
      dsimp only at h
      split at h
      · rename_i hExpired
        rcases bind_eq_error.mp h with h | ⟨found, hFound, h⟩
        · exact absurd h confirmNeverLanded_ne_notLanded
        · cases found with
          | some found => cases h
          | none => exact neverLands_of_confirm hRecorded (Nat.le_add_right now 2) hExpired hFound
      -- otherwise the next round
      · rcases bind_eq_error.mp h with h | ⟨-, -, h⟩
        · exact absurd h (require_ne_error fun hEq => by cases hEq)
        · exact ih h

/-- A status that is awaited is in the chain, by induction on the rounds. -/
theorem holds_of_awaitFinalizedRounds {deadline : ℚ} {signature : String}
    {lastValidBlockHeight : Nat} {signedSlot : Option Nat} {now : Nat}
    {status : SolSignatureStatus}
    (h : awaitFinalizedRounds run deadline signature lastValidBlockHeight signedSlot rounds now =
      .ok status) :
    ∃ moment, SolNodeView.Holds (run.view moment).chain signature status.slot status.err := by
  induction rounds generalizing now with
  | zero => cases h
  | succ rounds ih =>
    rw [awaitFinalizedRounds] at h
    obtain ⟨height, -, h⟩ := bind_eq_ok.mp h
    obtain ⟨read, hRead, h⟩ := bind_eq_ok.mp h
    cases read with
    | some found =>
      dsimp only at h
      split at h
      -- a finalized status is of a transaction in the chain
      · rename_i hFinal
        obtain rfl := Except.ok.inj h
        exact ⟨now + 1, (run.truthful (now + 1)).status _ _ (ask_eq_ok hRead).symm hFinal⟩
      · exact ih (require_bind_eq_ok.mp h).2
    | none =>
      dsimp only at h
      split at h
      -- and so is one that the confirmation finds
      · obtain ⟨found, hFound, h⟩ := bind_eq_ok.mp h
        cases found with
        | none => cases h
        | some found =>
          obtain rfl := Except.ok.inj h
          exact ⟨now + 2, holds_of_confirm hFound⟩
      · exact ih (require_bind_eq_ok.mp h).2

/-! ## What the accounts show -/

/-- Accounts that are read were read in one of the rounds. -/
theorem readFinalizedRounds_ok {deadline : ℚ} {keys : List String} {minContextSlot : Option Nat}
    {now : Nat} {accounts : List (Option WireAccount)}
    (h : readFinalizedRounds run deadline keys minContextSlot rounds now = .ok accounts) :
    ∃ moment, accounts = keys.map (run.view moment).account := by
  induction rounds generalizing now with
  | zero => cases h
  | succ rounds ih =>
    rw [readFinalizedRounds] at h
    split at h
    · rename_i read hRead
      obtain rfl := Except.ok.inj h
      unfold SolNodeRun.getMultipleAccounts at hRead
      split at hRead
      · cases hRead
      · dsimp only at hRead
        split at hRead
        · cases hRead
        · exact ⟨now, (Except.ok.inj hRead).symm⟩
    · cases h
    · split at h
      · cases h
      · exact ih h

/-- The first of the accounts that are read is the one of the first key. -/
theorem head_of_readFinalized {now : Nat} {escrow : List UInt8} {others : List (List UInt8)}
    {minContextSlot : Option Nat} {accounts : List (Option WireAccount)}
    (h : readFinalized run finalityTimeoutMs rounds now (escrow :: others) minContextSlot =
      .ok accounts) :
    ∃ moment text, pubkeyToBase58 escrow = .ok text ∧
      accounts.head?.bind id = (run.view moment).account text := by
  unfold readFinalized at h
  obtain ⟨texts, hTexts, h⟩ := bind_eq_ok.mp h
  have hTexts := mapError_eq_ok.mp hTexts
  rw [List.mapM_cons] at hTexts
  obtain ⟨text, hText, hTexts⟩ := bind_eq_ok.mp hTexts
  obtain ⟨rest, -, hTexts⟩ := bind_eq_ok.mp hTexts
  obtain rfl := Except.ok.inj hTexts
  obtain ⟨moment, rfl⟩ := readFinalizedRounds_ok h
  exact ⟨moment, text, hText, rfl⟩

/-- The verdict that another transaction settled the lock is sound. -/
theorem isSound_of_settled {now : Nat} {status : SolSignatureStatus}
    {claimPreimage : Option String} {evidence : SolWriteEvidence}
    (h : rail.claimSettledByAnotherTransaction run finalityTimeoutMs rounds now record status
      claimPreimage = .ok (some evidence)) : IsSound rail run record evidence := by
  -- the escrow reads as claimed, with a preimage that opens the lock, at some moment
  unfold SolHtlcRail.claimSettledByAnotherTransaction at h
  obtain ⟨parts, hParts, h⟩ := bind_eq_ok.mp h
  obtain ⟨⟨escrow, vault⟩, hKeys, h⟩ := bind_eq_ok.mp h
  obtain ⟨accounts, hAccounts, h⟩ := bind_eq_ok.mp h
  obtain ⟨view, hView, h⟩ := bind_eq_ok.mp h
  cases view with
  | none => cases h
  | some view =>
    dsimp only at h
    split at h
    · cases h
    · rename_i hClaimed
      obtain ⟨opens, hOpens, h⟩ := bind_eq_ok.mp h
      split at h
      · cases h
      · rename_i hOpen
        split at h
        · cases h
        · obtain rfl := Option.some.inj (Except.ok.inj h)
          obtain ⟨moment, text, hText, hHead⟩ := head_of_readFinalized hAccounts
          rw [hHead] at hView
          have hOpensLock := mapError_eq_ok.mp hOpens
          rw [not_not.mp hOpen] at hOpensLock
          refine ⟨parts, view, ⟨need_eq_ok.mp hParts, moment, escrow, vault, text,
            mapError_eq_ok.mp hKeys, hText, mapError_eq_ok.mp hView⟩, ?_⟩
          rw [if_pos rfl]
          exact ⟨not_not.mp (not_or.mp hClaimed).1, hOpensLock⟩

/-- Confirming a lock keeps the evidence of its transaction. -/
theorem confirmLock_ok {evidence evidence' : SolWriteEvidence}
    {accounts : List (Option WireAccount)} {escrow : List UInt8} {view : Option SolEscrowView}
    {recovering : Bool}
    (h : rail.confirmLock record evidence accounts escrow view recovering = .ok evidence') :
    ∃ v, view = some v ∧ ∃ terms ∈ record.terms, v.payer = rail.signerPublicKey ∧
      v.hashLock = terms.hashLock ∧ (v.status ≠ .locked ∨ v.payee = terms.payee ∧
        v.mint = rail.config.assets.USDC ∧ v.amount = terms.amount ∧
          v.claimByMs = terms.claimByMs ∧ v.refundAfterMs = terms.refundAfterMs) ∧
      evidence' = evidence := by
  unfold SolHtlcRail.confirmLock at h
  obtain ⟨terms, hTerms, h⟩ := need_bind_eq_ok.mp h
  obtain ⟨v, hv, h⟩ := need_bind_eq_ok.mp h
  refine ⟨v, hv, terms, hTerms, ?_⟩
  split at h
  · rename_i hMoved
    obtain ⟨⟨hPayer, hLock⟩, h⟩ := require_bind_eq_ok.mp h
    exact ⟨hPayer, hLock, .inl hMoved.2, (Except.ok.inj h).symm⟩
  · obtain ⟨mint, -, h⟩ := bind_eq_ok.mp h
    obtain ⟨hHolds, h⟩ := require_bind_eq_ok.mp h
    simp only [SolHtlcRail.holdsTerms, Bool.and_eq_true, decide_eq_true_eq] at hHolds
    obtain ⟨⟨⟨⟨⟨⟨⟨⟨-, hPayer⟩, hPayee⟩, hMint⟩, hAmount⟩, hClaimBy⟩, hRefundAfter⟩, hLock⟩, -⟩ :=
      hHolds
    exact ⟨hPayer, hLock, .inr ⟨hPayee, hMint, hAmount, hClaimBy, hRefundAfter⟩,
      (Except.ok.inj h).symm⟩

/-- Evidence of a write that is confirmed is sound. -/
theorem isSound_of_confirmWrite {now : Nat} {status : SolSignatureStatus}
    {claimPreimage : Option String} {recovering : Bool} {evidence : SolWriteEvidence}
    (hStatus : ∃ moment, SolNodeView.Holds (run.view moment).chain record.signature status.slot
      status.err)
    (h : rail.confirmWrite run finalityTimeoutMs rounds now record status claimPreimage
      recovering = .ok evidence) : IsSound rail run record evidence := by
  unfold SolHtlcRail.confirmWrite at h
  cases hErr : status.err with
  | some err =>
    -- evidence of a failed transaction is that of another one
    rw [hErr] at h
    obtain ⟨settled, hSettled, h⟩ := bind_eq_ok.mp h
    cases settled with
    | none => cases h
    | some found =>
      obtain rfl := Except.ok.inj h
      split at hSettled
      · unfold SolHtlcRail.caught at hSettled
        split at hSettled
        · cases hSettled
        · cases hSettled
        · rename_i hFound
          obtain rfl := Except.ok.inj hSettled
          exact isSound_of_settled hFound
      · cases hSettled
  | none =>
    rw [hErr] at h hStatus
    obtain ⟨parts, hParts, h⟩ := bind_eq_ok.mp h
    obtain ⟨⟨escrow, vault⟩, hKeys, h⟩ := bind_eq_ok.mp h
    obtain ⟨accounts, hAccounts, h⟩ := bind_eq_ok.mp h
    obtain ⟨view, hView, h⟩ := bind_eq_ok.mp h
    obtain ⟨moment, text, hText, hHead⟩ := head_of_readFinalized hAccounts
    rw [hHead] at hView
    have hEscrow (v : SolEscrowView) (hv : view = some v) :
        EscrowIs rail run record.ref parts v :=
      ⟨need_eq_ok.mp hParts, moment, escrow, vault, text, mapError_eq_ok.mp hKeys, hText,
        hv ▸ mapError_eq_ok.mp hView⟩
    have hSound (v : SolEscrowView) (hv : view = some v) (hShows : ShowsWrite rail record parts v) :
        IsSound rail run record ⟨record.ref, record.signature, status.slot, false⟩ :=
      ⟨parts, v, hEscrow v hv, by rw [if_neg Bool.false_ne_true]; exact ⟨hStatus, hShows⟩⟩
    -- what is left is what the escrow shows, kind by kind
    unfold ShowsWrite at hSound
    cases hKind : record.kind with
    | lock =>
      rw [hKind] at h hSound
      obtain ⟨v, hv, terms, hTerms, hPayer, hLock, hShows, rfl⟩ := confirmLock_ok h
      exact hSound v hv ⟨terms, hTerms, hPayer, hLock, hShows⟩
    | claim =>
      rw [hKind] at h hSound
      obtain ⟨opens, hOpens, h⟩ := bind_eq_ok.mp h
      obtain ⟨⟨v, hv, hClaimed, -, hOpen, -⟩, h⟩ := require_bind_eq_ok.mp h
      obtain rfl := Except.ok.inj h
      have hOpens := mapError_eq_ok.mp hOpens
      rw [Option.mem_def.mp hv, hOpen] at hOpens
      exact hSound v hv ⟨hClaimed, hOpens⟩
    | refund =>
      rw [hKind] at h hSound
      obtain ⟨⟨v, hv, hRefunded⟩, h⟩ := require_bind_eq_ok.mp h
      obtain rfl := Except.ok.inj h
      exact hSound v hv hRefunded

end

/-- What a recovery and a wait say is so, over every run of the node and whatever the chain does
between the reads. -/
theorem recovery_sound {rail : SolHtlcRail} {run : SolNodeRun} {record : SolWriteRecord}
    (hRecorded : Recorded run record.toSolPreparedRecord) (finalityTimeoutMs : ℚ)
    (rounds now : Nat) :
    (rail.recoverBySignature run finalityTimeoutMs rounds now record = .ok none →
      NeverLands run record.toSolPreparedRecord) ∧
    (∀ signature, awaitFinalized run finalityTimeoutMs rounds now record.signature
      record.lastValidBlockHeight record.signedSlot = .error (.notLanded signature) →
        NeverLands run record.toSolPreparedRecord) ∧
    (∀ evidence, rail.recoverBySignature run finalityTimeoutMs rounds now record =
      .ok (some evidence) → IsSound rail run record evidence) ∧
    ∀ status, awaitFinalized run finalityTimeoutMs rounds now record.signature
      record.lastValidBlockHeight record.signedSlot = .ok status →
        ∀ later claimPreimage recovering evidence, rail.confirmWrite run finalityTimeoutMs rounds
          later record status claimPreimage recovering = .ok evidence →
            IsSound rail run record evidence := by
  refine ⟨fun h => ?_, fun signature h => neverLands_of_awaitFinalizedRounds hRecorded h,
    fun evidence h => ?_, fun status hStatus later claimPreimage recovering evidence h =>
      isSound_of_confirmWrite (holds_of_awaitFinalizedRounds hStatus) h⟩
  -- `none` is answered only past the life of the blockhash, by a node that has the blocks
  · unfold SolHtlcRail.recoverBySignature at h
    obtain ⟨-, h⟩ := require_bind_eq_ok.mp h
    obtain ⟨genesis, -, h⟩ := bind_eq_ok.mp h
    obtain ⟨-, -, h⟩ := bind_eq_ok.mp h
    obtain ⟨height, hHeight, h⟩ := bind_eq_ok.mp h
    obtain rfl := ask_eq_ok hHeight
    obtain ⟨status, -, h⟩ := bind_eq_ok.mp h
    cases status with
    | none =>
      obtain ⟨hExpired, h⟩ := require_bind_eq_ok.mp h
      obtain ⟨found, hFound, h⟩ := bind_eq_ok.mp h
      cases found with
      | none => exact neverLands_of_confirm hRecorded (by omega) hExpired hFound
      | some found =>
        obtain ⟨evidence, -, h⟩ := bind_eq_ok.mp h
        cases h
    | some status =>
      obtain ⟨-, h⟩ := require_bind_eq_ok.mp h
      obtain ⟨evidence, -, h⟩ := bind_eq_ok.mp h
      cases h
  -- evidence rests on a status in the chain
  · unfold SolHtlcRail.recoverBySignature at h
    obtain ⟨-, h⟩ := require_bind_eq_ok.mp h
    obtain ⟨genesis, -, h⟩ := bind_eq_ok.mp h
    obtain ⟨-, -, h⟩ := bind_eq_ok.mp h
    obtain ⟨height, -, h⟩ := bind_eq_ok.mp h
    obtain ⟨status, hStatus, h⟩ := bind_eq_ok.mp h
    cases status with
    | none =>
      obtain ⟨-, h⟩ := require_bind_eq_ok.mp h
      obtain ⟨found, hFound, h⟩ := bind_eq_ok.mp h
      cases found with
      | none => cases h
      | some found =>
        obtain ⟨evidence', hEvidence, h⟩ := bind_eq_ok.mp h
        obtain rfl := Option.some.inj (Except.ok.inj h)
        exact isSound_of_confirmWrite ⟨_, holds_of_confirm hFound⟩ hEvidence
    | some status =>
      obtain ⟨hFinal, h⟩ := require_bind_eq_ok.mp h
      obtain ⟨evidence', hEvidence, h⟩ := bind_eq_ok.mp h
      obtain rfl := Option.some.inj (Except.ok.inj h)
      exact isSound_of_confirmWrite ⟨_, (run.truthful (now + 2)).status _ _
        (ask_eq_ok hStatus).symm hFinal⟩ hEvidence

/-! ## A run -/

namespace RecoverySample

def ref : String :=
  String.ofList ('0' :: 'x' :: List.replicate 64 '0' ++ ':' :: List.replicate 32 '1')

def record : SolWriteRecord := ⟨⟨.claim, ref, "signature", "blockhash", 5, some 1⟩, none⟩

/-- One block of other transactions, past the height that the blockhash lived to. -/
def run : SolNodeRun where
  view _ := ⟨"genesis", [⟨8, 6, [("other", none)]⟩], [⟨8, 6, [("other", none)]⟩], 0,
    fun _ => none, fun _ => none, 0⟩
  fails _ := none
  truthful _ := ⟨fun _ h => h, fun _ h _ => h, fun _ _ h => nomatch h⟩
  grows _ := List.prefix_rfl
  climbs _ := List.pairwise_singleton _ _
  forgets _ := le_rfl

/-- The slow rate is at least one. -/
theorem one_le_slow : (1 : ℚ) ≤ 600 := by norm_num

def rail : SolHtlcRail := ClaimSample.solRail 600 one_le_slow

/-- The sample's transaction is in no block. -/
theorem other_only {now : Nat} {block : SolBlock} (hBlock : block ∈ (run.view now).chain)
    (err : Option String) : (record.signature, err) ∉ block.transactions := by
  obtain rfl := List.mem_singleton.mp hBlock
  simp [record]

/-- The sample's record describes its transaction. -/
theorem recorded : Recorded run record.toSolPreparedRecord where
  signedSlot := ⟨1, rfl, fun _ _ hBlock err h => absurd h (other_only hBlock err)⟩
  lifetime := fun _ _ hBlock err h => absurd h (other_only hBlock err)

/-- The parts of the sample. -/
theorem facts : (parseSolRef ref).isSome ∧
    solGenesisProblem rail.config.pin "genesis" = none := by
  decide +kernel

/-- The sample is recovered as never landed. -/
theorem recovered : rail.recoverBySignature run 0 1 0 record = .ok none :=
  require_bind_eq_ok.mpr ⟨facts.1, bind_eq_ok.mpr ⟨_, rfl, bind_eq_ok.mpr ⟨(),
    mapError_eq_ok.mpr (refute_eq_ok.mpr facts.2), rfl⟩⟩⟩

end RecoverySample

/-- A transaction that its recovery finds lost. -/
theorem recovery_sound_sample :
    NeverLands RecoverySample.run RecoverySample.record.toSolPreparedRecord :=
  (recovery_sound RecoverySample.recorded 0 1 0).1 RecoverySample.recovered

end SwapDesk.Rails.Sol
