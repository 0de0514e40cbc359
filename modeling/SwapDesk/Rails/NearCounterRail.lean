import SwapDesk.Near.Safety
import SwapDesk.Rails.NearRecovery

/-!
# SwapDesk — what became of a NEAR write

`readWrite`, `settledVerdict` and `resendWrite` of `src/client/near-rail.ts`, with the parts of
`src/rails/near-htlc.ts` that they call: `recoverByTxHash` with its `confirmWrite`,
`readLockSettled` and `resendSigned`. The node is one whose chain goes on between the reads of one
call; what the contract makes of the chain's calls is `SwapDesk.Near`.

Main result: `recovery_verdicts_sound`. A verdict is so, in every run but those in which a refund
reaches the contract between two reads of its row, and nothing but the recorded bytes is sent.
-/

namespace SwapDesk.Rails.NearHtlc

open Check Desk Borsh

/-! ## The chain and a node of it -/

/-- What a chain holds at each height: the contract, and the nonce of the rail's access key. -/
structure NearChain where
  host : SwapDesk.Near.Host
  usdcToken : SwapDesk.Near.AccountId
  contract : Nat → SwapDesk.Near.State
  nonce : Nat → Nat
  deployed : (SwapDesk.Near.system host usdcToken).Reachable (contract 0)
  goesOn : ∀ height, ∃ events,
    (SwapDesk.Near.system host usdcToken).Leads (contract height) events (contract (height + 1))
  nonce_mono : Monotone nonce

/-- The payer of a ref, as the contract takes it. -/
def payerAccount (parts : NearRef) : Option SwapDesk.Near.AccountId :=
  if h : ':' ∉ parts.payer.toList then some ⟨parts.payer, h⟩ else none

/-- The lock under a ref at a height. -/
def NearChain.row (chain : NearChain) (parts : NearRef) (height : Nat) :
    Option SwapDesk.Near.Lock :=
  (payerAccount parts).bind fun payer =>
    (chain.contract height).lock? payer (sliceFrom parts.hashLock 2)

/-- What `parseLockView` makes of the contract's view of a lock. -/
def NearLockView.ofLock {N : Type} (rt : NearRuntime N) (lock : SwapDesk.Near.Lock) :
    NearLockView N :=
  let view := SwapDesk.Near.LockView.ofLock lock
  { status := view.status
    payer := view.payer.text
    payee := view.payee.text
    token := view.token.text
    amount := view.amount
    claimByMs := rt.num.ofText view.claimByMs
    refundAfterMs := rt.num.ofText view.refundAfterMs
    preimage := view.preimage.map fun preimage => "0x" ++ preimage }

/-- How a read ends that is not answered. -/
inductive NearReadFailure where
  | timeout
  | error (message : String)
deriving DecidableEq, Repr

/-- What `send_tx` answers. -/
inductive NearSendAnswer where
  | sent
  | expired
  | invalidNonce
  | unreachable
deriving DecidableEq, Repr

/-- A node of the chain over a run of moments. What it answers of the contract and the access key
is what the chain holds; what it answers by hash, or to a send, is its own. -/
structure NearNodeRun (chain : NearChain) where
  final : Nat → Nat
  head : Nat → Nat
  fails : Nat → Option NearReadFailure
  chainId : Nat → String
  txStatus : Nat → String → Option Json
  blockHeight : String → Option Nat
  sendTx : Nat → String → NearSendAnswer
  final_mono : Monotone final
  head_mono : Monotone head
  final_le : ∀ now, final now ≤ head now

inductive NearStop where
  | plain (message : String)
  /-- `NearTimeoutError` -/
  | timeout
  /-- `NearTxFailedError` -/
  | txFailed (txHash : String)
  /-- `NearLockRefusedError` -/
  | lockRefused (txHash : String)
  /-- `NearLockUnknownError` -/
  | lockUnknown (txHash detail : String)
  /-- `NearPendingError` -/
  | pending (txHash : String)
  /-- `NearPayoutFailedError` -/
  | payoutFailed (txHash : String) (preimage : Option String)
  /-- `NearRefundFailedError` -/
  | refundFailed (txHash : String)
deriving DecidableEq, Repr

def plain {α : Type} (x : Except String α) : Except NearStop α := x.mapError .plain

def NearReadFailure.stop : NearReadFailure → NearStop
  | .timeout => .timeout
  | .error message => .plain message

namespace NearNodeRun

variable {chain : NearChain} (run : NearNodeRun chain)

/-- A read at a moment. -/
def ask {α : Type} (now : Nat) (answer : α) : Except NearStop α :=
  match run.fails now with
  | some failure => .error failure.stop
  | none => .ok answer

/-- `get_lock` at a block. -/
def getLockAt {N : Type} (rt : NearRuntime N) (parts : NearRef) (now height : Nat) :
    Except NearStop (Option (NearLockView N)) :=
  run.ask now ((chain.row parts height).map (NearLockView.ofLock rt))

/-- `get_lock` at the final block. -/
def getLock {N : Type} (rt : NearRuntime N) (parts : NearRef) (now : Nat) :
    Except NearStop (Option (NearLockView N)) :=
  run.getLockAt rt parts now (run.final now)

end NearNodeRun

/-! ## The writes of a leg -/

/-- Which of a payer's writes was recorded. -/
inductive LegWrite where
  | lock
  | refund
deriving DecidableEq, Repr

def LegWrite.own : LegWrite → NearWriteKind
  | .lock => .lock
  | .refund => .refund

/-- A recorded write, with the nonce of its transaction. -/
structure NearRecord where
  ref : String
  txHash : String
  signedTxBase64 : String
  nonce : Nat
  kind : LegWrite
deriving DecidableEq, Repr

structure NearWriteEvidence where
  ref : String
  txHash : String
  blockHeight : Nat
  blockHash : String
deriving DecidableEq, Repr

inductive LockRecoveryOutcome where
  | landed
  | neverLanded
  | pending
  | unknown
deriving DecidableEq, Repr

def NEAR_RECEIPT_SETTLE_BLOCKS : Nat := 3
def NEAR_SETTLE_MAX_POLLS : Nat := 20

/-- The amount that an `ft_transfer_call` says was used. -/
def successValueAmount {N : Type} (rt : NearRuntime N) (status : Option Json) : Option String := do
  let value ← status.bind (·.text? "SuccessValue")
  let parsed ← JsonText.parse rt.real (rt.utf8Text (rt.base64Decode value)).toList
  let amount ← parsed.asText?
  if value ≠ "" ∧ NONNEG_DECIMAL amount then some amount else none

/-- `"Failure" in status` throws for what is no container. -/
def refuseFailure (txHash : String) (status : Option Json) : Except NearStop Unit :=
  match status with
  | none => .ok ()
  | some .null => .ok ()
  | some status => do
    require (status.isContainer = true)
      (.plain "cannot search for Failure in a status that is no object")
    require ((status.field? "Failure").isNone = true) (.txFailed txHash)

section

variable {N : Type} (rt : NearRuntime N) (rail : NearHtlcRail) {chain : NearChain}
  (run : NearNodeRun chain)

/-! ## A transaction by its hash -/

/-- The outcome of a lock says that its whole amount was used. -/
def requireUsed (prepared : NearRecoveredWrite N) (status : Option Json) : Except NearStop Unit :=
  if prepared.write.kind = .lock then do
    let terms ← need prepared.write.lockTerms
      (.plain "near-htlc: internal — a lock write is missing its own lockTerms")
    let used := successValueAmount rt status
    require (used ≠ some "0") (.lockRefused prepared.txHash)
    require (used = some terms.amount) (.lockUnknown prepared.txHash (match used with
      | none => "its outcome carries no readable used amount"
      | some used => "its outcome used " ++ used ++ ", not the " ++ terms.amount ++ " sent"))
  else .ok ()

/-- A row that is not there is read once more, after a sleep. -/
def readAgain (parts : NearRef) (now : Nat) (lockView : Option (NearLockView N)) :
    Except NearStop (Option (NearLockView N)) :=
  match lockView with
  | some view => .ok (some view)
  | none => run.getLock rt parts now

/-- `confirmWrite` for a lock that is recovered. -/
def confirmLock (parts : NearRef) (now : Nat) (terms : NearHtlcTerms N)
    (evidence : NearWriteEvidence) (lockView : Option (NearLockView N)) :
    Except NearStop NearWriteEvidence := do
  let again ← readAgain rt run parts now lockView
  let view ← need again (.lockUnknown evidence.txHash
    "no lock is visible at the final block, even after a re-read")
  -- the lock may have moved on since it landed
  if view.status ≠ "Locked" ∧ view.payer = rail.signer.accountId then return evidence
  else
    require (view.status = "Locked" ∧ view.payer = rail.signer.accountId ∧
        view.payee = terms.payee ∧ view.token = rail.tokenAccount ∧ view.amount = terms.amount ∧
          rt.num.same view.claimByMs terms.claimByMs = true ∧
            rt.num.same view.refundAfterMs terms.refundAfterMs = true)
      (.lockUnknown evidence.txHash ("its outcome says the amount was used but the lock at the " ++
        "final block is not Locked with these exact terms"))
    return evidence

/-- `confirmWrite` of a recovery. -/
def confirmWrite (parts : NearRef) (now : Nat) (prepared : NearRecoveredWrite N) (raw : Json) :
    Except NearStop NearWriteEvidence := do
  let txHash := prepared.txHash
  let status := raw.field? "status"
  refuseFailure txHash status
  requireUsed rt prepared status
  -- the chain has the last word: the row as it is at the final block
  let blockHash := ((raw.field? "transaction_outcome").bind (·.text? "block_hash")).getD ""
  let found ← run.ask now (run.blockHeight blockHash)
  let height ← need found (.plain "near-rpc: unknown block")
  let lockView ← run.getLock rt parts (now + 1)
  let evidence : NearWriteEvidence := ⟨prepared.ref, txHash, height, blockHash⟩
  match prepared.write.kind with
  | .lock =>
    let terms ← need prepared.write.lockTerms (.refundFailed txHash)
    confirmLock rt rail run parts (now + 2) terms evidence lockView
  | .claim =>
    match lockView.map NearLockView.status with
    | some "Claimed" => return evidence
    | some "Claiming" => .error (.pending txHash)
    | _ => .error (.payoutFailed txHash (lockView.bind NearLockView.preimage))
  | .refund =>
    require (lockView.map NearLockView.status = some "Refunded") (.refundFailed txHash)
    return evidence

def recoverByTxHash (now : Nat) (txHash senderAccountId expectedRef : String) :
    Except NearStop (Option NearWriteEvidence) := do
  let refParts ← plain (requireNearRef expectedRef)
  let chainId ← run.ask now (run.chainId now)
  plain (rail.assertPinnedChain (.ok chainId))
  match ← run.ask (now + 1) (run.txStatus (now + 1) txHash) with
  | none => return none
  | some raw =>
    let outcome ← plain (decodeOutcome raw)
    let write ← plain
      (NearHtlcRail.classifyOwnWrite rt rail outcome txHash senderAccountId refParts)
    let evidence ← confirmWrite rt rail run refParts (now + 2) ⟨expectedRef, txHash, write⟩ raw
    return some evidence

/-! ## A row that has settled -/

structure NearSettled (N : Type) where
  settled : Bool
  lock : Option (NearLockView N)

/-- The loop of `readLockSettled`, with the number of sleeps left. -/
def readLockSettledPolls (parts : NearRef) (target : Nat) :
    Nat → Nat → Except NearStop (NearSettled N)
  | polls, now => do
    let head ← run.ask now (run.final now)
    if target ≤ head then
      let lock ← run.getLockAt rt parts (now + 1) head
      return ⟨true, lock⟩
    else
      match polls with
      | 0 => return ⟨false, none⟩
      | polls + 1 => readLockSettledPolls parts target polls (now + 1)

def readLockSettled (now : Nat) (ref : String) (observedHeight : Nat) :
    Except NearStop (NearSettled N) := do
  let parts ← plain (requireNearRef ref)
  readLockSettledPolls rt run parts (observedHeight + NEAR_RECEIPT_SETTLE_BLOCKS)
    NEAR_SETTLE_MAX_POLLS now

/-! ## The verdicts -/

def rowVerdict (row : Option (NearLockView N)) (kind : LegWrite) : Option LockRecoveryOutcome :=
  match row, kind with
  | none, _ => none
  | some _, .lock => some .landed
  | some row, .refund =>
    if row.status = "Refunded" then some .landed
    else if row.status = "Refunding" then some .pending
    else none

def settledVerdict (now : Nat) (record : NearRecord) (observedHeight : Nat) :
    Except NearStop LockRecoveryOutcome := do
  let settled ← readLockSettled rt run now record.ref observedHeight
  if settled.settled = false then return .pending
  else return (rowVerdict settled.lock record.kind).getD .neverLanded

/-- What the node knows of the transaction by its hash, where that is a verdict. -/
def hashVerdict (now : Nat) (record : NearRecord) : Except NearStop (Option LockRecoveryOutcome) :=
  match recoverByTxHash rt rail run now record.txHash rail.signer.accountId record.ref with
  | .ok evidence => .ok (evidence.map fun _ => .landed)
  | .error .timeout => .ok (some .pending)
  | .error stop => .error stop

def readLock (now : Nat) (ref : String) : Except NearStop (Option (NearLockView N)) := do
  let parts ← plain (requireNearRef ref)
  run.getLock rt parts now

def readWrite (now : Nat) (record : NearRecord) : Except NearStop LockRecoveryOutcome := do
  -- `finalAccessKey`: the nonce, and the height that it was read at
  let key ← run.ask now (chain.nonce (run.final now), run.final now)
  match ← hashVerdict rt rail run (now + 1) record with
  | some verdict => return verdict
  | none =>
    match rowVerdict (← readLock rt run (now + 6) record.ref) record.kind with
    | some verdict => return verdict
    | none =>
      -- without a trace it is dead only once its nonce is spent
      if key.1 < record.nonce then return .unknown
      else settledVerdict rt run (now + 7) record key.2

/-- `resendWrite` up to the send; a verdict where nothing is to be sent. -/
def beforeResend (now : Nat) (record : NearRecord) :
    Except NearStop (Option LockRecoveryOutcome) := do
  let read ← readWrite rt rail run now record
  if read ≠ .unknown then return some read
  else
    match record.kind with
    | .lock => return none
    | .refund =>
      let row ← readLock rt run (now + 7) record.ref
      -- every other status is an answer here, `Refunding` and `Refunded` too
      if row.map NearLockView.status = some "Locked" then return none
      else return some .neverLanded

/-- `resendWrite` after the send. -/
def afterResend (now : Nat) (record : NearRecord) (answer : NearSendAnswer) :
    Except NearStop LockRecoveryOutcome := do
  if answer = .unreachable then return .pending
  else
    match ← hashVerdict rt rail run (now + 10) record with
    | some verdict => return verdict
    | none =>
      if answer = .sent then return .pending
      else
        -- it may be in a block that is not final yet
        let optimisticHeight ← run.ask (now + 15) (run.head (now + 15))
        settledVerdict rt run (now + 16) record optimisticHeight

structure NearResend where
  transmitted : List String
  outcome : Except NearStop LockRecoveryOutcome

/-- `resendWrite`, with the send of `resendSigned`. -/
def resendWrite (now : Nat) (record : NearRecord) : NearResend :=
  match beforeResend rt rail run now record with
  | .error stop => ⟨[], .error stop⟩
  | .ok (some verdict) => ⟨[], .ok verdict⟩
  | .ok none =>
    match (run.ask (now + 8) (run.chainId (now + 8))) >>= fun chainId =>
        plain (rail.assertPinnedChain (.ok chainId)) with
    | .error stop => ⟨[], .error stop⟩
    | .ok () => ⟨[record.signedTxBase64],
        afterResend rt rail run now record (run.sendTx (now + 9) record.signedTxBase64)⟩

end

/-! ## What becomes of a write -/

/-- What becomes of a signed transaction on the chain: the last height that its block hash is good
for, the height of the block that includes it, and the height at which its effect shows in the
contract. -/
structure NearFate where
  validUntil : Nat
  included : Option Nat
  effect : Option Nat
deriving DecidableEq, Repr

/-- The row shows a refund. -/
def ShowsRefund (row : Option SwapDesk.Near.Lock) : Prop :=
  ∃ lock, row = some lock ∧ (lock.status = .refunding ∨ lock.status = .refunded)

/-- The row shows the write. -/
def Shows (kind : LegWrite) (row : Option SwapDesk.Near.Lock) : Prop :=
  match kind with
  | .lock => row.isSome = true
  | .refund => ShowsRefund row

/-- What shows from a height on when a write takes effect there: a lock makes its row, and a refund
is one whose payout does not put the row back. -/
def TakesEffect (chain : NearChain) (parts : NearRef) (kind : LegWrite) (height : Nat) : Prop :=
  match kind with
  | .lock => Shows .lock (chain.row parts height)
  | .refund => ∀ later, height ≤ later → Shows .refund (chain.row parts later)

/-- The effect of a write on the row. -/
def Done (kind : LegWrite) (row : Option SwapDesk.Near.Lock) : Prop :=
  match kind with
  | .lock => row.isSome = true
  | .refund => ∃ lock, row = some lock ∧ lock.status = .refunded

/-- What was recorded of a write is so, and the node is truthful about it. -/
structure Recorded {N : Type} (rt : NearRuntime N) (rail : NearHtlcRail) {chain : NearChain}
    (run : NearNodeRun chain) (record : NearRecord) (parts : NearRef) (fate : NearFate) : Prop where
  ref : parseNearRef record.ref = some parts
  /-- What the node reports under the hash is the recorded transaction, a write of this kind. -/
  reports : ∃ tx, (∀ now raw, run.txStatus now record.txHash = some raw →
      Reports rt tx record.txHash raw) ∧
    ∀ write : OwnWrite N, IsWrite rt rail parts tx write → write.kind = record.kind.own
  /-- A block includes it only while the access key admits its nonce and its block hash is good. -/
  admitted : ∀ height ∈ fate.included, height ≤ fate.validUntil ∧
    ∀ earlier < height, chain.nonce earlier < record.nonce
  /-- The effect shows at most so many blocks after the block that includes it. -/
  takes : ∀ height ∈ fate.effect, TakesEffect chain parts record.kind height ∧
    ∃ included ∈ fate.included, height ≤ included + NEAR_RECEIPT_SETTLE_BLOCKS
  expired : ∀ now, run.sendTx now record.signedTxBase64 = .expired →
    fate.validUntil ≤ run.head now
  consumed : ∀ now, run.sendTx now record.signedTxBase64 = .invalidNonce →
    record.nonce ≤ chain.nonce (run.head now)
  /-- A refund was signed when the final row was there. -/
  locked : record.kind = .refund → (chain.row parts (run.final 0)).isSome = true

/-- Why a transaction can do nothing any more: its nonce or its block hash is spent, or the secret
of the lock is out, after which the contract makes no refund. -/
inductive Spent {chain : NearChain} (run : NearNodeRun chain) (record : NearRecord)
    (parts : NearRef) (fate : NearFate) : Prop
  | nonce (now : Nat) : record.nonce ≤ chain.nonce (run.head now) → Spent run record parts fate
  | blockHash (now : Nat) : fate.validUntil ≤ run.head now → Spent run record parts fate
  | revealed (now : Nat) (lock : SwapDesk.Near.Lock) : record.kind = .refund →
      chain.row parts (run.final now) = some lock → lock.revealed = true →
        Spent run record parts fate

structure NeverTakesEffect {chain : NearChain} (run : NearNodeRun chain) (record : NearRecord)
    (parts : NearRef) (fate : NearFate) : Prop where
  spent : Spent run record parts fate
  absent : fate.effect = none

/-- The final chain shows the effect of the write. -/
def OnFinalChain {chain : NearChain} (run : NearNodeRun chain) (record : NearRecord)
    (parts : NearRef) : Prop :=
  ∃ now, Done record.kind (chain.row parts (run.final now))

/-- The refund slips in between two reads: the access key still admitted it, the node did not know
it, the row did not show it, and the next read of the row is answered and does. -/
structure SlipsIn {chain : NearChain} (run : NearNodeRun chain) (record : NearRecord)
    (parts : NearRef) (now : Nat) : Prop where
  kind : record.kind = .refund
  admits : chain.nonce (run.final now) < record.nonce
  unknown : run.txStatus (now + 2) record.txHash = none
  before : ¬ ShowsRefund (chain.row parts (run.final (now + 6)))
  answered : run.fails (now + 7) = none
  after : ShowsRefund (chain.row parts (run.final (now + 7)))

/-! ## The row over the heights -/

section

variable {chain : NearChain} {parts : NearRef}

/-- Every height of the chain holds a reachable contract state. -/
theorem NearChain.reachable (chain : NearChain) (height : Nat) :
    (SwapDesk.Near.system chain.host chain.usdcToken).Reachable (chain.contract height) := by
  induction height with
  | zero => exact chain.deployed
  | succ height ih =>
    obtain ⟨events, hLeads⟩ := chain.goesOn height
    exact ih.leads hLeads

/-- A row is never removed, and what a later height shows is a later lock. -/
theorem NearChain.row_later {height later : Nat} (h : height ≤ later) {lock : SwapDesk.Near.Lock}
    (hRow : chain.row parts height = some lock) :
    ∃ lock', chain.row parts later = some lock' ∧ lock.Later lock' := by
  induction later, h using Nat.le_induction with
  | base => exact ⟨lock, hRow, .refl lock⟩
  | succ later _ ih =>
    obtain ⟨lock', hRow', hLater⟩ := ih
    obtain ⟨payer, hPayer, hLock⟩ := Option.bind_eq_some_iff.mp hRow'
    obtain ⟨events, hLeads⟩ := chain.goesOn later
    obtain ⟨lock'', hLock'', hLater'⟩ := (SwapDesk.Near.later_of_leads payer
      (sliceFrom parts.hashLock 2) (chain.reachable later) hLeads).lock lock' hLock
    exact ⟨lock'', Option.bind_eq_some_iff.mpr ⟨payer, hPayer, hLock''⟩, hLater.trans hLater'⟩

/-- A lock in the contract has a life behind it. -/
theorem NearChain.life {height : Nat} {lock : SwapDesk.Near.Lock}
    (hRow : chain.row parts height = some lock) : ∃ payer ts ps, SwapDesk.Near.Life chain.host
      chain.usdcToken payer (sliceFrom parts.hashLock 2) (some lock) ts ps := by
  obtain ⟨payer, -, hLock⟩ := Option.bind_eq_some_iff.mp hRow
  have hLife := (SwapDesk.Near.inv_of_reachable (chain.reachable height)).life payer
    (sliceFrom parts.hashLock 2)
  rw [hLock] at hLife
  exact ⟨payer, _, _, hLife⟩

/-- A lock whose secret is out shows no refund. -/
theorem not_showsRefund_of_revealed {height : Nat} {lock : SwapDesk.Near.Lock}
    (hRow : chain.row parts height = some lock) (hRevealed : lock.revealed = true) :
    ¬ ShowsRefund (chain.row parts height) := by
  rintro ⟨lock', hRow', hStatus⟩
  obtain rfl := Option.some.inj (hRow.symm.trans hRow')
  obtain ⟨payer, ts, ps, hLife⟩ := NearChain.life hRow
  obtain ⟨hRefunding, hRefunded, -⟩ := hLife.not_refunding hRevealed
  exact hStatus.elim hRefunding hRefunded

/-- A lock that is claimed, or being claimed, has its secret out. -/
theorem revealed_of_claim {height : Nat} {lock : SwapDesk.Near.Lock}
    (hRow : chain.row parts height = some lock)
    (hStatus : lock.status = .claiming ∨ lock.status = .claimed) : lock.revealed = true := by
  obtain ⟨payer, ts, ps, hLife⟩ := NearChain.life hRow
  cases hLife with
  | locked _ hLocked => rw [hLocked] at hStatus; exact hStatus.elim nofun nofun
  | leaving exit _ hLeaving hAgrees _ =>
    -- the secret is out exactly on the way to a claim
    rw [hLeaving] at hStatus
    cases exit with
    | claim => exact hAgrees.mpr rfl
    | refund => exact hStatus.elim nofun nofun
  | closed exit _ hClosed hAgrees =>
    rw [hClosed] at hStatus
    cases exit with
    | claim => exact hAgrees.mpr rfl
    | refund => exact hStatus.elim nofun nofun

/-- What took effect is there at every later height. -/
theorem TakesEffect.shows {kind : LegWrite} {height later : Nat}
    (h : TakesEffect chain parts kind height) (hLater : height ≤ later) :
    Shows kind (chain.row parts later) := by
  cases kind with
  | lock =>
    obtain ⟨lock, hLock⟩ := Option.isSome_iff_exists.mp h
    obtain ⟨lock', hLock', -⟩ := NearChain.row_later hLater hLock
    exact Option.isSome_iff_exists.mpr ⟨lock', hLock'⟩
  | refund => exact h later hLater

end

/-! ## What a row says -/

section

variable {N : Type} {rt : NearRuntime N} {rail : NearHtlcRail} {chain : NearChain}
  {run : NearNodeRun chain} {record : NearRecord} {parts : NearRef} {fate : NearFate}
  {kind : LegWrite} {row : Option SwapDesk.Near.Lock} {now : Nat}

/-- Only a refunded lock prints as refunded. -/
@[simp] theorem asStr_eq_refunded {status : SwapDesk.Near.LockStatus} :
    status.asStr = "Refunded" ↔ status = .refunded := by
  cases status <;> decide

/-- Only a lock that is being refunded prints as refunding. -/
@[simp] theorem asStr_eq_refunding {status : SwapDesk.Near.LockStatus} :
    status.asStr = "Refunding" ↔ status = .refunding := by
  cases status <;> decide

/-- Only an open lock prints as locked. -/
@[simp] theorem asStr_eq_locked {status : SwapDesk.Near.LockStatus} :
    status.asStr = "Locked" ↔ status = .locked := by
  cases status <;> decide

@[simp] theorem NearLockView.status_ofLock {lock : SwapDesk.Near.Lock} :
    (NearLockView.ofLock rt lock).status = lock.status.asStr := rfl

/-- A row judged landed shows the write done. -/
theorem done_of_rowVerdict
    (h : rowVerdict (row.map (NearLockView.ofLock rt)) kind = some .landed) : Done kind row := by
  cases row with
  | none => cases h
  | some lock =>
    cases kind with
    | lock => rfl
    | refund =>
      simp only [rowVerdict, Option.map_some, NearLockView.status_ofLock, asStr_eq_refunded,
        asStr_eq_refunding] at h
      split at h
      · rename_i hRefunded
        exact ⟨lock, rfl, hRefunded⟩
      · split at h <;> cases h

/-- A row that leaves the verdict open does not show the write. -/
theorem not_shows_of_rowVerdict
    (h : rowVerdict (row.map (NearLockView.ofLock rt)) kind = none) : ¬ Shows kind row := by
  cases row with
  | none =>
    cases kind with
    | lock => exact Bool.false_ne_true
    | refund => exact fun ⟨_, hNone, _⟩ => nomatch hNone
  | some lock =>
    cases kind with
    | lock => cases h
    | refund =>
      simp only [rowVerdict, Option.map_some, NearLockView.status_ofLock, asStr_eq_refunded,
        asStr_eq_refunding] at h
      rintro ⟨lock', hLock', hStatus⟩
      obtain rfl := Option.some.inj hLock'
      split at h
      · cases h
      · rename_i hRefunded
        split at h
        · cases h
        · rename_i hRefunding
          exact hStatus.elim hRefunding hRefunded

/-- The row alone never yields `neverLanded` or `unknown`. -/
theorem rowVerdict_ne (view : Option (NearLockView N)) :
    rowVerdict view kind ≠ some .neverLanded ∧ rowVerdict view kind ≠ some .unknown := by
  unfold rowVerdict
  constructor <;> split <;> try split <;> try split
  all_goals exact nofun

/-- A request that is answered is answered with the value of that moment. -/
theorem ask_eq_ok {α : Type} {a b : α} (h : run.ask now a = .ok b) : b = a := by
  unfold NearNodeRun.ask at h
  split at h
  · cases h
  · exact (Except.ok.inj h).symm

/-- An answer comes at a moment that does not fail. -/
theorem fails_of_ask {α : Type} {a b : α} (h : run.ask now a = .ok b) : run.fails now = none := by
  unfold NearNodeRun.ask at h
  split at h
  · cases h
  · assumption

/-- Reading the lock asks for the contract's final row of that moment. -/
theorem readLock_ask {view : Option (NearLockView N)} (hRef : parseNearRef record.ref = some parts)
    (h : readLock rt run now record.ref = .ok view) :
    run.ask now ((chain.row parts (run.final now)).map (NearLockView.ofLock rt)) = .ok view := by
  unfold readLock at h
  obtain ⟨parts', hParts, h⟩ := bind_eq_ok.mp h
  obtain rfl := Option.some.inj (hRef.symm.trans (need_eq_ok.mp (mapError_eq_ok.mp hParts)))
  exact h

/-- Reading the lock reads the contract's final row of that moment. -/
theorem readLock_ok {view : Option (NearLockView N)} (hRef : parseNearRef record.ref = some parts)
    (h : readLock rt run now record.ref = .ok view) :
    view = (chain.row parts (run.final now)).map (NearLockView.ofLock rt) :=
  ask_eq_ok (readLock_ask hRef h)

/-! ## A transaction found by its hash -/

/-- A lock is confirmed only where a final row holds it. -/
theorem isSome_of_confirmLock {terms : NearHtlcTerms N} {evidence evidence' : NearWriteEvidence}
    {moment : Nat}
    (h : confirmLock rt rail run parts now terms evidence
      ((chain.row parts (run.final moment)).map (NearLockView.ofLock rt)) = .ok evidence') :
    ∃ moment, (chain.row parts (run.final moment)).isSome = true := by
  unfold confirmLock at h
  obtain ⟨again, hAgain, h⟩ := bind_eq_ok.mp h
  obtain ⟨view, hView, -⟩ := need_bind_eq_ok.mp h
  obtain rfl := hView
  unfold readAgain at hAgain
  split at hAgain
  · rename_i found hFound
    exact ⟨moment, by rw [← Option.isSome_map, hFound]; rfl⟩
  · have hRow := ask_eq_ok hAgain
    exact ⟨now, by rw [← Option.isSome_map (f := NearLockView.ofLock rt), ← hRow]; rfl⟩

/-- A write is confirmed only where a final row shows it done. -/
theorem done_of_confirmWrite {prepared : NearRecoveredWrite N} {raw : Json}
    {evidence : NearWriteEvidence} (hKind : prepared.write.kind = kind.own)
    (h : confirmWrite rt rail run parts now prepared raw = .ok evidence) :
    ∃ moment, Done kind (chain.row parts (run.final moment)) := by
  unfold confirmWrite at h
  obtain ⟨-, -, h⟩ := bind_eq_ok.mp h
  obtain ⟨-, -, h⟩ := bind_eq_ok.mp h
  obtain ⟨found, -, h⟩ := bind_eq_ok.mp h
  obtain ⟨height, -, h⟩ := need_bind_eq_ok.mp h
  obtain ⟨lockView, hView, h⟩ := bind_eq_ok.mp h
  obtain rfl := ask_eq_ok hView
  rw [hKind] at h
  cases kind with
  | lock =>
    obtain ⟨terms, -, h⟩ := need_bind_eq_ok.mp h
    exact isSome_of_confirmLock h
  | refund =>
    obtain ⟨hStatus, -⟩ := require_bind_eq_ok.mp h
    obtain ⟨view, hFound, hRefunded⟩ := Option.map_eq_some_iff.mp hStatus
    obtain ⟨lock, hLock, rfl⟩ := Option.map_eq_some_iff.mp hFound
    exact ⟨now + 1, lock, hLock, asStr_eq_refunded.mp hRefunded⟩

/-- What is found by its hash as landed shows on the final chain; nothing is found as lost. -/
theorem hashVerdict_ok (hRecorded : Recorded rt rail run record parts fate)
    {verdict : LockRecoveryOutcome}
    (h : hashVerdict rt rail run now record = .ok (some verdict)) :
    verdict = .pending ∨ verdict = .landed ∧ OnFinalChain run record parts := by
  unfold hashVerdict at h
  split at h
  · rename_i evidence hFound
    obtain ⟨evidence, rfl, rfl⟩ := Option.map_eq_some_iff.mp (Except.ok.inj h)
    refine .inr ⟨rfl, ?_⟩
    unfold recoverByTxHash at hFound
    obtain ⟨parts', hParts, hFound⟩ := bind_eq_ok.mp hFound
    obtain rfl := Option.some.inj
      (hRecorded.ref.symm.trans (need_eq_ok.mp (mapError_eq_ok.mp hParts)))
    obtain ⟨chainId, -, hFound⟩ := bind_eq_ok.mp hFound
    obtain ⟨-, -, hFound⟩ := bind_eq_ok.mp hFound
    obtain ⟨reply, hReply, hFound⟩ := bind_eq_ok.mp hFound
    have hReply := ask_eq_ok hReply
    cases reply with
    | none => cases hFound
    | some raw =>
      obtain ⟨outcome, hOutcome, hFound⟩ := bind_eq_ok.mp hFound
      obtain ⟨write, hWrite, hFound⟩ := bind_eq_ok.mp hFound
      obtain ⟨evidence', hEvidence, -⟩ := bind_eq_ok.mp hFound
      -- what the node reports is the recorded transaction, so the write is of its kind
      obtain ⟨tx, hReports, hKinds⟩ := hRecorded.reports
      obtain ⟨body, hDecoded, hForm⟩ := (hReports _ _ hReply.symm).outcome
      obtain rfl := Except.ok.inj ((mapError_eq_ok.mp hOutcome).symm.trans hDecoded)
      obtain ⟨body', call, args, hBody, -, -, -, -, -, hCall, hClassified⟩ :=
        classifyOwnWrite_eq_ok.mp (mapError_eq_ok.mp hWrite)
      obtain rfl := Option.some.inj hBody
      have hKind := hKinds write (isWrite_of_classifyCall hForm hCall hClassified)
      exact done_of_confirmWrite hKind hEvidence
  · exact .inl (Option.some.inj (Except.ok.inj h)).symm
  · cases h

/-- The hash gives no verdict only where the node does not know the transaction. -/
theorem unknown_of_hashVerdict (h : hashVerdict rt rail run now record = .ok none) :
    run.txStatus (now + 1) record.txHash = none := by
  unfold hashVerdict at h
  split at h
  · rename_i evidence hFound
    obtain rfl := Option.map_eq_none_iff.mp (Except.ok.inj h)
    unfold recoverByTxHash at hFound
    obtain ⟨parts', -, hFound⟩ := bind_eq_ok.mp hFound
    obtain ⟨chainId, -, hFound⟩ := bind_eq_ok.mp hFound
    obtain ⟨-, -, hFound⟩ := bind_eq_ok.mp hFound
    obtain ⟨reply, hReply, hFound⟩ := bind_eq_ok.mp hFound
    cases reply with
    | none => exact (ask_eq_ok hReply).symm
    | some raw =>
      obtain ⟨outcome, -, hFound⟩ := bind_eq_ok.mp hFound
      obtain ⟨write, -, hFound⟩ := bind_eq_ok.mp hFound
      obtain ⟨evidence, -, hFound⟩ := bind_eq_ok.mp hFound
      cases hFound
  · cases h
  · cases h

/-! ## A row that has settled -/

/-- A settled row is one of the final chain, past the height that was waited for. By induction on
the sleeps that are left. -/
theorem readLockSettledPolls_ok {target polls : Nat} {settled : NearSettled N}
    (h : readLockSettledPolls rt run parts target polls now = .ok settled)
    (hSettled : settled.settled = true) : ∃ moment, target ≤ run.final moment ∧
      settled.lock = (chain.row parts (run.final moment)).map (NearLockView.ofLock rt) := by
  induction polls generalizing now with
  | zero =>
    rw [readLockSettledPolls] at h
    obtain ⟨head, hHead, h⟩ := bind_eq_ok.mp h
    obtain rfl := ask_eq_ok hHead
    split at h
    · rename_i hReached
      obtain ⟨lock, hLock, h⟩ := bind_eq_ok.mp h
      obtain rfl := Except.ok.inj h
      exact ⟨now, hReached, ask_eq_ok hLock⟩
    · obtain rfl := Except.ok.inj h
      cases hSettled
  | succ polls ih =>
    rw [readLockSettledPolls] at h
    obtain ⟨head, hHead, h⟩ := bind_eq_ok.mp h
    obtain rfl := ask_eq_ok hHead
    split at h
    · rename_i hReached
      obtain ⟨lock, hLock, h⟩ := bind_eq_ok.mp h
      obtain rfl := Except.ok.inj h
      exact ⟨now, hReached, ask_eq_ok hLock⟩
    · exact ih h

/-- Where the effect of what is included so far must show by now and does not, there is none. -/
theorem effect_eq_none (hRecorded : Recorded rt rail run record parts fate) {observed height : Nat}
    (hIncluded : ∀ included ∈ fate.included, included ≤ observed)
    (hHeight : observed + NEAR_RECEIPT_SETTLE_BLOCKS ≤ height)
    (hRow : ¬ Shows record.kind (chain.row parts height)) : fate.effect = none := by
  cases hEffect : fate.effect with
  | none => rfl
  | some shown =>
    obtain ⟨hTakes, included, hMem, hLe⟩ := hRecorded.takes shown hEffect
    have hBefore := hIncluded included hMem
    exact absurd (hTakes.shows (by omega)) hRow

/-- Once the window has closed, the final row decides the write. -/
theorem settledVerdict_sound (hRecorded : Recorded rt rail run record parts fate) {observed : Nat}
    (hIncluded : ∀ included ∈ fate.included, included ≤ observed) {outcome : LockRecoveryOutcome}
    (h : settledVerdict rt run now record observed = .ok outcome) :
    (outcome = .neverLanded → fate.effect = none) ∧
      (outcome = .landed → OnFinalChain run record parts) := by
  unfold settledVerdict readLockSettled at h
  obtain ⟨settled, hSettled, h⟩ := bind_eq_ok.mp h
  obtain ⟨parts', hParts, hSettled⟩ := bind_eq_ok.mp hSettled
  obtain rfl := Option.some.inj
    (hRecorded.ref.symm.trans (need_eq_ok.mp (mapError_eq_ok.mp hParts)))
  split at h
  · obtain rfl := Except.ok.inj h
    exact ⟨nofun, nofun⟩
  · rename_i hReached
    obtain ⟨moment, hHeight, hRow⟩ :=
      readLockSettledPolls_ok hSettled (Bool.not_eq_false _ ▸ hReached)
    obtain rfl := Except.ok.inj h
    rw [hRow]
    -- no verdict of the settled row: the effect had to show by its height
    cases hVerdict : rowVerdict
        ((chain.row parts (run.final moment)).map (NearLockView.ofLock rt)) record.kind with
    | none =>
      exact ⟨fun _ => effect_eq_none hRecorded hIncluded hHeight (not_shows_of_rowVerdict hVerdict),
        nofun⟩
    | some verdict =>
      refine ⟨fun hNever => ?_, fun hLanded => ?_⟩
      · obtain rfl : verdict = .neverLanded := hNever
        exact absurd hVerdict (rowVerdict_ne _).1
      · obtain rfl : verdict = .landed := hLanded
        exact ⟨moment, done_of_rowVerdict hVerdict⟩

/-- Once the window has closed, the verdict is not `unknown`. -/
theorem settledVerdict_ne_unknown {observed : Nat} :
    settledVerdict rt run now record observed ≠ .ok .unknown := by
  intro h
  unfold settledVerdict at h
  obtain ⟨settled, -, h⟩ := bind_eq_ok.mp h
  split at h
  · cases h
  · have hVerdict := Except.ok.inj h
    cases hRow : rowVerdict settled.lock record.kind with
    | none =>
      rw [hRow] at hVerdict
      cases hVerdict
    | some verdict =>
      rw [hRow] at hVerdict
      obtain rfl : verdict = .unknown := hVerdict
      exact (rowVerdict_ne settled.lock).2 hRow

/-- A nonce that is spent at a height is that of no later block. -/
theorem included_le_of_nonce (hRecorded : Recorded rt rail run record parts fate) {height : Nat}
    (hNonce : record.nonce ≤ chain.nonce height) :
    ∀ included ∈ fate.included, included ≤ height := by
  intro included hMem
  by_contra hLater
  have hAdmits := (hRecorded.admitted included hMem).2 height (by omega)
  omega

/-! ## The reads -/

/-- The ways that `readWrite` ends. -/
theorem readWrite_ok {outcome : LockRecoveryOutcome}
    (hRecorded : Recorded rt rail run record parts fate)
    (h : readWrite rt rail run now record = .ok outcome) :
    outcome = .pending ∨ (outcome = .landed ∧ OnFinalChain run record parts) ∨
    (outcome = .unknown ∧ chain.nonce (run.final now) < record.nonce ∧
      run.txStatus (now + 2) record.txHash = none ∧
      ¬ Shows record.kind (chain.row parts (run.final (now + 6)))) ∨
    (record.nonce ≤ chain.nonce (run.final now) ∧
      settledVerdict rt run (now + 7) record (run.final now) = .ok outcome) := by
  unfold readWrite at h
  obtain ⟨key, hKey, h⟩ := bind_eq_ok.mp h
  obtain rfl := ask_eq_ok hKey
  obtain ⟨found, hFound, h⟩ := bind_eq_ok.mp h
  -- the verdict of the transaction itself
  cases found with
  | some verdict =>
    obtain rfl := Except.ok.inj h
    rcases hashVerdict_ok hRecorded hFound with hPending | hLanded
    · exact .inl hPending
    · exact .inr (.inl hLanded)
  | none =>
    -- without one, that of the row
    obtain ⟨row, hRow, h⟩ := bind_eq_ok.mp h
    obtain rfl := readLock_ok hRecorded.ref hRow
    cases hVerdict : rowVerdict
        ((chain.row parts (run.final (now + 6))).map (NearLockView.ofLock rt)) record.kind with
    | some verdict =>
      rw [hVerdict] at h
      obtain rfl := Except.ok.inj h
      cases verdict with
      | pending => exact .inl rfl
      | landed => exact .inr (.inl ⟨rfl, now + 6, done_of_rowVerdict hVerdict⟩)
      | neverLanded => exact absurd hVerdict (rowVerdict_ne _).1
      | unknown => exact absurd hVerdict (rowVerdict_ne _).2
    | none =>
      -- without either, the nonce tells whether the write may still come
      rw [hVerdict] at h
      dsimp only at h
      split at h
      · rename_i hAdmits
        exact .inr (.inr (.inl ⟨(Except.ok.inj h).symm, hAdmits, unknown_of_hashVerdict hFound,
          not_shows_of_rowVerdict hVerdict⟩))
      · rename_i hSpent
        exact .inr (.inr (.inr ⟨not_lt.mp hSpent, h⟩))

/-- The read without a resend is sound. -/
theorem readWrite_sound (hRecorded : Recorded rt rail run record parts fate)
    {outcome : LockRecoveryOutcome} (h : readWrite rt rail run now record = .ok outcome) :
    (outcome = .neverLanded → NeverTakesEffect run record parts fate) ∧
      (outcome = .landed → OnFinalChain run record parts) := by
  rcases readWrite_ok hRecorded h with rfl | ⟨rfl, hShown⟩ | ⟨rfl, -⟩ | ⟨hNonce, hSettled⟩
  · exact ⟨nofun, nofun⟩
  · exact ⟨nofun, fun _ => hShown⟩
  · exact ⟨nofun, nofun⟩
  · obtain ⟨hNever, hLanded⟩ :=
      settledVerdict_sound hRecorded (included_le_of_nonce hRecorded hNonce) hSettled
    exact ⟨fun hOutcome => ⟨.nonce now (hNonce.trans (chain.nonce_mono (run.final_le now))),
      hNever hOutcome⟩, hLanded⟩

/-! ## The send -/

/-- A refund that finds its row on the way to a claim does nothing: the secret is out, and the
contract makes no refund from then on. -/
theorem neverTakesEffect_of_moved (hRecorded : Recorded rt rail run record parts fate)
    (hKind : record.kind = .refund) {moment : Nat}
    (hStatus : ((chain.row parts (run.final moment)).map (NearLockView.ofLock rt)).map
      NearLockView.status ≠ some "Locked")
    (hNoRefund : ¬ ShowsRefund (chain.row parts (run.final moment))) :
    NeverTakesEffect run record parts fate := by
  obtain ⟨first, hFirst⟩ := Option.isSome_iff_exists.mp (hRecorded.locked hKind)
  obtain ⟨lock, hLock, -⟩ := NearChain.row_later (run.final_mono (Nat.zero_le moment)) hFirst
  -- neither locked nor refunded, so on the way to a claim
  have hClaim : lock.status = .claiming ∨ lock.status = .claimed := by
    cases hIs : lock.status with
    | locked => exact absurd (by rw [hLock]; simp [hIs]) hStatus
    | claiming => exact .inl rfl
    | claimed => exact .inr rfl
    | refunding => exact absurd ⟨lock, hLock, .inl hIs⟩ hNoRefund
    | refunded => exact absurd ⟨lock, hLock, .inr hIs⟩ hNoRefund
  have hRevealed := revealed_of_claim hLock hClaim
  refine ⟨.revealed moment lock hKind hLock hRevealed, ?_⟩
  cases hEffect : fate.effect with
  | none => rfl
  | some shown =>
    have hTakes := (hRecorded.takes shown hEffect).1
    rw [hKind] at hTakes
    -- at the later of the two heights the lock is both revealed and refunded
    obtain ⟨lock', hLock', hLater⟩ :=
      NearChain.row_later (le_max_right shown (run.final moment)) hLock
    exact absurd (hTakes _ (le_max_left shown (run.final moment)))
      (not_showsRefund_of_revealed hLock' (hLater.revealed hRevealed))

/-- What is judged before a resend is sound, unless the lock slips in between the two reads. -/
theorem beforeResend_sound (hRecorded : Recorded rt rail run record parts fate)
    (hSlips : ¬ SlipsIn run record parts now) {outcome : LockRecoveryOutcome}
    (h : beforeResend rt rail run now record = .ok (some outcome)) :
    (outcome = .neverLanded → NeverTakesEffect run record parts fate) ∧
      (outcome = .landed → OnFinalChain run record parts) := by
  unfold beforeResend at h
  obtain ⟨read, hRead, h⟩ := bind_eq_ok.mp h
  split at h
  · obtain rfl := Option.some.inj (Except.ok.inj h)
    exact readWrite_sound hRecorded hRead
  · rename_i hUnknown
    obtain rfl := not_not.mp hUnknown
    cases hKind : record.kind with
    | lock =>
      rw [hKind] at h
      cases h
    | refund =>
      rw [hKind] at h
      obtain ⟨row, hRow, h⟩ := bind_eq_ok.mp h
      have hAnswered := fails_of_ask (readLock_ask hRecorded.ref hRow)
      obtain rfl := readLock_ok hRecorded.ref hRow
      split at h
      · cases h
      · rename_i hStatus
        obtain rfl := Option.some.inj (Except.ok.inj h)
        refine ⟨fun _ => neverTakesEffect_of_moved hRecorded hKind hStatus fun hShows => ?_, nofun⟩
        -- `readWrite` says unknown in one way only, and then the refund has slipped in
        rcases readWrite_ok hRecorded hRead with h | ⟨h, -⟩ | ⟨-, hAdmits, hHash, hRow⟩ | ⟨-, h⟩
        · cases h
        · cases h
        · rw [hKind] at hRow
          exact hSlips ⟨hKind, hAdmits, hHash, hRow, hAnswered, hShows⟩
        · exact settledVerdict_ne_unknown h

/-- What is judged after a resend is sound. -/
theorem afterResend_sound (hRecorded : Recorded rt rail run record parts fate)
    {outcome : LockRecoveryOutcome}
    (h : afterResend rt rail run now record (run.sendTx (now + 9) record.signedTxBase64) =
      .ok outcome) :
    (outcome = .neverLanded → NeverTakesEffect run record parts fate) ∧
      (outcome = .landed → OnFinalChain run record parts) := by
  have hHead : run.head (now + 9) ≤ run.head (now + 15) := run.head_mono (by omega)
  unfold afterResend at h
  split at h
  · obtain rfl := Except.ok.inj h
    exact ⟨nofun, nofun⟩
  · rename_i hReached
    obtain ⟨found, hFound, h⟩ := bind_eq_ok.mp h
    cases found with
    | some verdict =>
      obtain rfl := Except.ok.inj h
      rcases hashVerdict_ok hRecorded hFound with rfl | ⟨rfl, hShown⟩
      · exact ⟨nofun, nofun⟩
      · exact ⟨nofun, fun _ => hShown⟩
    | none =>
      dsimp only at h
      split at h
      · obtain rfl := Except.ok.inj h
        exact ⟨nofun, nofun⟩
      · rename_i hNotSent
        obtain ⟨height, hHeight, h⟩ := bind_eq_ok.mp h
        obtain rfl := ask_eq_ok hHeight
        -- the node's answer names what is spent, and bounds the block that can include it
        have hSpent : Spent run record parts fate ∧
            ∀ included ∈ fate.included, included ≤ run.head (now + 15) := by
          cases hAnswer : run.sendTx (now + 9) record.signedTxBase64 with
          | sent => exact absurd hAnswer hNotSent
          | unreachable => exact absurd hAnswer hReached
          | expired =>
            have hExpired := hRecorded.expired (now + 9) hAnswer
            exact ⟨.blockHash (now + 9) hExpired, fun included hMem =>
              ((hRecorded.admitted included hMem).1.trans hExpired).trans hHead⟩
          | invalidNonce =>
            have hConsumed := hRecorded.consumed (now + 9) hAnswer
            exact ⟨.nonce (now + 9) hConsumed, fun included hMem =>
              (included_le_of_nonce hRecorded hConsumed included hMem).trans hHead⟩
        obtain ⟨hNever, hLanded⟩ := settledVerdict_sound hRecorded hSpent.2 h
        exact ⟨fun hOutcome => ⟨hSpent.1, hNever hOutcome⟩, hLanded⟩

/-- Where a refund slips in and every read is answered, a resend says that it never landed. -/
theorem resendWrite_of_slipsIn (hRef : parseNearRef record.ref = some parts)
    (hAnswers : ∀ moment, run.fails moment = none)
    (hPinned : rail.assertPinnedChain (.ok (run.chainId (now + 1))) = .ok ())
    (hSlips : SlipsIn run record parts now) :
    resendWrite rt rail run now record = ⟨[], .ok .neverLanded⟩ := by
  have hAsk {α : Type} (moment : Nat) (answer : α) : run.ask moment answer = .ok answer := by
    rw [NearNodeRun.ask, hAnswers]
  have hParts : plain (requireNearRef record.ref) = .ok parts :=
    mapError_eq_ok.mpr (need_eq_ok.mpr hRef)
  have hRow (moment : Nat) : readLock rt run moment record.ref =
      .ok ((chain.row parts (run.final moment)).map (NearLockView.ofLock rt)) :=
    bind_eq_ok.mpr ⟨parts, hParts, hAsk _ _⟩
  have hHash : hashVerdict rt rail run (now + 1) record = .ok none := by
    have hFound : recoverByTxHash rt rail run (now + 1) record.txHash rail.signer.accountId
        record.ref = .ok none :=
      bind_eq_ok.mpr ⟨parts, hParts, bind_eq_ok.mpr ⟨_, hAsk _ _, bind_eq_ok.mpr ⟨(),
        mapError_eq_ok.mpr hPinned, bind_eq_ok.mpr ⟨_, hAsk _ _, by rw [hSlips.unknown]; rfl⟩⟩⟩⟩
    rw [hashVerdict, hFound]
    rfl
  -- the first read of the row gives no verdict
  have hVerdict : rowVerdict ((chain.row parts (run.final (now + 6))).map
      (NearLockView.ofLock rt)) record.kind = none := by
    rw [hSlips.kind]
    cases hLock : chain.row parts (run.final (now + 6)) with
    | none => rfl
    | some lock =>
      have hBefore := hSlips.before
      rw [hLock] at hBefore
      simp only [rowVerdict, Option.map_some, NearLockView.status_ofLock, asStr_eq_refunded,
        asStr_eq_refunding]
      rw [if_neg fun h => hBefore ⟨lock, rfl, .inr h⟩, if_neg fun h => hBefore ⟨lock, rfl, .inl h⟩]
  have hRead : readWrite rt rail run now record = .ok .unknown := by
    refine bind_eq_ok.mpr ⟨_, hAsk _ _, bind_eq_ok.mpr ⟨_, hHash, bind_eq_ok.mpr ⟨_, hRow _, ?_⟩⟩⟩
    rw [hVerdict]
    exact if_pos hSlips.admits
  -- the second one finds a row that is not locked
  have hBefore : beforeResend rt rail run now record = .ok (some .neverLanded) := by
    refine bind_eq_ok.mpr ⟨_, hRead, ?_⟩
    rw [if_neg (not_not.mpr rfl), hSlips.kind]
    refine bind_eq_ok.mpr ⟨_, hRow _, if_neg fun hLocked => ?_⟩
    obtain ⟨lock, hLock, hStatus⟩ := hSlips.after
    rw [hLock] at hLocked
    have hIs := asStr_eq_locked.mp (Option.some.inj hLocked)
    rw [hIs] at hStatus
    exact hStatus.elim nofun nofun
  rw [resendWrite, hBefore]

end

/-! ## A refund that slips in -/

namespace SlipSample

open SwapDesk.Near.Sample (host start lockMsg alice usdc)

def locking : List SwapDesk.Near.Event :=
  [⟨10, .transferCall alice 5 lockMsg⟩, ⟨11, .deliver 0 true 100 (10 ^ 24)⟩,
    ⟨12, .resolveTransfer 0⟩]

def refunds : List SwapDesk.Near.Event := [⟨3000, .refund alice SwapDesk.Near.Sample.hashLock⟩]

def paysOut : List SwapDesk.Near.Event := [⟨3001, .transfer 0 true⟩, ⟨3002, .callback 0⟩]

def after (s : SwapDesk.Near.State) (events : List SwapDesk.Near.Event) : SwapDesk.Near.State :=
  (Machine.run (SwapDesk.Near.State.step host) s events).getD s

def locked : SwapDesk.Near.State := after start locking
def refunding : SwapDesk.Near.State := after locked refunds
def refunded : SwapDesk.Near.State := after refunding paysOut

def statusIn (s : SwapDesk.Near.State) : Option SwapDesk.Near.LockStatus :=
  (s.lock? alice SwapDesk.Near.Sample.hashLock).map SwapDesk.Near.Lock.status

/-- The sample's runs of the contract go through and end in the statuses named. -/
theorem runs : (Machine.run (SwapDesk.Near.State.step host) start locking).isSome ∧
    (Machine.run (SwapDesk.Near.State.step host) locked refunds).isSome ∧
      (Machine.run (SwapDesk.Near.State.step host) refunding paysOut).isSome ∧
        statusIn locked = some .locked ∧ statusIn refunding = some .refunding ∧
          statusIn refunded = some .refunded := by
  decide +kernel

/-- A run that goes through leads to the state it ends in. -/
theorem leads_after {s : SwapDesk.Near.State} {events : List SwapDesk.Near.Event}
    (h : (Machine.run (SwapDesk.Near.State.step host) s events).isSome) :
    (SwapDesk.Near.system host usdc).Leads s events (after s events) := by
  obtain ⟨s', hRun⟩ := Option.isSome_iff_exists.mp h
  rw [after, hRun]
  exact Machine.leads_of_run hRun

/-- The sample starts initial. -/
theorem initial : SwapDesk.Near.Initial usdc start := ⟨rfl, rfl, rfl, rfl, rfl⟩

/-- The locked state is reached. -/
theorem reachable_locked : (SwapDesk.Near.system host usdc).Reachable locked :=
  ⟨start, locking, initial, leads_after runs.1⟩

/-- The refund runs in block 3, and its payout is in by block 5. -/
def contractAt (height : Nat) : SwapDesk.Near.State :=
  if height < 3 then locked else if height < 5 then refunding else refunded

/-- Below height 3 the lock is open. -/
theorem contractAt_locked {height : Nat} (h : height < 3) : contractAt height = locked :=
  if_pos h

/-- From height 3 the refund is on its way. -/
theorem contractAt_refunding {height : Nat} (h : 3 ≤ height) (h' : height < 5) :
    contractAt height = refunding :=
  (if_neg (not_lt.mpr h)).trans (if_pos h')

/-- From height 5 the refund has gone out. -/
theorem contractAt_refunded {height : Nat} (h : 5 ≤ height) : contractAt height = refunded :=
  (if_neg (by omega)).trans (if_neg (not_lt.mpr h))

/-- Each height leads to the next. -/
theorem contractAt_goesOn (height : Nat) : ∃ events, (SwapDesk.Near.system host usdc).Leads
    (contractAt height) events (contractAt (height + 1)) := by
  rcases lt_trichotomy height 2 with h | rfl | h
  · rw [contractAt_locked (by omega), contractAt_locked (by omega)]
    exact ⟨[], .nil _⟩
  · exact ⟨refunds, leads_after runs.2.1⟩
  · rcases lt_trichotomy height 4 with h' | rfl | h'
    · rw [contractAt_refunding (by omega) (by omega), contractAt_refunding (by omega) (by omega)]
      exact ⟨[], .nil _⟩
    · exact ⟨paysOut, leads_after runs.2.2.1⟩
    · rw [contractAt_refunded (by omega), contractAt_refunded (by omega)]
      exact ⟨[], .nil _⟩

def chain : NearChain where
  host := host
  usdcToken := usdc
  contract := contractAt
  nonce height := if height < 2 then 4 else 5
  deployed := reachable_locked
  goesOn := contractAt_goesOn
  nonce_mono height later h := by
    dsimp only
    split <;> split <;> omega

/-- The final block moves from before the refund to after its payout at moment 7. -/
def run : NearNodeRun chain where
  final now := if now < 7 then 1 else 5
  head now := if now < 7 then 3 else 7
  fails _ := none
  chainId _ := "testnet"
  txStatus _ _ := none
  blockHeight _ := none
  sendTx _ _ := .unreachable
  final_mono earlier later h := by
    dsimp only
    split <;> split <;> omega
  head_mono earlier later h := by
    dsimp only
    split <;> split <;> omega
  final_le now := by split <;> omega

def parts : NearRef := ⟨"0x" ++ SwapDesk.Near.Sample.hashLock, "alice.testnet"⟩

def record : NearRecord where
  ref := "0x66687aadf862bd776c8fc18b8e9f8e20089714856ee233b3902a591d0d5f2925:alice.testnet"
  txHash := "hash"
  signedTxBase64 := "bytes"
  nonce := 5
  kind := .refund

/-- The refund that was recorded. -/
def transaction : NearTransactionV0 where
  signerId := textOf Sample.accountId
  publicKey := ⟨List.replicate 32 0⟩
  nonce := 5
  receiverId := textOf Sample.contract
  blockHash := List.replicate 32 9
  actions := [functionCall "refund" [("hash_lock", sliceFrom parts.hashLock 2)] CLAIM_REFUND_GAS 0]

def fate : NearFate := ⟨1000, some 2, some 3⟩

/-- The sample's ref parses. -/
theorem parsed : parseNearRef record.ref = some parts := by
  decide

/-- The row of the sample chain is the contract's lock. -/
theorem row_eq (height : Nat) :
    chain.row parts height = (contractAt height).lock? alice SwapDesk.Near.Sample.hashLock := by
  have hPayer : payerAccount parts = some alice := by decide
  have hHash : sliceFrom parts.hashLock 2 = SwapDesk.Near.Sample.hashLock := by decide
  rw [NearChain.row, hPayer, hHash]
  rfl

/-- The refund shows from height 3 on. -/
theorem showsRefund_iff {height : Nat} : ShowsRefund (chain.row parts height) ↔ 3 ≤ height := by
  obtain ⟨-, -, -, hLocked, hRefunding, hRefunded⟩ := runs
  rw [row_eq]
  constructor
  · rintro ⟨lock, hLock, hStatus⟩
    by_contra hLow
    rw [contractAt_locked (not_le.mp hLow)] at hLock
    obtain ⟨lock', hLock', hIs⟩ := Option.map_eq_some_iff.mp hLocked
    obtain rfl := Option.some.inj (hLock.symm.trans hLock')
    rw [hIs] at hStatus
    exact hStatus.elim nofun nofun
  · intro hLow
    rcases Nat.lt_or_ge height 5 with hHigh | hHigh
    · obtain ⟨lock, hLock, hStatus⟩ := Option.map_eq_some_iff.mp hRefunding
      exact ⟨lock, (contractAt_refunding hLow hHigh) ▸ hLock, .inl hStatus⟩
    · obtain ⟨lock, hLock, hStatus⟩ := Option.map_eq_some_iff.mp hRefunded
      exact ⟨lock, (contractAt_refunded hHigh) ▸ hLock, .inr hStatus⟩

/-- The sample's transaction is a refund. -/
theorem isRefund {write : OwnWrite Nat}
    (h : IsWrite Sample.rt Sample.rail parts transaction write) : write.kind = .refund := by
  unfold IsWrite at h
  cases hKind : write.kind with
  | refund => rfl
  | lock =>
    rw [hKind] at h
    obtain ⟨-, terms, msgText, msg, claimByMs, refundAfterMs, -, -, -, -, hCalls, -⟩ := h
    exact absurd (textOf_inj hCalls.1) (by decide)
  | claim =>
    rw [hKind] at h
    obtain ⟨-, preimage, -, args, gas, decoded, hActions, -⟩ := h
    injection hActions with hAction
    injection hAction with hMethod
    exact absurd (textOf_inj hMethod) (by decide)

/-- The sample's record describes its refund. -/
theorem recorded : Recorded Sample.rt Sample.rail run record parts fate where
  ref := parsed
  reports := ⟨transaction, nofun, fun _ h => isRefund h⟩
  admitted := by
    intro height hMem
    obtain rfl := Option.some.inj hMem
    refine ⟨by decide, fun earlier hEarlier => ?_⟩
    show (if earlier < 2 then 4 else 5) < 5
    rw [if_pos hEarlier]
    omega
  takes := by
    intro height hMem
    obtain rfl := Option.some.inj hMem
    exact ⟨fun later hLater => showsRefund_iff.mpr hLater, 2, rfl, by decide⟩
  expired := nofun
  consumed := nofun
  locked := by
    intro _
    obtain ⟨-, -, -, hLocked, -⟩ := runs
    obtain ⟨lock, hLock, -⟩ := Option.map_eq_some_iff.mp hLocked
    rw [row_eq]
    exact Option.isSome_iff_exists.mpr ⟨lock, hLock⟩

/-- The refund of the sample lands between the two reads. -/
theorem slipsIn : SlipsIn run record parts 0 where
  kind := rfl
  admits := by decide
  unknown := rfl
  before := fun h => absurd (showsRefund_iff.mp h) (by decide)
  answered := rfl
  after := showsRefund_iff.mpr (by decide)

/-- The sample's node is on the pinned chain. -/
theorem pinned : Sample.rail.assertPinnedChain (.ok "testnet") = .ok () := by
  decide

end SlipSample

/-- A refund that is final at the second read of its row, and that its resend calls lost. -/
theorem resendWrite_losesRefund :
    Recorded Sample.rt Sample.rail SlipSample.run SlipSample.record SlipSample.parts
      SlipSample.fate ∧
    resendWrite Sample.rt Sample.rail SlipSample.run 0 SlipSample.record =
      ⟨[], .ok .neverLanded⟩ ∧
    OnFinalChain SlipSample.run SlipSample.record SlipSample.parts ∧
    ¬ NeverTakesEffect SlipSample.run SlipSample.record SlipSample.parts SlipSample.fate := by
  refine ⟨SlipSample.recorded, resendWrite_of_slipsIn SlipSample.parsed (fun _ => rfl)
    SlipSample.pinned SlipSample.slipsIn, ⟨7, ?_⟩, fun h => nomatch h.absent⟩
  obtain ⟨-, -, -, -, -, hRefunded⟩ := SlipSample.runs
  obtain ⟨lock, hLock, hStatus⟩ := Option.map_eq_some_iff.mp hRefunded
  exact ⟨lock, (SlipSample.row_eq 5).trans hLock, hStatus⟩

/-! ## Soundness -/

/-- What the verdicts on a recorded write say, and what a resend of it sends. -/
structure VerdictsSound {N : Type} (rt : NearRuntime N) (rail : NearHtlcRail) {chain : NearChain}
    (run : NearNodeRun chain) (record : NearRecord) (parts : NearRef) (fate : NearFate)
    (now : Nat) : Prop where
  read_neverLanded : readWrite rt rail run now record = .ok .neverLanded →
    NeverTakesEffect run record parts fate
  read_landed : readWrite rt rail run now record = .ok .landed → OnFinalChain run record parts
  resend_neverLanded : (resendWrite rt rail run now record).outcome = .ok .neverLanded →
    NeverTakesEffect run record parts fate
  resend_landed : (resendWrite rt rail run now record).outcome = .ok .landed →
    OnFinalChain run record parts
  transmitted : ∀ bytes ∈ (resendWrite rt rail run now record).transmitted,
    bytes = record.signedTxBase64

/-- The verdicts on a recorded write are so, over every run of the node and whatever the chain does
between the reads, but where a refund slips in between two reads of its row. -/
theorem recovery_verdicts_sound {N : Type} {rt : NearRuntime N} {rail : NearHtlcRail}
    {chain : NearChain} {run : NearNodeRun chain} {record : NearRecord} {parts : NearRef}
    {fate : NearFate} (hRecorded : Recorded rt rail run record parts fate) {now : Nat}
    (hSlips : ¬ SlipsIn run record parts now) :
    VerdictsSound rt rail run record parts fate now := by
  have hResend {outcome : LockRecoveryOutcome}
      (h : (resendWrite rt rail run now record).outcome = .ok outcome) :
      (outcome = .neverLanded → NeverTakesEffect run record parts fate) ∧
        (outcome = .landed → OnFinalChain run record parts) := by
    unfold resendWrite at h
    split at h
    · cases h
    · rename_i verdict hBefore
      obtain rfl := Except.ok.inj h
      exact beforeResend_sound hRecorded hSlips hBefore
    · split at h
      · cases h
      · exact afterResend_sound hRecorded h
  refine ⟨fun h => (readWrite_sound hRecorded h).1 rfl,
    fun h => (readWrite_sound hRecorded h).2 rfl, fun h => (hResend h).1 rfl,
    fun h => (hResend h).2 rfl, fun bytes hBytes => ?_⟩
  -- only the last branch sends, and it sends what was recorded
  unfold resendWrite at hBytes
  split at hBytes
  · cases hBytes
  · cases hBytes
  · split at hBytes
    · cases hBytes
    · exact List.mem_singleton.mp hBytes

/-- Once the refund is final the verdicts on it are so. -/
theorem recovery_verdicts_sound_sample : VerdictsSound Sample.rt Sample.rail SlipSample.run
    SlipSample.record SlipSample.parts SlipSample.fate 8 :=
  recovery_verdicts_sound SlipSample.recorded fun h => absurd h.admits (by decide)

end SwapDesk.Rails.NearHtlc
