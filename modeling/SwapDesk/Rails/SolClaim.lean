import Mathlib.Data.Rat.Floor
import SwapDesk.Lib.Routine
import SwapDesk.Rails.SolEvidence

/-!
# SwapDesk — claiming a Solana lock

`SolHtlcRail.claim` of `src/rails/sol-htlc.ts`, up to the point where the claim is handed
to the network. The rail reads the chain and its clock in between, and any time may pass
before each answer, so that the claim is a program that performs operations.

`compileLegacyMessage` writes a message as bytes; here a transaction keeps the message
itself. What `sendPrepared` does after the send, up to finality, is one operation, and so
is a read at finalized that is repeated until the node has reached a slot.

Main result: `claim_never_late` in `SwapDesk.Rails.SolLanding`.
-/

namespace SwapDesk.Rails.Sol

open Check Desk

/-! ## Constants -/

/-- A blockhash is valid for this many blocks after the one it names. -/
def SOL_BLOCKHASH_VALIDITY_BLOCKS : Nat := 150

def SOL_SLOW_BLOCK_MS : ℚ := 600

def SOL_EXPIRY_MARGIN_MS : ℚ := 30000

def SOL_CLAIM_LANDING_MARGIN_MS : ℚ :=
  SOL_BLOCKHASH_VALIDITY_BLOCKS * SOL_SLOW_BLOCK_MS + SOL_EXPIRY_MARGIN_MS

def SOL_LAST_VALID_HEIGHT_CLAMP_BLOCKS : Nat := SOL_BLOCKHASH_VALIDITY_BLOCKS + 1

def SOL_CLAIM_COMPUTE_UNIT_LIMIT : Nat := 120000

def SOL_PRIORITY_FEE_FLOOR_MICRO_LAMPORTS : Nat := 1000
def SOL_PRIORITY_FEE_CAP_MICRO_LAMPORTS : Nat := 1000000
def SOL_PRIORITY_FEE_MAX_RAISES : Nat := 10

def COMPUTE_BUDGET_PROGRAM_ID : String := "ComputeBudget111111111111111111111111111111"

/-! ## Transactions -/

structure AccountMeta where
  pubkey : List UInt8
  isSigner : Bool
  isWritable : Bool
deriving DecidableEq, Repr

structure SolInstruction where
  programId : List UInt8
  accounts : List AccountMeta
  data : List UInt8
deriving DecidableEq, Repr

structure SolMessage where
  feePayer : List UInt8
  recentBlockhash : List UInt8
  instructions : List SolInstruction
deriving DecidableEq, Repr

structure SolTransaction where
  message : SolMessage
  /-- The transaction id: the first signature. -/
  signature : String
deriving DecidableEq, Repr

inductive SolWriteKind where
  | lock
  | claim
  | refund
deriving DecidableEq, Repr

/-- What a caller records before anything is sent. -/
structure SolPreparedRecord where
  kind : SolWriteKind
  ref : String
  signature : String
  blockhash : String
  lastValidBlockHeight : Nat
  signedSlot : Option Nat
deriving DecidableEq, Repr

def u32le (n : Nat) : List UInt8 := Bytes.toLe 4 n
def u64le (n : Nat) : List UInt8 := Bytes.toLe 8 n

def claimInstructionData (preimage : List UInt8) : Except String (List UInt8) := do
  require (preimage.length = 32) "sol-htlc: preimage must be 32 bytes"
  return 1 :: preimage

def setComputeUnitLimit (units : Nat) : Except String SolInstruction := do
  return ⟨← pubkeyFromBase58 COMPUTE_BUDGET_PROGRAM_ID, [], 2 :: u32le units⟩

def setComputeUnitPrice (microLamports : Nat) : Except String SolInstruction := do
  return ⟨← pubkeyFromBase58 COMPUTE_BUDGET_PROGRAM_ID, [], 3 :: u64le microLamports⟩

def createAssociatedTokenAccountIdempotent (rt : SolRuntime) (payer owner mint : List UInt8) :
    Except String SolInstruction := do
  let program ← pubkeyFromBase58 ASSOCIATED_TOKEN_PROGRAM_ID
  let account ← associatedTokenAddress rt owner mint
  let system ← pubkeyFromBase58 SYSTEM_PROGRAM_ID
  let token ← pubkeyFromBase58 TOKEN_PROGRAM_ID
  return ⟨program,
    [⟨payer, true, true⟩, ⟨account, false, true⟩, ⟨owner, false, false⟩, ⟨mint, false, false⟩,
      ⟨system, false, false⟩, ⟨token, false, false⟩], [1]⟩

/-! ## What the rail asks for -/

inductive SolPhase where
  | simulate
  | preflight
deriving DecidableEq, Repr

inductive SolError where
  | plain (message : String)
  /-- `SolClaimTooLateError` -/
  | tooLate (message : String)
  /-- `SolSimulationFailedError` -/
  | simulationFailed (phase : SolPhase) (message : String)
deriving DecidableEq, Repr

inductive SolCommitment where
  | processed
  | confirmed
  | finalized
deriving DecidableEq, Repr

structure LatestBlockhash where
  blockhash : String
  lastValidBlockHeight : Nat
  contextSlot : Nat
deriving DecidableEq, Repr

structure FinalizedRead where
  contextSlot : Nat
  accounts : List (Option WireAccount)
deriving DecidableEq, Repr

inductive SolOp where
  | getGenesisHash
  /-- `readFinalized` -/
  | readFinalized (keys : List String) (minContextSlot : Option Nat)
  /-- The finalized slot. -/
  | getSlot
  | getBlockTime (slot : Nat)
  | clock
  /-- Of a confirmed block. -/
  | getLatestBlockhash
  | getBlockHeight (commitment : SolCommitment)
  | getRecentPrioritizationFees (keys : List String)
  /-- The preimage that the named transaction carries, once it is final. -/
  | awaitPreimageFromSignature (ref signature : String)
  | sign (message : SolMessage)
  | onSigned (record : SolPreparedRecord)
  | onNotBroadcast (record : SolPreparedRecord)
  /-- Its answer is the error that the simulation ended with. -/
  | simulateTransaction (tx : SolTransaction)
  | sendTransaction (tx : SolTransaction)
  /-- `awaitFinalized` and `confirmWrite` -/
  | settle (record : SolPreparedRecord)
deriving DecidableEq, Repr

/-- What an operation answers, when it does not throw. -/
@[reducible] def SolOp.Value : SolOp → Type
  | .getGenesisHash => String
  | .readFinalized .. => FinalizedRead
  | .getSlot => Nat
  | .getBlockTime _ => Option Int
  | .clock => ℚ
  | .getLatestBlockhash => LatestBlockhash
  | .getBlockHeight _ => Nat
  | .getRecentPrioritizationFees _ => List ℚ
  | .awaitPreimageFromSignature .. => Option String
  | .sign _ => String
  | .onSigned _ => Unit
  | .onNotBroadcast _ => Unit
  | .simulateTransaction _ => Option String
  | .sendTransaction _ => String
  | .settle _ => Unit

abbrev SolOp.Answer (o : SolOp) : Type := Except SolError o.Value

abbrev SolRoutine := Routine SolOp.Answer SolError

/-- An operation that ends the program when it throws. -/
def ask (o : SolOp) : SolRoutine o.Value := (Routine.call o).bind Routine.ofExcept

def checked {α : Type} (x : Except String α) : SolRoutine α :=
  Routine.ofExcept (x.mapError .plain)

/-! ## The rail -/

structure SolHtlcRail where
  rt : SolRuntime
  config : SolRailConfig
  signerPublicKey : String
  slowBlockMs : ℚ
  expiryMarginMs : ℚ
  slowBlockMs_ge : 1 ≤ slowBlockMs
  expiryMarginMs_ge : 0 ≤ expiryMarginMs
  /-- The text of a number in a template literal. -/
  numberText : ℚ → String

structure SolClaimOptions where
  retryPublicSecret : Bool
  proofSignature : Option String
  priorityFeeAttempt : Nat
  onNotBroadcast : Bool
  onSigned : Bool
deriving DecidableEq, Repr

variable (rail : SolHtlcRail)

def assertPinnedChain : SolRoutine Unit := do
  let genesis ← ask .getGenesisHash
  checked (refute (solGenesisProblem rail.config.pin genesis) id)

def viewEscrow (account : Option WireAccount) (ref : SolRef) :
    Except String (Option SolEscrowView) :=
  match account with
  | none => .ok none
  | some account =>
    -- a system-owned account that was funded in advance is no escrow
    if account.owner ≠ rail.config.programId then .ok none
    else do
      let view ← decodeEscrow account.data
      require (view.hashLock = ref.hashLock ∧ view.payer = ref.payer)
        "sol-htlc: the escrow account's own payer/hash lock do not match its address"
      return some view

/-- The finalized slot's own block time. -/
def chainTimeMs : SolRoutine ℚ := do
  let slot : Nat ← ask .getSlot
  let blockTime ← ask (.getBlockTime slot)
  let seconds ← checked (need blockTime ("sol-htlc: no block time for finalized slot " ++
    rail.numberText slot ++ " - refusing to guess a chain-time deadline"))
  checked (require (isSafeInteger seconds = true ∧ 0 < seconds)
    ("sol-htlc: block time is not a positive integer - refusing to guess a chain-time deadline"))
  return seconds * 1000

/-- `Math.max(await this.chainTimeMs(), this.clock())` -/
def nowMs : SolRoutine ℚ := do
  let chainTime ← chainTimeMs rail
  let clock ← ask .clock
  return max chainTime clock

structure BlockhashPlan where
  blockhash : String
  lastValidBlockHeight : Nat
  finalizedHeight : Nat
  contextSlot : Nat
deriving DecidableEq, Repr

/-- A confirmed blockhash, with the finalized block height. -/
def blockhashPlan : SolRoutine BlockhashPlan := do
  let latest ← ask .getLatestBlockhash
  let finalizedHeight : Nat ← ask (.getBlockHeight .finalized)
  let processedHeight : Nat ← ask (.getBlockHeight .processed)
  return ⟨latest.blockhash,
    max latest.lastValidBlockHeight (processedHeight + SOL_LAST_VALID_HEIGHT_CLAMP_BLOCKS),
    finalizedHeight, latest.contextSlot⟩

/-- The remaining blocks, each as slow as the estimate. -/
def latestLandingMs (nowMs : ℚ) (lastValidBlockHeight finalizedHeight : Nat) : ℚ :=
  nowMs + (lastValidBlockHeight - finalizedHeight : Nat) * rail.slowBlockMs

/-- The price that three quarters of the recent fees do not exceed. -/
def observedPrice (fees : List ℚ) : Nat :=
  let sorted := (fees.map fun fee => (max 0 ⌊fee⌋).toNat).mergeSort (· ≤ ·)
  sorted.getD (min (sorted.length - 1) ((3 * sorted.length + 3) / 4 - 1)) 0

def computeUnitPrice (fees : List ℚ) (attempt : Nat) : Nat :=
  min (max (observedPrice fees) SOL_PRIORITY_FEE_FLOOR_MICRO_LAMPORTS *
      2 ^ min attempt SOL_PRIORITY_FEE_MAX_RAISES)
    SOL_PRIORITY_FEE_CAP_MICRO_LAMPORTS

/-- A node that cannot price fees does not stop a claim. -/
def budgetInstructions (limit : Nat) (writable : List (List UInt8)) (attempt : Nat) :
    SolRoutine (List SolInstruction) := do
  let keys ← checked (writable.mapM pubkeyToBase58)
  let fees ← (ask (.getRecentPrioritizationFees keys)).orElse fun _ => pure []
  let unitLimit ← checked (setComputeUnitLimit limit)
  let unitPrice ← checked (setComputeUnitPrice (computeUnitPrice fees attempt))
  return [unitLimit, unitPrice]

/-! ## Sending -/

structure SolPreparedWrite where
  record : SolPreparedRecord
  tx : SolTransaction
  guard : SolRoutine Unit
  onNotBroadcast : Bool

def buildAndSign (kind : SolWriteKind) (ref : String) (instructions : List SolInstruction)
    (plan : BlockhashPlan) (guard : SolRoutine Unit) (onNotBroadcast : Bool) :
    SolRoutine SolPreparedWrite := do
  let feePayer ← checked (pubkeyFromBase58 rail.signerPublicKey)
  let recentBlockhash ← checked (pubkeyFromBase58 plan.blockhash)
  let message := SolMessage.mk feePayer recentBlockhash instructions
  let signature ← ask (.sign message)
  return { record := ⟨kind, ref, signature, plan.blockhash, plan.lastValidBlockHeight,
             some plan.contextSlot⟩
           tx := ⟨message, signature⟩
           guard := guard
           onNotBroadcast := onNotBroadcast }

def simulateOrThrow (tx : SolTransaction) : SolRoutine Unit := do
  let failure ← ask (.simulateTransaction tx)
  Routine.ofExcept (refute failure fun err => .simulationFailed .simulate
    (if err = "BlockhashNotFound" then
      "sol-rpc: blockhash not found (expired or unknown to this node)"
    else "sol-rpc: simulate failed: " ++ err))

/-- What is told of a write that failed: nothing was broadcast when it failed before the send, or
in the node's own preflight. -/
def reportFailure (prepared : SolPreparedWrite) (handedToNetwork : Bool) (error : SolError) :
    SolRoutine Unit := do
  let preflight := match error with
    | .simulationFailed .preflight _ => true
    | _ => false
  if prepared.onNotBroadcast && (!handedToNetwork || preflight) then
    ask (.onNotBroadcast prepared.record)
  .fail error

/-- Simulate, run the last guard, send, and wait until the write is final. -/
def sendPrepared (prepared : SolPreparedWrite) : SolRoutine Unit := do
  assertPinnedChain rail
  let before : SolRoutine Unit := do
    simulateOrThrow prepared.tx
    prepared.guard
  before.orElse (reportFailure prepared false)
  let handed : SolRoutine Unit := do
    let reported : String ← ask (.sendTransaction prepared.tx)
    checked (require (reported = prepared.record.signature)
      ("sol-htlc: the node reported signature " ++ reported ++ ", not the recorded " ++
        prepared.record.signature))
    ask (.settle prepared.record)
  handed.orElse (reportFailure prepared true)

/-! ## The claim -/

/-- `/^0x[0-9a-f]{64}$/` -/
def SECRET_SHAPE (value : String) : Bool := hex32 value

/-- What is known of a lock that can be claimed. -/
structure Claimable where
  view : SolEscrowView
  escrow : List UInt8
  vault : List UInt8
  mint : List UInt8
  payee : List UInt8
  payeeToken : List UInt8
deriving DecidableEq, Repr

def statusText (view : Option SolEscrowView) : String :=
  match view.map SolEscrowView.status with
  | none => "none"
  | some .locked => "Locked"
  | some .claimed => "Claimed"
  | some .refunded => "Refunded"

/-- The escrow stands, the vault is funded, and the payout can land. -/
def readClaimable (ref : SolRef) : SolRoutine Claimable := do
  let rt := rail.rt
  let escrow ← checked (escrowAddress rt rail.config.programId ref.payer ref.hashLock)
  let vault ← checked (vaultAddress rt rail.config.programId escrow)
  let first ← ask (.readFinalized [String.ofList (base58Encode escrow)] none)
  let view ← checked (viewEscrow rail (first.accounts.head?.bind id) ref)
  let view ← checked (need (view.filter fun view => view.status = .locked)
    ("sol-htlc: refusing to claim - the escrow is not in a claimable \"Locked\" state (got " ++
      statusText view ++ ")"))
  checked (require (view.mint = rail.config.assets.USDC)
    "sol-htlc: refusing to claim - the escrow is for a different mint")
  let mint ← checked (pubkeyFromBase58 rail.config.assets.USDC)
  let payee ← checked (pubkeyFromBase58 view.payee)
  let payeeToken ← checked (associatedTokenAddress rt payee mint)
  let second ← ask (.readFinalized
    [String.ofList (base58Encode vault), String.ofList (base58Encode payeeToken)]
    (some first.contextSlot))
  let held ← checked ((tokenAccountProblem (second.accounts.head?.bind id) mint escrow).mapError
    fun problem => "sol-htlc: refusing to claim - the vault " ++ problem)
  let amount ← checked (need (rt.bigInt view.amount) "Cannot convert to a BigInt")
  checked (require (amount ≤ held.amount)
    "sol-htlc: refusing to claim - the vault holds less than the escrow amount")
  -- the claim creates the payee's account when it is absent, or a funded empty system account
  let payeeAccount := (second.accounts[1]?).bind id
  if payeeAccount.any fun account =>
      !(account.owner = SYSTEM_PROGRAM_ID && account.data.length = 0) then
    let _ ← checked ((tokenAccountProblem payeeAccount mint payee).mapError fun problem =>
      "sol-htlc: refusing to claim - the payee's associated token account " ++ problem ++
        " (the payout would fail)")
  return ⟨view, escrow, vault, mint, payee, payeeToken⟩

/-- A retry is for a secret that the named transaction has made public. -/
def provePublic (ref preimage : String) (options : SolClaimOptions) : SolRoutine Unit :=
  if options.retryPublicSecret then do
    let proven ← match options.proofSignature with
      | none => pure none
      | some signature => ask (.awaitPreimageFromSignature ref signature)
    checked (require (proven = some preimage)
      ("sol-htlc: refusing a public-secret retry - no claim carrying this preimage was found in " ++
        "the named transaction (proofSignature)"))
  else pure ()

/-- The time now leaves the claim window open, and the deadline leaves the landing margin. -/
def claimWindow (now notAfterMs refundAfterMs : ℚ) (retry : Bool) : Except String Unit := do
  require (now < refundAfterMs)
    "sol-htlc: refusing to claim - the clock is already at/after refundAfterMs"
  require (retry = true ∨ notAfterMs ≤ refundAfterMs - SOL_CLAIM_LANDING_MARGIN_MS)
    ("sol-htlc: refusing to claim - notAfterMs (" ++ rail.numberText notAfterMs ++
      ") leaves less than the " ++ rail.numberText SOL_CLAIM_LANDING_MARGIN_MS ++
      "ms landing margin before refundAfterMs (" ++ rail.numberText refundAfterMs ++ ")")

/-- A claim signed now lands before the refund, by the estimate. -/
def landingBound (now : ℚ) (plan : BlockhashPlan) (notAfterMs refundAfterMs : ℚ) (retry : Bool) :
    Except SolError Unit := do
  let bound := latestLandingMs rail now plan.lastValidBlockHeight plan.finalizedHeight +
    rail.expiryMarginMs
  require (retry = true ∨ bound ≤ refundAfterMs)
    (.tooLate
      ("sol-htlc: refusing to claim - a transaction signed now could still land as late as " ++
      rail.numberText bound ++ " ms, after refundAfterMs " ++ rail.numberText refundAfterMs ++
      " minus the " ++ rail.numberText rail.expiryMarginMs ++
      "ms margin (the secret would be published by a claim that fails late)"))
  require (retry = true ∨ now < notAfterMs)
    (.plain ("sol-htlc: refusing to claim - the deadline notAfterMs (" ++
      rail.numberText notAfterMs ++ ") has already passed (chain time/clock " ++
      rail.numberText now ++ ")"))

/-- The last reads before the send. -/
def claimGuard (plan : BlockhashPlan) (notAfterMs refundAfterMs : ℚ) (retry : Bool) :
    SolRoutine Unit := do
  let finalNowMs ← nowMs rail
  if retry then
    checked (require (finalNowMs < refundAfterMs)
      ("sol-htlc: refusing to broadcast the retry - chain time " ++ rail.numberText finalNowMs ++
        " is at/after refundAfterMs " ++ rail.numberText refundAfterMs))
  else
    checked (require (finalNowMs < notAfterMs)
      ("sol-htlc: refusing to broadcast claim - chain time " ++ rail.numberText finalNowMs ++
        " is at/after the given deadline (notAfterMs " ++ rail.numberText notAfterMs ++ ")"))
    let height ← ask (.getBlockHeight .finalized)
    let latest := latestLandingMs rail finalNowMs plan.lastValidBlockHeight height +
      rail.expiryMarginMs
    Routine.ofExcept (require (latest ≤ refundAfterMs)
      (.tooLate ("sol-htlc: refusing to broadcast claim - it could still land as late as " ++
        rail.numberText latest ++ " ms, after refundAfterMs " ++ rail.numberText refundAfterMs ++
        " minus the margin")))

/-- The claim's own instruction, after the budget and the payee's account. -/
def claimInstructions (claimable : Claimable) (preimage : List UInt8) (options : SolClaimOptions) :
    SolRoutine (List SolInstruction) := do
  let program ← checked (pubkeyFromBase58 rail.config.programId)
  let token ← checked (pubkeyFromBase58 TOKEN_PROGRAM_ID)
  let data ← checked (claimInstructionData preimage)
  let budget ← budgetInstructions SOL_CLAIM_COMPUTE_UNIT_LIMIT
    [claimable.escrow, claimable.vault, claimable.payeeToken] options.priorityFeeAttempt
  let signer ← checked (pubkeyFromBase58 rail.signerPublicKey)
  let ensurePayeeAccount ← checked
    (createAssociatedTokenAccountIdempotent rail.rt signer claimable.payee claimable.mint)
  return budget ++ [ensurePayeeAccount, ⟨program,
    [⟨claimable.escrow, false, true⟩, ⟨claimable.vault, false, true⟩,
      ⟨claimable.mint, false, false⟩, ⟨claimable.payeeToken, false, true⟩,
      ⟨token, false, false⟩], data⟩]

/-- The preimage opens the hash lock. Its bytes. -/
def openingPreimage (ref : SolRef) (preimage : String) : Except String (List UInt8) := do
  require (SECRET_SHAPE preimage = true) "sol-htlc: preimage must be 0x + 64 lowercase hex"
  let bytes ← need (hexToBytes (sliceFrom preimage 2)) "hex string expected"
  require (hexToBytes (sliceFrom ref.hashLock 2) = some (rail.rt.sha256 bytes))
    ("sol-htlc: preimage does not open hashLock (sha256 mismatch) - refusing to build a claim " ++
      "that can never verify")
  return bytes

def claim (ref preimage : String) (notAfterMs : ℚ) (options : SolClaimOptions) :
    SolRoutine Unit := do
  let parsed ← checked (need (parseSolRef ref)
    "sol-htlc: ref must be 0x<64 hex hash lock>:<payer base58>")
  let preimageBytes ← checked (openingPreimage rail parsed preimage)
  assertPinnedChain rail
  let claimable ← readClaimable rail parsed
  let refundAfterMs : ℚ := claimable.view.refundAfterMs
  let retry := options.retryPublicSecret
  provePublic ref preimage options
  let now ← nowMs rail
  checked (claimWindow rail now notAfterMs refundAfterMs retry)
  let plan ← blockhashPlan
  Routine.ofExcept (landingBound rail now plan notAfterMs refundAfterMs retry)
  let instructions ← claimInstructions rail claimable preimageBytes options
  let prepared ← buildAndSign rail .claim ref instructions plan
    (claimGuard rail plan notAfterMs refundAfterMs retry) options.onNotBroadcast
  if options.onSigned then ask (.onSigned prepared.record)
  sendPrepared rail prepared

end SwapDesk.Rails.Sol
