import SwapDesk.Rails.SolAccounts

/-!
# SwapDesk — evidence from a captured Solana escrow

`solEvidence` of `src/rails/sol-evidence.ts`: turns the captured reads of one escrow
into evidence for a leg. The reads stand in the order of the read plan: the genesis
hash, the finalized slot, then the escrow, its vault, the program, its program data
and, when the payee is known, the payee's token account. An exchange is bound by its
position, not only by its id.

The source is one function that returns early. Its blocks are `admitSolCapture`,
`readFinalAccounts` and `judgeEscrow`, each of which adds to what a refusal carries.

Main result: `solEvidence_sound` in `SwapDesk.Rails.SolSoundness`.
-/

namespace SwapDesk.Rails

open Check Desk

/-! ## Input and output -/

structure SolCapture extends Capture where
  rail : String
  pin : String
  caip2 : String
  endpoint : String
  /-- The configuration the capture was taken under, as it stands in the file. -/
  config : Option Json
  /-- Set when the capture did not run to completion. -/
  error : Option String

structure SolAccounts where
  payee : Option String
  payer : Option String
deriving DecidableEq, Repr

structure SolEvidenceInput where
  terms : LockTerms
  config : SolRailConfig
  accounts : SolAccounts
  capture : SolCapture

structure SolEvidenceResult where
  lock : LockEvidence
  rail : Option RailObservation
deriving DecidableEq, Repr

/-- Why no observation is made: a refusal of the reader's own, or an exception that it
catches at its top. -/
inductive SolRefusal where
  | refused (refusal : Refusal)
  | threw (message : String)
deriving DecidableEq, Repr

def solUnknown (reason : String) : SolRefusal := .refused (.unknown reason)

def solDiffers (reason : String) : SolRefusal := .refused (.differs reason)

def solLockRefInvalid (terms : LockTerms) (ref : String) : Bool :=
  if terms.lock ≠ "hash" then true
  else
    match parseSolRef ref with
    | none => true
    | some parsed => parsed.hashLock ≠ terms.statement

/-! ## The read plan -/

structure ReadPlan where
  escrow : String
  vault : String
  program : String
  programData : String
  payeeToken : Option String
deriving DecidableEq, Repr

def payeeTokenAddress (rt : SolRuntime) (config : SolRailConfig) (payee : String) :
    Except String String := do
  let owner ← pubkeyFromBase58 payee
  let mint ← pubkeyFromBase58 config.assets.USDC
  let address ← associatedTokenAddress rt owner mint
  pubkeyToBase58 address

def readPlan (rt : SolRuntime) (config : SolRailConfig) (ref : SolRef) (payee : Option String) :
    Except String ReadPlan := do
  let escrow ← escrowAddress rt config.programId ref.payer ref.hashLock
  let vault ← vaultAddress rt config.programId escrow
  let program ← pubkeyFromBase58 config.programId
  let loader ← pubkeyFromBase58 BPF_LOADER_UPGRADEABLE_ID
  let programData ← findProgramAddress rt [program] loader
  let payeeToken ← payee.mapM (payeeTokenAddress rt config)
  let escrow ← pubkeyToBase58 escrow
  let vault ← pubkeyToBase58 vault
  let programData ← pubkeyToBase58 programData
  return ⟨escrow, vault, config.programId, programData, payeeToken⟩

/-- What each account read is called, and the account it reads. -/
def ReadPlan.labels (plan : ReadPlan) : List (String × String) :=
  [("escrow", plan.escrow), ("vault", plan.vault), ("program", plan.program),
    ("programdata", plan.programData)] ++
    plan.payeeToken.toList.map fun key => ("payee token account", key)

def SLOT_PARAMS : Json := .arr [.obj [("commitment", .str "finalized")]]

def accountReadParams (key : String) (slot : Int) : Json :=
  .arr [.str key,
    .obj [("encoding", .str "base64"), ("commitment", .str "finalized"),
      ("minContextSlot", .num (.int slot))]]

/-! ## Binding -/

/-- The exchange at the position is exactly the expected read, its id is this capture's id
for this position, and the response answers that id. -/
def bindAt (rt : Runtime) (capture : Capture) (position : Nat) (expectedMethod : String)
    (expectedParams : Json) (label : String) : Except String EnvelopeOutcome := do
  let exchange ← need (exchangeAt capture.exchanges position expectedMethod)
    ("missing/tampered capture: no " ++ label ++ " exchange")
  let request ← need (parseRequestBody rt exchange)
    ("missing/tampered capture: " ++ label ++ " (malformed request)")
  require (request.method = exchange.method ∧ sameJson rt request.params exchange.params)
    ("missing/tampered capture: " ++ label ++
      " (request does not match its own recorded method/params)")
  require (sameJson rt request.params (some expectedParams))
    ("missing/tampered capture: " ++ label ++
      " (the request is not the read this reader requires)")
  require (request.id = .str (idPrefix rt capture ++ rt.intText (position + 1)))
    ("missing/tampered capture: " ++ label ++
      " (id is not this capture's ref/checkedAtMs/nonce/position)")
  let bytes ← need (capture.bytes exchange.responseSha256)
    ("missing/tampered capture: " ++ label)
  let parsed ← need ((rt.decodeUtf8 bytes).bind rt.jsonParse)
    ("missing/tampered capture: " ++ label ++ " (undecodable)")
  require parsed.isObject
    ("missing/tampered capture: " ++ label ++ " (not a JSON-RPC object)")
  require (RequestId.ofJson? (parsed.field? "id") = some request.id)
    ("missing/tampered capture: " ++ label ++ " (response id does not match its request)")
  return if rejects parsed then .error else .result (parsed.field? "result")

/-! ## The chain -/

def readGenesis (rt : Runtime) (capture : Capture) (trusted : SolRailConfig) :
    Except String Unit := do
  let outcome ← bindAt rt capture 0 "getGenesisHash" (.arr []) "getGenesisHash"
  let value ← resultOf outcome "rpc rejected getGenesisHash"
  let genesis ← need ((value.bind Json.asText?).filter (· ≠ ""))
    "sol-htlc: malformed getGenesisHash result"
  refute (solGenesisProblem trusted.pin genesis) id

def readSlot (rt : Runtime) (capture : Capture) : Except String Int := do
  let outcome ← bindAt rt capture 1 "getSlot" SLOT_PARAMS "getSlot"
  let value ← resultOf outcome "rpc rejected getSlot(finalized)"
  need ((value.bind Json.asInt?).filter fun slot => isSafeInteger slot && 0 ≤ slot)
    "sol-htlc: malformed getSlot result"

/-! ## The accounts -/

def readAccount (rt : SolRuntime) (capture : Capture) (minSlot : Int) (position : Nat)
    (label key : String) : Except String AccountRead := do
  let outcome ← bindAt rt.toRuntime capture position "getAccountInfo"
    (accountReadParams key minSlot) ("getAccountInfo(" ++ label ++ ")")
  let value ← resultOf outcome ("rpc rejected getAccountInfo(" ++ label ++ ")")
  let decoded ← need (decodeAccountRead rt value)
    ("sol-htlc: malformed getAccountInfo(" ++ label ++ ") result")
  require (minSlot ≤ decoded.slot)
    ("sol-htlc: the " ++ label ++ " read is from slot " ++ rt.intText decoded.slot ++
      ", before the finalized slot " ++ rt.intText minSlot ++
      " it was pinned to (minContextSlot not honoured)")
  return decoded

/-- The reads from a position on, one after the other. -/
def readAccounts (rt : SolRuntime) (capture : Capture) (minSlot : Int) :
    Nat → List (String × String) → Except String (List AccountRead)
  | _, [] => .ok []
  | position, (label, key) :: rest => do
    let read ← readAccount rt capture minSlot position label key
    let reads ← readAccounts rt capture minSlot (position + 1) rest
    return read :: reads

/-- The accounts of the plan, all as they were at one slot. -/
structure FinalAccounts where
  slot : Int
  accounts : List (Option WireAccount)
deriving DecidableEq, Repr

def FinalAccounts.escrow (view : FinalAccounts) : Option WireAccount :=
  (view.accounts[0]?).join

def FinalAccounts.vault (view : FinalAccounts) : Option WireAccount :=
  (view.accounts[1]?).join

def FinalAccounts.program (view : FinalAccounts) : Option WireAccount :=
  (view.accounts[2]?).join

def FinalAccounts.programData (view : FinalAccounts) : Option WireAccount :=
  (view.accounts[3]?).join

def FinalAccounts.payeeToken (view : FinalAccounts) : Option WireAccount :=
  (view.accounts[4]?).join

/-- The chain is the pinned one, and every account of the plan was read at one slot. -/
def readFinalAccounts (rt : SolRuntime) (capture : Capture) (trusted : SolRailConfig)
    (plan : ReadPlan) : Except String FinalAccounts := do
  readGenesis rt.toRuntime capture trusted
  let minSlot ← readSlot rt.toRuntime capture
  let reads ← readAccounts rt capture minSlot 2 plan.labels
  require (capture.exchanges.length = 2 + plan.labels.length)
    "missing/tampered capture: unexpected extra exchanges"
  let slot := (reads.head?.map (·.slot)).getD 0
  require (∀ read ∈ reads, read.slot = slot)
    ("sol-htlc: the account reads do not share one finalized context slot " ++
      "(a mixed view is never trusted)")
  return ⟨slot, reads.map (·.account)⟩

/-! ## The reader -/

/-- What the checks that need no exchange find out. -/
structure SolAdmitted where
  trusted : SolRailConfig
  captured : SolRailConfig
  ref : SolRef
deriving DecidableEq, Repr

/-- Checks that need no exchange. -/
def admitSolCapture (input : SolEvidenceInput) : Except Refusal SolAdmitted := do
  let capture := input.capture
  refute capture.error fun error =>
    .unknown ("sol-htlc: chain read did not complete: " ++ error)
  require (solLockRefInvalid input.terms capture.ref = false)
    (.differs ("sol-htlc: ref/lock mismatch (ref must be 0x<hash lock>:<payer> with the hash " ++
      "lock equal to terms.statement, and lock must be \"hash\")"))
  let ref ← need (parseSolRef capture.ref) (.unknown "sol-htlc: malformed ref")
  require (input.terms.asset = SOL_ASSET_ID)
    (.differs ("sol-htlc: leg asset \"" ++ input.terms.asset ++
      "\" does not match this rail's own asset \"" ++ SOL_ASSET_ID ++ "\" (K3)"))
  require (capture.rail = SOL_RAIL_ID)
    (.unknown "sol-htlc: the capture is not a sol-htlc capture (tampered rail field)")
  let trusted ← (checkSolRailConfig (some input.config.toJson)).mapError fun reason =>
    .unknown ("sol-htlc: the auditor's own config is invalid: " ++ reason)
  let captured ← (checkSolRailConfig capture.config).mapError fun reason =>
    .unknown ("sol-htlc: capture's own config is invalid (A4/D3): " ++ reason)
  require (captured.pin.caip2 = trusted.pin.caip2 ∧ captured.pin.name = trusted.pin.name ∧
      captured.pin.commitment = trusted.pin.commitment ∧
      captured.programId = trusted.programId ∧ captured.programHash = trusted.programHash ∧
      captured.assets.USDC = trusted.assets.USDC)
    (.unknown "sol-htlc: capture was taken under a different rail config (D3)")
  require (capture.pin = captured.pin.name ∧ capture.caip2 = captured.pin.caip2 ∧
      capture.endpoint = captured.endpoint)
    (.unknown ("sol-htlc: capture's own top-level pin/caip2/endpoint fields disagree with its " ++
      "embedded config (E6, tampered index)"))
  require (∀ payee ∈ input.accounts.payee, isValidPubkeyBase58 payee = true)
    (.unknown "sol-htlc: the payee account line is not a valid address")
  require (∀ payer ∈ input.accounts.payer, isValidPubkeyBase58 payer = true)
    (.unknown "sol-htlc: the payer account line is not a valid address")
  return ⟨trusted, captured, ref⟩

/-- Checks the line of the payer, and derives the accounts to read. -/
def planReads (rt : SolRuntime) (input : SolEvidenceInput) (admitted : SolAdmitted) :
    Except SolRefusal ReadPlan := do
  require (∀ payer ∈ input.accounts.payer, payer = admitted.ref.payer)
    (solDiffers "sol-htlc: the payer account line differs from the payer named in the ref")
  (readPlan rt admitted.trusted admitted.ref input.accounts.payee).mapError .threw

def solFirstFieldMismatch (rt : Runtime) (view : SolEscrowView) (payee payer mint : String)
    (terms : LockTerms) : Option String :=
  if view.payee ≠ payee then
    some "sol-htlc: on-chain payee differs from the payee account line"
  else if view.mint ≠ mint then
    some "sol-htlc: on-chain mint differs from the configured USDC mint"
  else if !amountsEqual rt view.amount terms.amount then
    some "sol-htlc: on-chain amount differs from terms"
  else if view.claimByMs ≠ terms.claimByMs then
    some "sol-htlc: on-chain claimByMs differs from terms"
  else if view.refundAfterMs ≠ terms.refundAfterMs then
    some "sol-htlc: on-chain refundAfterMs differs from terms"
  else if view.payer ≠ payer then
    some "sol-htlc: on-chain payer differs from the payer account line"
  else none

def solPreimageOpensHashLock (rt : Runtime) (preimageHex0x hashLock0x : String) : Bool :=
  match hexToBytes (sliceFrom preimageHex0x 2), hexToBytes (sliceFrom hashLock0x 2) with
  | some preimage, some hash => rt.sha256 preimage = hash
  | _, _ => false

/-- The escrow of the ref, of the pinned program. -/
def readEscrow (rt : SolRuntime) (trusted : SolRailConfig) (ref : SolRef) (plan : ReadPlan)
    (view : FinalAccounts) : Except String SolEscrowView := do
  (programProblem rt trusted view.program view.programData plan.programData).mapError
    fun problem => "sol-htlc: " ++ problem
  let account ← need view.escrow "sol-htlc: no lock at the finalized view"
  require (account.owner = trusted.programId)
    ("sol-htlc: the escrow address is not owned by the HTLC program " ++
      "(no lock at the finalized view)")
  require (account.data.length = SOL_ESCROW_LEN)
    ("sol-htlc: malformed escrow account (" ++ rt.intText account.data.length ++ " bytes)")
  let escrow ← (decodeEscrow account.data).mapError fun message =>
    "sol-htlc: malformed escrow account (" ++ message ++ ")"
  require (escrow.hashLock = ref.hashLock ∧ escrow.payer = ref.payer)
    "sol-htlc: the escrow's own payer/hash lock differ from the ref (not this lock)"
  return escrow

/-- The vault is funded and the payout can land. -/
def judgeLockedEscrow (rt : SolRuntime) (input : SolEvidenceInput) (trusted : SolRailConfig)
    (plan : ReadPlan) (view : FinalAccounts) (escrow : SolEscrowView) (payee : String)
    (mismatch : Option String) : Except SolRefusal Verdict := do
  refute mismatch solDiffers
  require (escrow.revealed = false ∧ escrow.preimage = none)
    (solUnknown ("sol-htlc: a Locked escrow that already holds a preimage is an impossible " ++
      "state (the claim is atomic) - refusing to read it"))
  let mint ← (pubkeyFromBase58 trusted.assets.USDC).mapError .threw
  let escrowOwner ← (pubkeyFromBase58 plan.escrow).mapError .threw
  let vault ← (tokenAccountProblem view.vault mint escrowOwner).mapError fun problem =>
    solDiffers ("sol-htlc: the vault " ++ problem)
  let amount ← need (rt.bigInt input.terms.amount)
    (.threw ("Cannot convert " ++ input.terms.amount ++ " to a BigInt"))
  require (amount ≤ vault.amount)
    (solDiffers ("sol-htlc: the vault holds " ++ rt.intText vault.amount ++
      " units, fewer than the " ++ input.terms.amount ++ " the lock promises"))
  let payeeOwner ← (pubkeyFromBase58 payee).mapError .threw
  let _ ← (tokenAccountProblem view.payeeToken mint payeeOwner).mapError fun problem =>
    solDiffers ("sol-htlc: the payee's token account " ++ problem ++
      " - the payout could never land")
  return ⟨.locked, true,
    "sol-htlc: locked and on-chain state matches terms (vault funded, payee token account usable)"⟩

/-- The lock was claimed or refunded. -/
def judgeSettledEscrow (rt : Runtime) (input : SolEvidenceInput) (ref : SolRef)
    (escrow : SolEscrowView) (mismatch : Option String) : Except SolRefusal Verdict := do
  let label : RailStatus := if escrow.status = .claimed then .claimed else .refunded
  if label = .claimed then
    require (escrow.revealed ∧ escrow.preimage.any (solPreimageOpensHashLock rt · ref.hashLock))
      (solUnknown ("sol-htlc: a Claimed escrow whose stored preimage does not open the hash " ++
        "lock is an impossible state - refusing to read it"))
  else
    require (escrow.revealed = false ∧ escrow.preimage = none)
      (solUnknown ("sol-htlc: a Refunded escrow that holds a preimage is an impossible state " ++
        "- refusing to read it"))
  let baseReason := "sol-htlc: " ++ input.capture.ref ++ " is " ++ label.text ++
    " on-chain, not locked"
  refute mismatch fun mismatch => solUnknown (baseReason ++
    " - and its other fields do not match this swap's terms/accounts (" ++ mismatch ++
    ") - refusing to trust it as this swap's own lock")
  return ⟨label, false, baseReason⟩

def judgeEscrow (rt : SolRuntime) (input : SolEvidenceInput) (admitted : SolAdmitted)
    (plan : ReadPlan) (view : FinalAccounts) : Except SolRefusal Verdict := do
  let trusted := admitted.trusted
  let escrow ← (readEscrow rt trusted admitted.ref plan view).mapError solUnknown
  let payee ← need input.accounts.payee (solUnknown "sol-htlc: payee has no account line")
  let payer ← need input.accounts.payer
    (solUnknown "sol-htlc: payer has no proven account line (P7)")
  let mismatch := solFirstFieldMismatch rt.toRuntime escrow payee payer trusted.assets.USDC
    input.terms
  if escrow.status = .locked then
    judgeLockedEscrow rt input trusted plan view escrow payee mismatch
  else judgeSettledEscrow rt.toRuntime input admitted.ref escrow mismatch

def solEvidenceBase (input : SolEvidenceInput) : LockEvidence :=
  { rail := SOL_RAIL_ID
    ref := input.capture.ref
    terms := input.terms
    railVerified := none
    checkedAtMs := input.capture.checkedAtMs
    finalizedRef := none
    endpoint := some input.config.endpoint
    reason := none
    raw := some (input.capture.exchanges.map (·.responseSha256)) }

/-- A refusal attaches no observation, and an exception leaves only what names the lock. -/
def solRefuse (base : LockEvidence) : SolRefusal → SolEvidenceResult
  | .refused refusal =>
    ⟨{ base with railVerified := refusal.railVerified, reason := some refusal.reason }, none⟩
  | .threw message =>
    ⟨{ base with
        railVerified := none
        finalizedRef := none
        endpoint := none
        reason := some ("sol-htlc: evidence could not be decoded (" ++ message ++ ")")
        raw := none }, none⟩

def solAttach (base : LockEvidence) (verdict : Verdict) : SolEvidenceResult :=
  ⟨{ base with railVerified := some verdict.railVerified, reason := some verdict.reason },
    some (railObservation base verdict.status)⟩

def solEvidence (rt : SolRuntime) (input : SolEvidenceInput) : SolEvidenceResult :=
  let base := solEvidenceBase input
  match admitSolCapture input with
  | .error refusal => solRefuse base (.refused refusal)
  | .ok admitted =>
    let base := { base with endpoint := some admitted.captured.endpoint }
    match planReads rt input admitted with
    | .error refusal => solRefuse base refusal
    | .ok plan =>
      match readFinalAccounts rt input.capture.toCapture admitted.trusted plan with
      | .error reason => solRefuse base (solUnknown reason)
      | .ok view =>
        let base := { base with
          finalizedRef :=
            some (admitted.trusted.pin.name ++ ":final:" ++ rt.intText view.slot) }
        match judgeEscrow rt input admitted plan view with
        | .error refusal => solRefuse base refusal
        | .ok verdict => solAttach base verdict

end SwapDesk.Rails
