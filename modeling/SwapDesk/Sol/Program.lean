import SwapDesk.Lib.Check
import SwapDesk.Sol.Layout

/-!
# SwapDesk — the Solana HTLC program

`contracts-sol/htlc/src/lib.rs`, function by function. An instruction is a
function of the runtime, the clock, the accounts it was given and the state of
all accounts, and returns the new state. An error leaves the caller with the
state it had, because the runtime reverts a failed instruction.

The runtime enters as the parameter `Runtime`: the hash, the derivation of
program addresses, the rent, and the instructions of other programs that the
program invokes. `Runtime.Lawful` is what the program relies on about those.
-/

namespace SwapDesk.Sol

open Bytes FixedBytes Check

-- ---------------------------------------------------------------------------
-- Errors
-- ---------------------------------------------------------------------------

inductive HtlcError
  | invalidInstruction
  | wrongProgramId
  | zeroAmount
  | badWindow
  | windowClosed
  | payeeIsProgramAccount
  | wrongMint
  | duplicateAccount
  | missingSigner
  | notWritable
  | wrongTokenProgram
  | wrongSystemProgram
  | wrongEscrowAddress
  | wrongVaultAddress
  | escrowExists
  | badEscrowState
  | badTokenAccount
  | notLocked
  | claimWindowClosed
  | wrongPreimage
  | notPayer
  | refundTooEarly
  | overflow
  | badMint
deriving DecidableEq, Repr

inductive ProgramError
  | custom (e : HtlcError)
  | notEnoughAccountKeys
  /-- An error of an invoked program or of the runtime. -/
  | other (code : Nat)
deriving DecidableEq, Repr

/-- A check of the program itself. -/
def ensure (c : Prop) [Decidable c] (e : HtlcError) : Except ProgramError Unit :=
  require c (.custom e)

-- ---------------------------------------------------------------------------
-- The runtime
-- ---------------------------------------------------------------------------

/-- An account as an instruction was given it. Its state is in `Accounts`. -/
structure AccountInfo where
  key : Pubkey
  isSigner : Bool
  isWritable : Bool
deriving DecidableEq

structure AccountMeta where
  pubkey : Pubkey
  isSigner : Bool
  isWritable : Bool
deriving DecidableEq

/-- `AccountMeta::new`. -/
def AccountMeta.new (pubkey : Pubkey) (isSigner : Bool) : AccountMeta := ⟨pubkey, isSigner, true⟩

def AccountMeta.newReadonly (pubkey : Pubkey) (isSigner : Bool) : AccountMeta :=
  ⟨pubkey, isSigner, false⟩

/-- An instruction for another program. -/
structure Instruction where
  programId : Pubkey
  accounts : List AccountMeta
  data : List UInt8
deriving DecidableEq

/-- What the program takes from the chain it runs on, and the mint it was built
for. `invokeSigned infos ix seeds` runs `ix` with the privileges of `infos` and
of the addresses the seeds derive. -/
structure Runtime where
  hash : List UInt8 → Bytes32
  createProgramAddress : List (List UInt8) → Pubkey → Option Pubkey
  findProgramAddress : List (List UInt8) → Pubkey → Pubkey × UInt8
  minimumBalance : Nat → UInt64
  invokeSigned : List AccountInfo → Instruction → List (List (List UInt8)) → Accounts →
    Except ProgramError Accounts
  usdcMint : Pubkey

-- ---------------------------------------------------------------------------
-- System program instructions
-- ---------------------------------------------------------------------------

def sysIx (accounts : List AccountMeta) (data : List UInt8) : Instruction :=
  ⟨systemProgram, accounts, data⟩

def u32ToLe (n : Nat) : List UInt8 := toLe 4 n

def createAccount (src dst : Pubkey) (lamports : UInt64) (space : Nat) (owner : Pubkey) :
    Instruction :=
  sysIx [.new src true, .new dst true]
    (u32ToLe 0 ++ (u64ToLe lamports).bytes ++ toLe 8 space ++ owner.bytes)

def transfer (src dst : Pubkey) (lamports : UInt64) : Instruction :=
  sysIx [.new src true, .new dst false] (u32ToLe 2 ++ (u64ToLe lamports).bytes)

def allocate (account : Pubkey) (space : Nat) : Instruction :=
  sysIx [.new account true] (u32ToLe 8 ++ toLe 8 space)

def assign (account owner : Pubkey) : Instruction :=
  sysIx [.new account true] (u32ToLe 1 ++ owner.bytes)

-- ---------------------------------------------------------------------------
-- Token program instructions
-- ---------------------------------------------------------------------------

def tokenDataTransferChecked (amount : UInt64) (decimals : UInt8) : List UInt8 :=
  12 :: (u64ToLe amount).bytes ++ [decimals]

def transferCheckedIx (source mint dest authority : Pubkey) (amount : UInt64) (decimals : UInt8) :
    Instruction where
  programId := tokenProgram
  accounts := [.new source false, .newReadonly mint false, .new dest false,
    .newReadonly authority true]
  data := tokenDataTransferChecked amount decimals

def initializeAccount3Ix (account mint owner : Pubkey) : Instruction where
  programId := tokenProgram
  accounts := [.new account false, .newReadonly mint false]
  data := 18 :: owner.bytes

-- ---------------------------------------------------------------------------
-- Checks
-- ---------------------------------------------------------------------------

def int64Min : Int := -2 ^ 63
def int64Max : Int := 2 ^ 63 - 1

/-- The clock in milliseconds, unless that overflows an `i64`. -/
def nowMs (unixTimestamp : Int64) : Except ProgramError Int64 := do
  let ms := unixTimestamp.toInt * 1000
  ensure (int64Min ≤ ms ∧ ms ≤ int64Max) .overflow
  return Int64.ofInt ms

def requireDistinct (infos : List AccountInfo) : Except ProgramError Unit :=
  ensure (infos.map AccountInfo.key).Nodup .duplicateAccount

def requireSigner (a : AccountInfo) : Except ProgramError Unit :=
  ensure (a.isSigner = true) .missingSigner

def requireWritable (a : AccountInfo) : Except ProgramError Unit :=
  ensure (a.isWritable = true) .notWritable

def requireTokenProgram (accts : Accounts) (a : AccountInfo) : Except ProgramError Unit :=
  ensure (a.key = tokenProgram ∧ (accts a.key).executable = true) .wrongTokenProgram

def requireSystemProgram (accts : Accounts) (a : AccountInfo) : Except ProgramError Unit :=
  ensure (a.key = systemProgram ∧ (accts a.key).executable = true) .wrongSystemProgram

/-- The decimals of an initialised classic mint. -/
def readMint (accts : Accounts) (a : AccountInfo) (expected : Pubkey) :
    Except ProgramError UInt8 := do
  ensure (a.key = expected) .wrongMint
  let acct := accts a.key
  ensure (acct.owner = tokenProgram) .badMint
  ensure (acct.data.length = mintLen ∧ byteAt acct.data mintInit = 1) .badMint
  return byteAt acct.data mintDecimals

/-- The balance of an initialised and unfrozen classic token account of `mint`
and `owner`. -/
def readTokenAccount (accts : Accounts) (a : AccountInfo) (mint owner : Pubkey) :
    Except ProgramError UInt64 := do
  let acct := accts a.key
  ensure (acct.owner = tokenProgram) .badTokenAccount
  ensure (acct.data.length = taLen ∧ byteAt acct.data taState = 1) .badTokenAccount
  ensure (field 32 acct.data taMint = mint ∧ field 32 acct.data taOwner = owner) .badTokenAccount
  return u64FromLe (field 8 acct.data taAmount)

-- ---------------------------------------------------------------------------
-- Accounts of the program
-- ---------------------------------------------------------------------------

variable (rt : Runtime)

def findEscrow (payer : Pubkey) (hashLock : Bytes32) : Pubkey × UInt8 :=
  rt.findProgramAddress [escrowSeed, payer.bytes, hashLock.bytes] id

def findVault (escrow : Pubkey) : Pubkey × UInt8 :=
  rt.findProgramAddress [vaultSeed, escrow.bytes] id

def saturatingSub (a b : UInt64) : UInt64 := if a < b then 0 else a - b

/-- Pays what a pre-funded account is short of its rent. -/
def topUp (accts : Accounts) (payer target system : AccountInfo) (need : UInt64) :
    Except ProgramError Accounts :=
  let short := saturatingSub need (accts target.key).lamports
  if 0 < short then
    rt.invokeSigned [payer, target, system] (transfer payer.key target.key short) [] accts
  else .ok accts

/-- Creates, or adopts when pre-funded, a program-derived account that is still
system-owned and empty. -/
def createPda (accts : Accounts) (payer target system : AccountInfo) (space : Nat)
    (owner : Pubkey) (seeds : List (List UInt8)) : Except ProgramError Accounts := do
  ensure ((accts target.key).owner = systemProgram ∧ (accts target.key).data = []) .escrowExists
  let need := rt.minimumBalance space
  if (accts target.key).lamports = 0 then
    rt.invokeSigned [payer, target, system] (createAccount payer.key target.key need space owner)
      [seeds] accts
  else
    let accts ← topUp rt accts payer target system need
    let accts ← rt.invokeSigned [target, system] (allocate target.key space) [seeds] accts
    rt.invokeSigned [target, system] (assign target.key owner) [seeds] accts

/-- Overwrite an account's data. -/
def setData (accts : Accounts) (key : Pubkey) (data : List UInt8) : Accounts :=
  Function.update accts key { accts key with data := data }

/-- Loads an escrow account and derives its address again from what it stores. -/
def loadEscrow (accts : Accounts) (a : AccountInfo) : Except ProgramError Escrow := do
  let acct := accts a.key
  ensure (acct.owner = id) .badEscrowState
  ensure (acct.data.length = escrowLen ∧ byteAt acct.data offVersion = stateVersion)
    .badEscrowState
  let e := Escrow.read acct.data
  ensure (rt.createProgramAddress [escrowSeed, e.payer.bytes, e.hashLock.bytes, [e.bump]] id =
    some a.key) .wrongEscrowAddress
  return e

def checkVaultKey (vault : AccountInfo) (escrow : Pubkey) : Except ProgramError Unit :=
  ensure ((findVault rt escrow).1 = vault.key) .wrongVaultAddress

-- ---------------------------------------------------------------------------
-- Instructions
-- ---------------------------------------------------------------------------

/-- `create_pda` for the vault reports an existing account under another name. -/
def vaultError : ProgramError → ProgramError
  | .custom .escrowExists => .custom .wrongVaultAddress
  | e => e

def lock (unixTimestamp : Int64) (accts : Accounts) (infos : List AccountInfo)
    (hashLock : Bytes32) (payee : Pubkey) (claimByMs refundAfterMs : Int64) (amount : UInt64) :
    Except ProgramError Accounts :=
  match infos with
  | [payer, escrow, vault, mint, payerTa, tokenProg, system] => do
    requireDistinct infos
    requireSigner payer
    [payer, escrow, vault, payerTa].forM requireWritable
    requireTokenProgram accts tokenProg
    requireSystemProgram accts system
    ensure (amount ≠ 0) .zeroAmount
    ensure (claimByMs < refundAfterMs) .badWindow
    let now ← nowMs unixTimestamp
    ensure (now < refundAfterMs) .windowClosed
    let (escrowKey, bump) := findEscrow rt payer.key hashLock
    ensure (escrowKey = escrow.key) .wrongEscrowAddress
    let (vaultKey, vaultBump) := findVault rt escrow.key
    ensure (vaultKey = vault.key) .wrongVaultAddress
    -- a payee nobody can sign for would strand the payout of a claim
    ensure (payee ∉ [escrow.key, vault.key, systemProgram, id, tokenProgram, rt.usdcMint])
      .payeeIsProgramAccount
    let decimals ← readMint accts mint rt.usdcMint
    let srcAmount ← readTokenAccount accts payerTa mint.key payer.key
    ensure (amount ≤ srcAmount) .badTokenAccount
    let accts ← createPda rt accts payer escrow system escrowLen id
      [escrowSeed, payer.key.bytes, hashLock.bytes, [bump]]
    let accts := setData accts escrow.key (lockData (accts escrow.key).data bump payer.key payee
      mint.key hashLock amount claimByMs refundAfterMs)
    let accts ← (createPda rt accts payer vault system taLen tokenProgram
      [vaultSeed, escrow.key.bytes, [vaultBump]]).mapError vaultError
    let accts ← rt.invokeSigned [vault, mint]
      (initializeAccount3Ix vault.key mint.key escrow.key) [] accts
    let accts ← rt.invokeSigned [payerTa, mint, vault, payer]
      (transferCheckedIx payerTa.key mint.key vault.key payer.key amount decimals) [] accts
    let got ← readTokenAccount accts vault mint.key escrow.key
    ensure (got = amount) .badTokenAccount
    return accts
  | _ => .error .notEnoughAccountKeys

/-- Moves the whole vault, with any stray donation to it. -/
def payOut (accts : Accounts) (e : Escrow) (escrow vault mint dest tokenProg : AccountInfo) :
    Except ProgramError Accounts := do
  let decimals ← readMint accts mint e.mint
  let vaultAmount ← readTokenAccount accts vault e.mint escrow.key
  ensure (e.amount ≤ vaultAmount) .badTokenAccount
  rt.invokeSigned [vault, mint, dest, escrow, tokenProg]
    (transferCheckedIx vault.key mint.key dest.key escrow.key vaultAmount decimals)
    [[escrowSeed, e.payer.bytes, e.hashLock.bytes, [e.bump]]] accts

/-- Anybody may claim for the payee. -/
def claim (unixTimestamp : Int64) (accts : Accounts) (infos : List AccountInfo)
    (preimage : Bytes32) : Except ProgramError Accounts :=
  match infos with
  | [escrow, vault, mint, payeeTa, tokenProg] => do
    requireDistinct infos
    [escrow, vault, payeeTa].forM requireWritable
    requireTokenProgram accts tokenProg
    let e ← loadEscrow rt accts escrow
    checkVaultKey rt vault escrow.key
    ensure (e.status = statusLocked) .notLocked
    let now ← nowMs unixTimestamp
    ensure (now < e.refundAfterMs) .claimWindowClosed
    ensure (rt.hash preimage.bytes = e.hashLock) .wrongPreimage
    let _ ← readTokenAccount accts payeeTa e.mint e.payee
    let accts := setData accts escrow.key (claimData (accts escrow.key).data preimage)
    payOut rt accts e escrow vault mint payeeTa tokenProg
  | _ => .error .notEnoughAccountKeys

def refund (unixTimestamp : Int64) (accts : Accounts) (infos : List AccountInfo) :
    Except ProgramError Accounts :=
  match infos with
  | [payer, escrow, vault, mint, payerTa, tokenProg] => do
    requireDistinct infos
    requireSigner payer
    [escrow, vault, payerTa].forM requireWritable
    requireTokenProgram accts tokenProg
    let e ← loadEscrow rt accts escrow
    checkVaultKey rt vault escrow.key
    ensure (e.payer = payer.key) .notPayer
    ensure (e.status = statusLocked) .notLocked
    let now ← nowMs unixTimestamp
    ensure (e.refundAfterMs ≤ now) .refundTooEarly
    let _ ← readTokenAccount accts payerTa e.mint e.payer
    let accts := setData accts escrow.key (refundData (accts escrow.key).data)
    payOut rt accts e escrow vault mint payerTa tokenProg
  | _ => .error .notEnoughAccountKeys

/-- The entrypoint. -/
def processInstruction (programId : Pubkey) (unixTimestamp : Int64) (accts : Accounts)
    (infos : List AccountInfo) (data : List UInt8) : Except ProgramError Accounts := do
  ensure (programId = id) .wrongProgramId
  match data with
  | [] => .error (.custom .invalidInstruction)
  | tag :: rest =>
    if tag = tagLock then
      ensure (data.length = lockDataLen) .invalidInstruction
      lock rt unixTimestamp accts infos (field 32 rest 0) (field 32 rest 32)
        (i64FromLe (field 8 rest 64)) (i64FromLe (field 8 rest 72)) (u64FromLe (field 8 rest 80))
    else if tag = tagClaim then
      ensure (data.length = claimDataLen) .invalidInstruction
      claim rt unixTimestamp accts infos (field 32 rest 0)
    else if tag = tagRefund then
      ensure (data.length = refundDataLen) .invalidInstruction
      refund rt unixTimestamp accts infos
    else .error (.custom .invalidInstruction)

end SwapDesk.Sol
