import SwapDesk.Lib.Bytes

/-!
# SwapDesk — the account layouts of the Solana HTLC

The constants at the top of `contracts-sol/htlc/src/lib.rs`, the accounts of the
chain, and the fields the program reads from their data: its own escrow layout
and the token-account and mint layouts of the classic SPL Token program.
-/

namespace SwapDesk.Sol

open Bytes FixedBytes

abbrev Pubkey := FixedBytes 32

abbrev Bytes32 := FixedBytes 32

-- ---------------------------------------------------------------------------
-- Program ids
-- ---------------------------------------------------------------------------

/-- `base58(sha256("flop-swap-desk:sol-htlc:v1"))`. -/
def programIdBytes : List UInt8 :=
  [232, 131, 124, 251, 229, 38, 137, 47, 49, 67, 20, 24, 240, 88, 87, 249, 68, 217, 196, 194,
   176, 145, 179, 78, 99, 161, 40, 7, 32, 6, 56, 105]

def id : Pubkey := ⟨programIdBytes, rfl⟩

/-- The classic SPL Token program. -/
def tokenProgram : Pubkey :=
  ⟨[6, 221, 246, 225, 215, 101, 161, 147, 217, 203, 225, 70, 206, 235, 121, 172, 28, 180, 133, 237,
    95, 91, 55, 145, 58, 140, 245, 133, 126, 255, 0, 169], rfl⟩

def systemProgram : Pubkey := zeros 32

/-- `b"htlc"` -/
def escrowSeed : List UInt8 := [104, 116, 108, 99]

/-- `b"vault"` -/
def vaultSeed : List UInt8 := [118, 97, 117, 108, 116]

-- ---------------------------------------------------------------------------
-- Instruction data
-- ---------------------------------------------------------------------------

def tagLock : UInt8 := 0
def tagClaim : UInt8 := 1
def tagRefund : UInt8 := 2

def lockDataLen : Nat := 1 + 32 + 32 + 8 + 8 + 8
def claimDataLen : Nat := 1 + 32
def refundDataLen : Nat := 1

-- ---------------------------------------------------------------------------
-- Escrow accounts
-- ---------------------------------------------------------------------------

def stateVersion : UInt8 := 1
def statusLocked : UInt8 := 1
def statusClaimed : UInt8 := 2
def statusRefunded : UInt8 := 3

def offVersion : Nat := 0
def offStatus : Nat := 1
def offRevealed : Nat := 2
def offBump : Nat := 3
def offPayer : Nat := 4
def offPayee : Nat := 36
def offMint : Nat := 68
def offHashLock : Nat := 100
def offAmount : Nat := 132
def offClaimByMs : Nat := 140
def offRefundAfterMs : Nat := 148
def offPreimage : Nat := 156
def escrowLen : Nat := 188

-- ---------------------------------------------------------------------------
-- Token accounts and mints
-- ---------------------------------------------------------------------------

def taLen : Nat := 165
def taMint : Nat := 0
def taOwner : Nat := 32
def taAmount : Nat := 64
def taState : Nat := 108
def mintLen : Nat := 82
def mintDecimals : Nat := 44
def mintInit : Nat := 45

-- ---------------------------------------------------------------------------
-- Accounts
-- ---------------------------------------------------------------------------

structure Account where
  lamports : UInt64
  data : List UInt8
  owner : Pubkey
  executable : Bool
deriving DecidableEq

/-- Every account of the chain. One that was never created is system-owned and
empty. -/
abbrev Accounts := Pubkey → Account

/-- What of an account the program's safety rests on: who owns it and what it
stores. Lamports only pay rent. -/
structure Content where
  owner : Pubkey
  data : List UInt8
deriving DecidableEq

def Account.content (a : Account) : Content := ⟨a.owner, a.data⟩

-- ---------------------------------------------------------------------------
-- Escrow data
-- ---------------------------------------------------------------------------

structure Escrow where
  bump : UInt8
  status : UInt8
  payer : Pubkey
  payee : Pubkey
  mint : Pubkey
  hashLock : Bytes32
  amount : UInt64
  refundAfterMs : Int64
deriving DecidableEq

/-- The fields `load_escrow` reads. -/
def Escrow.read (d : List UInt8) : Escrow where
  bump := byteAt d offBump
  status := byteAt d offStatus
  payer := field 32 d offPayer
  payee := field 32 d offPayee
  mint := field 32 d offMint
  hashLock := field 32 d offHashLock
  amount := u64FromLe (field 8 d offAmount)
  refundAfterMs := i64FromLe (field 8 d offRefundAfterMs)

/-- What `lock` writes into the zeroed data of a new escrow account. -/
def lockData (d : List UInt8) (bump : UInt8) (payer payee mint : Pubkey) (hashLock : Bytes32)
    (amount : UInt64) (claimByMs refundAfterMs : Int64) : List UInt8 :=
  let d := d.map fun _ => (0 : UInt8)
  let d := patch d offVersion [stateVersion]
  let d := patch d offStatus [statusLocked]
  let d := patch d offRevealed [0]
  let d := patch d offBump [bump]
  let d := patch d offPayer payer.bytes
  let d := patch d offPayee payee.bytes
  let d := patch d offMint mint.bytes
  let d := patch d offHashLock hashLock.bytes
  let d := patch d offAmount (u64ToLe amount).bytes
  let d := patch d offClaimByMs (i64ToLe claimByMs).bytes
  patch d offRefundAfterMs (i64ToLe refundAfterMs).bytes

/-- What `claim` writes. -/
def claimData (d : List UInt8) (preimage : Bytes32) : List UInt8 :=
  let d := patch d offStatus [statusClaimed]
  let d := patch d offRevealed [1]
  patch d offPreimage preimage.bytes

/-- What `refund` writes. -/
def refundData (d : List UInt8) : List UInt8 := patch d offStatus [statusRefunded]

/-- Everything an escrow account says of its lock. -/
structure EscrowView where
  version : UInt8
  escrow : Escrow
  revealed : UInt8
  preimage : Bytes32
  claimByMs : Int64
deriving DecidableEq

def EscrowView.read (d : List UInt8) : EscrowView where
  version := byteAt d offVersion
  escrow := Escrow.read d
  revealed := byteAt d offRevealed
  preimage := field 32 d offPreimage
  claimByMs := i64FromLe (field 8 d offClaimByMs)

section
variable {d : List UInt8} (hlen : d.length = escrowLen)
include hlen

/-- A new escrow reads as what `lock` was given. -/
theorem read_lockData (bump : UInt8) (payer payee mint : Pubkey) (hashLock : Bytes32)
    (amount : UInt64) (claimByMs refundAfterMs : Int64) :
    let d' := lockData d bump payer payee mint hashLock amount claimByMs refundAfterMs
    d'.length = escrowLen ∧ EscrowView.read d' =
      { version := stateVersion
        escrow := { bump := bump, status := statusLocked, payer := payer, payee := payee,
                    mint := mint, hashLock := hashLock, amount := amount,
                    refundAfterMs := refundAfterMs }
        revealed := 0
        preimage := zeros 32
        claimByMs := claimByMs } := by
  have hzero : (d.map fun _ => (0 : UInt8)) = (zeros escrowLen).bytes := by
    rw [List.map_const', hlen]
    rfl
  -- the writes stay inside the record, so they are writes of a record of known length
  have hrecord : lockData d bump payer payee mint hashLock amount claimByMs refundAfterMs =
      (((((((((((((zeros 188).write 0 (u8 1)).write 1 (u8 1)).write 2 (u8 0)).write 3
        (u8 bump)).write 4 payer).write 36 payee).write 68 mint).write 100 hashLock).write 132
        (u64ToLe amount)).write 140 (i64ToLe claimByMs)).write 148
        (i64ToLe refundAfterMs))).bytes := by
    simp (disch := omega) only [bytes_write]
    rw [lockData, hzero]
    rfl
  rw [hrecord]
  refine ⟨FixedBytes.length_eq _, ?_⟩
  simp only [EscrowView.read, Escrow.read, byteAt_eq_field, offVersion, offStatus, offRevealed,
    offBump, offPayer, offPayee, offMint, offHashLock, offAmount, offClaimByMs, offRefundAfterMs,
    offPreimage]
  simp (disch := omega) only [field_write_self, field_write_of_disjoint, u64FromLe_toLe,
    i64FromLe_toLe]
  congr 1

/-- A claim changes the status, the flag and the preimage and nothing else. -/
theorem read_claimData (preimage : Bytes32) :
    (claimData d preimage).length = escrowLen ∧ EscrowView.read (claimData d preimage) =
      { EscrowView.read d with
        escrow := { Escrow.read d with status := statusClaimed }
        revealed := 1
        preimage := preimage } := by
  have hrecord : claimData d preimage = ((((⟨d, hlen⟩ : FixedBytes 188).write 1 (u8 2)).write 2
      (u8 1)).write 156 preimage).bytes := by
    simp (disch := omega) only [bytes_write]
    rfl
  rw [hrecord]
  refine ⟨FixedBytes.length_eq _, ?_⟩
  simp only [EscrowView.read, Escrow.read, byteAt_eq_field, offVersion, offStatus, offRevealed,
    offBump, offPayer, offPayee, offMint, offHashLock, offAmount, offClaimByMs, offRefundAfterMs,
    offPreimage]
  simp (disch := omega) only [field_write_self, field_write_of_disjoint]
  congr 1

/-- A refund changes the status and nothing else. -/
theorem read_refundData :
    (refundData d).length = escrowLen ∧ EscrowView.read (refundData d) =
      { EscrowView.read d with escrow := { Escrow.read d with status := statusRefunded } } := by
  have hrecord : refundData d = ((⟨d, hlen⟩ : FixedBytes 188).write 1 (u8 3)).bytes := by
    simp (disch := omega) only [bytes_write]
    rfl
  rw [hrecord]
  refine ⟨FixedBytes.length_eq _, ?_⟩
  simp only [EscrowView.read, Escrow.read, byteAt_eq_field, offVersion, offStatus, offRevealed,
    offBump, offPayer, offPayee, offMint, offHashLock, offAmount, offClaimByMs, offRefundAfterMs,
    offPreimage]
  simp (disch := omega) only [field_write_self, field_write_of_disjoint]
  congr 1

end

end SwapDesk.Sol
