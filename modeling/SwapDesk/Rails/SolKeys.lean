import SwapDesk.Desk.Replay
import SwapDesk.Lib.Bytes
import SwapDesk.Rails.HexBytes

/-!
# SwapDesk — Solana keys and derived addresses

The part of `src/rails/sol-tx.ts`, `src/rails/sol-spl.ts` and `src/rails/sol-htlc.ts`
that turns base58 texts into the accounts a lock lives in: the escrow and the vault
are derived from the program, the payer and the hash lock, and the token account of
a wallet from the wallet and the mint.

Main result: `pubkeyToBase58_ok`, the text of a key is that of its 32 bytes.
-/

namespace SwapDesk.Rails

open Check Desk

/-- What the Solana readers use besides the runtime. -/
structure SolRuntime extends Runtime where
  /-- `base64.decode`; `none` when it throws. -/
  base64Decode : String → Option (List UInt8)
  /-- `ed25519.Point.fromBytes` does not throw. -/
  decompresses : List UInt8 → Bool

/-- The bytes of an ASCII text. -/
def ascii (text : String) : List UInt8 := text.toList.map fun c => UInt8.ofNat c.toNat

/-! ## Base58 -/

def base58Value (text : List Char) : Nat :=
  text.foldl (fun n c => 58 * n + BASE58_ALPHABET.idxOf c) 0

/-- `base58.decode`, of a text of the alphabet. -/
def base58Decode (text : List Char) : List UInt8 :=
  List.replicate (text.takeWhile (· == '1')).length 0 ++
    ((Nat.digits 256 (base58Value text)).reverse.map UInt8.ofNat)

/-- `base58.decode`, of any text: it throws on a letter outside of the alphabet. -/
def base58Decode? (text : String) : Option (List UInt8) :=
  if text.toList.all BASE58_ALPHABET.contains then some (base58Decode text.toList) else none

/-- `base58.encode` -/
def base58Encode (bytes : List UInt8) : List Char :=
  List.replicate (bytes.takeWhile (· == 0)).length '1' ++
    ((Nat.digits 58 (bytes.foldl (fun n b => 256 * n + b.toNat) 0)).reverse.map
      fun d => BASE58_ALPHABET.getD d '1')

def SOL_PUBKEY_BYTES : Nat := 32

def pubkeyFromBase58 (text : String) : Except String (List UInt8) :=
  if isValidPubkeyBase58 text then .ok (base58Decode text.toList)
  else .error "sol-tx: not a base58 public key"

def pubkeyToBase58 (bytes : List UInt8) : Except String String :=
  if bytes.length = SOL_PUBKEY_BYTES then .ok (String.ofList (base58Encode bytes))
  else .error "sol-tx: a public key is exactly 32 bytes"

theorem pubkeyToBase58_ok {bytes : List UInt8} {text : String}
    (h : pubkeyToBase58 bytes = .ok text) :
    bytes.length = 32 ∧ text = String.ofList (base58Encode bytes) := by
  unfold pubkeyToBase58 at h
  split at h
  · rename_i hLength
    exact ⟨hLength, (Except.ok.inj h).symm⟩
  · cases h

/-! ## Program-derived addresses -/

def PDA_MARKER : List UInt8 := ascii "ProgramDerivedAddress"

def isOnCurve (rt : SolRuntime) (bytes : List UInt8) : Bool :=
  decide (bytes.length = 32) && rt.decompresses bytes

/-- An address on the curve has a key, so it belongs to no program. -/
def createProgramAddress (rt : SolRuntime) (seeds : List (List UInt8)) (programId : List UInt8) :
    Except String (Option (List UInt8)) := do
  require (seeds.length ≤ 16) "sol-tx: at most 16 seeds"
  require (∀ seed ∈ seeds, seed.length ≤ 32) "sol-tx: a seed is at most 32 bytes"
  let hash := rt.sha256 (seeds.flatten ++ programId ++ PDA_MARKER)
  return if isOnCurve rt hash then none else some hash

/-- The bumps from `bump - 1` down to 0. -/
def findProgramAddressFrom (rt : SolRuntime) (seeds : List (List UInt8)) (programId : List UInt8) :
    Nat → Except String (List UInt8)
  | 0 => .error "sol-tx: no viable bump seed"
  | bump + 1 => do
    match ← createProgramAddress rt (seeds ++ [[UInt8.ofNat bump]]) programId with
    | some address => return address
    | none => findProgramAddressFrom rt seeds programId bump

/-- The address under the first bump, from 255 down, that is off the curve. -/
def findProgramAddress (rt : SolRuntime) (seeds : List (List UInt8)) (programId : List UInt8) :
    Except String (List UInt8) :=
  findProgramAddressFrom rt seeds programId 256

def SYSTEM_PROGRAM_ID : String := "11111111111111111111111111111111"
def TOKEN_PROGRAM_ID : String := "TokenkegQfeZyiNwAJbNbGKPFXCWuBvf9Ss623VQ5DA"
def ASSOCIATED_TOKEN_PROGRAM_ID : String := "ATokenGPvbdGVxr1b2hvZbsiqW5xWH25efTNsLJA8knL"
def BPF_LOADER_UPGRADEABLE_ID : String := "BPFLoaderUpgradeab1e11111111111111111111111"

/-- The token account of `owner` for `mint`. -/
def associatedTokenAddress (rt : SolRuntime) (owner mint : List UInt8) :
    Except String (List UInt8) := do
  let token ← pubkeyFromBase58 TOKEN_PROGRAM_ID
  let program ← pubkeyFromBase58 ASSOCIATED_TOKEN_PROGRAM_ID
  findProgramAddress rt [owner, token, mint] program

def escrowAddress (rt : SolRuntime) (programId payer hashLock : String) :
    Except String (List UInt8) := do
  let payer ← pubkeyFromBase58 payer
  let hash ← need (hexToBytes (sliceFrom hashLock 2)) "hex string expected"
  let program ← pubkeyFromBase58 programId
  findProgramAddress rt [ascii "htlc", payer, hash] program

def vaultAddress (rt : SolRuntime) (programId : String) (escrow : List UInt8) :
    Except String (List UInt8) := do
  let program ← pubkeyFromBase58 programId
  findProgramAddress rt [ascii "vault", escrow] program

end SwapDesk.Rails
