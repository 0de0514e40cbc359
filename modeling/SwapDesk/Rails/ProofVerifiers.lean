import SwapDesk.Lib.BitcoinTx
import SwapDesk.Lib.Utf8
import SwapDesk.Rails.AccountResolution

/-!
# SwapDesk — the verifiers of account proofs

The four verifiers of `src/rails/account-proof.ts`, `src/rails/btc-proof.ts` and
`src/rails/near-proof.ts`, one for each scheme. What the packages compute is a parameter. A verifier
never throws; the block that may throw is an `Option` here, and what throws does not verify.

Main result: `verified_of_verify`, what each scheme takes for a signature, and of which key on which
bytes.
-/

namespace SwapDesk.Rails

open Check Desk
open CharClass (isAlphanumeric isHexLower)

/-! ## The packages -/

/-- The transaction that `buildToSign` makes: one input, and one output. -/
structure ToSignTx where
  version : Nat
  lockTime : Nat
  txid : String
  index : Nat
  sequence : Nat
  witnessScript : List UInt8
  witnessAmount : Nat
  outputScript : List UInt8
  outputAmount : Nat

/-- What the verifiers use of the packages; `none` where a function throws. -/
structure ProofPackages where
  hashMessage : String → String
  /-- `Signature.fromBytes(signature, "compact").addRecoveryBit(bit).recoverPublicKey(digest)`, in
  its uncompressed form. -/
  recoverPublicKey : (signature : List UInt8) → (bit : Nat) → (digest : List UInt8) →
    Option (List UInt8)
  publicKeyToAddress : String → Option String
  /-- `ed25519.verify` -/
  ed25519Verify : (signature message key : List UInt8) → Option Bool
  /-- `secp256k1.verify`, of a DER signature and without hashing the digest again. -/
  secp256k1Verify : (signature digest key : List UInt8) → Option Bool
  /-- `Buffer.from(text, "base64")` -/
  base64Decode : String → List UInt8
  base64Encode : List UInt8 → String
  /-- `RawWitness.decode` and `RawWitness.encode` -/
  witnessDecode : List UInt8 → Option (List (List UInt8))
  witnessEncode : List (List UInt8) → Option (List UInt8)
  sha256 : List UInt8 → List UInt8
  ripemd160 : List UInt8 → List UInt8
  preimageWitnessV0 : ToSignTx → (index : Nat) → (script : List UInt8) → (hashType amount : Nat) →
    Option (List UInt8)

/-- `new TextEncoder().encode(text)` -/
def textBytes (text : String) : List UInt8 := Utf8.encode text.toList

/-- `/^(?:[0-9a-f]{2})+$/` -/
def lowerHexToBytes (hex : String) : Option (List UInt8) :=
  if hex.toList.isEmpty || !hex.toList.all isHexLower then none else Hex.decode hex.toList

/-- `BigInt` of the hex text of these bytes. -/
def beValue (bytes : List UInt8) : Nat := bytes.foldl (fun n b => 256 * n + b.toNat) 0

section

variable (pk : ProofPackages)

/-! ## eip191 -/

def SECP256K1_HALF_ORDER : Nat :=
  0x7fffffffffffffffffffffffffffffff5d576e7357a4501ddfe92f46681b20a0

def eip191Digest (message : String) : Option (List UInt8) :=
  lowerHexToBytes (sliceFrom (pk.hashMessage message) 2)

/-- The address whose key made the signature on the digest, in lower case. -/
def recoveredAddress (signature digest : List UInt8) : Option String := do
  let v ← signature[64]?
  let point ← pk.recoverPublicKey (signature.take 64) (v.toNat - 27) digest
  let recovered ← pk.publicKeyToAddress ("0x" ++ bytesToHex point)
  return toLowerCase recovered

def eip191Verifier (ctx : ProofVerifyContext) : Option Bool := do
  let sig ← lowerHexToBytes ctx.proof.signature
  if sig.length ≠ 65 ∨ ctx.proof.publicKey.isSome then return false
  let v ← sig[64]?
  if v ≠ 27 ∧ v ≠ 28 then return false
  -- the twin with the other s recovers the same address
  if SECP256K1_HALF_ORDER < beValue ((sig.take 64).drop 32) then return false
  let digest ← eip191Digest pk ctx.message
  let recovered ← recoveredAddress pk sig digest
  return recovered = toLowerCase ctx.subject

/-! ## bip322 -/

def SIGHASH_ALL : Nat := 1

def dsha256 (bytes : List UInt8) : List UInt8 := pk.sha256 (pk.sha256 bytes)

/-- What is hashed with the tag of BIP-322. -/
def bip322Tagged (message : String) : List UInt8 :=
  let tag := pk.sha256 (textBytes "BIP0322-signed-message")
  tag ++ (tag ++ textBytes message)

def bip322MessageHash (message : String) : List UInt8 := pk.sha256 (bip322Tagged pk message)

def hash160 (bytes : List UInt8) : List UInt8 := pk.ripemd160 (pk.sha256 bytes)

def p2wpkhScript (pubkey : List UInt8) : List UInt8 := [0x00, 0x14] ++ hash160 pk pubkey

def p2wpkhScriptCode (pubkey : List UInt8) : List UInt8 :=
  [0x76, 0xa9, 0x14] ++ hash160 pk pubkey ++ [0x88, 0xac]

/-- `raw` of `bip322ToSpend`. -/
def bip322ToSpendRaw (message : String) (scriptPubKey : List UInt8) : List UInt8 :=
  let scriptSig := [0x00, 0x20] ++ bip322MessageHash pk message
  [0, 0, 0, 0] ++ ([1] ++ (List.replicate 32 0 ++ ([0xff, 0xff, 0xff, 0xff] ++
    ([UInt8.ofNat scriptSig.length] ++ (scriptSig ++ ([0, 0, 0, 0] ++ ([1] ++
      (List.replicate 8 0 ++ ([UInt8.ofNat scriptPubKey.length] ++ (scriptPubKey ++
        List.replicate 4 0))))))))))

def bip322ToSpendTxid (message : String) (scriptPubKey : List UInt8) : String :=
  bytesToHex (dsha256 pk (bip322ToSpendRaw pk message scriptPubKey)).reverse

def OP_RETURN : List UInt8 := [0x6a]

def buildToSign (message : String) (pubkey : List UInt8) : ToSignTx :=
  let script := p2wpkhScript pk pubkey
  { version := 0
    lockTime := 0
    txid := bip322ToSpendTxid pk message script
    index := 0
    sequence := 0
    witnessScript := script
    witnessAmount := 0
    outputScript := OP_RETURN
    outputAmount := 0 }

def bip322Digest (message : String) (pubkey : List UInt8) : Option (List UInt8) :=
  pk.preimageWitnessV0 (buildToSign pk message pubkey) 0 (p2wpkhScriptCode pk pubkey) SIGHASH_ALL 0

/-- `/^[A-Za-z0-9+/]+={0,2}$/` -/
def BASE64_SHAPE (text : String) : Bool :=
  let body := text.toList.takeWhile fun c => isAlphanumeric c || c == '+' || c == '/'
  let rest := text.toList.drop body.length
  !body.isEmpty && rest.length ≤ 2 && rest.all (· == '=')

def bip322Verifier (ctx : ProofVerifyContext) : Option Bool := do
  if ctx.proof.publicKey.isSome then return false
  if !PUBKEY_SHAPE ctx.subject then return false
  if !BASE64_SHAPE ctx.proof.signature then return false
  let raw := pk.base64Decode ctx.proof.signature
  if pk.base64Encode raw ≠ ctx.proof.signature then return false
  let witness ← pk.witnessDecode raw
  let [sigWithType, witnessKey] := witness | return false
  let encoded ← pk.witnessEncode witness
  if bytesToHex encoded ≠ bytesToHex raw then return false
  let pubkey ← hexToBytes ctx.subject
  if bytesToHex witnessKey ≠ ctx.subject then return false
  if sigWithType.length < 9 ∨ sigWithType.getLast? ≠ some (UInt8.ofNat SIGHASH_ALL) then
    return false
  let digest ← bip322Digest pk ctx.message pubkey
  pk.secp256k1Verify sigWithType.dropLast digest pubkey

/-! ## nep413 -/

def NEP413_TAG : Nat := 2147484061

def NEP413_RECIPIENT : String := "flop-swap-desk"

/-- `u32le` -/
def nep413U32le (n : Nat) : List UInt8 := Bytes.toLe 4 n

def borshString (s : String) : List UInt8 :=
  let bytes := textBytes s
  nep413U32le bytes.length ++ bytes

/-- What a signer hashes: the tag and the payload. -/
def nep413Tagged (message : String) : List UInt8 :=
  let nonce := pk.sha256 (textBytes message)
  nep413U32le NEP413_TAG ++
    (borshString message ++ (nonce ++ (borshString NEP413_RECIPIENT ++ [0])))

def nep413SignedHash (message : String) : List UInt8 := pk.sha256 (nep413Tagged pk message)

def decodeNearEd25519Key (key : String) : Option (List UInt8) :=
  if "ed25519:".toList.isPrefixOf key.toList then
    (base58Decode? (sliceFrom key 8)).filter fun bytes => bytes.length = 32
  else none

/-- `/^[0-9a-f]{128}$/` -/
def NEP413_SIGNATURE_SHAPE (signature : String) : Bool :=
  tokenOf isHexLower 128 128 signature.toList

def nep413Verifier (ctx : ProofVerifyContext) : Option Bool := do
  if !NEP413_SIGNATURE_SHAPE ctx.proof.signature then return false
  let publicKey ← ctx.proof.publicKey
  let key ← decodeNearEd25519Key publicKey
  let signature ← Hex.decode ctx.proof.signature.toList
  pk.ed25519Verify signature (nep413SignedHash pk ctx.message) key

/-! ## ed25519 -/

/-- The key that the subject is, when it is one. -/
def addressKey (subject : String) : Option (Option (List UInt8)) :=
  if tokenOf (fun c => BASE58_ALPHABET.contains c) 32 44 subject.toList then
    (base58Decode? subject).map fun decoded => if decoded.length = 32 then some decoded else none
  else some none

/-- The key of the line, or else of the subject; when there are both they agree. -/
def ed25519Key (subject : String) (publicKey : Option String) : Option (List UInt8) := do
  let ofAddress ← addressKey subject
  match publicKey with
  | none => ofAddress
  | some publicKey =>
    let key ← lowerHexToBytes publicKey
    if key.length ≠ 32 then none
    else if ofAddress.any fun address => bytesToHex address ≠ bytesToHex key then none
    else some key

def ed25519Verifier (ctx : ProofVerifyContext) : Option Bool := do
  let sig ← lowerHexToBytes ctx.proof.signature
  if sig.length ≠ 64 then return false
  let key ← ed25519Key ctx.subject ctx.proof.publicKey
  pk.ed25519Verify sig (textBytes ctx.message) key

/-- `DEFAULT_PROOF_VERIFIERS` -/
def defaultProofVerifiers : ProofVerifierRegistry := fun scheme =>
  if scheme = "eip191" then some (eip191Verifier pk)
  else if scheme = "bip322" then some (bip322Verifier pk)
  else if scheme = "nep413" then some (nep413Verifier pk)
  else if scheme = "ed25519" then some (ed25519Verifier pk)
  else none

end

/-! ## What is signed, and by which key -/

/-- A key on a chain. An Ethereum key is known by its address. -/
inductive ChainKey where
  | address (text : String)
  | secp256k1 (pubkey : List UInt8)
  | ed25519 (key : List UInt8)

/-- A key, and the bytes that it signs. -/
structure Signing where
  key : ChainKey
  bytes : List UInt8

/-- What a proof of this scheme has signed, for this message and subject. -/
def signing? (pk : ProofPackages) (message subject : String) (proof : AccountProof) :
    Option Signing :=
  if proof.scheme = "eip191" then
    (eip191Digest pk message).map fun digest => ⟨.address (toLowerCase subject), digest⟩
  else if proof.scheme = "bip322" then do
    let pubkey ← hexToBytes subject
    let digest ← bip322Digest pk message pubkey
    return ⟨.secp256k1 pubkey, digest⟩
  else if proof.scheme = "nep413" then do
    let publicKey ← proof.publicKey
    let key ← decodeNearEd25519Key publicKey
    return ⟨.ed25519 key, nep413SignedHash pk message⟩
  else if proof.scheme = "ed25519" then do
    let key ← ed25519Key subject proof.publicKey
    return ⟨.ed25519 key, textBytes message⟩
  else none

/-- The signature is one by the key on the bytes. -/
def Verifies (pk : ProofPackages) (s : Signing) (signature : List UInt8) : Prop :=
  match s.key with
  | .address text => recoveredAddress pk signature s.bytes = some text
  | .secp256k1 pubkey => pk.secp256k1Verify signature s.bytes pubkey = some true
  | .ed25519 key => pk.ed25519Verify signature s.bytes key = some true

/-! ## What verifies -/

section

variable {pk : ProofPackages} {ctx : ProofVerifyContext}

/-- What is refused does not verify. -/
theorem refused_or {c : Prop} [Decidable c] {x : Option Bool} :
    (if c then pure false else x) = some true ↔ ¬ c ∧ x = some true := by
  by_cases hc : c
  · simp [hc]
  · simp [hc]

theorem verified_eip191 (h : eip191Verifier pk ctx = some true) :
    ∃ digest signature, eip191Digest pk ctx.message = some digest ∧
      recoveredAddress pk signature digest = some (toLowerCase ctx.subject) := by
  unfold eip191Verifier at h
  simp only [Option.bind_eq_bind, Option.bind_eq_some_iff, refused_or] at h
  obtain ⟨sig, -, -, v, -, -, -, digest, hDigest, recovered, hRecovered, hSame⟩ := h
  have hSame : recovered = toLowerCase ctx.subject := by simpa using hSame
  exact ⟨digest, sig, hDigest, hSame ▸ hRecovered⟩

theorem verified_bip322 (h : bip322Verifier pk ctx = some true) :
    ∃ pubkey digest signature, hexToBytes ctx.subject = some pubkey ∧
      bip322Digest pk ctx.message pubkey = some digest ∧
      pk.secp256k1Verify signature digest pubkey = some true := by
  unfold bip322Verifier at h
  simp only [refused_or, Option.bind_eq_bind, Option.bind_eq_some_iff] at h
  obtain ⟨-, -, -, -, witness, -, h⟩ := h
  split at h
  · simp only [refused_or, Option.bind_eq_some_iff] at h
    obtain ⟨encoded, -, -, pubkey, hPubkey, -, -, digest, hDigest, hVerify⟩ := h
    exact ⟨pubkey, digest, _, hPubkey, hDigest, hVerify⟩
  · cases h

theorem verified_nep413 (h : nep413Verifier pk ctx = some true) :
    ∃ publicKey key signature, ctx.proof.publicKey = some publicKey ∧
      decodeNearEd25519Key publicKey = some key ∧
      pk.ed25519Verify signature (nep413SignedHash pk ctx.message) key = some true := by
  unfold nep413Verifier at h
  simp only [refused_or, Option.bind_eq_bind, Option.bind_eq_some_iff] at h
  obtain ⟨-, publicKey, hPublicKey, key, hKey, signature, -, hVerify⟩ := h
  exact ⟨publicKey, key, signature, hPublicKey, hKey, hVerify⟩

theorem verified_ed25519 (h : ed25519Verifier pk ctx = some true) :
    ∃ key signature, ed25519Key ctx.subject ctx.proof.publicKey = some key ∧
      pk.ed25519Verify signature (textBytes ctx.message) key = some true := by
  unfold ed25519Verifier at h
  simp only [refused_or, Option.bind_eq_bind, Option.bind_eq_some_iff] at h
  obtain ⟨sig, -, -, key, hKey, hVerify⟩ := h
  exact ⟨key, sig, hKey, hVerify⟩

/-- What a verifier accepts is a signature, by the key that the proof and the subject name, on the
bytes that the scheme makes of the message. -/
theorem verified_of_verify {verify : ProofVerifyContext → Option Bool}
    (hVerifier : defaultProofVerifiers pk ctx.proof.scheme = some verify)
    (h : verify ctx = some true) :
    ∃ s signature, signing? pk ctx.message ctx.subject ctx.proof = some s ∧
      Verifies pk s signature := by
  unfold defaultProofVerifiers at hVerifier
  unfold signing?
  -- the scheme of the proof picks the verifier
  split at hVerifier
  · rename_i hScheme
    obtain rfl := Option.some.inj hVerifier
    obtain ⟨digest, signature, hDigest, hRecovered⟩ := verified_eip191 h
    rw [if_pos hScheme, hDigest]
    exact ⟨_, signature, rfl, hRecovered⟩
  rename_i hScheme
  rw [if_neg hScheme]
  split at hVerifier
  · rename_i hScheme
    obtain rfl := Option.some.inj hVerifier
    obtain ⟨pubkey, digest, signature, hPubkey, hDigest, hVerify⟩ := verified_bip322 h
    rw [if_pos hScheme, hPubkey]
    exact ⟨⟨.secp256k1 pubkey, digest⟩, signature, by simp [hDigest], hVerify⟩
  rename_i hScheme
  rw [if_neg hScheme]
  split at hVerifier
  · rename_i hScheme
    obtain rfl := Option.some.inj hVerifier
    obtain ⟨publicKey, key, signature, hPublicKey, hKey, hVerify⟩ := verified_nep413 h
    rw [if_pos hScheme, hPublicKey]
    exact ⟨⟨.ed25519 key, nep413SignedHash pk ctx.message⟩, signature, by simp [hKey], hVerify⟩
  rename_i hScheme
  rw [if_neg hScheme]
  split at hVerifier
  · rename_i hScheme
    obtain rfl := Option.some.inj hVerifier
    obtain ⟨key, signature, hKey, hVerify⟩ := verified_ed25519 h
    rw [if_pos hScheme, hKey]
    exact ⟨_, signature, rfl, hVerify⟩
  · cases hVerifier

end

end SwapDesk.Rails
