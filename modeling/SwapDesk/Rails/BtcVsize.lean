import SwapDesk.Lib.BitcoinTx
import SwapDesk.Rails.BtcSpend

/-!
# SwapDesk — the size of a spend

`scriptPubKeyForAddress`, `buildClaimPsbt`, `buildRefundPsbt` and `htlcSpendVsizeBound` of
`src/rails/btc-script.ts`: the transactions that spend a lock, and the size their fee is worked out
with before they are signed.

Main result: `vsize_le_htlcSpendVsizeBound`. No spend is larger than that, whatever the wallet's
signature is, up to the longest one.
-/

namespace SwapDesk.Rails

open Check BitcoinScript

/-! ## Destinations -/

/-- What an address of the network decodes to. -/
inductive DecodedAddress where
  | pkh (hash : { bytes : List UInt8 // bytes.length = 20 })
  | sh (hash : { bytes : List UInt8 // bytes.length = 20 })
  | wpkh (hash : { bytes : List UInt8 // bytes.length = 20 })
  | wsh (hash : { bytes : List UInt8 // bytes.length = 32 })
  | tr (pubkey : { bytes : List UInt8 // bytes.length = 32 })
deriving DecidableEq, Repr

/-- `OutScript.encode` -/
def DecodedAddress.script : DecodedAddress → List UInt8
  | .pkh hash => [0x76, 0xa9, 0x14] ++ hash.val ++ [0x88, 0xac]
  | .sh hash => [0xa9, 0x14] ++ hash.val ++ [0x87]
  | .wpkh hash => [0x00, 0x14] ++ hash.val
  | .wsh hash => [0x00, 0x20] ++ hash.val
  | .tr pubkey => [0x51, 0x20] ++ pubkey.val

structure Bip32Derivation where
  fingerprint : Nat
  path : List Nat
deriving DecidableEq, Repr

structure FundingUtxo where
  txid : String
  vout : Nat
  scriptPubKey : List UInt8
  amountSats : Int
deriving DecidableEq, Repr

/-- Why no spend is built. -/
inductive SpendError where
  | error (message : String)
  /-- What the package throws on a field that does not fit into a transaction. -/
  | unserializable
deriving DecidableEq, Repr

/-- A transaction of one input and one output, and what the wallet signs it with. -/
structure Psbt where
  lockTime : Nat
  txid : { bytes : List UInt8 // bytes.length = 32 }
  vout : Nat
  sequence : Nat
  witnessUtxo : Int × List UInt8
  witnessScript : List UInt8
  bip32Derivation : List (List UInt8 × Bip32Derivation)
  sha256 : List (List UInt8 × List UInt8)
  output : BitcoinTx.TxOut

/-- The bytes of a displayed transaction id, in the order that it is serialised in. -/
def txidBytes (txid : String) : Option { bytes : List UInt8 // bytes.length = 32 } :=
  match hexToBytes txid with
  | none => none
  | some bytes =>
    if h : bytes.length = 32 then some ⟨bytes.reverse, by rw [List.length_reverse, h]⟩ else none

/-- `addInput`, `addOutput` and `toPSBT` of a transaction of version 2, with the checks that every
spend makes of its fee first. -/
def buildSpend (utxo : FundingUtxo) (witnessScript : List UInt8) (lockTime : Nat)
    (bip32Derivation : List (List UInt8 × Bip32Derivation))
    (sha256 : List (List UInt8 × List UInt8)) (destinationScriptPubKey : List UInt8)
    (feeSats : Int) : Except SpendError Psbt := do
  require (0 < feeSats) (.error "btc-script: feeSats must be positive")
  require (feeSats < utxo.amountSats)
    (.error "btc-script: feeSats must be less than the funding amount")
  let txid ← need (txidBytes utxo.txid) .unserializable
  require (utxo.vout < 2 ^ 32) .unserializable
  require (utxo.amountSats < 2 ^ 64) .unserializable
  return {
    lockTime
    txid
    vout := utxo.vout
    sequence := 0xfffffffe
    witnessUtxo := (utxo.amountSats, utxo.scriptPubKey)
    witnessScript
    bip32Derivation
    sha256
    output := ⟨(utxo.amountSats - feeSats).toNat, destinationScriptPubKey⟩ }

structure ClaimPsbtParams where
  utxo : FundingUtxo
  witnessScript : List UInt8
  hashLock : List UInt8
  preimage : List UInt8
  payeePubkey : List UInt8
  payeeDerivation : Bip32Derivation
  destinationScriptPubKey : List UInt8
  feeSats : Int
deriving DecidableEq, Repr

def buildClaimPsbt (params : ClaimPsbtParams) : Except SpendError Psbt := do
  (assertCompressedPubkey "payeePubkey" params.payeePubkey).mapError .error
  require (params.preimage.length = HASH_LENGTH) (.error "btc-script: preimage must be 32 bytes")
  require (params.hashLock.length = HASH_LENGTH) (.error "btc-script: hashLock must be 32 bytes")
  buildSpend params.utxo params.witnessScript 0 [(params.payeePubkey, params.payeeDerivation)]
    [(params.hashLock, params.preimage)] params.destinationScriptPubKey params.feeSats

structure RefundPsbtParams where
  utxo : FundingUtxo
  witnessScript : List UInt8
  locktime : Int
  payerPubkey : List UInt8
  payerDerivation : Bip32Derivation
  destinationScriptPubKey : List UInt8
  feeSats : Int
deriving DecidableEq, Repr

def buildRefundPsbt (rt : Runtime) (params : RefundPsbtParams) : Except SpendError Psbt := do
  (assertCompressedPubkey "payerPubkey" params.payerPubkey).mapError .error
  require (BIP65_THRESHOLD < params.locktime ∧ params.locktime ≤ MAX_LOCKTIME)
    (.error ("btc-script: locktime must be an integer strictly above the BIP65 threshold (" ++
      rt.intText BIP65_THRESHOLD ++ ") and at most " ++ rt.intText MAX_LOCKTIME))
  buildSpend params.utxo params.witnessScript params.locktime.toNat
    [(params.payerPubkey, params.payerDerivation)] [] params.destinationScriptPubKey params.feeSats

/-! ## Signed spends -/

/-- The transaction that the wallet makes of a PSBT, with this witness before the script. -/
def Psbt.finalize (psbt : Psbt) (witness : List (List UInt8)) : BitcoinTx.Tx where
  version := 2
  inputs := [⟨psbt.txid, psbt.vout, [], psbt.sequence, witness ++ [psbt.witnessScript]⟩]
  outputs := [psbt.output]
  lockTime := psbt.lockTime

/-- The hash branch takes the preimage that the PSBT has, and the payee's signature. -/
def Psbt.finalizeClaim (psbt : Psbt) (signature : List UInt8) : BitcoinTx.Tx :=
  psbt.finalize (psbt.sha256.map Prod.snd ++ [signature])

/-- The timelock branch takes the payer's signature, and nothing for the payee's. -/
def Psbt.finalizeRefund (psbt : Psbt) (signature : List UInt8) : BitcoinTx.Tx :=
  psbt.finalize [signature, []]

/-! ## The bound -/

inductive HtlcSpendBranch where
  | claim
  | refund
deriving DecidableEq, Repr

def MAX_WITNESS_SIGNATURE_BYTES : Nat := 73

def compactSizeBytes (n : Nat) : Nat := if n < 0xfd then 1 else if n ≤ 0xffff then 3 else 5

/-- `Number.isSafeInteger` -/
def isSafeLength (n : Nat) : Prop := n ≤ 2 ^ 53 - 1

instance (n : Nat) : Decidable (isSafeLength n) := inferInstanceAs (Decidable (n ≤ 2 ^ 53 - 1))

def itemBytes (length : Nat) : Nat := compactSizeBytes length + length

/-- The lengths of the items before the script, the signature's at its longest. -/
def boundItems : HtlcSpendBranch → List Nat
  | .claim => [HASH_LENGTH, MAX_WITNESS_SIGNATURE_BYTES]
  | .refund => [MAX_WITNESS_SIGNATURE_BYTES, 0]

def htlcSpendVsizeBound (branch : HtlcSpendBranch)
    (witnessScriptLength destinationScriptLength : Nat) : Except String Nat := do
  require (isSafeLength witnessScriptLength ∧ 0 < witnessScriptLength)
    "btc-script: witnessScriptLength must be a positive integer"
  require (isSafeLength destinationScriptLength ∧ 0 < destinationScriptLength)
    "btc-script: destinationScriptLength must be a positive integer"
  let baseBytes := 4 + 1 + (32 + 4 + 1 + 4) + 1 +
    (8 + compactSizeBytes destinationScriptLength + destinationScriptLength) + 4
  let items := boundItems branch
  let witnessBytes := compactSizeBytes (items.length + 1) + (items.map itemBytes).sum +
    itemBytes witnessScriptLength
  return (4 * baseBytes + 2 + witnessBytes + 3) / 4

/-! ## Sizes -/

theorem length_compactSize_le {n : Nat} (h : n ≤ 0xffffffff) :
    (BitcoinTx.compactSize n).length = compactSizeBytes n := by
  rw [BitcoinTx.length_compactSize, compactSizeBytes, if_pos h]

theorem length_item {bytes : List UInt8} (h : bytes.length ≤ 0xffffffff) :
    (BitcoinTx.varBytes bytes).length = itemBytes bytes.length := by
  rw [BitcoinTx.length_varBytes, length_compactSize_le h, itemBytes]

section

variable {psbt : Psbt} {witness : List (List UInt8)}

/-- Without the witness, the size depends on the destination only. -/
theorem length_base (hOutput : psbt.output.script.length ≤ 0xffffffff) :
    (psbt.finalize witness).base.length = 4 + 1 + (32 + 4 + 1 + 4) + 1 +
      (8 + compactSizeBytes psbt.output.script.length + psbt.output.script.length) + 4 := by
  have hTxid := psbt.txid.property
  have hScript := length_item hOutput
  have hOne : (BitcoinTx.compactSize 1).length = 1 := rfl
  have hEmpty : (BitcoinTx.varBytes []).length = 1 := rfl
  simp only [Psbt.finalize, BitcoinTx.Tx.base, BitcoinTx.Tx.body, BitcoinTx.TxIn.bytes,
    BitcoinTx.TxOut.bytes, List.flatMap_cons, List.flatMap_nil, List.append_nil,
    List.length_append, List.length_singleton, Bytes.length_toLe, hTxid, hScript, hOne, hEmpty,
    itemBytes]
  omega

/-- The witness is its items and the script. -/
theorem length_witness (hWitness : ∀ item ∈ witness, item.length ≤ 0xffffffff)
    (hCount : witness.length < 0xfc) (hScript : psbt.witnessScript.length ≤ 0xffffffff) :
    ((psbt.finalize witness).inputs.flatMap BitcoinTx.TxIn.witnessBytes).length =
      1 + (witness.map fun item => itemBytes item.length).sum +
        itemBytes psbt.witnessScript.length := by
  have hItems : ((witness.flatMap BitcoinTx.varBytes).length) =
      (witness.map fun item => itemBytes item.length).sum := by
    rw [List.length_flatMap]
    exact congrArg List.sum (List.map_congr_left fun item hItem => length_item (hWitness item hItem))
  have hPrefix : (BitcoinTx.compactSize (witness ++ [psbt.witnessScript]).length).length = 1 := by
    rw [BitcoinTx.length_compactSize, List.length_append, List.length_singleton]
    exact if_pos (by omega)
  show (BitcoinTx.compactSize (witness ++ [psbt.witnessScript]).length ++
    (witness ++ [psbt.witnessScript]).flatMap BitcoinTx.varBytes ++ []).length = _
  rw [List.append_nil, List.length_append, hPrefix, List.flatMap_append, List.length_append, hItems,
    List.flatMap_singleton, length_item hScript]
  omega

end

/-- The signature is counted at its longest. -/
theorem itemBytes_signature {length : Nat} (h : length ≤ MAX_WITNESS_SIGNATURE_BYTES) :
    itemBytes length ≤ itemBytes MAX_WITNESS_SIGNATURE_BYTES := by
  unfold MAX_WITNESS_SIGNATURE_BYTES at h ⊢
  unfold itemBytes compactSizeBytes
  rw [if_pos (by omega), if_pos (by decide)]
  omega

/-- A spend whose items take no more than those that are counted is no larger than the bound. -/
theorem vsize_le_bound {psbt : Psbt} {witness : List (List UInt8)} {branch : HtlcSpendBranch}
    (hItems : witness.length = (boundItems branch).length)
    (hSizes : (witness.map fun item => itemBytes item.length).sum ≤
      ((boundItems branch).map itemBytes).sum)
    (hWitness : ∀ item ∈ witness, item.length ≤ 0xffffffff)
    (hScript : 0 < psbt.witnessScript.length ∧ psbt.witnessScript.length ≤ 0xffffffff)
    (hOutput : 0 < psbt.output.script.length ∧ psbt.output.script.length ≤ 0xffffffff) :
    ∃ bound, htlcSpendVsizeBound branch psbt.witnessScript.length psbt.output.script.length =
      .ok bound ∧ (psbt.finalize witness).vsize ≤ bound := by
  have hTwo : (boundItems branch).length = 2 := by cases branch <;> rfl
  have hCount : compactSizeBytes ((boundItems branch).length + 1) = 1 := by rw [hTwo]; rfl
  refine ⟨(4 * (4 + 1 + (32 + 4 + 1 + 4) + 1 + (8 + compactSizeBytes psbt.output.script.length +
    psbt.output.script.length) + 4) + 2 + (compactSizeBytes ((boundItems branch).length + 1) +
    ((boundItems branch).map itemBytes).sum + itemBytes psbt.witnessScript.length) + 3) / 4,
    ?_, ?_⟩
  · unfold htlcSpendVsizeBound
    rw [require_bind_eq_ok]
    refine ⟨⟨by unfold isSafeLength; omega, hScript.1⟩, ?_⟩
    rw [require_bind_eq_ok]
    exact ⟨⟨by unfold isSafeLength; omega, hOutput.1⟩, rfl⟩
  · rw [BitcoinTx.Tx.vsize_eq, length_base hOutput.2, length_witness hWitness (by omega) hScript.2,
      hCount]
    omega

/-! ## Spends -/

/-- Only the lock time varies in length, and it takes no more than five bytes. -/
theorem length_witnessScript_le {params : HtlcScriptParams} (hValid : HtlcParamsValid params) :
    (serialize (htlcInstrs params)).length ≤ 119 := by
  have hPayee := hValid.payee
  have hPayer := hValid.payer
  have hHash := hValid.hashLock
  have hTime := length_numBytes_le (locktime_lt hValid).2
  have hSize : (numBytes HASH_LENGTH).length = 1 := by decide
  unfold COMPRESSED_PUBKEY_LENGTH at hPayee hPayer
  unfold HASH_LENGTH at hHash
  simp only [serialize, htlcInstrs, serializeInstr, List.flatMap_cons, List.flatMap_nil,
    List.length_append, List.length_cons, List.length_nil, hPayee, hPayer, hHash, hSize]
  omega

/-- What a spend is made of, as far as its size goes. -/
theorem buildSpend_ok {utxo : FundingUtxo} {witnessScript : List UInt8} {lockTime : Nat}
    {bip32Derivation : List (List UInt8 × Bip32Derivation)}
    {sha256 : List (List UInt8 × List UInt8)} {destinationScriptPubKey : List UInt8}
    {feeSats : Int} {psbt : Psbt}
    (h : buildSpend utxo witnessScript lockTime bip32Derivation sha256 destinationScriptPubKey
      feeSats = .ok psbt) :
    psbt.witnessScript = witnessScript ∧ psbt.sha256 = sha256 ∧
      psbt.output.script = destinationScriptPubKey := by
  unfold buildSpend at h
  obtain ⟨-, h⟩ := require_bind_eq_ok.mp h
  obtain ⟨-, h⟩ := require_bind_eq_ok.mp h
  obtain ⟨txid, -, h⟩ := need_bind_eq_ok.mp h
  obtain ⟨-, h⟩ := require_bind_eq_ok.mp h
  obtain ⟨-, h⟩ := require_bind_eq_ok.mp h
  obtain rfl := Except.ok.inj h
  exact ⟨rfl, rfl, rfl⟩

theorem buildClaimPsbt_ok {params : ClaimPsbtParams} {psbt : Psbt}
    (h : buildClaimPsbt params = .ok psbt) :
    params.preimage.length = HASH_LENGTH ∧ psbt.witnessScript = params.witnessScript ∧
      psbt.sha256 = [(params.hashLock, params.preimage)] ∧
      psbt.output.script = params.destinationScriptPubKey := by
  unfold buildClaimPsbt at h
  obtain ⟨-, -, h⟩ := bind_eq_ok.mp h
  obtain ⟨hPreimage, h⟩ := require_bind_eq_ok.mp h
  obtain ⟨-, h⟩ := require_bind_eq_ok.mp h
  exact ⟨hPreimage, buildSpend_ok h⟩

theorem buildRefundPsbt_ok {rt : Runtime} {params : RefundPsbtParams} {psbt : Psbt}
    (h : buildRefundPsbt rt params = .ok psbt) :
    psbt.witnessScript = params.witnessScript ∧
      psbt.output.script = params.destinationScriptPubKey := by
  unfold buildRefundPsbt at h
  obtain ⟨-, -, h⟩ := bind_eq_ok.mp h
  obtain ⟨-, h⟩ := require_bind_eq_ok.mp h
  obtain ⟨hScript, -, hOutput⟩ := buildSpend_ok h
  exact ⟨hScript, hOutput⟩

/-- The preimage is as long as it is counted. -/
theorem vsize_finalizeClaim_le {params : ClaimPsbtParams} {psbt : Psbt} {signature : List UInt8}
    (h : buildClaimPsbt params = .ok psbt)
    (hScript : 0 < params.witnessScript.length ∧ params.witnessScript.length ≤ 0xffffffff)
    (hDestination : 0 < params.destinationScriptPubKey.length ∧
      params.destinationScriptPubKey.length ≤ 0xffffffff)
    (hSignature : signature.length ≤ MAX_WITNESS_SIGNATURE_BYTES) :
    ∃ bound, htlcSpendVsizeBound .claim params.witnessScript.length
        params.destinationScriptPubKey.length = .ok bound ∧
      (psbt.finalizeClaim signature).vsize ≤ bound := by
  obtain ⟨hPreimage, hWitnessScript, hSha256, hOutput⟩ := buildClaimPsbt_ok h
  rw [← hWitnessScript] at hScript ⊢
  rw [← hOutput] at hDestination ⊢
  have hItem := itemBytes_signature hSignature
  unfold MAX_WITNESS_SIGNATURE_BYTES at hSignature
  unfold HASH_LENGTH at hPreimage
  have hWitness : psbt.sha256.map Prod.snd ++ [signature] = [params.preimage, signature] := by
    rw [hSha256]
    rfl
  refine vsize_le_bound ?_ ?_ ?_ hScript hDestination
  · rw [hWitness]
    rfl
  · rw [hWitness]
    simp only [boundItems, List.map_cons, List.map_nil, List.sum_cons, List.sum_nil, hPreimage,
      HASH_LENGTH]
    omega
  · rw [hWitness]
    simp only [List.mem_cons, List.not_mem_nil, or_false]
    rintro item (rfl | rfl)
    · omega
    · omega

/-- The item that stands for the payee's signature is empty. -/
theorem vsize_finalizeRefund_le {rt : Runtime} {params : RefundPsbtParams} {psbt : Psbt}
    {signature : List UInt8} (h : buildRefundPsbt rt params = .ok psbt)
    (hScript : 0 < params.witnessScript.length ∧ params.witnessScript.length ≤ 0xffffffff)
    (hDestination : 0 < params.destinationScriptPubKey.length ∧
      params.destinationScriptPubKey.length ≤ 0xffffffff)
    (hSignature : signature.length ≤ MAX_WITNESS_SIGNATURE_BYTES) :
    ∃ bound, htlcSpendVsizeBound .refund params.witnessScript.length
        params.destinationScriptPubKey.length = .ok bound ∧
      (psbt.finalizeRefund signature).vsize ≤ bound := by
  obtain ⟨hWitnessScript, hOutput⟩ := buildRefundPsbt_ok h
  rw [← hWitnessScript] at hScript ⊢
  rw [← hOutput] at hDestination ⊢
  have hItem := itemBytes_signature hSignature
  unfold MAX_WITNESS_SIGNATURE_BYTES at hSignature
  refine vsize_le_bound rfl ?_ ?_ hScript hDestination
  · simp only [boundItems, List.map_cons, List.map_nil, List.sum_cons, List.sum_nil,
      List.length_nil]
    omega
  · simp only [List.mem_cons, List.not_mem_nil, or_false]
    rintro item (rfl | rfl)
    · omega
    · simp

/-- No spend of a lock is larger than the bound that its fee is worked out with, by the hash branch
or by the timelock branch. The destination is any script that a transaction has room for. -/
theorem vsize_le_htlcSpendVsizeBound {rt : BtcRuntime} (hEncode : EncodesElements rt)
    {params : HtlcScriptParams} {network : BtcNetwork} {script : HtlcScript}
    (hScript : buildHtlcScript rt params network = .ok script)
    {destination : List UInt8} (hDestination : 0 < destination.length)
    (hRoom : destination.length ≤ 0xffffffff)
    {signature : List UInt8} (hSignature : signature.length ≤ 73) :
    (∀ claim psbt, claim.witnessScript = script.witnessScript →
      claim.destinationScriptPubKey = destination → buildClaimPsbt claim = .ok psbt →
      ∃ bound, htlcSpendVsizeBound .claim script.witnessScript.length destination.length =
        .ok bound ∧ (psbt.finalizeClaim signature).vsize ≤ bound) ∧
    (∀ refund psbt, refund.witnessScript = script.witnessScript →
      refund.destinationScriptPubKey = destination →
      buildRefundPsbt rt.toRuntime refund = .ok psbt →
      ∃ bound, htlcSpendVsizeBound .refund script.witnessScript.length destination.length =
        .ok bound ∧ (psbt.finalizeRefund signature).vsize ≤ bound) := by
  have hValid := (buildHtlcScript_ok hScript).1
  have hLong := length_witnessScript hValid
  have hShort := length_witnessScript_le hValid
  rw [← witnessScript_eq hEncode hScript] at hLong hShort
  have hSizes : 0 < script.witnessScript.length ∧ script.witnessScript.length ≤ 0xffffffff :=
    ⟨by omega, by omega⟩
  constructor
  · intro claim psbt hWitnessScript hOutput h
    rw [← hWitnessScript] at hSizes ⊢
    rw [← hOutput] at hDestination hRoom ⊢
    exact vsize_finalizeClaim_le h hSizes ⟨hDestination, hRoom⟩ hSignature
  · intro refund psbt hWitnessScript hOutput h
    rw [← hWitnessScript] at hSizes ⊢
    rw [← hOutput] at hDestination hRoom ⊢
    exact vsize_finalizeRefund_le h hSizes ⟨hDestination, hRoom⟩ hSignature

namespace BtcSample

def destination : List UInt8 := [0x00, 0x14] ++ List.replicate 20 0x11

def utxo : FundingUtxo := ⟨txid, 0, scriptPubKey, 50000⟩

def claimParams : ClaimPsbtParams where
  utxo := utxo
  witnessScript := witnessScript
  hashLock := hash
  preimage := List.replicate 32 0x07
  payeePubkey := payee
  payeeDerivation := ⟨0, [84, 1, 0]⟩
  destinationScriptPubKey := destination
  feeSats := 1000

def refundParams : RefundPsbtParams where
  utxo := utxo
  witnessScript := witnessScript
  locktime := 1800000000
  payerPubkey := payer
  payerDerivation := ⟨0, [84, 1, 1]⟩
  destinationScriptPubKey := destination
  feeSats := 1000

example : htlcSpendVsizeBound .claim witnessScript.length destination.length = .ok 140 ∧
    htlcSpendVsizeBound .refund witnessScript.length destination.length = .ok 132 := by
  decide

end BtcSample

theorem vsize_le_htlcSpendVsizeBound_sample :
    (∃ psbt bound, buildClaimPsbt BtcSample.claimParams = .ok psbt ∧
      htlcSpendVsizeBound .claim BtcSample.htlcScript.witnessScript.length
        BtcSample.destination.length = .ok bound ∧
      (psbt.finalizeClaim BtcSample.refundSignature).vsize ≤ bound) ∧
    ∃ psbt bound, buildRefundPsbt BtcSample.runtime.toRuntime BtcSample.refundParams = .ok psbt ∧
      htlcSpendVsizeBound .refund BtcSample.htlcScript.witnessScript.length
        BtcSample.destination.length = .ok bound ∧
      (psbt.finalizeRefund BtcSample.refundSignature).vsize ≤ bound := by
  have hEncode : EncodesElements BtcSample.runtime := fun _ _ h => h
  have hLength : BtcSample.refundSignature.length = 71 := by decide
  obtain ⟨hClaims, hRefunds⟩ := vsize_le_htlcSpendVsizeBound hEncode BtcSample.builds
    (show 0 < BtcSample.destination.length by decide)
    (show BtcSample.destination.length ≤ 0xffffffff by decide)
    (show BtcSample.refundSignature.length ≤ 73 by rw [hLength]; decide)
  have hClaim : (buildClaimPsbt BtcSample.claimParams).isOk = true := by decide
  have hRefund : (buildRefundPsbt BtcSample.runtime.toRuntime BtcSample.refundParams).isOk =
      true := by
    decide
  obtain ⟨claim, hClaim⟩ := isOk_iff.mp hClaim
  obtain ⟨refund, hRefund⟩ := isOk_iff.mp hRefund
  obtain ⟨claimBound, hClaimBound⟩ := hClaims _ claim rfl rfl hClaim
  obtain ⟨refundBound, hRefundBound⟩ := hRefunds _ refund rfl rfl hRefund
  exact ⟨⟨claim, claimBound, hClaim, hClaimBound⟩, refund, refundBound, hRefund, hRefundBound⟩

end SwapDesk.Rails
