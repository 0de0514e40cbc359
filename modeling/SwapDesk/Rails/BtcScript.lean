import SwapDesk.Lib.BitcoinScript
import SwapDesk.Rails.NearEvidence

/-!
# SwapDesk — the Bitcoin HTLC script

`src/rails/btc-script.ts`: the witness script a leg's coins are locked under, and
the lock time it takes from the terms. The package that serialises scripts and
wraps them is a parameter.

Main results: `locktimeFromRefundAfterMs_ok` and `buildHtlcScript_ok`, what the
two functions let pass.
-/

namespace SwapDesk.Rails

open Check

def BIP65_THRESHOLD : Int := 500000000

def MAX_LOCKTIME : Int := 0x7fffffff

structure BtcNetwork where
  bech32 : String
  pubKeyHash : Nat
  scriptHash : Nat
  wif : Nat
deriving DecidableEq, Repr

def BTC_REGTEST_NETWORK : BtcNetwork := ⟨"bcrt", 111, 196, 239⟩

def BTC_SIGNET_NETWORK : BtcNetwork := ⟨"tb", 111, 196, 239⟩

/-- One entry of the list that `Script.encode` takes. -/
inductive ScriptElement where
  | bytes (data : List UInt8)
  | number (value : Int)
  | op (code : BitcoinScript.Opcode)
deriving DecidableEq, Repr

/-- An output script and its address. -/
structure Payment where
  script : List UInt8
  address : String
deriving DecidableEq, Repr

/-- One output of a decoded transaction. -/
structure TxOutput where
  script : Option (List UInt8)
  amount : Option Int
deriving DecidableEq, Repr

/-- What the Bitcoin reader uses besides the runtime. -/
structure BtcRuntime extends Runtime where
  /-- `Script.encode` -/
  scriptEncode : List ScriptElement → Except String (List UInt8)
  p2wsh : List UInt8 → BtcNetwork → Except String Payment
  /-- The outputs of `Transaction.fromRaw`; `none` when it throws. -/
  transactionFromRaw : List UInt8 → Option (List TxOutput)

def COMPRESSED_PUBKEY_LENGTH : Nat := 33
def HASH_LENGTH : Nat := 32

def assertCompressedPubkey (label : String) (pubkey : List UInt8) : Except String Unit :=
  require (pubkey.length = COMPRESSED_PUBKEY_LENGTH ∧
      (pubkey.head? = some 0x02 ∨ pubkey.head? = some 0x03))
    ("btc-script: " ++ label ++ " must be a 33-byte compressed public key (0x02/0x03 prefix)")

/-- In whole seconds, above the threshold below which a lock time is a height. -/
def locktimeFromRefundAfterMs (rt : Runtime) (refundAfterMs : Int) : Except String Int := do
  require (refundAfterMs % 1000 = 0)
    ("btc-script: refundAfterMs must be a whole number of seconds (a multiple of 1000)")
  let t := refundAfterMs / 1000
  require (BIP65_THRESHOLD < t)
    ("btc-script: locktime " ++ rt.intText t ++ " is at or below the BIP65 height/time threshold ("
    ++
      rt.intText BIP65_THRESHOLD ++ "); refusing an ambiguous CLTV value")
  require (t ≤ MAX_LOCKTIME)
    ("btc-script: locktime " ++ rt.intText t ++ " exceeds miniscript's after() maximum (" ++
      rt.intText MAX_LOCKTIME ++ "); the wallet could not sign the refund")
  return t

structure HtlcScriptParams where
  hashLock : List UInt8
  payeePubkey : List UInt8
  payerPubkey : List UInt8
  locktime : Int
deriving DecidableEq, Repr

structure HtlcScript where
  witnessScript : List UInt8
  scriptPubKey : List UInt8
  address : String
  locktime : Int
deriving DecidableEq, Repr

/-- `andor(pk(PAYEE),sha256(H),and_v(v:pk(PAYER),after(T)))` as Bitcoin Core compiles it. -/
def htlcElements (params : HtlcScriptParams) : List ScriptElement :=
  [.bytes params.payeePubkey, .op .checksig, .op .notif, .bytes params.payerPubkey,
    .op .checksigverify, .number params.locktime, .op .checklocktimeverify, .op .else, .op .size,
    .number 32, .op .equalverify, .op .sha256, .bytes params.hashLock, .op .equal, .op .endif]

def buildHtlcScript (rt : BtcRuntime) (params : HtlcScriptParams) (network : BtcNetwork) :
    Except String HtlcScript := do
  assertCompressedPubkey "payeePubkey" params.payeePubkey
  assertCompressedPubkey "payerPubkey" params.payerPubkey
  require (params.hashLock.length = HASH_LENGTH)
    "btc-script: hashLock must be 32 bytes (sha256 of the preimage)"
  require (BIP65_THRESHOLD < params.locktime ∧ params.locktime ≤ MAX_LOCKTIME)
    ("btc-script: locktime must be an integer strictly above the BIP65 threshold (" ++
      rt.intText BIP65_THRESHOLD ++ ") and at most " ++ rt.intText MAX_LOCKTIME ++
      "; use locktimeFromRefundAfterMs")
  let witnessScript ← rt.scriptEncode (htlcElements params)
  let wrapped ← rt.p2wsh witnessScript network
  return ⟨witnessScript, wrapped.script, wrapped.address, params.locktime⟩

/-! ## `Script.encode` -/

/-- The instruction that is written for an element. Data that needs a longer push is left open, and
so are the numbers that have opcodes of their own. -/
def ScriptElement.instr? : ScriptElement → Option BitcoinScript.Instr
  | .bytes data => if data.length < 76 then some (.push data) else none
  | .number value => if 16 < value then some (.push (BitcoinScript.numBytes value.toNat)) else none
  | .op code => some (.op code)

/-- `Script.encode`, of elements that each are one instruction. -/
def encodeElements (elements : List ScriptElement) : Except String (List UInt8) :=
  need ((elements.mapM ScriptElement.instr?).map BitcoinScript.serialize)
    "Script.encode: element left open"

/-! ## What the functions let pass -/

theorem locktimeFromRefundAfterMs_ok {rt : Runtime} {refundAfterMs t : Int}
    (h : locktimeFromRefundAfterMs rt refundAfterMs = .ok t) :
    refundAfterMs = 1000 * t ∧ BIP65_THRESHOLD < t ∧ t ≤ MAX_LOCKTIME := by
  unfold locktimeFromRefundAfterMs at h
  simp only [bind_eq_ok, require_eq_ok, exists_const] at h
  obtain ⟨hWhole, hAbove, hBelow, h⟩ := h
  obtain rfl := Except.ok.inj h
  exact ⟨by omega, hAbove, hBelow⟩

/-- The parameters of a script that was built. -/
structure HtlcParamsValid (params : HtlcScriptParams) : Prop where
  payee : params.payeePubkey.length = COMPRESSED_PUBKEY_LENGTH
  payer : params.payerPubkey.length = COMPRESSED_PUBKEY_LENGTH
  hashLock : params.hashLock.length = HASH_LENGTH
  above : BIP65_THRESHOLD < params.locktime
  below : params.locktime ≤ MAX_LOCKTIME

theorem buildHtlcScript_ok {rt : BtcRuntime} {params : HtlcScriptParams} {network : BtcNetwork}
    {script : HtlcScript} (h : buildHtlcScript rt params network = .ok script) :
    HtlcParamsValid params ∧ rt.scriptEncode (htlcElements params) = .ok script.witnessScript := by
  unfold buildHtlcScript assertCompressedPubkey at h
  simp only [bind_eq_ok, require_eq_ok, exists_const] at h
  obtain ⟨hPayee, hPayer, hHash, ⟨hAbove, hBelow⟩, witnessScript, hEncode, wrapped, -, h⟩ := h
  obtain rfl := Except.ok.inj h
  exact ⟨⟨hPayee.1, hPayer.1, hHash, hAbove, hBelow⟩, hEncode⟩

end SwapDesk.Rails
