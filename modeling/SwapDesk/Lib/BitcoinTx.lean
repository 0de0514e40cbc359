import SwapDesk.Lib.Bytes

/-!
# Bitcoin transactions

A transaction as it is serialised, with its witnesses and without them, and the size that fees are
paid for. `vsize_eq` has the virtual size by the lengths of the two parts.
-/

namespace BitcoinTx

/-- The prefix of a list or of a run of bytes, with its length. -/
def compactSize (n : Nat) : List UInt8 :=
  if n < 0xfd then Bytes.toLe 1 n
  else if n ≤ 0xffff then 0xfd :: Bytes.toLe 2 n
  else if n ≤ 0xffffffff then 0xfe :: Bytes.toLe 4 n
  else 0xff :: Bytes.toLe 8 n

def varBytes (bytes : List UInt8) : List UInt8 := compactSize bytes.length ++ bytes

structure TxIn where
  /-- In the order that it is serialised in. -/
  txid : { bytes : List UInt8 // bytes.length = 32 }
  vout : Nat
  scriptSig : List UInt8
  sequence : Nat
  witness : List (List UInt8)

structure TxOut where
  amount : Nat
  script : List UInt8

structure Tx where
  version : Nat
  inputs : List TxIn
  outputs : List TxOut
  lockTime : Nat

def TxIn.bytes (input : TxIn) : List UInt8 :=
  input.txid.val ++ (Bytes.toLe 4 input.vout ++ (varBytes input.scriptSig ++
    Bytes.toLe 4 input.sequence))

def TxIn.witnessBytes (input : TxIn) : List UInt8 :=
  compactSize input.witness.length ++ input.witness.flatMap varBytes

def TxOut.bytes (output : TxOut) : List UInt8 :=
  Bytes.toLe 8 output.amount ++ varBytes output.script

/-- What stands between the version and the witnesses. -/
def Tx.body (tx : Tx) : List UInt8 :=
  compactSize tx.inputs.length ++ (tx.inputs.flatMap TxIn.bytes ++
    (compactSize tx.outputs.length ++ tx.outputs.flatMap TxOut.bytes))

/-- Without the witnesses. -/
def Tx.base (tx : Tx) : List UInt8 :=
  Bytes.toLe 4 tx.version ++ (tx.body ++ Bytes.toLe 4 tx.lockTime)

/-- With a marker, a flag and the witnesses. -/
def Tx.bytes (tx : Tx) : List UInt8 :=
  Bytes.toLe 4 tx.version ++ ([0x00, 0x01] ++ (tx.body ++
    (tx.inputs.flatMap TxIn.witnessBytes ++ Bytes.toLe 4 tx.lockTime)))

def Tx.weight (tx : Tx) : Nat := 3 * tx.base.length + tx.bytes.length

/-- A quarter of the weight, rounded up. -/
def Tx.vsize (tx : Tx) : Nat := (tx.weight + 3) / 4

theorem length_compactSize (n : Nat) :
    (compactSize n).length =
      if n < 0xfd then 1 else if n ≤ 0xffff then 3 else if n ≤ 0xffffffff then 5 else 9 := by
  unfold compactSize
  split
  · exact Bytes.length_toLe 1 n
  · split
    · rw [List.length_cons, Bytes.length_toLe]
    · split
      · rw [List.length_cons, Bytes.length_toLe]
      · rw [List.length_cons, Bytes.length_toLe]

theorem length_varBytes (bytes : List UInt8) :
    (varBytes bytes).length = (compactSize bytes.length).length + bytes.length := by
  rw [varBytes, List.length_append]

theorem Tx.length_bytes (tx : Tx) :
    tx.bytes.length = tx.base.length + 2 + (tx.inputs.flatMap TxIn.witnessBytes).length := by
  unfold Tx.bytes Tx.base
  simp only [List.length_append, List.length_cons, List.length_nil]
  omega

/-- A byte of a witness counts for a quarter. -/
theorem Tx.vsize_eq (tx : Tx) :
    tx.vsize =
      (4 * tx.base.length + 2 + (tx.inputs.flatMap TxIn.witnessBytes).length + 3) / 4 := by
  unfold Tx.vsize Tx.weight
  rw [tx.length_bytes]
  congr 1
  omega

end BitcoinTx
