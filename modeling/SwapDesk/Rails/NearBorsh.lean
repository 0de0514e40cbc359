import SwapDesk.Lib.Grammar
import SwapDesk.Lib.Utf8
import SwapDesk.Lib.Utf16
import SwapDesk.Rails.SolKeys

/-!
# SwapDesk — NEAR transactions in Borsh

`src/rails/near-borsh.ts`: the bytes of a transaction and of a signed one, and what
`decodeSignedTransactionHeader` reads back of the latter. A text is the code units that the
language has for it.

Main result: `borsh_faithful_iff`. Transactions that differ are written apart, as far as their
texts have an encoding at all, and the header that is read back is the one that was written unless
the signer id begins with a byte order mark, which the text decoder drops.
-/

namespace SwapDesk.Rails.Borsh

open Check Grammar

/-! ## The writer -/

abbrev Text := List UInt16

def writeUint (type : String) (width : Nat) (value : Int) : Except String (List UInt8) := do
  require (0 ≤ value ∧ value < 256 ^ width) s!"near-borsh: {type} out of range: {value}"
  return Bytes.toLe width value.toNat

def writeU8 : Int → Except String (List UInt8) := writeUint "u8" 1

def writeU32 : Int → Except String (List UInt8) := writeUint "u32" 4

def writeU64 : Int → Except String (List UInt8) := writeUint "u64" 8

def writeU128 : Int → Except String (List UInt8) := writeUint "u128" 16

def writeByteVec (bytes : List UInt8) : Except String (List UInt8) := do
  return (← writeU32 bytes.length) ++ bytes

/-- `TextEncoder.encode` -/
def textEncode (text : Text) : List UInt8 := Utf8.encode (Utf16.chars text)

def writeString (value : Text) : Except String (List UInt8) := writeByteVec (textEncode value)

/-! ## Transactions -/

structure Ed25519PublicKey where
  data : List UInt8
deriving DecidableEq, Repr

structure Ed25519Signature where
  data : List UInt8
deriving DecidableEq, Repr

def writePublicKey (key : Ed25519PublicKey) : Except String (List UInt8) := do
  require (key.data.length = 32) "near-borsh: ed25519 public key must be exactly 32 bytes"
  return (← writeU8 0) ++ key.data

def writeSignature (sig : Ed25519Signature) : Except String (List UInt8) := do
  require (sig.data.length = 64) "near-borsh: ed25519 signature must be exactly 64 bytes"
  return (← writeU8 0) ++ sig.data

inductive NearKeyPermission where
  | FullAccess
  | functionCall (allowance : Option Int) (receiverId : Text) (methodNames : List Text)
deriving DecidableEq, Repr

inductive NearAction where
  | CreateAccount
  | DeployContract (code : List UInt8)
  | FunctionCall (methodName : Text) (args : List UInt8) (gas deposit : Int)
  | Transfer (deposit : Int)
  | AddKey (publicKey : Ed25519PublicKey) (nonce : Int) (permission : NearKeyPermission)
  | DeleteKey (publicKey : Ed25519PublicKey)
deriving DecidableEq, Repr

def writeAllowance : Option Int → Except String (List UInt8)
  | none => writeU8 0
  | some allowance => do return (← writeU8 1) ++ (← writeU128 allowance)

/-- The permission of an `AddKey`. -/
def writePermission : NearKeyPermission → Except String (List UInt8)
  | .FullAccess => writeU8 1
  | .functionCall allowance receiverId methodNames => do
    let tag ← writeU8 0
    let allowance ← writeAllowance allowance
    let receiverId ← writeString receiverId
    let count ← writeU32 methodNames.length
    let names ← methodNames.mapM writeString
    return tag ++ (allowance ++ (receiverId ++ (count ++ names.flatten)))

def writeAction : NearAction → Except String (List UInt8)
  | .CreateAccount => writeU8 0
  | .DeployContract code => do return (← writeU8 1) ++ (← writeByteVec code)
  | .FunctionCall methodName args gas deposit => do
    let tag ← writeU8 2
    let methodName ← writeString methodName
    let args ← writeByteVec args
    let gas ← writeU64 gas
    let deposit ← writeU128 deposit
    return tag ++ (methodName ++ (args ++ (gas ++ deposit)))
  | .Transfer deposit => do return (← writeU8 3) ++ (← writeU128 deposit)
  | .AddKey publicKey nonce permission => do
    let tag ← writeU8 5
    let publicKey ← writePublicKey publicKey
    let nonce ← writeU64 nonce
    let permission ← writePermission permission
    return tag ++ (publicKey ++ (nonce ++ permission))
  | .DeleteKey publicKey => do return (← writeU8 6) ++ (← writePublicKey publicKey)

structure NearTransactionV0 where
  signerId : Text
  publicKey : Ed25519PublicKey
  nonce : Int
  receiverId : Text
  blockHash : List UInt8
  actions : List NearAction
deriving DecidableEq, Repr

def encodeTransactionV0 (tx : NearTransactionV0) : Except String (List UInt8) := do
  require (tx.blockHash.length = 32) "near-borsh: blockHash must be exactly 32 bytes"
  let signerId ← writeString tx.signerId
  let publicKey ← writePublicKey tx.publicKey
  let nonce ← writeU64 tx.nonce
  let receiverId ← writeString tx.receiverId
  let count ← writeU32 tx.actions.length
  let actions ← tx.actions.mapM writeAction
  return signerId ++ (publicKey ++ (nonce ++ (receiverId ++
    (tx.blockHash ++ (count ++ actions.flatten)))))

structure NearSignedTransaction where
  transaction : NearTransactionV0
  signature : Ed25519Signature
deriving DecidableEq, Repr

def encodeSignedTransaction (signed : NearSignedTransaction) : Except String (List UInt8) := do
  return (← encodeTransactionV0 signed.transaction) ++ (← writeSignature signed.signature)

/-! ## The header of a signed transaction -/

structure SignedTransactionHeader where
  signerId : Text
  publicKey : Ed25519PublicKey
  nonce : Int
  txHashBase58 : String
deriving DecidableEq, Repr

/-- What `decodeSignedTransactionHeader` throws, a read past the end told from the rest. -/
inductive HeaderError where
  | refused (message : String)
  | pastEnd
deriving DecidableEq, Repr

/-- The bytes from `offset` on, as many as asked for. -/
def bytesAt (bytes : List UInt8) (offset count : Nat) : Except HeaderError (List UInt8) := do
  require (offset + count ≤ bytes.length) HeaderError.pastEnd
  return (bytes.drop offset).take count

/-- The byte order mark. -/
def BOM : Char := '\uFEFF'

def dropBom : List Char → List Char
  | [] => []
  | c :: text => if c = BOM then text else c :: text

/-- `TextDecoder.decode`, which drops a byte order mark. -/
def textDecode (bytes : List UInt8) : Option Text :=
  (Utf8.decode bytes).map fun text => Utf16.encode (dropBom text)

def SIGNATURE_BYTES : Nat := 1 + 64

def decodeSignedTransactionHeader (sha256 : List UInt8 → List UInt8) (signedBytes : List UInt8) :
    Except HeaderError SignedTransactionHeader := do
  require (4 + 1 + 33 + 8 + SIGNATURE_BYTES ≤ signedBytes.length)
    (HeaderError.refused "near-borsh: signed transaction is too short")
  let idLength := Bytes.fromLe (← bytesAt signedBytes 0 4)
  require (¬ (idLength = 0 ∨ 64 < idLength ∨
      signedBytes.length - SIGNATURE_BYTES < 4 + idLength + 33 + 8))
    (HeaderError.refused "near-borsh: signed transaction has an implausible signer id length")
  let signerId ← need (textDecode (← bytesAt signedBytes 4 idLength))
    (HeaderError.refused "The encoded data was not valid for encoding utf-8")
  require ((← bytesAt signedBytes (4 + idLength) 1) = [0])
    (HeaderError.refused "near-borsh: signed transaction key is not ed25519")
  let key ← bytesAt signedBytes (4 + idLength + 1) 32
  let nonce := Bytes.fromLe (← bytesAt signedBytes (4 + idLength + 33) 8)
  require ((← bytesAt signedBytes (signedBytes.length - SIGNATURE_BYTES) 1) = [0])
    (HeaderError.refused "near-borsh: signed transaction signature is not ed25519")
  let txBytes ← bytesAt signedBytes 0 (signedBytes.length - SIGNATURE_BYTES)
  return ⟨signerId, ⟨key⟩, nonce, String.ofList (base58Encode (sha256 txBytes))⟩

/-! ## Texts that are written alike -/

def NearKeyPermission.toWellFormed : NearKeyPermission → NearKeyPermission
  | .FullAccess => .FullAccess
  | .functionCall allowance receiverId methodNames =>
    .functionCall allowance (Utf16.toWellFormed receiverId) (methodNames.map Utf16.toWellFormed)

def NearAction.toWellFormed : NearAction → NearAction
  | .FunctionCall methodName args gas deposit =>
    .FunctionCall (Utf16.toWellFormed methodName) args gas deposit
  | .AddKey publicKey nonce permission => .AddKey publicKey nonce permission.toWellFormed
  | action => action

/-- The transaction with its texts as they can be encoded. -/
def NearTransactionV0.toWellFormed (tx : NearTransactionV0) : NearTransactionV0 :=
  { tx with
    signerId := Utf16.toWellFormed tx.signerId
    receiverId := Utf16.toWellFormed tx.receiverId
    actions := tx.actions.map NearAction.toWellFormed }

def NearSignedTransaction.toWellFormed (signed : NearSignedTransaction) : NearSignedTransaction :=
  { signed with transaction := signed.transaction.toWellFormed }

/-! ## The parts of a transaction -/

/-- What a writer writes tells `f` of it. -/
def Tells {α β : Type} (write : α → Except String (List UInt8)) (f : α → β) : Prop :=
  Determines (fun a w => write a = .ok w) f

/-- A number is written when it fits its width, little end first. -/
theorem writeUint_eq_ok {type : String} {width : Nat} {value : Int} {w : List UInt8} :
    writeUint type width value = .ok w ↔
      (0 ≤ value ∧ value < 256 ^ width) ∧ w = Bytes.toLe width value.toNat := by
  unfold writeUint
  rw [require_bind_eq_ok]
  refine and_congr_right fun _ => ⟨fun h => (Except.ok.inj h).symm, ?_⟩
  rintro rfl
  rfl

/-- A written number tells itself. -/
theorem tells_writeUint (type : String) (width : Nat) : Tells (writeUint type width) id := by
  refine Determines.of_length (n := width) (fun value w h => ?_) fun a b w ha hb => ?_
  · obtain ⟨-, rfl⟩ := writeUint_eq_ok.mp h
    exact Bytes.length_toLe width _
  · obtain ⟨⟨hPos, hLt⟩, rfl⟩ := writeUint_eq_ok.mp ha
    obtain ⟨⟨hPos', hLt'⟩, hEq⟩ := writeUint_eq_ok.mp hb
    have hNat := congrArg Bytes.fromLe hEq
    rw [Bytes.fromLe_toLe, Bytes.fromLe_toLe, Nat.mod_eq_of_lt (by zify; omega),
      Nat.mod_eq_of_lt (by zify; omega)] at hNat
    show a = b
    omega

/-- A written byte vector tells itself. -/
theorem tells_writeByteVec : Tells writeByteVec id := by
  intro a b u v r s hu hv h
  obtain ⟨count, hCount, hu⟩ := bind_eq_ok.mp hu
  obtain ⟨count', hCount', hv⟩ := bind_eq_ok.mp hv
  obtain rfl := Except.ok.inj hu
  obtain rfl := Except.ok.inj hv
  rw [List.append_assoc, List.append_assoc] at h
  obtain ⟨hLength, h⟩ := tells_writeUint _ _ hCount hCount' h
  exact List.append_inj h (Int.ofNat_inj.mp hLength)

/-- A written string tells its well-formed text. -/
theorem tells_writeString : Tells writeString Utf16.toWellFormed := by
  intro a b u v r s hu hv h
  obtain ⟨hBytes, hRest⟩ := tells_writeByteVec hu hv h
  exact ⟨Utf16.toWellFormed_eq_iff.mpr (Utf8.encode_inj.mp hBytes), hRest⟩

/-- A public key is written when it has 32 bytes. -/
theorem writePublicKey_eq_ok {key : Ed25519PublicKey} {w : List UInt8} :
    writePublicKey key = .ok w ↔ key.data.length = 32 ∧ w = 0 :: key.data := by
  unfold writePublicKey
  rw [require_bind_eq_ok]
  refine and_congr_right fun _ => ⟨fun h => (Except.ok.inj h).symm, ?_⟩
  rintro rfl
  rfl

/-- A signature is written when it has 64 bytes. -/
theorem writeSignature_eq_ok {sig : Ed25519Signature} {w : List UInt8} :
    writeSignature sig = .ok w ↔ sig.data.length = 64 ∧ w = 0 :: sig.data := by
  unfold writeSignature
  rw [require_bind_eq_ok]
  refine and_congr_right fun _ => ⟨fun h => (Except.ok.inj h).symm, ?_⟩
  rintro rfl
  rfl

/-- A written public key tells itself. -/
theorem tells_writePublicKey : Tells writePublicKey id := by
  refine Determines.of_length (n := 33) (fun key w h => ?_) fun a b w ha hb => ?_
  · obtain ⟨hLength, rfl⟩ := writePublicKey_eq_ok.mp h
    rw [List.length_cons, hLength]
  · obtain ⟨-, rfl⟩ := writePublicKey_eq_ok.mp ha
    obtain ⟨-, hEq⟩ := writePublicKey_eq_ok.mp hb
    obtain ⟨a⟩ := a
    obtain ⟨b⟩ := b
    exact congrArg Ed25519PublicKey.mk (List.cons.inj hEq).2

/-- As many parts as a count in front of them says. -/
theorem tells_counted {α β : Type} {write : α → Except String (List UInt8)} {f : α → β}
    (hWrite : Tells write f) {as bs : List α} {count count' : List UInt8}
    {us vs : List (List UInt8)} {r s : List UInt8} (hCount : writeU32 as.length = .ok count)
    (hCount' : writeU32 bs.length = .ok count') (hu : as.mapM write = .ok us)
    (hv : bs.mapM write = .ok vs)
    (h : count ++ (us.flatten ++ r) = count' ++ (vs.flatten ++ s)) :
    as.map f = bs.map f ∧ r = s := by
  obtain ⟨hLength, h⟩ := tells_writeUint _ _ hCount hCount' h
  exact hWrite.forall₂ (mapM_eq_ok.mp hu) (mapM_eq_ok.mp hv) (Int.ofNat_inj.mp hLength) h

/-- What comes after a tag. -/
theorem tagged_eq_ok {tag : UInt8} {value : Int} {body : Except String (List UInt8)}
    {w : List UInt8} (hTag : writeU8 value = .ok [tag]) :
    (do return (← writeU8 value) ++ (← body)) = .ok w ↔ ∃ v, body = .ok v ∧ w = tag :: v := by
  rw [hTag]
  show (body >>= fun v => Except.ok ([tag] ++ v)) = .ok w ↔ _
  rw [bind_eq_ok]
  refine exists_congr fun v => and_congr_right fun _ => ?_
  exact ⟨fun h => (Except.ok.inj h).symm, fun h => congrArg Except.ok h.symm⟩

/-- A written allowance tells itself. -/
theorem tells_writeAllowance : Tells writeAllowance id := by
  intro a b u v r s hu hv h
  have hSome : ∀ {allowance : Int} {w : List UInt8}, writeAllowance (some allowance) = .ok w →
      ∃ v, writeU128 allowance = .ok v ∧ w = 1 :: v :=
    fun h => (tagged_eq_ok (by rfl)).mp h
  cases a with
  -- the first byte tells whether there is an allowance
  | none =>
    obtain rfl : [0] = u := Except.ok.inj hu
    cases b with
    | none =>
      obtain rfl : [0] = v := Except.ok.inj hv
      exact ⟨rfl, (List.cons.inj h).2⟩
    | some allowance =>
      obtain ⟨v, -, rfl⟩ := hSome hv
      exact absurd (List.cons.inj h).1 (by decide)
  | some allowance =>
    obtain ⟨u, hAllowance, rfl⟩ := hSome hu
    cases b with
    | none =>
      obtain rfl : [0] = v := Except.ok.inj hv
      exact absurd (List.cons.inj h).1 (by decide)
    | some allowance' =>
      obtain ⟨v, hAllowance', rfl⟩ := hSome hv
      obtain ⟨hEq, hRest⟩ := tells_writeUint _ _ hAllowance hAllowance' (List.cons.inj h).2
      exact ⟨congrArg some hEq, hRest⟩

/-- The parts of a written function-call permission. -/
theorem writePermission_ok {allowance : Option Int} {receiverId : Text}
    {methodNames : List Text} {w : List UInt8}
    (h : writePermission (.functionCall allowance receiverId methodNames) = .ok w) :
    ∃ a r count names, writeAllowance allowance = .ok a ∧ writeString receiverId = .ok r ∧
      writeU32 methodNames.length = .ok count ∧ methodNames.mapM writeString = .ok names ∧
      w = 0 :: (a ++ (r ++ (count ++ names.flatten))) := by
  obtain ⟨tag, hTag, h⟩ := bind_eq_ok.mp h
  obtain rfl : [0] = tag := Except.ok.inj hTag
  obtain ⟨a, ha, h⟩ := bind_eq_ok.mp h
  obtain ⟨r, hr, h⟩ := bind_eq_ok.mp h
  obtain ⟨count, hCount, h⟩ := bind_eq_ok.mp h
  obtain ⟨names, hNames, h⟩ := bind_eq_ok.mp h
  exact ⟨a, r, count, names, ha, hr, hCount, hNames, (Except.ok.inj h).symm⟩

/-- A written permission tells its well-formed form. -/
theorem tells_writePermission : Tells writePermission NearKeyPermission.toWellFormed := by
  intro a b u v r s hu hv h
  -- the first byte tells the kind of key
  cases a with
  | FullAccess =>
    obtain rfl : [1] = u := Except.ok.inj hu
    cases b with
    | FullAccess =>
      obtain rfl : [1] = v := Except.ok.inj hv
      exact ⟨rfl, (List.cons.inj h).2⟩
    | functionCall =>
      obtain ⟨_, _, _, _, -, -, -, -, rfl⟩ := writePermission_ok hv
      exact absurd (List.cons.inj h).1 (by decide)
  | functionCall allowance receiverId methodNames =>
    obtain ⟨wa, wr, wc, names, hAllowance, hReceiver, hCount, hNames, rfl⟩ :=
      writePermission_ok hu
    cases b with
    | FullAccess =>
      obtain rfl : [1] = v := Except.ok.inj hv
      exact absurd (List.cons.inj h).1 (by decide)
    | functionCall allowance' receiverId' methodNames' =>
      obtain ⟨wa', wr', wc', names', hAllowance', hReceiver', hCount', hNames', rfl⟩ :=
        writePermission_ok hv
      -- the fields are told one by one, each leaving what the next is written in
      simp only [List.cons_append, List.append_assoc, List.cons.injEq, true_and] at h
      obtain ⟨hA, h⟩ := tells_writeAllowance hAllowance hAllowance' h
      obtain ⟨hR, h⟩ := tells_writeString hReceiver hReceiver' h
      obtain ⟨hM, hRest⟩ := tells_counted tells_writeString hCount hCount' hNames hNames' h
      obtain rfl : allowance = allowance' := hA
      exact ⟨by rw [NearKeyPermission.toWellFormed, hR, hM, NearKeyPermission.toWellFormed],
        hRest⟩

/-! ## Actions -/

def NearAction.tag : NearAction → UInt8
  | .CreateAccount => 0
  | .DeployContract _ => 1
  | .FunctionCall .. => 2
  | .Transfer _ => 3
  | .AddKey .. => 5
  | .DeleteKey _ => 6

/-- What is written of an action after its tag. -/
def NearAction.Body : NearAction → List UInt8 → Prop
  | .CreateAccount, w => w = []
  | .DeployContract code, w => writeByteVec code = .ok w
  | .FunctionCall methodName args gas deposit, w => ∃ m a g d, writeString methodName = .ok m ∧
    writeByteVec args = .ok a ∧ writeU64 gas = .ok g ∧ writeU128 deposit = .ok d ∧
    w = m ++ (a ++ (g ++ d))
  | .Transfer deposit, w => writeU128 deposit = .ok w
  | .AddKey publicKey nonce permission, w => ∃ k n p, writePublicKey publicKey = .ok k ∧
    writeU64 nonce = .ok n ∧ writePermission permission = .ok p ∧ w = k ++ (n ++ p)
  | .DeleteKey publicKey, w => writePublicKey publicKey = .ok w

/-- A written action is its tag and its body. -/
theorem writeAction_ok {action : NearAction} {w : List UInt8} (h : writeAction action = .ok w) :
    ∃ body, action.Body body ∧ w = action.tag :: body := by
  cases action with
  | CreateAccount => exact ⟨[], rfl, (Except.ok.inj h).symm⟩
  | DeployContract code => exact (tagged_eq_ok (by rfl)).mp h
  | FunctionCall methodName args gas deposit =>
    obtain ⟨tag, hTag, h⟩ := bind_eq_ok.mp h
    obtain rfl : [2] = tag := Except.ok.inj hTag
    obtain ⟨m, hm, h⟩ := bind_eq_ok.mp h
    obtain ⟨a, ha, h⟩ := bind_eq_ok.mp h
    obtain ⟨g, hg, h⟩ := bind_eq_ok.mp h
    obtain ⟨d, hd, h⟩ := bind_eq_ok.mp h
    exact ⟨_, ⟨m, a, g, d, hm, ha, hg, hd, rfl⟩, (Except.ok.inj h).symm⟩
  | Transfer deposit => exact (tagged_eq_ok (by rfl)).mp h
  | AddKey publicKey nonce permission =>
    obtain ⟨tag, hTag, h⟩ := bind_eq_ok.mp h
    obtain rfl : [5] = tag := Except.ok.inj hTag
    obtain ⟨k, hk, h⟩ := bind_eq_ok.mp h
    obtain ⟨n, hn, h⟩ := bind_eq_ok.mp h
    obtain ⟨p, hp, h⟩ := bind_eq_ok.mp h
    exact ⟨_, ⟨k, n, p, hk, hn, hp, rfl⟩, (Except.ok.inj h).symm⟩
  | DeleteKey publicKey => exact (tagged_eq_ok (by rfl)).mp h

/-- A written action tells its well-formed form. -/
theorem tells_writeAction : Tells writeAction NearAction.toWellFormed := by
  intro a b u v r s hu hv h
  obtain ⟨u, hBody, rfl⟩ := writeAction_ok hu
  obtain ⟨v, hBody', rfl⟩ := writeAction_ok hv
  -- the tags tell the kinds of action apart
  obtain ⟨hTag, hBytes⟩ := List.cons.inj h
  cases a with
  | CreateAccount =>
    cases b with
    | CreateAccount =>
      obtain rfl : u = [] := hBody
      obtain rfl : v = [] := hBody'
      exact ⟨rfl, hBytes⟩
    | _ => exact absurd hTag (by simp [NearAction.tag])
  | DeployContract code =>
    cases b with
    | DeployContract code' =>
      obtain ⟨hCode, hRest⟩ := tells_writeByteVec hBody hBody' hBytes
      exact ⟨congrArg NearAction.DeployContract hCode, hRest⟩
    | _ => exact absurd hTag (by simp [NearAction.tag])
  | FunctionCall methodName args gas deposit =>
    cases b with
    | FunctionCall methodName' args' gas' deposit' =>
      obtain ⟨m, x, g, d, hm, hx, hg, hd, rfl⟩ := hBody
      obtain ⟨m', x', g', d', hm', hx', hg', hd', rfl⟩ := hBody'
      simp only [List.append_eq, List.append_assoc] at hBytes
      obtain ⟨hMethod, hBytes⟩ := tells_writeString hm hm' hBytes
      obtain ⟨hArgs, hBytes⟩ := tells_writeByteVec hx hx' hBytes
      obtain ⟨hGas, hBytes⟩ := tells_writeUint _ _ hg hg' hBytes
      obtain ⟨hDeposit, hRest⟩ := tells_writeUint _ _ hd hd' hBytes
      obtain rfl : args = args' := hArgs
      obtain rfl : gas = gas' := hGas
      obtain rfl : deposit = deposit' := hDeposit
      exact ⟨by rw [NearAction.toWellFormed, hMethod, NearAction.toWellFormed], hRest⟩
    | _ => exact absurd hTag (by simp [NearAction.tag])
  | Transfer deposit =>
    cases b with
    | Transfer deposit' =>
      obtain ⟨hDeposit, hRest⟩ := tells_writeUint _ _ hBody hBody' hBytes
      exact ⟨congrArg NearAction.Transfer hDeposit, hRest⟩
    | _ => exact absurd hTag (by simp [NearAction.tag])
  | AddKey publicKey nonce permission =>
    cases b with
    | AddKey publicKey' nonce' permission' =>
      obtain ⟨k, n, p, hk, hn, hp, rfl⟩ := hBody
      obtain ⟨k', n', p', hk', hn', hp', rfl⟩ := hBody'
      simp only [List.append_eq, List.append_assoc] at hBytes
      obtain ⟨hKey, hBytes⟩ := tells_writePublicKey hk hk' hBytes
      obtain ⟨hNonce, hBytes⟩ := tells_writeUint _ _ hn hn' hBytes
      obtain ⟨hPermission, hRest⟩ := tells_writePermission hp hp' hBytes
      obtain rfl : publicKey = publicKey' := hKey
      obtain rfl : nonce = nonce' := hNonce
      exact ⟨by rw [NearAction.toWellFormed, hPermission, NearAction.toWellFormed], hRest⟩
    | _ => exact absurd hTag (by simp [NearAction.tag])
  | DeleteKey publicKey =>
    cases b with
    | DeleteKey publicKey' =>
      obtain ⟨hKey, hRest⟩ := tells_writePublicKey hBody hBody' hBytes
      exact ⟨congrArg NearAction.DeleteKey hKey, hRest⟩
    | _ => exact absurd hTag (by simp [NearAction.tag])

/-! ## Transactions that are written alike -/

/-- The parts of an encoded transaction. -/
theorem encodeTransactionV0_ok {tx : NearTransactionV0} {w : List UInt8}
    (h : encodeTransactionV0 tx = .ok w) : tx.blockHash.length = 32 ∧
      ∃ signerId publicKey nonce receiverId count actions,
        writeString tx.signerId = .ok signerId ∧ writePublicKey tx.publicKey = .ok publicKey ∧
        writeU64 tx.nonce = .ok nonce ∧ writeString tx.receiverId = .ok receiverId ∧
        writeU32 tx.actions.length = .ok count ∧ tx.actions.mapM writeAction = .ok actions ∧
        w = signerId ++ (publicKey ++ (nonce ++ (receiverId ++
          (tx.blockHash ++ (count ++ actions.flatten))))) := by
  unfold encodeTransactionV0 at h
  obtain ⟨hHash, h⟩ := require_bind_eq_ok.mp h
  obtain ⟨signerId, hSigner, h⟩ := bind_eq_ok.mp h
  obtain ⟨publicKey, hKey, h⟩ := bind_eq_ok.mp h
  obtain ⟨nonce, hNonce, h⟩ := bind_eq_ok.mp h
  obtain ⟨receiverId, hReceiver, h⟩ := bind_eq_ok.mp h
  obtain ⟨count, hCount, h⟩ := bind_eq_ok.mp h
  obtain ⟨actions, hActions, h⟩ := bind_eq_ok.mp h
  exact ⟨hHash, signerId, publicKey, nonce, receiverId, count, actions, hSigner, hKey, hNonce,
    hReceiver, hCount, hActions, (Except.ok.inj h).symm⟩

/-- An encoded transaction tells its well-formed form, whatever follows it. -/
theorem tells_encodeTransactionV0 :
    Tells encodeTransactionV0 NearTransactionV0.toWellFormed := by
  intro tx tx' u v r s hu hv h
  obtain ⟨hHash, signerId, publicKey, nonce, receiverId, count, actions, hSigner, hKey, hNonce,
    hReceiver, hCount, hActions, rfl⟩ := encodeTransactionV0_ok hu
  obtain ⟨hHash', signerId', publicKey', nonce', receiverId', count', actions', hSigner', hKey',
    hNonce', hReceiver', hCount', hActions', rfl⟩ := encodeTransactionV0_ok hv
  simp only [List.append_assoc] at h
  obtain ⟨hSignerEq, h⟩ := tells_writeString hSigner hSigner' h
  obtain ⟨hKeyEq, h⟩ := tells_writePublicKey hKey hKey' h
  obtain ⟨hNonceEq, h⟩ := tells_writeUint _ _ hNonce hNonce' h
  obtain ⟨hReceiverEq, h⟩ := tells_writeString hReceiver hReceiver' h
  obtain ⟨hHashEq, h⟩ := List.append_inj h (hHash.trans hHash'.symm)
  obtain ⟨hActionsEq, hRest⟩ := tells_counted tells_writeAction hCount hCount' hActions hActions' h
  refine ⟨?_, hRest⟩
  obtain ⟨_, key, n, _, _, _⟩ := tx
  obtain ⟨_, key', n', _, _, _⟩ := tx'
  obtain rfl : key = key' := hKeyEq
  obtain rfl : n = n' := hNonceEq
  unfold NearTransactionV0.toWellFormed
  rw [NearTransactionV0.mk.injEq]
  exact ⟨hSignerEq, rfl, rfl, hReceiverEq, hHashEq, hActionsEq⟩

/-- Encoding a text encodes its well-formed form. -/
@[simp] theorem textEncode_toWellFormed (text : Text) :
    textEncode (Utf16.toWellFormed text) = textEncode text :=
  congrArg Utf8.encode (Utf16.chars_encode _)

/-- Writing a string writes its well-formed form. -/
@[simp] theorem writeString_toWellFormed (text : Text) :
    writeString (Utf16.toWellFormed text) = writeString text :=
  congrArg writeByteVec (textEncode_toWellFormed text)

/-- A change that no write sees is not seen in a list. -/
theorem mapM_map_congr {α : Type} {write : α → Except String (List UInt8)} {f : α → α}
    (h : ∀ a, write (f a) = write a) (as : List α) : (as.map f).mapM write = as.mapM write := by
  induction as with
  | nil => rfl
  | cons a as ih => rw [List.map_cons, List.mapM_cons, List.mapM_cons, h, ih]

/-- Writing a permission writes its well-formed form. -/
theorem writePermission_toWellFormed (permission : NearKeyPermission) :
    writePermission permission.toWellFormed = writePermission permission := by
  cases permission with
  | FullAccess => rfl
  | functionCall allowance receiverId methodNames =>
    unfold NearKeyPermission.toWellFormed writePermission
    dsimp only
    rw [writeString_toWellFormed, List.length_map, mapM_map_congr writeString_toWellFormed]

/-- Writing an action writes its well-formed form. -/
theorem writeAction_toWellFormed (action : NearAction) :
    writeAction action.toWellFormed = writeAction action := by
  cases action with
  | FunctionCall methodName args gas deposit =>
    unfold NearAction.toWellFormed writeAction
    dsimp only
    rw [writeString_toWellFormed]
  | AddKey publicKey nonce permission =>
    unfold NearAction.toWellFormed writeAction
    dsimp only
    rw [writePermission_toWellFormed]
  | _ => rfl

/-- Surrogates that are in no pair are not written. -/
theorem encodeTransactionV0_toWellFormed (tx : NearTransactionV0) :
    encodeTransactionV0 tx.toWellFormed = encodeTransactionV0 tx := by
  unfold NearTransactionV0.toWellFormed encodeTransactionV0
  dsimp only
  rw [writeString_toWellFormed, writeString_toWellFormed, List.length_map,
    mapM_map_congr writeAction_toWellFormed]

/-- Two transactions have one encoding when they are well-formed alike. -/
theorem encodeTransactionV0_eq_iff {tx tx' : NearTransactionV0} {w w' : List UInt8}
    (h : encodeTransactionV0 tx = .ok w) (h' : encodeTransactionV0 tx' = .ok w') :
    w = w' ↔ tx.toWellFormed = tx'.toWellFormed := by
  constructor
  · rintro rfl
    exact (tells_encodeTransactionV0 (r := []) (s := []) h h' rfl).1
  · intro hSame
    rw [← encodeTransactionV0_toWellFormed, hSame, encodeTransactionV0_toWellFormed] at h
    exact Except.ok.inj (h.symm.trans h')

/-- A signed transaction is its body, the key type and the signature. -/
theorem encodeSignedTransaction_eq_ok {signed : NearSignedTransaction} {w : List UInt8} :
    encodeSignedTransaction signed = .ok w ↔ ∃ body,
      encodeTransactionV0 signed.transaction = .ok body ∧ signed.signature.data.length = 64 ∧
        w = body ++ 0 :: signed.signature.data := by
  refine Iff.trans bind_eq_ok (exists_congr fun body => and_congr_right fun _ => ?_)
  rw [bind_eq_ok]
  constructor
  · rintro ⟨sig, hSig, h⟩
    obtain ⟨hLength, rfl⟩ := writeSignature_eq_ok.mp hSig
    exact ⟨hLength, (Except.ok.inj h).symm⟩
  · rintro ⟨hLength, rfl⟩
    exact ⟨_, writeSignature_eq_ok.mpr ⟨hLength, rfl⟩, rfl⟩

/-- Two signed transactions have one encoding when they are well-formed alike. -/
theorem encodeSignedTransaction_eq_iff {signed signed' : NearSignedTransaction}
    {w w' : List UInt8} (h : encodeSignedTransaction signed = .ok w)
    (h' : encodeSignedTransaction signed' = .ok w') :
    w = w' ↔ signed.toWellFormed = signed'.toWellFormed := by
  obtain ⟨body, hBody, hLength, rfl⟩ := encodeSignedTransaction_eq_ok.mp h
  obtain ⟨body', hBody', hLength', rfl⟩ := encodeSignedTransaction_eq_ok.mp h'
  obtain ⟨tx, ⟨sig⟩⟩ := signed
  obtain ⟨tx', ⟨sig'⟩⟩ := signed'
  have hTail : (0 :: sig).length = (0 :: sig').length :=
    congrArg Nat.succ (hLength.trans hLength'.symm)
  unfold NearSignedTransaction.toWellFormed
  rw [NearSignedTransaction.mk.injEq, Ed25519Signature.mk.injEq,
    ← encodeTransactionV0_eq_iff hBody hBody']
  constructor
  · intro hEq
    obtain ⟨rfl, hSig⟩ := List.append_inj' hEq hTail
    exact ⟨rfl, (List.cons.inj hSig).2⟩
  · rintro ⟨rfl, rfl⟩
    rfl

/-! ## What the header decoder reads -/

/-- Where the fields of the header stand in the bytes of a signed transaction. -/
structure HeaderLayout (bytes id key : List UInt8) (nonce : Nat) (more sig : List UInt8) :
    Prop where
  bytes_eq : bytes = Bytes.toLe 4 id.length ++ (id ++ ([0] ++ (key ++ (Bytes.toLe 8 nonce ++
    (more ++ ([0] ++ sig))))))
  id_pos : 0 < id.length
  id_le : id.length ≤ 64
  key_length : key.length = 32
  nonce_lt : nonce < 256 ^ 8
  sig_length : sig.length = 64

/-- The bytes of the signer id. -/
def signerBytes (bytes : List UInt8) : List UInt8 :=
  (bytes.drop 4).take (Bytes.fromLe (bytes.take 4))

/-- What was signed. -/
def signedBody (bytes : List UInt8) : List UInt8 := bytes.take (bytes.length - SIGNATURE_BYTES)

/-- Bytes are read where there are enough of them. -/
theorem bytesAt_eq_ok {bytes v : List UInt8} {offset count : Nat} :
    bytesAt bytes offset count = .ok v ↔
      offset + count ≤ bytes.length ∧ v = (bytes.drop offset).take count := by
  unfold bytesAt
  rw [require_bind_eq_ok]
  exact and_congr_right fun _ =>
    ⟨fun h => (Except.ok.inj h).symm, fun h => congrArg Except.ok h.symm⟩

/-- What was read stands at the front of what remains. -/
theorem drop_of_bytesAt {bytes v : List UInt8} {offset count : Nat}
    (h : bytesAt bytes offset count = .ok v) :
    v.length = count ∧ bytes.drop offset = v ++ bytes.drop (offset + count) := by
  obtain ⟨hLe, rfl⟩ := bytesAt_eq_ok.mp h
  refine ⟨?_, ?_⟩
  · rw [List.length_take, List.length_drop]
    omega
  · rw [← List.drop_drop, List.take_append_drop]

/-- Dropping less leaves more in front. -/
theorem exists_drop_eq_append {bytes : List UInt8} {i j : Nat} (h : i ≤ j) :
    ∃ more, bytes.drop i = more ++ bytes.drop j := by
  refine ⟨(bytes.drop i).take (j - i), ?_⟩
  conv_lhs => rw [← List.take_append_drop (j - i) (bytes.drop i)]
  rw [List.drop_drop, Nat.add_sub_cancel' h]

/-- A field is read between what stands before and after it. -/
theorem bytesAt_append {pre v post : List UInt8} {offset count : Nat}
    (hPre : pre.length = offset) (hCount : v.length = count) :
    bytesAt (pre ++ (v ++ post)) offset count = .ok v := by
  refine bytesAt_eq_ok.mpr ⟨?_, ?_⟩
  · rw [List.length_append, List.length_append]
    omega
  · rw [← hPre, List.drop_left, ← hCount, List.take_left]

section

variable {bytes id key : List UInt8} {nonce : Nat} {more sig : List UInt8}

namespace HeaderLayout

/-- The length of the header's parts together. -/
theorem length (h : HeaderLayout bytes id key nonce more sig) :
    bytes.length = 4 + id.length + 1 + 32 + 8 + more.length + 65 := by
  have hKey := h.key_length
  have hSig := h.sig_length
  rw [h.bytes_eq]
  simp only [List.length_append, Bytes.length_toLe, List.length_singleton]
  omega

/-- The length of the body without its signature. -/
theorem body_length (h : HeaderLayout bytes id key nonce more sig) :
    bytes.length - SIGNATURE_BYTES = 4 + id.length + 1 + 32 + 8 + more.length := by
  have hLength := h.length
  unfold SIGNATURE_BYTES
  omega

/-- Each field where it is read. -/
theorem bytesAt_fields (h : HeaderLayout bytes id key nonce more sig) :
    bytesAt bytes 0 4 = .ok (Bytes.toLe 4 id.length) ∧ bytesAt bytes 4 id.length = .ok id ∧
      bytesAt bytes (4 + id.length) 1 = .ok [0] ∧
      bytesAt bytes (4 + id.length + 1) 32 = .ok key ∧
      bytesAt bytes (4 + id.length + 33) 8 = .ok (Bytes.toLe 8 nonce) ∧
      bytesAt bytes (bytes.length - SIGNATURE_BYTES) 1 = .ok [0] := by
  have hKey := h.key_length
  have hBody := h.body_length
  have hLe : (Bytes.toLe 4 id.length).length = 4 := Bytes.length_toLe 4 _
  have hNonce : (Bytes.toLe 8 nonce).length = 8 := Bytes.length_toLe 8 _
  rw [hBody]
  have hEq := h.bytes_eq
  -- each field after those before it, by the length they have together
  refine ⟨?_, ?_, ?_, ?_, ?_, ?_⟩
  · rw [hEq]
    exact bytesAt_append (@List.length_nil UInt8) hLe
  · rw [hEq]
    exact bytesAt_append hLe rfl
  · rw [← List.append_assoc] at hEq
    rw [hEq]
    exact bytesAt_append (by rw [List.length_append, hLe]) rfl
  · rw [← List.append_assoc, ← List.append_assoc] at hEq
    rw [hEq]
    exact bytesAt_append (by rw [List.length_append, List.length_append, hLe]; rfl) hKey
  · rw [← List.append_assoc, ← List.append_assoc, ← List.append_assoc] at hEq
    rw [hEq]
    refine bytesAt_append ?_ hNonce
    simp only [List.length_append, hLe, hKey, List.length_singleton]
  · rw [← List.append_assoc, ← List.append_assoc, ← List.append_assoc, ← List.append_assoc,
      ← List.append_assoc] at hEq
    rw [hEq]
    refine bytesAt_append ?_ rfl
    simp only [List.length_append, hLe, hKey, hNonce, List.length_singleton]

/-- The signer's bytes are the id of the layout. -/
theorem signerBytes (h : HeaderLayout bytes id key nonce more sig) : signerBytes bytes = id := by
  obtain ⟨hCount, hId, -⟩ := h.bytesAt_fields
  have hLe := h.id_le
  obtain ⟨-, hCount⟩ := bytesAt_eq_ok.mp hCount
  obtain ⟨-, hId⟩ := bytesAt_eq_ok.mp hId
  unfold Borsh.signerBytes
  rw [List.drop_zero] at hCount
  rw [← hCount, Bytes.fromLe_toLe, Nat.mod_eq_of_lt (by omega), ← hId]

end HeaderLayout

variable {sha256 : List UInt8 → List UInt8} {h : SignedTransactionHeader}

/-- The decoder accepts what has this layout and an id that is a text. -/
theorem decodeSignedTransactionHeader_eq_ok :
    decodeSignedTransactionHeader sha256 bytes = .ok h ↔ ∃ id key nonce more sig,
      HeaderLayout bytes id key nonce more sig ∧ textDecode id = some h.signerId ∧
        h.publicKey = ⟨key⟩ ∧ h.nonce = nonce ∧
        h.txHashBase58 = String.ofList (base58Encode (sha256 (signedBody bytes))) := by
  unfold decodeSignedTransactionHeader
  constructor
  · intro hDecode
    obtain ⟨hLength, hDecode⟩ := require_bind_eq_ok.mp hDecode
    obtain ⟨count, hCount, hDecode⟩ := bind_eq_ok.mp hDecode
    obtain ⟨hPlausible, hDecode⟩ := require_bind_eq_ok.mp hDecode
    obtain ⟨id, hId, hDecode⟩ := bind_eq_ok.mp hDecode
    obtain ⟨signerId, hSigner, hDecode⟩ := need_bind_eq_ok.mp hDecode
    obtain ⟨tag, hTag, hDecode⟩ := bind_eq_ok.mp hDecode
    obtain ⟨hTagEq, hDecode⟩ := require_bind_eq_ok.mp hDecode
    obtain ⟨key, hKey, hDecode⟩ := bind_eq_ok.mp hDecode
    obtain ⟨number, hNumber, hDecode⟩ := bind_eq_ok.mp hDecode
    obtain ⟨sigTag, hSigTag, hDecode⟩ := bind_eq_ok.mp hDecode
    obtain ⟨hSigTagEq, hDecode⟩ := require_bind_eq_ok.mp hDecode
    obtain ⟨body, hBody, hDecode⟩ := bind_eq_ok.mp hDecode
    obtain rfl := Except.ok.inj hDecode
    subst hTagEq hSigTagEq
    obtain ⟨hCountLength, hCountDrop⟩ := drop_of_bytesAt hCount
    obtain ⟨hIdLength, hIdDrop⟩ := drop_of_bytesAt hId
    obtain ⟨-, hTagDrop⟩ := drop_of_bytesAt hTag
    obtain ⟨hKeyLength, hKeyDrop⟩ := drop_of_bytesAt hKey
    obtain ⟨hNumberLength, hNumberDrop⟩ := drop_of_bytesAt hNumber
    obtain ⟨-, hSigDrop⟩ := drop_of_bytesAt hSigTag
    obtain ⟨-, rfl⟩ := bytesAt_eq_ok.mp hBody
    unfold SIGNATURE_BYTES at hLength hPlausible hSigDrop
    rw [← hIdLength] at hPlausible hIdDrop hTagDrop hKeyDrop hNumberDrop
    rw [Nat.add_assoc _ 1 32] at hKeyDrop
    -- the bytes between the nonce and the signature
    obtain ⟨more, hMore⟩ : ∃ more, bytes.drop (4 + id.length + 33 + 8) =
        more ++ bytes.drop (bytes.length - (1 + 64)) := exists_drop_eq_append (by omega)
    have hCountEq : Bytes.toLe 4 id.length = count := by
      rw [hIdLength, ← hCountLength, Bytes.toLe_fromLe]
    have hNumberEq : Bytes.toLe 8 (Bytes.fromLe number) = number := by
      rw [← hNumberLength, Bytes.toLe_fromLe]
    refine ⟨id, key, Bytes.fromLe number, more, bytes.drop (bytes.length - (1 + 64) + 1),
      ⟨?_, by omega, by omega, hKeyLength, ?_, ?_⟩, hSigner, rfl, rfl, rfl⟩
    · rw [hCountEq, hNumberEq, ← hSigDrop, ← hMore, ← hNumberDrop, ← hKeyDrop, ← hTagDrop,
        ← hIdDrop]
      exact hCountDrop
    · rw [← hNumberLength]
      exact Bytes.fromLe_lt number
    · rw [List.length_drop]
      omega
  · rintro ⟨id, key, nonce, more, sig, hLayout, hSigner, hKey, hNonce, hHash⟩
    obtain ⟨hCount, hId, hTag, hKeyAt, hNumber, hSigTag⟩ := hLayout.bytesAt_fields
    have hLength := hLayout.length
    have hPos := hLayout.id_pos
    have hLe := hLayout.id_le
    have hId4 : Bytes.fromLe (Bytes.toLe 4 id.length) = id.length := by
      rw [Bytes.fromLe_toLe, Nat.mod_eq_of_lt (by omega)]
    have hNumber8 : Bytes.fromLe (Bytes.toLe 8 nonce) = nonce := by
      rw [Bytes.fromLe_toLe, Nat.mod_eq_of_lt hLayout.nonce_lt]
    obtain ⟨signerId, publicKey, headerNonce, hash⟩ := h
    dsimp only at hSigner hKey hNonce hHash
    subst hKey hNonce hHash
    refine require_bind_eq_ok.mpr ⟨?_, bind_eq_ok.mpr ⟨_, hCount, require_bind_eq_ok.mpr ⟨?_,
      bind_eq_ok.mpr ⟨id, by rw [hId4]; exact hId, need_bind_eq_ok.mpr ⟨_, hSigner,
      bind_eq_ok.mpr ⟨_, by rw [hId4]; exact hTag, require_bind_eq_ok.mpr ⟨rfl,
      bind_eq_ok.mpr ⟨_, by rw [hId4]; exact hKeyAt, bind_eq_ok.mpr ⟨_, by rw [hId4]; exact hNumber,
      bind_eq_ok.mpr ⟨_, hSigTag, require_bind_eq_ok.mpr ⟨rfl,
      bind_eq_ok.mpr ⟨_, bytesAt_eq_ok.mpr ⟨?_, rfl⟩, ?_⟩⟩⟩⟩⟩⟩⟩⟩⟩⟩⟩⟩
    · unfold SIGNATURE_BYTES
      omega
    · rw [hId4]
      unfold SIGNATURE_BYTES
      omega
    · omega
    · rw [hNumber8]
      rfl

/-! ## Byte order marks -/

/-- The decoder drops nothing unless the text begins with a byte order mark. -/
theorem dropBom_eq_self_iff {text : List Char} :
    dropBom text = text ↔ text.head? ≠ some BOM := by
  cases text with
  | nil => exact ⟨nofun, fun _ => rfl⟩
  | cons c text =>
    show (if c = BOM then text else c :: text) = c :: text ↔ _
    rw [List.head?_cons, ne_eq, Option.some.injEq]
    by_cases hBom : c = BOM
    · rw [if_pos hBom]
      exact ⟨fun h => absurd (congrArg List.length h) (Nat.succ_ne_self _).symm,
        fun h => absurd hBom h⟩
    · rw [if_neg hBom]
      exact ⟨fun _ => hBom, fun _ => rfl⟩

/-- A text begins with the mark when its bytes begin with the mark's three. -/
theorem head?_eq_bom_iff {text : List Char} :
    text.head? = some BOM ↔ [0xEF, 0xBB, 0xBF] <+: Utf8.encode text := by
  have hBom : [0xEF, 0xBB, 0xBF] = Utf8.encode [BOM] := by decide
  rw [hBom, Utf8.encode_prefix_iff]
  cases text with
  | nil => simp
  | cons c text =>
    rw [List.head?_cons, Option.some.injEq, List.cons_prefix_cons]
    exact ⟨fun h => ⟨h.symm, List.nil_prefix⟩, fun h => h.1.symm⟩

/-- The code unit of a byte order mark is in no pair. -/
theorem head?_encode_eq_bom_iff {text : List Char} :
    (Utf16.encode text).head? = some 0xFEFF ↔ text.head? = some BOM := by
  constructor
  · intro h
    obtain ⟨units, hUnits⟩ := List.head?_eq_some_iff.mp h
    have hChars := Utf16.chars_encode text
    rw [hUnits, Utf16.chars_cons (by decide)] at hChars
    rw [← hChars]
    rfl
  · intro h
    obtain ⟨more, rfl⟩ := List.head?_eq_some_iff.mp h
    rfl

/-- A text that comes back as it was. -/
theorem encode_dropBom_eq_iff {text : Text} :
    Utf16.encode (dropBom (Utf16.chars text)) = text ↔
      Utf16.toWellFormed text = text ∧ text.head? ≠ some 0xFEFF := by
  constructor
  · intro h
    have hWellFormed : Utf16.toWellFormed text = text := by
      rw [← h, Utf16.toWellFormed_encode]
    refine ⟨hWellFormed, fun hHead => ?_⟩
    have hDrop : dropBom (Utf16.chars text) = Utf16.chars text := by
      rw [← Utf16.encode_inj, h]
      exact hWellFormed.symm
    rw [← hWellFormed] at hHead
    exact dropBom_eq_self_iff.mp hDrop (head?_encode_eq_bom_iff.mp hHead)
  · rintro ⟨hWellFormed, hHead⟩
    rw [← hWellFormed] at hHead
    rw [dropBom_eq_self_iff.mpr fun h => hHead (head?_encode_eq_bom_iff.mpr h)]
    exact hWellFormed

/-! ## Reading a header back -/

/-- The header is what stands in the bytes. -/
def Reports (sha256 : List UInt8 → List UInt8) (bytes : List UInt8)
    (h : SignedTransactionHeader) : Prop :=
  ∃ id key nonce more sig, HeaderLayout bytes id key nonce more sig ∧
    (Utf8.decode id).map Utf16.encode = some h.signerId ∧ h.publicKey = ⟨key⟩ ∧
    h.nonce = nonce ∧ h.txHashBase58 = String.ofList (base58Encode (sha256 (signedBody bytes)))

/-- The header is reported truly unless the signer's bytes begin with the mark. -/
theorem reports_iff (hDecode : decodeSignedTransactionHeader sha256 bytes = .ok h) :
    Reports sha256 bytes h ↔ ¬ [0xEF, 0xBB, 0xBF] <+: signerBytes bytes := by
  obtain ⟨id, key, nonce, more, sig, hLayout, hSigner, hKey, hNonce, hHash⟩ :=
    decodeSignedTransactionHeader_eq_ok.mp hDecode
  obtain ⟨text, hText, hRead⟩ := Option.map_eq_some_iff.mp hSigner
  rw [hLayout.signerBytes, ← Utf8.decode_eq_some.mp hText, ← head?_eq_bom_iff,
    ← ne_eq, ← dropBom_eq_self_iff]
  constructor
  · rintro ⟨id', key', nonce', more', sig', hLayout', hSigner', -⟩
    obtain rfl : id' = id := hLayout'.signerBytes.symm.trans hLayout.signerBytes
    rw [hText, Option.map_some, Option.some.injEq, ← hRead, Utf16.encode_inj] at hSigner'
    exact hSigner'.symm
  · intro hDrop
    refine ⟨id, key, nonce, more, sig, hLayout, ?_, hKey, hNonce, hHash⟩
    rw [hText, ← hRead, hDrop]
    rfl

/-- A header that was written is read, its signer id without a byte order mark. -/
theorem decode_of_encode {signed : NearSignedTransaction}
    (hEncode : encodeSignedTransaction signed = .ok bytes)
    (hPos : 1 ≤ (textEncode signed.transaction.signerId).length)
    (hLe : (textEncode signed.transaction.signerId).length ≤ 64) :
    ∃ body, encodeTransactionV0 signed.transaction = .ok body ∧
      decodeSignedTransactionHeader sha256 bytes = .ok
        { signerId := Utf16.encode (dropBom (Utf16.chars signed.transaction.signerId))
          publicKey := signed.transaction.publicKey
          nonce := signed.transaction.nonce
          txHashBase58 := String.ofList (base58Encode (sha256 body)) } := by
  obtain ⟨body, hBody, hSig, rfl⟩ := encodeSignedTransaction_eq_ok.mp hEncode
  refine ⟨body, hBody, ?_⟩
  obtain ⟨-, signerId, publicKey, nonce, receiverId, count, actions, hSigner, hKey, hNonce, -, -,
    -, hEq⟩ := encodeTransactionV0_ok hBody
  obtain ⟨idLength, hIdLength, hSigner⟩ := bind_eq_ok.mp hSigner
  obtain rfl := Except.ok.inj hSigner
  obtain ⟨-, rfl⟩ := writeUint_eq_ok.mp hIdLength
  obtain ⟨hKeyLength, rfl⟩ := writePublicKey_eq_ok.mp hKey
  obtain ⟨⟨hNoncePos, hNonceLt⟩, rfl⟩ := writeUint_eq_ok.mp hNonce
  -- the bytes laid out as the reader takes them
  have hLayout : HeaderLayout (body ++ 0 :: signed.signature.data)
      (textEncode signed.transaction.signerId) signed.transaction.publicKey.data
      signed.transaction.nonce.toNat
      (receiverId ++ (signed.transaction.blockHash ++ (count ++ actions.flatten)))
      signed.signature.data := by
    refine ⟨?_, hPos, hLe, hKeyLength, by omega, hSig⟩
    rw [hEq]
    simp only [List.append_assoc, Int.toNat_natCast, List.cons_append, List.nil_append]
  -- the signature and its key type cut off leave the body
  have hSigned : signedBody (body ++ 0 :: signed.signature.data) = body := by
    unfold signedBody SIGNATURE_BYTES
    rw [List.length_append, List.length_cons, hSig, Nat.add_sub_cancel, List.take_left]
  refine decodeSignedTransactionHeader_eq_ok.mpr ⟨_, _, _, _, _, hLayout, ?_, rfl, ?_, ?_⟩
  · unfold textDecode textEncode
    rw [Utf8.decode_eq_some.mpr rfl]
    rfl
  · exact (Int.toNat_of_nonneg hNoncePos).symm
  · rw [hSigned]

/-- The decoder reads no byte that is not there. -/
theorem decodeSignedTransactionHeader_ne_pastEnd (bytes : List UInt8) :
    decodeSignedTransactionHeader sha256 bytes ≠ .error .pastEnd := by
  -- a check either refuses or goes on
  have hRequire : ∀ {c : Prop} [Decidable c] {message : String}
      {f : Unit → Except HeaderError SignedTransactionHeader},
      (c → f () ≠ .error .pastEnd) →
        (require c (.refused message) >>= f) ≠ .error .pastEnd := by
    intro c _ message f hf
    unfold require
    split
    · rename_i hc
      exact hf hc
    · exact nofun
  have hNeed : ∀ {text : Option Text} {message : String}
      {f : Text → Except HeaderError SignedTransactionHeader},
      (∀ t, f t ≠ .error .pastEnd) →
        (need text (.refused message) >>= f) ≠ .error .pastEnd := by
    intro text message f hf
    cases text with
    | none => exact nofun
    | some t => exact hf t
  -- a read within the bytes goes on
  have hRead : ∀ {offset count : Nat} {f : List UInt8 → Except HeaderError SignedTransactionHeader},
      offset + count ≤ bytes.length → (∀ v, v.length = count → f v ≠ .error .pastEnd) →
        (bytesAt bytes offset count >>= f) ≠ .error .pastEnd := by
    intro offset count f hLe hf
    have hOk := bytesAt_eq_ok.mpr ⟨hLe, rfl⟩
    rw [hOk]
    exact hf _ (drop_of_bytesAt hOk).1
  unfold decodeSignedTransactionHeader
  -- the lengths that were checked cover every read after them
  refine hRequire fun hLength => hRead (by omega) fun count hCount => hRequire fun hPlausible => ?_
  unfold SIGNATURE_BYTES at hLength hPlausible ⊢
  refine hRead (by omega) fun id _ => hNeed fun signerId => hRead (by omega) fun _ _ =>
    hRequire fun _ => hRead (by omega) fun key _ => hRead (by omega) fun nonce _ =>
    hRead (by omega) fun _ _ => hRequire fun _ => hRead (by omega) fun _ _ => ?_
  exact nofun

end

namespace Sample

/-- A transfer by the account with this id. -/
def signed (signerId : Text) : NearSignedTransaction :=
  { transaction :=
      { signerId
        publicKey := ⟨List.replicate 32 7⟩
        nonce := 9
        receiverId := [0x62, 0x2E, 0x6E, 0x65, 0x61, 0x72]
        blockHash := List.replicate 32 8
        actions := [.Transfer 1] }
    signature := ⟨List.replicate 64 5⟩ }

/-- The text `a.near`. -/
def signerId : Text := [0x61, 0x2E, 0x6E, 0x65, 0x61, 0x72]

/-- What is signed where the signer id has these bytes. -/
def body (id : List UInt8) : List UInt8 :=
  Bytes.toLe 4 id.length ++ (id ++ (0 :: (List.replicate 32 7 ++ (Bytes.toLe 8 9 ++
    ([6, 0, 0, 0, 0x62, 0x2E, 0x6E, 0x65, 0x61, 0x72] ++ (List.replicate 32 8 ++
      ([1, 0, 0, 0, 3] ++ Bytes.toLe 16 1)))))))

/-- The hashes of what is signed by `a.near`, and by it with a byte order mark in front. -/
def digest : List UInt8 :=
  [111, 181, 69, 249, 144, 227, 239, 226, 169, 213, 75, 3, 164, 31, 18, 102, 58, 169, 3, 6, 114,
    128, 248, 203, 98, 79, 248, 192, 247, 228, 245, 72]

def markedDigest : List UInt8 :=
  [99, 231, 190, 48, 73, 173, 98, 87, 183, 230, 155, 84, 1, 22, 105, 39, 33, 216, 54, 55, 124, 162,
    114, 20, 251, 42, 117, 183, 111, 123, 105, 153]

/-- SHA-256, on what is hashed here. -/
def sha256 (bytes : List UInt8) : List UInt8 :=
  if bytes = body (textEncode signerId) then digest else markedDigest

/-- The sample transaction encodes. -/
theorem encode_ok : encodeSignedTransaction (signed signerId) =
    .ok (body (textEncode signerId) ++ 0 :: List.replicate 64 5) := by
  decide +kernel

/-- The sample transaction of the marked signer encodes. -/
theorem encode_marked_ok : encodeSignedTransaction (signed (0xFEFF :: signerId)) =
    .ok (body (textEncode (0xFEFF :: signerId)) ++ 0 :: List.replicate 64 5) := by
  decide +kernel

end Sample

/-- The transaction of an account whose id begins with a byte order mark is read as that of the
account without it. -/
theorem header_signer_changed :
    encodeSignedTransaction (Sample.signed (0xFEFF :: Sample.signerId)) =
        .ok (Sample.body (textEncode (0xFEFF :: Sample.signerId)) ++ 0 :: List.replicate 64 5) ∧
      (textEncode (0xFEFF :: Sample.signerId)).length = 9 ∧
      decodeSignedTransactionHeader Sample.sha256
          (Sample.body (textEncode (0xFEFF :: Sample.signerId)) ++ 0 :: List.replicate 64 5) =
        .ok ⟨Sample.signerId, ⟨List.replicate 32 7⟩, 9,
          String.ofList (base58Encode Sample.markedDigest)⟩ := by
  refine ⟨Sample.encode_marked_ok, by decide, ?_⟩
  obtain ⟨body, hBody, hDecode⟩ := @decode_of_encode _ Sample.sha256 _
    Sample.encode_marked_ok (by decide) (by decide)
  have hChars : Utf16.encode (dropBom (Utf16.chars (0xFEFF :: Sample.signerId))) =
      Sample.signerId := by decide
  have hSample : encodeTransactionV0 (Sample.signed (0xFEFF :: Sample.signerId)).transaction =
      .ok (Sample.body (textEncode (0xFEFF :: Sample.signerId))) := by decide
  obtain rfl := Except.ok.inj (hSample.symm.trans hBody)
  have hHash : Sample.sha256 (Sample.body (textEncode (0xFEFF :: Sample.signerId))) =
      Sample.markedDigest := by decide
  rw [hDecode, ← hHash]
  exact congrArg (fun signerId => Except.ok (SignedTransactionHeader.mk signerId _ _ _)) hChars

/-- Two transactions are written alike exactly if they differ in no more than surrogates without
a pair, the header of a transaction is read back exactly if its signer id has none and does not
begin with a byte order mark, and what is read is what stands there exactly if there is no such
mark; nothing is read past the end. -/
theorem borsh_faithful_iff (sha256 : List UInt8 → List UInt8) :
    (∀ (tx tx' : NearTransactionV0) (w w' : List UInt8), encodeTransactionV0 tx = .ok w →
      encodeTransactionV0 tx' = .ok w' → (w = w' ↔ tx.toWellFormed = tx'.toWellFormed)) ∧
    (∀ (signed signed' : NearSignedTransaction) (w w' : List UInt8),
      encodeSignedTransaction signed = .ok w → encodeSignedTransaction signed' = .ok w' →
      (w = w' ↔ signed.toWellFormed = signed'.toWellFormed)) ∧
    (∀ (signed : NearSignedTransaction) (w : List UInt8), encodeSignedTransaction signed = .ok w →
      1 ≤ (textEncode signed.transaction.signerId).length →
      (textEncode signed.transaction.signerId).length ≤ 64 →
      ((∃ body, encodeTransactionV0 signed.transaction = .ok body ∧
        decodeSignedTransactionHeader sha256 w = .ok
          { signerId := signed.transaction.signerId
            publicKey := signed.transaction.publicKey
            nonce := signed.transaction.nonce
            txHashBase58 := String.ofList (base58Encode (sha256 body)) }) ↔
        Utf16.toWellFormed signed.transaction.signerId = signed.transaction.signerId ∧
          signed.transaction.signerId.head? ≠ some 0xFEFF)) ∧
    (∀ (bytes : List UInt8) (h : SignedTransactionHeader),
      decodeSignedTransactionHeader sha256 bytes = .ok h →
      (Reports sha256 bytes h ↔ ¬ [0xEF, 0xBB, 0xBF] <+: signerBytes bytes)) ∧
    ∀ bytes : List UInt8, decodeSignedTransactionHeader sha256 bytes ≠ .error .pastEnd := by
  refine ⟨fun tx tx' w w' => encodeTransactionV0_eq_iff,
    fun signed signed' w w' => encodeSignedTransaction_eq_iff, ?_,
    fun bytes h hDecode => reports_iff hDecode, decodeSignedTransactionHeader_ne_pastEnd⟩
  intro signed w hEncode hPos hLe
  obtain ⟨body, hBody, hDecode⟩ := @decode_of_encode _ sha256 signed hEncode hPos hLe
  rw [hDecode, ← encode_dropBom_eq_iff]
  constructor
  · rintro ⟨body', -, hHeader⟩
    exact congrArg SignedTransactionHeader.signerId (Except.ok.inj hHeader)
  · intro hSigner
    exact ⟨body, hBody, by rw [hSigner]⟩

/-- An account without one is read back, and its bytes are not those of the account with it. -/
theorem borsh_faithful_iff_sample :
    (∃ body, encodeTransactionV0 (Sample.signed Sample.signerId).transaction = .ok body ∧
      decodeSignedTransactionHeader Sample.sha256
          (Sample.body (textEncode Sample.signerId) ++ 0 :: List.replicate 64 5) =
        .ok ⟨Sample.signerId, ⟨List.replicate 32 7⟩, 9,
          String.ofList (base58Encode (Sample.sha256 body))⟩) ∧
      Sample.body (textEncode Sample.signerId) ++ 0 :: List.replicate 64 5 ≠
        Sample.body (textEncode (0xFEFF :: Sample.signerId)) ++ 0 :: List.replicate 64 5 := by
  obtain ⟨-, hSigned, hHeader, -⟩ := borsh_faithful_iff Sample.sha256
  refine ⟨(hHeader _ _ Sample.encode_ok (by decide) (by decide)).mpr
    (by decide), fun hSame => ?_⟩
  exact absurd ((hSigned _ _ _ _ Sample.encode_ok Sample.encode_marked_ok).mp hSame)
    (by decide)

end SwapDesk.Rails.Borsh
