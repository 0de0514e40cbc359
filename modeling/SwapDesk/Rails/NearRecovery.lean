import SwapDesk.Lib.JsonText
import SwapDesk.Lib.Radix
import SwapDesk.Rails.NearEvidence
import SwapDesk.Rails.NearBorsh

/-!
# SwapDesk — the recovery of a NEAR write

`prepareLock`, `claim` and `refund` of `src/rails/near-htlc.ts` up to the transaction that they
sign, and `recoverByTxHash`, which looks a transaction up by its hash and goes on only with one
that `classifyOwnWrite` takes for a write of this rail.

Main result: `recoverByTxHash_exact`. What the builders sign is recovered as what it is, with the
terms that were signed, and nothing is recovered but a transaction of this account and key that
makes the one call of a lock, a claim or a refund of the ref.
-/

namespace SwapDesk.Rails

open Check Desk Borsh

/-! ## Base58 -/

/-- Base58 printing is the conversion from base 256 to base 58. -/
theorem base58Encode_eq (bytes : List UInt8) :
    base58Encode bytes =
      (Radix.convert 256 58 (bytes.map UInt8.toNat)).map fun d => BASE58_ALPHABET.getD d '1' := by
  have hZeros : Radix.leadingZeros (bytes.map UInt8.toNat) =
      (bytes.takeWhile (· == 0)).length := by
    rw [Radix.leadingZeros, List.takeWhile_map, List.length_map]
    congr 2
    funext b
    exact Bool.eq_iff_iff.mpr (by simp [← UInt8.toNat_inj])
  have hValue : Radix.value 256 (bytes.map UInt8.toNat) =
      bytes.foldl (fun n b => 256 * n + b.toNat) 0 := by
    rw [Radix.value, List.foldl_map]
  rw [Radix.convert, hZeros, hValue, List.map_append, List.map_replicate]
  rfl

/-- Base58 reading is the conversion from base 58 to base 256. -/
theorem base58Decode_eq (text : List Char) :
    base58Decode text =
      (Radix.convert 58 256 (text.map BASE58_ALPHABET.idxOf)).map UInt8.ofNat := by
  have hZeros : Radix.leadingZeros (text.map BASE58_ALPHABET.idxOf) =
      (text.takeWhile (· == '1')).length := by
    rw [Radix.leadingZeros, List.takeWhile_map, List.length_map]
    congr 2
    funext c
    refine Bool.eq_iff_iff.mpr ?_
    have hHead : BASE58_ALPHABET = '1' :: BASE58_ALPHABET.tail := by decide
    rw [Function.comp_apply, beq_iff_eq, beq_iff_eq, hHead, List.idxOf_cons]
    by_cases hc : c = '1'
    · simp [hc]
    · simp [hc, beq_eq_false_iff_ne.mpr (Ne.symm hc)]
  have hValue : Radix.value 58 (text.map BASE58_ALPHABET.idxOf) = base58Value text := by
    rw [Radix.value, List.foldl_map]
    rfl
  rw [Radix.convert, hZeros, hValue, List.map_append, List.map_replicate]
  rfl

/-- A digit is the index of its letter. -/
theorem idxOf_getD {d : Nat} (h : d < 58) :
    BASE58_ALPHABET.idxOf (BASE58_ALPHABET.getD d '1') = d := by
  revert d
  decide

/-- The index of a letter is a digit. -/
theorem idxOf_lt {c : Char} (h : c ∈ BASE58_ALPHABET) : BASE58_ALPHABET.idxOf c < 58 :=
  List.idxOf_lt_length_iff.mpr h

/-- A letter is the one at its index. -/
theorem getD_idxOf {c : Char} (h : c ∈ BASE58_ALPHABET) :
    BASE58_ALPHABET.getD (BASE58_ALPHABET.idxOf c) '1' = c := by
  rw [List.getD_eq_getElem _ _ (List.idxOf_lt_length_iff.mpr h), List.getElem_idxOf]

/-- Bytes printed in base58 read back. -/
theorem base58Decode_base58Encode (bytes : List UInt8) :
    base58Decode (base58Encode bytes) = bytes := by
  have hBytes : ∀ n ∈ bytes.map UInt8.toNat, n < 256 := by
    intro n hn
    obtain ⟨b, -, rfl⟩ := List.mem_map.mp hn
    exact b.toNat_lt
  have hDigits : ((Radix.convert 256 58 (bytes.map UInt8.toNat)).map
      fun d => BASE58_ALPHABET.getD d '1').map BASE58_ALPHABET.idxOf =
        Radix.convert 256 58 (bytes.map UInt8.toNat) := by
    rw [List.map_map]
    exact (List.map_congr_left fun d hd =>
      idxOf_getD (Radix.convert_lt (by decide) d hd)).trans (List.map_id' _)
  rw [base58Decode_eq, base58Encode_eq, hDigits, Radix.convert_convert (by decide) hBytes,
    List.map_map]
  exact (List.map_congr_left fun b _ => UInt8.ofNat_toNat).trans (List.map_id' _)

/-- A text of base58 letters prints back. -/
theorem base58Encode_base58Decode {text : List Char} (h : ∀ c ∈ text, c ∈ BASE58_ALPHABET) :
    base58Encode (base58Decode text) = text := by
  have hText : ∀ n ∈ text.map BASE58_ALPHABET.idxOf, n < 58 := by
    intro n hn
    obtain ⟨c, hc, rfl⟩ := List.mem_map.mp hn
    exact idxOf_lt (h c hc)
  have hBytes : ((Radix.convert 58 256 (text.map BASE58_ALPHABET.idxOf)).map
      UInt8.ofNat).map UInt8.toNat = Radix.convert 58 256 (text.map BASE58_ALPHABET.idxOf) := by
    rw [List.map_map]
    exact (List.map_congr_left fun n hn =>
      UInt8.toNat_ofNat_of_lt' (Radix.convert_lt (by decide) n hn)).trans (List.map_id' _)
  rw [base58Encode_eq, base58Decode_eq, hBytes, Radix.convert_convert (by decide) hText,
    List.map_map]
  exact (List.map_congr_left fun c hc => getD_idxOf (h c hc)).trans (List.map_id' _)

namespace NearHtlc

/-! ## Numbers and texts of the language -/

/-- Numbers as far as terms are made of them; the two zeros are one. -/
structure Numbers (N : Type) where
  lt : N → N → Bool
  le : N → N → Bool
  /-- `===` -/
  same : N → N → Bool
  sub : N → N → N
  ofNat : Nat → N
  /-- `String(x)` -/
  toText : N → String
  /-- `Number(text)` -/
  ofText : String → N

structure NearRuntime (N : Type) where
  num : Numbers N
  sha256 : List UInt8 → List UInt8
  /-- `Buffer.from(text, "base64")` -/
  base64Decode : String → List UInt8
  /-- `buffer.toString("utf8")`, which replaces what it cannot decode. -/
  utf8Text : List UInt8 → String
  /-- What `JSON.parse` makes of a number that is no exact integer. -/
  real : List Char → JsonNum

/-- What is documented of the runtime. -/
structure NearRuntime.Lawful {N : Type} (rt : NearRuntime N) : Prop where
  /-- A number that compares with another is no `NaN`, and is read back from its text. -/
  ofText_toText : ∀ x y, rt.num.lt x y = true →
    rt.num.ofText (rt.num.toText x) = x ∧ rt.num.ofText (rt.num.toText y) = y
  utf8Text_encode : ∀ text, rt.utf8Text (Utf8.encode text) = String.ofList text

mutual

/-- `String(value)` -/
def stringOf : Json → String
  | .null => "null"
  | .bool true => "true"
  | .bool false => "false"
  | .num (.int n) => String.ofList (JsonText.printInt n)
  | .num (.other text) => text
  | .str s => s
  | .arr items => ",".intercalate (itemTexts items)
  | .obj _ => "[object Object]"

/-- The items as they are joined; `null` is joined as nothing. -/
def itemTexts : List Json → List String
  | [] => []
  | .null :: items => "" :: itemTexts items
  | item :: items => stringOf item :: itemTexts items

end

def stringOfField (v : Json) (key : String) : String :=
  ((v.field? key).map stringOf).getD "undefined"

/-- The order of `sort()`: by code units. -/
def sortedNames (names : List String) : List String :=
  names.mergeSort fun a b => decide (Utf16.encode a.toList ≤ Utf16.encode b.toList)

/-- `names.join(",")` -/
def joinComma : List String → List Char
  | [] => []
  | [name] => name.toList
  | name :: names => name.toList ++ ',' :: joinComma names

def keysAre (v : Json) (names : List String) : Bool :=
  joinComma (sortedNames v.fieldNames) = joinComma (sortedNames names)

/-- `JSON.parse`, of what is an object and no array. -/
def parseObject {N : Type} (rt : NearRuntime N) (text : String) : Option Json :=
  (JsonText.parse rt.real text.toList).filter Json.isObject

/-- An object of texts. -/
def textsJson (texts : List (String × String)) : Json := .obj (texts.map fun p => (p.1, .str p.2))

/-- `JSON.stringify` of an object of texts. -/
def stringify (texts : List (String × String)) : List Char := JsonText.print (textsJson texts)

/-! ## The rail -/

def PUBLIC_KEY_PREFIX : String := "ed25519:"

def decodePublicKey (publicKey : String) : Except String (List UInt8) := do
  require (PUBLIC_KEY_PREFIX.toList.isPrefixOf publicKey.toList)
    ("near-htlc: unsupported public key format \"" ++ publicKey ++
      "\" (only ed25519: is supported)")
  let text := publicKey.toList.drop PUBLIC_KEY_PREFIX.length
  -- the library's own words for a letter that it does not know
  require (text.all fun c => BASE58_ALPHABET.contains c) "Unknown letter"
  require ((base58Decode text).length = 32)
    "near-htlc: ed25519 public key must decode to exactly 32 bytes"
  return base58Decode text

structure NearSigner where
  accountId : String
  publicKey : String
  sign : List UInt8 → List UInt8

/-- A rail that was connected. -/
structure NearHtlcRail where
  config : NearRailConfig
  signer : NearSigner
  signerPublicKeyBytes : List UInt8
  decoded : decodePublicKey signer.publicKey = .ok signerPublicKeyBytes

structure NearHtlcTerms (N : Type) where
  hashLock : String
  amount : String
  payee : String
  claimByMs : N
  refundAfterMs : N

def NEAR_AMOUNT_FLOOR : Nat := 1

/-- `/^(0|[1-9][0-9]*)$/` -/
def NONNEG_DECIMAL (text : String) : Bool := JsonText.isNatText text.toList

def SECRET_SHAPE (text : String) : Bool := hex32 text

def TGAS : Int := 10 ^ 12
def FT_TRANSFER_CALL_GAS : Int := 20 * TGAS
def CLAIM_REFUND_GAS : Int := 40 * TGAS
def ONE_YOCTO : Int := 1
def NEAR_CLAIM_LANDING_MARGIN_MS : Nat := 30000

def requireNearRef (ref : String) : Except String NearRef :=
  need (parseNearRef ref)
    "near-htlc: ref must be 0x + 64 lowercase hex + ':' + a valid NEAR account id (payer)"

def validateTerms {N : Type} (num : Numbers N) (terms : NearHtlcTerms N) (config : NearRailConfig) :
    Except String Unit := do
  require (NEAR_HASH_LOCK_SHAPE terms.hashLock)
    "near-htlc: hashLock must be 0x + 64 lowercase hex (sha256 statement)"
  require (NEAR_ACCOUNT_ID terms.payee) "near-htlc: payee must be a valid NEAR account id"
  require (terms.payee ≠ config.contract)
    ("near-htlc: payee must not be the HTLC contract itself " ++
      "(H5: it could never receive or spend the payout)")
  require (terms.payee ≠ config.assets.USDC)
    ("near-htlc: payee must not be the USDC token account itself " ++
      "(H5: it could never receive or spend the payout)")
  require (NONNEG_DECIMAL terms.amount ∧ NEAR_AMOUNT_FLOOR ≤ JsonText.readNat terms.amount.toList)
    "near-htlc: amount must be a decimal-integer string >= the floor (1)"
  require (num.lt terms.claimByMs terms.refundAfterMs)
    "near-htlc: claimByMs must be strictly before refundAfterMs"

/-! ## What the builders read of the chain -/

/-- One `get_lock` row. -/
structure NearLockView (N : Type) where
  status : String
  payer : String
  payee : String
  token : String
  amount : String
  claimByMs : N
  refundAfterMs : N
  preimage : Option String

/-- What the reads of one call answer, or what they throw. -/
structure NearReads (N : Type) where
  /-- The chain id of `status`. -/
  chainId : Except String String
  /-- `get_lock` at the final block. -/
  lock : Except String (Option (NearLockView N))
  chainTimeMs : Except String N
  /-- Whether an account is registered on the token. -/
  isRegistered : String → Except String Bool
  /-- The nonce of the access key. -/
  nonce : Except String Int
  recentBlockHashBytes : Except String (List UInt8)

structure NearBuilt where
  transaction : NearTransactionV0
  txHash : String
  signedBytes : List UInt8

/-- The text as the encoder takes it. -/
def textOf (text : String) : Text := Utf16.encode text.toList

def functionCall (methodName : String) (args : List (String × String)) (gas deposit : Int) :
    NearAction :=
  .FunctionCall (textOf methodName) (Utf8.encode (stringify args)) gas deposit

namespace NearHtlcRail

variable {N : Type} (rt : NearRuntime N) (rail : NearHtlcRail)

def assertPinnedChain (chainId : Except String String) : Except String Unit := do
  let chainId ← chainId
  require (chainId ∈ ALLOWED_CHAIN_IDS)
    ("near-htlc: chain \"" ++ chainId ++
      "\" is not on the allow list (near-sandbox-flop, testnet only)" ++ refusedByName chainId)
  require (chainId = rail.config.pin.chainId)
    ("near-htlc: connected chain \"" ++ chainId ++ "\" does not match pin " ++
      quotedPinTextOrPlaceholder rail.config.pin.name ++ " (expected " ++
      quotedPinTextOrPlaceholder rail.config.pin.chainId ++ ")")

def tokenAccount : String := rail.config.assets.USDC

/-- `buildAndSign`, with `buildSignedTransaction`. -/
def buildAndSign (reads : NearReads N) (receiverId : String) (actions : List NearAction) :
    Except String NearBuilt := do
  let nonce ← reads.nonce
  let blockHash ← reads.recentBlockHashBytes
  let tx : NearTransactionV0 :=
    { signerId := textOf rail.signer.accountId
      publicKey := ⟨rail.signerPublicKeyBytes⟩
      nonce := nonce + 1
      receiverId := textOf receiverId
      blockHash
      actions }
  let txBytes ← encodeTransactionV0 tx
  let hash := rt.sha256 txBytes
  let signatureData := rail.signer.sign hash
  require (signatureData.length = 64) "near-borsh: signer must return a 64-byte ed25519 signature"
  let signedBytes ← encodeSignedTransaction ⟨tx, ⟨signatureData⟩⟩
  return ⟨tx, String.ofList (base58Encode hash), signedBytes⟩

def lockMsg (terms : NearHtlcTerms N) : List (String × String) :=
  [("hash_lock", sliceFrom terms.hashLock 2), ("payee", terms.payee),
    ("claim_by_ms", rt.num.toText terms.claimByMs),
    ("refund_after_ms", rt.num.toText terms.refundAfterMs)]

def lockArgs (terms : NearHtlcTerms N) : List (String × String) :=
  [("receiver_id", rail.config.contract), ("amount", terms.amount),
    ("msg", String.ofList (stringify (lockMsg rt terms)))]

def claimArgs (parts : NearRef) (preimage : String) : List (String × String) :=
  [("hash_lock", sliceFrom parts.hashLock 2), ("payer", parts.payer),
    ("preimage", sliceFrom preimage 2)]

def refundArgs (parts : NearRef) : List (String × String) :=
  [("hash_lock", sliceFrom parts.hashLock 2)]

/-- The ref, and the transaction to send. -/
def prepareLock (terms : NearHtlcTerms N) (reads : NearReads N) :
    Except String (String × NearBuilt) := do
  validateTerms rt.num terms rail.config
  rail.assertPinnedChain reads.chainId
  let action := functionCall "ft_transfer_call" (lockArgs rt rail terms) FT_TRANSFER_CALL_GAS
    ONE_YOCTO
  let built ← buildAndSign rt rail reads rail.tokenAccount [action]
  let ref ← formatNearRef terms.hashLock rail.signer.accountId
  return (ref, built)

/-- Whether the row shows a preimage that opens the hash lock. -/
def isRevealed (lockView : NearLockView N) (hashLock : String) : Except String Bool :=
  match lockView.preimage with
  | none => .ok false
  | some preimage => do
    -- the library's own words for what is no hexadecimal text
    let bytes ← need (hexToBytes (sliceFrom preimage 2)) "hex string expected"
    return some (rt.sha256 bytes) = hexToBytes (sliceFrom hashLock 2)

/-- `claim` up to its signature. What comes after that only decides whether it is sent. -/
def claim (ref preimage : String) (notAfterMs : N) (expected : Option (NearHtlcTerms N))
    (reads : NearReads N) : Except String NearBuilt := do
  let parts ← requireNearRef ref
  require (∀ terms ∈ expected, terms.hashLock = parts.hashLock)
    "near-htlc: refusing to claim — the expected terms name another hash lock than the ref"
  require (SECRET_SHAPE preimage) "near-htlc: preimage must be 0x + 64 lowercase hex"
  require ((hexToBytes (sliceFrom preimage 2)).map rt.sha256 =
      hexToBytes (sliceFrom parts.hashLock 2))
    ("near-htlc: preimage does not open hashLock (sha256 mismatch) — " ++
      "refusing to build a claim that can never verify")
  rail.assertPinnedChain reads.chainId
  let found ← reads.lock
  let lockView ← need (found.filter fun view => view.status = "Locked")
    ("near-htlc: refusing to claim — lock is not in a claimable \"Locked\" state (got " ++
      ((found.map NearLockView.status).getD "none") ++ ")")
  let expectedPayee := (expected.map NearHtlcTerms.payee).getD rail.signer.accountId
  require (lockView.payee = expectedPayee)
    ("near-htlc: refusing to claim — the lock pays \"" ++ lockView.payee ++
      "\", not the expected payee \"" ++ expectedPayee ++ "\" (H12)")
  require (lockView.token = rail.tokenAccount)
    ("near-htlc: refusing to claim — the lock's token \"" ++ lockView.token ++
      "\" is not the configured USDC asset (H12)")
  require (∀ terms ∈ expected, lockView.amount = terms.amount)
    ("near-htlc: refusing to claim — the lock holds " ++ lockView.amount ++ ", not the expected " ++
      ((expected.map NearHtlcTerms.amount).getD "") ++ " (H12)")
  require (∀ terms ∈ expected, rt.num.same lockView.claimByMs terms.claimByMs ∧
      rt.num.same lockView.refundAfterMs terms.refundAfterMs)
    ("near-htlc: refusing to claim — the lock's claim/refund times differ from " ++
      "the expected terms (H12)")
  let revealed ← isRevealed rt lockView parts.hashLock
  let preClaimNowMs ← reads.chainTimeMs
  require (revealed ∨ rt.num.lt preClaimNowMs lockView.refundAfterMs)
    "near-htlc: refusing to claim — chain time is already at/after refundAfterMs"
  require (← reads.isRegistered lockView.payee)
    ("near-htlc: refusing to claim — payee \"" ++ lockView.payee ++
      "\" is not storage-registered on the token (the payout would fail)")
  require (revealed ∨ ¬ rt.num.lt
      (rt.num.sub lockView.refundAfterMs (rt.num.ofNat NEAR_CLAIM_LANDING_MARGIN_MS)) notAfterMs)
    ("near-htlc: refusing to claim — notAfterMs (" ++ rt.num.toText notAfterMs ++
      ") leaves less than the 30000ms landing margin before refundAfterMs (" ++
      rt.num.toText lockView.refundAfterMs ++ ")")
  let action := functionCall "claim" (claimArgs parts preimage) CLAIM_REFUND_GAS 0
  buildAndSign rt rail reads rail.config.contract [action]

/-- `refund` up to its signature. -/
def refund (ref : String) (reads : NearReads N) : Except String NearBuilt := do
  let parts ← requireNearRef ref
  require (parts.payer = rail.signer.accountId)
    ("near-htlc: refund must be signed by the payer's own account " ++
      "(the ref's payer must equal signer.accountId)")
  rail.assertPinnedChain reads.chainId
  let found ← reads.lock
  let lockView ← need (found.filter fun view => view.status = "Locked")
    ("near-htlc: refusing to refund — lock is not in a refundable \"Locked\" state (got " ++
      ((found.map NearLockView.status).getD "none") ++ ")")
  require (lockView.payer = rail.signer.accountId)
    ("near-htlc: refund must be signed by the payer's own account " ++
      "(signer.accountId must equal the lock's payer)")
  let nowMs ← reads.chainTimeMs
  require (rt.num.le lockView.refundAfterMs nowMs)
    "near-htlc: refusing to refund — chain time has not yet reached refundAfterMs"
  let action := functionCall "refund" (refundArgs parts) CLAIM_REFUND_GAS 0
  buildAndSign rt rail reads rail.config.contract [action]

end NearHtlcRail

/-! ## Recovering -/

/-- `NearTxOutcome`, as far as it is read. -/
structure NearTxOutcome where
  id : String
  transaction : Option Json

def decodeOutcome (raw : Json) : Except String NearTxOutcome := do
  let missing := "near-rpc: outcome is missing transaction_outcome.block_hash/id"
  let outcome ← need (raw.field? "transaction_outcome") missing
  let _ ← need (outcome.text? "block_hash") missing
  let id ← need (outcome.text? "id") missing
  return ⟨id, (raw.field? "transaction").filter Json.isObject⟩

/-- What `EXPERIMENTAL_tx_status` answers. -/
inductive TxStatusReply where
  | unknownTransaction
  | failed (message : String)
  | outcome (raw : Json)

inductive NearWriteKind where
  | lock
  | claim
  | refund
deriving DecidableEq, Repr

structure OwnWrite (N : Type) where
  kind : NearWriteKind
  lockTerms : Option (NearHtlcTerms N)

structure NearRecoveredWrite (N : Type) where
  ref : String
  txHash : String
  write : OwnWrite N

/-- The text of a `NearUnexpectedTransactionError`. -/
def unexpectedTransaction (txHash detail : String) : String :=
  "near-htlc: transaction " ++ txHash ++
    " is not this rail's write for the expected ref: " ++ detail

namespace NearHtlcRail

variable {N : Type} (rt : NearRuntime N) (rail : NearHtlcRail)

/-- The branch of `classifyOwnWrite` for a call of the token. -/
def classifyLock (call args : Json) (txHash : String) (refParts : NearRef) :
    Except String (OwnWrite N) := do
  let refuse := unexpectedTransaction txHash
  require (refParts.payer = rail.signer.accountId)
    (refuse "the ref's payer is not this signer, so it cannot be this signer's lock")
  require (stringOfField call "deposit" = "1") (refuse "a lock carries exactly 1 yoctoNEAR")
  let notLock := refuse
    "its ft_transfer_call arguments are not \x7breceiver_id: this contract, amount, msg\x7d"
  require (keysAre args ["receiver_id", "amount", "msg"]) notLock
  require (args.text? "receiver_id" = some rail.config.contract) notLock
  let amount ← need (args.text? "amount") notLock
  let msgText ← need (args.text? "msg") notLock
  let msg ← need (parseObject rt msgText) (refuse "its lock msg is not a JSON object")
  let notRef := refuse "its lock msg does not name this ref's hash lock in the expected shape"
  require (keysAre msg ["hash_lock", "payee", "claim_by_ms", "refund_after_ms"]) notRef
  require (msg.text? "hash_lock" = some (sliceFrom refParts.hashLock 2)) notRef
  let payee ← need (msg.text? "payee") notRef
  let claimByMs ← need (msg.text? "claim_by_ms") notRef
  let refundAfterMs ← need (msg.text? "refund_after_ms") notRef
  require (NONNEG_DECIMAL amount) notRef
  return ⟨.lock, some ⟨refParts.hashLock, amount, payee, rt.num.ofText claimByMs,
    rt.num.ofText refundAfterMs⟩⟩

/-- The branch for a claim. -/
def classifyClaim (call args : Json) (txHash : String) (refParts : NearRef) :
    Except String (OwnWrite N) := do
  let refuse := unexpectedTransaction txHash
  require (stringOfField call "deposit" = "0") (refuse "a claim carries no deposit")
  let notRef := refuse "its claim arguments do not name this ref's hash lock and payer"
  require (keysAre args ["hash_lock", "payer", "preimage"]) notRef
  require (args.text? "hash_lock" = some (sliceFrom refParts.hashLock 2)) notRef
  require (args.text? "payer" = some refParts.payer) notRef
  require (args.text? "preimage").isSome notRef
  return ⟨.claim, none⟩

/-- The branch for a refund. -/
def classifyRefund (call args : Json) (txHash : String) (refParts : NearRef) :
    Except String (OwnWrite N) := do
  let refuse := unexpectedTransaction txHash
  require (refParts.payer = rail.signer.accountId)
    (refuse "the ref's payer is not this signer, so it cannot be this signer's refund")
  require (stringOfField call "deposit" = "0") (refuse "a refund carries no deposit")
  let notRef := refuse "its refund arguments do not name this ref's hash lock"
  require (keysAre args ["hash_lock"]) notRef
  require (args.text? "hash_lock" = some (sliceFrom refParts.hashLock 2)) notRef
  return ⟨.refund, none⟩

/-- The end of `classifyOwnWrite`: which of the writes the call is. -/
def classifyCall (tx call args : Json) (txHash : String) (refParts : NearRef) :
    Except String (OwnWrite N) :=
  let receiver := tx.text? "receiver_id"
  let method := call.text? "method_name"
  if receiver = some rail.tokenAccount ∧ method = some "ft_transfer_call" then
    classifyLock rt rail call args txHash refParts
  else if receiver = some rail.config.contract ∧ method = some "claim" then
    classifyClaim call args txHash refParts
  else if receiver = some rail.config.contract ∧ method = some "refund" then
    classifyRefund rail call args txHash refParts
  else
    .error (unexpectedTransaction txHash ("receiver \"" ++ stringOfField tx "receiver_id" ++
      "\" method \"" ++ stringOfField call "method_name" ++ "\" is none of this rail's writes"))

def classifyOwnWrite (outcome : NearTxOutcome) (txHash senderAccountId : String)
    (refParts : NearRef) : Except String (OwnWrite N) := do
  let refuse := unexpectedTransaction txHash
  let tx ← need outcome.transaction
    (refuse "the node's reply carries no transaction body to check")
  require (outcome.id = txHash ∧ ((tx.field? "hash").isNone ∨ tx.text? "hash" = some txHash))
    (refuse "the reply describes a different transaction hash")
  require (senderAccountId = rail.signer.accountId ∧
      tx.text? "signer_id" = some rail.signer.accountId)
    (refuse "it was not signed by this rail's own account")
  require (tx.text? "public_key" = some rail.signer.publicKey)
    (refuse "it was not signed with this rail's own key")
  let action ← need ((tx.items? "actions").bind fun actions =>
      if actions.length = 1 then actions.head? else none)
    (refuse "it does not carry exactly one action")
  let call ← need (action.container? "FunctionCall")
    (refuse "its one action is not a function call")
  let args ← need (parseObject rt (rt.utf8Text (rt.base64Decode (stringOfField call "args"))))
    (refuse "its call arguments are not a JSON object")
  classifyCall rt rail tx call args txHash refParts

/-- `confirmWrite` checks what the write did and makes its evidence. -/
def recoverByTxHash {E : Type} (chainId : Except String String) (reply : TxStatusReply)
    (confirmWrite : NearRecoveredWrite N → Except String E)
    (txHash senderAccountId expectedRef : String) : Except String (Option E) := do
  let refParts ← requireNearRef expectedRef
  rail.assertPinnedChain chainId
  match reply with
  | .unknownTransaction => return none
  | .failed message => .error message
  | .outcome raw =>
    let outcome ← decodeOutcome raw
    let write ← classifyOwnWrite rt rail outcome txHash senderAccountId refParts
    return some (← confirmWrite ⟨expectedRef, txHash, write⟩)

end NearHtlcRail

/-! ## The node's JSON of a transaction -/

section

variable {N : Type} (rt : NearRuntime N)

/-- A function call is an object of its parts, the arguments in base64; any other action is
something else. -/
def ActionForm : NearAction → Json → Prop
  | .FunctionCall methodName args _ deposit, v => ∃ call name argsText n,
    v.field? "FunctionCall" = some call ∧ call.isObject = true ∧
      call.text? "method_name" = some name ∧ textOf name = methodName ∧
      call.text? "args" = some argsText ∧ rt.base64Decode argsText = args ∧
      call.text? "deposit" = some (String.ofList (JsonText.printNat n)) ∧ deposit = n
  | _, v => v.field? "FunctionCall" = none

/-- The JSON form of a transaction of this hash. -/
structure TransactionForm (tx : NearTransactionV0) (txHash : String) (body : Json) : Prop where
  hash : body.field? "hash" = none ∨ body.text? "hash" = some txHash
  signerId : ∃ text, body.text? "signer_id" = some text ∧ textOf text = tx.signerId
  publicKey : body.text? "public_key" =
    some (PUBLIC_KEY_PREFIX ++ String.ofList (base58Encode tx.publicKey.data))
  receiverId : ∃ text, body.text? "receiver_id" = some text ∧ textOf text = tx.receiverId
  actions : ∃ items, body.items? "actions" = some items ∧
    List.Forall₂ (ActionForm rt) tx.actions items

/-- A reply that is faithful to the transaction of this hash. -/
structure Reports (tx : NearTransactionV0) (txHash : String) (raw : Json) : Prop where
  outcome : ∃ body, decodeOutcome raw = .ok ⟨txHash, some body⟩ ∧ TransactionForm rt tx txHash body

/-! ## What a write is -/

/-- An object that has these fields and no others, with these texts. -/
structure HasTexts (v : Json) (texts : List (String × String)) : Prop where
  names : v.fieldNames.Perm (texts.map Prod.fst)
  text : ∀ p ∈ texts, v.text? p.1 = some p.2

/-- What the bytes of the arguments decode to. -/
def decodedArgs (args : List UInt8) : Option Json := parseObject rt (rt.utf8Text args)

/-- The transaction makes one call, of this method of the receiver, with these arguments. -/
def Calls (tx : NearTransactionV0) (receiver method : String) (texts : List (String × String))
    (deposit : Int) : Prop :=
  tx.receiverId = textOf receiver ∧ ∃ args gas decoded,
    tx.actions = [.FunctionCall (textOf method) args gas deposit] ∧
      decodedArgs rt args = some decoded ∧ HasTexts decoded texts

variable (rail : NearHtlcRail)

/-- The call that makes a transaction this write, for the ref with these parts. -/
def IsWrite (refParts : NearRef) (tx : NearTransactionV0) (write : OwnWrite N) : Prop :=
  match write.kind with
  | .lock => refParts.payer = rail.signer.accountId ∧ ∃ terms msgText msg claimByMs refundAfterMs,
    write.lockTerms = some terms ∧ terms.hashLock = refParts.hashLock ∧
      terms.claimByMs = rt.num.ofText claimByMs ∧
      terms.refundAfterMs = rt.num.ofText refundAfterMs ∧
      Calls rt tx rail.tokenAccount "ft_transfer_call"
        [("receiver_id", rail.config.contract), ("amount", terms.amount), ("msg", msgText)] 1 ∧
      parseObject rt msgText = some msg ∧
      HasTexts msg [("hash_lock", sliceFrom terms.hashLock 2), ("payee", terms.payee),
        ("claim_by_ms", claimByMs), ("refund_after_ms", refundAfterMs)]
  | .claim => write.lockTerms = none ∧ ∃ preimage,
    Calls rt tx rail.config.contract "claim"
      [("hash_lock", sliceFrom refParts.hashLock 2), ("payer", refParts.payer),
        ("preimage", preimage)] 0
  | .refund => write.lockTerms = none ∧ refParts.payer = rail.signer.accountId ∧
    Calls rt tx rail.config.contract "refund" [("hash_lock", sliceFrom refParts.hashLock 2)] 0

end

/-! ## Objects of texts -/

/-- What the names take up in the join, a comma each. -/
def weight (names : List String) : Nat := (names.map fun name => name.toList.length + 1).sum

/-- The length of names joined by commas. -/
theorem length_joinComma {names : List String} (h : names ≠ []) :
    (joinComma names).length + 1 = weight names := by
  induction names with
  | nil => exact absurd rfl h
  | cons name names ih =>
    cases names with
    | nil => simp [joinComma, weight]
    | cons name' names =>
      have ih := ih (List.cons_ne_nil _ _)
      rw [joinComma, List.length_append, List.length_cons, ih]
      simp only [weight, List.map_cons, List.sum_cons]
      · omega
      · exact fun h => List.cons_ne_nil _ _ h

/-- Where the names are all there, the test leaves room for no other. -/
theorem perm_of_keysAre {v : Json} {names : List String} (h : keysAre v names = true)
    (hne : names ≠ []) (hNodup : names.Nodup) (hNames : ∀ name ∈ names, name ∈ v.fieldNames) :
    v.fieldNames.Perm names := by
  -- the joined texts are equal, so the names weigh the same
  have hWeight (names : List String) : weight (sortedNames names) = weight names :=
    ((List.mergeSort_perm names _).map _).sum_eq
  have hSorted {names : List String} (h : names ≠ []) : sortedNames names ≠ [] := by
    intro hNil
    have hLength := (List.mergeSort_perm names
      fun a b => decide (Utf16.encode a.toList ≤ Utf16.encode b.toList)).length_eq
    rw [show names.mergeSort _ = [] from hNil] at hLength
    exact h (List.length_eq_zero_iff.mp hLength.symm)
  have hFields : v.fieldNames ≠ [] := by
    obtain ⟨name, hName⟩ := List.exists_mem_of_ne_nil names hne
    exact List.ne_nil_of_mem (hNames name hName)
  -- the names are among the fields; whatever is left of these weighs nothing
  obtain ⟨found, hFound, hSub⟩ := List.subperm_of_subset hNodup hNames
  obtain ⟨rest, hSplit⟩ := hSub.exists_perm_append
  have hPerm : v.fieldNames.Perm (names ++ rest) := hSplit.trans (hFound.append_right rest)
  have hEq : weight v.fieldNames = weight names := by
    rw [← hWeight v.fieldNames, ← hWeight names, ← length_joinComma (hSorted hFields),
      ← length_joinComma (hSorted hne), of_decide_eq_true h]
  have hSum : weight v.fieldNames = weight names + weight rest := by
    rw [weight, (hPerm.map _).sum_eq, List.map_append, List.sum_append]
    rfl
  have hRest : rest = [] := by
    cases rest with
    | nil => rfl
    | cons name rest =>
      simp only [weight, List.map_cons, List.sum_cons] at hSum hEq
      omega
  rw [hRest, List.append_nil] at hPerm
  exact hPerm

/-- The field names of an object of texts. -/
theorem fieldNames_textsJson (texts : List (String × String)) :
    (textsJson texts).fieldNames = texts.map Prod.fst := by
  rw [textsJson, Json.fieldNames, List.map_map]
  rfl

/-- An object of texts holds each of them. -/
theorem hasTexts_textsJson {texts : List (String × String)} (h : (texts.map Prod.fst).Nodup) :
    HasTexts (textsJson texts) texts := by
  refine ⟨by rw [fieldNames_textsJson], fun p hp => ?_⟩
  rw [Json.text?_eq_some, textsJson, Json.field?]
  induction texts with
  | nil => cases hp
  | cons q texts ih =>
    rw [List.map_cons, List.nodup_cons] at h
    rw [List.map_cons, List.lookup_cons]
    rcases List.mem_cons.mp hp with rfl | hp
    · rw [beq_self_eq_true]
    · have hne : p.1 ≠ q.1 := fun hEq => h.1 (hEq ▸ List.mem_map_of_mem hp)
      rw [beq_eq_false_iff_ne.mpr hne]
      exact ih h.2 hp

/-- A text that is found has its key among the field names. -/
theorem mem_fieldNames_of_text? {v : Json} {key text : String} (h : v.text? key = some text) :
    key ∈ v.fieldNames := by
  have hField := Json.text?_eq_some.mp h
  unfold Json.field? at hField
  split at hField
  · obtain ⟨before, after, rfl, -⟩ := List.lookup_eq_some_iff.mp hField
    rw [Json.fieldNames, List.map_append, List.map_cons]
    exact List.mem_append_right _ List.mem_cons_self
  · cases hField

/-- The test and the reads make an object one of these texts. -/
theorem hasTexts_of_keysAre {v : Json} {texts : List (String × String)}
    (h : keysAre v (texts.map Prod.fst) = true) (hne : texts.map Prod.fst ≠ [])
    (hNodup : (texts.map Prod.fst).Nodup) (hText : ∀ p ∈ texts, v.text? p.1 = some p.2) :
    HasTexts v texts := by
  refine ⟨perm_of_keysAre h hne hNodup fun name hName => ?_, hText⟩
  obtain ⟨p, hp, rfl⟩ := List.mem_map.mp hName
  exact mem_fieldNames_of_text? (hText p hp)

/-- The fields of texts are plain. -/
theorem plainFields_texts (texts : List (String × String)) :
    JsonText.PlainFields (texts.map fun p => (p.1, .str p.2)) := by
  induction texts with
  | nil => trivial
  | cons p texts ih => exact ⟨trivial, ih⟩

/-- A printed object of texts parses back. -/
theorem parseObject_stringify {N : Type} (rt : NearRuntime N) {texts : List (String × String)}
    (h : (texts.map Prod.fst).Nodup) :
    parseObject rt (String.ofList (stringify texts)) = some (textsJson texts) := by
  have hPlain : JsonText.Plain (textsJson texts) := by
    refine ⟨?_, plainFields_texts texts⟩
    rw [List.map_map]
    exact h
  rw [parseObject, String.toList_ofList, stringify, JsonText.parse_print hPlain]
  rfl

/-! ## What the classifier accepts -/

section

open NearHtlcRail

variable {N : Type} {rt : NearRuntime N} {rail : NearHtlcRail} {refParts : NearRef}
  {txHash : String} {call args : Json} {write : OwnWrite N}

/-- What a call must be to be taken for a lock. -/
theorem classifyLock_eq_ok : classifyLock rt rail call args txHash refParts = .ok write ↔
    (refParts.payer = rail.signer.accountId ∧ stringOfField call "deposit" = "1") ∧
      ∃ terms msgText msg claimByMs refundAfterMs,
        keysAre args ["receiver_id", "amount", "msg"] = true ∧
        args.text? "receiver_id" = some rail.config.contract ∧
        args.text? "amount" = some terms.amount ∧ args.text? "msg" = some msgText ∧
        parseObject rt msgText = some msg ∧
        keysAre msg ["hash_lock", "payee", "claim_by_ms", "refund_after_ms"] = true ∧
        msg.text? "hash_lock" = some (sliceFrom refParts.hashLock 2) ∧
        msg.text? "payee" = some terms.payee ∧ msg.text? "claim_by_ms" = some claimByMs ∧
        msg.text? "refund_after_ms" = some refundAfterMs ∧ NONNEG_DECIMAL terms.amount = true ∧
        terms = ⟨refParts.hashLock, terms.amount, terms.payee, rt.num.ofText claimByMs,
          rt.num.ofText refundAfterMs⟩ ∧ write = ⟨.lock, some terms⟩ := by
  unfold classifyLock
  simp only [require_bind_eq_ok, need_bind_eq_ok]
  constructor
  · rintro ⟨hPayer, hDeposit, hKeys, hReceiver, amount, hAmount, msgText, hMsgText, msg, hMsg,
      hMsgKeys, hHash, payee, hPayee, claimByMs, hClaimBy, refundAfterMs, hRefundAfter, hDecimal,
      hWrite⟩
    exact ⟨⟨hPayer, hDeposit⟩, ⟨refParts.hashLock, amount, payee, _, _⟩, msgText, msg, claimByMs,
      refundAfterMs, hKeys, hReceiver, hAmount, hMsgText, hMsg, hMsgKeys, hHash, hPayee, hClaimBy,
      hRefundAfter, hDecimal, rfl, (Except.ok.inj hWrite).symm⟩
  · rintro ⟨⟨hPayer, hDeposit⟩, terms, msgText, msg, claimByMs, refundAfterMs, hKeys, hReceiver,
      hAmount, hMsgText, hMsg, hMsgKeys, hHash, hPayee, hClaimBy, hRefundAfter, hDecimal, hTerms,
      rfl⟩
    refine ⟨hPayer, hDeposit, hKeys, hReceiver, _, hAmount, msgText, hMsgText, msg, hMsg, hMsgKeys,
      hHash, _, hPayee, claimByMs, hClaimBy, refundAfterMs, hRefundAfter, hDecimal, ?_⟩
    rw [← hTerms]
    rfl

/-- What a call must be to be taken for a claim. -/
theorem classifyClaim_eq_ok : classifyClaim call args txHash refParts = .ok write ↔
    stringOfField call "deposit" = "0" ∧ ∃ preimage,
      keysAre args ["hash_lock", "payer", "preimage"] = true ∧
      args.text? "hash_lock" = some (sliceFrom refParts.hashLock 2) ∧
      args.text? "payer" = some refParts.payer ∧ args.text? "preimage" = some preimage ∧
      write = ⟨.claim, none⟩ := by
  unfold classifyClaim
  simp only [require_bind_eq_ok]
  constructor
  · rintro ⟨hDeposit, hKeys, hHash, hPayer, hPreimage, hWrite⟩
    obtain ⟨preimage, hPreimage⟩ := Option.isSome_iff_exists.mp hPreimage
    exact ⟨hDeposit, preimage, hKeys, hHash, hPayer, hPreimage, (Except.ok.inj hWrite).symm⟩
  · rintro ⟨hDeposit, preimage, hKeys, hHash, hPayer, hPreimage, rfl⟩
    exact ⟨hDeposit, hKeys, hHash, hPayer, Option.isSome_iff_exists.mpr ⟨preimage, hPreimage⟩, rfl⟩

/-- What a call must be to be taken for a refund. -/
theorem classifyRefund_eq_ok : classifyRefund rail call args txHash refParts = .ok write ↔
    refParts.payer = rail.signer.accountId ∧ stringOfField call "deposit" = "0" ∧
      keysAre args ["hash_lock"] = true ∧
      args.text? "hash_lock" = some (sliceFrom refParts.hashLock 2) ∧
      write = ⟨.refund, none⟩ := by
  unfold classifyRefund
  simp only [require_bind_eq_ok]
  constructor
  · rintro ⟨hPayer, hDeposit, hKeys, hHash, hWrite⟩
    exact ⟨hPayer, hDeposit, hKeys, hHash, (Except.ok.inj hWrite).symm⟩
  · rintro ⟨hPayer, hDeposit, hKeys, hHash, rfl⟩
    exact ⟨hPayer, hDeposit, hKeys, hHash, rfl⟩

/-- The one action of the body, its call and what the arguments decode to. -/
structure OneCall (rt : NearRuntime N) (body call args : Json) : Prop where
  action : ∃ item, body.items? "actions" = some [item] ∧
    item.container? "FunctionCall" = some call
  args : parseObject rt (rt.utf8Text (rt.base64Decode (stringOfField call "args"))) = some args

/-- What an outcome must hold to be taken for a write of this client. -/
theorem classifyOwnWrite_eq_ok {outcome : NearTxOutcome} {senderAccountId : String} :
    classifyOwnWrite rt rail outcome txHash senderAccountId refParts = .ok write ↔
      ∃ body call args, outcome.transaction = some body ∧ outcome.id = txHash ∧
        ((body.field? "hash").isNone ∨ body.text? "hash" = some txHash) ∧
        senderAccountId = rail.signer.accountId ∧
        body.text? "signer_id" = some rail.signer.accountId ∧
        body.text? "public_key" = some rail.signer.publicKey ∧ OneCall rt body call args ∧
        classifyCall rt rail body call args txHash refParts = .ok write := by
  unfold classifyOwnWrite
  simp only [require_bind_eq_ok, need_bind_eq_ok]
  constructor
  · rintro ⟨body, hBody, ⟨hId, hHash⟩, ⟨hSender, hSigner⟩, hKey, item, hItem, call, hCall, args,
      hArgs, hWrite⟩
    obtain ⟨items, hItems, hItem⟩ := Option.bind_eq_some_iff.mp hItem
    rw [Option.ite_none_right_eq_some] at hItem
    obtain ⟨only, rfl⟩ := List.length_eq_one_iff.mp hItem.1
    obtain rfl := Option.some.inj hItem.2
    exact ⟨body, call, args, hBody, hId, hHash, hSender, hSigner, hKey, ⟨⟨_, hItems, hCall⟩, hArgs⟩,
      hWrite⟩
  · rintro ⟨body, call, args, hBody, hId, hHash, hSender, hSigner, hKey,
      ⟨⟨item, hItems, hCall⟩, hArgs⟩, hWrite⟩
    refine ⟨body, hBody, ⟨hId, hHash⟩, ⟨hSender, hSigner⟩, hKey, item, ?_, call, hCall, args, hArgs,
      hWrite⟩
    rw [hItems]
    rfl

/-- The branches of the last step; what is in none of them is refused. -/
theorem classifyCall_eq_ok {body : Json} :
    classifyCall rt rail body call args txHash refParts = .ok write →
      (body.text? "receiver_id" = some rail.tokenAccount ∧
        call.text? "method_name" = some "ft_transfer_call" ∧
          classifyLock rt rail call args txHash refParts = .ok write) ∨
      (body.text? "receiver_id" = some rail.config.contract ∧
        call.text? "method_name" = some "claim" ∧
          classifyClaim call args txHash refParts = .ok write) ∨
      (body.text? "receiver_id" = some rail.config.contract ∧
        call.text? "method_name" = some "refund" ∧
          classifyRefund rail call args txHash refParts = .ok write) := by
  intro h
  unfold classifyCall at h
  dsimp only at h
  split at h
  · rename_i hLock
    exact .inl ⟨hLock.1, hLock.2, h⟩
  · split at h
    · rename_i hClaim
      exact .inr (.inl ⟨hClaim.1, hClaim.2, h⟩)
    · split at h
      · rename_i hRefund
        exact .inr (.inr ⟨hRefund.1, hRefund.2, h⟩)
      · cases h

end

/-! ## The key of the rail -/

/-- The text of the rail's key is that of its bytes. -/
theorem NearHtlcRail.publicKey_eq (rail : NearHtlcRail) :
    rail.signer.publicKey =
      PUBLIC_KEY_PREFIX ++ String.ofList (base58Encode rail.signerPublicKeyBytes) := by
  have h := rail.decoded
  unfold decodePublicKey at h
  simp only [require_bind_eq_ok] at h
  obtain ⟨hPrefix, hLetters, -, hBytes⟩ := h
  obtain ⟨rest, hRest⟩ := List.isPrefixOf_iff_prefix.mp hPrefix
  have hDrop : rail.signer.publicKey.toList.drop PUBLIC_KEY_PREFIX.length = rest := by
    rw [← hRest, String.length, List.drop_left]
  rw [hDrop] at hLetters hBytes
  have hAlphabet : ∀ c ∈ rest, c ∈ BASE58_ALPHABET := fun c hc =>
    List.contains_iff_mem.mp (List.all_eq_true.mp hLetters c hc)
  rw [← Except.ok.inj hBytes, base58Encode_base58Decode hAlphabet]
  apply String.toList_inj.mp
  rw [String.toList_append, String.toList_ofList, hRest]

/-- A key with the text of the rail's has its bytes. -/
theorem NearHtlcRail.bytes_of_publicKey {rail : NearHtlcRail} {data : List UInt8}
    (h : PUBLIC_KEY_PREFIX ++ String.ofList (base58Encode data) = rail.signer.publicKey) :
    data = rail.signerPublicKeyBytes := by
  have hText := congrArg String.toList (h.trans rail.publicKey_eq)
  rw [String.toList_append, String.toList_append, String.toList_ofList,
    String.toList_ofList] at hText
  have hDecode := congrArg base58Decode (List.append_cancel_left hText)
  rwa [base58Decode_base58Encode, base58Decode_base58Encode] at hDecode

/-! ## What is accepted is a write -/

section

open NearHtlcRail

variable {N : Type} {rt : NearRuntime N} {rail : NearHtlcRail} {refParts : NearRef}
  {tx : NearTransactionV0} {txHash : String} {body call args : Json} {write : OwnWrite N}

/-- Numbers that print alike are the same. -/
theorem printNat_inj {n k : Nat} (h : String.ofList (JsonText.printNat n) =
    String.ofList (JsonText.printNat k)) : n = k := by
  have hRead := congrArg JsonText.readNat (String.ofList_injective h)
  rwa [JsonText.readNat_printNat, JsonText.readNat_printNat] at hRead

/-- A text field is read as its text. -/
theorem stringOfField_of_text? {v : Json} {key text : String} (h : v.text? key = some text) :
    stringOfField v key = text := by
  rw [stringOfField, Json.text?_eq_some.mp h]
  rfl

/-- What the body of a transaction says of its one call is so. -/
theorem actions_of_oneCall (hForm : TransactionForm rt tx txHash body)
    (hCall : OneCall rt body call args) : ∃ methodName bytes gas deposit name n,
      tx.actions = [.FunctionCall methodName bytes gas deposit] ∧
        call.text? "method_name" = some name ∧ textOf name = methodName ∧
        decodedArgs rt bytes = some args ∧
        stringOfField call "deposit" = String.ofList (JsonText.printNat n) ∧ deposit = n := by
  obtain ⟨item, hItems, hFound⟩ := hCall.action
  obtain ⟨items, hItems', hForms⟩ := hForm.actions
  obtain rfl := Option.some.inj (hItems.symm.trans hItems')
  obtain ⟨action, rest, hAction, hRest, hActions⟩ := List.forall₂_cons_right_iff.mp hForms
  obtain rfl := List.forall₂_nil_right_iff.mp hRest
  have hField := (Option.filter_eq_some_iff.mp hFound).1
  cases action with
  | FunctionCall methodName bytes gas deposit =>
    obtain ⟨call', name, argsText, n, hCall', -, hName, hMethod, hArgs, hBytes, hDeposit, hn⟩ :=
      hAction
    obtain rfl := Option.some.inj (hField.symm.trans hCall')
    have hDecoded := hCall.args
    rw [stringOfField_of_text? hArgs, hBytes] at hDecoded
    exact ⟨methodName, bytes, gas, deposit, name, n, hActions, hName, hMethod, hDecoded,
      stringOfField_of_text? hDeposit, hn⟩
  | _ => cases hField.symm.trans hAction

/-- A call of this method of the receiver, with a deposit that is printed so. -/
theorem calls_of_oneCall {receiver method : String} {deposit : Nat}
    {texts : List (String × String)} (hForm : TransactionForm rt tx txHash body)
    (hCall : OneCall rt body call args) (hReceiver : body.text? "receiver_id" = some receiver)
    (hMethod : call.text? "method_name" = some method)
    (hDeposit : stringOfField call "deposit" = String.ofList (JsonText.printNat deposit))
    (hTexts : HasTexts args texts) : Calls rt tx receiver method texts deposit := by
  obtain ⟨methodName, bytes, gas, paid, name, n, hActions, hName, hText, hArgs, hPaid, rfl⟩ :=
    actions_of_oneCall hForm hCall
  obtain ⟨text, hFound, hReceiverId⟩ := hForm.receiverId
  obtain rfl := Option.some.inj (hReceiver.symm.trans hFound)
  obtain rfl := Option.some.inj (hMethod.symm.trans hName)
  obtain rfl := printNat_inj (hDeposit.symm.trans hPaid)
  exact ⟨hReceiverId.symm, bytes, gas, args, by rw [hActions, hText], hArgs, hTexts⟩

/-- A call that is classified is the write it is classified as. -/
theorem isWrite_of_classifyCall (hForm : TransactionForm rt tx txHash body)
    (hCall : OneCall rt body call args)
    (h : classifyCall rt rail body call args txHash refParts = .ok write) :
    IsWrite rt rail refParts tx write := by
  rcases classifyCall_eq_ok h with ⟨hReceiver, hMethod, h⟩ | ⟨hReceiver, hMethod, h⟩ |
    ⟨hReceiver, hMethod, h⟩
  -- a lock: the message of the transfer holds the terms
  · obtain ⟨⟨hPayer, hDeposit⟩, terms, msgText, msg, claimByMs, refundAfterMs, hKeys, hTo, hAmount,
      hMsgText, hMsg, hMsgKeys, hHash, hPayee, hClaimBy, hRefundAfter, -, hTerms, rfl⟩ :=
        classifyLock_eq_ok.mp h
    have hHashLock : terms.hashLock = refParts.hashLock := by rw [hTerms]
    refine ⟨hPayer, terms, msgText, msg, claimByMs, refundAfterMs, rfl, hHashLock, by rw [hTerms],
      by rw [hTerms], ?_, hMsg, ?_⟩
    · refine @calls_of_oneCall N rt tx txHash body call args _ _ 1 _ hForm hCall hReceiver hMethod
        hDeposit (hasTexts_of_keysAre hKeys (by simp) (by simp) ?_)
      simp only [List.forall_mem_cons]
      exact ⟨hTo, hAmount, hMsgText, nofun⟩
    · refine hasTexts_of_keysAre hMsgKeys (by simp) (by simp) ?_
      simp only [List.forall_mem_cons]
      exact ⟨hHashLock ▸ hHash, hPayee, hClaimBy, hRefundAfter, nofun⟩
  -- a claim, with the preimage
  · obtain ⟨hDeposit, preimage, hKeys, hHash, hPayer, hPreimage, rfl⟩ := classifyClaim_eq_ok.mp h
    refine ⟨rfl, preimage, @calls_of_oneCall N rt tx txHash body call args _ _ 0 _ hForm hCall
      hReceiver hMethod hDeposit (hasTexts_of_keysAre hKeys (by simp) (by simp) ?_)⟩
    simp only [List.forall_mem_cons]
    exact ⟨hHash, hPayer, hPreimage, nofun⟩
  -- a refund
  · obtain ⟨hPayer, hDeposit, hKeys, hHash, rfl⟩ := classifyRefund_eq_ok.mp h
    refine ⟨rfl, hPayer, @calls_of_oneCall N rt tx txHash body call args _ _ 0 _ hForm hCall
      hReceiver hMethod hDeposit (hasTexts_of_keysAre hKeys (by simp) (by simp) ?_)⟩
    simp only [List.forall_mem_cons]
    exact ⟨hHash, nofun⟩

end

/-! ## What is signed is accepted -/

section

open NearHtlcRail

variable {N : Type} {rt : NearRuntime N} {rail : NearHtlcRail} {refParts : NearRef}
  {reads : NearReads N} {receiver method ref : String} {built : NearBuilt}

/-- Strings with the same text are the same. -/
theorem textOf_inj {a b : String} (h : textOf a = textOf b) : a = b :=
  String.toList_inj.mp (Utf16.encode_inj.mp h)

/-- What a built and signed transaction consists of. -/
theorem buildAndSign_ok {actions : List NearAction}
    (h : buildAndSign rt rail reads receiver actions = .ok built) :
    built.transaction.signerId = textOf rail.signer.accountId ∧
      built.transaction.publicKey = ⟨rail.signerPublicKeyBytes⟩ ∧
      built.transaction.receiverId = textOf receiver ∧ built.transaction.actions = actions := by
  unfold buildAndSign at h
  obtain ⟨nonce, -, h⟩ := bind_eq_ok.mp h
  obtain ⟨blockHash, -, h⟩ := bind_eq_ok.mp h
  obtain ⟨txBytes, -, h⟩ := bind_eq_ok.mp h
  obtain ⟨-, h⟩ := require_bind_eq_ok.mp h
  obtain ⟨signedBytes, -, h⟩ := bind_eq_ok.mp h
  obtain rfl := Except.ok.inj h
  exact ⟨rfl, rfl, rfl, rfl⟩

/-- What a reply says of the transaction that was built: its call, and that it is this rail's. -/
theorem classify_built {texts : List (String × String)} {gas : Int} {deposit : Nat} {raw : Json}
    (hLawful : rt.Lawful) (hNames : (texts.map Prod.fst).Nodup)
    (h : buildAndSign rt rail reads receiver [functionCall method texts gas deposit] = .ok built)
    (hReports : Reports rt built.transaction built.txHash raw) :
    ∃ body call, decodeOutcome raw = .ok ⟨built.txHash, some body⟩ ∧
      body.text? "receiver_id" = some receiver ∧ call.text? "method_name" = some method ∧
      stringOfField call "deposit" = String.ofList (JsonText.printNat deposit) ∧
      ∀ write, classifyCall rt rail body call (textsJson texts) built.txHash refParts = .ok write →
        classifyOwnWrite rt rail ⟨built.txHash, some body⟩ built.txHash rail.signer.accountId
          refParts = .ok write := by
  -- the report is of the transaction that was built: one action, a function call
  obtain ⟨hSignerId, hPublicKey, hReceiverId, hActions⟩ := buildAndSign_ok h
  obtain ⟨body, hOutcome, hForm⟩ := hReports.outcome
  obtain ⟨signerText, hSigner, hSignerText⟩ := hForm.signerId
  obtain ⟨receiverText, hReceiver, hReceiverText⟩ := hForm.receiverId
  obtain rfl := textOf_inj (hSignerText.trans hSignerId)
  obtain rfl := textOf_inj (hReceiverText.trans hReceiverId)
  obtain ⟨items, hItems, hForms⟩ := hForm.actions
  rw [hActions] at hForms
  obtain ⟨item, rest, hItem, hRest, rfl⟩ := List.forall₂_cons_left_iff.mp hForms
  obtain rfl := List.forall₂_nil_left_iff.mp hRest
  obtain ⟨call, name, argsText, n, hCall, hObject, hName, hNameText, hArgs, hBytes, hDeposit, hn⟩ :=
    hItem
  obtain rfl := textOf_inj hNameText
  obtain rfl := Int.ofNat_inj.mp hn
  have hContainer : item.container? "FunctionCall" = some call := by
    rw [Json.container?, hCall, Option.filter_some, if_pos]
    obtain ⟨fields, rfl⟩ := Json.isObject_iff.mp hObject
    rfl
  -- whose arguments are the texts that went in
  have hDecoded : parseObject rt (rt.utf8Text (rt.base64Decode (stringOfField call "args"))) =
      some (textsJson texts) := by
    rw [stringOfField_of_text? hArgs, hBytes, hLawful.utf8Text_encode,
      parseObject_stringify rt hNames]
  refine ⟨body, call, hOutcome, hReceiver, hName, stringOfField_of_text? hDeposit,
    fun write hWrite => classifyOwnWrite_eq_ok.mpr ⟨body, call, _, rfl, rfl, ?_, rfl, hSigner, ?_,
      ⟨⟨item, hItems, hContainer⟩, hDecoded⟩, hWrite⟩⟩
  · exact hForm.hash.imp_left Option.isNone_iff_eq_none.mpr
  · rw [hForm.publicKey, hPublicKey, rail.publicKey_eq]

/-- A recovery of what was built, up to the check of what it did, takes it for this write. -/
def RecoversAs (rt : NearRuntime N) (rail : NearHtlcRail) (built : NearBuilt) (ref : String)
    (write : OwnWrite N) : Prop :=
  ∀ (E : Type) (raw : Json) (chainId : Except String String)
    (confirmWrite : NearRecoveredWrite N → Except String E),
    Reports rt built.transaction built.txHash raw →
      recoverByTxHash rt rail chainId (.outcome raw) confirmWrite built.txHash
        rail.signer.accountId ref = (do
          rail.assertPinnedChain chainId
          return some (← confirmWrite ⟨ref, built.txHash, write⟩))

/-- A build recovers as the write that every report of it is classified as. -/
theorem recoversAs_of_classify {write : OwnWrite N} (hRef : parseNearRef ref = some refParts)
    (h : ∀ raw, Reports rt built.transaction built.txHash raw → ∃ outcome,
      decodeOutcome raw = .ok outcome ∧ classifyOwnWrite rt rail outcome built.txHash
        rail.signer.accountId refParts = .ok write) : RecoversAs rt rail built ref write := by
  intro E raw chainId confirmWrite hReports
  obtain ⟨outcome, hOutcome, hWrite⟩ := h raw hReports
  have hParts : requireNearRef ref = .ok refParts := by
    rw [requireNearRef, hRef]
    rfl
  unfold recoverByTxHash
  rw [hParts]
  show ((rail.assertPinnedChain chainId) >>= fun _ => decodeOutcome raw >>= fun outcome =>
    classifyOwnWrite rt rail outcome built.txHash rail.signer.accountId refParts >>= fun write =>
      confirmWrite ⟨ref, built.txHash, write⟩ >>= fun evidence => .ok (some evidence)) = _
  rw [hOutcome]
  show ((rail.assertPinnedChain chainId) >>= fun _ =>
    classifyOwnWrite rt rail outcome built.txHash rail.signer.accountId refParts >>= fun write =>
      confirmWrite ⟨ref, built.txHash, write⟩ >>= fun evidence => .ok (some evidence)) = _
  rw [hWrite]
  rfl

/-- A prepared lock recovers as that lock, with its terms. -/
theorem prepareLock_recovers {terms : NearHtlcTerms N} (hLawful : rt.Lawful)
    (h : prepareLock rt rail terms reads = .ok (ref, built)) :
    RecoversAs rt rail built ref ⟨.lock, some terms⟩ := by
  -- what `prepareLock` checked before it built
  unfold prepareLock at h
  obtain ⟨_, hTerms, h⟩ := bind_eq_ok.mp h
  obtain ⟨-, -, h⟩ := bind_eq_ok.mp h
  obtain ⟨built', hBuilt, h⟩ := bind_eq_ok.mp h
  obtain ⟨ref', hRef, h⟩ := bind_eq_ok.mp h
  obtain ⟨rfl, rfl⟩ := Prod.mk.inj (Except.ok.inj h)
  unfold validateTerms at hTerms
  simp only [require_bind_eq_ok, require_eq_ok] at hTerms
  obtain ⟨-, -, -, -, ⟨hAmount, -⟩, hTimes⟩ := hTerms
  obtain ⟨hClaimBy, hRefundAfter⟩ := hLawful.ofText_toText _ _ hTimes
  -- the transaction reads back as a transfer call
  refine @recoversAs_of_classify N rt rail ⟨terms.hashLock, rail.signer.accountId⟩ _ _ _
    (parseNearRef_eq_some.mpr hRef) fun raw hReports => ?_
  obtain ⟨body, call, hOutcome, hReceiver, hMethod, hDeposit, hOwn⟩ :=
    @classify_built N rt rail ⟨terms.hashLock, rail.signer.accountId⟩ reads _ _ _ _ _ 1 raw hLawful
      (by simp [lockArgs]) hBuilt hReports
  refine ⟨_, hOutcome, hOwn _ ?_⟩
  rw [classifyCall, if_pos ⟨hReceiver, hMethod⟩]
  -- its arguments, and the message in them
  have hArgNames : ((lockArgs rt rail terms).map Prod.fst).Nodup := by simp [lockArgs]
  have hMsgNames : ((lockMsg rt terms).map Prod.fst).Nodup := by simp [lockMsg]
  obtain ⟨hTo, hAmountText, hMsgText, -⟩ : _ ∧ _ ∧ _ ∧ _ := by
    simpa only [lockArgs, List.forall_mem_cons] using (hasTexts_textsJson hArgNames).text
  obtain ⟨hHash, hPayee, hClaimText, hRefundText, -⟩ : _ ∧ _ ∧ _ ∧ _ ∧ _ := by
    simpa only [lockMsg, List.forall_mem_cons] using (hasTexts_textsJson hMsgNames).text
  refine classifyLock_eq_ok.mpr ⟨⟨rfl, hDeposit⟩, terms, _, _, _, _, ?_, hTo, hAmountText, hMsgText,
    parseObject_stringify rt hMsgNames, ?_, hHash, hPayee, hClaimText, hRefundText, hAmount, ?_,
    rfl⟩
  · rw [keysAre, fieldNames_textsJson]
    exact decide_eq_true rfl
  · rw [keysAre, fieldNames_textsJson]
    exact decide_eq_true rfl
  · rw [hClaimBy, hRefundAfter]

/-- A claim recovers as a claim. -/
theorem claim_recovers {preimage : String} {notAfterMs : N} {expected : Option (NearHtlcTerms N)}
    (hLawful : rt.Lawful)
    (h : claim rt rail ref preimage notAfterMs expected reads = .ok built) :
    RecoversAs rt rail built ref ⟨.claim, none⟩ := by
  -- every check of `claim` passed before the build
  unfold claim at h
  obtain ⟨refParts, hRef, h⟩ := bind_eq_ok.mp h
  obtain ⟨-, h⟩ := require_bind_eq_ok.mp h
  obtain ⟨-, h⟩ := require_bind_eq_ok.mp h
  obtain ⟨-, h⟩ := require_bind_eq_ok.mp h
  obtain ⟨-, -, h⟩ := bind_eq_ok.mp h
  obtain ⟨found, -, h⟩ := bind_eq_ok.mp h
  obtain ⟨lockView, -, h⟩ := need_bind_eq_ok.mp h
  obtain ⟨-, h⟩ := require_bind_eq_ok.mp h
  obtain ⟨-, h⟩ := require_bind_eq_ok.mp h
  obtain ⟨-, h⟩ := require_bind_eq_ok.mp h
  obtain ⟨-, h⟩ := require_bind_eq_ok.mp h
  obtain ⟨revealed, -, h⟩ := bind_eq_ok.mp h
  obtain ⟨preClaimNowMs, -, h⟩ := bind_eq_ok.mp h
  obtain ⟨-, h⟩ := require_bind_eq_ok.mp h
  obtain ⟨isRegistered, -, h⟩ := bind_eq_ok.mp h
  obtain ⟨-, h⟩ := require_bind_eq_ok.mp h
  obtain ⟨-, hBuilt⟩ := require_bind_eq_ok.mp h
  refine recoversAs_of_classify (need_eq_ok.mp hRef) fun raw hReports => ?_
  obtain ⟨body, call, hOutcome, hReceiver, hMethod, hDeposit, hOwn⟩ :=
    @classify_built N rt rail refParts reads _ _ _ _ _ 0 raw hLawful
      (by simp [claimArgs]) hBuilt hReports
  refine ⟨_, hOutcome, hOwn _ ?_⟩
  -- a transaction to the contract is no transfer call
  have hNotLock : ¬ (body.text? "receiver_id" = some rail.tokenAccount ∧
      call.text? "method_name" = some "ft_transfer_call") := by
    rw [hMethod]
    simp
  rw [classifyCall, if_neg hNotLock, if_pos ⟨hReceiver, hMethod⟩]
  have hNames : ((claimArgs refParts preimage).map Prod.fst).Nodup := by simp [claimArgs]
  obtain ⟨hHash, hPayer, hPreimage, -⟩ : _ ∧ _ ∧ _ ∧ _ := by
    simpa only [claimArgs, List.forall_mem_cons] using (hasTexts_textsJson hNames).text
  refine classifyClaim_eq_ok.mpr ⟨hDeposit, _, ?_, hHash, hPayer, hPreimage, rfl⟩
  rw [keysAre, fieldNames_textsJson]
  exact decide_eq_true rfl

/-- A refund recovers as a refund. -/
theorem refund_recovers (hLawful : rt.Lawful) (h : refund rt rail ref reads = .ok built) :
    RecoversAs rt rail built ref ⟨.refund, none⟩ := by
  -- every check of `refund` passed before the build
  unfold refund at h
  obtain ⟨refParts, hRef, h⟩ := bind_eq_ok.mp h
  obtain ⟨hPayer, h⟩ := require_bind_eq_ok.mp h
  obtain ⟨-, -, h⟩ := bind_eq_ok.mp h
  obtain ⟨found, -, h⟩ := bind_eq_ok.mp h
  obtain ⟨lockView, -, h⟩ := need_bind_eq_ok.mp h
  obtain ⟨-, h⟩ := require_bind_eq_ok.mp h
  obtain ⟨nowMs, -, h⟩ := bind_eq_ok.mp h
  obtain ⟨-, hBuilt⟩ := require_bind_eq_ok.mp h
  refine recoversAs_of_classify (need_eq_ok.mp hRef) fun raw hReports => ?_
  obtain ⟨body, call, hOutcome, hReceiver, hMethod, hDeposit, hOwn⟩ :=
    @classify_built N rt rail refParts reads _ _ _ _ _ 0 raw hLawful
      (by simp [refundArgs]) hBuilt hReports
  refine ⟨_, hOutcome, hOwn _ ?_⟩
  -- a refund is neither a transfer call nor a claim
  have hNotLock : ¬ (body.text? "receiver_id" = some rail.tokenAccount ∧
      call.text? "method_name" = some "ft_transfer_call") := by
    rw [hMethod]
    simp
  have hNotClaim : ¬ (body.text? "receiver_id" = some rail.config.contract ∧
      call.text? "method_name" = some "claim") := by
    rw [hMethod]
    simp
  rw [classifyCall, if_neg hNotLock, if_neg hNotClaim, if_pos ⟨hReceiver, hMethod⟩]
  have hNames : ((refundArgs refParts).map Prod.fst).Nodup := by simp [refundArgs]
  obtain ⟨hHash, -⟩ : _ ∧ _ := by
    simpa only [refundArgs, List.forall_mem_cons] using (hasTexts_textsJson hNames).text
  refine classifyRefund_eq_ok.mpr ⟨hPayer, hDeposit, ?_, hHash, rfl⟩
  rw [keysAre, fieldNames_textsJson]
  exact decide_eq_true rfl

end

/-! ## The sample -/

namespace Sample

def num : Numbers Nat :=
  { lt := fun x y => decide (x < y)
    le := fun x y => decide (x ≤ y)
    same := fun x y => decide (x = y)
    sub := fun x y => x - y
    ofNat := id
    toText := fun n => String.ofList (JsonText.printNat n)
    ofText := fun text => JsonText.readNat text.toList }

def contract : String := "htlc.testnet"
def token : String := "usdc.testnet"
def accountId : String := "alice.testnet"

/-- 32 zero bytes. -/
def publicKey : String := "ed25519:11111111111111111111111111111111"

def terms : NearHtlcTerms Nat :=
  { hashLock := "0xabababababababababababababababababababababababababababababababab"
    amount := "5"
    payee := "bob.testnet"
    claimByMs := 1000
    refundAfterMs := 2000 }

def rail : NearHtlcRail :=
  { config := ⟨NEAR_TESTNET_PIN, "https://rpc.testnet", contract, ⟨token⟩, none⟩
    signer := ⟨accountId, publicKey, fun _ => List.replicate 64 5⟩
    signerPublicKeyBytes := List.replicate 32 0
    decoded := by decide }

/-- The SHA-256 of the transaction. -/
def digest : List UInt8 :=
  [250, 118, 188, 107, 121, 181, 184, 107, 141, 8, 73, 92, 121, 157, 40, 48, 253, 206, 245, 160, 56,
    65, 28, 94, 83, 111, 197, 4, 61, 111, 41, 138]

def argsBase64 : String :=
  "eyJyZWNlaXZlcl9pZCI6Imh0bGMudGVzdG5ldCIsImFtb3VudCI6IjUiLCJtc2ciOiJ7XCJoYXNoX2xvY2tcIjpcImFi" ++
  "YWJhYmFiYWJhYmFiYWJhYmFiYWJhYmFiYWJhYmFiYWJhYmFiYWJhYmFiYWJhYmFiYWJhYmFiYWJhYmFiYWJcIixcInBh" ++
  "eWVlXCI6XCJib2IudGVzdG5ldFwiLFwiY2xhaW1fYnlfbXNcIjpcIjEwMDBcIixcInJlZnVuZF9hZnRlcl9tc1wiOlwi" ++
  "MjAwMFwifSJ9"

/-- What the arguments say. -/
def args : List (String × String) :=
  [("receiver_id", contract), ("amount", terms.amount),
    ("msg", String.ofList (stringify [("hash_lock", sliceFrom terms.hashLock 2),
      ("payee", terms.payee), ("claim_by_ms", num.toText terms.claimByMs),
      ("refund_after_ms", num.toText terms.refundAfterMs)]))]

/-- The library, on what is hashed and decoded here. -/
def rt : NearRuntime Nat :=
  { num
    sha256 := fun _ => digest
    base64Decode := fun text => if text = argsBase64 then Utf8.encode (stringify args) else []
    utf8Text := fun bytes => String.ofList ((Utf8.decode bytes).getD [])
    real := fun text => .other (String.ofList text) }

/-- The sample runtime is lawful. -/
theorem lawful : rt.Lawful where
  ofText_toText x y _ := by
    constructor
    · show JsonText.readNat (String.ofList (JsonText.printNat x)).toList = x
      rw [String.toList_ofList, JsonText.readNat_printNat]
    · show JsonText.readNat (String.ofList (JsonText.printNat y)).toList = y
      rw [String.toList_ofList, JsonText.readNat_printNat]
  utf8Text_encode text := by
    show String.ofList ((Utf8.decode (Utf8.encode text)).getD []) = String.ofList text
    rw [Utf8.decode_eq_some.mpr rfl]
    rfl

def reads : NearReads Nat :=
  { chainId := .ok "testnet"
    lock := .ok none
    chainTimeMs := .ok 500
    isRegistered := fun _ => .ok true
    nonce := .ok 7
    recentBlockHashBytes := .ok (List.replicate 32 9) }

/-- The transaction and its hash. -/
def built : NearBuilt :=
  { transaction :=
      { signerId := textOf accountId
        publicKey := ⟨List.replicate 32 0⟩
        nonce := 7 + 1
        receiverId := textOf token
        blockHash := List.replicate 32 9
        actions := [functionCall "ft_transfer_call" args FT_TRANSFER_CALL_GAS ONE_YOCTO] }
    txHash := String.ofList (base58Encode digest)
    signedBytes := [] }

def ref : String :=
  "0xabababababababababababababababababababababababababababababababab:alice.testnet"

/-- The node's JSON of the one action. -/
def callJson : Json :=
  .obj [("FunctionCall", .obj [("method_name", .str "ft_transfer_call"),
    ("args", .str argsBase64), ("gas", .num (.int FT_TRANSFER_CALL_GAS)),
    ("deposit", .str (String.ofList (JsonText.printNat 1)))])]

/-- The node's reply. -/
def raw : Json :=
  .obj [("transaction_outcome", .obj [("block_hash", .str "9"), ("id", .str built.txHash)]),
    ("transaction", .obj [("hash", .str built.txHash), ("signer_id", .str accountId),
      ("public_key",
        .str (PUBLIC_KEY_PREFIX ++ String.ofList (base58Encode (List.replicate 32 0)))),
      ("receiver_id", .str token),
      ("actions", .arr [callJson])])]

/-- The sample transaction encodes. -/
theorem encodes : (encodeTransactionV0 built.transaction).isOk = true := by
  simp only [built, functionCall, args, stringify, textsJson, List.map_cons, List.map_nil,
    JsonText.print, JsonText.printField, JsonText.printFields, JsonText.printString, num, sliceFrom,
    String.toList_ofList]
  decide +kernel

/-- The sample lock is prepared. -/
theorem prepared : ∃ signedBytes,
    NearHtlcRail.prepareLock rt rail terms reads = .ok (ref, { built with signedBytes }) := by
  have hChecks : validateTerms num terms rail.config = .ok () ∧
      rail.assertPinnedChain reads.chainId = .ok () ∧
        formatNearRef terms.hashLock accountId = .ok ref := by
    decide
  obtain ⟨txBytes, hTx⟩ := isOk_iff.mp encodes
  have hSigned : encodeSignedTransaction ⟨built.transaction, ⟨List.replicate 64 5⟩⟩ =
      .ok (txBytes ++ 0 :: List.replicate 64 5) := by
    rw [encodeSignedTransaction, hTx]
    rfl
  have hBuilt : NearHtlcRail.buildAndSign rt rail reads rail.tokenAccount
      [functionCall "ft_transfer_call" (NearHtlcRail.lockArgs rt rail terms) FT_TRANSFER_CALL_GAS
        ONE_YOCTO] = .ok { built with signedBytes := txBytes ++ 0 :: List.replicate 64 5 } :=
    bind_eq_ok.mpr ⟨7, rfl, bind_eq_ok.mpr ⟨List.replicate 32 9, rfl, bind_eq_ok.mpr ⟨txBytes, hTx,
      require_bind_eq_ok.mpr ⟨List.length_replicate, bind_eq_ok.mpr ⟨_, hSigned, rfl⟩⟩⟩⟩⟩
  exact ⟨_, bind_eq_ok.mpr ⟨(), hChecks.1, bind_eq_ok.mpr ⟨(), hChecks.2.1,
    bind_eq_ok.mpr ⟨_, hBuilt, bind_eq_ok.mpr ⟨ref, hChecks.2.2, rfl⟩⟩⟩⟩⟩

/-- The sample outcome reports the prepared lock. -/
theorem reports (signedBytes : List UInt8) :
    Reports rt { built with signedBytes }.transaction built.txHash raw := by
  refine ⟨⟨_, rfl, ?_⟩⟩
  refine ⟨.inr rfl, ⟨accountId, rfl, rfl⟩, rfl, ⟨token, rfl, rfl⟩, ⟨_, rfl, ?_⟩⟩
  have hArgs : rt.base64Decode argsBase64 = Utf8.encode (stringify args) := by
    simp only [rt, if_true]
  have hCall : ActionForm rt
      (functionCall "ft_transfer_call" args FT_TRANSFER_CALL_GAS ONE_YOCTO) callJson := by
    rw [functionCall, ActionForm]
    exact ⟨_, "ft_transfer_call", argsBase64, 1, rfl, rfl, rfl, rfl, rfl, hArgs, rfl, rfl⟩
  exact List.Forall₂.cons hCall List.Forall₂.nil

end Sample

/-- What a recovery takes for a write of this rail. For all terms, accounts and refs that the
builders accept, the transaction they sign is recovered as that lock, with the terms that were
signed, as that claim or as that refund. And nothing is recovered but a transaction of this
rail's account and key that makes the one call of such a write for the ref, with the terms that
are returned. -/
theorem recoverByTxHash_exact {N : Type} {rt : NearRuntime N} (hLawful : rt.Lawful)
    (rail : NearHtlcRail) :
    (∀ terms reads ref built, rail.prepareLock rt terms reads = .ok (ref, built) →
      RecoversAs rt rail built ref ⟨.lock, some terms⟩) ∧
    (∀ ref preimage notAfterMs expected reads built,
      rail.claim rt ref preimage notAfterMs expected reads = .ok built →
        RecoversAs rt rail built ref ⟨.claim, none⟩) ∧
    (∀ ref reads built, rail.refund rt ref reads = .ok built →
      RecoversAs rt rail built ref ⟨.refund, none⟩) ∧
    ∀ (E : Type) tx raw chainId (confirmWrite : NearRecoveredWrite N → Except String E) txHash
      senderAccountId ref evidence, Reports rt tx txHash raw →
      rail.recoverByTxHash rt chainId (.outcome raw) confirmWrite txHash senderAccountId ref =
        .ok (some evidence) →
      ∃ refParts write, parseNearRef ref = some refParts ∧
        confirmWrite ⟨ref, txHash, write⟩ = .ok evidence ∧
        senderAccountId = rail.signer.accountId ∧ tx.signerId = textOf rail.signer.accountId ∧
        tx.publicKey.data = rail.signerPublicKeyBytes ∧ IsWrite rt rail refParts tx write := by
  refine ⟨fun terms reads ref built => prepareLock_recovers hLawful,
    fun ref preimage notAfterMs expected reads built => claim_recovers hLawful,
    fun ref reads built => refund_recovers hLawful, ?_⟩
  intro E tx raw chainId confirmWrite txHash senderAccountId ref evidence hReports h
  -- a recovery that answers decoded the outcome and classified the write in it
  unfold NearHtlcRail.recoverByTxHash at h
  obtain ⟨refParts, hRef, h⟩ := bind_eq_ok.mp h
  obtain ⟨-, -, h⟩ := bind_eq_ok.mp h
  obtain ⟨outcome, hOutcome, h⟩ := bind_eq_ok.mp h
  obtain ⟨write, hWrite, h⟩ := bind_eq_ok.mp h
  obtain ⟨evidence', hEvidence, h⟩ := bind_eq_ok.mp h
  obtain rfl := Option.some.inj (Except.ok.inj h)
  obtain ⟨body, hDecoded, hForm⟩ := hReports.outcome
  obtain rfl := Except.ok.inj (hOutcome.symm.trans hDecoded)
  obtain ⟨body', call, args, hBody, -, -, hSender, hSigner, hKey, hCall, hClassified⟩ :=
    classifyOwnWrite_eq_ok.mp hWrite
  obtain rfl := Option.some.inj hBody
  obtain ⟨text, hText, hSignerId⟩ := hForm.signerId
  obtain rfl := Option.some.inj (hSigner.symm.trans hText)
  have hKeyText := Option.some.inj (hForm.publicKey.symm.trans hKey)
  exact ⟨refParts, write, need_eq_ok.mp hRef, hEvidence, hSender, hSignerId.symm,
    NearHtlcRail.bytes_of_publicKey hKeyText, isWrite_of_classifyCall hForm hCall hClassified⟩

/-- A lock that is signed, and its recovery. -/
theorem recoverByTxHash_exact_sample : ∃ signedBytes,
    Sample.rail.prepareLock Sample.rt Sample.terms Sample.reads =
      .ok (Sample.ref, { Sample.built with signedBytes }) ∧
    Sample.rail.recoverByTxHash Sample.rt (.ok "testnet") (.outcome Sample.raw) Except.ok
      Sample.built.txHash Sample.accountId Sample.ref =
        .ok (some ⟨Sample.ref, Sample.built.txHash, ⟨.lock, some Sample.terms⟩⟩) := by
  obtain ⟨signedBytes, hPrepared⟩ := Sample.prepared
  have hPinned : Sample.rail.assertPinnedChain (.ok "testnet") = .ok () := by decide
  refine ⟨signedBytes, hPrepared, ?_⟩
  have h := (recoverByTxHash_exact Sample.lawful Sample.rail).1 _ _ _ _ hPrepared _ Sample.raw
    (.ok "testnet") Except.ok (Sample.reports signedBytes)
  exact h.trans (bind_eq_ok.mpr ⟨(), hPinned, rfl⟩)

end NearHtlc

end SwapDesk.Rails
