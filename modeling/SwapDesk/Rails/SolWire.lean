import SwapDesk.Desk.ProfileCodec
import SwapDesk.Rails.SolAccounts
import SwapDesk.Sol.Safety

/-!
# SwapDesk — the Solana wire format, from both sides

`validateTerms` and the instruction encoders of `src/rails/sol-htlc.ts` against the entrypoint of
the program, and what the program stores against `decodeEscrow`.

Main result: `solWire_agrees`.
-/

namespace SwapDesk.Rails

open Check Desk
open CharClass (isDigit isHexLower)

/-! ## Terms -/

structure SolHtlcTerms where
  hashLock : String
  amount : String
  payee : String
  claimByMs : Int
  refundAfterMs : Int
deriving DecidableEq, Repr

/-- `isSmallOrder` and `toBytes`, of the point that bytes decompress to. -/
structure PointRuntime extends SolRuntime where
  isSmallOrder : List UInt8 → Bool
  toBytes : List UInt8 → List UInt8

def isSmallOrderOrNonCanonical (rt : PointRuntime) (bytes : List UInt8) : Bool :=
  if bytes.length ≠ 32 then true
  else if rt.decompresses bytes then rt.isSmallOrder bytes || rt.toBytes bytes ≠ bytes
  else true

/-- `/^(0|[1-9][0-9]*)$/` -/
def NONNEG_DECIMAL (text : String) : Bool :=
  text.toList ≠ [] && text.toList.all isDigit &&
    !(text.toList.head? = some '0' && 1 < text.toList.length)

def U64_MAX : Nat := 2 ^ 64 - 1

def SOL_AMOUNT_FLOOR : Nat := 1

def reservedPayees (config : SolRailConfig) : List (String × String) :=
  [(SYSTEM_PROGRAM_ID, "the system program (the all-zero address)"),
    (config.programId, "the HTLC program"),
    (TOKEN_PROGRAM_ID, "the token program"),
    (ASSOCIATED_TOKEN_PROGRAM_ID, "the associated-token-account program"),
    (BPF_LOADER_UPGRADEABLE_ID, "the upgradeable loader"),
    (config.assets.USDC, "the USDC mint")]

def validateTerms (rt : PointRuntime) (config : SolRailConfig) (payer : String)
    (terms : SolHtlcTerms) : Except String Unit := do
  require (hex32 terms.hashLock = true)
    "sol-htlc: hashLock must be 0x + 64 lowercase hex (sha256 statement)"
  require (isValidPubkeyBase58 terms.payee = true) "sol-htlc: payee must be a base58 public key"
  let payeeBytes ← pubkeyFromBase58 terms.payee
  match (reservedPayees config).find? fun entry => entry.1 = terms.payee with
  | some entry =>
    .error ("sol-htlc: payee must not be " ++ entry.2 ++
      " (nobody can sign for it, the payout could never be spent)")
  | none =>
    let escrow ← escrowAddress rt.toSolRuntime config.programId payer terms.hashLock
    let vault ← vaultAddress rt.toSolRuntime config.programId escrow
    require (payeeBytes ≠ escrow ∧ payeeBytes ≠ vault)
      "sol-htlc: payee must not be this lock's own escrow or vault address"
    require (isOnCurve rt.toSolRuntime payeeBytes = true)
      ("sol-htlc: payee must be a wallet key (an on-curve address); an off-curve address such as" ++
        " a program-derived one has no key that can spend from it")
    require (isSmallOrderOrNonCanonical rt payeeBytes = false)
      ("sol-htlc: payee must not be a small-order or non-canonical ed25519 point (an on-curve" ++
        " encoding nobody can sign for under strict verification, so the payout could never be" ++
        " spent)")
    require (NONNEG_DECIMAL terms.amount = true ∧
        SOL_AMOUNT_FLOOR ≤ decimal terms.amount.toList ∧ decimal terms.amount.toList ≤ U64_MAX)
      "sol-htlc: amount must be a decimal-integer string from 1 to 2^64-1"
    require (isSafeInteger terms.claimByMs = true ∧ isSafeInteger terms.refundAfterMs = true ∧
        0 < terms.claimByMs ∧ 0 < terms.refundAfterMs)
      "sol-htlc: claimByMs and refundAfterMs must be positive safe integers (milliseconds)"
    require (terms.claimByMs < terms.refundAfterMs)
      "sol-htlc: claimByMs must be strictly before refundAfterMs"

/-! ## Instruction data -/

def TAG_LOCK : UInt8 := 0
def TAG_CLAIM : UInt8 := 1
def TAG_REFUND : UInt8 := 2

/-- `setBigInt64(0, value, true)` -/
def i64le (value : Int) : List UInt8 := Bytes.toLe 8 (value % 2 ^ 64).toNat

/-- `setBigUint64(0, value, true)` -/
def u64le (value : Nat) : List UInt8 := Bytes.toLe 8 value

def lockInstructionData (terms : SolHtlcTerms) : Except String (List UInt8) := do
  let hashLock ← need (hexToBytes (sliceFrom terms.hashLock 2)) "hex string expected"
  let payee ← pubkeyFromBase58 terms.payee
  return TAG_LOCK :: (hashLock ++ (payee ++ (i64le terms.claimByMs ++ (i64le terms.refundAfterMs ++
    u64le (decimal terms.amount.toList)))))

def claimInstructionData (preimage : List UInt8) : Except String (List UInt8) := do
  require (preimage.length = 32) "sol-htlc: preimage must be 32 bytes"
  return TAG_CLAIM :: preimage

def refundInstructionData : List UInt8 := [TAG_REFUND]

/-! ## What validated terms are -/

/-- A valid key is one of 32 bytes. -/
theorem length_of_pubkeyFromBase58 {text : String} {bytes : List UInt8}
    (h : pubkeyFromBase58 text = .ok bytes) : bytes.length = 32 := by
  unfold pubkeyFromBase58 at h
  split at h
  · rename_i hValid
    unfold isValidPubkeyBase58 at hValid
    rw [Bool.and_eq_true, decide_eq_true_eq] at hValid
    rw [← Except.ok.inj h, ← hValid.2]
    unfold base58Decode base58Length
    rw [List.length_append, List.length_replicate, List.length_map, List.length_reverse]
    rfl
  · cases h

/-- A hexadecimal digit has a value. -/
theorem value?_of_isHexLower {c : Char} (h : isHexLower c = true) : ∃ n, Hex.value? c = some n := by
  unfold isHexLower isDigit at h
  unfold Hex.value?
  simp only [Bool.or_eq_true, Bool.and_eq_true, decide_eq_true_eq] at h
  split
  · exact ⟨_, rfl⟩
  · rename_i hDigit
    rw [if_pos (h.resolve_left hDigit)]
    exact ⟨_, rfl⟩

/-- A hash lock of the right shape decodes to 32 bytes. -/
theorem hexToBytes_of_hex32 {text : String} (h : hex32 text = true) :
    ∃ bytes, hexToBytes (sliceFrom text 2) = some bytes ∧ bytes.length = 32 := by
  -- two digits a byte, by induction on the bytes
  have hDecode : ∀ (n : Nat) (digits : List Char), digits.length = 2 * n →
      (∀ c ∈ digits, isHexLower c = true) → ∃ bytes, Hex.decode digits = some bytes := by
    intro n
    induction n with
    | zero =>
      intro digits hLength _
      rw [List.length_eq_zero_iff.mp hLength]
      exact ⟨[], rfl⟩
    | succ n ih =>
      intro digits hLength hHex
      match digits, hLength with
      | hi :: lo :: rest, hLength =>
        obtain ⟨high, hHigh⟩ := value?_of_isHexLower (hHex hi (by simp))
        obtain ⟨low, hLow⟩ := value?_of_isHexLower (hHex lo (by simp))
        obtain ⟨bytes, hBytes⟩ := ih rest (by simp at hLength; omega)
          fun c hc => hHex c (by simp [hc])
        refine ⟨UInt8.ofNat (16 * high + low) :: bytes, ?_⟩
        rw [Hex.decode, hHigh, hLow, hBytes]
        rfl
  obtain ⟨digits, hLength, hHex, rfl⟩ := hex32_iff.mp h
  obtain ⟨bytes, hBytes⟩ := hDecode 32 digits (by omega) hHex
  have hSlice : (sliceFrom ("0x" ++ String.ofList digits) 2).toList = digits := by
    simp [sliceFrom]
  refine ⟨bytes, ?_, ?_⟩
  · rw [hexToBytes, hSlice, hBytes]
  · have hTwice := Hex.length_of_decode hBytes
    omega

/-- An amount is the text of its number. -/
theorem eq_toString_of_NONNEG_DECIMAL {text : String} (h : NONNEG_DECIMAL text = true) :
    text = toString (decimal text.toList) := by
  refine eq_toString_iff.mpr ⟨?_, rfl⟩
  unfold NONNEG_DECIMAL at h
  simp only [Bool.and_eq_true, decide_eq_true_eq, List.all_eq_true, Bool.not_eq_true',
    Bool.and_eq_false_iff, decide_eq_false_iff_not] at h
  obtain ⟨⟨hNonempty, hDigits⟩, hLead⟩ := h
  exact ⟨hNonempty, hDigits, fun hZero => hLead.elim (· hZero.1) (· hZero.2)⟩

/-- Two's complement bytes are those that the program reads its number from. -/
theorem i64le_eq (value : Int) : i64le value = (Bytes.i64ToLe (Int64.ofInt value)).bytes := by
  have hNat : (Int64.ofInt value).toUInt64.toNat = (value % 2 ^ 64).toNat := by
    have hBits : (Int64.ofInt value).toUInt64.toNat = (BitVec.ofInt 64 value).toNat := rfl
    rw [hBits, BitVec.toNat_ofInt]
    norm_num
  exact congrArg (Bytes.toLe 8) hNat.symm

/-- The program's arguments are the values of the terms. -/
structure LockArguments (terms : SolHtlcTerms) (hashLock : Sol.Bytes32) (payee : Sol.Pubkey)
    (claimByMs refundAfterMs : Int64) (amount : UInt64) : Prop where
  hashLock : hexToBytes (sliceFrom terms.hashLock 2) = some hashLock.bytes
  payee : pubkeyFromBase58 terms.payee = .ok payee.bytes
  claimByMs : claimByMs.toInt = terms.claimByMs
  refundAfterMs : refundAfterMs.toInt = terms.refundAfterMs
  amount : terms.amount = toString amount.toNat

/-- A safe integer fits 64 bits. -/
theorem toInt_ofInt_of_isSafeInteger {value : Int} (h : isSafeInteger value = true) :
    (Int64.ofInt value).toInt = value := by
  unfold isSafeInteger MAX_SAFE_INTEGER at h
  rw [Bool.and_eq_true, decide_eq_true_eq, decide_eq_true_eq] at h
  exact Int64.toInt_ofInt_of_le (by omega) (by omega)

/-- The data of validated terms writes arguments that are their values. -/
theorem lockInstructionData_ok {rt : PointRuntime} {config : SolRailConfig} {payer : String}
    {terms : SolHtlcTerms} (h : validateTerms rt config payer terms = .ok ()) :
    ∃ hashLock payee claimByMs refundAfterMs amount,
      LockArguments terms hashLock payee claimByMs refundAfterMs amount ∧
      lockInstructionData terms = .ok (TAG_LOCK :: (hashLock.bytes ++ (payee.bytes ++
        ((Bytes.i64ToLe claimByMs).bytes ++ ((Bytes.i64ToLe refundAfterMs).bytes ++
          (Bytes.u64ToLe amount).bytes))))) := by
  -- what the client checked of the terms
  unfold validateTerms at h
  obtain ⟨hShape, h⟩ := require_bind_eq_ok.mp h
  obtain ⟨-, h⟩ := require_bind_eq_ok.mp h
  obtain ⟨payee, hPayee, h⟩ := bind_eq_ok.mp h
  split at h
  · cases h
  · obtain ⟨escrow, -, h⟩ := bind_eq_ok.mp h
    obtain ⟨vault, -, h⟩ := bind_eq_ok.mp h
    obtain ⟨-, h⟩ := require_bind_eq_ok.mp h
    obtain ⟨-, h⟩ := require_bind_eq_ok.mp h
    obtain ⟨-, h⟩ := require_bind_eq_ok.mp h
    obtain ⟨⟨hDecimal, -, hMax⟩, h⟩ := require_bind_eq_ok.mp h
    obtain ⟨⟨hClaim, hRefund, -, -⟩, -⟩ := require_bind_eq_ok.mp h
    obtain ⟨hashLock, hHash, hLength⟩ : ∃ bytes,
        hexToBytes (sliceFrom terms.hashLock 2) = some bytes ∧ bytes.length = 32 :=
      hexToBytes_of_hex32 hShape
    -- the amount fits 64 bits
    have hAmount : (UInt64.ofNat (decimal terms.amount.toList)).toNat =
        decimal terms.amount.toList := by
      unfold U64_MAX at hMax
      rw [UInt64.toNat_ofNat']
      omega
    refine ⟨⟨hashLock, hLength⟩, ⟨payee, length_of_pubkeyFromBase58 hPayee⟩,
      Int64.ofInt terms.claimByMs, Int64.ofInt terms.refundAfterMs,
      UInt64.ofNat (decimal terms.amount.toList), ?_, ?_⟩
    · exact ⟨hHash, hPayee, toInt_ofInt_of_isSafeInteger hClaim,
        toInt_ofInt_of_isSafeInteger hRefund,
        (eq_toString_of_NONNEG_DECIMAL hDecimal).trans (congrArg toString hAmount.symm)⟩
    · have hBytes : (Bytes.u64ToLe (UInt64.ofNat (decimal terms.amount.toList))).bytes =
          u64le (decimal terms.amount.toList) := congrArg (Bytes.toLe 8) hAmount
      unfold lockInstructionData
      rw [hHash, hPayee, hBytes, i64le_eq, i64le_eq]
      rfl

/-! ## Dispatch -/

/-- A check passes where its condition holds. -/
theorem ensure_of {c : Prop} [Decidable c] {e : Sol.HtlcError} (h : c) :
    Sol.ensure c e = .ok () := by
  unfold Sol.ensure require
  rw [if_pos h]

section

variable (sol : Sol.Runtime) (unixTimestamp : Int64) (accts : Sol.Accounts)
variable (infos : List Sol.AccountInfo)

/-- The program reads a lock from its bytes. -/
theorem processInstruction_lock (hashLock : Sol.Bytes32) (payee : Sol.Pubkey)
    (claimByMs refundAfterMs : Int64) (amount : UInt64) :
    Sol.processInstruction sol Sol.id unixTimestamp accts infos
        (TAG_LOCK :: (hashLock.bytes ++ (payee.bytes ++ ((Bytes.i64ToLe claimByMs).bytes ++
          ((Bytes.i64ToLe refundAfterMs).bytes ++ (Bytes.u64ToLe amount).bytes))))) =
      Sol.lock sol unixTimestamp accts infos hashLock payee claimByMs refundAfterMs amount := by
  generalize hRest : hashLock.bytes ++ (payee.bytes ++ ((Bytes.i64ToLe claimByMs).bytes ++
    ((Bytes.i64ToLe refundAfterMs).bytes ++ (Bytes.u64ToLe amount).bytes))) = rest
  have hLength : (TAG_LOCK :: rest).length = Sol.lockDataLen := by
    rw [← hRest]
    simp [FixedBytes.length_eq, Sol.lockDataLen]
  -- field by field, at the offsets of the program
  have hHash : Bytes.field 32 rest 0 = hashLock := hRest ▸ Bytes.field_append_zero
  have hPayee : Bytes.field 32 rest 32 = payee := hRest ▸ Bytes.field_append hashLock.length_eq
  have hClaim : Bytes.field 8 rest 64 = Bytes.i64ToLe claimByMs := by
    rw [← hRest, ← List.append_assoc]
    exact Bytes.field_append (by simp [FixedBytes.length_eq])
  have hRefund : Bytes.field 8 rest 72 = Bytes.i64ToLe refundAfterMs := by
    rw [← hRest, ← List.append_assoc, ← List.append_assoc]
    exact Bytes.field_append (by simp [FixedBytes.length_eq])
  have hAmount : Bytes.field 8 rest 80 = Bytes.u64ToLe amount := by
    rw [← hRest, ← List.append_assoc, ← List.append_assoc, ← List.append_assoc,
      ← List.append_nil (Bytes.u64ToLe amount).bytes]
    exact Bytes.field_append (by simp [FixedBytes.length_eq])
  unfold Sol.processInstruction
  rw [ensure_of rfl]
  dsimp only
  rw [if_pos (show TAG_LOCK = Sol.tagLock from rfl), ensure_of hLength, hHash, hPayee, hClaim,
    hRefund, hAmount, Bytes.i64FromLe_toLe, Bytes.i64FromLe_toLe, Bytes.u64FromLe_toLe]
  rfl

/-- The program reads a claim from its bytes. -/
theorem processInstruction_claim (preimage : Sol.Bytes32) :
    Sol.processInstruction sol Sol.id unixTimestamp accts infos (TAG_CLAIM :: preimage.bytes) =
      SwapDesk.Sol.claim sol unixTimestamp accts infos preimage := by
  have hLength : (TAG_CLAIM :: preimage.bytes).length = Sol.claimDataLen := by
    rw [List.length_cons, preimage.length_eq, Sol.claimDataLen]
  have hPreimage : Bytes.field 32 preimage.bytes 0 = preimage := by
    rw [← List.append_nil preimage.bytes]
    exact Bytes.field_append_zero
  unfold Sol.processInstruction
  rw [ensure_of rfl]
  dsimp only
  rw [if_neg (show TAG_CLAIM ≠ Sol.tagLock by decide),
    if_pos (show TAG_CLAIM = Sol.tagClaim from rfl), ensure_of hLength, hPreimage]
  rfl

/-- The program reads a refund from its bytes. -/
theorem processInstruction_refund :
    Sol.processInstruction sol Sol.id unixTimestamp accts infos refundInstructionData =
      Sol.refund sol unixTimestamp accts infos := by
  unfold Sol.processInstruction refundInstructionData
  rw [ensure_of rfl]
  dsimp only
  rw [if_neg (show TAG_REFUND ≠ Sol.tagLock by decide),
    if_neg (show TAG_REFUND ≠ Sol.tagClaim by decide),
    if_pos (show TAG_REFUND = Sol.tagRefund from rfl),
    ensure_of (show [TAG_REFUND].length = Sol.refundDataLen from rfl)]
  rfl

end

/-! ## Stored escrows -/

/-- What an escrow is for the client. -/
def wireView (view : Sol.EscrowView) : SolEscrowView where
  status :=
    if view.escrow.status = Sol.statusClaimed then .claimed
    else if view.escrow.status = Sol.statusRefunded then .refunded
    else .locked
  revealed := view.escrow.status = Sol.statusClaimed
  bump := view.escrow.bump
  payer := String.ofList (base58Encode view.escrow.payer.bytes)
  payee := String.ofList (base58Encode view.escrow.payee.bytes)
  mint := String.ofList (base58Encode view.escrow.mint.bytes)
  hashLock := "0x" ++ bytesToHex view.escrow.hashLock.bytes
  amount := toString view.escrow.amount.toNat
  claimByMs := view.claimByMs.toInt
  refundAfterMs := view.escrow.refundAfterMs.toInt
  preimage :=
    if view.escrow.status = Sol.statusClaimed then some ("0x" ++ bytesToHex view.preimage.bytes)
    else none

/-- The stored times are numbers that the client can hold. -/
def SafeTimes (view : Sol.EscrowView) : Prop :=
  isSafeInteger view.claimByMs.toInt = true ∧ isSafeInteger view.escrow.refundAfterMs.toInt = true

/-- A slice inside of the data is a field. -/
theorem slice_eq_field {data : List UInt8} {start n : Nat} (h : start + n ≤ data.length) :
    slice data start (start + n) = (Bytes.field n data start).bytes := by
  show (data.take (start + n)).drop start = (data.drop start ++ List.replicate n 0).take n
  have hLength : n ≤ (data.drop start).length := by
    rw [List.length_drop]
    omega
  rw [List.drop_take, Nat.add_sub_cancel_left, List.take_append_of_le_length hLength]

/-- The status of an escrow says whether its preimage is shown. -/
theorem revealed_of_phase {sol : Sol.Runtime} {view : Sol.EscrowView} {payouts : List Sol.Payout}
    (h : Sol.Phase sol view payouts) :
    (view.escrow.status = Sol.statusLocked ∧ view.revealed = 0) ∨
      (view.escrow.status = Sol.statusClaimed ∧ view.revealed = 1) ∨
      (view.escrow.status = Sol.statusRefunded ∧ view.revealed = 0) := by
  cases h with
  | locked hStatus hRevealed _ => exact .inl ⟨hStatus, hRevealed⟩
  | closed payout hStatus hClaim hRefund _ _ _ =>
    cases hExit : payout.exit with
    | claim =>
      rw [hExit] at hStatus
      exact .inr (.inl ⟨hStatus, (hClaim hExit).1⟩)
    | refund =>
      rw [hExit] at hStatus
      exact .inr (.inr ⟨hStatus, (hRefund hExit).1⟩)

/-- A requirement passes where its condition holds. -/
theorem require_of {c : Prop} [Decidable c] {e : String} (h : c) : require c e = .ok () := by
  unfold require
  rw [if_pos h]

/-- A safe number is read. -/
theorem safeI64_of {data : List UInt8} {off : Nat} {what : String}
    (h : isSafeInteger (getBigInt64 data off) = true) :
    safeI64 data off what = .ok (getBigInt64 data off) := by
  unfold safeI64
  dsimp only
  rw [require_of h]
  rfl

/-- A number that is not safe is refused. -/
theorem safeI64_not {data : List UInt8} {off : Nat} {what : String}
    (h : ¬ isSafeInteger (getBigInt64 data off) = true) :
    ∃ e, safeI64 data off what = .error e := by
  unfold safeI64 require
  dsimp only
  rw [if_neg h]
  exact ⟨_, rfl⟩

/-- The data of an escrow whose status says whether its preimage is shown decodes to what it is,
up to the two times. -/
theorem decodeEscrow_eq {data : List UInt8} (hLength : data.length = SOL_ESCROW_LEN)
    (hVersion : Bytes.byteAt data 0 = STATE_VERSION)
    (hPhase : (Bytes.byteAt data 1 = 1 ∧ Bytes.byteAt data 2 = 0) ∨
      (Bytes.byteAt data 1 = 2 ∧ Bytes.byteAt data 2 = 1) ∨
      (Bytes.byteAt data 1 = 3 ∧ Bytes.byteAt data 2 = 0)) :
    decodeEscrow data = (do
      let claimByMs ← safeI64 data 140 "claim_by_ms"
      let refundAfterMs ← safeI64 data 148 "refund_after_ms"
      return { wireView (Sol.EscrowView.read data) with
        claimByMs := claimByMs
        refundAfterMs := refundAfterMs }) := by
  have hKey : ∀ off, off + 32 ≤ 188 → pubkeyToBase58 (slice data off (off + 32)) =
      .ok (String.ofList (base58Encode (Bytes.field 32 data off).bytes)) := by
    intro off hOff
    have hBytes : (Bytes.field 32 data off).bytes.length = SOL_PUBKEY_BYTES :=
      (Bytes.field 32 data off).length_eq
    rw [slice_eq_field (hLength ▸ hOff), pubkeyToBase58, if_pos hBytes]
  have hSize : data.length = 188 := hLength
  have hHash : slice data 100 132 = (Bytes.field 32 data 100).bytes :=
    slice_eq_field (show 100 + 32 ≤ data.length by omega)
  have hPreimage : slice data 156 188 = (Bytes.field 32 data 156).bytes :=
    slice_eq_field (show 156 + 32 ≤ data.length by omega)
  have hRead : (Sol.EscrowView.read data).escrow.status = Bytes.byteAt data 1 := rfl
  unfold decodeEscrow
  rw [require_of hLength, require_of hVersion, hHash, hPreimage, hKey 4 (by decide),
    hKey 36 (by decide), hKey 68 (by decide)]
  unfold wireView
  rw [hRead]
  rcases hPhase with ⟨hStatus, hRevealed⟩ | ⟨hStatus, hRevealed⟩ | ⟨hStatus, hRevealed⟩ <;>
    rw [hStatus, hRevealed] <;> rfl

/-- The client decodes what the program stores, unless a time is too large. -/
theorem decodeEscrow_stored {sol : Sol.Runtime} (hLawful : sol.Lawful) {s : Sol.State}
    (hReach : (Sol.system sol).Reachable s) {key : Sol.Pubkey} {view : Sol.EscrowView}
    (hView : s.escrow? key = some view) :
    (SafeTimes view → decodeEscrow (s.accounts.contents key).data = .ok (wireView view)) ∧
      (¬ SafeTimes view → ∃ e, decodeEscrow (s.accounts.contents key).data = .error e) := by
  obtain ⟨hEscrow, rfl⟩ := Sol.escrow?_eq_some hView
  have hPhase := revealed_of_phase ((Sol.inv_of_reachable hLawful hReach).escrow key _ hView).phase
  have hDecode := decodeEscrow_eq hEscrow.length hEscrow.version hPhase
  rw [hDecode]
  constructor
  · rintro ⟨hClaim, hRefund⟩
    have hClaim : isSafeInteger (getBigInt64 (s.accounts.contents key).data 140) = true := hClaim
    have hRefund : isSafeInteger (getBigInt64 (s.accounts.contents key).data 148) = true := hRefund
    rw [safeI64_of hClaim, safeI64_of hRefund]
    rfl
  · intro hNot
    by_cases hClaim : isSafeInteger (getBigInt64 (s.accounts.contents key).data 140) = true
    · have hRefund : ¬ isSafeInteger (getBigInt64 (s.accounts.contents key).data 148) = true :=
        fun hRefund => hNot ⟨hClaim, hRefund⟩
      obtain ⟨e, hError⟩ := @safeI64_not _ 148 "refund_after_ms" hRefund
      rw [safeI64_of hClaim, hError]
      exact ⟨e, rfl⟩
    · obtain ⟨e, hError⟩ := @safeI64_not _ 140 "claim_by_ms" hClaim
      rw [hError]
      exact ⟨e, rfl⟩

/-- Validated terms, a preimage and a refund reach the program as they are, and an escrow that it
has stored reads back as it is: the preimage is there exactly when it is claimed, and only a time
that is no safe integer is refused. -/
theorem solWire_agrees {sol : Sol.Runtime} (hLawful : sol.Lawful) :
    (∀ rt config payer terms, validateTerms rt config payer terms = .ok () →
      ∃ data hashLock payee claimByMs refundAfterMs amount,
        lockInstructionData terms = .ok data ∧
        LockArguments terms hashLock payee claimByMs refundAfterMs amount ∧
        ∀ unixTimestamp accts infos,
          Sol.processInstruction sol Sol.id unixTimestamp accts infos data =
            Sol.lock sol unixTimestamp accts infos hashLock payee claimByMs refundAfterMs amount) ∧
    (∀ preimage : Sol.Bytes32, ∃ data, claimInstructionData preimage.bytes = .ok data ∧
      ∀ unixTimestamp accts infos,
        Sol.processInstruction sol Sol.id unixTimestamp accts infos data =
          SwapDesk.Sol.claim sol unixTimestamp accts infos preimage) ∧
    (∀ unixTimestamp accts infos,
      Sol.processInstruction sol Sol.id unixTimestamp accts infos refundInstructionData =
        Sol.refund sol unixTimestamp accts infos) ∧
    ∀ s, (Sol.system sol).Reachable s → ∀ key view, s.escrow? key = some view →
      (SafeTimes view → decodeEscrow (s.accounts.contents key).data = .ok (wireView view)) ∧
      (¬ SafeTimes view → ∃ e, decodeEscrow (s.accounts.contents key).data = .error e) := by
  refine ⟨fun rt config payer terms h => ?_, fun preimage => ?_,
    fun unixTimestamp accts infos => processInstruction_refund sol unixTimestamp accts infos,
    fun s hReach key view hView => decodeEscrow_stored hLawful hReach hView⟩
  · obtain ⟨hashLock, payee, claimByMs, refundAfterMs, amount, hArguments, hData⟩ :=
      lockInstructionData_ok h
    exact ⟨_, hashLock, payee, claimByMs, refundAfterMs, amount, hData, hArguments,
      fun unixTimestamp accts infos => processInstruction_lock sol unixTimestamp accts infos
        hashLock payee claimByMs refundAfterMs amount⟩
  · refine ⟨TAG_CLAIM :: preimage.bytes, ?_, fun unixTimestamp accts infos =>
      processInstruction_claim sol unixTimestamp accts infos preimage⟩
    unfold claimInstructionData
    rw [require_of preimage.length_eq]
    rfl

/-- The escrow of the sample run is claimed, and the client reads the secret from it. -/
theorem solWire_agrees_sample : ∃ view, Sol.Sample.final.escrow? Sol.Sample.escrow = some view ∧
    decodeEscrow (Sol.Sample.final.accounts.contents Sol.Sample.escrow).data =
      .ok (wireView view) ∧ (wireView view).preimage.isSome = true := by
  have hValues : ((Sol.Sample.final.escrow? Sol.Sample.escrow).map fun view =>
      (view.escrow.status, view.claimByMs, view.escrow.refundAfterMs)) =
        some (Sol.statusClaimed, 1000, 2000) := by decide +kernel
  obtain ⟨view, hView, hValues⟩ := Option.map_eq_some_iff.mp hValues
  obtain ⟨hStatus, hTimes⟩ := Prod.ext_iff.mp hValues
  obtain ⟨hClaim, hRefund⟩ := Prod.ext_iff.mp hTimes
  have hStatus : view.escrow.status = Sol.statusClaimed := hStatus
  have hClaim : view.claimByMs = 1000 := hClaim
  have hRefund : view.escrow.refundAfterMs = 2000 := hRefund
  have hSafe : SafeTimes view := by
    unfold SafeTimes
    rw [hClaim, hRefund]
    decide
  refine ⟨view, hView, ((solWire_agrees Sol.Sample.lawful).2.2.2 Sol.Sample.final
    Sol.Sample.reachable_final Sol.Sample.escrow view hView).1 hSafe, ?_⟩
  show (if view.escrow.status = Sol.statusClaimed then
    some ("0x" ++ bytesToHex view.preimage.bytes) else none).isSome = true
  rw [if_pos hStatus]
  rfl

end SwapDesk.Rails
