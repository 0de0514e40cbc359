import SwapDesk.Rails.BtcSoundness

/-!
# SwapDesk — who can spend a Bitcoin lock

The script of a lock, run as the network runs it, against `classifySpend`, which looks
at nothing but the witness. The script is `andor(pk(PAYEE),sha256(H),and_v(v:pk(PAYER),
after(T)))`, so a witness is either the payee's with a preimage or the payer's after `T`.

Main result: `htlcScript_accepts_iff`, who can spend and how the spend is labelled.
-/

namespace SwapDesk.Rails

open Check BitcoinScript

/-! ## The script -/

/-- The elements of `htlcElements`, as instructions. -/
def htlcInstrs (params : HtlcScriptParams) : List Instr :=
  [.push params.payeePubkey, .op .checksig, .op .notif, .push params.payerPubkey,
    .op .checksigverify, .push (numBytes params.locktime.toNat), .op .checklocktimeverify,
    .op .else, .op .size, .push (numBytes HASH_LENGTH), .op .equalverify, .op .sha256,
    .push params.hashLock, .op .equal, .op .endif]

/-- `Script.encode` writes one instruction for each element. -/
def EncodesElements (rt : BtcRuntime) : Prop :=
  ∀ elements bytes, encodeElements elements = .ok bytes → rt.scriptEncode elements = .ok bytes

/-- A valid locktime fits four bytes. -/
theorem locktime_lt {params : HtlcScriptParams} (h : HtlcParamsValid params) :
    0 < params.locktime.toNat ∧ params.locktime.toNat < 256 ^ 4 := by
  have hAbove := h.above
  have hBelow := h.below
  unfold BIP65_THRESHOLD at hAbove
  unfold MAX_LOCKTIME at hBelow
  omega

/-- The instructions of the script are short. -/
theorem short_htlcInstrs {params : HtlcScriptParams} (h : HtlcParamsValid params) :
    ∀ instr ∈ htlcInstrs params, Short instr := by
  have hPayee := h.payee
  have hPayer := h.payer
  have hHash := h.hashLock
  have hTime := length_numBytes_le (locktime_lt h).2
  unfold COMPRESSED_PUBKEY_LENGTH at hPayee hPayer
  unfold HASH_LENGTH at hHash
  have hSize : (numBytes HASH_LENGTH).length = 1 := by decide
  simp [htlcInstrs, Short]
  omega

/-- What `Script.encode` writes for the script is its instructions. -/
theorem witnessScript_eq {rt : BtcRuntime} (hEncode : EncodesElements rt)
    {params : HtlcScriptParams} {network : BtcNetwork} {script : HtlcScript}
    (h : buildHtlcScript rt params network = .ok script) :
    script.witnessScript = serialize (htlcInstrs params) := by
  obtain ⟨hValid, hScript⟩ := buildHtlcScript_ok h
  have hPayee := hValid.payee
  have hPayer := hValid.payer
  have hHash := hValid.hashLock
  have hAbove := hValid.above
  unfold COMPRESSED_PUBKEY_LENGTH at hPayee hPayer
  unfold HASH_LENGTH at hHash
  unfold BIP65_THRESHOLD at hAbove
  have hInstrs : (htlcElements params).mapM ScriptElement.instr? = some (htlcInstrs params) := by
    have hTime : 16 < params.locktime := by omega
    simp [htlcElements, ScriptElement.instr?, htlcInstrs, hPayee, hPayer, hHash, hTime, HASH_LENGTH]
  have hElements : encodeElements (htlcElements params) = .ok (serialize (htlcInstrs params)) := by
    rw [encodeElements, hInstrs]
    rfl
  exact Except.ok.inj (hScript.symm.trans (hEncode _ _ hElements))

/-! ## The two ways to spend -/

/-- A signature that checks. An empty one never does. -/
def ValidSignature (ctx : Context) (signature key : List UInt8) : Prop :=
  signature ≠ [] ∧ ctx.checkSig signature key = true

/-- A preimage of the hash lock, and the payee's signature. -/
def IsClaim (ctx : Context) (params : HtlcScriptParams) (witness : List (List UInt8)) : Prop :=
  ∃ preimage signature, witness = [preimage, signature] ∧
    preimage.length = 32 ∧ ctx.sha256 preimage = params.hashLock ∧
    ValidSignature ctx signature params.payeePubkey

/-- The payer's signature, and no payee's, once the lock time has come. -/
def IsRefund (ctx : Context) (params : HtlcScriptParams) (witness : List (List UInt8)) : Prop :=
  ∃ signature, witness = [signature, []] ∧ ValidSignature ctx signature params.payerPubkey ∧
    LockTimeReached ctx params.locktime.toNat

variable {ctx : Context} {params : HtlcScriptParams}

/-- A signature checks when it is valid. -/
theorem checkSignature_eq {signature key : List UInt8} :
    checkSignature ctx signature key = some true ↔ ValidSignature ctx signature key := by
  unfold checkSignature ValidSignature
  split
  · simp [*]
  · split <;> simp [*]

/-! ## Running the script -/

/-- What runs with the payee's signature. -/
def claimBranch (params : HtlcScriptParams) : List Instr :=
  [.op .size, .push (numBytes HASH_LENGTH), .op .equalverify, .op .sha256, .push params.hashLock,
    .op .equal]

/-- What runs without one. -/
def refundBranch (params : HtlcScriptParams) : List Instr :=
  [.push params.payerPubkey, .op .checksigverify, .push (numBytes params.locktime.toNat),
    .op .checklocktimeverify]

/-- How the claim branch runs. -/
theorem runPlain_claimBranch (stack : List (List UInt8)) :
    runPlain ctx (claimBranch params) stack =
      match stack with
      | [] => none
      | preimage :: rest =>
        if preimage.length = HASH_LENGTH then
          some (truth (params.hashLock = ctx.sha256 preimage) :: rest)
        else none := by
  cases stack with
  | nil => rfl
  | cons preimage rest =>
    have hSize : numBytes HASH_LENGTH = numBytes preimage.length ↔ preimage.length = HASH_LENGTH :=
      ⟨fun hSame => (numBytes_inj hSame).symm, fun hSame => by rw [hSame]⟩
    unfold claimBranch
    simp only [runPlain, stepPlain, stepStack, Option.bind_some, hSize]
    split
    · rfl
    · rfl

/-- How the refund branch runs. -/
theorem runPlain_refundBranch (hValid : HtlcParamsValid params) (stack : List (List UInt8)) :
    runPlain ctx (refundBranch params) stack =
      match stack with
      | [] => none
      | signature :: rest =>
        if checkSignature ctx signature params.payerPubkey = some true ∧
            LockTimeReached ctx params.locktime.toNat then
          some (numBytes params.locktime.toNat :: rest)
        else none := by
  have hRead : readNum 5 (numBytes params.locktime.toNat) = some params.locktime.toNat :=
    readNum_numBytes (locktime_lt hValid).2
  cases stack with
  | nil => rfl
  | cons signature rest =>
    unfold refundBranch
    simp only [runPlain, stepPlain, stepStack, Option.bind_some]
    split
    · rename_i hChecked
      simp only [Option.bind_some, hRead, hChecked, true_and]
      split <;> rfl
    · rename_i hRefused
      rw [if_neg fun h => hRefused h.1]
      rfl

/-- The payee's signature decides which branch runs; one that does not check fails the script,
unless it is empty. -/
theorem run_htlcInstrs (signature : List UInt8) (stack : List (List UInt8)) :
    run ctx (htlcInstrs params) ⟨signature :: stack, []⟩ =
      (checkSignature ctx signature params.payeePubkey).bind fun checked =>
        (runPlain ctx (if checked then claimBranch params else refundBranch params) stack).map
          fun stack => ⟨stack, []⟩ := by
  have hRefund : ∀ instr ∈ refundBranch params, instr.isFlow = false := by
    simp [refundBranch, Instr.isFlow]
  have hClaim : ∀ instr ∈ claimBranch params, instr.isFlow = false := by
    simp [claimBranch, Instr.isFlow]
  show (step ctx ⟨params.payeePubkey :: signature :: stack, []⟩ (.op .checksig)).bind
    (run ctx (.op .notif :: (refundBranch params ++ .op .else ::
      (claimBranch params ++ [.op .endif])))) = _
  rw [step_of_not_flow rfl, if_pos (show State.executes ⟨_, []⟩ = true from rfl)]
  show ((checkSignature ctx signature params.payeePubkey).map _ |>.map _).bind _ = _
  cases checkSignature ctx signature params.payeePubkey with
  | none => rfl
  | some checked => exact run_notif_else hRefund hClaim checked stack

/-- The script does not run on an empty stack. -/
theorem run_empty : run ctx (htlcInstrs params) ⟨[], []⟩ = none := rfl

/-- Only the empty signature fails without an abort. -/
theorem checkSignature_eq_false {signature key : List UInt8}
    (h : checkSignature ctx signature key = some false) : signature = [] := by
  unfold checkSignature at h
  split at h
  · assumption
  · split at h <;> cases h

/-- The script accepts what one of the two parties can present, and nothing else. -/
theorem accepts_htlcInstrs (hValid : HtlcParamsValid params) {witness : List (List UInt8)} :
    Accepts ctx (htlcInstrs params) witness ↔
      IsClaim ctx params witness ∨ IsRefund ctx params witness := by
  constructor
  -- what a run that accepts went through: the payee's signature decides the branch
  · rintro ⟨top, hRun, hTop⟩
    cases hStack : witness.reverse with
    | nil =>
      rw [hStack, run_empty] at hRun
      cases hRun
    | cons signature stack =>
      rw [hStack, run_htlcInstrs, Option.bind_eq_some_iff] at hRun
      obtain ⟨checked, hChecked, hRun⟩ := hRun
      obtain ⟨left, hPlain, hLeft⟩ := Option.map_eq_some_iff.mp hRun
      obtain rfl : left = [top] := congrArg State.stack hLeft
      have hWitness : witness = stack.reverse ++ [signature] := by
        rw [← List.reverse_reverse witness, hStack, List.reverse_cons]
      cases checked with
      -- it is good: the preimage is under it
      | true =>
        rw [if_pos rfl, runPlain_claimBranch] at hPlain
        split at hPlain
        · cases hPlain
        · rename_i preimage rest
          split at hPlain
          · rename_i hLength
            obtain ⟨rfl, rfl⟩ := List.cons.inj (Option.some.inj hPlain)
            rw [castToBool_truth, decide_eq_true_eq] at hTop
            exact .inl ⟨preimage, signature, hWitness, hLength, hTop.symm,
              checkSignature_eq.mp hChecked⟩
          · cases hPlain
      -- it is empty: the payer's is under it, and the time has come
      | false =>
        obtain rfl := checkSignature_eq_false hChecked
        rw [if_neg Bool.false_ne_true, runPlain_refundBranch hValid] at hPlain
        split at hPlain
        · cases hPlain
        · rename_i signature rest
          split at hPlain
          · rename_i hRefund
            obtain ⟨rfl, rfl⟩ := List.cons.inj (Option.some.inj hPlain)
            exact .inr ⟨signature, hWitness, checkSignature_eq.mp hRefund.1, hRefund.2⟩
          · cases hPlain
  -- each of the two runs to the end
  · rintro (⟨preimage, signature, rfl, hLength, hHash, hSignature⟩ |
      ⟨signature, rfl, hSignature, hTime⟩)
    · refine ⟨truth true, ?_, castToBool_truth true⟩
      show run ctx _ ⟨[signature, preimage], []⟩ = _
      rw [run_htlcInstrs, checkSignature_eq.mpr hSignature, Option.bind_some, if_pos rfl,
        runPlain_claimBranch]
      simp [HASH_LENGTH, hLength, hHash]
    · refine ⟨numBytes params.locktime.toNat, ?_, castToBool_numBytes (locktime_lt hValid).1⟩
      have hNone : checkSignature ctx [] params.payeePubkey = some false := if_pos rfl
      show run ctx _ ⟨[[], signature], []⟩ = _
      rw [run_htlcInstrs, hNone, Option.bind_some, if_neg Bool.false_ne_true,
        runPlain_refundBranch hValid]
      simp [checkSignature_eq.mpr hSignature, hTime]

/-! ## What the classifier makes of it -/

/-- The witness of the spending input, as the node prints it: what the spender presents, and the
script. -/
def printedWitness (witness : List (List UInt8)) (script : HtlcScript) : List String :=
  (witness ++ [script.witnessScript]).map bytesToHex

/-- A printed item opens the hash lock if the bytes do. -/
theorem opensHashLock_bytesToHex {rt : Runtime} {hash bytes : List UInt8} :
    opensHashLock rt hash (bytesToHex bytes) = true ↔ bytes.length = 32 ∧ rt.sha256 bytes =
    hash := by
  rw [opensHashLock_iff, hexToBytes_bytesToHex]
  simp

/-- The script is too long to open a hash lock. -/
theorem length_witnessScript (hValid : HtlcParamsValid params) :
    32 < (serialize (htlcInstrs params)).length := by
  have hPayee := hValid.payee
  unfold COMPRESSED_PUBKEY_LENGTH at hPayee
  show 32 < (UInt8.ofNat params.payeePubkey.length :: params.payeePubkey ++ _).length
  rw [List.length_append, List.length_cons, hPayee]
  omega

/-- What the transaction that spends the lock shows the script. -/
def spendContext (rt : Runtime) (checkSig : List UInt8 → List UInt8 → Bool)
    (lockTime sequence : Nat) : Context :=
  ⟨checkSig, rt.sha256, lockTime, sequence⟩

/-- The lock is spent by the payee with a preimage of the hash lock, or by the payer once the lock
time has come, and the label says which of the two it was. No signature of the payer is taken to
open the hash lock. -/
theorem htlcScript_accepts_iff {rt : BtcRuntime} {network : BtcNetwork} {script : HtlcScript}
    {checkSig : List UInt8 → List UInt8 → Bool} {lockTime sequence : Nat}
    {witness : List (List UInt8)} (hEncode : EncodesElements rt)
    (hScript : buildHtlcScript rt params network = .ok script)
    (hSignature : ∀ signature, checkSig signature params.payerPubkey = true →
      signature.length = 32 → rt.sha256 signature ≠ params.hashLock) :
    (AcceptsBytes (spendContext rt.toRuntime checkSig lockTime sequence) script.witnessScript
    witness ↔
      IsClaim (spendContext rt.toRuntime checkSig lockTime sequence) params witness ∨
      IsRefund (spendContext rt.toRuntime checkSig lockTime sequence) params witness) ∧
    (IsClaim (spendContext rt.toRuntime checkSig lockTime sequence) params witness →
      (classifySpend rt.toRuntime (printedWitness witness script) params.hashLock).label =
        .claimed) ∧
    (IsRefund (spendContext rt.toRuntime checkSig lockTime sequence) params witness →
      (classifySpend rt.toRuntime (printedWitness witness script) params.hashLock).label =
        .refunded) := by
  have hValid := (buildHtlcScript_ok hScript).1
  have hBytes := witnessScript_eq hEncode hScript
  refine ⟨?_, ?_, ?_⟩
  · rw [hBytes, acceptsBytes_serialize (short_htlcInstrs hValid), accepts_htlcInstrs hValid]
  · rintro ⟨preimage, signature, rfl, hLength, hHash, -⟩
    refine classifySpend_claimed ⟨bytesToHex preimage, ?_, opensHashLock_bytesToHex.mpr
      ⟨hLength, hHash⟩⟩
    simp [printedWitness]
  · rintro ⟨signature, rfl, ⟨-, hChecked⟩, -⟩
    refine classifySpend_refunded ?_
    rintro ⟨item, hItem, hOpens⟩
    obtain ⟨bytes, hBytesIn, rfl⟩ := List.mem_map.mp hItem
    obtain ⟨hLength, hHash⟩ := opensHashLock_bytesToHex.mp hOpens
    -- the signature, the empty item, or the script
    rcases List.mem_cons.mp hBytesIn with rfl | hBytesIn
    · exact hSignature _ hChecked hLength hHash
    · rcases List.mem_cons.mp hBytesIn with rfl | hBytesIn
      · cases hLength
      · obtain rfl := List.mem_singleton.mp hBytesIn
        have hLong := length_witnessScript hValid
        rw [← hBytes, hLength] at hLong
        omega

namespace BtcSample

/-- The payer's signature of a transaction that takes the lock back once its time has come. -/
def refundSignature : List UInt8 :=
  [0x30, 0x44, 0x02, 0x20] ++
    be 32 0x17f53289eac961e5adc858d3ca50dab056ddca7a1a906c0815a0369312d1aa49 ++ [0x02, 0x20] ++
    be 32 0x12b266750da89b2e431b8f9561c895175062ae7e6783f136a30e2a7fcee5544b ++ [0x01]

def checkSig (signature key : List UInt8) : Bool := signature = refundSignature && key = payer

example : checkSig refundSignature payer = true := by decide

def lockParams : HtlcScriptParams := ⟨hash, payee, payer, 1800000000⟩

def htlcScript : HtlcScript := ⟨witnessScript, scriptPubKey, address, 1800000000⟩

/-- The sample's script is built. -/
theorem builds : buildHtlcScript runtime lockParams BTC_REGTEST_NETWORK = .ok htlcScript := by
  decide

end BtcSample

theorem htlcScript_accepts_iff_sample :
    AcceptsBytes (spendContext BtcSample.runtime.toRuntime BtcSample.checkSig 1800000000 0xfffffffe)
        BtcSample.witnessScript [BtcSample.refundSignature, []] ∧
      (classifySpend BtcSample.runtime.toRuntime
        (printedWitness [BtcSample.refundSignature, []] BtcSample.htlcScript)
        BtcSample.hash).label = .refunded := by
  have hLength : BtcSample.refundSignature.length = 71 := by decide
  have hSignature : ∀ signature, BtcSample.checkSig signature BtcSample.payer = true →
      signature.length = 32 → BtcSample.runtime.sha256 signature ≠ BtcSample.hash := by
    intro signature hChecked hShort
    rw [BtcSample.checkSig, Bool.and_eq_true, decide_eq_true_eq] at hChecked
    rw [hChecked.1, hLength] at hShort
    cases hShort
  have hRefund : IsRefund (spendContext BtcSample.runtime.toRuntime BtcSample.checkSig 1800000000
      0xfffffffe) BtcSample.lockParams [BtcSample.refundSignature, []] := by
    refine ⟨_, rfl, ⟨?_, ?_⟩, ?_⟩
    · exact List.ne_nil_of_length_pos (by rw [hLength]; decide)
    · show BtcSample.checkSig BtcSample.refundSignature BtcSample.payer = true
      rw [BtcSample.checkSig, decide_eq_true rfl, decide_eq_true rfl]
      rfl
    · exact ⟨by decide, by decide, by decide⟩
  obtain ⟨hAccepts, -, hRefunded⟩ := @htlcScript_accepts_iff BtcSample.lockParams BtcSample.runtime
    BTC_REGTEST_NETWORK BtcSample.htlcScript BtcSample.checkSig 1800000000 0xfffffffe _
    (fun _ _ h => h) BtcSample.builds hSignature
  exact ⟨hAccepts.mpr (.inr hRefund), hRefunded hRefund⟩

end SwapDesk.Rails
