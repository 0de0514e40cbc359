import SwapDesk.Rails.SolConfig
import Mathlib.Data.List.DropRight

/-!
# SwapDesk — Solana accounts on the wire

The decoders of `src/rails/sol-evidence.ts`, `src/rails/sol-spl.ts` and
`src/rails/sol-htlc.ts` for the accounts a lock consists of. Every layout is read
at fixed offsets of an account of a fixed length, so the length is checked first.

Main results: `decodeAccountRead_eq_some`, `decodeEscrow_ok`, `tokenAccountProblem_ok`
and `programProblem_ok`, what each decoder lets pass.
-/

namespace SwapDesk.Rails

open Check Desk

/-! ## One account read -/

def MAX_SAFE_INTEGER : Int := 9007199254740991

def isSafeInteger (n : Int) : Bool := -MAX_SAFE_INTEGER ≤ n && n ≤ MAX_SAFE_INTEGER

structure WireAccount where
  lamports : JsonNum
  owner : String
  data : List UInt8
  executable : Bool
deriving DecidableEq, Repr

/-- An answer of `getAccountInfo`, with the slot it was read at. -/
structure AccountRead where
  slot : Int
  account : Option WireAccount
deriving DecidableEq, Repr

def num? (v : Json) (key : String) : Option JsonNum :=
  match v.field? key with
  | some (.num n) => some n
  | _ => none

def bool? (v : Json) (key : String) : Option Bool :=
  match v.field? key with
  | some (.bool b) => some b
  | _ => none

/-- `[text, "base64"]` -/
def base64Pair? (v : Json) (key : String) : Option String :=
  match v.field? key with
  | some (.arr [.str text, .str "base64"]) => some text
  | _ => none

def decodeWireAccount (rt : SolRuntime) (a : Json) : Option WireAccount := do
  let lamports ← num? a "lamports"
  let owner ← (a.text? "owner").filter isValidPubkeyBase58
  let text ← base64Pair? a "data"
  let executable ← bool? a "executable"
  let data ← rt.base64Decode text
  return ⟨lamports, owner, data, executable⟩

def decodeAccountRead (rt : SolRuntime) (value : Option Json) : Option AccountRead := do
  let v ← value.filter Json.isContainer
  let context ← v.container? "context"
  let slot ← (context.int? "slot").filter fun slot => isSafeInteger slot && 0 ≤ slot
  match v.field? "value" with
  | some .null => return ⟨slot, none⟩
  | some a =>
    if a.isObject then
      let account ← decodeWireAccount rt a
      return ⟨slot, some account⟩
    else none
  | none => none

/-! ## Numbers in account data -/

def getUint32 (data : List UInt8) (off : Nat) : Nat := Bytes.fromLe (Bytes.field 4 data off).bytes

def getBigUint64 (data : List UInt8) (off : Nat) : Nat :=
  (Bytes.u64FromLe (Bytes.field 8 data off)).toNat

def getBigInt64 (data : List UInt8) (off : Nat) : Int :=
  (Bytes.i64FromLe (Bytes.field 8 data off)).toInt

/-! ## Token accounts -/

inductive SplTokenAccountState where
  | uninitialized
  | initialized
  | frozen
deriving DecidableEq, Repr

def SplTokenAccountState.ofByte? : UInt8 → Option SplTokenAccountState
  | 0 => some .uninitialized
  | 1 => some .initialized
  | 2 => some .frozen
  | _ => none

structure SplTokenAccount where
  mint : List UInt8
  owner : List UInt8
  amount : Nat
  delegate : Option (List UInt8)
  state : SplTokenAccountState
  /-- The rent-exempt reserve of a wrapped-SOL account. -/
  isNative : Option Nat
  delegatedAmount : Nat
  closeAuthority : Option (List UInt8)
deriving DecidableEq, Repr

def SPL_TOKEN_ACCOUNT_LEN : Nat := 165

/-- A four-byte tag, then 32 bytes that count only under tag 1. -/
def coptionKey (data : List UInt8) (off : Nat) : Except String (Option (List UInt8)) :=
  match getUint32 data off with
  | 0 => .ok none
  | 1 => .ok (some (slice data (off + 4) (off + 36)))
  | _ => .error "sol-spl: invalid COption tag"

/-- Only the classic token program: an account of Token-2022 is longer. -/
def decodeTokenAccount (data : List UInt8) : Except String SplTokenAccount := do
  require (data.length = SPL_TOKEN_ACCOUNT_LEN)
    ("sol-spl: a classic token account is 165 bytes, got " ++ toString data.length)
  let state ← need (SplTokenAccountState.ofByte? (Bytes.byteAt data 108))
    "sol-spl: invalid token account state byte"
  let nativeTag := getUint32 data 109
  require (nativeTag = 0 ∨ nativeTag = 1) "sol-spl: invalid COption tag"
  let delegate ← coptionKey data 72
  let closeAuthority ← coptionKey data 129
  return { mint := slice data 0 32
           owner := slice data 32 64
           amount := getBigUint64 data 64
           delegate := delegate
           state := state
           isNative := if nativeTag = 1 then some (getBigUint64 data 113) else none
           delegatedAmount := getBigUint64 data 121
           closeAuthority := closeAuthority }

/-- A token account of `owner` for `mint` that can be used. Returns it; the error says why it
is not one. -/
def tokenAccountProblem (account : Option WireAccount) (mint owner : List UInt8) :
    Except String SplTokenAccount := do
  let account ← need account "does not exist"
  require (account.owner = TOKEN_PROGRAM_ID) "is not owned by the classic token program"
  let token ← decodeTokenAccount account.data
  require (token.state ≠ .uninitialized) "is not initialised"
  require (token.state ≠ .frozen) "is frozen"
  require (token.mint = mint) "is for a different mint"
  require (token.owner = owner) "is owned by a different wallet"
  return token

/-! ## The escrow -/

def SOL_ESCROW_LEN : Nat := 188

def STATE_VERSION : UInt8 := 1

inductive SolEscrowStatus where
  | locked
  | claimed
  | refunded
deriving DecidableEq, Repr

/-- `STATUS_NAMES` -/
def SolEscrowStatus.ofByte? : UInt8 → Option SolEscrowStatus
  | 1 => some .locked
  | 2 => some .claimed
  | 3 => some .refunded
  | _ => none

structure SolEscrowView where
  status : SolEscrowStatus
  revealed : Bool
  bump : UInt8
  payer : String
  payee : String
  mint : String
  hashLock : String
  amount : String
  claimByMs : Int
  refundAfterMs : Int
  /-- Only when revealed. -/
  preimage : Option String
deriving DecidableEq, Repr

def safeI64 (data : List UInt8) (off : Nat) (what : String) : Except String Int := do
  let value := getBigInt64 data off
  require (isSafeInteger value)
    ("sol-htlc: escrow " ++ what ++ " is outside the safe integer range")
  return value

def decodeEscrow (data : List UInt8) : Except String SolEscrowView := do
  require (data.length = SOL_ESCROW_LEN)
    ("sol-htlc: an escrow is 188 bytes, got " ++ toString data.length)
  require (Bytes.byteAt data 0 = STATE_VERSION) "sol-htlc: unknown escrow version"
  let status ← need (SolEscrowStatus.ofByte? (Bytes.byteAt data 1))
    "sol-htlc: unknown escrow status"
  let revealedByte := Bytes.byteAt data 2
  require (revealedByte = 0 ∨ revealedByte = 1) "sol-htlc: invalid escrow revealed byte"
  let payer ← pubkeyToBase58 (slice data 4 36)
  let payee ← pubkeyToBase58 (slice data 36 68)
  let mint ← pubkeyToBase58 (slice data 68 100)
  let claimByMs ← safeI64 data 140 "claim_by_ms"
  let refundAfterMs ← safeI64 data 148 "refund_after_ms"
  return { status := status
           revealed := revealedByte = 1
           bump := Bytes.byteAt data 3
           payer := payer
           payee := payee
           mint := mint
           hashLock := "0x" ++ bytesToHex (slice data 100 132)
           amount := toString (getBigUint64 data 132)
           claimByMs := claimByMs
           refundAfterMs := refundAfterMs
           preimage :=
             if revealedByte = 1 then some ("0x" ++ bytesToHex (slice data 156 188)) else none }

/-! ## The program -/

/-- Without the zeros it ends with. -/
def trimZeros (elf : List UInt8) : List UInt8 := elf.rdropWhile (· == 0)

/-- The two accounts are those of the pinned program, and nobody can change it. -/
def programProblem (rt : SolRuntime) (config : SolRailConfig)
    (program programData : Option WireAccount) (expectedProgramData : String) :
    Except String Unit := do
  let program ← need program "the program account does not exist"
  require program.executable "the program account is not executable"
  require (program.owner = BPF_LOADER_UPGRADEABLE_ID)
    "the program is not owned by the upgradeable loader"
  require (program.data.length = 36 ∧ getUint32 program.data 0 = 2)
    "the program account is not a Program\x7bprogramdata_address\x7d"
  require ((pubkeyToBase58 (slice program.data 4 36)).toOption = some expectedProgramData)
    "the program's ProgramData address is not the one derived for it"
  let programData ← need programData "the ProgramData account does not exist"
  require (programData.owner = BPF_LOADER_UPGRADEABLE_ID)
    "the ProgramData account is not owned by the upgradeable loader"
  let d := programData.data
  require (45 ≤ d.length ∧ getUint32 d 0 = 3) "the ProgramData account is malformed"
  let authorityTag := Bytes.byteAt d 12
  require (authorityTag = 1 → (slice d 13 45).all (· == 0))
    "the program has an upgrade authority (only None or the all-zero address is accepted)"
  require (authorityTag = 0 ∨ authorityTag = 1)
    "the ProgramData upgrade-authority option is malformed"
  let elf := d.drop 45
  require (bytesToHex (rt.sha256 elf) = config.programHash ∨
      bytesToHex (rt.sha256 (trimZeros elf)) = config.programHash)
    "the ProgramData hash does not match the pinned programHash"

/-! ## What the decoders let pass -/

/-- The value is an account, of these bytes, as the RPC node writes it. -/
structure IsWireAccount (rt : SolRuntime) (a : Json) (account : WireAccount) : Prop where
  owner : a.field? "owner" = some (.str account.owner)
  ownerKey : isValidPubkeyBase58 account.owner = true
  data : ∃ text, a.field? "data" = some (.arr [.str text, .str "base64"]) ∧
    rt.base64Decode text = some account.data
  executable : a.field? "executable" = some (.bool account.executable)

/-- The value is the answer `read` of an account read. -/
structure IsAccountRead (rt : SolRuntime) (value : Json) (read : AccountRead) : Prop where
  slot : ∃ context, value.field? "context" = some context ∧
    context.field? "slot" = some (.num (.int read.slot))
  account : ∀ account, read.account = some account →
    ∃ a, value.field? "value" = some a ∧ IsWireAccount rt a account

/-- A base64 pair is read off its array. -/
theorem base64Pair?_eq_some {v : Json} {key text : String} (h : base64Pair? v key = some text) :
    v.field? key = some (.arr [.str text, .str "base64"]) := by
  unfold base64Pair? at h
  split at h
  · rename_i hField
    obtain rfl := Option.some.inj h
    exact hField
  · cases h

/-- A truth value is read off its field. -/
theorem bool?_eq_some {v : Json} {key : String} {b : Bool} (h : bool? v key = some b) :
    v.field? key = some (.bool b) := by
  unfold bool? at h
  split at h
  · rename_i hField
    obtain rfl := Option.some.inj h
    exact hField
  · cases h

/-- A wire account is read off its JSON. -/
theorem decodeWireAccount_eq_some {rt : SolRuntime} {a : Json} {account : WireAccount}
    (h : decodeWireAccount rt a = some account) : IsWireAccount rt a account := by
  unfold decodeWireAccount at h
  simp only [Option.bind_eq_bind, Option.bind_eq_some_iff, Option.pure_def] at h
  obtain ⟨lamports, -, owner, hOwner, text, hText, executable, hExecutable, data, hData, h⟩ := h
  obtain rfl := Option.some.inj h
  obtain ⟨hOwner, hKey⟩ := Option.filter_eq_some_iff.mp hOwner
  exact ⟨Json.text?_eq_some.mp hOwner, hKey, ⟨text, base64Pair?_eq_some hText, hData⟩,
    bool?_eq_some hExecutable⟩

/-- An account read is read off its JSON. -/
theorem decodeAccountRead_eq_some {rt : SolRuntime} {value : Option Json} {read : AccountRead}
    (h : decodeAccountRead rt value = some read) :
    ∃ v, value = some v ∧ IsAccountRead rt v read := by
  unfold decodeAccountRead at h
  simp only [Option.bind_eq_bind, Option.bind_eq_some_iff, Option.pure_def] at h
  obtain ⟨v, hv, context, hContext, slot, hSlot, h⟩ := h
  refine ⟨v, (Option.filter_eq_some_iff.mp hv).1, ?_⟩
  have hAt : ∃ context, v.field? "context" = some context ∧
      context.field? "slot" = some (.num (.int slot)) :=
    ⟨context, (Option.filter_eq_some_iff.mp hContext).1,
      Json.int?_eq_some.mp (Option.filter_eq_some_iff.mp hSlot).1⟩
  split at h
  · obtain rfl := Option.some.inj h
    exact ⟨hAt, fun account hNone => by cases hNone⟩
  · rename_i a _ hValue
    split at h
    · obtain ⟨account, hAccount, h⟩ := Option.bind_eq_some_iff.mp h
      obtain rfl := Option.some.inj h
      refine ⟨hAt, ?_⟩
      intro account' hSome
      obtain rfl := Option.some.inj hSome
      exact ⟨a, hValue, decodeWireAccount_eq_some hAccount⟩
    · cases h
  · cases h

/-- The account is a token account of `owner` for `mint` that is not frozen. -/
structure UsableToken (account : Option WireAccount) (mint owner : List UInt8) (amount : Nat) :
    Prop where
  layout : ∃ a, account = some a ∧ a.owner = TOKEN_PROGRAM_ID ∧
    a.data.length = SPL_TOKEN_ACCOUNT_LEN ∧ slice a.data 0 32 = mint ∧
    slice a.data 32 64 = owner ∧ getBigUint64 a.data 64 = amount ∧ Bytes.byteAt a.data 108 = 1

/-- A token account without a problem is usable. -/
theorem tokenAccountProblem_ok {account : Option WireAccount} {mint owner : List UInt8}
    {token : SplTokenAccount} (h : tokenAccountProblem account mint owner = .ok token) :
    UsableToken account mint owner token.amount := by
  unfold tokenAccountProblem decodeTokenAccount at h
  simp only [bind_eq_ok, need_eq_ok, require_eq_ok, exists_const] at h
  obtain ⟨a, hAccount, hOwner, token', ⟨hLength, state, hState, -, delegate, -, closeAuthority, -,
    hToken⟩, hInitialized, hFrozen, hMint, hWallet, h⟩ := h
  obtain rfl := Except.ok.inj h
  obtain rfl := Except.ok.inj hToken
  refine ⟨a, hAccount, hOwner, hLength, hMint, hWallet, rfl, ?_⟩
  dsimp only at hInitialized hFrozen
  unfold SplTokenAccountState.ofByte? at hState
  split at hState
  · exact absurd (Option.some.inj hState).symm hInitialized
  · assumption
  · exact absurd (Option.some.inj hState).symm hFrozen
  · cases hState

/-- The data is an escrow with these fields. -/
structure HoldsEscrow (data : List UInt8) (view : SolEscrowView) : Prop where
  length : data.length = SOL_ESCROW_LEN
  version : Bytes.byteAt data 0 = STATE_VERSION
  status : SolEscrowStatus.ofByte? (Bytes.byteAt data 1) = some view.status
  payer : view.payer = String.ofList (base58Encode (slice data 4 36))
  payee : view.payee = String.ofList (base58Encode (slice data 36 68))
  mint : view.mint = String.ofList (base58Encode (slice data 68 100))
  hashLock : view.hashLock = "0x" ++ bytesToHex (slice data 100 132)
  amount : view.amount = toString (getBigUint64 data 132)
  claimByMs : view.claimByMs = getBigInt64 data 140
  refundAfterMs : view.refundAfterMs = getBigInt64 data 148
  revealed : view.revealed = true ↔ Bytes.byteAt data 2 = 1
  hidden : view.revealed = false ↔ Bytes.byteAt data 2 = 0
  preimage : view.preimage =
    if view.revealed then some ("0x" ++ bytesToHex (slice data 156 188)) else none

/-- A safe number is the one in the bytes. -/
theorem safeI64_ok {data : List UInt8} {off : Nat} {what : String} {value : Int}
    (h : safeI64 data off what = .ok value) : value = getBigInt64 data off := by
  unfold safeI64 at h
  simp only [bind_eq_ok, require_eq_ok, exists_const] at h
  exact (Except.ok.inj h.2).symm

/-- An escrow is read off its bytes. -/
theorem decodeEscrow_ok {data : List UInt8} {view : SolEscrowView}
    (h : decodeEscrow data = .ok view) : HoldsEscrow data view := by
  unfold decodeEscrow at h
  simp only [bind_eq_ok, need_eq_ok, require_eq_ok, exists_const] at h
  obtain ⟨hLength, hVersion, status, hStatus, hByte, payer, hPayer, payee, hPayee, mint, hMint,
    claimByMs, hClaim, refundAfterMs, hRefund, h⟩ := h
  obtain rfl := Except.ok.inj h
  refine ⟨hLength, hVersion, hStatus, (pubkeyToBase58_ok hPayer).2, (pubkeyToBase58_ok hPayee).2,
    (pubkeyToBase58_ok hMint).2, rfl, rfl, safeI64_ok hClaim, safeI64_ok hRefund, ?_, ?_, ?_⟩
  · exact decide_eq_true_iff
  · show decide (Bytes.byteAt data 2 = 1) = false ↔ _
    rw [decide_eq_false_iff_not]
    constructor
    · exact fun hNot => hByte.resolve_right hNot
    · intro hZero hOne
      exact absurd (hZero.symm.trans hOne) (by decide)
  · simp only [decide_eq_true_eq]

/-- The accounts are those of the pinned program, and no authority is left to change it. -/
structure ProgramPinned (rt : SolRuntime) (config : SolRailConfig)
    (program programData : Option WireAccount) (expectedProgramData : String) : Prop where
  program : ∃ p, program = some p ∧ p.executable = true ∧ p.owner = BPF_LOADER_UPGRADEABLE_ID ∧
    p.data.length = 36 ∧ String.ofList (base58Encode (slice p.data 4 36)) = expectedProgramData
  programData : ∃ d, programData = some d ∧ d.owner = BPF_LOADER_UPGRADEABLE_ID ∧
    45 ≤ d.data.length ∧
    (Bytes.byteAt d.data 12 = 0 ∨
      Bytes.byteAt d.data 12 = 1 ∧ ∀ b ∈ slice d.data 13 45, b = 0) ∧
    (bytesToHex (rt.sha256 (d.data.drop 45)) = config.programHash ∨
      bytesToHex (rt.sha256 (trimZeros (d.data.drop 45))) = config.programHash)

/-- A program without a problem is the pinned one. -/
theorem programProblem_ok {rt : SolRuntime} {config : SolRailConfig}
    {program programData : Option WireAccount} {expected : String}
    (h : programProblem rt config program programData expected = .ok ()) :
    ProgramPinned rt config program programData expected := by
  unfold programProblem at h
  simp only [bind_eq_ok, need_eq_ok, require_eq_ok, exists_const] at h
  obtain ⟨p, hProgram, hExecutable, hOwner, hData, hAddress, d, hProgramData, hDataOwner, hLayout,
    hZero, hTag, hHash⟩ := h
  refine ⟨⟨p, hProgram, hExecutable, hOwner, hData.1, ?_⟩,
    ⟨d, hProgramData, hDataOwner, hLayout.1, ?_, hHash⟩⟩
  · cases hText : pubkeyToBase58 (slice p.data 4 36) with
    | error e =>
      rw [hText] at hAddress
      cases hAddress
    | ok text =>
      rw [hText] at hAddress
      rw [← Option.some.inj hAddress]
      exact (pubkeyToBase58_ok hText).2.symm
  · rcases hTag with hNone | hSome
    · exact .inl hNone
    · have hAll := hZero hSome
      rw [List.all_eq_true] at hAll
      exact .inr ⟨hSome, fun b hb => by simpa using hAll b hb⟩

end SwapDesk.Rails
