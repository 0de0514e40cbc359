import SwapDesk.Rails.BtcConfig

/-!
# SwapDesk — the configuration of the EVM rail

`checkEvmRailConfig` of `src/rails/evm-htlc.ts`, and the judgement of a contract by its
code of `src/rails/evm-code-pin.ts`. What comes from the chain library is a parameter.

Main result: `checkEvmRailConfig_ok`, what a checked configuration is.
-/

namespace SwapDesk.Rails.Evm

open Check Desk
open CharClass (isDigit isHex)

/-- The tuple that `locks(hashLock)` returns. -/
structure LocksResult where
  payer : String
  payee : String
  token : String
  amount : Int
  claimByMs : Int
  refundAfterMs : Int
  status : Int
deriving DecidableEq, Repr

/-- What the EVM reader uses besides the runtime. -/
structure EvmRuntime extends Runtime where
  /-- `isAddress(value, { strict: false })` -/
  isAddress : String → Bool
  /-- `isAddressEqual`; an error when it throws, with the message. -/
  isAddressEqual : String → String → Except String Bool
  /-- `hexToNumber`; `none` when it throws. -/
  hexToNumber : String → Option Int
  /-- `encodeFunctionData` of `locks(hashLock)`. -/
  encodeLocksCall : String → String
  /-- `decodeFunctionResult` of `locks`; `none` when it throws. -/
  decodeLocksResult : Option Json → Option LocksResult
  keccak256 : String → String

/-! ## Texts -/

/-- `0x`, and as many hexadecimal digits as the length asks for. -/
def hexText (value : String) (lengthOk : Nat → Bool) : Bool :=
  match value.toList with
  | '0' :: 'x' :: digits => lengthOk digits.length && digits.all isHex
  | _ => false

/-- `/^0x[0-9a-fA-F]{40}$/` -/
def HEX_ADDRESS (value : String) : Bool := hexText value (· = 40)

/-- `/^0x[0-9a-fA-F]{64}$/` -/
def CODE_HASH_SHAPE (value : String) : Bool := hexText value (· = 64)

/-- `/^0x(?:[0-9a-fA-F]{2})*$/` -/
def HEX_BYTES (value : String) : Bool := hexText value (· % 2 = 0)

/-! ## Pins -/

inductive EvmFinality where
  | tag (tag : String) (fallbackConfirmations : Option Int)
  | confirmations (confirmations : Int)
deriving DecidableEq, Repr

structure EvmChainPin where
  chainId : Int
  name : String
  caip2 : String
  finality : EvmFinality
deriving DecidableEq, Repr

def BASE_SEPOLIA_CHAIN_ID : Int := 84532

def ANVIL_LOCAL_PIN : EvmChainPin := ⟨31337, "anvil-local", "eip155:31337", .tag "finalized" none⟩

def BASE_SEPOLIA_PIN : EvmChainPin :=
  ⟨BASE_SEPOLIA_CHAIN_ID, "base-sepolia", "eip155:84532", .tag "finalized" none⟩

def CANONICAL_PIN_NAMES : List (Int × String) :=
  [(31337, "anvil-local"), (BASE_SEPOLIA_CHAIN_ID, "base-sepolia")]

/-- `ALLOWED_CHAIN_IDS` -/
def EVM_ALLOWED_CHAIN_IDS : List Int := [31337, BASE_SEPOLIA_CHAIN_ID]

/-- Chains that a refusal names. -/
def MAINNET_DENY_LIST : List (Int × String) :=
  [(1, "ethereum mainnet"), (8453, "base mainnet"), (10, "op mainnet"), (42161, "arbitrum one"),
    (137, "polygon pos"), (56, "bnb smart chain"), (43114, "avalanche c-chain")]

def BASE_MAINNET_USDC : String := "0x833589fCD6eDb6E08f4c7C32D4f71b54bdA02913"

/-! ## The configuration -/

structure EvmRailConfig where
  pin : EvmChainPin
  endpoint : String
  contract : String
  assets : List (String × String)
  receiptTimeoutMs : Option Int
  contractCodeHash : Option String
  maxLogRange : Option Int
  maxFeePerGasWei : Option Int
deriving DecidableEq, Repr

def MAX_RECEIPT_TIMEOUT_MS : Int := 86400000

def BASE_SEPOLIA_MIN_RECEIPT_TIMEOUT_MS : Int := 10000

def BASE_SEPOLIA_MAX_RECEIPT_TIMEOUT_MS : Int := 3600000

def BASE_SEPOLIA_MIN_MAX_FEE_PER_GAS_WEI : Int := 1000000000

def EVM_MIN_LOG_RANGE : Int := 257

def MAX_SAFE_INTEGER : Int := 9007199254740991

/-- A fee ceiling, as a number or as a text of decimal digits. -/
def maxFeePerGasWeiOf : Json → Option Int
  | .num (.int n) => if 0 < n ∧ n ≤ MAX_SAFE_INTEGER then some n else none
  | .str text =>
    let digits := text.toList
    if 1 ≤ digits.length ∧ digits.length ≤ 40 ∧ digits.all isDigit = true ∧ digits.head? ≠ some '0'
    then some (decimal digits)
    else none
  | _ => none

def assetEntries : List (String × Json) → Except String (List (String × String))
  | [] => .ok []
  | (asset, address) :: rest => do
    let address ← need (address.asText?.filter HEX_ADDRESS)
      ("evm rail config: " ++ (if ASSET_NAME_SHAPE asset then "assets[\"" ++ asset ++ "\"]"
        else UNPLAIN_ASSET_NAME) ++ " must be a 0x-address")
    let rest ← assetEntries rest
    return (asset, address) :: rest

def evmFinality (finality : Json) : Except String EvmFinality :=
  match finality.text? "mode" with
  | some "tag" => do
    require (finality.text? "tag" = some "finalized")
      "evm rail config: pin.finality.tag must be \"finalized\""
    let fallback ← need
      (optional finality "fallbackConfirmations" fun value => value.asInt?.filter (0 < ·))
      "evm rail config: pin.finality.fallbackConfirmations must be a positive integer"
    return .tag "finalized" fallback
  | some "confirmations" => do
    let confirmations ← need ((finality.int? "confirmations").filter (0 < ·))
      "evm rail config: pin.finality.confirmations must be a positive integer"
    return .confirmations confirmations
  | _ => .error "evm rail config: pin.finality.mode must be \"tag\" or \"confirmations\""

/-- The checks of `evmRailConfigShapeReason`; a value that passes them is read as the configuration
it then is. -/
def evmRailConfigShape (rt : Runtime) (value : Option Json) : Except String EvmRailConfig := do
  let v ← need (value.filter Json.isContainer) "evm rail config is not an object"
  let pin ← need (v.container? "pin") "evm rail config: pin is not an object"
  let chainId ← need ((pin.int? "chainId").filter (0 < ·))
    "evm rail config: pin.chainId must be a positive integer"
  let name ← need (nonEmptyText? pin "name")
    "evm rail config: pin.name must be a non-empty string"
  let caip2 ← need (pin.text? "caip2") "evm rail config: pin.caip2 must be a string"
  let derived := "eip155:" ++ rt.intText chainId
  require (caip2 = derived)
    ("evm rail config: pin.caip2 " ++
      ((quotedPinText caip2).getD ("is " ++ UNPLAIN_PIN_TEXT ++ " and")) ++
      " does not match pin.chainId " ++ rt.intText chainId ++ " (expected \"" ++ derived ++ "\")")
  let finality ← need (pin.container? "finality") "evm rail config: pin.finality is not an object"
  let finality ← evmFinality finality
  let endpoint ← need (nonEmptyText? v "endpoint")
    "evm rail config: endpoint must be a non-empty string"
  let contract ← need ((v.text? "contract").filter HEX_ADDRESS)
    "evm rail config: contract must be a 0x-address"
  let assets ← need ((v.field? "assets").filter Json.isObject)
    "evm rail config: assets must be an object"
  let assets ← assetEntries (match assets with | .obj fields => fields | _ => [])
  let receiptTimeoutMs ← need
    (optional v "receiptTimeoutMs" fun value =>
      value.asInt?.filter fun n => 0 < n && n ≤ MAX_RECEIPT_TIMEOUT_MS)
    ("evm rail config: receiptTimeoutMs must be a positive integer of at most " ++
      rt.intText MAX_RECEIPT_TIMEOUT_MS)
  let contractCodeHash ← need
    (optional v "contractCodeHash" fun value => value.asText?.filter CODE_HASH_SHAPE)
    ("evm rail config: contractCodeHash must be 0x followed by 64 hex digits (the keccak256 of " ++
      "the escrow's runtime code)")
  let maxLogRange ← need
    (optional v "maxLogRange" fun value =>
      value.asInt?.filter fun n => 0 < n && n ≤ MAX_SAFE_INTEGER)
    "evm rail config: maxLogRange must be a positive integer"
  refute (maxLogRange.filter (· < EVM_MIN_LOG_RANGE)) fun n =>
    "evm rail config: maxLogRange must be at least " ++ rt.intText EVM_MIN_LOG_RANGE ++
      " (the 256-block claim marker margin must fit in one eth_getLogs call), got " ++ rt.intText n
  let maxFeePerGasWei ← need (optional v "maxFeePerGasWei" maxFeePerGasWeiOf)
    ("evm rail config: maxFeePerGasWei must be a positive integer (a number, or a string of " ++
      "decimal digits without leading zeros)")
  return ⟨⟨chainId, name, caip2, finality⟩, endpoint, contract, assets, receiptTimeoutMs,
    contractCodeHash, maxLogRange, maxFeePerGasWei⟩

/-- No asset is the one token that holds real value. -/
def checkAssets (rt : EvmRuntime) : List (String × String) → Except String Unit
  | [] => .ok ()
  | (asset, address) :: rest => do
    let same ← rt.isAddressEqual address BASE_MAINNET_USDC
    require (same = false)
      ("evm-htlc: " ++ (if ASSET_NAME_SHAPE asset then "asset \"" ++ asset ++ "\""
        else UNPLAIN_ASSET_NAME) ++ " resolves to Base mainnet USDC (" ++ BASE_MAINNET_USDC ++
        "); refusing to configure it (D-09)")
    checkAssets rt rest

def validateFinality : EvmFinality → Except String Unit
  | .confirmations n => require (0 < n) "evm-htlc: confirmations must be a positive integer"
  | .tag _ fallback => require (∀ n ∈ fallback, 0 < n)
      "evm-htlc: fallbackConfirmations must be a positive integer"

/-- What a Base Sepolia configuration may not set loosely. -/
def validateBaseSepoliaKnobs (rt : Runtime) (config : EvmRailConfig) : Except String Unit := do
  let chain := rt.intText BASE_SEPOLIA_CHAIN_ID
  match config.pin.finality with
  | .confirmations _ => .error ("evm-htlc: base-sepolia (" ++ chain ++ ") must pin finality to " ++
      "the finalized tag: confirmations mode is refused there (every final read, and the Buyer's "
      ++ "permanent never-locked verdict, must rest on the chain's own finalized block, never on a "
      ++ "block a fixed number of confirmations below the head)")
  | .tag _ fallback => require (fallback = none) ("evm-htlc: base-sepolia (" ++ chain ++
      ") must pin finality to the finalized tag with no fallbackConfirmations: a block a fixed " ++
      "number of confirmations below the head is not a final one")
  refute (config.receiptTimeoutMs.filter fun n =>
      n < BASE_SEPOLIA_MIN_RECEIPT_TIMEOUT_MS || BASE_SEPOLIA_MAX_RECEIPT_TIMEOUT_MS < n) fun n =>
    "evm-htlc: receiptTimeoutMs " ++ rt.intText n ++ " is outside " ++
      rt.intText BASE_SEPOLIA_MIN_RECEIPT_TIMEOUT_MS ++ " to " ++
      rt.intText BASE_SEPOLIA_MAX_RECEIPT_TIMEOUT_MS ++
      " ms, the range allowed on base-sepolia (" ++ chain ++ ")"
  refute (config.maxFeePerGasWei.filter (· < BASE_SEPOLIA_MIN_MAX_FEE_PER_GAS_WEI)) fun n =>
    "evm-htlc: maxFeePerGasWei " ++ rt.intText n ++ " is below the " ++
      rt.intText BASE_SEPOLIA_MIN_MAX_FEE_PER_GAS_WEI ++ " wei (1 gwei) floor on base-sepolia (" ++
      chain ++ "): a ceiling under the chain's own fee would refuse every write"

def validateEvmRailConfig (rt : EvmRuntime) (config : EvmRailConfig) : Except String Unit := do
  let pin := config.pin
  require (pin.chainId ∈ EVM_ALLOWED_CHAIN_IDS)
    ("evm-htlc: chain id " ++ rt.intText pin.chainId ++
      " is not on the allow list (31337 anvil-local, 84532 base-sepolia only)" ++
      (match MAINNET_DENY_LIST.lookup pin.chainId with
        | some name => "; " ++ rt.intText pin.chainId ++ " is " ++ name
        | none => ""))
  refute ((CANONICAL_PIN_NAMES.lookup pin.chainId).filter (pin.name ≠ ·)) fun name =>
    "evm-htlc: chain id " ++ rt.intText pin.chainId ++ " must be pinned as \"" ++ name ++
      "\", got " ++ quotedPinTextOrPlaceholder pin.name
  require (pin.chainId = BASE_SEPOLIA_CHAIN_ID → config.contractCodeHash ≠ none)
    ("evm-htlc: a base-sepolia (" ++ rt.intText BASE_SEPOLIA_CHAIN_ID ++
      ") config must carry contractCodeHash, the keccak256 of the escrow's runtime code " ++
      "(bin/evm-code-hash.mjs prints it for the deployed contract); refusing to trust a contract "
      ++ "by its address alone")
  checkAssets rt config.assets
  validateFinality pin.finality
  if pin.chainId = BASE_SEPOLIA_CHAIN_ID then validateBaseSepoliaKnobs rt.toRuntime config

def checkEvmRailConfig (rt : EvmRuntime) (value : Option Json) : Except String EvmRailConfig := do
  let config ← evmRailConfigShape rt.toRuntime value
  validateEvmRailConfig rt config
  return config

/-- A checked configuration is for one of two chains, under that chain's name, and one for Base
Sepolia pins the code of its contract. -/
theorem checkEvmRailConfig_ok {rt : EvmRuntime} {value : Option Json} {config : EvmRailConfig}
    (h : checkEvmRailConfig rt value = .ok config) :
    (config.pin.chainId, config.pin.name) ∈ CANONICAL_PIN_NAMES ∧
      (config.pin.chainId = BASE_SEPOLIA_CHAIN_ID → config.contractCodeHash ≠ none) := by
  unfold checkEvmRailConfig at h
  simp only [bind_eq_ok] at h
  obtain ⟨checked, -, u, hValid, h⟩ := h
  obtain rfl := Except.ok.inj h
  unfold validateEvmRailConfig at hValid
  simp only [bind_eq_ok, require_eq_ok, refute_eq_ok, exists_const] at hValid
  obtain ⟨hAllowed, hNamed, hPinned, -⟩ := hValid
  refine ⟨?_, hPinned⟩
  unfold EVM_ALLOWED_CHAIN_IDS at hAllowed
  have hName : ∀ name, CANONICAL_PIN_NAMES.lookup checked.pin.chainId = some name →
      checked.pin.name = name := by
    intro name hLookup
    rw [hLookup] at hNamed
    simpa using hNamed
  rcases List.mem_pair.mp hAllowed with hChain | hChain
  · rw [hName "anvil-local" (by rw [hChain]; rfl), hChain]
    exact List.mem_cons_self ..
  · rw [hName "base-sepolia" (by rw [hChain]; rfl), hChain]
    exact List.mem_cons_of_mem _ (List.mem_cons_self ..)

/-! ## The code of a contract -/

inductive RuntimeCodeVerdict where
  | ok (observed : String) (bytes : Nat)
  | malformed
  | empty
  | mismatch (observed : String) (bytes : Nat)
deriving DecidableEq, Repr

/-- What an answer to `eth_getCode` says, against the pinned hash. -/
def judgeRuntimeCode (rt : EvmRuntime) (result : Option Json) (pinned : String) :
    RuntimeCodeVerdict :=
  match (result.bind Json.asText?).filter HEX_BYTES with
  | none => .malformed
  | some code =>
    if code.toList.length = 2 then .empty
    else
      let observed := rt.keccak256 code
      let bytes := (code.toList.length - 2) / 2
      if toLowerCase observed = toLowerCase pinned then .ok observed bytes
      else .mismatch observed bytes

def PINNED_HASH_SHOWN_CHARS : Nat := 10

def shortPinnedHash (pinned : String) : String :=
  String.ofList ((toLowerCase pinned).toList.take PINNED_HASH_SHOWN_CHARS) ++ "..."

/-- Why the code is not trusted, if it is not. -/
def describeCodeProblem (rt : EvmRuntime) (verdict : RuntimeCodeVerdict)
    (contract pinned : String) : Option String :=
  let expected := shortPinnedHash pinned
  match verdict with
  | .ok _ _ => none
  | .empty => some ("no code at " ++ contract ++
      " (eth_getCode returned 0x), so it cannot be the pinned contractCodeHash " ++ expected)
  | .malformed => some ("eth_getCode for " ++ contract ++
      " did not return hex bytes, so the pinned contractCodeHash " ++ expected ++
      " cannot be checked")
  | .mismatch observed bytes => some ("the " ++ rt.intText bytes ++ " bytes of code at " ++
      contract ++ " hash to " ++ toLowerCase observed ++ ", not the pinned contractCodeHash " ++
      expected)

end SwapDesk.Rails.Evm
