import SwapDesk.Rails.SolKeys

/-!
# SwapDesk — the configuration of the Solana rail

`checkSolRailConfig` and `solGenesisProblem` of `src/rails/sol-htlc.ts`. The reader
runs the same check on the auditor's configuration and on the captured one.

Main results:

* `checkSolRailConfig_ok`, what a checked configuration is;
* `solGenesisProblem_eq_none`, which chains a genesis hash admits.
-/

namespace SwapDesk.Rails

open Check Desk
open CharClass (isAlphanumeric isHexLower)

def SOL_ASSET_ID : String := "USDC"

def SOL_HTLC_PROGRAM_ID : String := "GedsjashYAxaoETcwBZQR1YgBbuEaK8QiiKu2qi6xe6C"

/-! ## Pins -/

structure SolChainPin where
  name : String
  caip2 : String
  commitment : String
deriving DecidableEq, Repr

def SOL_LOCAL_PIN : SolChainPin := ⟨"solana-localnet-flop", "solana:localnet-flop", "finalized"⟩

def SOL_DEVNET_PIN : SolChainPin :=
  ⟨"solana-devnet-UNVERIFIED", "solana:EtWTRABZaYq6iMfeYKouRu166VU2xqa1", "finalized"⟩

def MAINNET_GENESIS_PREFIX : String := "5eykt4UsFv8P8NJdTREpY1vzqKqZKvdp"
def TESTNET_GENESIS_PREFIX : String := "4uhcVJyU9pJkvQyS88uRDiswHXSCkY3z"
def DEVNET_GENESIS_PREFIX : String := "EtWTRABZaYq6iMfeYKouRu166VU2xqa1"

def PUBLIC_GENESIS_PREFIXES : List String :=
  [MAINNET_GENESIS_PREFIX, TESTNET_GENESIS_PREFIX, DEVNET_GENESIS_PREFIX]

def SOL_KNOWN_PINS : List SolChainPin := [SOL_LOCAL_PIN, SOL_DEVNET_PIN]

/-- `pin.caip2.slice("solana:".length)` -/
def pinReference (pin : SolChainPin) : String := sliceFrom pin.caip2 7

/-- `text.slice(0, n)` -/
def sliceTo (text : String) (n : Nat) : String := String.ofList (text.toList.take n)

/-- Why a genesis hash does not belong to the pin's chain. -/
def solGenesisProblem (pin : SolChainPin) (genesis : String) : Option String :=
  let genesisPrefix := sliceTo genesis 32
  if genesisPrefix = MAINNET_GENESIS_PREFIX then
    some "sol-htlc: this endpoint is mainnet (genesis hash); refusing by genesis"
  else if pin.caip2 = SOL_LOCAL_PIN.caip2 then
    if genesisPrefix ∈ PUBLIC_GENESIS_PREFIXES then
      some ("sol-htlc: pin " ++ quotedPinTextOrPlaceholder pin.name ++
        " is a local validator but the endpoint reports a public cluster's genesis hash")
    else none
  else if genesisPrefix ≠ pinReference pin then
    some ("sol-htlc: connected genesis \"" ++ genesis ++ "\" does not match pin " ++
      quotedPinTextOrPlaceholder pin.name ++ " (expected reference " ++
      quotedPinTextOrPlaceholder (pinReference pin) ++ ")")
  else none

/-- The genesis hash is not mainnet's. A local chain's is of no public cluster, and any other
chain's starts with the reference of its pin. -/
theorem solGenesisProblem_eq_none {pin : SolChainPin} {genesis : String}
    (h : solGenesisProblem pin genesis = none) :
    sliceTo genesis 32 ≠ MAINNET_GENESIS_PREFIX ∧
      (pin.caip2 = SOL_LOCAL_PIN.caip2 → sliceTo genesis 32 ∉ PUBLIC_GENESIS_PREFIXES) ∧
      (pin.caip2 ≠ SOL_LOCAL_PIN.caip2 → sliceTo genesis 32 = pinReference pin) := by
  unfold solGenesisProblem at h
  dsimp only at h
  split_ifs at h with hMainnet hLocal hPublic hReference
  · exact ⟨hMainnet, fun _ => hPublic, fun hNot => absurd hLocal hNot⟩
  · exact ⟨hMainnet, fun hIs => absurd hIs hLocal, fun _ => not_not.mp hReference⟩

/-! ## The configuration -/

/-- `assets.USDC`. -/
structure SolAssets where
  USDC : String
deriving DecidableEq, Repr

structure SolRailConfig where
  pin : SolChainPin
  endpoint : String
  programId : String
  programHash : String
  assets : SolAssets
deriving DecidableEq, Repr

/-- `/^solana:[-a-zA-Z0-9]{1,32}$/` -/
def SOL_CAIP2_SHAPE (text : String) : Bool :=
  sliceTo text 7 = "solana:" && 8 ≤ text.toList.length && text.toList.length ≤ 39 &&
    (text.toList.drop 7).all fun c => isAlphanumeric c || c == '-'

/-- `/^[0-9a-f]{64}$/` -/
def HEX64 (text : String) : Bool :=
  text.toList.length = 64 && text.toList.all isHexLower

/-- The checks of `solRailConfigShapeReason`; a value that passes them is read as the
configuration it then is. -/
def solRailConfigShape (value : Option Json) : Except String SolRailConfig := do
  let v ← need (value.filter Json.isContainer) "sol rail config is not an object"
  let pin ← need (v.container? "pin") "sol rail config: pin is not an object"
  let name ← need (nonEmptyText? pin "name")
    "sol rail config: pin.name must be a non-empty string"
  let caip2 ← need ((pin.text? "caip2").filter SOL_CAIP2_SHAPE)
    "sol rail config: pin.caip2 must be \"solana:<reference>\""
  require (pin.text? "commitment" = some "finalized")
    "sol rail config: pin.commitment must be \"finalized\""
  let endpoint ← need (nonEmptyText? v "endpoint")
    "sol rail config: endpoint must be a non-empty string"
  let programId ← need ((v.text? "programId").filter isValidPubkeyBase58)
    "sol rail config: programId must be a base58 public key"
  let programHash ← need ((v.text? "programHash").filter HEX64)
    ("sol rail config: programHash must be 64 lowercase hex characters " ++
      "(sha256 of the reviewed .so)")
  let assets ← need ((v.field? "assets").filter Json.isObject)
    "sol rail config: assets must be an object"
  let usdc ← need ((assets.text? "USDC").filter isValidPubkeyBase58)
    "sol rail config: assets.USDC must be a base58 mint address"
  return ⟨⟨name, caip2, "finalized"⟩, endpoint, programId, programHash, ⟨usdc⟩⟩

/-- Names the main network, in any case. -/
def namesMainnet (text : String) : Bool :=
  (text.toList.map Char.toLower).tails.any fun rest => "mainnet".toList.isPrefixOf rest

def isMainnetish (pin : SolChainPin) : Bool :=
  namesMainnet pin.name || namesMainnet pin.caip2 ||
    pin.caip2 = "solana:" ++ MAINNET_GENESIS_PREFIX

def solReservedAddresses : List String :=
  [SYSTEM_PROGRAM_ID, TOKEN_PROGRAM_ID, ASSOCIATED_TOKEN_PROGRAM_ID, BPF_LOADER_UPGRADEABLE_ID,
    SOL_HTLC_PROGRAM_ID]

def validateSolRailConfig (config : SolRailConfig) : Except String Unit := do
  require (isMainnetish config.pin = false)
    "sol-htlc: refusing mainnet by name (this build never touches mainnet)"
  let known ← need (SOL_KNOWN_PINS.find? fun pin => pin.caip2 = config.pin.caip2)
    ("sol-htlc: chain " ++ quotedPinTextOrPlaceholder config.pin.caip2 ++
      " is not on the allow list (" ++ ", ".intercalate (SOL_KNOWN_PINS.map (·.caip2)) ++ " only)")
  require (config.pin.name = known.name)
    ("sol-htlc: pin.name " ++ quotedPinTextOrPlaceholder config.pin.name ++
      " does not match the known pin's own name \"" ++ known.name ++ "\" for this chain")
  require (config.programId = SOL_HTLC_PROGRAM_ID)
    ("sol-htlc: programId must be the fixed keyless id " ++ SOL_HTLC_PROGRAM_ID ++
      " (the program refuses to run under any other id)")
  require (config.assets.USDC ∉ solReservedAddresses)
    "sol-htlc: assets.USDC must be a mint address, not a program id"

def checkSolRailConfig (value : Option Json) : Except String SolRailConfig := do
  let config ← solRailConfigShape value
  validateSolRailConfig config
  return config

/-- The configuration as a value to check. -/
def SolRailConfig.toJson (config : SolRailConfig) : Json :=
  .obj
    [("pin", .obj [("name", .str config.pin.name), ("caip2", .str config.pin.caip2),
        ("commitment", .str config.pin.commitment)]),
     ("endpoint", .str config.endpoint), ("programId", .str config.programId),
     ("programHash", .str config.programHash),
     ("assets", .obj [("USDC", .str config.assets.USDC)])]

/-- A configuration that passes its own check is read back as it is. -/
theorem checkSolRailConfig_toJson {config trusted : SolRailConfig}
    (h : checkSolRailConfig (some config.toJson) = .ok trusted) : trusted = config := by
  unfold checkSolRailConfig at h
  simp only [bind_eq_ok] at h
  obtain ⟨checked, hShape, u, -, h⟩ := h
  obtain rfl := Except.ok.inj h
  unfold solRailConfigShape at hShape
  simp only [bind_eq_ok, require_eq_ok, need_eq_ok, exists_const] at hShape
  obtain ⟨v, hv, pin, hPin, name, hName, caip2, hCaip2, hCommitment, endpoint, hEndpoint, programId,
    hProgramId, programHash, hProgramHash, assets, hAssets, usdc, hUsdc, h⟩ := hShape
  obtain rfl := Except.ok.inj h
  obtain rfl := Option.some.inj (Option.filter_eq_some_iff.mp hv).1
  obtain rfl := Option.some.inj (Option.filter_eq_some_iff.mp hPin).1
  obtain rfl := Option.some.inj (Option.filter_eq_some_iff.mp hAssets).1
  obtain rfl := Option.some.inj (Option.filter_eq_some_iff.mp hName).1
  obtain rfl := Option.some.inj (Option.filter_eq_some_iff.mp hCaip2).1
  obtain rfl := Option.some.inj (Option.filter_eq_some_iff.mp hEndpoint).1
  obtain rfl := Option.some.inj (Option.filter_eq_some_iff.mp hProgramId).1
  obtain rfl := Option.some.inj (Option.filter_eq_some_iff.mp hProgramHash).1
  obtain rfl := Option.some.inj (Option.filter_eq_some_iff.mp hUsdc).1
  have hFinalized : config.pin.commitment = "finalized" := Option.some.inj hCommitment
  obtain ⟨⟨pinName, pinCaip2, commitment⟩, endpoint, programId, programHash, ⟨usdc⟩⟩ := config
  obtain rfl : commitment = "finalized" := hFinalized
  rfl

/-- A checked configuration names the fixed program and is on a known pin by its chain and
its name. -/
theorem checkSolRailConfig_ok {value : Option Json} {config : SolRailConfig}
    (h : checkSolRailConfig value = .ok config) :
    config.pin ∈ SOL_KNOWN_PINS ∧ config.programId = SOL_HTLC_PROGRAM_ID ∧
      isValidPubkeyBase58 config.assets.USDC = true := by
  unfold checkSolRailConfig at h
  simp only [bind_eq_ok] at h
  obtain ⟨checked, hShape, u, hValid, h⟩ := h
  obtain rfl := Except.ok.inj h
  unfold validateSolRailConfig at hValid
  simp only [bind_eq_ok, require_eq_ok, need_eq_ok, exists_const] at hValid
  obtain ⟨-, known, hKnown, hName, hProgram, -⟩ := hValid
  have hMem := List.mem_of_find?_eq_some hKnown
  have hCaip2 : known.caip2 = checked.pin.caip2 := by simpa using List.find?_some hKnown
  unfold solRailConfigShape at hShape
  simp only [bind_eq_ok, require_eq_ok, need_eq_ok, exists_const] at hShape
  obtain ⟨v, -, pin, -, name, -, caip2, -, -, endpoint, -, programId, -, programHash, -, assets, -,
    usdc, hUsdc, h⟩ := hShape
  obtain rfl := Except.ok.inj h
  dsimp only at hName hCaip2 hProgram ⊢
  have hCommitment : known.commitment = "finalized" := by
    simp only [SOL_KNOWN_PINS, List.mem_cons, List.not_mem_nil, or_false] at hMem
    rcases hMem with rfl | rfl <;> rfl
  refine ⟨?_, hProgram, (Option.filter_eq_some_iff.mp hUsdc).2⟩
  rw [hName, ← hCaip2, ← hCommitment]
  exact hMem

end SwapDesk.Rails
