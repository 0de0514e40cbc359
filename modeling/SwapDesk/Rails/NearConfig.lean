import SwapDesk.Lib.Json
import SwapDesk.Rails.NearRef

/-!
# SwapDesk — the configuration of the NEAR rail

`checkNearRailConfig` of `src/rails/near-htlc.ts`: a configuration may come from a
file nobody vouches for, so its shape is checked field by field, and only two pins
are accepted. Texts a refusal may quote follow `src/rails/pin-text.ts`.

Main result: `checkNearRailConfig_ok`, what a checked configuration is.
-/

namespace SwapDesk.Rails

open Check Desk
open CharClass (isAlphanumeric isDigit)

/-! ## Texts a refusal may quote -/

/-- `/^[A-Za-z0-9:_.-]{1,40}$/` -/
def PIN_TEXT_SHAPE (text : String) : Bool :=
  1 ≤ text.toList.length && text.toList.length ≤ 40 &&
    text.toList.all fun c => isAlphanumeric c || c == ':' || c == '_' || c == '.' || c == '-'

def UNPLAIN_PIN_TEXT : String := "a pin name (or caip2) that is not a short plain text"

def quotedPinText (text : String) : Option String :=
  if PIN_TEXT_SHAPE text then some ("\"" ++ text ++ "\"") else none

def quotedPinTextOrPlaceholder (text : String) : String :=
  (quotedPinText text).getD UNPLAIN_PIN_TEXT

def PINNED_VALUE_SHOWN_CHARS : Nat := 8

/-- `/^[A-Za-z0-9]{16,128}$/` -/
def PINNED_VALUE_SHAPE (text : String) : Bool :=
  16 ≤ text.toList.length && text.toList.length ≤ 128 && text.toList.all isAlphanumeric

def UNPLAIN_PINNED_VALUE : String := "a pinned value that is not a hash"

/-- A pinned hash has the shape of a key, so it is never shown in full. -/
def shortPinnedValue (text : Option String) : String :=
  match text.filter PINNED_VALUE_SHAPE with
  | some text => "\"" ++ String.ofList (text.toList.take PINNED_VALUE_SHOWN_CHARS) ++ "...\""
  | none => UNPLAIN_PINNED_VALUE

/-! ## Pins -/

structure NearChainPin where
  name : String
  chainId : String
  caip2 : String
deriving DecidableEq, Repr

def NEAR_SANDBOX_PIN : NearChainPin :=
  ⟨"near-sandbox", "near-sandbox-flop", "near:near-sandbox-flop"⟩

def NEAR_TESTNET_PIN : NearChainPin := ⟨"near-testnet-UNVERIFIED", "testnet", "near:testnet"⟩

def ALLOWED_CHAIN_IDS : List String := ["near-sandbox-flop", "testnet"]
def DENY_CHAIN_NAMES : List String := ["mainnet"]
def KNOWN_PINS : List NearChainPin := [NEAR_SANDBOX_PIN, NEAR_TESTNET_PIN]

def knownPinFor (chainId : String) : Option NearChainPin :=
  KNOWN_PINS.find? fun pin => pin.chainId = chainId

/-- Prints a denied name from the list itself, never the text it was given. -/
def refusedByName (chainId : String) : String :=
  match DENY_CHAIN_NAMES.find? (· = chainId) with
  | some name => "; refusing " ++ name ++ " by name"
  | none => ""

/-! ## The configuration -/

def NEAR_ASSET_ID : String := "USDC"

/-- `assets.USDC`. -/
structure NearAssets where
  USDC : String
deriving DecidableEq, Repr

structure NearRailConfig where
  pin : NearChainPin
  endpoint : String
  contract : String
  assets : NearAssets
  /-- Optional in the type; a configuration that was checked has one. -/
  htlcCodeHash : Option String
deriving DecidableEq, Repr

/-- A text that is not empty. -/
def nonEmptyText? (v : Json) (key : String) : Option String := (v.text? key).filter (· ≠ "")

theorem nonEmptyText?_eq_some {v : Json} {key s : String} (h : nonEmptyText? v key = some s) :
    v.field? key = some (.str s) :=
  Json.text?_eq_some.mp (Option.filter_eq_some_iff.mp h).1

/-- The checks of `nearRailConfigShapeReason`; a value that passes them is read as the
configuration it then is. -/
def nearRailConfigShape (value : Option Json) : Except String NearRailConfig := do
  let v ← need (value.filter Json.isContainer) "near rail config is not an object"
  let pin ← need (v.container? "pin") "near rail config: pin is not an object"
  let name ← need (nonEmptyText? pin "name")
    "near rail config: pin.name must be a non-empty string"
  let chainId ← need (nonEmptyText? pin "chainId")
    "near rail config: pin.chainId must be a non-empty string"
  require (pin.text? "caip2" = some ("near:" ++ chainId))
    "near rail config: pin.caip2 must be \"near:<chainId>\""
  require (pin.text? "finality" = some "final")
    "near rail config: pin.finality must be \"final\""
  let endpoint ← need (nonEmptyText? v "endpoint")
    "near rail config: endpoint must be a non-empty string"
  let contract ← need ((v.text? "contract").filter NEAR_ACCOUNT_ID)
    "near rail config: contract must be a valid NEAR account id"
  let assets ← need ((v.field? "assets").filter Json.isObject)
    "near rail config: assets must be an object"
  let usdc ← need ((assets.text? "USDC").filter NEAR_ACCOUNT_ID)
    "near rail config: assets.USDC must be a valid NEAR account id"
  let htlcCodeHash ← need (nonEmptyText? v "htlcCodeHash")
    ("near rail config: htlcCodeHash must be a non-empty string " ++
      "(H6: the pinned contract code hash)")
  return ⟨⟨name, chainId, "near:" ++ chainId⟩, endpoint, contract, ⟨usdc⟩, some htlcCodeHash⟩

def validateNearRailConfig (config : NearRailConfig) : Except String Unit := do
  require (config.pin.chainId ∈ ALLOWED_CHAIN_IDS)
    ("near-htlc: chain id " ++ quotedPinTextOrPlaceholder config.pin.chainId ++
      " is not on the allow list (near-sandbox-flop, testnet only)" ++
      refusedByName config.pin.chainId)
  let known ← need (knownPinFor config.pin.chainId)
    ("near-htlc: chain id " ++ quotedPinTextOrPlaceholder config.pin.chainId ++
      " does not match any known pin (near-sandbox, near-testnet-UNVERIFIED)")
  require (config.pin.name = known.name)
    ("near-htlc: pin.name " ++ quotedPinTextOrPlaceholder config.pin.name ++
      " does not match the known pin's own name \"" ++ known.name ++ "\" for this chain id")

def checkNearRailConfig (value : Option Json) : Except String NearRailConfig := do
  let config ← nearRailConfigShape value
  validateNearRailConfig config
  return config

/-- A known pin is found under its own chain id. -/
theorem knownPinFor_eq_some {chainId : String} {pin : NearChainPin}
    (h : knownPinFor chainId = some pin) : pin ∈ KNOWN_PINS ∧ pin.chainId = chainId := by
  unfold knownPinFor at h
  exact ⟨List.mem_of_find?_eq_some h, by simpa using List.find?_some h⟩

/-- A known pin's namespace is that of its chain id. -/
theorem caip2_of_known {pin : NearChainPin} (h : pin ∈ KNOWN_PINS) :
    pin.caip2 = "near:" ++ pin.chainId := by
  simp only [KNOWN_PINS, List.mem_cons, List.not_mem_nil, or_false] at h
  rcases h with rfl | rfl <;> decide

/-- A checked configuration is on a known pin, names its contract and its token by
account ids, and has a code hash. -/
theorem checkNearRailConfig_ok {value : Option Json} {config : NearRailConfig}
    (h : checkNearRailConfig value = .ok config) :
    config.pin ∈ KNOWN_PINS ∧ NEAR_ACCOUNT_ID config.contract = true ∧
      NEAR_ACCOUNT_ID config.assets.USDC = true ∧ config.htlcCodeHash.isSome = true := by
  unfold checkNearRailConfig at h
  simp only [bind_eq_ok] at h
  obtain ⟨config', hshape, u, hvalid, h⟩ := h
  obtain rfl := Except.ok.inj h
  unfold validateNearRailConfig at hvalid
  simp only [require_bind_eq_ok, need_bind_eq_ok, require_eq_ok] at hvalid
  obtain ⟨-, known, hknown, hname⟩ := hvalid
  obtain ⟨hmem, hchain⟩ := knownPinFor_eq_some hknown
  unfold nearRailConfigShape at hshape
  simp only [require_bind_eq_ok, need_bind_eq_ok] at hshape
  obtain ⟨v, -, pin, -, name, -, chainId, -, -, -, endpoint, -, contract, hcontract, assets, -,
    usdc, husdc, codeHash, -, h⟩ := hshape
  obtain rfl := Except.ok.inj h
  refine ⟨?_, (Option.filter_eq_some_iff.mp hcontract).2, (Option.filter_eq_some_iff.mp husdc).2,
    rfl⟩
  -- the namespace is checked against the chain id, the name against the known pin
  dsimp only at hname hchain ⊢
  rw [hname, ← hchain, ← caip2_of_known hmem]
  exact hmem

end SwapDesk.Rails
