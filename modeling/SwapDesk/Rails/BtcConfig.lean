import SwapDesk.Rails.BtcScript

/-!
# SwapDesk — the configuration of the Bitcoin rail

`checkBtcRailConfig`, `assetIdFor` and `scanWindowFor` of `src/rails/btc-htlc.ts`.

Main result: `checkBtcRailConfig_ok`, what a checked configuration is.
-/

namespace SwapDesk.Rails

open Check Desk
open CharClass (isAlphanumeric isHexLower)

/-! ## Texts -/

/-- `/^[A-Za-z0-9_-]{1,32}$/` -/
def ASSET_NAME_SHAPE (text : String) : Bool :=
  1 ≤ text.toList.length && text.toList.length ≤ 32 &&
    text.toList.all fun c => isAlphanumeric c || c == '_' || c == '-'

def UNPLAIN_ASSET_NAME : String := "an asset whose name is not a short plain name"

def quotedAssetNameOrPlaceholder (text : String) : String :=
  if ASSET_NAME_SHAPE text then "\"" ++ text ++ "\"" else UNPLAIN_ASSET_NAME

/-- `/^[0-9a-f]{64}$/` -/
def GENESIS_HASH_SHAPE (text : String) : Bool :=
  text.toList.length = 64 && text.toList.all isHexLower

/-- `/^bip122:[0-9a-f]{32}$/` -/
def CAIP2_BIP122_SHAPE (text : String) : Bool :=
  text.toList.length = 39 && "bip122:".toList.isPrefixOf text.toList &&
    (text.toList.drop 7).all isHexLower

/-- `/^(?:[0-9a-f]{2}){1,1000}$/` -/
def SIGNET_CHALLENGE_SHAPE (text : String) : Bool :=
  2 ≤ text.toList.length && text.toList.length ≤ 2000 && text.toList.length % 2 = 0 &&
    text.toList.all isHexLower

/-- `/^0[23][0-9a-f]{64}$/` -/
def PUBKEY_SHAPE (value : String) : Bool :=
  match value.toList with
  | '0' :: second :: rest =>
    (second == '2' || second == '3') && rest.length = 64 && rest.all isHexLower
  | _ => false

/-- `text.toLowerCase()`, of an ASCII text. -/
def toLowerCase (text : String) : String := String.ofList (text.toList.map Char.toLower)

/-! ## Pins -/

structure BtcFinality where
  confirmations : Int
deriving DecidableEq, Repr

structure BtcChainPin where
  name : String
  network : String
  caip2 : String
  genesisHash : String
  finality : BtcFinality
  signetChallenge : Option String
deriving DecidableEq, Repr

def BTC_REGTEST_PIN : BtcChainPin where
  name := "btc-regtest"
  network := "regtest"
  caip2 := "bip122:0f9188f13cb7b2c71f2a335e3a4fc328"
  genesisHash := "0f9188f13cb7b2c71f2a335e3a4fc328bf5beb436012afca590b1a11466e2206"
  finality := ⟨1⟩
  signetChallenge := none

def BTC_SIGNET_PIN : BtcChainPin where
  name := "btc-signet-UNVERIFIED"
  network := "signet"
  caip2 := "bip122:00000008819873e925422c1ff0f99f7c"
  genesisHash := "00000008819873e925422c1ff0f99f7cc9bbb232af63a077a480a3633bee1ef6"
  finality := ⟨1⟩
  signetChallenge := some ("512103ad5e0edad18cb1f0fc0d28a3d4f1f3e445640337489abb10404f2d1e086be43"
  ++
    "0210359ef5021964fe22d6f8e05b2463c9540ce96883fe3b278760f048f5189f2e6c452ae")

def ALLOWED_NETWORKS : List String := ["regtest", "signet"]

def BTC_KNOWN_PINS : List BtcChainPin := [BTC_REGTEST_PIN, BTC_SIGNET_PIN]

def btcKnownPinFor (network genesisHash : String) : Option BtcChainPin :=
  BTC_KNOWN_PINS.find? fun pin =>
    pin.network = network && toLowerCase pin.genesisHash = toLowerCase genesisHash

/-! ## The configuration -/

structure BtcRailConfig where
  pin : BtcChainPin
  endpoint : String
  scanWindowBlocks : Option Int
  asset : Option String
deriving DecidableEq, Repr

def BTC_ASSET_ID : String := "BTC"

def assetIdFor (config : BtcRailConfig) : String := config.asset.getD BTC_ASSET_ID

def DEFAULT_SCAN_WINDOW_BLOCKS : Int := 2016

def scanWindowFor (config : BtcRailConfig) : Int :=
  config.scanWindowBlocks.getD DEFAULT_SCAN_WINDOW_BLOCKS

/-- A field that may be left out, and passes the check when it is not. -/
def optional (v : Json) (key : String) {α : Type} (read : Json → Option α) : Option (Option α) :=
  match v.field? key with
  | none => some none
  | some value => (read value).map some

/-- The checks of `btcRailConfigShapeReason`; a value that passes them is read as the
configuration it then is. -/
def btcRailConfigShape (value : Option Json) : Except String BtcRailConfig := do
  let v ← need (value.filter Json.isContainer) "btc rail config is not an object"
  let pin ← need (v.container? "pin") "btc rail config: pin is not an object"
  let name ← need (nonEmptyText? pin "name")
    "btc rail config: pin.name must be a non-empty string"
  let network ← need (nonEmptyText? pin "network")
    "btc rail config: pin.network must be a non-empty string"
  let genesisHash ← need ((pin.text? "genesisHash").filter GENESIS_HASH_SHAPE)
    "btc rail config: pin.genesisHash must be 64 lowercase hex chars"
  let caip2 ← need ((pin.text? "caip2").filter CAIP2_BIP122_SHAPE)
    "btc rail config: pin.caip2 must be \"bip122:<32 lowercase hex chars>\""
  require (caip2 = "bip122:" ++ String.ofList (genesisHash.toList.take 32))
    "btc rail config: pin.caip2 does not match the first 32 hex chars of pin.genesisHash"
  let finality ← need (pin.container? "finality") "btc rail config: pin.finality is not an object"
  let confirmations ← need ((finality.int? "confirmations").filter (0 < ·))
    "btc rail config: pin.finality.confirmations must be a positive integer"
  let signetChallenge ← need
    (optional pin "signetChallenge" fun value => value.asText?.filter SIGNET_CHALLENGE_SHAPE)
    ("btc rail config: pin.signetChallenge must be lowercase hex of an even length when present")
  let endpoint ← need (nonEmptyText? v "endpoint")
    "btc rail config: endpoint must be a non-empty string"
  let scanWindowBlocks ← need
    (optional v "scanWindowBlocks" fun value => value.asInt?.filter (0 < ·))
    "btc rail config: scanWindowBlocks must be a positive integer when present"
  let asset ← need (optional v "asset" fun value => value.asText?.filter ASSET_NAME_SHAPE)
    ("btc rail config: asset must be a short plain name (1 to 32 letters, digits, - and _) " ++
      "when present")
  return ⟨⟨name, network, caip2, genesisHash, ⟨confirmations⟩, signetChallenge⟩, endpoint,
    scanWindowBlocks, asset⟩

def validateBtcRailConfig (config : BtcRailConfig) : Except String Unit := do
  let pin := config.pin
  require (pin.network ∈ ALLOWED_NETWORKS)
    ("btc-htlc: network " ++ quotedPinTextOrPlaceholder pin.network ++
      " is not on the allow list (regtest, signet only)")
  let isPinnedGenesis := BTC_KNOWN_PINS.any fun known =>
    toLowerCase known.genesisHash = toLowerCase pin.genesisHash
  let known ← need (btcKnownPinFor pin.network pin.genesisHash)
    ("btc-htlc: (network " ++ quotedPinTextOrPlaceholder pin.network ++ ", genesisHash " ++
      (if isPinnedGenesis then toLowerCase pin.genesisHash else "not one this build pins") ++
      ") does not match any known pin (btc-regtest, btc-signet-UNVERIFIED)")
  require (pin.name = known.name)
    ("btc-htlc: pin.name " ++ quotedPinTextOrPlaceholder pin.name ++
      " does not match the known pin's own name \"" ++ known.name ++
      "\" for this (network, genesisHash)")
  require (∀ challenge ∈ pin.signetChallenge, known.signetChallenge = some (toLowerCase challenge))
    (match known.signetChallenge with
      | none => "btc-htlc: pin.signetChallenge is not a field of this pin (it has no signet " ++
          "challenge)"
      | some _ => "btc-htlc: pin.signetChallenge is not the signet challenge this build pins for "
          ++ "this (network, genesisHash); a custom signet is not a chain this build knows")

def checkBtcRailConfig (value : Option Json) : Except String BtcRailConfig := do
  let config ← btcRailConfigShape value
  validateBtcRailConfig config
  return config

/-- A checked configuration asks for at least one confirmation, looks at one block at least, and
is on a known chain under that chain's name. -/
theorem checkBtcRailConfig_ok {value : Option Json} {config : BtcRailConfig}
    (h : checkBtcRailConfig value = .ok config) :
    0 < config.pin.finality.confirmations ∧ 0 < scanWindowFor config ∧
      ∃ known ∈ BTC_KNOWN_PINS, known.network = config.pin.network ∧ known.name = config.pin.name ∧
        toLowerCase known.genesisHash = toLowerCase config.pin.genesisHash := by
  unfold checkBtcRailConfig at h
  simp only [bind_eq_ok] at h
  obtain ⟨checked, hShape, u, hValid, h⟩ := h
  obtain rfl := Except.ok.inj h
  unfold validateBtcRailConfig at hValid
  simp only [bind_eq_ok, require_eq_ok, need_eq_ok, exists_const] at hValid
  obtain ⟨-, known, hKnown, hName, -⟩ := hValid
  have hFound := List.find?_some hKnown
  rw [Bool.and_eq_true, decide_eq_true_eq, decide_eq_true_eq] at hFound
  unfold btcRailConfigShape at hShape
  simp only [bind_eq_ok, require_eq_ok, need_eq_ok, exists_const] at hShape
  obtain ⟨v, -, pin, -, name, -, network, -, genesisHash, -, caip2, -, -, finality, -,
    confirmations, hConfirmations, challenge, -, endpoint, -, window, hWindow, asset, -, h⟩ :=
    hShape
  obtain rfl := Except.ok.inj h
  have hPositive : 0 < confirmations := by
    simpa using (Option.filter_eq_some_iff.mp hConfirmations).2
  refine ⟨hPositive, ?_, known, List.mem_of_find?_eq_some hKnown, hFound.1, hName.symm, hFound.2⟩
  -- the window that is left out is the default
  unfold optional at hWindow
  split at hWindow
  · obtain rfl := Option.some.inj hWindow
    show (0 : Int) < DEFAULT_SCAN_WINDOW_BLOCKS
    decide
  · obtain ⟨blocks, hBlocks, rfl⟩ := Option.map_eq_some_iff.mp hWindow
    show 0 < blocks
    simpa using (Option.filter_eq_some_iff.mp hBlocks).2

end SwapDesk.Rails
