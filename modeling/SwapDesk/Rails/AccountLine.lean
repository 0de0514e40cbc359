import SwapDesk.Rails.SolKeys
import SwapDesk.Rails.BtcConfig

/-!
# SwapDesk — the lines that bind an account to a party

`src/rails/account-line.ts` and `src/rails/account-proof.ts`: a party posts the account, or on
Bitcoin the key, that it swaps with as a line of the deal room, with a proof by the key of the
account. What comes from the protocol, the chain and the signature libraries is a parameter.

Main result: `resolution_party_local` in `SwapDesk.Rails.AccountResolution`.
-/

namespace SwapDesk.Rails

open Check Desk
open CharClass (isAlphanumeric isHexLower isSpace)

/-! ## Proofs -/

structure AccountProof where
  scheme : String
  signature : String
  publicKey : Option String
deriving DecidableEq, Repr

structure ProofVerifyContext where
  message : String
  railId : String
  caip2 : String
  subject : String
  proof : AccountProof
deriving DecidableEq, Repr

/-- One verifier for each scheme; `none` when a verifier throws. -/
abbrev ProofVerifierRegistry := String → Option (ProofVerifyContext → Option Bool)

inductive ProofPolicy where
  | required (verifiers : Option ProofVerifierRegistry) (allowedSchemes : Option (List String))
  | legacyUnproven

/-- A caller-owned registry of custom rail ids, with the namespace of each. -/
structure NamespacedRailRegistry extends CustomRailRegistry where
  namespaceOf : String → Option String

/-- What the lines are read with. -/
structure LineRuntime where
  tclk : Tclk
  /-- `dealRoom` throws on anything else. -/
  isContractId : String → Bool
  MAX_FRAME_CHARS : Nat
  /-- `isAddress(value)`, strict. -/
  isAddress : String → Bool
  DEFAULT_PROOF_VERIFIERS : ProofVerifierRegistry

/-- `/^[chars]{least,most}$/` -/
def tokenOf (chars : Char → Bool) (least most : Nat) (text : List Char) : Bool :=
  least ≤ text.length && text.length ≤ most && text.all chars

/-- `/^did:[a-z0-9]+:[A-Za-z0-9._%:-]+$/` -/
def DID_SHAPE (did : String) : Bool :=
  match did.toList with
  | 'd' :: 'i' :: 'd' :: ':' :: rest =>
    let method := rest.takeWhile (· ≠ ':')
    let name := (rest.dropWhile (· ≠ ':')).drop 1
    !method.isEmpty && method.all isAccountChar && !name.isEmpty && name.all fun c =>
      isAlphanumeric c || c == '.' || c == '_' || c == '%' || c == ':' || c == '-'
  | _ => false

/-- `/^[-a-z0-9]{3,8}:[-_a-zA-Z0-9]{1,32}:[-._%a-zA-Z0-9]{1,128}$/` -/
def ACCOUNT_SHAPE (account : String) : Bool :=
  match account.toList.splitOn ':' with
  | [ns, reference, address] =>
    tokenOf (fun c => isAccountChar c || c == '-') 3 8 ns &&
      tokenOf (fun c => isAlphanumeric c || c == '-' || c == '_') 1 32 reference &&
      tokenOf (fun c => isAlphanumeric c || c == '-' || c == '.' || c == '_' || c == '%') 1 128
        address
  | _ => false

/-- `/^[a-z0-9][a-z0-9-]{0,15}$/` -/
def SCHEME_SHAPE (scheme : List Char) : Bool :=
  tokenOf (fun c => isAccountChar c || c == '-') 1 16 scheme && (scheme.take 1).all isAccountChar

def isSignatureChar (c : Char) : Bool :=
  isAlphanumeric c || c == '+' || c == '/' || c == '=' || c == '_' || c == '.' || c == '-'

/-- `/^[A-Za-z0-9+/=_.-]{1,2048}$/` -/
def SIGNATURE_SHAPE (signature : List Char) : Bool := tokenOf isSignatureChar 1 2048 signature

/-- `/^[A-Za-z0-9:+/=_.-]{1,256}$/` -/
def KEY_SHAPE (key : List Char) : Bool := tokenOf (fun c => isSignatureChar c || c == ':') 1 256 key

/-- `<scheme>:<signature>`, and the key when there is one. -/
def parseProofTokens (schemeAndSignature : List Char) (key : Option (List Char)) :
    Option AccountProof :=
  match schemeAndSignature.findIdx? (· == ':') with
  | none | some 0 => none
  | some colon =>
    let scheme := schemeAndSignature.take colon
    let signature := schemeAndSignature.drop (colon + 1)
    if !SCHEME_SHAPE scheme || !SIGNATURE_SHAPE signature then none
    else if key.any fun key => !KEY_SHAPE key then none
    else some ⟨String.ofList scheme, String.ofList signature, key.map String.ofList⟩

def ACCOUNT_PROOF_MESSAGE_PREFIX : String := "FLOP::swap::account-proof::v1"

def RAIL_PROOF_SCHEMES : List (String × List String) :=
  [("evm-htlc", ["eip191"]), ("btc-htlc", ["bip322"]), ("near-htlc", ["nep413"])]

/-- The message that a chain key signs. -/
def buildAccountProofMessage (rt : LineRuntime) (did contract railId account : String)
    (registry : Option NamespacedRailRegistry) : Except String String := do
  require (DID_SHAPE did) ("account-proof: malformed did \"" ++ did ++ "\"")
  require (hex32 contract) ("account-proof: malformed contract id \"" ++ contract ++ "\"")
  let normalized ← need
    (normalizeRailIdWith rt.tclk railId (registry.map NamespacedRailRegistry.toCustomRailRegistry))
    ("account-proof: \"" ++ railId ++ "\" is not a registered rail id")
  require (normalized = railId)
    ("account-proof: non-canonical rail id: " ++ railId ++ "; use " ++ normalized)
  require (ACCOUNT_SHAPE account) ("account-proof: malformed account \"" ++ account ++ "\"")
  return "|".intercalate [ACCOUNT_PROOF_MESSAGE_PREFIX, did, contract, normalized, account]

/-- Why a line's proof does not count; `none` when it verifies. -/
def checkLineProof (rt : LineRuntime) (verifiers : Option ProofVerifierRegistry)
    (allowedSchemes : Option (List String)) (did contract railId account subject caip2 : String)
    (proof : Option AccountProof) (registry : Option NamespacedRailRegistry) : Option String :=
  match proof with
  | none => some "no proof"
  | some proof =>
    let allowed := allowedSchemes.getD ((RAIL_PROOF_SCHEMES.lookup railId).getD [])
    if proof.scheme ∉ allowed then
      some ("scheme \"" ++ proof.scheme ++ "\" is not accepted for rail \"" ++ railId ++ "\"")
    else
      match verifiers.getD rt.DEFAULT_PROOF_VERIFIERS proof.scheme with
      | none => some ("no verifier for scheme \"" ++ proof.scheme ++ "\"")
      | some verify =>
        match buildAccountProofMessage rt did contract railId account registry with
        | .error message => some message
        | .ok message =>
          if (verify ⟨message, railId, caip2, subject, proof⟩).getD false then none
          else some "proof does not verify for this sender, contract, rail and account"

/-! ## Lines -/

/-- `text.length`, in UTF-16 code units. -/
def utf16Length (text : String) : Nat :=
  (text.toList.map fun c => if c.toNat < 0x10000 then 1 else 2).sum

/-- A line of tokens with single blanks between them: `swap1`, a keyword, as many tokens as the
keyword takes, and a proof or none. -/
def lineTokens (keyword : String) (arity : Nat) (line : String) :
    Option (List (List Char) × Option (List Char × Option (List Char))) :=
  match line.toList.splitOn ' ' with
  | swap :: word :: rest =>
    if swap ≠ "swap1".toList ∨ word ≠ keyword.toList then none
    else if !rest.all fun token => !token.isEmpty && !token.any isSpace then none
    else if rest.length < arity then none
    else
      match rest.drop arity with
      | [] => some (rest, none)
      | [proof, signature] =>
        if proof = "proof".toList then some (rest.take arity, some (signature, none)) else none
      | [proof, signature, key] =>
        if proof = "proof".toList then some (rest.take arity, some (signature, some key)) else none
      | _ => none
  | _ => none

/-- A malformed proof is a malformed line, never a line without a proof. -/
def proofOf (tokens : Option (List Char × Option (List Char))) : Option (Option AccountProof) :=
  match tokens with
  | none => some none
  | some (signature, key) => (parseProofTokens signature key).map some

/-- A line that was read: the account it names, or on a pubkey line the key. -/
structure ParsedLine where
  railId : String
  caip2 : String
  subject : String
  proof : Option AccountProof
deriving DecidableEq, Repr

def RAIL_NAMESPACES : List (String × String) :=
  [("evm-htlc", "eip155"), ("btc-htlc", "bip122"), ("near-htlc", "near")]

def PUBKEY_RAIL_NAMESPACES : List (String × String) := [("btc-htlc", "bip122")]

def namespaceForRail (railId : String) (registry : Option NamespacedRailRegistry) :
    Option String :=
  match RAIL_NAMESPACES.lookup railId with
  | some ns => some ns
  | none => registry.bind fun registry => registry.namespaceOf railId

/-- `/^(0|[1-9][0-9]*)$/` -/
def EIP155_REFERENCE (reference : String) : Bool := reference == "0" || isAmount reference

/-- `/^[-a-zA-Z0-9]{1,32}$/` -/
def CAIP2_REFERENCE (reference : String) : Bool :=
  tokenOf (fun c => isAlphanumeric c || c == '-') 1 32 reference.toList

/-- `/^[-.%a-zA-Z0-9]{1,128}$/` -/
def CAIP10_ADDRESS (address : String) : Bool :=
  tokenOf (fun c => isAlphanumeric c || c == '-' || c == '.' || c == '%') 1 128 address.toList

def validateEip155Address (rt : LineRuntime) (reference address : String) : Option String :=
  if !EIP155_REFERENCE reference then none
  else if !rt.isAddress address then none
  else some (toLowerCase address)

def validateGenericCaip10 (reference address : String) : Option String :=
  if !CAIP2_REFERENCE reference then none
  else if !CAIP10_ADDRESS address then none
  else some address

def validateNearAccountId (reference address : String) : Option String :=
  if !CAIP2_REFERENCE reference then none
  else if !NEAR_ACCOUNT_ID address then none
  else some address

/-- The canonical base58 text of 32 bytes. -/
def validateSolanaAddress (reference address : String) : Option String :=
  if !CAIP2_REFERENCE reference then none
  else if !tokenOf (fun c => BASE58_ALPHABET.contains c) 32 44 address.toList then none
  else
    let bytes := base58Decode address.toList
    if bytes.length ≠ 32 ∨ String.ofList (base58Encode bytes) ≠ address then none
    else some address

def validateChainAddress (rt : LineRuntime) (ns reference address : String) : Option String :=
  if ns = "eip155" then validateEip155Address rt reference address
  else if ns = "near" then validateNearAccountId reference address
  else if ns = "solana" then validateSolanaAddress reference address
  else validateGenericCaip10 reference address

def parseAccountLine (rt : LineRuntime) (line : String)
    (registry : Option NamespacedRailRegistry) : Option ParsedLine := do
  let (tokens, proofTokens) ← lineTokens "account" 2 line
  if rt.MAX_FRAME_CHARS < utf16Length line then none
  let [railToken, caipToken] := tokens | none
  let proof ← proofOf proofTokens
  let railToken := String.ofList railToken
  let railId ← normalizeRailIdWith rt.tclk railToken
    (registry.map NamespacedRailRegistry.toCustomRailRegistry)
  -- canonical on the wire already
  if railId ≠ railToken then none
  let ns ← namespaceForRail railId registry
  let [ns', reference, address] := (caipToken.splitOn ':').map String.ofList | none
  if ns' ≠ ns then none
  let normalized ← validateChainAddress rt ns reference address
  return ⟨railId, ns ++ ":" ++ reference, normalized, proof⟩

/-- `/^[0-9a-f]{32}$/` -/
def BIP122_REFERENCE (reference : String) : Bool := tokenOf isHexLower 32 32 reference.toList

def validatePubkeyForNamespace (ns reference pubkey : String) : Option String :=
  if ns ≠ "bip122" then none
  else if !BIP122_REFERENCE reference then none
  else if !PUBKEY_SHAPE pubkey then none
  else some pubkey

def parsePubkeyLine (rt : LineRuntime) (line : String) : Option ParsedLine := do
  let (tokens, proofTokens) ← lineTokens "pubkey" 3 line
  if rt.MAX_FRAME_CHARS < utf16Length line then none
  let [railToken, caipToken, pubkeyToken] := tokens | none
  let proof ← proofOf proofTokens
  let railToken := String.ofList railToken
  let railId ← rt.tclk.normalizeRailId railToken
  if railId ≠ railToken then none
  let ns ← PUBKEY_RAIL_NAMESPACES.lookup railId
  let [ns', reference] := (caipToken.splitOn ':').map String.ofList | none
  if ns' = "" ∨ reference = "" then none
  if ns' ≠ ns then none
  let normalized ← validatePubkeyForNamespace ns reference (String.ofList pubkeyToken)
  return ⟨railId, ns ++ ":" ++ reference, normalized, proof⟩

end SwapDesk.Rails
