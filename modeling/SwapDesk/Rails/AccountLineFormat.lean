import SwapDesk.Desk.ProfileCodec
import SwapDesk.Rails.AccountLine

/-!
# SwapDesk — writing account lines

`formatAccountLine` and `formatPubkeyLine` of `src/rails/account-line.ts` with
`formatProofField` of `src/rails/account-proof.ts` and `createCustomRailRegistry` of
`src/rails/custom-rails.ts`: the lines that a party posts. What is documented of the libraries
behind them is `LineLibrary`.
-/

namespace SwapDesk.Rails

open Check Desk
open CharClass (isHexLower isSpace)

/-! ## Custom rails -/

structure CustomRailSpec where
  id : String
  ns : String
deriving DecidableEq, Repr

def isLowerLetter (c : Char) : Bool := 'a' ≤ c && c ≤ 'z'

/-- `/^[a-z][a-z0-9]{1,31}\.[a-z][a-z0-9]*(?:-[a-z0-9]+)*-v[1-9][0-9]{0,3}$/` -/
def CUSTOM_RAIL_ID (id : String) : Bool :=
  match id.toList.splitOn '.' with
  | [owner, name] =>
    tokenOf isAccountChar 2 32 owner && (owner.take 1).all isLowerLetter &&
      match name.splitOn '-' with
      | first :: others =>
        !first.isEmpty && first.all isAccountChar && (first.take 1).all isLowerLetter &&
          others.dropLast.all (fun part => !part.isEmpty && part.all isAccountChar) &&
          match others.getLast? with
          | some ('v' :: version) => isAmount (String.ofList version) && version.length ≤ 4
          | _ => false
      | [] => false
  | _ => false

/-- `/^[-a-z0-9]{3,8}$/` -/
def CUSTOM_NAMESPACE (ns : String) : Bool :=
  tokenOf (fun c => isAccountChar c || c == '-') 3 8 ns.toList

def createCustomRailRegistry (t : Tclk) (specs : List CustomRailSpec) :
    Except String NamespacedRailRegistry := do
  let byId ← specs.foldlM (fun (byId : List (String × String)) spec => do
    require (CUSTOM_RAIL_ID spec.id) ("custom-rails: \"" ++ spec.id ++
      "\" is not an owner-namespaced versioned rail id (<owner>.<name>-vN)")
    require (CUSTOM_NAMESPACE spec.ns) ("custom-rails: \"" ++ spec.id ++
      "\" needs a CAIP-2 namespace (3-8 chars of [-a-z0-9])")
    require (t.normalizeRailId spec.id = none) ("custom-rails: \"" ++ spec.id ++
      "\" collides with an id tclk already knows")
    require ((byId.lookup spec.id).isNone) ("custom-rails: duplicate rail id \"" ++ spec.id ++ "\"")
    return byId ++ [(spec.id, spec.ns)]) []
  return ⟨⟨fun id => (byId.lookup id).isSome⟩, fun id => byId.lookup id⟩

/-! ## Writing -/

/-- `<scheme>:<signature>[ <key>]` -/
def proofText (proof : AccountProof) : String :=
  proof.scheme ++ ":" ++ proof.signature ++
    match proof.publicKey with
    | none => ""
    | some key => " " ++ key

def formatProofField (proof : AccountProof) : Except FormatError String := do
  require (SCHEME_SHAPE proof.scheme.toList)
    (.error ("account-proof: malformed scheme \"" ++ proof.scheme ++ "\""))
  require (SIGNATURE_SHAPE proof.signature.toList) (.error "account-proof: malformed signature token")
  require (∀ key ∈ proof.publicKey, KEY_SHAPE key.toList = true)
    (.error "account-proof: malformed public key token")
  return proofText proof

/-- The end of a line, as text. -/
def proofTail : Option AccountProof → String
  | none => ""
  | some proof => " proof " ++ proofText proof

/-- The end of a line, if it may be written. -/
def formatProofTail : Option AccountProof → Except FormatError String
  | none => .ok ""
  | some proof => do
    let field ← formatProofField proof
    return " proof " ++ field

/-- The namespace and the reference of a CAIP-2 id, of which neither may be empty. -/
def caip2Parts (caip2 : String) : Option (String × String) :=
  match (caip2.toList.splitOn ':').map String.ofList with
  | [ns, reference] => if ns = "" ∨ reference = "" then none else some (ns, reference)
  | _ => none

/-- What tells account lines and pubkey lines apart. -/
structure LineForm where
  kind : String
  noun : String
  /-- Between the chain and what the line names on it. -/
  glue : String
  noNamespace : String
  normalize : String → Option String
  namespaceOf : String → Option String
  validate : String → String → String → Option String

/-- The line that says this. -/
def LineForm.text (form : LineForm) (line : ParsedLine) : String :=
  "swap1 " ++ form.kind ++ " " ++ line.railId ++ " " ++ line.caip2 ++ form.glue ++ line.subject ++
    proofTail line.proof

def LineForm.format (form : LineForm) (rt : LineRuntime) (input : ParsedLine) :
    Except FormatError String := do
  let railId ← need (form.normalize input.railId) (.unknownRail input.railId)
  require (railId = input.railId) (.error (form.kind ++ "-line: non-canonical rail id: " ++
    input.railId ++ "; use " ++ railId))
  let ns ← need (form.namespaceOf railId) (.error (form.kind ++ "-line: rail \"" ++ railId ++
    "\" has no " ++ form.noNamespace))
  let (ns', reference) ← need (caip2Parts input.caip2) (.error (form.kind ++
    "-line: malformed caip2 \"" ++ input.caip2 ++ "\" (expected namespace:reference)"))
  require (ns' = ns) (.error (form.kind ++ "-line: caip2 namespace \"" ++ ns' ++
    "\" does not match rail \"" ++ railId ++ "\" (expected \"" ++ ns ++ "\")"))
  let subject ← need (form.validate ns reference input.subject) (.error (form.kind ++ "-line: \"" ++
    input.subject ++ "\" is not a valid " ++ ns ++ " " ++ form.noun ++ " for reference \"" ++
    reference ++ "\""))
  let tail ← formatProofTail input.proof
  let line := "swap1 " ++ form.kind ++ " " ++ railId ++ " " ++ (ns' ++ ":" ++ reference) ++
    form.glue ++ subject ++ tail
  require (utf16Length line ≤ rt.MAX_FRAME_CHARS) (.error (form.kind ++ "-line: line is " ++
    toString (utf16Length line) ++ " chars, over the room-message cap of " ++
    toString rt.MAX_FRAME_CHARS))
  return line

def accountForm (rt : LineRuntime) (registry : Option NamespacedRailRegistry) : LineForm where
  kind := "account"
  noun := "address"
  glue := ":"
  noNamespace := "chain-account namespace (D-08, SPEC §3)"
  normalize value := normalizeRailIdWith rt.tclk value
    (registry.map NamespacedRailRegistry.toCustomRailRegistry)
  namespaceOf railId := namespaceForRail railId registry
  validate := validateChainAddress rt

def pubkeyForm (rt : LineRuntime) : LineForm where
  kind := "pubkey"
  noun := "pubkey"
  glue := " "
  noNamespace := "pubkey-line namespace (P4-BTC-SPEC.md §6)"
  normalize := rt.tclk.normalizeRailId
  namespaceOf railId := PUBKEY_RAIL_NAMESPACES.lookup railId
  validate := validatePubkeyForNamespace

def formatAccountLine (rt : LineRuntime) (input : ParsedLine)
    (registry : Option NamespacedRailRegistry) : Except FormatError String :=
  (accountForm rt registry).format rt input

def formatPubkeyLine (rt : LineRuntime) (input : ParsedLine) : Except FormatError String :=
  (pubkeyForm rt).format rt input

/-! ## What the desk relies on -/

/-- What is documented of the libraries that the lines are read with. -/
structure LineLibrary (rt : LineRuntime) : Prop where
  /-- An id of the closed registry is a token. -/
  railToken : ∀ value rail, rt.tclk.normalizeRailId value = some rail →
    rail ≠ "" ∧ ∀ c ∈ rail.toList, isSpace c = false
  /-- An address is `0x` and 40 hexadecimal digits. -/
  addressShape : ∀ address, rt.isAddress address = true → ∃ digits : List Char,
    address = "0x" ++ String.ofList digits ∧ digits.length = 40 ∧
      ∀ c ∈ digits, isHexLower c.toLower = true
  /-- In lowercase it always is one. -/
  addressLower : ∀ digits : List Char, digits.length = 40 → (∀ c ∈ digits, isHexLower c = true) →
    rt.isAddress ("0x" ++ String.ofList digits) = true

end SwapDesk.Rails
