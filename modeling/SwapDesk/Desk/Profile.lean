import SwapDesk.Desk.Types
import SwapDesk.Lib.CharClass

/-!
# SwapDesk — the swap profile

`src/profile.ts`: how a tclk/1 offer declares itself a leg of a swap using only
its signed `job` field, and which orientations the desk supports. Anything not
exactly of the documented shape is not a swap leg.

The regular expressions of the source are predicates on characters.
-/

namespace SwapDesk.Desk

open CharClass (isAlphanumeric isDigit isHexLower)

def SWAP_PROTO : String := "swap"
def FLOP_ASSET : String := "FLOP"
def FLOP_RAIL : String := "flop-htlc"

-- ---------------------------------------------------------------------------
-- Grammars
-- ---------------------------------------------------------------------------

/-- `/^0x[0-9a-f]{64}$/` -/
def hex32 (value : String) : Bool :=
  match value.toList with
  | '0' :: 'x' :: digits => digits.length == 64 && digits.all isHexLower
  | _ => false

/-- `/^[1-9][0-9]*$/` -/
def isAmount (value : String) : Bool :=
  match value.toList with
  | first :: rest => isDigit first && first != '0' && rest.all isDigit
  | [] => false

/-- `/^[A-Za-z0-9_-]{1,32}$/` -/
def isAsset (value : String) : Bool :=
  1 ≤ value.toList.length && value.toList.length ≤ 32 &&
    value.toList.all fun c =>
      isAlphanumeric c || c == '_' || c == '-'

/-- `/^(0|[1-9][0-9]{0,3}|10000)$/` -/
def feeBpsPattern (value : String) : Bool :=
  value == "0" || (isAmount value && value.toList.length ≤ 4) || value == "10000"

/-- `Number` on a run of decimal digits. -/
def decimal (digits : List Char) : Nat :=
  digits.foldl (fun n c => 10 * n + (c.toNat - '0'.toNat)) 0

def isSwapId (value : String) : Bool := hex32 value

-- ---------------------------------------------------------------------------
-- Contexts
-- ---------------------------------------------------------------------------

structure LegAContext where
  wantAsset : String
  wantAmount : String
  wantRail : String
  feeBps : Nat
deriving DecidableEq, Repr

structure LegBContext where
  legAOfferId : String
deriving DecidableEq, Repr

inductive SwapContext where
  | a (context : LegAContext)
  | b (context : LegBContext)
deriving DecidableEq, Repr

/-- `context.leg`. -/
def SwapContext.leg : SwapContext → String
  | .a _ => "a"
  | .b _ => "b"

/-- Leg A's context, with or without its fee segment. The rail must already be
spelled as the library spells it. -/
def parseLegAContext (t : Tclk) (wantAsset wantAmount wantRail : String)
    (feeBpsRaw : Option String) : Option SwapContext :=
  if !isAsset wantAsset || !isAmount wantAmount then none
  else
    match t.normalizeRailId wantRail with
    | none => none
    | some rail =>
      if rail ≠ wantRail then none
      else
        match feeBpsRaw with
        | none => some (.a ⟨wantAsset, wantAmount, rail, 0⟩)
        | some feeBps =>
          if !feeBpsPattern feeBps then none
          else some (.a ⟨wantAsset, wantAmount, rail, decimal feeBps.toList⟩)

def parseSwapContext (t : Tclk) (context : Option String) : Option SwapContext :=
  match context with
  | none => none
  | some context =>
    match (context.toList.splitOn '|').map String.ofList with
    | ["a", wantAsset, wantAmount, wantRail] =>
      parseLegAContext t wantAsset wantAmount wantRail none
    | ["a", wantAsset, wantAmount, wantRail, feeBpsRaw] =>
      parseLegAContext t wantAsset wantAmount wantRail (some feeBpsRaw)
    | ["b", legAOfferId] => if hex32 legAOfferId then some (.b ⟨legAOfferId⟩) else none
    -- `f|…` is reserved for the fee leg, and parses to nothing like all the rest
    | _ => none

structure SwapLegClassification where
  swapId : String
  context : SwapContext
deriving DecidableEq, Repr

/-- Is this offer a swap leg? -/
def classifySwapOffer (t : Tclk) (offer : OfferFrame) : Option SwapLegClassification :=
  match offer.job with
  | none => none
  | some job =>
    if job.proto ≠ SWAP_PROTO ∨ !isSwapId job.id then none
    else (parseSwapContext t job.context).map fun context => ⟨job.id, context⟩

-- ---------------------------------------------------------------------------
-- Orientation
-- ---------------------------------------------------------------------------

/-- `normalizeRailId` extended by a caller-owned registry. -/
def normalizeRailIdWith (t : Tclk) (value : String) (registry : Option CustomRailRegistry) :
    Option String :=
  match registry with
  | some registry => if registry.has value then some value else t.normalizeRailId value
  | none => t.normalizeRailId value

/-- Leg A is opened by its payer with a non-FLOP asset, leg B by its payer with
FLOP. Any other orientation would move the secret away from the FLOP seller. The
error is the verdict's reason. -/
def checkOrientation (t : Tclk) (offer : OfferFrame) (context : SwapContext)
    (railRegistry : Option CustomRailRegistry) : Except String Unit :=
  if offer.role ≠ .payer then
    .error ("leg " ++ context.leg ++ " must be opened by its payer (got role " ++
      offer.role.text ++ ")")
  else if offer.lock ≠ "hash" then .error "v1 supports hash locks only"
  else
    match offer.rails.mapM fun rail => normalizeRailIdWith t rail railRegistry with
    | none => .error "offer names an unregistered rail"
    | some rails =>
      match context with
      | .a context =>
        if offer.asset = FLOP_ASSET then .error "leg A must pay a non-FLOP counter-asset"
        else if FLOP_RAIL ∈ rails then .error "leg A must not settle on flop-htlc"
        else if context.wantRail ≠ FLOP_RAIL then
          .error ("leg A must want " ++ FLOP_RAIL ++ " (got " ++ context.wantRail ++ ")")
        else .ok ()
      | .b _ =>
        if offer.asset ≠ FLOP_ASSET then
          .error ("leg B must pay " ++ FLOP_ASSET ++ " (got " ++ offer.asset ++ ")")
        else if FLOP_RAIL ∉ rails then .error ("leg B rails must include " ++ FLOP_RAIL)
        else .ok ()

end SwapDesk.Desk
