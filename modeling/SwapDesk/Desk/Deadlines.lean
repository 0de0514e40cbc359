import SwapDesk.Lib.Check
import SwapDesk.Lib.Double
import SwapDesk.Desk.Types

/-!
# SwapDesk — the deadlines of a swap

`src/deadlines.ts`: the rules that a pair of legs must meet for the swap to be atomic. The
operands are integers, and the arithmetic is that of doubles (`Double.round`); `none` is the
`NaN` of a result that was not worked out.

Main result: `rule_three_exact_iff`. Rule 3 counts the blocks up to leg B's refund time
rounded up, so that it lets a leg B through that is up to one block short of the time it
reports as required.
-/

namespace SwapDesk.Desk

open Check

structure DeadlinePolicy where
  minRevealWindowMs : ℤ
  finalityAMs : ℤ
  flopMarginPercent : ℤ
  flopMaxFinalityStallBlocks : ℤ
  flopFinalityLagBlocks : ℤ
  flopBlockMs : ℤ
deriving DecidableEq, Repr

/-- `text` is what the source pushes; the number of the rule leads it. -/
inductive Violation where
  | malformed (message : String)
  | rule (number : Nat) (detail : String)
deriving DecidableEq, Repr

def Violation.text : Violation → String
  | .malformed message => message
  | .rule number detail => "rule " ++ toString number ++ ": " ++ detail

structure DeadlineCheck where
  ok : Bool
  violations : List Violation
  requiredBRefundAfterMs : Option ℚ
  requiredBClaimByMs : Option ℚ
  tOtherBlocks : Option ℚ
  tFlopBlocks : Option ℚ
  requiredTFlopBlocks : Option ℚ

-- ---------------------------------------------------------------------------
-- Blocks
-- ---------------------------------------------------------------------------

section

-- the text of a number in a template literal
variable (numberText : ℚ → String)

/-- R10.2 solved for the smallest admissible timelock, in blocks. -/
def timelockSymmetryMinimumBlocks (tOtherBlocks marginPercent maxFinalityStallBlocks
    finalityLagBlocks : ℤ) : Except String ℚ := do
  let natural (name : String) (v : ℤ) : Except String Unit :=
    require (Double.isSafe v = true ∧ 0 ≤ v)
      ("deadlines: " ++ name ++ " must be a non-negative safe integer, got " ++ numberText v)
  natural "tOtherBlocks" tOtherBlocks
  natural "marginPercent" marginPercent
  natural "maxFinalityStallBlocks" maxFinalityStallBlocks
  natural "finalityLagBlocks" finalityLagBlocks
  let percentMargin : ℤ := ⌈Double.round (Double.round (tOtherBlocks * marginPercent) / 100)⌉
  let finalityMargin := Double.round (maxFinalityStallBlocks + finalityLagBlocks)
  return Double.round (tOtherBlocks + max (percentMargin : ℚ) finalityMargin)

/-- Blocks from one time to another, rounded up. -/
def blocksBetween (fromMs toMs blockMs : ℤ) : Except String ℤ := do
  require (Double.isSafe fromMs = true)
    ("deadlines: fromMs must be a safe integer, got " ++ numberText fromMs)
  require (Double.isSafe toMs = true)
    ("deadlines: toMs must be a safe integer, got " ++ numberText toMs)
  require (Double.isSafe blockMs = true ∧ 0 < blockMs)
    ("deadlines: blockMs must be a positive safe integer, got " ++ numberText blockMs)
  return ⌈Double.round (Double.round (toMs - fromMs) / blockMs)⌉

-- ---------------------------------------------------------------------------
-- The check
-- ---------------------------------------------------------------------------

def isPositiveSafeInt (v : ℤ) : Bool := Double.isSafe v && decide (0 < v)

def isNonNegativeSafeInt (v : ℤ) : Bool := Double.isSafe v && decide (0 ≤ v)

/-- What is wrong with a leg by itself. -/
def checkLegInvariants (label : String) (leg : OfferFrame) : List Violation :=
  let field (name : String) (v : ℤ) : List Violation :=
    if isPositiveSafeInt v then []
    else [.malformed (label ++ "." ++ name ++ " must be a positive safe integer, got " ++
      numberText v)]
  let malformed := field "claimByMs" leg.claimByMs ++ field "refundAfterMs" leg.refundAfterMs ++
    field "expiresMs" leg.expiresMs
  if malformed = [] ∧ ¬ leg.claimByMs < leg.refundAfterMs then
    [.malformed (label ++ ": claimByMs " ++ numberText leg.claimByMs ++
      " must be strictly before refundAfterMs " ++ numberText leg.refundAfterMs)]
  else malformed

def checkPolicy (policy : DeadlinePolicy) : List Violation :=
  let field (key kind : String) (predicate : ℤ → Bool) (v : ℤ) : List Violation :=
    if predicate v then []
    else [.malformed ("policy." ++ key ++ " must be a " ++ kind ++ " safe integer, got " ++
      numberText v)]
  field "minRevealWindowMs" "non-negative" isNonNegativeSafeInt policy.minRevealWindowMs ++
  field "finalityAMs" "non-negative" isNonNegativeSafeInt policy.finalityAMs ++
  field "flopMarginPercent" "non-negative" isNonNegativeSafeInt policy.flopMarginPercent ++
  field "flopMaxFinalityStallBlocks" "non-negative" isNonNegativeSafeInt
    policy.flopMaxFinalityStallBlocks ++
  field "flopFinalityLagBlocks" "non-negative" isNonNegativeSafeInt
    policy.flopFinalityLagBlocks ++
  field "flopBlockMs" "positive" isPositiveSafeInt policy.flopBlockMs

/-- What rule 3 works out. -/
structure RuleThree where
  tOtherBlocks : ℤ
  tFlopBlocks : ℤ
  requiredTFlopBlocks : ℚ
  requiredBRefundAfterMs : ℚ

def ruleThree (legA legB : OfferFrame) (lockTimeMs : ℤ) (policy : DeadlinePolicy) :
    Except String RuleThree := do
  let tOtherBlocks ← blocksBetween numberText lockTimeMs legA.refundAfterMs policy.flopBlockMs
  let tFlopBlocks ← blocksBetween numberText lockTimeMs legB.refundAfterMs policy.flopBlockMs
  let requiredTFlopBlocks ← timelockSymmetryMinimumBlocks numberText tOtherBlocks
    policy.flopMarginPercent policy.flopMaxFinalityStallBlocks policy.flopFinalityLagBlocks
  let requiredBRefundAfterMs :=
    Double.round (lockTimeMs + Double.round (requiredTFlopBlocks * policy.flopBlockMs))
  return ⟨tOtherBlocks, tFlopBlocks, requiredTFlopBlocks, requiredBRefundAfterMs⟩

/-- Rules 1 to 3, of legs and a policy that are well formed. -/
def checkRules (legA legB : OfferFrame) (lockTimeMs : ℤ) (policy : DeadlinePolicy) :
    DeadlineCheck :=
  let requiredBClaimByMs := Double.round (legA.refundAfterMs + policy.finalityAMs)
  let revealWindowMs := Double.round (legA.refundAfterMs - lockTimeMs)
  let ruleOne : List Violation :=
    if revealWindowMs < policy.minRevealWindowMs then
      [.rule 1 ("reveal window " ++ numberText revealWindowMs ++ " ms (legA.refundAfterMs " ++
        numberText legA.refundAfterMs ++ " - lockTimeMs " ++ numberText lockTimeMs ++
        ") < required minRevealWindowMs " ++ numberText policy.minRevealWindowMs ++ " ms")]
    else []
  let ruleTwo : List Violation :=
    if (legB.claimByMs : ℚ) < requiredBClaimByMs then
      [.rule 2 ("legB.claimByMs " ++ numberText legB.claimByMs ++ " < required " ++
        numberText requiredBClaimByMs ++ " ms (legA.refundAfterMs " ++
        numberText legA.refundAfterMs ++ " + finalityAMs " ++ numberText policy.finalityAMs ++
        ")")]
    else []
  match ruleThree numberText legA legB lockTimeMs policy with
  | .ok r =>
    let short : List Violation :=
      if (r.tFlopBlocks : ℚ) < r.requiredTFlopBlocks then
        [.rule 3 ("tFlop " ++ numberText r.tFlopBlocks ++ " blocks < required " ++
          numberText r.requiredTFlopBlocks ++ " blocks (tOther " ++ numberText r.tOtherBlocks ++
          " blocks, margin " ++ numberText policy.flopMarginPercent ++ "%, stall " ++
          numberText policy.flopMaxFinalityStallBlocks ++ ", lag " ++
          numberText policy.flopFinalityLagBlocks ++ "; legB.refundAfterMs must be >= " ++
          numberText r.requiredBRefundAfterMs ++ ")")]
      else []
    let violations := ruleOne ++ ruleTwo ++ short
    ⟨decide (violations = []), violations, some r.requiredBRefundAfterMs,
      some requiredBClaimByMs, some r.tOtherBlocks, some r.tFlopBlocks,
      some r.requiredTFlopBlocks⟩
  | .error message =>
    -- what was assigned before the throw stays
    let tOtherBlocks :=
      (blocksBetween numberText lockTimeMs legA.refundAfterMs policy.flopBlockMs).toOption
    let tFlopBlocks := tOtherBlocks.bind fun _ =>
      (blocksBetween numberText lockTimeMs legB.refundAfterMs policy.flopBlockMs).toOption
    let violations := ruleOne ++ ruleTwo ++
      [.rule 3 ("could not evaluate R10.2 (" ++ message ++ ")")]
    ⟨false, violations, none, some requiredBClaimByMs, tOtherBlocks, tFlopBlocks, none⟩

/-- Rules 1 to 3, fail-closed. -/
def checkSwapDeadlines (legA legB : OfferFrame) (lockTimeMs : ℤ) (policy : DeadlinePolicy) :
    DeadlineCheck :=
  let malformed :=
    (if isPositiveSafeInt lockTimeMs then []
      else [Violation.malformed ("lockTimeMs must be a positive safe integer, got " ++
        numberText lockTimeMs)]) ++
    checkLegInvariants numberText "legA" legA ++ checkLegInvariants numberText "legB" legB ++
    checkPolicy numberText policy
  if malformed = [] then checkRules numberText legA legB lockTimeMs policy
  else ⟨false, malformed, none, none, none, none, none⟩

-- ---------------------------------------------------------------------------
-- Rule 3
-- ---------------------------------------------------------------------------

/-- Legs, a lock time and a policy that the checks before the rules let through. -/
structure WellFormed (legA legB : OfferFrame) (lockTimeMs : ℤ) (policy : DeadlinePolicy) :
    Prop where
  lockTime : isPositiveSafeInt lockTimeMs = true
  aClaimBy : isPositiveSafeInt legA.claimByMs = true
  aRefundAfter : isPositiveSafeInt legA.refundAfterMs = true
  aExpires : isPositiveSafeInt legA.expiresMs = true
  aOrder : legA.claimByMs < legA.refundAfterMs
  bClaimBy : isPositiveSafeInt legB.claimByMs = true
  bRefundAfter : isPositiveSafeInt legB.refundAfterMs = true
  bExpires : isPositiveSafeInt legB.expiresMs = true
  bOrder : legB.claimByMs < legB.refundAfterMs
  minRevealWindow : isNonNegativeSafeInt policy.minRevealWindowMs = true
  finalityA : isNonNegativeSafeInt policy.finalityAMs = true
  margin : isNonNegativeSafeInt policy.flopMarginPercent = true
  stall : isNonNegativeSafeInt policy.flopMaxFinalityStallBlocks = true
  lag : isNonNegativeSafeInt policy.flopFinalityLagBlocks = true
  block : isPositiveSafeInt policy.flopBlockMs = true

/-- The blocks that leg A takes, computed exactly. -/
def exactTOther (legA : OfferFrame) (lockTimeMs : ℤ) (policy : DeadlinePolicy) : ℤ :=
  ⌈((legA.refundAfterMs - lockTimeMs : ℤ) / policy.flopBlockMs : ℚ)⌉

/-- The blocks that leg B has to have, computed exactly. -/
def exactBlocks (legA : OfferFrame) (lockTimeMs : ℤ) (policy : DeadlinePolicy) : ℤ :=
  let tOther := exactTOther legA lockTimeMs policy
  tOther + max ⌈((tOther * policy.flopMarginPercent : ℤ) / 100 : ℚ)⌉
    (policy.flopMaxFinalityStallBlocks + policy.flopFinalityLagBlocks)

/-- The earliest refund time of leg B, computed exactly. -/
def exactRequirement (legA : OfferFrame) (lockTimeMs : ℤ) (policy : DeadlinePolicy) : ℤ :=
  lockTimeMs + exactBlocks legA lockTimeMs policy * policy.flopBlockMs

def DeadlineCheck.violatesRule (c : DeadlineCheck) (number : Nat) : Prop :=
  ∃ detail, Violation.rule number detail ∈ c.violations

/-- `>=` on the requirement, which `NaN` fails. -/
def DeadlineCheck.admitsRefundAfter (c : DeadlineCheck) (refundAfterMs : ℤ) : Prop :=
  ∃ required, c.requiredBRefundAfterMs = some required ∧ required ≤ refundAfterMs

theorem isPositiveSafeInt_iff {v : ℤ} :
    isPositiveSafeInt v = true ↔ Double.isSafe v = true ∧ 0 < v := by
  simp [isPositiveSafeInt]

theorem isNonNegativeSafeInt_iff {v : ℤ} :
    isNonNegativeSafeInt v = true ↔ Double.isSafe v = true ∧ 0 ≤ v := by
  simp [isNonNegativeSafeInt]

/-- The rules are reached by what is well formed. -/
theorem checkSwapDeadlines_wellFormed {legA legB : OfferFrame} {lockTimeMs : ℤ}
    {policy : DeadlinePolicy} (h : WellFormed legA legB lockTimeMs policy) :
    checkSwapDeadlines numberText legA legB lockTimeMs policy =
      checkRules numberText legA legB lockTimeMs policy := by
  have hA : checkLegInvariants numberText "legA" legA = [] := by
    simp [checkLegInvariants, h.aClaimBy, h.aRefundAfter, h.aExpires, h.aOrder]
  have hB : checkLegInvariants numberText "legB" legB = [] := by
    simp [checkLegInvariants, h.bClaimBy, h.bRefundAfter, h.bExpires, h.bOrder]
  have hPolicy : checkPolicy numberText policy = [] := by
    simp [checkPolicy, h.minRevealWindow, h.finalityA, h.margin, h.stall, h.lag, h.block]
  unfold checkSwapDeadlines
  simp only [h.lockTime, hA, hB, hPolicy, ↓reduceIte, List.append_nil]

/-- Blocks are counted exactly. -/
theorem blocksBetween_safe {fromMs toMs blockMs : ℤ} (hFrom : isPositiveSafeInt fromMs = true)
    (hTo : isPositiveSafeInt toMs = true) (hBlock : isPositiveSafeInt blockMs = true) :
    blocksBetween numberText fromMs toMs blockMs =
      .ok ⌈((toMs - fromMs : ℤ) / blockMs : ℚ)⌉ := by
  rw [isPositiveSafeInt_iff] at hFrom hTo hBlock
  have hSafe : |toMs - fromMs| < 2 ^ 53 := by
    have hFrom' : |fromMs| < 2 ^ 53 := of_decide_eq_true hFrom.1
    have hTo' : |toMs| < 2 ^ 53 := of_decide_eq_true hTo.1
    rw [abs_of_pos hFrom.2] at hFrom'
    rw [abs_of_pos hTo.2] at hTo'
    rw [abs_lt]
    omega
  have hCeil : ⌈Double.round (Double.round ((toMs : ℚ) - fromMs) / blockMs)⌉ =
      ⌈((toMs - fromMs : ℤ) / blockMs : ℚ)⌉ := by
    rw [← Int.cast_sub, Double.round_intCast hSafe, Double.ceil_round_div hSafe hBlock.2]
  unfold blocksBetween
  simp only [require, hFrom.1, hTo.1, hBlock, and_self, ↓reduceIte, hCeil]
  rfl

/-- The blocks between two times are no more than the milliseconds. -/
theorem abs_ceil_div_le {n k : ℤ} (hk : 0 < k) : |⌈(n / k : ℚ)⌉| ≤ |n| := by
  have hkQ : (1 : ℚ) ≤ k := by exact_mod_cast hk
  have hnQ : |(n / k : ℚ)| ≤ |n| := by
    rw [abs_div, abs_of_pos (by linarith : (0 : ℚ) < k)]
    exact_mod_cast div_le_self (abs_nonneg (n : ℚ)) hkQ
  obtain ⟨hLow, hHigh⟩ := abs_le.mp hnQ
  rw [abs_le]
  constructor
  · rw [Int.le_ceil_iff]
    push_cast at hLow ⊢
    linarith
  · exact Int.ceil_le.mpr (by exact_mod_cast hHigh)

section

variable {legA legB : OfferFrame} {lockTimeMs : ℤ} {policy : DeadlinePolicy}

theorem isSafe_exactTOther (h : WellFormed legA legB lockTimeMs policy) :
    Double.isSafe (exactTOther legA lockTimeMs policy) = true := by
  have hLock := isPositiveSafeInt_iff.mp h.lockTime
  have hA := isPositiveSafeInt_iff.mp h.aRefundAfter
  have hLock' : |lockTimeMs| < 2 ^ 53 := of_decide_eq_true hLock.1
  have hA' : |legA.refundAfterMs| < 2 ^ 53 := of_decide_eq_true hA.1
  rw [abs_of_pos hLock.2] at hLock'
  rw [abs_of_pos hA.2] at hA'
  refine decide_eq_true (lt_of_le_of_lt
    (abs_ceil_div_le (isPositiveSafeInt_iff.mp h.block).2) ?_)
  rw [abs_lt]
  omega

/-- The minimum follows the exact one. -/
theorem timelockSymmetryMinimumBlocks_tracks {tOther percent stall lag : ℤ}
    (hOther : isNonNegativeSafeInt tOther = true) (hPercent : isNonNegativeSafeInt percent = true)
    (hStall : isNonNegativeSafeInt stall = true) (hLag : isNonNegativeSafeInt lag = true)
    (hProduct : Double.isSafe (tOther * percent) = true) :
    ∃ required, timelockSymmetryMinimumBlocks numberText tOther percent stall lag = .ok required ∧
      Double.Tracks required
        (tOther + max ⌈((tOther * percent : ℤ) / 100 : ℚ)⌉ (stall + lag)) := by
  have hPositive := hOther
  rw [isNonNegativeSafeInt_iff] at hOther hPercent hStall hLag
  have hProduct' : |tOther * percent| < 2 ^ 53 := of_decide_eq_true hProduct
  refine ⟨_, by
    unfold timelockSymmetryMinimumBlocks
    simp only [require, hOther, hPercent, hStall, hLag, and_self, ↓reduceIte]
    rfl, ?_⟩
  -- the margin in percent is exact
  have hMargin : ⌈Double.round (Double.round ((tOther : ℚ) * percent) / 100)⌉ =
      ⌈((tOther * percent : ℤ) / 100 : ℚ)⌉ := by
    rw [← Int.cast_mul, Double.round_intCast hProduct']
    exact_mod_cast Double.ceil_round_div hProduct' (b := 100) (by norm_num)
  have hMargin0 : 0 ≤ ⌈((tOther * percent : ℤ) / 100 : ℚ)⌉ := by
    have hNonneg : 0 ≤ tOther * percent := mul_nonneg hOther.2 hPercent.2
    have hNonnegQ : (0 : ℚ) ≤ (tOther * percent : ℤ) := by exact_mod_cast hNonneg
    exact Int.ceil_nonneg (by positivity)
  have hFinality := ((Double.Tracks.of_isSafe hStall.1).add (Double.Tracks.of_isSafe hLag.1)
    hStall.2 hLag.2).round
  have hMax := (Double.Tracks.self hMargin0).max hFinality hMargin0
  rw [hMargin]
  exact ((Double.Tracks.of_isSafe hOther.1).add hMax hOther.2
    (le_trans hMargin0 (le_max_left _ _))).round

/-- Rule 3 of a leg A that is refunded after the lock time, to the millisecond. -/
theorem ruleThree_tracks (h : WellFormed legA legB lockTimeMs policy)
    (hProduct : Double.isSafe (exactTOther legA lockTimeMs policy * policy.flopMarginPercent) = true)
    (hOther : 0 ≤ exactTOther legA lockTimeMs policy) :
    ∃ r, ruleThree numberText legA legB lockTimeMs policy = .ok r ∧
      r.tFlopBlocks = ⌈((legB.refundAfterMs - lockTimeMs : ℤ) / policy.flopBlockMs : ℚ)⌉ ∧
      Double.Tracks r.requiredTFlopBlocks (exactBlocks legA lockTimeMs policy) ∧
      Double.Tracks r.requiredBRefundAfterMs (exactRequirement legA lockTimeMs policy) := by
  have hTOther : isNonNegativeSafeInt (exactTOther legA lockTimeMs policy) = true :=
    isNonNegativeSafeInt_iff.mpr ⟨isSafe_exactTOther h, hOther⟩
  obtain ⟨required, hRequired, hTracks⟩ :=
    timelockSymmetryMinimumBlocks_tracks numberText hTOther h.margin h.stall h.lag hProduct
  have hBlock := isPositiveSafeInt_iff.mp h.block
  have hLock := isPositiveSafeInt_iff.mp h.lockTime
  have hBlocks0 : 0 ≤ exactBlocks legA lockTimeMs policy := by
    have hStall := (isNonNegativeSafeInt_iff.mp h.stall).2
    have hLag := (isNonNegativeSafeInt_iff.mp h.lag).2
    refine add_nonneg hOther (le_trans ?_ (le_max_right _ _))
    omega
  have hMs := (hTracks.mul hBlocks0 hBlock.2).round
  have hMs0 : 0 ≤ exactBlocks legA lockTimeMs policy * policy.flopBlockMs :=
    mul_nonneg hBlocks0 hBlock.2.le
  refine ⟨⟨exactTOther legA lockTimeMs policy, _, required, _⟩, ?_, rfl, hTracks,
    ((Double.Tracks.of_isSafe hLock.1).add hMs hLock.2.le hMs0).round⟩
  unfold ruleThree
  rw [blocksBetween_safe numberText h.lockTime h.aRefundAfter h.block,
    blocksBetween_safe numberText h.lockTime h.bRefundAfter h.block]
  simp only [bind, Except.bind]
  rw [show ⌈((legA.refundAfterMs - lockTimeMs : ℤ) / policy.flopBlockMs : ℚ)⌉ =
    exactTOther legA lockTimeMs policy from rfl, hRequired]
  rfl

/-- Rule 3 of a leg A that is refunded a block before the lock time or earlier is not
evaluated. -/
theorem ruleThree_error (h : WellFormed legA legB lockTimeMs policy)
    (hOther : exactTOther legA lockTimeMs policy < 0) :
    ∃ message, ruleThree numberText legA legB lockTimeMs policy = .error message := by
  have hMinimum : ∃ message, timelockSymmetryMinimumBlocks numberText
      (exactTOther legA lockTimeMs policy) policy.flopMarginPercent
      policy.flopMaxFinalityStallBlocks policy.flopFinalityLagBlocks = .error message := by
    unfold timelockSymmetryMinimumBlocks
    simp only [require, not_le.mpr hOther, and_false, ↓reduceIte]
    exact ⟨_, rfl⟩
  obtain ⟨message, hMessage⟩ := hMinimum
  refine ⟨message, ?_⟩
  unfold ruleThree
  rw [blocksBetween_safe numberText h.lockTime h.aRefundAfter h.block,
    blocksBetween_safe numberText h.lockTime h.bRefundAfter h.block]
  simp only [bind, Except.bind]
  rw [show ⌈((legA.refundAfterMs - lockTimeMs : ℤ) / policy.flopBlockMs : ℚ)⌉ =
    exactTOther legA lockTimeMs policy from rfl, hMessage]

theorem violatesRule_checkRules_ok {r : RuleThree}
    (h : ruleThree numberText legA legB lockTimeMs policy = .ok r) :
    (checkRules numberText legA legB lockTimeMs policy).violatesRule 3 ↔
      (r.tFlopBlocks : ℚ) < r.requiredTFlopBlocks := by
  unfold DeadlineCheck.violatesRule checkRules
  rw [h]
  simp only [List.mem_append]
  constructor
  · rintro ⟨detail, (hOne | hTwo) | hShort⟩
    · split at hOne <;> simp at hOne
    · split at hTwo <;> simp at hTwo
    · split at hShort
      · assumption
      · simp at hShort
  · intro hLt
    rw [if_pos hLt]
    exact ⟨_, .inr (List.mem_singleton.mpr rfl)⟩

/-- No violation of rule 3: leg B lasts for more than a block less than the exact requirement. -/
theorem not_violatesRule_iff (h : WellFormed legA legB lockTimeMs policy)
    (hProduct : Double.isSafe (exactTOther legA lockTimeMs policy * policy.flopMarginPercent) = true)
    (hOther : 0 ≤ exactTOther legA lockTimeMs policy) :
    ¬ (checkSwapDeadlines numberText legA legB lockTimeMs policy).violatesRule 3 ↔
      exactRequirement legA lockTimeMs policy - policy.flopBlockMs < legB.refundAfterMs := by
  obtain ⟨r, hr, hFlop, hBlocks, -⟩ := ruleThree_tracks numberText h hProduct hOther
  have hBlock : 0 < policy.flopBlockMs := (isPositiveSafeInt_iff.mp h.block).2
  have hBlockQ : (0 : ℚ) < policy.flopBlockMs := by exact_mod_cast hBlock
  have hSafe : Double.isSafe r.tFlopBlocks = true := by
    rw [hFlop]
    exact @isSafe_exactTOther legB legA _ _
      { h with
        aClaimBy := h.bClaimBy, aRefundAfter := h.bRefundAfter, aExpires := h.bExpires
        aOrder := h.bOrder, bClaimBy := h.aClaimBy, bRefundAfter := h.aRefundAfter
        bExpires := h.aExpires, bOrder := h.aOrder }
  rw [checkSwapDeadlines_wellFormed numberText h, violatesRule_checkRules_ok numberText hr,
    hBlocks.lt_iff hSafe, hFlop, not_lt, Int.le_ceil_iff, lt_div_iff₀ hBlockQ]
  unfold exactRequirement
  generalize exactBlocks legA lockTimeMs policy = blocks
  have hCast : ((blocks : ℚ) - 1) * policy.flopBlockMs < (legB.refundAfterMs - lockTimeMs : ℤ) ↔
      (blocks - 1) * policy.flopBlockMs < legB.refundAfterMs - lockTimeMs := by
    exact_mod_cast Iff.rfl
  rw [hCast, sub_mul, one_mul]
  omega

/-- The requirement that is reported is the exact one, as far as a time compares with it. -/
theorem admitsRefundAfter_iff (h : WellFormed legA legB lockTimeMs policy)
    (hProduct : Double.isSafe (exactTOther legA lockTimeMs policy * policy.flopMarginPercent) = true)
    (hOther : 0 ≤ exactTOther legA lockTimeMs policy) :
    (checkSwapDeadlines numberText legA legB lockTimeMs policy).admitsRefundAfter
        legB.refundAfterMs ↔
      exactRequirement legA lockTimeMs policy ≤ legB.refundAfterMs := by
  obtain ⟨r, hr, -, -, hRequired⟩ := ruleThree_tracks numberText h hProduct hOther
  rw [checkSwapDeadlines_wellFormed numberText h,
    ← hRequired.le_iff (isPositiveSafeInt_iff.mp h.bRefundAfter).1]
  unfold DeadlineCheck.admitsRefundAfter checkRules
  rw [hr]
  simp

theorem checkSwapDeadlines_unevaluated (h : WellFormed legA legB lockTimeMs policy)
    (hOther : exactTOther legA lockTimeMs policy < 0) :
    (checkSwapDeadlines numberText legA legB lockTimeMs policy).violatesRule 3 ∧
      ¬ (checkSwapDeadlines numberText legA legB lockTimeMs policy).admitsRefundAfter
        legB.refundAfterMs := by
  obtain ⟨message, hMessage⟩ := ruleThree_error numberText h hOther
  rw [checkSwapDeadlines_wellFormed numberText h]
  unfold DeadlineCheck.violatesRule DeadlineCheck.admitsRefundAfter checkRules
  rw [hMessage]
  exact ⟨⟨_, List.mem_append_right _ (List.mem_singleton.mpr rfl)⟩, by simp⟩

/-- Rule 3 reports a leg B exactly when it is refunded before the time that the check returns,
and exactly when it is refunded before the exact requirement. -/
def RuleThreeExact (legA legB : OfferFrame) (lockTimeMs : ℤ) (policy : DeadlinePolicy) : Prop :=
  let check := checkSwapDeadlines numberText legA legB lockTimeMs policy
  (¬ check.violatesRule 3 ↔ check.admitsRefundAfter legB.refundAfterMs) ∧
    (¬ check.violatesRule 3 ↔ exactRequirement legA lockTimeMs policy ≤ legB.refundAfterMs)

/-- A leg A that is refunded a block before the lock time or earlier: leg B is refunded before
the exact requirement. Otherwise: leg B does not end within the last block before it. -/
def ExactWhen (legA legB : OfferFrame) (lockTimeMs : ℤ) (policy : DeadlinePolicy) : Prop :=
  let required := exactRequirement legA lockTimeMs policy
  if legA.refundAfterMs - lockTimeMs ≤ -policy.flopBlockMs then legB.refundAfterMs < required
  else ¬ (required - policy.flopBlockMs < legB.refundAfterMs ∧ legB.refundAfterMs < required)

theorem exactTOther_neg_iff (h : WellFormed legA legB lockTimeMs policy) :
    exactTOther legA lockTimeMs policy < 0 ↔
      legA.refundAfterMs - lockTimeMs ≤ -policy.flopBlockMs := by
  have hBlock : 0 < policy.flopBlockMs := (isPositiveSafeInt_iff.mp h.block).2
  have hBlockQ : (0 : ℚ) < policy.flopBlockMs := by exact_mod_cast hBlock
  have hLe : exactTOther legA lockTimeMs policy < 0 ↔ exactTOther legA lockTimeMs policy ≤ -1 := by
    omega
  rw [hLe]
  unfold exactTOther
  rw [Int.ceil_le, div_le_iff₀ hBlockQ]
  have hCast : ((legA.refundAfterMs - lockTimeMs : ℤ) : ℚ) ≤ ((-1 : ℤ) : ℚ) * policy.flopBlockMs ↔
      legA.refundAfterMs - lockTimeMs ≤ -1 * policy.flopBlockMs := by
    exact_mod_cast Iff.rfl
  rw [hCast, neg_one_mul]

/-- Leg B may end up to a millisecond less than a block before the time it has to last to. -/
theorem rule_three_exact_iff (h : WellFormed legA legB lockTimeMs policy)
    (hProduct : Double.isSafe (exactTOther legA lockTimeMs policy * policy.flopMarginPercent) =
      true) :
    RuleThreeExact numberText legA legB lockTimeMs policy ↔
      ExactWhen legA legB lockTimeMs policy := by
  unfold RuleThreeExact ExactWhen
  rcases lt_or_ge (exactTOther legA lockTimeMs policy) 0 with hOther | hOther
  · obtain ⟨hViolates, hAdmits⟩ := checkSwapDeadlines_unevaluated numberText h hOther
    simp only [hViolates, hAdmits, (exactTOther_neg_iff h).mp hOther, not_true_eq_false,
      false_iff, true_and, not_le, ↓reduceIte]
  · have hNot : ¬ legA.refundAfterMs - lockTimeMs ≤ -policy.flopBlockMs :=
      fun hLe => absurd ((exactTOther_neg_iff h).mpr hLe) (not_lt.mpr hOther)
    have hBlock : 0 < policy.flopBlockMs := (isPositiveSafeInt_iff.mp h.block).2
    simp only [not_violatesRule_iff numberText h hProduct hOther,
      admitsRefundAfter_iff numberText h hProduct hOther, hNot, ↓reduceIte, and_self]
    omega

end

end

namespace Sample

/-- A leg as far as its times go. -/
def leg (claimByMs refundAfterMs : ℤ) : OfferFrame :=
  { id := "swap", sender := "did:key:z6Mk", role := .payee, lock := "hash", asset := "FLOP"
    amount := "1", rails := ["flop-htlc"], expiresMs := 1000000, claimByMs := claimByMs
    refundAfterMs := refundAfterMs, job := none }

/-- `DEFAULT_POLICY_EXAMPLE`. -/
def policy : DeadlinePolicy :=
  { minRevealWindowMs := 30 * 60 * 1000, finalityAMs := 10 * 60 * 1000, flopMarginPercent := 20
    flopMaxFinalityStallBlocks := 3600, flopFinalityLagBlocks := 0, flopBlockMs := 1000 }

/-- The digits of an integer. -/
def digits (v : ℚ) : String := toString v.num

end Sample

open Sample in
/-- Leg A has an hour, so that leg B has to have two: it has a millisecond less, and the check
is passed. -/
theorem rule_three_short :
    (checkSwapDeadlines digits (leg 2000000 4600000) (leg 5200000 8199999) 1000000 policy).ok =
        true ∧
      ¬ RuleThreeExact digits (leg 2000000 4600000) (leg 5200000 8199999) 1000000 policy := by
  refine ⟨by decide +kernel, ?_⟩
  rintro ⟨-, hExact⟩
  have hNone : (checkSwapDeadlines digits (leg 2000000 4600000) (leg 5200000 8199999) 1000000
      policy).violations = [] := by decide +kernel
  have hLong : exactRequirement (leg 2000000 4600000) 1000000 policy ≤ 8199999 := by
    refine hExact.mp ?_
    rintro ⟨detail, hMem⟩
    rw [hNone] at hMem
    cases hMem
  exact absurd hLong (by decide +kernel)

open Sample in
/-- Leg B has two hours. -/
theorem rule_three_exact_sample :
    RuleThreeExact digits (leg 2000000 4600000) (leg 5200000 8200000) 1000000 policy := by
  have hWellFormed : WellFormed (leg 2000000 4600000) (leg 5200000 8200000) 1000000 policy := by
    constructor <;> decide
  exact (rule_three_exact_iff digits hWellFormed (by decide +kernel)).mpr
    (by unfold ExactWhen; decide +kernel)

end SwapDesk.Desk
