import SwapDesk.Desk.Deadlines
import SwapDesk.HashRail.Safety
import SwapDesk.Lib.HtlcWall

/-!
# SwapDesk — what accepted deadlines are good for

Legs that `checkSwapDeadlines` accepts, on two chains whose blocks keep to one clock. The leg A
that the Seller claims leaves the Buyer the time of rule 2 to claim leg B, whatever else happens
on the two chains and in whatever order; and a leg A that is not claimed in time leaves both legs
to their payers.

Main results: `ok_iff_exact` and `accepted_legs_window`.
-/

namespace SwapDesk.Desk

open Check

variable (numberText : ℚ → String) {legA legB : OfferFrame} {lockTimeMs : ℤ}
  {policy : DeadlinePolicy}

-- ---------------------------------------------------------------------------
-- The verdict
-- ---------------------------------------------------------------------------

/-- Rules 1 to 3, computed exactly. In rule 3 leg B may end up to a block early. -/
structure ExactRules (legA legB : OfferFrame) (lockTimeMs : ℤ) (policy : DeadlinePolicy) :
    Prop where
  wellFormed : WellFormed legA legB lockTimeMs policy
  reveal : lockTimeMs + policy.minRevealWindowMs ≤ legA.refundAfterMs
  redeem : legA.refundAfterMs + policy.finalityAMs ≤ legB.claimByMs
  started : 0 ≤ exactTOther legA lockTimeMs policy
  symmetry : exactRequirement legA lockTimeMs policy - policy.flopBlockMs < legB.refundAfterMs

/-- A check that reports nothing holds. -/
theorem reported_eq_nil {ok : Bool} {violation : Violation} :
    (if ok = true then [] else [violation]) = [] ↔ ok = true := by
  cases ok <;> simp

/-- A rule that reports nothing is not broken. -/
theorem broken_eq_nil {broken : Prop} [Decidable broken] {violation : Violation} :
    (if broken then [violation] else []) = [] ↔ ¬ broken := by
  by_cases h : broken <;> simp [h]

theorem checkLegInvariants_eq_nil {label : String} {leg : OfferFrame} :
    checkLegInvariants numberText label leg = [] ↔
      (isPositiveSafeInt leg.claimByMs = true ∧ isPositiveSafeInt leg.refundAfterMs = true ∧
        isPositiveSafeInt leg.expiresMs = true) ∧ leg.claimByMs < leg.refundAfterMs := by
  unfold checkLegInvariants
  dsimp only
  simp only [List.append_eq_nil_iff, reported_eq_nil]
  split
  · rename_i hOrder
    exact ⟨fun h => absurd h (List.cons_ne_nil _ _), fun h => absurd h.2 hOrder.2⟩
  · rename_i hOrder
    simp only [List.append_eq_nil_iff, reported_eq_nil]
    refine ⟨fun h => ?_, fun h => ⟨⟨h.1.1, h.1.2.1⟩, h.1.2.2⟩⟩
    exact ⟨⟨h.1.1, h.1.2, h.2⟩, by_contra fun hNot => hOrder ⟨h, hNot⟩⟩

theorem checkPolicy_eq_nil : checkPolicy numberText policy = [] ↔
    isNonNegativeSafeInt policy.minRevealWindowMs = true ∧
      isNonNegativeSafeInt policy.finalityAMs = true ∧
      isNonNegativeSafeInt policy.flopMarginPercent = true ∧
      isNonNegativeSafeInt policy.flopMaxFinalityStallBlocks = true ∧
      isNonNegativeSafeInt policy.flopFinalityLagBlocks = true ∧
      isPositiveSafeInt policy.flopBlockMs = true := by
  unfold checkPolicy
  simp only [List.append_eq_nil_iff, reported_eq_nil, and_assoc]

theorem wellFormed_iff : WellFormed legA legB lockTimeMs policy ↔
    isPositiveSafeInt lockTimeMs = true ∧ checkLegInvariants numberText "legA" legA = [] ∧
      checkLegInvariants numberText "legB" legB = [] ∧ checkPolicy numberText policy = [] := by
  rw [checkLegInvariants_eq_nil, checkLegInvariants_eq_nil, checkPolicy_eq_nil]
  constructor
  · intro h
    exact ⟨h.lockTime, ⟨⟨h.aClaimBy, h.aRefundAfter, h.aExpires⟩, h.aOrder⟩,
      ⟨⟨h.bClaimBy, h.bRefundAfter, h.bExpires⟩, h.bOrder⟩, h.minRevealWindow, h.finalityA,
      h.margin, h.stall, h.lag, h.block⟩
  · rintro ⟨hLock, ⟨⟨hA₁, hA₂, hA₃⟩, hA₄⟩, ⟨⟨hB₁, hB₂, hB₃⟩, hB₄⟩, hReveal, hFinality, hMargin,
      hStall, hLag, hBlock⟩
    exact ⟨hLock, hA₁, hA₂, hA₃, hA₄, hB₁, hB₂, hB₃, hB₄, hReveal, hFinality, hMargin, hStall, hLag,
      hBlock⟩

/-- Only what is well formed is accepted. -/
theorem wellFormed_of_ok (h : (checkSwapDeadlines numberText legA legB lockTimeMs policy).ok = true) :
    WellFormed legA legB lockTimeMs policy := by
  by_contra hNot
  refine absurd h ?_
  unfold checkSwapDeadlines
  dsimp only
  rw [if_neg]
  · exact Bool.false_ne_true
  · intro hNil
    simp only [List.append_eq_nil_iff, reported_eq_nil, and_assoc] at hNil
    exact hNot ((wellFormed_iff numberText).mpr hNil)

/-- Rule 1 is exact. -/
theorem revealWindow_lt_iff (h : WellFormed legA legB lockTimeMs policy) :
    Double.round (legA.refundAfterMs - lockTimeMs) < (policy.minRevealWindowMs : ℚ) ↔
      legA.refundAfterMs < lockTimeMs + policy.minRevealWindowMs := by
  obtain ⟨hLockSafe, hLock⟩ := isPositiveSafeInt_iff.mp h.lockTime
  obtain ⟨hASafe, hA⟩ := isPositiveSafeInt_iff.mp h.aRefundAfter
  have hLock' : |lockTimeMs| < 2 ^ 53 := of_decide_eq_true hLockSafe
  have hA' : |legA.refundAfterMs| < 2 ^ 53 := of_decide_eq_true hASafe
  rw [abs_of_pos hLock] at hLock'
  rw [abs_of_pos hA] at hA'
  have hSafe : |legA.refundAfterMs - lockTimeMs| < 2 ^ 53 := by
    rw [abs_lt]
    omega
  rw [← Int.cast_sub, Double.round_intCast hSafe, Int.cast_lt]
  omega

/-- Rule 2 is exact. -/
theorem claimBy_lt_iff (h : WellFormed legA legB lockTimeMs policy) :
    (legB.claimByMs : ℚ) < Double.round (legA.refundAfterMs + policy.finalityAMs) ↔
      legB.claimByMs < legA.refundAfterMs + policy.finalityAMs := by
  obtain ⟨hASafe, hA⟩ := isPositiveSafeInt_iff.mp h.aRefundAfter
  obtain ⟨hFinalitySafe, hFinality⟩ := isNonNegativeSafeInt_iff.mp h.finalityA
  have hSum := ((Double.Tracks.of_isSafe hASafe).add (.of_isSafe hFinalitySafe) hA.le
    hFinality).round
  exact hSum.lt_iff (isPositiveSafeInt_iff.mp h.bClaimBy).1

/-- The verdict on legs that are well formed, as the exact rules have it. -/
theorem ok_checkRules_iff (h : WellFormed legA legB lockTimeMs policy)
    (hProduct : Double.isSafe (exactTOther legA lockTimeMs policy * policy.flopMarginPercent) =
      true) :
    (checkRules numberText legA legB lockTimeMs policy).ok = true ↔
      lockTimeMs + policy.minRevealWindowMs ≤ legA.refundAfterMs ∧
      legA.refundAfterMs + policy.finalityAMs ≤ legB.claimByMs ∧
      0 ≤ exactTOther legA lockTimeMs policy ∧
      exactRequirement legA lockTimeMs policy - policy.flopBlockMs < legB.refundAfterMs := by
  unfold checkRules
  dsimp only
  rw [← not_lt, ← not_lt, ← revealWindow_lt_iff h, ← claimBy_lt_iff h]
  rcases lt_or_ge (exactTOther legA lockTimeMs policy) 0 with hOther | hOther
  · obtain ⟨message, hMessage⟩ := ruleThree_error numberText h hOther
    rw [hMessage]
    exact ⟨fun hOk => absurd hOk Bool.false_ne_true, fun hAll => absurd hOther (not_lt.mpr hAll.2.2.1)⟩
  · have hThree := not_violatesRule_iff numberText h hProduct hOther
    obtain ⟨r, hr, -⟩ := ruleThree_tracks numberText h hProduct hOther
    rw [checkSwapDeadlines_wellFormed numberText h, violatesRule_checkRules_ok numberText hr] at hThree
    rw [← hThree, hr]
    simp only [decide_eq_true_eq, List.append_eq_nil_iff, broken_eq_nil, and_assoc, hOther,
      true_and]

/-- What is accepted: the legs that meet the three rules in exact arithmetic, as long as the margin
of rule 3 is no larger a product than a double counts up to. -/
theorem ok_iff_exact (hProduct : Double.isSafe (exactTOther legA lockTimeMs policy *
    policy.flopMarginPercent) = true) :
    (checkSwapDeadlines numberText legA legB lockTimeMs policy).ok = true ↔
      ExactRules legA legB lockTimeMs policy := by
  constructor
  · intro hOk
    have hFormed := wellFormed_of_ok numberText hOk
    rw [checkSwapDeadlines_wellFormed numberText hFormed, ok_checkRules_iff numberText hFormed
      hProduct] at hOk
    exact ⟨hFormed, hOk.1, hOk.2.1, hOk.2.2.1, hOk.2.2.2⟩
  · intro h
    rw [checkSwapDeadlines_wellFormed numberText h.wellFormed,
      ok_checkRules_iff numberText h.wellFormed hProduct]
    exact ⟨h.reveal, h.redeem, h.started, h.symmetry⟩

/-- The minimum is at least that of the stall alone, as far as a number of blocks compares
with it. -/
theorem stall_le_of_minimum {tOther percent stall lag tFlop : ℤ} {required : ℚ}
    (hOther : Double.isSafe tOther = true) (hFlop : Double.isSafe tFlop = true)
    (h : timelockSymmetryMinimumBlocks numberText tOther percent stall lag = .ok required)
    (hLong : required ≤ tFlop) : tOther + (stall + lag) ≤ tFlop := by
  simp only [timelockSymmetryMinimumBlocks, require_bind_eq_ok] at h
  obtain ⟨⟨-, hOther0⟩, -, ⟨hStall, hStall0⟩, ⟨hLag, hLag0⟩, hRequired⟩ := h
  obtain rfl := Except.ok.inj hRequired
  have hMargin := ((Double.Tracks.of_isSafe hStall).add (.of_isSafe hLag) hStall0 hLag0).round
  have hMargin0 : 0 ≤ stall + lag := by omega
  have hSum := (Double.Tracks.of_isSafe hOther).add hMargin hOther0 hMargin0
  rw [← hSum.round.le_iff hFlop]
  refine le_trans (Double.round_mono (hSum.nonneg (by omega)) ?_) hLong
  exact add_le_add_right (le_max_right _ _) _

theorem le_mul_exactTOther (legA : OfferFrame) (lockTimeMs : ℤ) (hBlock : 0 < policy.flopBlockMs) :
    legA.refundAfterMs - lockTimeMs ≤ exactTOther legA lockTimeMs policy * policy.flopBlockMs := by
  have hBlockQ : (0 : ℚ) < policy.flopBlockMs := by exact_mod_cast hBlock
  have hCeil : ((legA.refundAfterMs - lockTimeMs : ℤ) : ℚ) ≤
      ((exactTOther legA lockTimeMs policy * policy.flopBlockMs : ℤ) : ℚ) := by
    rw [Int.cast_mul]
    exact (div_le_iff₀ hBlockQ).mp (Int.le_ceil _)
  exact Int.cast_le.mp hCeil

/-- Rule 3 makes leg B last as long as leg A and the stall of its chain, but for a block. -/
theorem stall_of_ruleThree (h : WellFormed legA legB lockTimeMs policy) {r : RuleThree}
    (hr : ruleThree numberText legA legB lockTimeMs policy = .ok r)
    (hLong : ¬ (r.tFlopBlocks : ℚ) < r.requiredTFlopBlocks) :
    legA.refundAfterMs + (policy.flopMaxFinalityStallBlocks + policy.flopFinalityLagBlocks - 1) *
      policy.flopBlockMs < legB.refundAfterMs := by
  have hBlock : 0 < policy.flopBlockMs := (isPositiveSafeInt_iff.mp h.block).2
  have hBlockQ : (0 : ℚ) < policy.flopBlockMs := by exact_mod_cast hBlock
  unfold ruleThree at hr
  rw [blocksBetween_safe numberText h.lockTime h.aRefundAfter h.block,
    blocksBetween_safe numberText h.lockTime h.bRefundAfter h.block] at hr
  obtain ⟨tOther, hTOther, hr⟩ := bind_eq_ok.mp hr
  obtain rfl := Except.ok.inj hTOther
  obtain ⟨tFlop, hTFlop, hr⟩ := bind_eq_ok.mp hr
  obtain rfl := Except.ok.inj hTFlop
  obtain ⟨required, hRequired, hr⟩ := bind_eq_ok.mp hr
  obtain rfl := Except.ok.inj hr
  -- leg B has enough blocks, of which it may leave the last
  have hFlopSafe : Double.isSafe ⌈((legB.refundAfterMs - lockTimeMs : ℤ) / policy.flopBlockMs : ℚ)⌉ =
      true := @isSafe_exactTOther legB legA _ _
    { h with
      aClaimBy := h.bClaimBy, aRefundAfter := h.bRefundAfter, aExpires := h.bExpires
      aOrder := h.bOrder, bClaimBy := h.aClaimBy, bRefundAfter := h.aRefundAfter
      bExpires := h.aExpires, bOrder := h.aOrder }
  have hBlocks := stall_le_of_minimum numberText (isSafe_exactTOther h) hFlopSafe hRequired
    (not_lt.mp hLong)
  rw [Int.le_ceil_iff, lt_div_iff₀ hBlockQ] at hBlocks
  have hMs : (exactTOther legA lockTimeMs policy + (policy.flopMaxFinalityStallBlocks +
      policy.flopFinalityLagBlocks) - 1) * policy.flopBlockMs < legB.refundAfterMs - lockTimeMs := by
    exact_mod_cast hBlocks
  have hA := le_mul_exactTOther legA lockTimeMs hBlock
  have hSplit : (exactTOther legA lockTimeMs policy + (policy.flopMaxFinalityStallBlocks +
      policy.flopFinalityLagBlocks) - 1) * policy.flopBlockMs =
      exactTOther legA lockTimeMs policy * policy.flopBlockMs +
        (policy.flopMaxFinalityStallBlocks + policy.flopFinalityLagBlocks - 1) *
          policy.flopBlockMs := by
    ring
  omega

/-- What an accepted pair of legs has. -/
structure Accepted (legA legB : OfferFrame) (lockTimeMs : ℤ) (policy : DeadlinePolicy) : Prop where
  reveal : lockTimeMs + policy.minRevealWindowMs ≤ legA.refundAfterMs
  redeem : legA.refundAfterMs + policy.finalityAMs ≤ legB.claimByMs
  order : legB.claimByMs < legB.refundAfterMs
  stall : legA.refundAfterMs + (policy.flopMaxFinalityStallBlocks +
    policy.flopFinalityLagBlocks - 1) * policy.flopBlockMs < legB.refundAfterMs

/-- However large the numbers are. -/
theorem accepted_of_ok (h : (checkSwapDeadlines numberText legA legB lockTimeMs policy).ok = true) :
    Accepted legA legB lockTimeMs policy := by
  have hFormed := wellFormed_of_ok numberText h
  rw [checkSwapDeadlines_wellFormed numberText hFormed] at h
  unfold checkRules at h
  dsimp only at h
  cases hr : ruleThree numberText legA legB lockTimeMs policy with
  | error message =>
    rw [hr] at h
    cases h
  | ok r =>
    rw [hr] at h
    simp only [decide_eq_true_eq, List.append_eq_nil_iff, broken_eq_nil] at h
    obtain ⟨⟨hReveal, hRedeem⟩, hLong⟩ := h
    rw [revealWindow_lt_iff hFormed, not_lt] at hReveal
    rw [claimBy_lt_iff hFormed, not_lt] at hRedeem
    exact ⟨hReveal, hRedeem, hFormed.bOrder, stall_of_ruleThree numberText hFormed hr hLong⟩

-- ---------------------------------------------------------------------------
-- Two legs on two chains
-- ---------------------------------------------------------------------------

section

open Htlc

variable {σ ε τ δ TermsA SecretA TermsB SecretB : Type} {A : Machine σ ε} {B : Machine τ δ}
  {rulesA : Rules TermsA SecretA ℤ} {rulesB : Rules TermsB SecretB ℤ} {clockA : σ → ℤ}
  {clockB : τ → ℤ} {viewA : σ → Option (Htlc.Lock TermsA SecretA)}
  {viewB : τ → Option (Htlc.Lock TermsB SecretB)} {drift : ℤ} {termsA : TermsA} {termsB : TermsB}
  {share : SecretA → SecretB}

/-- Locks on the terms of two legs, on one statement. -/
structure OnOneStatement (rulesA : Rules TermsA SecretA ℤ) (rulesB : Rules TermsB SecretB ℤ)
    (legA legB : OfferFrame) (termsA : TermsA) (termsB : TermsB) (share : SecretA → SecretB) :
    Prop where
  refundA : rulesA.refundAfter termsA = legA.refundAfterMs
  refundB : rulesB.refundAfter termsB = legB.refundAfterMs
  opens : ∀ secret, rulesA.opens termsA secret → rulesB.opens termsB (share secret)

/-- Leg A was locked in `p`, and is claimed with the secret by the step to `p'`. -/
structure Reveals (A : Machine σ ε) (B : Machine τ δ) (clockA : σ → ℤ) (clockB : τ → ℤ)
    (viewA : σ → Option (Htlc.Lock TermsA SecretA)) (drift : ℤ) (termsA : TermsA)
    (p p' : Pair σ τ) (secret : SecretA) : Prop where
  step : ∃ e, (pair A B clockA clockB drift).step p e p'
  before : viewA p.left = some ⟨termsA, .locked⟩
  after : viewA p'.left = some ⟨termsA, .claimed secret⟩

/-- What the two parties of a swap can count on from a state in which both legs are locked. -/
structure Windows (A : Machine σ ε) (B : Machine τ δ) (rulesA : Rules TermsA SecretA ℤ)
    (rulesB : Rules TermsB SecretB ℤ) (clockA : σ → ℤ) (clockB : τ → ℤ)
    (viewA : σ → Option (Htlc.Lock TermsA SecretA)) (viewB : τ → Option (Htlc.Lock TermsB SecretB))
    (drift : ℤ) (termsA : TermsA) (termsB : TermsB) (share : SecretA → SecretB)
    (legA legB : OfferFrame) (lockTimeMs : ℤ) (policy : DeadlinePolicy) (p : Pair σ τ) : Prop where
  /-- The Seller can claim leg A within the reveal window. -/
  reveal : ∀ es p', (pair A B clockA clockB drift).Leads p es p' → ∀ secret,
    rulesA.opens termsA secret → ∀ block, clockA p'.left ≤ block →
    block < lockTimeMs + policy.minRevealWindowMs →
    Htlc.Step rulesA block (viewA p'.left) (some ⟨termsA, .claimed secret⟩)
  /-- When the Seller does, the Buyer can claim leg B with what that shows. -/
  redeem : ∀ es p₁ p₂ secret fs p₃, (pair A B clockA clockB drift).Leads p es p₁ →
    Reveals A B clockA clockB viewA drift termsA p₁ p₂ secret →
    (pair A B clockA clockB drift).Leads p₂ fs p₃ → ∀ block, clockB p₃.right ≤ block →
    block + drift ≤ p₂.now + policy.finalityAMs → block < legB.claimByMs ∧
      Htlc.Step rulesB block (viewB p₃.right) (some ⟨termsB, .claimed (share secret)⟩)
  /-- A Buyer who loses leg B has let all that time go by, and the stall that rule 3 allows for. -/
  loss : ∀ es p₁ p₂ secret fs p₃, (pair A B clockA clockB drift).Leads p es p₁ →
    Reveals A B clockA clockB viewA drift termsA p₁ p₂ secret →
    (pair A B clockA clockB drift).Leads p₂ fs p₃ → viewB p₃.right = some ⟨termsB, .refunded⟩ →
    p₂.now + policy.finalityAMs < p₃.now + 2 * drift ∧
      p₂.now + (policy.flopMaxFinalityStallBlocks + policy.flopFinalityLagBlocks - 1) *
        policy.flopBlockMs < p₃.now + 2 * drift
  /-- A leg A that is not claimed in time is the Buyer's again, and no secret is shown. -/
  abort : ∀ es p₁ fs p₂, (pair A B clockA clockB drift).Leads p es p₁ →
    viewA p₁.left = some ⟨termsA, .locked⟩ → legA.refundAfterMs + drift ≤ p₁.now →
    (pair A B clockA clockB drift).Leads p₁ fs p₂ →
    viewA p₂.left = some ⟨termsA, .locked⟩ ∨ viewA p₂.left = some ⟨termsA, .refunded⟩

variable {p p' : Pair σ τ}

/-- The Seller reveals no later than leg A's refund time, by the clock on the wall. -/
theorem Reveals.time (hA : Refines A rulesA clockA viewA)
    (hReach : (pair A B clockA clockB drift).Reachable p) {secret : SecretA}
    (h : Reveals A B clockA clockB viewA drift termsA p p' secret) :
    p'.now < rulesA.refundAfter termsA + drift ∧ rulesA.opens termsA secret := by
  obtain ⟨e, hStep⟩ := h.step
  exact hA.claimed_at (Pair.reachable hReach).1 (Pair.Step.walls hStep).1 h.before h.after

theorem windows (hA : Refines A rulesA clockA viewA) (hB : Refines B rulesB clockB viewB)
    (hLegs : OnOneStatement rulesA rulesB legA legB termsA termsB share)
    (hAccepted : Accepted legA legB lockTimeMs policy)
    (hReach : (pair A B clockA clockB drift).Reachable p)
    (hLockedA : viewA p.left = some ⟨termsA, .locked⟩)
    (hLockedB : viewB p.right = some ⟨termsB, .locked⟩) :
    Windows A B rulesA rulesB clockA clockB viewA viewB drift termsA termsB share legA legB
      lockTimeMs policy p where
  reveal es p' hRun secret hOpens block hBlock hTime := by
    -- leg A is claimed before its refund time, which the policy puts after the reveal
    refine hA.claimable (Pair.reachable hReach).1 (Pair.leads hRun).1 hLockedA hOpens hBlock ?_
    rw [hLegs.refundA]
    exact lt_of_lt_of_le hTime hAccepted.reveal
  redeem es p₁ p₂ secret fs p₃ hRun hReveals hRun' block hBlock hTime := by
    -- the reveal was made before leg A's refund time, so there is room before leg B's
    obtain ⟨hNow, hOpens⟩ := hReveals.time hA (hReach.leads hRun)
    obtain ⟨e, hStep⟩ := hReveals.step
    have hAll := hRun.append (.cons hStep hRun')
    rw [hLegs.refundA] at hNow
    have hRedeem := hAccepted.redeem
    have hOrder := hAccepted.order
    refine ⟨by omega, ?_⟩
    refine hB.claimable (Pair.reachable hReach).2 (Pair.leads hAll).2 hLockedB
      (hLegs.opens secret hOpens) hBlock ?_
    rw [hLegs.refundB]
    omega
  -- leg B is not refunded before its own time, which is later still
  loss es p₁ p₂ secret fs p₃ hRun hReveals hRun' hRefunded := by
    obtain ⟨hNow, -⟩ := hReveals.time hA (hReach.leads hRun)
    obtain ⟨e, hStep⟩ := hReveals.step
    have hAll := hRun.append (.cons hStep hRun')
    have hLate := hB.not_refunded (Pair.reachable hReach).2 (Pair.leads hAll).2 hLockedB hRefunded
    rw [hLegs.refundA] at hNow
    rw [hLegs.refundB] at hLate
    have hRedeem := hAccepted.redeem
    have hOrder := hAccepted.order
    have hStall := hAccepted.stall
    dsimp only at hLate
    exact ⟨by omega, by omega⟩
  abort es p₁ fs p₂ hRun hLocked hLate hRun' := by
    -- a claim of leg A comes too late here
    rw [← hLegs.refundA] at hLate
    exact hA.not_claimed (Pair.reachable (hReach.leads hRun)).1 (Pair.leads hRun').1 hLocked hLate

/-- Legs that the check accepts, locked on any two chains whose rails are hash time locks: the
windows are those that the profile promises, in every interleaving of the two chains. -/
theorem accepted_legs_window (hA : Refines A rulesA clockA viewA)
    (hB : Refines B rulesB clockB viewB)
    (hLegs : OnOneStatement rulesA rulesB legA legB termsA termsB share)
    (hOk : (checkSwapDeadlines numberText legA legB lockTimeMs policy).ok = true)
    (hReach : (pair A B clockA clockB drift).Reachable p)
    (hLockedA : viewA p.left = some ⟨termsA, .locked⟩)
    (hLockedB : viewB p.right = some ⟨termsB, .locked⟩) :
    Windows A B rulesA rulesB clockA clockB viewA viewB drift termsA termsB share legA legB
      lockTimeMs policy p :=
  windows hA hB hLegs (accepted_of_ok numberText hOk) hReach hLockedA hLockedB

end

/-! ## A sample swap

Leg A is the lock of the sample run of the EVM rail, and leg B a lock on the same hash, by
itself. -/

namespace WindowSample

open HashRail (Bytes32)

def flopRules : Htlc.Rules (Bytes32 × ℤ) Bytes32 ℤ where
  refundAfter := Prod.snd
  opens terms secret := HashRail.Sample.deployment.sha256 secret = terms.1

def termsA : HashRail.Terms :=
  ⟨HashRail.Sample.hashLock, HashRail.Sample.alice, HashRail.Sample.bob, HashRail.Sample.usdc, 4,
    20000, 30000⟩

def termsB : Bytes32 × ℤ := (HashRail.Sample.hashLock, 60000)

def chainA : Machine HashRail.State (HashRail.Transaction HashRail.Sample.deployment) :=
  HashRail.system HashRail.Sample.deployment

def viewA (s : HashRail.State) : Option (Htlc.Lock HashRail.Terms Bytes32) :=
  s.world.view HashRail.Sample.hashLock

def margins : DeadlinePolicy := ⟨10000, 5000, 20, 3, 0, 1000⟩

/-- Alice has locked leg A. -/
def locked : HashRail.State :=
  (Machine.run HashRail.State.step HashRail.Sample.start
    (HashRail.Sample.transactions.take 1)).getD HashRail.Sample.start

def both : Htlc.Pair HashRail.State (Option (Htlc.Lock (Bytes32 × ℤ) Bytes32) × ℤ) :=
  ⟨locked, (some ⟨termsB, .locked⟩, 5000), 10000⟩

/-- Leg B is locked first. -/
theorem reachable_both :
    (Htlc.pair chainA (Htlc.bare flopRules) HashRail.State.clock Prod.snd 1000).Reachable both := by
  have hStart : (Htlc.pair chainA (Htlc.bare flopRules) HashRail.State.clock Prod.snd 1000).init
      ⟨HashRail.Sample.start, (none, 0), 1000⟩ :=
    ⟨⟨HashRail.Sample.initial_start, by decide⟩, rfl, by decide⟩
  have hLockB : (Htlc.pair chainA (Htlc.bare flopRules) HashRail.State.clock Prod.snd 1000).step
      ⟨HashRail.Sample.start, (none, 0), 1000⟩ (.inr ())
      ⟨HashRail.Sample.start, (some ⟨termsB, .locked⟩, 5000), 5000⟩ := by
    have hStep : (Htlc.bare flopRules).step (none, 0) () (some ⟨termsB, .locked⟩, 5000) :=
      ⟨by decide, .lock termsB (by decide)⟩
    exact .right () _ 5000 (by decide) hStep ⟨by decide, by decide⟩
  have hLockA : (Htlc.pair chainA (Htlc.bare flopRules) HashRail.State.clock Prod.snd 1000).step
      ⟨HashRail.Sample.start, (some ⟨termsB, .locked⟩, 5000), 5000⟩
      (.inl (HashRail.Sample.transactions.head (by decide))) both :=
    .left _ locked 10000 (by decide) rfl ⟨by decide, by decide⟩
  exact ((Machine.Reachable.init hStart).step hLockB).step hLockA

end WindowSample

section

open WindowSample

theorem ok_iff_exact_sample :
    (checkSwapDeadlines Sample.digits (Sample.leg 20000 30000) (Sample.leg 40000 60000) 11000
      margins).ok = true ↔
      ExactRules (Sample.leg 20000 30000) (Sample.leg 40000 60000) 11000 margins :=
  ok_iff_exact Sample.digits (by decide +kernel)

/-- The Seller has until leg A's refund time to claim, and the Buyer five seconds more. -/
theorem accepted_legs_window_sample :
    Windows chainA (Htlc.bare flopRules) (HashRail.rules HashRail.Sample.deployment) flopRules
      HashRail.State.clock Prod.snd viewA Prod.fst 1000 termsA termsB id
      (Sample.leg 20000 30000) (Sample.leg 40000 60000) 11000 margins both := by
  have hLegs : OnOneStatement (HashRail.rules HashRail.Sample.deployment) flopRules
      (Sample.leg 20000 30000) (Sample.leg 40000 60000) termsA termsB id :=
    ⟨rfl, rfl, fun _ hOpens => hOpens⟩
  exact accepted_legs_window Sample.digits (HashRail.refines _ _) (Htlc.refines_bare flopRules)
    hLegs (by decide +kernel) reachable_both rfl rfl

end

end SwapDesk.Desk
