import SwapDesk.Desk.Swap

/-!
# SwapDesk — facts about the parts of the fold

What the stages of `foldSwap` are made of:

* the texts: no reason but the theft verdict reads like the theft reason;
* `bindObservation_eq_some`: binding keeps exactly the observations that are bound.
-/

namespace SwapDesk.Desk

-- ---------------------------------------------------------------------------
-- The theft reason is told apart from every other
-- ---------------------------------------------------------------------------

/-- The texts differ at a place both have. -/
def clash : List Char → List Char → Bool
  | c :: s, d :: r => c != d || clash s r
  | _, _ => false

/-- Texts that clash early clash whatever follows. -/
theorem clash_append {s r : List Char} (h : clash s r = true) (x : List Char) :
    clash (s ++ x) r = true := by
  induction s generalizing r with
  | nil => cases h
  | cons c s ih =>
    cases r with
    | nil => cases h
    | cons d r =>
      simp only [clash, Bool.or_eq_true] at h
      simp only [List.cons_append, clash, Bool.or_eq_true]
      exact h.imp_right (fun h => ih h)

/-- A text does not clash with itself. -/
theorem clash_irrefl (s : List Char) : clash s s = false := by
  induction s with
  | nil => rfl
  | cons c s ih => simp [clash, ih]

/-- A reason whose text differs from the theft reason's. -/
def Quiet (reason : String) : Prop :=
  clash reason.toList LEG_A_REFUNDED_AFTER_B_CLAIMED.toList = true

instance (reason : String) : Decidable (Quiet reason) :=
  inferInstanceAs (Decidable (_ = true))

/-- A quiet reason stays quiet whatever follows. -/
theorem Quiet.append {reason : String} (h : Quiet reason) (x : String) : Quiet (reason ++ x) := by
  unfold Quiet
  rw [String.toList_append]
  exact clash_append h _

/-- A quiet reason is not the one that marks a theft. -/
theorem Quiet.ne {reason : String} (h : Quiet reason) :
    reason ≠ LEG_A_REFUNDED_AFTER_B_CLAIMED := by
  rintro rfl
  rw [Quiet, clash_irrefl] at h
  cases h

/-- The reasons of steps are quiet. -/
theorem quiet_collectStepReasons {fold : Option TranscriptFoldResult} {leg : String}
    (h : Quiet (leg ++ " step ")) : ∀ reason ∈ collectStepReasons fold leg, Quiet reason := by
  intro reason hr
  cases fold with
  | none => cases hr
  | some fold =>
    obtain ⟨step, -, hstep⟩ := List.mem_filterMap.mp hr
    split at hstep
    · cases hstep
    · obtain rfl := Option.some.inj hstep
      exact ((h.append _).append _).append _

/-- The reasons of binding are quiet. -/
theorem quiet_bindObservation {t : Tclk} {leg : Leg} {state : Option ContractState}
    {observation : Option RailObservation} :
    ∀ reason ∈ (bindObservation t leg state observation).2, Quiet reason := by
  have hpush : ∀ why, ∀ reason ∈ ["leg " ++ leg.label ++ " rail observation ignored: " ++ why],
      Quiet reason := by
    intro why reason hr
    rw [List.mem_singleton.mp hr]
    exact Quiet.append (by cases leg <;> decide) why
  -- every reason that is given begins in the same way
  unfold bindObservation
  intro reason hr
  dsimp only at hr
  split at hr
  · cases hr
  · split at hr
    · split at hr
      · exact hpush _ _ hr
      · split at hr
        · split at hr
          · exact hpush _ _ hr
          · split_ifs at hr
            · exact hpush _ _ hr
            · exact hpush _ _ hr
            · exact hpush _ _ hr
            · split at hr
              · exact hpush _ _ hr
              · cases hr
        · exact hpush _ _ hr
    · exact hpush _ _ hr

/-- The reasons of a refunded fold are quiet. -/
theorem quiet_refundedFold {leg : Leg} {state : ContractState} {rail : Option RailObservation} :
    ∀ reason ∈ (refundedFold leg state rail).2, Quiet reason := by
  intro reason hr
  unfold refundedFold at hr
  split_ifs at hr
  · cases hr
  · cases hr
  · cases hr
  · split at hr <;> rw [List.mem_singleton.mp hr]
    · cases leg <;> decide
    · exact (((Quiet.append (by cases leg <;> decide) _).append _).append _).append _

/-- The reasons of orientation are quiet. -/
theorem quiet_checkOrientation {t : Tclk} {offer : OfferFrame} {context : SwapContext}
    {registry : Option CustomRailRegistry} {reason : String}
    (h : checkOrientation t offer context registry = .error reason) : Quiet reason := by
  have hrole : Quiet ("leg " ++ context.leg ++ " must be opened by its payer (got role ") := by
    have hleg : context.leg = "a" ∨ context.leg = "b" := by cases context <;> simp [SwapContext.leg]
    rcases hleg with hleg | hleg <;> rw [hleg] <;> decide
  unfold checkOrientation at h
  split at h
  · cases h
    exact (hrole.append _).append _
  split at h
  · cases h
    decide
  split at h
  · cases h
    decide
  split at h
  · split_ifs at h <;> cases h
    · decide
    · decide
    · exact (Quiet.append (by decide) _).append _
  · split_ifs at h <;> cases h
    · exact (Quiet.append (by decide) _).append _
    · decide

/-- The reasons of a lock are quiet. -/
theorem quiet_evaluateLock {evidence : Option LockEvidence} {expected : LockTerms} {leg : Leg}
    {state : ContractState} {reason : String}
    (h : (evaluateLock evidence expected leg state).reason = some reason) : Quiet reason := by
  unfold evaluateLock at h
  split at h
  · cases h
  split at h
  · cases h
    cases leg <;> decide
  split at h
  · cases h
    exact (Quiet.append (by cases leg <;> decide) _).append _
  · split at h <;> cases h

-- ---------------------------------------------------------------------------
-- Binding
-- ---------------------------------------------------------------------------

/-- The observation is one of this leg: its rail, ref and contract are those of the
accepted lock, and its terms all nine of the accepted pair. -/
def BoundTo (t : Tclk) (state : ContractState) (o : RailObservation) : Prop :=
  ∃ rail ref terms, state.rail = some rail ∧ state.railRef = some ref ∧
    t.lockTerms state = some terms ∧ o.rail = some rail ∧ o.ref = some ref ∧
    o.contract = some terms.contract ∧ o.terms = some terms

/-- Binding keeps exactly the observations that are bound. -/
theorem bindObservation_eq_some {t : Tclk} {leg : Leg} {state : Option ContractState}
    {observation : Option RailObservation} {o : RailObservation} :
    (bindObservation t leg state observation).1 = some o ↔
      observation = some o ∧ ∃ s, state = some s ∧ BoundTo t s o := by
  constructor
  · intro h
    unfold bindObservation at h
    -- each refusal gives no observation
    dsimp only at h
    split at h
    · cases h
    split at h
    case h_2 => cases h
    rename_i claimed _ _ _ _ rail ref contract terms hrail href hcontract hterms
    split at h
    · cases h
    split at h
    case h_2 => cases h
    rename_i hstateRail hstateRef
    split at h
    · cases h
    rename_i expected hexpected
    split_ifs at h with h₁ h₂ h₃
    split at h
    · cases h
    rename_i hmismatch
    -- so what is left agrees in the rail, the ref, the contract and the terms
    obtain rfl := Option.some.inj h
    obtain rfl := lockTermsMismatch_eq_none.mp hmismatch
    obtain rfl := not_not.mp h₁
    obtain rfl := not_not.mp h₂
    obtain rfl := not_not.mp h₃
    exact ⟨rfl, _, rfl, _, _, _, hstateRail, hstateRef, hexpected, hrail, href, hcontract,
      hterms⟩
  · rintro ⟨rfl, s, rfl, rail, ref, terms, hrail, href, hterms, horail, horef, hocontract, hoterms⟩
    simp [bindObservation, horail, horef, hocontract, hoterms, hrail, href, hterms,
      lockTermsMismatch_eq_none.mpr]

end SwapDesk.Desk
