import SwapDesk.Desk.SwapSafety

/-!
# SwapDesk — what the fold does not depend on

Two runs of `foldSwap` side by side.

* `foldSwap_dropRail`: an observation that is not bound to its leg changes nothing
  but the reasons. Each stage is blind to the reasons it extends, so two runs that
  start from views with the same bound evidence end in views that differ in their
  reasons only.
* `foldSwap_later`: later is the same, except that a swap that is paired or has
  only leg B locked may be abandoned. Only the last stage reads the clock.
-/

namespace SwapDesk.Desk

open Early

-- ---------------------------------------------------------------------------
-- Stages are blind to the reasons
-- ---------------------------------------------------------------------------

/-- The views differ in their reasons at most. -/
def Same (v w : SwapView) : Prop := v.eraseReasons = w.eraseReasons

/-- Views that are the same differ in their reasons only. -/
theorem Same.eq_with {v w : SwapView} (h : Same v w) : w = { v with reasons := w.reasons } := by
  have heq : ({ w.eraseReasons with reasons := w.reasons } : SwapView) =
      { v.eraseReasons with reasons := w.reasons } := by rw [h]
  exact heq

/-- Results of a stage that agree but for the reasons of the view. -/
def SameResult {α : Type} (r s : α × SwapView) : Prop := r.1 = s.1 ∧ Same r.2 s.2

section
variable {t : Tclk} {v w : SwapView}

/-- Opening leg A does not read the reasons. -/
theorem openLegA_agree (registry : Option CustomRailRegistry) (h : Same v w) :
    Agree Same SameResult (openLegA t registry v) (openLegA t registry w) := by
  rw [h.eq_with]
  unfold openLegA
  dsimp only
  split
  · exact rfl
  split
  · exact rfl
  · exact rfl
  split
  · exact rfl
  · exact ⟨rfl, rfl⟩

/-- Folding without leg B does not read the reasons. -/
theorem foldWithoutLegB_same (a : ContractState) (h : Same v w) :
    Same (foldWithoutLegB a v) (foldWithoutLegB a w) := by
  rw [h.eq_with]
  unfold foldWithoutLegB
  dsimp only [SwapView.push]
  split
  · exact rfl
  · exact rfl
  · exact rfl
  · split <;> exact rfl
  · exact rfl

/-- Opening leg B does not read the reasons. -/
theorem openLegB_agree (registry : Option CustomRailRegistry) (a : ContractState)
    (swapId : String) (h : Same v w) :
    Agree Same SameResult (openLegB t registry a swapId v) (openLegB t registry a swapId w) := by
  have hAlone := foldWithoutLegB_same a h
  rw [h.eq_with] at hAlone ⊢
  unfold openLegB
  dsimp only
  split
  · exact hAlone
  split
  · exact rfl
  · exact rfl
  split
  · exact rfl
  split
  · exact rfl
  split
  · exact rfl
  split
  · exact rfl
  split
  · exact rfl
  split
  · exact rfl
  · exact ⟨rfl, rfl⟩

/-- Crossing the legs does not read the reasons. -/
theorem crossLegs_agree (legA legB : List TranscriptRecord) (a b : ContractState) (h : Same v w) :
    Agree Same Same (crossLegs legA legB a b v) (crossLegs legA legB a b w) := by
  rw [h.eq_with]
  unfold crossLegs
  split
  case h_2 => exact rfl
  split
  · exact rfl
  split
  · exact rfl
  dsimp only
  -- the lock-order verdict is the same in both, since the folds are
  cases lockOrderViolated legA v.legA legB v.legB
  · split <;> exact rfl
  · split <;> exact rfl

/-- Noting refunds does not read the reasons. -/
theorem noteRefunds_same (a b : ContractState) (h : Same v w) :
    Same (noteRefunds a b v) (noteRefunds a b w) := by
  rw [h.eq_with]
  unfold noteRefunds
  dsimp only [SwapView.push]
  split <;> exact rfl

/-- Noting a theft does not read the reasons. -/
theorem noteTheft_same (b : ContractState) (h : Same v w) :
    Same (noteTheft b v) (noteTheft b w) := by
  rw [h.eq_with]
  unfold noteTheft
  dsimp only
  split <;> exact rfl

/-- A status given to both sides keeps them the same. -/
theorem Same.finish (h : Same v w) (status : SwapStatus) :
    Same { v with status := status } { w with status := status } := by
  rw [h.eq_with]
  rfl

/-- Folding refunds does not read the reasons. -/
theorem foldRefunds_agree (a b : ContractState) (h : Same v w) :
    Agree Same Same (foldRefunds a b v) (foldRefunds a b w) := by
  have hEvidence : w.evidence = v.evidence := by rw [h.eq_with]
  have hNoted := noteRefunds_same a b h
  unfold foldRefunds
  rw [hEvidence]
  dsimp only
  split
  · exact hNoted.finish _
  split
  · exact (noteTheft_same b hNoted).finish _
  split
  · exact hNoted.finish _
  · exact hNoted

/-- Folding the reveal does not read the reasons. -/
theorem foldReveal_agree (a b : ContractState) (h : Same v w) :
    Agree Same Same (foldReveal a b v) (foldReveal a b w) := by
  rw [h.eq_with]
  unfold foldReveal
  dsimp only [SwapView.disclose]
  split
  · split
    · split <;> exact rfl
    · exact rfl
  split
  · exact rfl
  · exact rfl

/-- Folding the locks does not read the reasons. -/
theorem foldLocks_same (nowMs : Int) (a b : ContractState) (h : Same v w) :
    (foldLocks t nowMs a b v).map SwapView.eraseReasons =
      (foldLocks t nowMs a b w).map SwapView.eraseReasons := by
  rw [h.eq_with]
  unfold foldLocks
  dsimp only
  split
  · split <;> rfl
  split
  · rfl
  split
  · rfl
  split
  · split <;> rfl
  split
  · rfl
  split <;> rfl

-- ---------------------------------------------------------------------------
-- Evidence that is not the leg's own
-- ---------------------------------------------------------------------------

/-- The records of a leg. -/
def SwapFoldInput.records (input : SwapFoldInput) : Leg → List TranscriptRecord
  | .a => input.legA
  | .b => input.legB

/-- The observation supplied for a leg. -/
def SwapEvidence.rail (evidence : SwapEvidence) : Leg → Option RailObservation
  | .a => evidence.aRail
  | .b => evidence.bRail

/-- The evidence with a leg's observation absent. -/
def SwapEvidence.dropRail (evidence : SwapEvidence) : Leg → SwapEvidence
  | .a => { evidence with aRail := none }
  | .b => { evidence with bRail := none }

def SwapFoldInput.dropRail (input : SwapFoldInput) (leg : Leg) : SwapFoldInput :=
  { input with evidence := input.evidence.map (·.dropRail leg) }

variable {input : SwapFoldInput}

/-- The views two runs start from are the same once the bound evidence is. -/
theorem baseView_same {evidence evidence' : Option SwapEvidence}
    (ha : (evidence.getD .empty).a = (evidence'.getD .empty).a)
    (hb : (evidence.getD .empty).b = (evidence'.getD .empty).b)
    (haRail : (bindObservation t .a (legState t input.legA) (evidence.getD .empty).aRail).1 =
      (bindObservation t .a (legState t input.legA) (evidence'.getD .empty).aRail).1)
    (hbRail : (bindObservation t .b (legState t input.legB) (evidence.getD .empty).bRail).1 =
      (bindObservation t .b (legState t input.legB) (evidence'.getD .empty).bRail).1) :
    Same (baseView t { input with evidence := evidence })
      (baseView t { input with evidence := evidence' }) := by
  unfold legState at haRail hbRail
  simp only [Same, SwapView.eraseReasons, baseView, ha, hb, haRail, hbRail]

/-- An observation that is not bound is used no more than an absent one. -/
theorem bindObservation_of_not_bound {leg : Leg} {state : Option ContractState}
    {observation : Option RailObservation}
    (h : ∀ s o, state = some s → observation = some o → ¬ BoundTo t s o) :
    (bindObservation t leg state observation).1 = (bindObservation t leg state none).1 := by
  cases hbind : (bindObservation t leg state observation).1 with
  | none => rfl
  | some o =>
    obtain ⟨ho, s, hs, hbound⟩ := bindObservation_eq_some.mp hbind
    exact absurd hbound (h s o hs ho)

/-- Evidence that gives the same first view folds alike. -/
theorem foldFrames_agree {evidence evidence' : Option SwapEvidence}
    (h : Same (baseView t { input with evidence := evidence })
      (baseView t { input with evidence := evidence' })) :
    Agree Same SameResult (foldFrames t { input with evidence := evidence })
      (foldFrames t { input with evidence := evidence' }) := by
  unfold foldFrames
  refine (openLegA_agree input.railRegistry h).bind
    fun ((a, swapId), view) (_, view') ⟨hEq, h⟩ => ?_
  subst hEq
  refine (openLegB_agree input.railRegistry a swapId h).bind
    fun (b, view) (_, view') ⟨hEq, h⟩ => ?_
  subst hEq
  refine (crossLegs_agree input.legA input.legB a b h).bind fun view view' h => ?_
  refine (foldRefunds_agree a b h).bind fun view view' h => ?_
  refine (foldReveal_agree a b h).bind fun view view' h => ?_
  exact ⟨rfl, h⟩

/-- Evidence that gives the same first view gives the same view, reasons apart. -/
theorem foldSwap_same {evidence evidence' : Option SwapEvidence}
    (h : Same (baseView t { input with evidence := evidence })
      (baseView t { input with evidence := evidence' })) :
    (foldSwap t { input with evidence := evidence }).map SwapView.eraseReasons =
      (foldSwap t { input with evidence := evidence' }).map SwapView.eraseReasons := by
  have hAgree := foldFrames_agree h
  unfold foldSwap
  cases hv : foldFrames t { input with evidence := evidence } <;>
    cases hw : foldFrames t { input with evidence := evidence' } <;> rw [hv, hw] at hAgree
  case error.error => exact congrArg some hAgree
  case error.ok => exact hAgree.elim
  case ok.error => exact hAgree.elim
  case ok.ok r s =>
    obtain ⟨⟨a, b⟩, view⟩ := r
    obtain ⟨_, view'⟩ := s
    obtain ⟨rfl, hSame⟩ := hAgree
    exact foldLocks_same input.nowMs a b hSame

/-- **Evidence of another lock is ignored.** An observation that is not bound to its leg
can be replaced by an absent one: no field of the view but the reasons changes. -/
theorem foldSwap_dropRail (leg : Leg)
    (h : ∀ state o, legState t (input.records leg) = some state →
      input.supplied.rail leg = some o → ¬ BoundTo t state o) :
    (foldSwap t (input.dropRail leg)).map SwapView.eraseReasons =
      (foldSwap t input).map SwapView.eraseReasons := by
  have hDropped : (input.evidence.map (·.dropRail leg)).getD .empty =
      input.supplied.dropRail leg := by
    unfold SwapFoldInput.supplied
    cases input.evidence <;> cases leg <;> rfl
  have hBase : Same (baseView t (input.dropRail leg)) (baseView t input) := by
    refine baseView_same ?_ ?_ ?_ ?_ <;> rw [hDropped] <;> cases leg
    -- nothing but the leg's own observation is dropped, and that one was not bound
    case refine_3.a => exact (bindObservation_of_not_bound h).symm
    case refine_4.b => exact (bindObservation_of_not_bound h).symm
    all_goals rfl
  exact foldSwap_same hBase

namespace Sample

/-- The settled swap, with leg A's observation read from another rail. -/
def foreignInput : SwapFoldInput :=
  { settledInput with
    evidence := settledInput.evidence.map fun evidence =>
      { evidence with aRail := evidence.aRail.map ({ · with rail := some "btc-htlc" }) } }

end Sample

theorem foldSwap_dropRail_sample :
    Sample.foreignInput.supplied.aRail ≠ none ∧
    (foldSwap Sample.tclk Sample.foreignInput).map (·.status) = some .revealed ∧
    (foldSwap Sample.tclk (Sample.foreignInput.dropRail .a)).map SwapView.eraseReasons =
      (foldSwap Sample.tclk Sample.foreignInput).map SwapView.eraseReasons := by
  refine ⟨by decide, by decide, foldSwap_dropRail .a fun state o hState ho => ?_⟩
  rintro ⟨rail, ref, terms, hrail, -, -, horail, -⟩
  have hLeg : (legState Sample.tclk (Sample.foreignInput.records .a)).bind (·.rail) =
      some "evm-htlc" := by decide
  have hSupplied : (Sample.foreignInput.supplied.rail .a).bind (·.rail) = some "btc-htlc" := by
    decide
  rw [hState, Option.bind_some, hrail] at hLeg
  rw [ho, Option.bind_some, horail, hLeg] at hSupplied
  revert hSupplied
  decide

-- ---------------------------------------------------------------------------
-- The clock
-- ---------------------------------------------------------------------------

/-- What a view may become when only time passes. -/
structure Later (v w : SwapView) : Prop where
  status : w.status = v.status ∨
    (v.status = .paired ∨ v.status = .bLocked) ∧ w.status = .abandoned
  abandoned : v.status = .abandoned → w.status = .abandoned
  /-- Time neither produces nor removes a status that reports money. -/
  money : ∀ status ∈ [SwapStatus.settled, .refundedA, .refundedB, .refunded, .aLocked],
    v.status = status ↔ w.status = status
  others : Same { v with status := w.status } w

/-- A view is as late as itself. -/
theorem Later.refl (v : SwapView) : Later v v :=
  ⟨.inl rfl, fun h => h, fun _ _ => Iff.rfl, rfl⟩

/-- A swap before its reveal may be abandoned later. -/
theorem later_abandoned {status : SwapStatus} (h : status = .paired ∨ status = .bLocked)
    (reasons : List String) : Later { v with status := status }
      { v.push reasons with status := .abandoned } := by
  refine ⟨.inr ⟨h, rfl⟩, fun _ => rfl, fun s hs => ?_, rfl⟩
  have hne : SwapStatus.abandoned ≠ s ∧ status ≠ s := by
    rcases h with rfl | rfl <;> revert s <;> decide
  exact iff_of_false hne.2 hne.1

/-- Only the last stage reads the clock, in two places, and there it can only give up. -/
theorem foldLocks_later {nowMs laterMs : Int} (h : nowMs ≤ laterMs) (a b : ContractState)
    (view : SwapView) :
    Option.Rel Later (foldLocks t nowMs a b view) (foldLocks t laterMs a b view) := by
  unfold foldLocks
  split
  -- leg B was never locked, and the offer may have expired
  · by_cases hnow : nowMs ≥ a.offer.expiresMs
    · rw [if_pos hnow, if_pos (Int.le_trans hnow h)]
      exact .some (.refl _)
    · rw [if_neg hnow]
      split
      · exact .some (later_abandoned (.inl rfl) _)
      · exact .some (.refl _)
  split
  · exact .none
  dsimp only
  split
  · exact .some (.refl _)
  split
  -- leg A was never locked, and its claim deadline may have passed
  · by_cases hnow : nowMs ≥ a.offer.claimByMs
    · rw [if_pos hnow, if_pos (Int.le_trans hnow h)]
      exact .some (.refl _)
    · rw [if_neg hnow]
      split
      · exact .some (later_abandoned (.inr rfl) _)
      · exact .some (.refl _)
  split
  · exact .none
  split
  · exact .some (.refl _)
  · exact .some (.refl _)

/-- **Time only abandons.** For the same records and evidence, a later view has the same
fields, and the same status unless a swap that was paired or had leg B locked is now
abandoned. -/
theorem foldSwap_later (input : SwapFoldInput) {nowMs laterMs : Int} (h : nowMs ≤ laterMs) :
    Option.Rel Later (foldSwap t { input with nowMs := nowMs })
      (foldSwap t { input with nowMs := laterMs }) := by
  have hFrames : ∀ ms, foldFrames t { input with nowMs := ms } = foldFrames t input :=
    fun _ => rfl
  unfold foldSwap
  rw [hFrames nowMs, hFrames laterMs]
  cases foldFrames t input with
  | error view => exact .some (Later.refl view)
  | ok r => exact foldLocks_later h r.1.1 r.1.2 r.2

theorem foldSwap_later_sample :
    (foldSwap Sample.tclk (Sample.acceptedInput 999)).map (·.status) = some .paired ∧
    (foldSwap Sample.tclk (Sample.acceptedInput 1000)).map (·.status) = some .abandoned ∧
    Option.Rel Later (foldSwap Sample.tclk (Sample.acceptedInput 999))
      (foldSwap Sample.tclk (Sample.acceptedInput 1000)) :=
  ⟨by decide, by decide,
    foldSwap_later (Sample.acceptedInput 0) (by decide)⟩

end

end SwapDesk.Desk
