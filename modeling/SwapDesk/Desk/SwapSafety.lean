import SwapDesk.Desk.SwapFacts
import SwapDesk.Lib.Early

/-!
# SwapDesk — what a folded status promises

For every input of `foldSwap`, with the library as a parameter, a status that reports money moved
or locked rests on the leg states, the bound observations and the lock evidence it stands for, and
the theft reason on two final transitions in chain order. What leaves a status as it is, another
observation or a later clock, is in `SwapDesk.Desk.SwapStability`.

Main result: `foldSwap_sound`.
-/

namespace SwapDesk.Desk

open Early

-- ---------------------------------------------------------------------------
-- The promise of each status
-- ---------------------------------------------------------------------------

/-- The state a leg's records fold to. -/
def legState (t : Tclk) (records : List TranscriptRecord) : Option ContractState :=
  (foldLeg t records).bind (·.state)

/-- `input.evidence ?? {}` -/
def SwapFoldInput.supplied (input : SwapFoldInput) : SwapEvidence := input.evidence.getD .empty

/-- A final observation of the leg, with this status, was supplied. -/
def Shows (t : Tclk) (state : ContractState) (supplied : Option RailObservation)
    (status : RailStatus) : Prop :=
  ∃ o, supplied = some o ∧ BoundTo t state o ∧ o.status = status ∧ o.final = true

/-- The refund of a leg: its own final observation or, on paper, its refund frame. -/
def RefundShown (t : Tclk) (state : ContractState) (supplied : Option RailObservation) : Prop :=
  Shows t state supplied .refunded ∨ (state.rail = some PAPER_RAIL_ID ∧ state.status = .refunded)

/-- The leg is locked and the evidence is of its accepted lock, in all nine terms, and
the rail corroborates it. -/
def LockShown (t : Tclk) (state : ContractState) (supplied : Option LockEvidence) : Prop :=
  state.status = .locked ∧ ∃ evidence, supplied = some evidence ∧
    state.rail = some evidence.rail ∧ state.railRef = some evidence.ref ∧
    t.lockTerms state = some evidence.terms ∧ evidence.railVerified = some true

/-- Two legs of one swap, of which the second names the first. -/
def SameSwap (t : Tclk) (a b : ContractState) : Prop :=
  ∃ swapId context, classifySwapOffer t a.offer = some ⟨swapId, .a context⟩ ∧
    classifySwapOffer t b.offer = some ⟨swapId, .b ⟨a.offer.id⟩⟩

/-- The legs' parties cross: the buyer pays leg A and is paid by leg B, and the seller
the other way round, under one statement. -/
structure Crossed (t : Tclk) (input : SwapFoldInput) (a b : ContractState) : Prop where
  legA : legState t input.legA = some a
  legB : legState t input.legB = some b
  parties : ∃ buyer seller, a.payerDid = some buyer ∧ b.payeeDid = some buyer ∧
    a.payeeDid = some seller ∧ b.payerDid = some seller
  statement : a.statement = b.statement
  sameSwap : SameSwap t a b

/-- What each status promises. A status that is reached without a leg B promises no
crossing, but does once leg B is there. -/
def Justified (t : Tclk) (input : SwapFoldInput) : SwapStatus → Prop
  | .paired => ∃ a b, Crossed t input a b
  | .bLocked => ∃ a b, Crossed t input a b ∧ LockShown t b input.supplied.b
  | .aLocked => ∃ a b, Crossed t input a b ∧ LockShown t b input.supplied.b ∧
      LockShown t a input.supplied.a
  | .revealed => ∃ a b, Crossed t input a b
  | .settled => ∃ a b, Crossed t input a b ∧ a.status = .claimed ∧ b.status = .claimed ∧
      Shows t a input.supplied.aRail .claimed ∧ Shows t b input.supplied.bRail .claimed
  | .refundedA => ∃ a, legState t input.legA = some a ∧ RefundShown t a input.supplied.aRail ∧
      ∀ b, legState t input.legB = some b → Crossed t input a b
  | .refundedB => ∃ a b, Crossed t input a b ∧ RefundShown t b input.supplied.bRail
  | .refunded => ∃ a b, Crossed t input a b ∧ RefundShown t a input.supplied.aRail ∧
      RefundShown t b input.supplied.bRail
  | .abandoned => ∃ a, legState t input.legA = some a ∧
      (legState t input.legB = none → a.status = .cancelled) ∧
      ∀ b, legState t input.legB = some b → Crossed t input a b
  | .bid | .accepted | .unpaired | .orientationUnsupported => True

/-- A swap whose legs cross may be abandoned. -/
theorem Crossed.abandoned {t : Tclk} {input : SwapFoldInput} {a b : ContractState}
    (h : Crossed t input a b) : Justified t input .abandoned := by
  refine ⟨a, h.legA, fun hNone => ?_, fun b' hb' => ?_⟩
  · rw [h.legB] at hNone
    cases hNone
  · obtain rfl := Option.some.inj (h.legB.symm.trans hb')
    exact h

/-- Leg B was claimed for value, on its own chain, before leg A was refunded on its own. -/
def TheftShown (t : Tclk) (input : SwapFoldInput) : Prop :=
  ∃ a b claim refund claimMs refundMs, Crossed t input a b ∧
    input.supplied.bRail = some claim ∧ BoundTo t b claim ∧ claim.status = .claimed ∧
    claim.final = true ∧ b.rail ≠ some PAPER_RAIL_ID ∧
    input.supplied.aRail = some refund ∧ BoundTo t a refund ∧ refund.status = .refunded ∧
    refund.final = true ∧
    claim.transitionAtMs = some claimMs ∧ refund.transitionAtMs = some refundMs ∧
    claimMs < refundMs

/-- A view says no more than it may. -/
structure Sound (t : Tclk) (input : SwapFoldInput) (view : SwapView) : Prop where
  status : Justified t input view.status
  theft : LEG_A_REFUNDED_AFTER_B_CLAIMED ∈ view.reasons → TheftShown t input

/-- A final observation that was bound shows its status. -/
theorem shows_of_observedFinal {t : Tclk} {leg : Leg} {s : ContractState}
    {supplied : Option RailObservation} {status : RailStatus}
    (h : observedFinal status (bindObservation t leg (some s) supplied).1 = true) :
    Shows t s supplied status := by
  obtain ⟨o, hbind, hfinal⟩ := (Option.any_eq_true _ _).mp h
  obtain ⟨hsupplied, s', hs, hbound⟩ := bindObservation_eq_some.mp hbind
  obtain rfl := Option.some.inj hs
  simp only [Bool.and_eq_true, beq_iff_eq] at hfinal
  exact ⟨o, hsupplied, hbound, hfinal.1, hfinal.2⟩

-- ---------------------------------------------------------------------------
-- What every stage keeps
-- ---------------------------------------------------------------------------

section
variable {t : Tclk} {input : SwapFoldInput} {view : SwapView}

/-- A view still on its way: the folds and the bound evidence are those of the input,
nothing is promised and no theft reported. -/
structure Pending (t : Tclk) (input : SwapFoldInput) (view : SwapView) : Prop where
  legA : view.legA.bind (·.state) = legState t input.legA
  legB : view.legB.bind (·.state) = legState t input.legB
  a : view.evidence.a = input.supplied.a
  b : view.evidence.b = input.supplied.b
  aRail : view.evidence.aRail =
    (bindObservation t .a (legState t input.legA) input.supplied.aRail).1
  bRail : view.evidence.bRail =
    (bindObservation t .b (legState t input.legB) input.supplied.bRail).1
  idle : view.status = .unpaired
  quiet : ∀ reason ∈ view.reasons, Quiet reason

/-- The first view of a fold is pending. -/
theorem pending_baseView : Pending t input (baseView t input) := by
  refine ⟨rfl, rfl, rfl, rfl, rfl, rfl, rfl, fun reason hr => ?_⟩
  simp only [baseView, List.mem_append] at hr
  rcases hr with (((hr | hr) | hr) | hr) | hr
  · exact quiet_collectStepReasons (by decide) reason hr
  · exact quiet_collectStepReasons (by decide) reason hr
  · exact quiet_bindObservation reason hr
  · exact quiet_bindObservation reason hr
  · split at hr
    · rw [List.mem_singleton.mp hr]
      decide
    · cases hr

/-- Quiet reasons keep a view pending. -/
theorem Pending.push (h : Pending t input view) {reasons : List String}
    (hq : ∀ reason ∈ reasons, Quiet reason) : Pending t input (view.push reasons) :=
  { h with
    quiet := fun reason hr => (List.mem_append.mp hr).elim (h.quiet reason) (hq reason) }

/-- One quiet reason keeps a view pending. -/
theorem Pending.push_one (h : Pending t input view) {reason : String} (hq : Quiet reason) :
    Pending t input (view.push [reason]) :=
  h.push fun _ hr => List.mem_singleton.mp hr ▸ hq

/-- Giving a pending view a status it may have makes it sound. -/
theorem Pending.finish (h : Pending t input view) (status : SwapStatus)
    (hs : Justified t input status) : Sound t input { view with status := status } :=
  ⟨hs, fun hr => absurd rfl (h.quiet _ hr).ne⟩

/-- A pending view may be returned as it stands. -/
theorem Pending.sound (h : Pending t input view) : Sound t input view := by
  refine ⟨?_, fun hr => absurd rfl (h.quiet _ hr).ne⟩
  rw [h.idle]
  trivial

/-- What a pending view observes final of leg A was shown. -/
theorem Pending.shows_a (h : Pending t input view) {a : ContractState} {status : RailStatus}
    (ha : legState t input.legA = some a) (ho : observedFinal status view.evidence.aRail = true) :
    Shows t a input.supplied.aRail status :=
  shows_of_observedFinal (ha ▸ h.aRail ▸ ho)

/-- What a pending view observes final of leg B was shown. -/
theorem Pending.shows_b (h : Pending t input view) {b : ContractState} {status : RailStatus}
    (hb : legState t input.legB = some b) (ho : observedFinal status view.evidence.bRail = true) :
    Shows t b input.supplied.bRail status :=
  shows_of_observedFinal (hb ▸ h.bRail ▸ ho)

/-- A refund verdict is the leg's own observation, or its frame on paper. -/
theorem refundShown_of_refundedFold {leg : Leg} {state : ContractState}
    {rail supplied : Option RailObservation}
    (hShows : observedFinal .refunded rail = true → Shows t state supplied .refunded)
    (h : (refundedFold leg state rail).1 = true) : RefundShown t state supplied := by
  unfold refundedFold at h
  split at h
  · exact .inl (hShows h)
  rename_i hrefunded
  split at h
  · rename_i hpaper
    exact .inr ⟨hpaper.1, not_not.mp hrefunded⟩
  split at h
  · exact .inl (hShows ‹_›)
  · split at h <;> cases h

-- ---------------------------------------------------------------------------
-- The stages, one by one
-- ---------------------------------------------------------------------------

/-- Opening leg A ends soundly or leaves the view pending. -/
theorem openLegA_ends (h : Pending t input view) :
    Ends (Sound t input)
      (fun r => Pending t input r.2 ∧ legState t input.legA = some r.1.1 ∧
        ∃ context, classifySwapOffer t r.1.1.offer = some ⟨r.1.2, .a context⟩)
      (openLegA t input.railRegistry view) := by
  unfold openLegA
  rw [h.legA]
  split
  · exact (h.push_one (by decide)).sound
  rename_i a ha
  have hOffer : Pending t input { view with legAOfferId := some a.offer.id } := { h with }
  split
  · exact (hOffer.push_one (by decide)).sound
  · exact (hOffer.push_one (by decide)).sound
  rename_i swapId context hclass
  have hSwap : Pending t input { view with
      legAOfferId := some a.offer.id, swapId := some swapId, feeBps := some context.feeBps } :=
    { h with }
  dsimp only
  split
  · rename_i reason hreason
    exact (hSwap.push_one (quiet_checkOrientation hreason)).finish _ trivial
  · exact ⟨{ h with }, ha, context, hclass⟩

/-- Without a leg B only leg A's own refund is reported as money moved. -/
theorem foldWithoutLegB_sound (h : Pending t input view) {a : ContractState}
    (ha : legState t input.legA = some a) (hb : legState t input.legB = none) :
    Sound t input (foldWithoutLegB a view) := by
  unfold foldWithoutLegB
  split
  · exact h.finish _ trivial
  · have hSeller : Pending t input { view with sellerDid := a.payeeDid } := { h with }
    exact hSeller.finish _ trivial
  · rename_i hcancelled
    refine (h.push_one (by decide)).finish _ ⟨a, ha, fun _ => hcancelled, fun b hb' => ?_⟩
    rw [hb] at hb'
    cases hb'
  · have hRefunded : Pending t input (view.push (refundedFold .a a view.evidence.aRail).2) :=
      h.push quiet_refundedFold
    dsimp only
    split
    · refine (hRefunded.push_one (by decide)).finish _ ⟨a, ha, ?_, fun b hb' => ?_⟩
      · exact refundShown_of_refundedFold (h.shows_a ha) ‹_›
      · rw [hb] at hb'
        cases hb'
    · exact (hRefunded.push_one (by decide)).sound
  · exact (h.push_one (by decide)).sound

/-- Opening leg B ends soundly or leaves the view pending. -/
theorem openLegB_ends (h : Pending t input view) {a : ContractState} {swapId : String}
    (ha : legState t input.legA = some a)
    (hclassA : ∃ context, classifySwapOffer t a.offer = some ⟨swapId, .a context⟩) :
    Ends (Sound t input)
      (fun r => Pending t input r.2 ∧ legState t input.legB = some r.1 ∧ SameSwap t a r.1)
      (openLegB t input.railRegistry a swapId view) := by
  obtain ⟨contextA, hclassA⟩ := hclassA
  unfold openLegB
  rw [h.legB]
  split
  · exact foldWithoutLegB_sound h ha ‹_›
  rename_i b hb
  have hOffer : Pending t input { view with legBOfferId := some b.offer.id } := { h with }
  -- leg B does not classify, or not as an answer
  split
  · exact (hOffer.push_one (by decide)).sound
  · exact (hOffer.push_one (by decide)).sound
  rename_i swapIdB contextB hclassB
  -- another swap, another leg A
  split
  · exact (hOffer.push_one (by decide)).sound
  rename_i hswap
  split
  · exact (hOffer.push_one (by decide)).sound
  rename_i hnames
  -- the wrong parties
  split
  · rename_i reason hreason
    exact (hOffer.push_one (quiet_checkOrientation hreason)).finish _ trivial
  have hNamed : ∀ key, Pending t input { view with
      legBOfferId := some b.offer.id, sellerDid := some b.offer.sender, pairKey := key } :=
    fun _ => { h with }
  dsimp only
  -- accepted by nobody or by one of them
  split
  · refine ((hNamed _).push_one (by decide)).finish _ ?_
    split <;> trivial
  split
  · exact (hNamed _).finish .accepted trivial
  split
  · exact ((hNamed _).push_one (by decide)).sound
  -- a leg B of the same swap
  · obtain rfl := not_not.mp hswap
    have hnames : contextB = ⟨a.offer.id⟩ := by
      cases contextB
      exact congrArg LegBContext.mk (not_not.mp hnames)
    exact ⟨hNamed _, hb, swapIdB, contextA, hclassA, hnames ▸ hclassB⟩

/-- Crossing the legs ends soundly or leaves the view pending. -/
theorem crossLegs_ends (h : Pending t input view) {a b : ContractState}
    (ha : legState t input.legA = some a) (hb : legState t input.legB = some b)
    (hSame : SameSwap t a b) :
    Ends (Sound t input) (fun v => Pending t input v ∧ Crossed t input a b)
      (crossLegs input.legA input.legB a b view) := by
  unfold crossLegs
  split
  case h_2 => exact (h.push_one (by decide)).sound
  rename_i payerA payeeA payerB payeeB hpayerA hpayeeA hpayerB hpayeeB
  split
  · exact (h.push_one (by decide)).sound
  rename_i hparties
  split
  · exact (h.push_one (by decide)).sound
  rename_i hstatement
  have hCrossed : Crossed t input a b := by
    obtain ⟨hbuyer, hseller⟩ := not_or.mp hparties
    obtain rfl := not_not.mp hbuyer
    obtain rfl := not_not.mp hseller
    exact ⟨ha, hb, ⟨_, _, hpayerA, hpayeeB, hpayeeA, hpayerB⟩, not_not.mp hstatement, hSame⟩
  -- the lock-order verdict only adds a reason and a flag
  have hOrdered : ∀ (violated : Bool) (flags : List CoordinationOnlyFlag),
      Pending t input (if violated then
          { { view with buyerDid := some payerA, sellerDid := some payeeA }.push
              ["lock order violated: A before B"] with coordinationOnly := flags }
        else { view with buyerDid := some payerA, sellerDid := some payeeA }) := by
    intro violated flags
    split
    · have hPushed : Pending t input (view.push ["lock order violated: A before B"]) :=
        h.push_one (by decide)
      exact { hPushed with }
    · exact { h with }
  dsimp only
  split
  · refine ((hOrdered _ _).push_one ?_).finish _ hCrossed.abandoned
    split <;> decide
  · exact ⟨hOrdered _ _, hCrossed⟩

/-- The theft verdict reads two bound observations. -/
theorem theftShown_of_theftProven (h : Pending t input view) {a b : ContractState}
    (hc : Crossed t input a b)
    (hproven : theftProven view.evidence.bRail view.evidence.aRail = true) :
    TheftShown t input := by
  unfold theftProven at hproven
  split at hproven
  case h_2 => cases hproven
  rename_i claim refund hbRail haRail
  simp only [Bool.and_eq_true, beq_iff_eq, bne_iff_ne, ne_eq] at hproven
  obtain ⟨⟨⟨⟨hclaimed, hclaimFinal⟩, hpaper⟩, hrefunded, hrefundFinal⟩, htime⟩ := hproven
  split at htime
  case h_2 => cases htime
  rename_i claimMs refundMs hclaimMs hrefundMs
  rw [h.bRail, hc.legB] at hbRail
  rw [h.aRail, hc.legA] at haRail
  obtain ⟨hbSupplied, b', hb', hbBound⟩ := bindObservation_eq_some.mp hbRail
  obtain ⟨haSupplied, a', ha', haBound⟩ := bindObservation_eq_some.mp haRail
  obtain rfl := Option.some.inj hb'
  obtain rfl := Option.some.inj ha'
  have hvalue : b.rail ≠ some PAPER_RAIL_ID := by
    obtain ⟨rail, _, _, hrail, _, _, horail, _⟩ := hbBound
    rw [hrail, ← horail]
    exact hpaper
  exact ⟨a, b, claim, refund, claimMs, refundMs, hc, hbSupplied, hbBound, hclaimed, hclaimFinal,
    hvalue, haSupplied, haBound, hrefunded, hrefundFinal, hclaimMs, hrefundMs,
    of_decide_eq_true htime⟩

/-- Noting refunds keeps a view pending. -/
theorem Pending.noteRefunds (h : Pending t input view) (a b : ContractState) :
    Pending t input (noteRefunds a b view) := by
  have hFolds : Pending t input (view.push
      ((refundedFold .a a view.evidence.aRail).2 ++ (refundedFold .b b view.evidence.bRail).2)) :=
    h.push fun reason hr => (List.mem_append.mp hr).elim (quiet_refundedFold reason)
      (quiet_refundedFold reason)
  unfold Desk.noteRefunds
  dsimp only
  split
  · exact hFolds.push_one (by decide)
  · exact hFolds

/-- The theft verdict is the one place that may give the theft reason. -/
theorem theftShown_of_noteTheft (h : Pending t input view) {a b : ContractState}
    (hc : Crossed t input a b)
    (hr : LEG_A_REFUNDED_AFTER_B_CLAIMED ∈ (noteTheft b view).reasons) : TheftShown t input := by
  unfold noteTheft at hr
  split at hr
  case isFalse => exact absurd rfl (h.quiet _ hr).ne
  rcases List.mem_append.mp hr with hr | hr
  · exact absurd rfl (h.quiet _ hr).ne
  · have hr := List.mem_singleton.mp hr
    split at hr
    · exact theftShown_of_theftProven h hc ‹_›
    · exact absurd hr.symm (Quiet.ne (by decide))

/-- Folding refunds ends soundly or leaves the view pending. -/
theorem foldRefunds_ends (h : Pending t input view) {a b : ContractState}
    (hc : Crossed t input a b) :
    Ends (Sound t input) (Pending t input) (foldRefunds a b view) := by
  have hA : (refundedFold .a a view.evidence.aRail).1 = true →
      RefundShown t a input.supplied.aRail := refundShown_of_refundedFold (h.shows_a hc.legA)
  have hB : (refundedFold .b b view.evidence.bRail).1 = true →
      RefundShown t b input.supplied.bRail := refundShown_of_refundedFold (h.shows_b hc.legB)
  have hNoted := h.noteRefunds a b
  unfold foldRefunds
  dsimp only
  split
  · rename_i hboth
    exact hNoted.finish .refunded ⟨a, b, hc, hA hboth.1, hB hboth.2⟩
  split
  · rename_i hrefundedA
    refine ⟨⟨a, hc.legA, hA hrefundedA, fun b' hb' => ?_⟩, theftShown_of_noteTheft hNoted hc⟩
    obtain rfl := Option.some.inj (hc.legB.symm.trans hb')
    exact hc
  split
  · rename_i hrefundedB
    exact hNoted.finish .refundedB ⟨a, b, hc, hB hrefundedB⟩
  · exact hNoted

/-- Folding the reveal ends soundly or leaves the view pending. -/
theorem foldReveal_ends (h : Pending t input view) {a b : ContractState}
    (hc : Crossed t input a b) :
    Ends (Sound t input) (Pending t input) (foldReveal a b view) := by
  have hDisclosed : ∀ state, Pending t input (view.disclose state) := fun _ => { h with }
  unfold foldReveal
  split
  · rename_i hclaimedA
    dsimp only
    split
    · rename_i hclaimedB
      split
      · rename_i hfinal
        exact (hDisclosed a).finish .settled ⟨a, b, hc, hclaimedA, hclaimedB,
          h.shows_a hc.legA hfinal.1, h.shows_b hc.legB hfinal.2⟩
      · exact ((hDisclosed a).push_one (by decide)).finish .revealed ⟨a, b, hc⟩
    · exact (hDisclosed a).finish .revealed ⟨a, b, hc⟩
  split
  · exact ((hDisclosed b).push_one (by decide)).finish .revealed ⟨a, b, hc⟩
  · exact h

/-- Corroborated evidence is of the accepted lock, in all nine terms. -/
theorem lockShown_of_corroborated {leg : Leg} {state : ContractState} {expected : LockTerms}
    {evidence : Option LockEvidence} (hlocked : state.status = .locked)
    (hterms : t.lockTerms state = some expected)
    (h : (evaluateLock evidence expected leg state).corroborated = true) :
    LockShown t state evidence := by
  unfold evaluateLock at h
  split at h
  · cases h
  rename_i evidence
  split at h
  · cases h
  rename_i hlock
  split at h
  · cases h
  rename_i hmismatch
  split at h
  · cases h
  rename_i hverified
  obtain ⟨hrail, href⟩ := not_or.mp hlock
  refine ⟨hlocked, evidence, rfl, (not_not.mp hrail).symm, (not_not.mp href).symm, ?_,
    not_not.mp hverified⟩
  rw [hterms, lockTermsMismatch_eq_none.mp hmismatch]

/-- A leg that is not corroborated is explained by a reason that is not the theft. -/
theorem quiet_getD_evaluateLock {evidence : Option LockEvidence} {expected : LockTerms} {leg : Leg}
    {state : ContractState} {fallback : String} (h : Quiet fallback) :
    Quiet ((evaluateLock evidence expected leg state).reason.getD fallback) := by
  cases hreason : (evaluateLock evidence expected leg state).reason with
  | none => exact h
  | some reason => exact quiet_evaluateLock hreason

/-- Folding the locks ends soundly. -/
theorem foldLocks_sound (h : Pending t input view) {a b : ContractState} (hc : Crossed t input a b)
    {nowMs : Int} {v : SwapView} (hv : foldLocks t nowMs a b view = some v) :
    Sound t input v := by
  unfold foldLocks at hv
  -- leg B is not locked
  split at hv
  · split at hv <;> obtain rfl := Option.some.inj hv
    · exact (h.push_one (by decide)).finish .abandoned hc.abandoned
    · exact h.finish .paired ⟨a, b, hc⟩
  rename_i hlockedB
  split at hv
  · cases hv
  rename_i termsB htermsB
  -- its lock is not corroborated
  dsimp only at hv
  split at hv
  · obtain rfl := Option.some.inj hv
    exact (h.push_one (quiet_getD_evaluateLock (by decide))).finish .paired ⟨a, b, hc⟩
  rename_i hcorroboratedB
  have hB : LockShown t b input.supplied.b := by
    rw [Bool.not_eq_true, Bool.not_eq_false'] at hcorroboratedB
    exact lockShown_of_corroborated (not_not.mp hlockedB) htermsB (h.b ▸ hcorroboratedB)
  -- leg A is not locked
  split at hv
  · split at hv <;> obtain rfl := Option.some.inj hv
    · exact (h.push_one (by decide)).finish .abandoned hc.abandoned
    · exact h.finish .bLocked ⟨a, b, hc, hB⟩
  rename_i hlockedA
  split at hv
  · cases hv
  rename_i termsA htermsA
  -- its lock is not corroborated, or is
  split at hv
  · obtain rfl := Option.some.inj hv
    exact (h.push_one (quiet_getD_evaluateLock (by decide))).finish .bLocked
      ⟨a, b, hc, hB⟩
  rename_i hcorroboratedA
  obtain rfl := Option.some.inj hv
  rw [Bool.not_eq_true, Bool.not_eq_false'] at hcorroboratedA
  exact h.finish .aLocked ⟨a, b, hc, hB,
    lockShown_of_corroborated (not_not.mp hlockedA) htermsA (h.a ▸ hcorroboratedA)⟩

/-- The fold up to the crossing ends soundly or leaves the view pending. -/
theorem foldFrames_ends : Ends (Sound t input)
    (fun r => Pending t input r.2 ∧ Crossed t input r.1.1 r.1.2) (foldFrames t input) := by
  unfold foldFrames
  refine (openLegA_ends pending_baseView).bind fun ((a, swapId), view) ⟨h, ha, hclass⟩ => ?_
  refine (openLegB_ends h ha hclass).bind fun (b, view) ⟨h, hb, hSame⟩ => ?_
  refine (crossLegs_ends h ha hb hSame).bind fun view ⟨h, hc⟩ => ?_
  refine (foldRefunds_ends h hc).bind fun view h => ?_
  refine (foldReveal_ends h hc).bind fun view h => ?_
  exact ⟨h, hc⟩

/-- **Money-status soundness.** Whatever the input, the status of the folded view and
its theft reason rest on what they stand for. -/
theorem foldSwap_sound {v : SwapView} (hv : foldSwap t input = some v) : Sound t input v := by
  have hEnds : Ends (Sound t input) _ (foldFrames t input) := foldFrames_ends
  unfold foldSwap at hv
  cases hframes : foldFrames t input with
  | error view =>
    rw [hframes] at hv hEnds
    exact Option.some.inj hv ▸ hEnds
  | ok r =>
    rw [hframes] at hv hEnds
    exact foldLocks_sound hEnds.1 hEnds.2 hv

/-! ## Sample swaps

A Buyer pays 5 USDC on a chain rail for 100 FLOP: both legs are claimed in their
frames and on their chains. In a second transcript leg A is on paper, and is
refunded by its frame before any leg B is opened. -/

namespace Sample

def buyer : String := "did:key:buyer"
def seller : String := "did:key:seller"
def statement : String := "0x66687aadf862bd776c8fc18b8e9f8e20089714856ee233b3902a591d0d5f2925"
def idOf (c : Char) : String := String.ofList ('0' :: 'x' :: List.replicate 64 c)

def offerA (rail : String) : OfferFrame :=
  { id := idOf 'a', sender := buyer, role := .payer, lock := "hash", asset := "USDC", amount := "5"
    rails := [rail], expiresMs := 1000, claimByMs := 2000, refundAfterMs := 3000
    job := some ⟨SWAP_PROTO, idOf 'e', some "a|FLOP|100|flop-htlc|0"⟩ }

def offerB : OfferFrame :=
  { id := idOf 'b', sender := seller, role := .payer, lock := "hash", asset := "FLOP"
    amount := "100", rails := [FLOP_RAIL], expiresMs := 1000, claimByMs := 4000
    refundAfterMs := 5000, job := some ⟨SWAP_PROTO, idOf 'e', some ("b|" ++ idOf 'a')⟩ }

def stateOf (offer : OfferFrame) (payee : String) (status : ContractStatus) (contract rail : String) :
    ContractState :=
  { offer := offer, status := status, contract := some contract, payerDid := some offer.sender
    payeeDid := some payee, statement := some statement, secret := none, rail := some rail
    railRef := some (rail ++ "/1") }

/-- A leg accepted and not locked yet. -/
def acceptedOf (offer : OfferFrame) (payee contract : String) : ContractState :=
  { stateOf offer payee .accepted contract "" with rail := none, railRef := none }

/-- The library on five transcripts, told apart by their lines. -/
def tclk : Tclk where
  offerRoom := "tclk-offers"
  dealRoom contract := "mb-p-tclk-" ++ contract
  verifyTranscriptRecord _ := true
  tryDecodeFrame _ := none
  foldTranscript records :=
    ⟨match records.map (·.line) with
      | ["offer a", "accept"] => some (acceptedOf (offerA "evm-htlc") seller "0xca")
      | ["offer b", "accept"] => some (acceptedOf offerB buyer "0xcb")
      | ["offer a", "accept", "lock", "reveal"] =>
        some (stateOf (offerA "evm-htlc") seller .claimed "0xca" "evm-htlc")
      | ["offer b", "accept", "lock", "reveal"] =>
        some (stateOf offerB buyer .claimed "0xcb" FLOP_RAIL)
      | ["offer p", "accept", "lock", "refund"] =>
        some (stateOf (offerA PAPER_RAIL_ID) seller .refunded "0xcp" PAPER_RAIL_ID)
      | _ => none, []⟩
  lockTerms state :=
    match state.contract, state.statement, state.payerDid, state.payeeDid with
    | some contract, some statement, some payer, some payee =>
      some ⟨contract, state.offer.lock, statement, state.offer.amount, state.offer.asset, payer,
        payee, state.offer.claimByMs, state.offer.refundAfterMs⟩
    | _, _, _, _ => none
  contractId offer core := some (offer.id ++ core.sender ++ core.nonce)
  normalizeRailId rail :=
    if rail ∈ [PAPER_RAIL_ID, FLOP_RAIL, "evm-htlc"] then some rail else none

def records (lines : List String) : List TranscriptRecord :=
  lines.map fun line => ⟨"room", 1, 10, buyer, "00", line, none⟩

def observationOf (state : ContractState) (status : RailStatus) : RailObservation :=
  ⟨status, true, 50, none, none, state.rail, state.railRef, state.contract, tclk.lockTerms state⟩

def settledInput : SwapFoldInput :=
  { legA := records ["offer a", "accept", "lock", "reveal"]
    legB := records ["offer b", "accept", "lock", "reveal"]
    evidence := some
      { a := none
        b := none
        aRail := (legState tclk (records ["offer a", "accept", "lock", "reveal"])).map
          (observationOf · .claimed)
        bRail := (legState tclk (records ["offer b", "accept", "lock", "reveal"])).map
          (observationOf · .claimed) }
    nowMs := 100
    railRegistry := none }

/-- Both legs accepted, nothing locked. -/
def acceptedInput (nowMs : Int) : SwapFoldInput :=
  { legA := records ["offer a", "accept"], legB := records ["offer b", "accept"], evidence := none
    nowMs := nowMs, railRegistry := none }

def paperInput : SwapFoldInput :=
  { legA := records ["offer p", "accept", "lock", "refund"], legB := [], evidence := none
    nowMs := 100, railRegistry := none }

end Sample

theorem foldSwap_sound_sample : ∃ v, foldSwap Sample.tclk Sample.settledInput = some v ∧
    v.status = .settled ∧ Sound Sample.tclk Sample.settledInput v := by
  have hStatus : (foldSwap Sample.tclk Sample.settledInput).map (·.status) = some .settled := by
    decide +kernel
  obtain ⟨v, hv, hsettled⟩ := Option.map_eq_some_iff.mp hStatus
  exact ⟨v, hv, hsettled, foldSwap_sound hv⟩

/-- The statuses of a swap whose legs are paired, as the source lists them. -/
def SwapStatus.fromPairedOn (status : SwapStatus) : Prop :=
  status ∈ [.paired, .bLocked, .aLocked, .revealed, .settled, .refundedA, .refundedB, .refunded]

/-- Leg A alone may be refunded: `refunded-a` does not say that the legs cross. -/
theorem fromPairedOn_not_crossed : ¬ ∀ t input v, foldSwap t input = some v →
    v.status.fromPairedOn → ∃ a b, Crossed t input a b := by
  intro hAll
  have hStatus : (foldSwap Sample.tclk Sample.paperInput).map (·.status) = some .refundedA := by
    decide +kernel
  obtain ⟨v, hv, hrefunded⟩ := Option.map_eq_some_iff.mp hStatus
  obtain ⟨a, b, hCrossed⟩ := hAll _ _ v hv (by rw [hrefunded, SwapStatus.fromPairedOn]; decide)
  -- there are no records of leg B to fold
  cases hCrossed.legB

end

end SwapDesk.Desk
