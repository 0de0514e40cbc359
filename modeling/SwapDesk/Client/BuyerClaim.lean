import SwapDesk.Client.BuyerRules

/-!
# SwapDesk — the Buyer claims and refunds by the rules

Every part of `claimLegB` and of `refundLegA`, and the small calls. The claim of leg B is on record
before the note is written; a refund is on record before it is sent, and a second one is not built
as long as the first may land.
-/

namespace SwapDesk.Client.Buyer

open Check Desk Client.Flow

section

variable {deps : BuyerDeps} {rail : CounterAssetRail} {pairing : Pairing} {s s' : World}

-- ---------------------------------------------------------------------------
-- The secret, and leg B
-- ---------------------------------------------------------------------------

/-- What follows the check of use runs in a flow that may write. -/
theorem spec_usable_then {β : Type} {f : Unit → BuyerRoutine β} {F : β → World → Prop}
    (hInv : Inv rail pairing s)
    (hf : s.failed = false → Spec deps rail pairing (f ()) F s) :
    Spec deps rail pairing (ask .usable >>= f) F s := by
  refine Spec.bind (F := fun _ s' => s' = s ∧ s.failed = false)
    (spec_usable hInv fun hFailed => ⟨rfl, hFailed⟩) ?_
  rintro _ s' hInv' ⟨rfl, hFailed⟩
  exact hf hFailed

/-- What follows a value found runs with that value. -/
theorem spec_found_then {α β : Type} {value : Option α} {message : String} {f : α → BuyerRoutine β}
    {F : β → World → Prop} (hInv : Inv rail pairing s) (hSynced : Synced s)
    (hf : ∀ a, value = some a → Spec deps rail pairing (f a) F s) :
    Spec deps rail pairing (found value message >>= f) F s := by
  refine Spec.bind (F := fun a s' => s' = s ∧ value = some a)
    (spec_found hInv hSynced fun _ hSome => ⟨rfl, hSome⟩) ?_
  rintro a s' hInv' ⟨rfl, hSome⟩
  exact hf a hSome

/-- What follows a check runs under its condition. -/
theorem spec_check_then {β : Type} {condition : Prop} [Decidable condition] {message : String}
    {f : Unit → BuyerRoutine β} {F : β → World → Prop} (hInv : Inv rail pairing s)
    (hSynced : Synced s) (hf : condition → Spec deps rail pairing (f ()) F s) :
    Spec deps rail pairing (check condition message >>= f) F s := by
  refine Spec.bind (F := fun _ s' => s' = s ∧ condition)
    (spec_check hInv hSynced fun h => ⟨rfl, h⟩) ?_
  rintro _ s' hInv' ⟨rfl, h⟩
  exact hf h

/-- Learning the secret ends synced. -/
theorem spec_learnSecret (hInv : Inv rail pairing s) (hSynced : Synced s) :
    Spec deps rail pairing (learnSecret deps rail pairing) (fun _ s' => Synced s') s := by
  refine spec_usable_then hInv fun _ => spec_look_then hInv ?_
  refine spec_found_then hInv hSynced fun railRef _ => ?_
  dsimp only
  split
  · refine spec_found_then hInv hSynced fun accounts _ => ?_
    refine spec_read_then rfl trivial hInv hSynced fun _ _ hInv₁ hSynced₁ => ?_
    refine spec_read_then rfl trivial hInv₁ hSynced₁ fun stored _ hInv₂ hSynced₂ => ?_
    exact spec_found hInv₂ hSynced₂ fun _ _ => hSynced₂
  · refine spec_read_then rfl trivial hInv hSynced fun records _ hInv₁ hSynced₁ => ?_
    split
    · exact spec_pure hInv₁ hSynced₁
    · refine spec_found_then hInv₁ hSynced₁ fun accounts _ => ?_
      refine spec_read_then rfl trivial hInv₁ hSynced₁ fun _ _ hInv₂ hSynced₂ => ?_
      refine spec_read_then rfl trivial hInv₂ hSynced₂ fun preimage _ hInv₃ hSynced₃ => ?_
      exact spec_found hInv₃ hSynced₃ fun _ _ => hSynced₃

/-- Noting that leg B is claimable only reads. -/
theorem spec_legBNoteClaimable {note : Option Note} (hInv : Inv rail pairing s)
    (hSynced : Synced s) :
    Spec deps rail pairing (legBNoteClaimable note) (fun _ s' => Reads s s') s := by
  unfold legBNoteClaimable
  split
  · split
    · refine spec_read_then rfl trivial hInv hSynced fun now _ hInv₁ _ => ?_
      exact spec_pure hInv₁ (reads_note rfl _)
    · exact spec_pure hInv (.refl s)
  · exact spec_pure hInv (.refl s)

/-- Adopting the claim of leg B keeps the invariant. -/
theorem Inv.adopt (h : Inv rail pairing s) :
    Inv rail pairing { s with live := s.live.adoptLegBClaim } :=
  h.touch ⟨h.live.attempted, h.live.untouched, h.live.refundless, h.live.landed⟩
    { Behind.refl s.live with adopted := fun _ => rfl } rfl

/-- Marking the claim of leg B keeps the invariant. -/
theorem Inv.claimAttempt (h : Inv rail pairing s) (attempted : Bool) :
    Inv rail pairing { s with live := { s.live with legBClaimAttempted := attempted } } :=
  h.touch ⟨h.live.attempted, h.live.untouched, h.live.refundless, h.live.landed⟩
    { Behind.refl s.live with } rfl

/-- Marking the claim of leg A keeps the invariant. -/
theorem Inv.claimSeen (h : Inv rail pairing s) :
    Inv rail pairing { s with live := { s.live with refundClaimSeen := true } } :=
  h.touch ⟨h.live.attempted, h.live.untouched, h.live.refundless, h.live.landed⟩
    { Behind.refl s.live with } rfl

/-- A claim that failed is adopted, or ends the call. -/
theorem spec_settleFailedClaim {secret : String} {e : Failure} (hInv : Inv rail pairing s)
    (hSynced : Synced s) :
    Spec deps rail pairing (settleFailedClaim secret e)
      (fun _ s' => s'.live.legBClaimAdopted = true) s := by
  refine spec_read_then rfl trivial hInv hSynced fun note _ hInv₁ hSynced₁ => ?_
  split
  · exact spec_modify hInv₁.adopt rfl
  · refine Spec.bind (spec_legBNoteClaimable hInv₁ hSynced₁) ?_
    intro claimable s₂ hInv₂ hReads
    split
    · exact spec_fail hInv₂ (hReads.synced hSynced₁)
    · refine Spec.bind (F := fun _ s' => Synced s')
        (spec_save (hInv₂.claimAttempt false) fun _ _ hSynced₃ => hSynced₃) ?_
      exact fun _ s₃ hInv₃ hSynced₃ => spec_fail hInv₃ hSynced₃

/-- Leg A reads claimed with the secret, where that is asked for. -/
theorem spec_checkClaimedOnChain {secret : String} (hInv : Inv rail pairing s)
    (hSynced : Synced s) :
    Spec deps rail pairing (checkClaimedOnChain rail secret) (fun _ s' => Reads s s' ∧
      (rail.railId = SOL_RAIL_ID → Paid s'.live s'.call secret)) s := by
  refine spec_whenever hInv (fun _ => ?_) fun hNot => ⟨.refl s, fun hSol => ?_⟩
  · refine spec_look_then hInv ?_
    refine spec_found_then hInv hSynced fun railRef hRef => ?_
    refine spec_found_then hInv hSynced fun accounts _ => ?_
    refine spec_read_then rfl trivial hInv hSynced fun _ _ hInv₁ hSynced₁ => ?_
    refine spec_read_then rfl trivial hInv₁ hSynced₁ fun stored _ hInv₂ hSynced₂ => ?_
    refine spec_check hInv₂ hSynced₂ fun hStored => ?_
    obtain rfl := hStored
    exact ⟨(reads_note rfl _).trans (reads_note rfl _), fun _ => ⟨railRef, hRef, mem_note _⟩⟩
  · exact absurd hSol (of_decide_eq_false hNot)

/-- The note is written once the intent is on record; then the claim is this flow's own, or
adopted. -/
theorem spec_claimNote {secret : String} (hInv : Inv rail pairing s)
    (hOpens : deps.verifySecret pairing.termsB.lock pairing.termsB.statement secret = true)
    (hPaid : rail.railId = SOL_RAIL_ID → Paid s.live s.call secret) :
    Spec deps rail pairing (claimNote secret) (fun _ s' => Synced s' ∧ s'.failed = false ∧
      (s'.live.legBClaimed = true ∨ s'.live.legBClaimAdopted = true)) s := by
  -- the attempt is saved first
  refine Spec.bind (F := fun _ s' => Synced s' ∧ MayClaim deps rail pairing s' secret)
    (spec_save (hInv.claimAttempt true) fun hFailed _ hSynced₁ =>
      ⟨hSynced₁, hFailed, rfl, hOpens, fun hSol => ?_⟩) ?_
  · -- the attempt has changed nothing of the lock
    rw [hSynced₁ hFailed]
    exact hPaid hSol
  rintro _ s₁ hInv₁ ⟨hSynced₁, hMay⟩
  -- then the claim, or what becomes of one that failed
  refine Spec.bind (F := fun own s' => own = false → s'.live.legBClaimAdopted = true)
    (Spec.orElse (E := fun _ => Synced) ?_ fun e s₂ hInv₂ hSynced₂ => ?_) ?_
  · refine spec_read_then rfl hMay hInv₁ hSynced₁ fun _ _ hInv₂ _ => ?_
    exact spec_pure hInv₂ fun h => absurd h.symm Bool.false_ne_true
  · refine Spec.bind (spec_settleFailedClaim hInv₂ hSynced₂) ?_
    exact fun _ s₃ hInv₃ hAdopted => spec_pure hInv₃ fun _ => hAdopted
  -- one of the two is noted and saved
  · intro own s₂ hInv₂ hOwn
    refine Spec.bind (F := fun _ s' => s'.live.legBClaimed = true ∨
      s'.live.legBClaimAdopted = true) (spec_whenever hInv₂ (fun _ => ?_) fun h => .inr (hOwn h)) ?_
    · refine spec_modify ?_ (.inl rfl)
      exact hInv₂.touch ⟨hInv₂.live.attempted, hInv₂.live.untouched, hInv₂.live.refundless,
        hInv₂.live.landed⟩
        { Behind.refl s₂.live with claimed := fun _ => rfl } rfl
    · intro _ s₃ hInv₃ hClaimed
      exact spec_persist hInv₃ fun hFailed _ hSynced₄ => ⟨hSynced₄, hFailed, hClaimed⟩

/-- Noting the claim of leg A ends synced. -/
theorem spec_noteLegAClaimSeen (hInv : Inv rail pairing s) (hSynced : Synced s) :
    Spec deps rail pairing noteLegAClaimSeen (fun _ s' => Synced s') s := by
  refine spec_look_then hInv ?_
  split
  · rename_i accounts railRef _ _ _
    refine Spec.bind (F := fun _ s' => Synced s') (Spec.orElse (E := fun _ => Synced) ?_
      fun _ s₁ hInv₁ hSynced₁ => spec_pure hInv₁ hSynced₁) ?_
    · refine spec_read_then rfl trivial hInv hSynced fun _ _ hInv₁ hSynced₁ => ?_
      refine spec_read_then rfl trivial hInv₁ hSynced₁ fun evidence _ hInv₂ hSynced₂ => ?_
      exact spec_pure hInv₂ hSynced₂
    · intro claimed s₁ hInv₁ hSynced₁
      refine spec_whenever hInv₁ (fun _ => ?_) fun _ => hSynced₁
      exact spec_save hInv₁.claimSeen fun _ _ hSynced₂ => hSynced₂
  · exact spec_pure hInv hSynced

/-- Claiming leg B ends synced. -/
theorem spec_claimLegB {secret : String} (hInv : Inv rail pairing s) (hSynced : Synced s) :
    Spec deps rail pairing (claimLegB deps rail pairing secret) (fun _ s' => Synced s') s := by
  refine spec_usable_then hInv fun hFailed => ?_
  refine spec_check_then hInv hSynced fun hOpens => ?_
  refine Spec.bind (spec_checkClaimedOnChain hInv hSynced) ?_
  -- the claim of leg A has been seen on its chain, where it has one
  rintro _ s₁ hInv₁ ⟨hReads, hPaid⟩
  have hSynced₁ := hReads.synced hSynced
  -- a claim that is on record is not made again
  refine spec_look_then hInv₁ ?_
  refine Spec.bind (F := fun _ s' => Synced s' ∧ s'.failed = false ∧
    (s'.live.legBClaimed = true ∨ s'.live.legBClaimAdopted = true))
    (spec_whenever hInv₁ (fun _ => spec_claimNote hInv₁ hOpens hPaid) fun hDone => ?_) ?_
  · refine ⟨hSynced₁, hReads.failed.trans hFailed, ?_⟩
    cases hClaimed : s₁.live.legBClaimed with
    | true => exact .inl rfl
    | false =>
      rw [hClaimed] at hDone
      exact .inr (by simpa using hDone)
  · -- what the record says is told
    have hOnRecord : ∀ {s : World}, Synced s → s.failed = false →
        (s.live.legBClaimed = true ∨ s.live.legBClaimAdopted = true) →
        s.stored.state.legBClaimed = true ∨ s.stored.state.legBClaimAdopted = true := by
      intro s hSynced hFailed hClaimed
      have hOwn : s.stored.state.legBClaimed = s.live.legBClaimed :=
        congrArg Live.legBClaimed (hSynced hFailed)
      have hAdopted : s.stored.state.legBClaimAdopted = s.live.legBClaimAdopted :=
        congrArg Live.legBClaimAdopted (hSynced hFailed)
      rw [hOwn, hAdopted]
      exact hClaimed
    -- then the reveal, the receipt and the note that leg A may be claimed
    rintro _ s₂ hInv₂ ⟨hSynced₂, hFailed₂, hClaimed⟩
    refine Spec.bind (spec_ensurePosted hInv₂ hSynced₂ hFailed₂ (spec_pure hInv₂ ⟨.refl s₂,
      hOnRecord hSynced₂ hFailed₂ hClaimed, secret, rfl, hOpens⟩)) ?_
    rintro _ s₃ hInv₃ hTold₃
    refine Spec.bind (spec_ensurePosted hInv₃ hTold₃.synced hTold₃.failed (spec_pure hInv₃
      ⟨.refl s₃, hOnRecord hTold₃.synced hTold₃.failed (hTold₃.live ▸ hClaimed), rfl⟩)) ?_
    rintro _ s₄ hInv₄ hTold₄
    refine spec_look_then hInv₄ ?_
    exact spec_whenever hInv₄ (fun _ => spec_noteLegAClaimSeen hInv₄ hTold₄.synced)
      fun _ => hTold₄.synced

end

end SwapDesk.Client.Buyer
