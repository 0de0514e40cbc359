import SwapDesk.Desk.BoardPairing
import SwapDesk.Desk.BoardPartition
import SwapDesk.Desk.ReplayIsolation
import SwapDesk.Desk.SwapSafety

/-!
# SwapDesk — the lock of a candidate and the lock of its leg

The captured fold finds the swap legs of a room in one pass of its own, which keeps the last post
of an offer, and the board in another, which keeps the first. Both fold the leg's transcript.

Main result: `foldAcceptedLock_eq_legState`. A lock is found for a contract exactly where the leg
that the board folds under that contract has one, and it is that one, however often its offer was
posted.
-/

namespace SwapDesk.Desk

open Early

variable {t : Tclk}

-- ---------------------------------------------------------------------------
-- A view shows its folds
-- ---------------------------------------------------------------------------

/-- The view has the folds of the legs that it began with. -/
def KeepsFolds (view view' : SwapView) : Prop := view'.legA = view.legA ∧ view'.legB = view.legB

section

variable {start view view' : SwapView}

/-- Opening leg A keeps the folds. -/
theorem openLegA_keepsFolds (registry : Option CustomRailRegistry) (h : KeepsFolds start view) :
    Ends (KeepsFolds start) (fun r => KeepsFolds start r.2) (openLegA t registry view) := by
  unfold openLegA
  dsimp only
  split
  · exact h
  split
  · exact h
  · exact h
  split
  · exact h
  · exact h

/-- Folding without leg B keeps the folds. -/
theorem foldWithoutLegB_keepsFolds (legAState : ContractState) (h : KeepsFolds start view) :
    KeepsFolds start (foldWithoutLegB legAState view) := by
  unfold foldWithoutLegB
  dsimp only
  split
  · exact h
  · exact h
  · exact h
  · split <;> exact h
  · exact h

/-- Opening leg B keeps the folds. -/
theorem openLegB_keepsFolds (registry : Option CustomRailRegistry) (legAState : ContractState)
    (swapId : String) (h : KeepsFolds start view) :
    Ends (KeepsFolds start) (fun r => KeepsFolds start r.2)
      (openLegB t registry legAState swapId view) := by
  have hAlone := foldWithoutLegB_keepsFolds legAState h
  unfold openLegB
  dsimp only
  split
  · exact hAlone
  split
  · exact h
  · exact h
  split
  · exact h
  split
  · exact h
  split
  · exact h
  split
  · exact h
  split
  · exact h
  split
  · exact h
  · exact h

/-- Crossing the legs keeps the folds. -/
theorem crossLegs_keepsFolds (legA legB : List TranscriptRecord) (a b : ContractState)
    (h : KeepsFolds start view) :
    Ends (KeepsFolds start) (KeepsFolds start) (crossLegs legA legB a b view) := by
  unfold crossLegs
  split
  case h_2 => exact h
  split
  · exact h
  split
  · exact h
  dsimp only
  cases lockOrderViolated legA view.legA legB view.legB
  · split <;> exact h
  · split <;> exact h

/-- Noting refunds keeps the folds. -/
theorem noteRefunds_keepsFolds (a b : ContractState) (h : KeepsFolds start view) :
    KeepsFolds start (noteRefunds a b view) := by
  unfold noteRefunds
  dsimp only
  split <;> exact h

/-- Folding refunds keeps the folds. -/
theorem foldRefunds_keepsFolds (a b : ContractState) (h : KeepsFolds start view) :
    Ends (KeepsFolds start) (KeepsFolds start) (foldRefunds a b view) := by
  have hNoted := noteRefunds_keepsFolds a b h
  have hTheft : KeepsFolds start (noteTheft b (noteRefunds a b view)) := by
    unfold noteTheft
    split
    · exact hNoted
    · exact hNoted
  unfold foldRefunds
  dsimp only
  split
  · exact hNoted
  split
  · exact hTheft
  split
  · exact hNoted
  · exact hNoted

/-- Folding the reveal keeps the folds. -/
theorem foldReveal_keepsFolds (a b : ContractState) (h : KeepsFolds start view) :
    Ends (KeepsFolds start) (KeepsFolds start) (foldReveal a b view) := by
  unfold foldReveal
  dsimp only
  split
  · split
    · split <;> exact h
    · exact h
  split
  · exact h
  · exact h

/-- Folding the locks keeps the folds. -/
theorem foldLocks_keepsFolds {nowMs : Int} {a b : ContractState}
    (hKeeps : KeepsFolds start view) (h : foldLocks t nowMs a b view = some view') :
    KeepsFolds start view' := by
  unfold foldLocks at h
  dsimp only at h
  split at h
  · split at h <;> (obtain rfl := Option.some.inj h; exact hKeeps)
  split at h
  · cases h
  split at h
  · obtain rfl := Option.some.inj h
    exact hKeeps
  split at h
  · split at h <;> (obtain rfl := Option.some.inj h; exact hKeeps)
  split at h
  · cases h
  split at h <;> (obtain rfl := Option.some.inj h; exact hKeeps)

/-- The legs of a view are the folds of their transcripts. -/
theorem foldSwap_folds {input : SwapFoldInput} (h : foldSwap t input = some view) :
    view.legA = foldLeg t input.legA ∧ view.legB = foldLeg t input.legB := by
  have hFrames : Ends (KeepsFolds (baseView t input)) (fun r => KeepsFolds (baseView t input) r.2)
      (foldFrames t input) := by
    unfold foldFrames
    refine (openLegA_keepsFolds _ ⟨rfl, rfl⟩).bind fun ⟨⟨a, swapId⟩, view⟩ h => ?_
    refine (openLegB_keepsFolds _ a swapId h).bind fun ⟨b, view⟩ h => ?_
    refine (crossLegs_keepsFolds _ _ a b h).bind fun view h => ?_
    refine (foldRefunds_keepsFolds a b h).bind fun view h => ?_
    exact (foldReveal_keepsFolds a b h).bind fun view h => h
  unfold foldSwap at h
  split at h
  · rename_i view' hView
    rw [hView] at hFrames
    obtain rfl := Option.some.inj h
    exact hFrames
  · rename_i a b view' hView
    rw [hView] at hFrames
    exact foldLocks_keepsFolds hFrames h

end

/-- A view of a board has the folds of its pair's transcripts. -/
theorem foldPair_folds {input : BoardInput} {index : OfferIndex} {pair : BoardPair}
    {view : SwapView} (h : foldPair t input index pair = some view) :
    view.legA = foldLeg t (buildLegRecords t pair.legA.record pair.acceptA.accept
      input.dealRooms) ∧
    view.legB = foldLeg t (match pair.legB with
      | none => []
      | some pairing =>
        buildLegRecords t pairing.legB.record pair.acceptB.accept input.dealRooms) := by
  unfold foldPair at h
  obtain ⟨bare, hBare, h⟩ := Option.bind_eq_some_iff.mp h
  dsimp only at h
  split at h
  · obtain ⟨folded, hFolded, h⟩ := Option.bind_eq_some_iff.mp h
    obtain rfl := Option.some.inj hFolded
    obtain rfl := Option.some.inj h
    split <;> exact foldSwap_folds hBare
  · obtain ⟨folded, hFolded, h⟩ := Option.bind_eq_some_iff.mp h
    obtain rfl := Option.some.inj h
    split <;> exact foldSwap_folds hFolded

-- ---------------------------------------------------------------------------
-- The scan, read off the posts
-- ---------------------------------------------------------------------------

/-- The swap-leg offer that a post makes under an id, if any. -/
def legOfferPost (t : Tclk) (id : String) (posted : Posted TclkFrame) : Option SwapLegOffer :=
  match posted.frame with
  | .offer offer =>
    match classifySwapOffer t offer with
    | none => none
    | some classification =>
      if offer.id = id then
        some ⟨posted.record.seq, classification.swapId, classification.context.leg, offer,
          posted.record⟩
      else none
  | _ => none

/-- The last post of an offer counts for the scan. -/
theorem scanLegFrame_get?_offer (scan : LegScan) (posted : Posted TclkFrame) (id : String) :
    (scanLegFrame t scan posted).swapLegOfferIds.get? id =
      (legOfferPost t id posted).or (scan.swapLegOfferIds.get? id) := by
  unfold scanLegFrame legOfferPost
  cases posted.frame with
  | offer offer =>
    dsimp only
    cases classifySwapOffer t offer with
    | none => rfl
    | some classification =>
      dsimp only
      rw [OrdMap.get?_set]
      by_cases hId : offer.id = id
      · rw [if_pos hId.symm, if_pos hId, Option.some_or]
      · rw [if_neg (Ne.symm hId), if_neg hId, Option.none_or]
  | accept accept =>
    dsimp only
    split
    · rfl
    · split <;> rfl
  | other type sender => rfl

/-- The candidate that a post makes of the offers `seen` before it. -/
def candidatePost (t : Tclk) (c : String) (seen : String → Option SwapLegOffer)
    (posted : Posted TclkFrame) : Option SwapLegCandidate :=
  match posted.frame with
  | .accept accept =>
    match seen accept.ref with
    | none => none
    | some legOffer =>
      if isGenuineAccept t legOffer.offer accept = true ∧ accept.contract = c then
        some ⟨accept.contract, legOffer.seq, posted.record.seq, legOffer.swapId, legOffer.leg,
          legOffer.offer, accept, legOffer.record, posted.record⟩
      else none
  | _ => none

/-- The last post of a contract counts for the scan. -/
theorem scanLegFrame_get?_contract (scan : LegScan) (posted : Posted TclkFrame) (c : String) :
    (scanLegFrame t scan posted).byContract.get? c =
      (scan.byContract.get? c).or (candidatePost t c scan.swapLegOfferIds.get? posted) := by
  unfold scanLegFrame candidatePost
  cases posted.frame with
  | offer offer =>
    dsimp only
    split <;> simp
  | accept accept =>
    dsimp only
    cases scan.swapLegOfferIds.get? accept.ref with
    | none => simp
    | some legOffer =>
      by_cases hGenuine : isGenuineAccept t legOffer.offer accept = true
      · simp only [hGenuine, Bool.not_true, Bool.false_eq_true, if_false, true_and]
        rw [OrdMap.get?_setIfAbsent]
        by_cases hContract : accept.contract = c
        · rw [if_pos hContract.symm, if_pos hContract]
        · rw [if_neg (Ne.symm hContract), if_neg hContract]
      · simp [hGenuine]
  | other type sender => simp

-- ---------------------------------------------------------------------------
-- Both passes at once
-- ---------------------------------------------------------------------------

/-- What the two passes have in common after the same posts. -/
structure Matched (t : Tclk) (posts : List (Posted TclkFrame)) (index : OfferIndex)
    (scan : LegScan) : Prop where
  posted : ∀ id offer, index.offersById.get? id = some offer →
    offer.id = id ∧ ∃ record, ⟨record, .offer offer⟩ ∈ posts
  legOffer : ∀ id legOffer, scan.swapLegOfferIds.get? id = some legOffer →
    index.offersById.get? id = some legOffer.offer ∧
      ⟨legOffer.record, .offer legOffer.offer⟩ ∈ posts ∧
      classifySwapOffer t legOffer.offer ≠ none
  classified : ∀ id offer, index.offersById.get? id = some offer →
    classifySwapOffer t offer ≠ none → scan.swapLegOfferIds.get? id ≠ none
  accept : ∀ id accept, accept ∈ index.acceptsByRef.getList id → accept.frame.ref = id ∧
    ∃ offer, index.offersById.get? id = some offer ∧
      isGenuineAccept t offer accept.frame = true ∧
      (classifySwapOffer t offer ≠ none → scan.byContract.get? accept.frame.contract ≠ none)
  /-- The candidate of a contract is made of the first accept of the contract. -/
  candidate : ∀ c candidate, scan.byContract.get? c = some candidate →
    isGenuineAccept t candidate.offer candidate.accept = true ∧
      ⟨candidate.offerRecord, .offer candidate.offer⟩ ∈ posts ∧
      (index.acceptsByRef.getList candidate.accept.ref).find? (·.frame.contract = c) =
        some ⟨candidate.acceptRecord, candidate.accept⟩

/-- Nothing scanned matches nothing posted. -/
theorem matched_empty : Matched t [] .empty .empty :=
  ⟨fun _ _ h => (nomatch (h : none = some _)), fun _ _ h => (nomatch (h : none = some _)),
    fun _ _ h => (nomatch (h : none = some _)), fun _ _ h => absurd h List.not_mem_nil,
    fun _ _ h => (nomatch (h : none = some _))⟩

section

variable {posts : List (Posted TclkFrame)} {index : OfferIndex} {scan : LegScan}

/-- Frames of the posts commit to their content. -/
def PostsCommit (posts : List (Posted TclkFrame)) : Prop :=
  ∀ record offer record' offer', ⟨record, .offer offer⟩ ∈ posts →
    ⟨record', .offer offer'⟩ ∈ posts → offer.id = offer'.id → offer = offer'

/-- The ids of authentic posts commit to them. -/
theorem postsCommit_authenticateOffers (hIds : t.OfferIdsCommit) (records : List TranscriptRecord) :
    PostsCommit (authenticateOffers t records) := by
  intro record offer record' offer' h h' hId
  exact hIds _ _ _ _ (mem_authenticateOffers h).2.2 (mem_authenticateOffers h').2.2 hId

/-- A genuine accept names the offer. -/
theorem genuine_ref {offer : OfferFrame} {accept : AcceptFrame}
    (h : isGenuineAccept t offer accept = true) : accept.ref = offer.id := by
  unfold isGenuineAccept at h
  split at h
  · cases h
  · rename_i hRefuses
    exact not_not.mp (not_or.mp hRefuses).1

/-- A genuine accept carries the contract of the offer and itself. -/
theorem genuine_contract {offer : OfferFrame} {accept : AcceptFrame}
    (h : isGenuineAccept t offer accept = true) :
    t.contractId offer accept.toAcceptCore = some accept.contract := by
  unfold isGenuineAccept at h
  split at h
  · cases h
  · exact beq_iff_eq.mp h

/-- An offer is known under its id to both passes, or to the board alone. -/
theorem Matched.offer {record : TranscriptRecord} {offer : OfferFrame}
    (h : Matched t posts index scan)
    (hCommit : PostsCommit (posts ++ [⟨record, .offer offer⟩])) :
    Matched t (posts ++ [⟨record, .offer offer⟩]) (indexFrame t index ⟨record, .offer offer⟩)
      (scanLegFrame t scan ⟨record, .offer offer⟩) := by
  have hSelf : (⟨record, .offer offer⟩ : Posted TclkFrame) ∈ posts ++ [⟨record, .offer offer⟩] := by
    simp
  -- an id commits to its offer, so the first and the last post of it are the same
  have hEarlier {id : String} {seen : OfferFrame} (hSeen : index.offersById.get? id = some seen)
      (hId : offer.id = id) : seen = offer := by
    obtain ⟨hSeenId, record', hMem⟩ := h.posted id seen hSeen
    exact hCommit _ _ _ _ (List.mem_append_left _ hMem) hSelf (hSeenId.trans hId.symm)
  have hOffers (id : String) : (indexFrame t index ⟨record, .offer offer⟩).offersById.get? id =
      if offer.id = id then some offer else index.offersById.get? id := by
    rw [indexFrame_get?_offer]
    unfold offerPost
    dsimp only
    by_cases hId : offer.id = id
    · rw [if_pos hId, if_pos hId]
      cases hSeen : index.offersById.get? id with
      | none => rfl
      | some seen => rw [hEarlier hSeen hId, Option.some_or]
    · rw [if_neg hId, if_neg hId, Option.or_none]
  -- an offer changes no accept and no candidate
  have hAccepts (id : String) :
      (indexFrame t index ⟨record, .offer offer⟩).acceptsByRef.getList id =
        index.acceptsByRef.getList id := by
    rw [indexFrame_getList_accepts]
    exact List.append_nil _
  have hContracts (c : String) : (scanLegFrame t scan ⟨record, .offer offer⟩).byContract.get? c =
      scan.byContract.get? c := by
    rw [scanLegFrame_get?_contract]
    exact Option.or_none
  refine ⟨?_, ?_, ?_, ?_, ?_⟩
  -- the posts that the index knows
  · intro id seen hSeen
    rw [hOffers] at hSeen
    by_cases hId : offer.id = id
    · rw [if_pos hId] at hSeen
      obtain rfl := Option.some.inj hSeen
      exact ⟨hId, record, hSelf⟩
    · rw [if_neg hId] at hSeen
      obtain ⟨hSeenId, record', hMem⟩ := h.posted id seen hSeen
      exact ⟨hSeenId, record', List.mem_append_left _ hMem⟩
  -- the leg offers that the scan knows are the index's
  · intro id legOffer hGet
    rw [scanLegFrame_get?_offer] at hGet
    rw [hOffers]
    rcases Option.or_eq_some_iff.mp hGet with hNew | ⟨-, hOld⟩
    · unfold legOfferPost at hNew
      dsimp only at hNew
      cases hClass : classifySwapOffer t offer with
      | none =>
        rw [hClass] at hNew
        cases hNew
      | some classification =>
        rw [hClass] at hNew
        dsimp only at hNew
        by_cases hId : offer.id = id
        · rw [if_pos hId] at hNew
          obtain rfl := Option.some.inj hNew
          refine ⟨if_pos hId, hSelf, ?_⟩
          rw [hClass]
          exact Option.some_ne_none _
        · rw [if_neg hId] at hNew
          cases hNew
    · obtain ⟨hSeen, hMem, hClass⟩ := h.legOffer id legOffer hOld
      refine ⟨?_, List.mem_append_left _ hMem, hClass⟩
      by_cases hId : offer.id = id
      · rw [if_pos hId, hEarlier hSeen hId]
      · rw [if_neg hId, hSeen]
  -- and every offer that classifies is among them
  · intro id seen hSeen hClass
    rw [hOffers] at hSeen
    rw [scanLegFrame_get?_offer]
    intro hNone
    obtain ⟨hNew, hOld⟩ := Option.or_eq_none_iff.mp hNone
    by_cases hId : offer.id = id
    · rw [if_pos hId] at hSeen
      obtain rfl := Option.some.inj hSeen
      obtain ⟨classification, hSome⟩ := Option.ne_none_iff_exists'.mp hClass
      unfold legOfferPost at hNew
      dsimp only at hNew
      rw [hSome] at hNew
      dsimp only at hNew
      rw [if_pos hId] at hNew
      cases hNew
    · rw [if_neg hId] at hSeen
      exact h.classified id seen hSeen hClass hOld
  -- the accepts of the index are genuine and have a candidate
  · intro id accept hAccept
    rw [hAccepts] at hAccept
    obtain ⟨hRef, seen, hSeen, hGenuine, hCandidate⟩ := h.accept id accept hAccept
    refine ⟨hRef, seen, ?_, hGenuine, ?_⟩
    · rw [hOffers]
      by_cases hId : offer.id = id
      · rw [if_pos hId, hEarlier hSeen hId]
      · rw [if_neg hId, hSeen]
    · rw [hContracts]
      exact hCandidate
  -- the candidates come of the first genuine accept
  · intro c candidate hGet
    rw [hContracts] at hGet
    obtain ⟨hGenuine, hMem, hFirst⟩ := h.candidate c candidate hGet
    refine ⟨hGenuine, List.mem_append_left _ hMem, ?_⟩
    rw [hAccepts]
    exact hFirst

/-- A genuine accept is listed by the board, and makes a candidate if it is the first of its
contract. -/
theorem Matched.accepted {record : TranscriptRecord} {accept : AcceptFrame}
    (h : Matched t posts index scan) :
    Matched t (posts ++ [⟨record, .accept accept⟩]) (indexFrame t index ⟨record, .accept accept⟩)
      (scanLegFrame t scan ⟨record, .accept accept⟩) := by
  have hOffers (id : String) : (indexFrame t index ⟨record, .accept accept⟩).offersById.get? id =
      index.offersById.get? id := by
    rw [indexFrame_get?_offer]
    exact Option.or_none
  have hLegOffers (id : String) :
      (scanLegFrame t scan ⟨record, .accept accept⟩).swapLegOfferIds.get? id =
        scan.swapLegOfferIds.get? id := scanLegFrame_get?_offer scan _ id
  refine ⟨?_, ?_, ?_, ?_, ?_⟩
  · intro id seen hSeen
    rw [hOffers] at hSeen
    obtain ⟨hSeenId, record', hMem⟩ := h.posted id seen hSeen
    exact ⟨hSeenId, record', List.mem_append_left _ hMem⟩
  · intro id legOffer hGet
    rw [hLegOffers] at hGet
    rw [hOffers]
    obtain ⟨hSeen, hMem, hClass⟩ := h.legOffer id legOffer hGet
    exact ⟨hSeen, List.mem_append_left _ hMem, hClass⟩
  · intro id seen hSeen
    rw [hOffers] at hSeen
    rw [hLegOffers]
    exact h.classified id seen hSeen
  · intro id listed hListed
    rw [indexFrame_getList_accepts, List.mem_append, Option.mem_toList] at hListed
    rw [hOffers]
    rcases hListed with hListed | hNew
    · obtain ⟨hRef, seen, hSeen, hGenuine, hCandidate⟩ := h.accept id listed hListed
      refine ⟨hRef, seen, hSeen, hGenuine, fun hClass => ?_⟩
      rw [scanLegFrame_get?_contract]
      exact fun hNone => hCandidate hClass (Option.or_eq_none_iff.mp hNone).1
    · obtain ⟨hPosted, seen, hSeen, hGenuine⟩ := acceptPost_eq_some hNew
      obtain ⟨rfl, hFrame⟩ := Posted.mk.inj hPosted
      obtain rfl := TclkFrame.accept.inj hFrame
      have hRef : listed.frame.ref = id :=
        (genuine_ref hGenuine).trans (h.posted id seen hSeen).1
      refine ⟨hRef, seen, hSeen, hGenuine, fun hClass hNone => ?_⟩
      rw [scanLegFrame_get?_contract] at hNone
      obtain ⟨legOffer, hLegOffer⟩ :=
        Option.ne_none_iff_exists'.mp (h.classified id seen hSeen hClass)
      have hSame : seen = legOffer.offer :=
        Option.some.inj (hSeen.symm.trans (h.legOffer id legOffer hLegOffer).1)
      have hCandidate := (Option.or_eq_none_iff.mp hNone).2
      unfold candidatePost at hCandidate
      dsimp only at hCandidate
      rw [hRef, hLegOffer] at hCandidate
      dsimp only at hCandidate
      rw [if_pos ⟨hSame ▸ hGenuine, rfl⟩] at hCandidate
      cases hCandidate
  · intro c candidate hGet
    rw [scanLegFrame_get?_contract] at hGet
    rw [indexFrame_getList_accepts, List.find?_append]
    rcases Option.or_eq_some_iff.mp hGet with hOld | ⟨hNone, hNew⟩
    · obtain ⟨hGenuine, hMem, hFirst⟩ := h.candidate c candidate hOld
      refine ⟨hGenuine, List.mem_append_left _ hMem, ?_⟩
      rw [hFirst, Option.some_or]
    · unfold candidatePost at hNew
      dsimp only at hNew
      cases hLegOffer : scan.swapLegOfferIds.get? accept.ref with
      | none =>
        rw [hLegOffer] at hNew
        cases hNew
      | some legOffer =>
        rw [hLegOffer] at hNew
        dsimp only at hNew
        by_cases hCounts : isGenuineAccept t legOffer.offer accept = true ∧ accept.contract = c
        · rw [if_pos hCounts] at hNew
          obtain rfl := Option.some.inj hNew
          obtain ⟨hGenuine, rfl⟩ := hCounts
          obtain ⟨hSeen, hMem, hClass⟩ := h.legOffer _ legOffer hLegOffer
          refine ⟨hGenuine, List.mem_append_left _ hMem, ?_⟩
          -- an earlier accept of the contract would have made the candidate
          have hNoEarlier : (index.acceptsByRef.getList accept.ref).find?
              (·.frame.contract = accept.contract) = none := by
            rw [List.find?_eq_none]
            intro earlier hEarlier hContract
            obtain ⟨-, seen, hSeen', -, hCandidate⟩ := h.accept _ earlier hEarlier
            obtain rfl : legOffer.offer = seen := Option.some.inj (hSeen.symm.trans hSeen')
            rw [decide_eq_true_eq] at hContract
            exact hCandidate hClass (hContract ▸ hNone)
          have hNow : acceptPost t accept.ref (index.offersById.get? accept.ref)
              ⟨record, .accept accept⟩ = some ⟨record, accept⟩ := by
            unfold acceptPost
            dsimp only
            rw [hSeen]
            exact if_pos ⟨rfl, hGenuine⟩
          dsimp only
          rw [hNoEarlier, hNow, Option.none_or]
          exact List.find?_cons_of_pos (by simp)
        · rw [if_neg hCounts] at hNew
          cases hNew

/-- Any other frame is passed over. -/
theorem Matched.other {posted : Posted TclkFrame} (h : Matched t posts index scan) :
    Matched t (posts ++ [posted]) index scan := by
  refine ⟨?_, ?_, h.classified, h.accept, ?_⟩
  · intro id seen hSeen
    obtain ⟨hId, record, hMem⟩ := h.posted id seen hSeen
    exact ⟨hId, record, List.mem_append_left _ hMem⟩
  · intro id legOffer hGet
    obtain ⟨hSeen, hMem, hClass⟩ := h.legOffer id legOffer hGet
    exact ⟨hSeen, List.mem_append_left _ hMem, hClass⟩
  · intro c candidate hGet
    obtain ⟨hGenuine, hMem, hFirst⟩ := h.candidate c candidate hGet
    exact ⟨hGenuine, List.mem_append_left _ hMem, hFirst⟩

/-- After any posts. -/
theorem matched_run (hCommit : PostsCommit posts) :
    Matched t posts (posts.foldl (indexFrame t) .empty) (posts.foldl (scanLegFrame t) .empty) := by
  induction posts using List.reverseRecOn with
  | nil => exact matched_empty
  | append_singleton posts posted ih =>
    have hPosts : PostsCommit posts := fun record offer record' offer' h h' =>
      hCommit record offer record' offer' (List.mem_append_left _ h) (List.mem_append_left _ h')
    rw [List.foldl_append, List.foldl_append]
    obtain ⟨record, frame⟩ := posted
    cases frame with
    | offer offer => exact (ih hPosts).offer hCommit
    | accept accept => exact (ih hPosts).accepted
    | other type sender => exact (ih hPosts).other

end

-- ---------------------------------------------------------------------------
-- One accept for a contract
-- ---------------------------------------------------------------------------

/-- The first elements of two kinds are one element, if each is of the other kind as well. -/
theorem find?_unique {α : Type} {p q : α → Bool} {l : List α} {x y : α} (hx : l.find? p = some x)
    (hy : l.find? q = some y) (hxq : q x = true) (hyp : p y = true) : x = y := by
  induction l with
  | nil => cases hx
  | cons a l ih =>
    rw [List.find?_cons] at hx hy
    by_cases hp : p a = true
    · rw [hp] at hx
      obtain rfl := Option.some.inj hx
      rw [hxq] at hy
      exact Option.some.inj hy
    · rw [Bool.not_eq_true] at hp
      rw [hp] at hx
      by_cases hq : q a = true
      · rw [hq] at hy
        obtain rfl := Option.some.inj hy
        rw [hyp] at hp
        cases hp
      · rw [Bool.not_eq_true] at hq
        rw [hq] at hy
        exact ih hx hy

/-- The accept that is chosen is the first of its signer's, or the first of all. -/
theorem chooseAccept_first {accepts : List (Posted AcceptFrame)} {counterparty : Option String}
    {accept : Posted AcceptFrame} (h : (chooseAccept accepts counterparty).accept = some accept) :
    ∃ kind : Posted AcceptFrame → Bool, accepts.find? kind = some accept ∧
      ∀ other : Posted AcceptFrame, other.frame.sender = accept.frame.sender →
        kind other = true := by
  unfold chooseAccept at h
  cases accepts with
  | nil => cases h
  | cons first rest =>
    dsimp only at h
    split at h
    · rename_i own hOwn
      obtain rfl := Option.some.inj h
      obtain ⟨did, -, hFind⟩ := Option.bind_eq_some_iff.mp hOwn
      refine ⟨_, hFind, fun other hOther => ?_⟩
      have hSender := List.find?_some hFind
      rw [decide_eq_true_eq] at hSender ⊢
      exact hOther.trans hSender
    · obtain rfl := Option.some.inj h
      exact ⟨fun _ => true, rfl, fun _ _ => rfl⟩

/-- The machine opens a contract from the frame of an offer, so it does not matter which
authenticated post of the offer comes first in a transcript. -/
def Tclk.OpensFromFrame (t : Tclk) : Prop :=
  ∀ first second offer rest, authenticate t first = some ⟨first, .offer offer⟩ →
    authenticate t second = some ⟨second, .offer offer⟩ →
    (t.foldTranscript (first :: rest)).state = (t.foldTranscript (second :: rest)).state

/-- A contract gets its rail from a lock frame that the machine accepted. -/
def Tclk.LocksByStep (t : Tclk) : Prop :=
  ∀ records state, (t.foldTranscript records).state = some state → state.rail.isSome = true →
    ∃ step ∈ (t.foldTranscript records).steps, step.ok = true ∧ step.type = some "lock"

/-- A post authenticates from its own record. -/
theorem authenticate_of_mem {records : List TranscriptRecord} {posted : Posted TclkFrame}
    (h : posted ∈ authenticateOffers t records) :
    authenticate t posted.record = some posted := by
  obtain ⟨record, -, hAuth⟩ := List.mem_filterMap.mp h
  rw [(authenticate_eq_some hAuth).1, hAuth]

-- ---------------------------------------------------------------------------
-- The legs of a pair
-- ---------------------------------------------------------------------------

def BoardPair.accept (pair : BoardPair) : Leg → Option (Posted AcceptFrame)
  | .a => pair.acceptA.accept
  | .b => pair.acceptB.accept

def SwapView.legFold (view : SwapView) : Leg → Option TranscriptFoldResult
  | .a => view.legA
  | .b => view.legB

/-- The contract that the leg's accept made, whose deal room the leg is folded with. -/
def BoardPair.UsesContract (pair : BoardPair) (leg : Leg) (contract : String) : Prop :=
  ∃ accept, pair.accept leg = some accept ∧ accept.frame.contract = contract

section

variable {input : BoardInput} {pair : BoardPair} {view : SwapView}

/-- An accepted leg is folded from a post of its offer, its accept and its deal room. -/
theorem legFold_of_pair (hPair : pair ∈ boardPairs (indexOffers t input.offers))
    (hView : foldPair t input (indexOffers t input.offers) pair = some view) {leg : Leg}
    {accept : Posted AcceptFrame} (hAccept : pair.accept leg = some accept) :
    ∃ record offer counterparty, ⟨record, .offer offer⟩ ∈ authenticateOffers t input.offers ∧
      (chooseAccept ((indexOffers t input.offers).acceptsByRef.getList offer.id)
        counterparty).accept = some accept ∧
      view.legFold leg = some (t.foldTranscript (record :: accept.record ::
        (input.dealRooms (t.dealRoom accept.frame.contract)).getD [])) := by
  -- the pair comes of a leg A that was posted
  obtain ⟨⟨id, legA⟩, hEntry, rfl⟩ := List.mem_map.mp hPair
  have hGet := OrdMap.mem_entries.mp hEntry
  rw [get?_legA] at hGet
  obtain ⟨posted, hMem, hPost⟩ := List.exists_of_findSome?_eq_some hGet
  obtain ⟨rfl, rfl⟩ := legAPost_eq_some hPost
  obtain ⟨hFoldA, hFoldB⟩ := foldPair_folds hView
  -- leg A folds from its own record, leg B from that of its winner
  cases leg with
  | a =>
    refine ⟨_, _, _, hMem, hAccept, ?_⟩
    rw [show (boardPair (indexOffers t input.offers) legA.offer.id legA).acceptA.accept =
      some accept from hAccept] at hFoldA
    exact hFoldA
  | b =>
    cases hLegB : (legBByLegAOfferId (indexOffers t input.offers)).get? legA.offer.id with
    | none =>
      have hNone : (boardPair (indexOffers t input.offers) legA.offer.id legA).acceptB.accept =
          none := by
        unfold boardPair
        rw [hLegB]
      exact absurd (hAccept.symm.trans hNone) (Option.some_ne_none accept)
    | some pairing =>
      have hCandidate := (mem_of_winner hLegB).2.1
      rw [mem_orderedLegB] at hCandidate
      have hChoice : (boardPair (indexOffers t input.offers) legA.offer.id legA).acceptB =
          chooseAccept ((indexOffers t input.offers).acceptsByRef.getList pairing.legB.offer.id)
            (some legA.offer.sender) := by
        unfold boardPair
        rw [hLegB]
      have hPairing : (boardPair (indexOffers t input.offers) legA.offer.id legA).legB =
          some pairing := hLegB
      refine ⟨_, _, _, (mem_legBCandidates_self hCandidate).1,
        (congrArg ChosenAccept.accept hChoice).symm.trans hAccept, ?_⟩
      rw [show (boardPair (indexOffers t input.offers) legA.offer.id legA).acceptB.accept =
        some accept from hAccept, hPairing] at hFoldB
      exact hFoldB

end

/-- A lock is found exactly where the state of the transcript has a rail and a ref, and is that
rail and that ref. -/
theorem foldAcceptedLock_iff (hSteps : t.LocksByStep)
    {offerRecord acceptRecord : TranscriptRecord} {dealRoomRecords : List TranscriptRecord}
    {rail railRef : String} :
    (∃ lock, foldAcceptedLock t offerRecord acceptRecord dealRoomRecords = some lock ∧
      lock.rail = rail ∧ lock.railRef = railRef) ↔
    ∃ state,
      (t.foldTranscript (offerRecord :: acceptRecord :: dealRoomRecords)).state = some state ∧
      state.rail = some rail ∧ state.railRef = some railRef := by
  unfold foldAcceptedLock
  simp only [Option.bind_eq_bind, Option.bind_eq_some_iff, Option.pure_def, Option.some.injEq,
    List.cons_append, List.nil_append]
  constructor
  · rintro ⟨-, ⟨state, hState, rail, hRail, railRef, hRailRef, step, -, rfl⟩, rfl, rfl⟩
    exact ⟨state, hState, hRail, hRailRef⟩
  · rintro ⟨state, hState, hRail, hRailRef⟩
    obtain ⟨step, hStep, hOk⟩ := hSteps _ _ hState (hRail ▸ rfl)
    have hFound : ((t.foldTranscript (offerRecord :: acceptRecord :: dealRoomRecords)).steps.find?
        fun step => step.ok && step.type = some "lock").isSome = true :=
      List.find?_isSome.mpr ⟨step, hStep, by simpa using hOk⟩
    obtain ⟨found, hFind⟩ := Option.isSome_iff_exists.mp hFound
    exact ⟨_, ⟨state, hState, rail, hRail, railRef, hRailRef, found, hFind, rfl⟩, rfl, rfl⟩

/-- **One lock for a contract.** The leg that the board folds under a candidate's contract is in
the state that the candidate's own transcript leads to. So a lock is found for the candidate
exactly where that leg has a rail and a ref, and it is the one that the board shows. -/
theorem foldAcceptedLock_eq_legState (hIds : t.OfferIdsCommit)
    (hContracts : t.ContractIdsInjective) (hOpens : t.OpensFromFrame) (hSteps : t.LocksByStep)
    {input : BoardInput} {board : Board} (hBoard : buildBoard t input = some board)
    {candidate : SwapLegCandidate} (hCandidate : candidate ∈ findSwapLegCandidates t input.offers)
    {pair : BoardPair} {view : SwapView} (hPair : (pair, view) ∈ boardViews t input board) {leg : Leg}
    (hUses : pair.UsesContract leg candidate.contract) :
    ∃ fold, view.legFold leg = some fold ∧
      fold.state = (t.foldTranscript (candidate.offerRecord :: candidate.acceptRecord ::
        (input.dealRooms (t.dealRoom candidate.contract)).getD [])).state ∧
      ∀ rail railRef,
        (∃ lock, foldAcceptedLock t candidate.offerRecord candidate.acceptRecord
            ((input.dealRooms (t.dealRoom candidate.contract)).getD []) = some lock ∧
          lock.rail = rail ∧ lock.railRef = railRef) ↔
        ∃ state, fold.state = some state ∧ state.rail = some rail ∧
          state.railRef = some railRef := by
  obtain ⟨accept, hAccept, hContract⟩ := hUses
  have hView := (List.forall₂_iff_zip.mp (swaps_of_buildBoard hBoard).1).2 hPair
  obtain ⟨record, offer, counterparty, hPost, hChosen, hFold⟩ :=
    legFold_of_pair (List.of_mem_zip hPair).1 hView hAccept
  have hCommit := postsCommit_authenticateOffers hIds input.offers
  have hMatched : Matched t _ (indexOffers t input.offers) (scanLegs t input.offers) :=
    matched_run hCommit
  obtain ⟨hGenuine, hMem, hFirst⟩ :=
    hMatched.candidate _ _ (mem_findSwapLegCandidates.mp hCandidate)
  have hFirstContract := List.find?_some hFirst
  rw [decide_eq_true_eq] at hFirstContract
  -- the offer and the accept are the candidate's, since the contract is
  obtain ⟨kind, hKind, hSigner⟩ := chooseAccept_first hChosen
  obtain ⟨hRef, seen, hSeen, hAcceptGenuine, -⟩ :=
    hMatched.accept _ accept (List.mem_of_find?_eq_some hKind)
  obtain ⟨hSeenId, seenRecord, hSeenPost⟩ := hMatched.posted _ seen hSeen
  obtain rfl : seen = offer := hCommit _ _ _ _ hSeenPost hPost hSeenId
  obtain ⟨rfl, hCore⟩ := hContracts _ _ _ _ _
    ((genuine_contract hAcceptGenuine).trans (congrArg some hContract))
    ((genuine_contract hGenuine).trans (congrArg some hFirstContract))
  have hSame : accept = ⟨candidate.acceptRecord, candidate.accept⟩ := by
    have hRefs : candidate.accept.ref = candidate.offer.id :=
      (congrArg AcceptCore.ref hCore).symm.trans hRef
    rw [hRefs] at hFirst
    exact find?_unique hKind hFirst (decide_eq_true hContract)
      (hSigner _ (congrArg AcceptCore.sender hCore).symm)
  have hState := hOpens record candidate.offerRecord candidate.offer
    (accept.record :: (input.dealRooms (t.dealRoom accept.frame.contract)).getD [])
    (authenticate_of_mem hPost) (authenticate_of_mem hMem)
  rw [hContract, congrArg Posted.record hSame] at hState hFold
  refine ⟨_, hFold, hState, fun rail railRef => ?_⟩
  rw [foldAcceptedLock_iff hSteps, ← hState]

namespace Room

/-- The machine of the room, with locks: a line of leg B's deal room is one. -/
def lockingTclk : Tclk :=
  { tclk with
    foldTranscript := fun records =>
      match (tclk.foldTranscript records).state, records.any (·.line = "lock b") with
      | some state, true =>
        ⟨some { state with rail := some FLOP_RAIL, railRef := some "escrow-1" },
          [⟨1, 2, some "lock", true, none⟩]⟩
      | state, _ => ⟨state, []⟩ }

/-- The Seller posts the offer of leg B once more before the Buyer accepts it. -/
def repeated : BoardInput :=
  { inputOf [post 1 "buyer" "offer a", post 5 "seller" "accept a", post 6 "seller" "offer b",
      post 7 "seller" "offer b", post 8 "buyer" "accept b"] with
    dealRooms := fun room =>
      if room = "mb-p-tclk-cb" then some [⟨room, 1, 20, "seller", "00", "lock b", some "signed"⟩]
      else none }

/-- The sample opens a contract from its frame. -/
theorem opensFromFrame : lockingTclk.OpensFromFrame := by
  intro first second offer rest hFirst hSecond
  -- a line of an offer is no line of a lock
  have hFrame {record : TranscriptRecord} (h : authenticate lockingTclk record =
      some ⟨record, .offer offer⟩) : frames.lookup record.line = some (.offer offer) :=
    (authenticate_eq_some h).2.2
  have hNotLock {record : TranscriptRecord} (h : authenticate lockingTclk record =
      some ⟨record, .offer offer⟩) : record.line ≠ "lock b" := by
    intro hLine
    have hNone : frames.lookup "lock b" = none := by decide
    rw [← hLine, hFrame h] at hNone
    cases hNone
  have hFrames : (first :: rest).filterMap (frames.lookup ·.line) =
      (second :: rest).filterMap (frames.lookup ·.line) := by
    simp only [List.filterMap_cons, hFrame hFirst, hFrame hSecond]
  have hState : (tclk.foldTranscript (first :: rest)).state =
      (tclk.foldTranscript (second :: rest)).state := by
    unfold tclk
    dsimp only
    rw [hFrames]
  have hLocks : (first :: rest).any (·.line = "lock b") =
      (second :: rest).any (·.line = "lock b") := by
    rw [List.any_cons, List.any_cons, decide_eq_false (hNotLock hFirst),
      decide_eq_false (hNotLock hSecond)]
  unfold lockingTclk
  dsimp only
  rw [hState, hLocks]

/-- The sample locks a contract by a step. -/
theorem locksByStep : lockingTclk.LocksByStep := by
  intro records state hState hRail
  unfold lockingTclk at hState ⊢
  dsimp only at hState ⊢
  split at hState
  · exact ⟨_, List.mem_singleton_self _, rfl, rfl⟩
  · -- without a lock the room's machine names no rail
    have hNone : ∀ u, (tclk.foldTranscript records).state = some u → u.rail = none := by
      intro u hu
      unfold tclk at hu
      dsimp only at hu
      split at hu <;> cases hu <;> rfl
    rw [hNone state hState] at hRail
    cases hRail

end Room

theorem foldAcceptedLock_eq_legState_sample : ∃ board candidate pair view fold state,
    buildBoard Room.lockingTclk Room.repeated = some board ∧
      candidate ∈ findSwapLegCandidates Room.lockingTclk Room.repeated.offers ∧
      candidate.offerRecord.seq = 7 ∧
      (pair, view) ∈ boardViews Room.lockingTclk Room.repeated board ∧
      pair.legB.map (·.legB.record.seq) = some 6 ∧ view.legFold .b = some fold ∧
      fold.state = some state ∧ state.rail = some FLOP_RAIL ∧ state.railRef = some "escrow-1" := by
  -- what the sample room folds to, on either side
  have hCandidates : ((findSwapLegCandidates Room.lockingTclk Room.repeated.offers).find?
      (·.contract = "cb")).map (fun candidate => (candidate.offerRecord.seq,
        foldAcceptedLock Room.lockingTclk candidate.offerRecord candidate.acceptRecord
          ((Room.repeated.dealRooms "mb-p-tclk-cb").getD []))) =
      some (7, some ⟨FLOP_RAIL, "escrow-1", 1⟩) := by decide +kernel
  have hBoards : (buildBoard Room.lockingTclk Room.repeated).map (fun board =>
      (boardViews Room.lockingTclk Room.repeated board).map fun e =>
        (e.1.legB.map (·.legB.record.seq), (e.1.accept .b).map (·.frame.contract))) =
      some [(some 6, some "cb")] := by decide +kernel
  obtain ⟨candidate, hFind, hSeen⟩ := Option.map_eq_some_iff.mp hCandidates
  obtain ⟨hSeq, hLock⟩ := Prod.mk.inj hSeen
  have hMem := List.mem_of_find?_eq_some hFind
  have hContract := List.find?_some hFind
  rw [decide_eq_true_eq] at hContract
  obtain ⟨board, hBoard, hViews⟩ := Option.map_eq_some_iff.mp hBoards
  obtain ⟨⟨pair, view⟩, hPair, hFields⟩ := List.mem_map.mp
    (hViews ▸ List.mem_singleton_self (some 6, some "cb"))
  obtain ⟨hOffer, hAccept⟩ := Prod.mk.inj hFields
  obtain ⟨accept, hAccept, hAcceptContract⟩ := Option.map_eq_some_iff.mp hAccept
  obtain ⟨fold, hFold, -, hSame⟩ := foldAcceptedLock_eq_legState
    (show Room.lockingTclk.OfferIdsCommit from Room.offerIdsCommit)
    (show Room.lockingTclk.ContractIdsInjective from Room.contractIdsInjective)
    Room.opensFromFrame Room.locksByStep hBoard hMem hPair
    ⟨accept, hAccept, hAcceptContract.trans hContract.symm⟩
  rw [hContract] at hSame
  obtain ⟨state, hState, hRail, hRailRef⟩ := (hSame _ _).mp ⟨_, hLock, rfl, rfl⟩
  exact ⟨board, candidate, pair, view, fold, state, hBoard, hMem, hSeq, hPair, hOffer, hFold,
    hState, hRail, hRailRef⟩

end SwapDesk.Desk
