import SwapDesk.Desk.BoardFacts
import Mathlib.Data.List.Induction

/-!
# SwapDesk — pairing under further posts

A leg A that has a crossing leg B keeps its pair whatever outsiders post: the
crossing candidates, their ranks and the accepts chosen are read off posts that
outsiders cannot sign.

* `scan_best`: the scan finds the crossing candidate of the least rank;
* `picks_of_inserted`: posts of outsiders change no pick of the pair.

An outsider is neither the Buyer nor the signer of a leg B that the Buyer
accepted. A DID whose leg B the Buyer did accept can still make it cross, by
accepting leg A: `pairing_steered`.
-/

namespace SwapDesk.Desk

variable {t : Tclk} {index : OfferIndex}

-- ---------------------------------------------------------------------------
-- The scan
-- ---------------------------------------------------------------------------

/-- The rank of a candidate that crosses: the sequence number of its leg-A accept. -/
def crossSeq (index : OfferIndex) (buyer : String) (accepts : List (Posted AcceptFrame))
    (c : LegBCandidate) : Option Nat :=
  if acceptedBy (index.acceptsByRef.getList c.offer.id) buyer then
    acceptSeqOf accepts c.offer.sender
  else none

/-- `found` is the crossing candidate among `seen` of the least rank, and among those
the first. -/
def Best (rank : LegBCandidate → Option Nat) (seen : List LegBCandidate)
    (found : Option (LegBCandidate × Nat)) : Prop :=
  match found with
  | none => ∀ d ∈ seen, rank d = none
  | some (c, n) => c ∈ seen ∧ rank c = some n ∧
      ∀ d ∈ seen, ∀ m, rank d = some m → n < m ∨ (n = m ∧ c.record.seq ≤ d.record.seq)

section
variable {buyer : String} {accepts : List (Posted AcceptFrame)}

/-- One candidate, later in order than all before it, keeps the scan at the best. -/
theorem scanCandidate_best {scan : CandidateScan} {seen : List LegBCandidate} {d : LegBCandidate}
    (h : Best (crossSeq index buyer accepts) seen scan.crossing)
    (hd : ∀ c ∈ seen, c.record.seq ≤ d.record.seq) :
    Best (crossSeq index buyer accepts) (seen ++ [d])
      (scanCandidate index buyer accepts scan d).crossing := by
  -- a candidate that crosses nothing leaves the best one
  have hSkip : crossSeq index buyer accepts d = none →
      Best (crossSeq index buyer accepts) (seen ++ [d]) scan.crossing := by
    intro hnone
    unfold Best at h ⊢
    split
    · rename_i hscan
      rw [hscan] at h
      intro c hc
      rcases List.mem_append.mp hc with hc | hc
      · exact h c hc
      · rw [List.mem_singleton.mp hc, hnone]
    · rename_i c n hscan
      rw [hscan] at h
      refine ⟨List.mem_append_left _ h.1, h.2.1, fun e he m hm => ?_⟩
      rcases List.mem_append.mp he with he | he
      · exact h.2.2 e he m hm
      · rw [List.mem_singleton.mp he, hnone] at hm
        cases hm
  unfold scanCandidate
  -- the seller's own accept, then the buyer's
  cases hseq : acceptSeqOf accepts d.offer.sender with
  | none =>
    refine hSkip ?_
    rw [crossSeq, hseq]
    split <;> rfl
  | some aSeq =>
    by_cases hbuyer : acceptedBy (index.acceptsByRef.getList d.offer.id) buyer = true
    case neg =>
      have hnone : crossSeq index buyer accepts d = none := by rw [crossSeq, if_neg hbuyer]
      simpa [hbuyer] using hSkip hnone
    have hrank : crossSeq index buyer accepts d = some aSeq := by rw [crossSeq, if_pos hbuyer, hseq]
    dsimp only
    rw [hbuyer, Bool.true_and]
    -- among those that cross, the earlier accept wins; on a tie the one scanned first stays
    unfold CandidateScan.improvedBy
    cases hscan : scan.crossing with
    | none =>
      rw [hscan] at h
      refine ⟨List.mem_append_right _ List.mem_cons_self, hrank, fun e he m hm => ?_⟩
      rcases List.mem_append.mp he with he | he
      · rw [h e he] at hm
        cases hm
      · obtain rfl := List.mem_singleton.mp he
        exact .inr ⟨Option.some.inj (hrank.symm.trans hm), le_rfl⟩
    | some best =>
      obtain ⟨c, n⟩ := best
      rw [hscan] at h
      obtain ⟨hc, hcrank, hleast⟩ := h
      by_cases hlt : aSeq < n
      · rw [if_pos (decide_eq_true hlt)]
        refine ⟨List.mem_append_right _ List.mem_cons_self, hrank, fun e he m hm => ?_⟩
        rcases List.mem_append.mp he with he | he
        · rcases hleast e he m hm with h | ⟨h, -⟩
          · exact .inl (hlt.trans h)
          · exact .inl (h ▸ hlt)
        · obtain rfl := List.mem_singleton.mp he
          exact .inr ⟨Option.some.inj (hrank.symm.trans hm), le_rfl⟩
      · rw [if_neg (by simpa using hlt)]
        refine ⟨List.mem_append_left _ hc, hcrank, fun e he m hm => ?_⟩
        rcases List.mem_append.mp he with he | he
        · exact hleast e he m hm
        · obtain rfl := List.mem_singleton.mp he
          obtain rfl := Option.some.inj (hrank.symm.trans hm)
          rcases Nat.lt_or_eq_of_le (Nat.le_of_not_lt hlt) with h | h
          · exact .inl h
          · exact .inr ⟨h, hd c hc⟩

/-- A scan in order of posts finds the crossing candidate of the least rank. -/
theorem scan_best {cs : List LegBCandidate}
    (hOrder : cs.Pairwise fun c d => c.record.seq ≤ d.record.seq) :
    Best (crossSeq index buyer accepts) cs
      (cs.foldl (scanCandidate index buyer accepts) ⟨none, none⟩).crossing := by
  induction cs using List.reverseRecOn with
  | nil => exact fun d hd => (List.not_mem_nil hd).elim
  | append_singleton cs d ih =>
    rw [List.foldl_append]
    obtain ⟨hcs, -, hlast⟩ := List.pairwise_append.mp hOrder
    exact scanCandidate_best (ih hcs) fun c hc => hlast c hc d List.mem_cons_self

end

-- ---------------------------------------------------------------------------
-- The index, read off the posts
-- ---------------------------------------------------------------------------

/-- The leg-A candidate a post makes under an offer id, if any. -/
def legAPost (t : Tclk) (id : String) (posted : Posted TclkFrame) : Option LegACandidate :=
  match posted.frame with
  | .offer offer =>
    match classifySwapOffer t offer with
    | some ⟨swapId, .a context⟩ =>
      if offer.id = id then some ⟨posted.record, offer, swapId, context⟩ else none
    | _ => none
  | _ => none

/-- The offer a post makes under an id, if any. -/
def offerPost (id : String) (posted : Posted TclkFrame) : Option OfferFrame :=
  match posted.frame with
  | .offer offer => if offer.id = id then some offer else none
  | _ => none

/-- The accept a post makes of the offer under `ref`, once that was `seen`. -/
def acceptPost (t : Tclk) (ref : String) (seen : Option OfferFrame) (posted : Posted TclkFrame) :
    Option (Posted AcceptFrame) :=
  match posted.frame with
  | .accept accept =>
    if accept.ref = ref ∧ seen.any (isGenuineAccept t · accept) then some ⟨posted.record, accept⟩
    else none
  | _ => none

/-- The genuine accepts of an offer among the posts. -/
def acceptsAfter (t : Tclk) (ref : String) : Option OfferFrame → List (Posted TclkFrame) →
    List (Posted AcceptFrame)
  | _, [] => []
  | seen, posted :: posts =>
    (acceptPost t ref seen posted).toList ++
      acceptsAfter t ref (seen.or (offerPost ref posted)) posts

/-- The first post of a leg A counts. -/
theorem indexFrame_get?_legA (posted : Posted TclkFrame) (id : String) :
    (indexFrame t index posted).legAByOfferId.get? id =
      (index.legAByOfferId.get? id).or (legAPost t id posted) := by
  unfold indexFrame legAPost
  cases posted.frame with
  | offer offer =>
    dsimp only
    rcases classifySwapOffer t offer with _ | ⟨swapId, context | context⟩
    · simp
    · rw [OrdMap.get?_setIfAbsent]
      by_cases h : id = offer.id
      · simp [h]
      · simp [h, Ne.symm h]
    · simp
  | accept accept =>
    dsimp only
    split
    · simp
    · split <;> simp
  | other type sender => simp

/-- The leg A of an offer id is its first post. -/
theorem get?_legA (records : List TranscriptRecord) (id : String) :
    (indexOffers t records).legAByOfferId.get? id =
      (authenticateOffers t records).findSome? (legAPost t id) := by
  have hFold : ∀ (posts : List (Posted TclkFrame)) (index : OfferIndex),
      (posts.foldl (indexFrame t) index).legAByOfferId.get? id =
        (index.legAByOfferId.get? id).or (posts.findSome? (legAPost t id)) := by
    intro posts
    induction posts with
    | nil => simp
    | cons posted posts ih =>
      intro index
      rw [List.foldl_cons, ih, indexFrame_get?_legA, List.findSome?_cons, Option.or_assoc]
      cases legAPost t id posted <;> simp
  rw [indexOffers, hFold]
  rfl

/-- The first post of an offer counts. -/
theorem indexFrame_get?_offer (posted : Posted TclkFrame) (id : String) :
    (indexFrame t index posted).offersById.get? id =
      (index.offersById.get? id).or (offerPost id posted) := by
  unfold indexFrame offerPost
  cases posted.frame with
  | offer offer =>
    have hSet : (index.offersById.setIfAbsent offer.id offer).get? id =
        (index.offersById.get? id).or (if offer.id = id then some offer else none) := by
      rw [OrdMap.get?_setIfAbsent]
      by_cases h : id = offer.id
      · simp [h]
      · simp [h, Ne.symm h]
    dsimp only
    rcases classifySwapOffer t offer with _ | ⟨swapId, context | context⟩ <;> exact hSet
  | accept accept =>
    dsimp only
    split
    · simp
    · split <;> simp
  | other type sender => simp

/-- Accepts are listed in the order of their posts. -/
theorem indexFrame_getList_accepts (posted : Posted TclkFrame) (ref : String) :
    (indexFrame t index posted).acceptsByRef.getList ref =
      index.acceptsByRef.getList ref ++
        (acceptPost t ref (index.offersById.get? ref) posted).toList := by
  unfold indexFrame acceptPost
  cases posted.frame with
  | offer offer =>
    dsimp only
    rcases classifySwapOffer t offer with _ | ⟨swapId, context | context⟩ <;> simp
  | accept accept =>
    dsimp only
    by_cases href : accept.ref = ref
    · subst href
      cases hseen : index.offersById.get? accept.ref with
      | none => simp
      | some offer =>
        by_cases hgenuine : isGenuineAccept t offer accept = true
        · simp [hgenuine, OrdMap.getList_push]
        · simp [hgenuine]
    · split
      · simp [href]
      · split
        · simp [href]
        · simp [href, OrdMap.getList_push, Ne.symm href]
  | other type sender => simp

/-- The accepts of an offer id, in the order of their posts. -/
theorem getList_acceptsByRef (records : List TranscriptRecord) (ref : String) :
    (indexOffers t records).acceptsByRef.getList ref =
      acceptsAfter t ref none (authenticateOffers t records) := by
  have hFold : ∀ (posts : List (Posted TclkFrame)) (index : OfferIndex),
      (posts.foldl (indexFrame t) index).acceptsByRef.getList ref =
        index.acceptsByRef.getList ref ++ acceptsAfter t ref (index.offersById.get? ref) posts := by
    intro posts
    induction posts with
    | nil => simp [acceptsAfter]
    | cons posted posts ih =>
      intro index
      rw [List.foldl_cons, ih, indexFrame_get?_offer, indexFrame_getList_accepts, acceptsAfter,
        List.append_assoc]
  exact hFold _ _

/-- What a post accepts. -/
theorem acceptPost_eq_some {ref : String} {seen : Option OfferFrame} {posted : Posted TclkFrame}
    {accept : Posted AcceptFrame} (h : acceptPost t ref seen posted = some accept) :
    posted = ⟨accept.record, .accept accept.frame⟩ ∧
      ∃ offer, seen = some offer ∧ isGenuineAccept t offer accept.frame = true := by
  unfold acceptPost at h
  split at h
  case h_2 => cases h
  rename_i frame hframe
  split at h
  case isFalse => cases h
  rename_i hgenuine
  obtain rfl := Option.some.inj h
  obtain ⟨offer, hseen, hgenuine⟩ := (Option.any_eq_true _ _).mp hgenuine.2
  exact ⟨by rw [← hframe], offer, hseen, hgenuine⟩

/-- An accept that counts was posted, for an offer that was posted or seen. -/
theorem mem_acceptsAfter {ref : String} {seen : Option OfferFrame} {posts : List (Posted TclkFrame)}
    {accept : Posted AcceptFrame} (h : accept ∈ acceptsAfter t ref seen posts) :
    ⟨accept.record, .accept accept.frame⟩ ∈ posts ∧
      ∃ offer, (seen = some offer ∨ ∃ posted ∈ posts, offerPost ref posted = some offer) ∧
        isGenuineAccept t offer accept.frame = true := by
  induction posts generalizing seen with
  | nil => cases h
  | cons posted posts ih =>
    rcases List.mem_append.mp h with h | h
    · obtain ⟨rfl, offer, hseen, hgenuine⟩ := acceptPost_eq_some (Option.mem_toList.mp h)
      exact ⟨List.mem_cons_self, offer, .inl hseen, hgenuine⟩
    · obtain ⟨hposted, offer, hoffer, hgenuine⟩ := ih h
      refine ⟨List.mem_cons_of_mem _ hposted, offer, ?_, hgenuine⟩
      rcases hoffer with hoffer | ⟨q, hq, hoffer⟩
      · rcases Option.or_eq_some_iff.mp hoffer with hseen | ⟨-, hnow⟩
        · exact .inl hseen
        · exact .inr ⟨posted, List.mem_cons_self, hnow⟩
      · exact .inr ⟨q, List.mem_cons_of_mem _ hq, hoffer⟩

/-- Posts that neither make the offer nor accept it as `did` change no accept by `did`. -/
theorem acceptsAfter_of_inserted {P : Posted TclkFrame → Prop} {ref did : String}
    {posts posts' : List (Posted TclkFrame)} (hOffer : ∀ p, P p → offerPost ref p = none)
    (hAccept : ∀ p, P p → p.frame.sender ≠ did) (h : Inserted P posts posts')
    (seen : Option OfferFrame) :
    (acceptsAfter t ref seen posts').filter (fun accept => accept.frame.sender = did) =
      (acceptsAfter t ref seen posts).filter fun accept => accept.frame.sender = did := by
  induction h generalizing seen with
  | nil => rfl
  | keep p _ ih => rw [acceptsAfter, acceptsAfter, List.filter_append, List.filter_append, ih]
  | @insert p _ _ hP _ ih =>
    rw [acceptsAfter, List.filter_append, hOffer p hP, Option.or_none, ih]
    have hNone : (acceptPost t ref seen p).toList.filter
        (fun accept => accept.frame.sender = did) = [] := by
      rw [List.filter_eq_nil_iff]
      intro accept hmem
      obtain ⟨rfl, -⟩ := acceptPost_eq_some (Option.mem_toList.mp hmem)
      rw [decide_eq_true_eq]
      exact hAccept _ hP
    rw [hNone, List.nil_append]

/-- A frame adds the answer that it is, once its offer is known. -/
theorem indexFrame_mem_legB {posted : Posted TclkFrame} {record : TranscriptRecord}
    {offer : OfferFrame} {swapId : String} {context : LegBContext} :
    (∃ handle, ⟨record, offer, swapId, context, handle⟩ ∈
      (indexFrame t index posted).legBCandidates) ↔
    (∃ handle, ⟨record, offer, swapId, context, handle⟩ ∈ index.legBCandidates) ∨
      (posted = ⟨record, .offer offer⟩ ∧
        classifySwapOffer t offer = some ⟨swapId, .b context⟩) := by
  obtain ⟨record', frame⟩ := posted
  unfold indexFrame
  cases frame with
  | offer offer' =>
    dsimp only
    rcases hclass : classifySwapOffer t offer' with _ | ⟨swapId', context' | context'⟩
    -- only a known offer that classifies as an answer adds a candidate
    case some.b =>
      constructor
      · rintro ⟨handle, hmem⟩
        rcases List.mem_append.mp hmem with hmem | hmem
        · exact .inl ⟨handle, hmem⟩
        · cases List.mem_singleton.mp hmem
          exact .inr ⟨rfl, hclass⟩
      · rintro (⟨handle, hmem⟩ | ⟨heq, hclass'⟩)
        · exact ⟨handle, List.mem_append_left _ hmem⟩
        · cases heq
          cases hclass.symm.trans hclass'
          exact ⟨_, List.mem_append_right _ List.mem_cons_self⟩
    all_goals
      refine ⟨.inl, ?_⟩
      rintro (h | ⟨heq, hclass'⟩)
      · exact h
      · cases heq
        cases hclass.symm.trans hclass'
  | accept accept =>
    dsimp only
    split
    · simp
    · split <;> simp
  | other type sender => simp

/-- A candidate is a posted offer that is a leg B. -/
theorem mem_legBCandidates {records : List TranscriptRecord} {record : TranscriptRecord}
    {offer : OfferFrame} {swapId : String} {context : LegBContext} :
    (∃ handle, ⟨record, offer, swapId, context, handle⟩ ∈ (indexOffers t records).legBCandidates) ↔
      ⟨record, .offer offer⟩ ∈ authenticateOffers t records ∧
        classifySwapOffer t offer = some ⟨swapId, .b context⟩ := by
  have hFold : ∀ (posts : List (Posted TclkFrame)) (index : OfferIndex),
      (∃ handle, ⟨record, offer, swapId, context, handle⟩ ∈
        (posts.foldl (indexFrame t) index).legBCandidates) ↔
      (∃ handle, ⟨record, offer, swapId, context, handle⟩ ∈ index.legBCandidates) ∨
        (⟨record, .offer offer⟩ ∈ posts ∧
          classifySwapOffer t offer = some ⟨swapId, .b context⟩) := by
    intro posts
    induction posts with
    | nil => simp
    | cons posted posts ih =>
      intro index
      rw [List.foldl_cons, ih, indexFrame_mem_legB, List.mem_cons, or_assoc, ← or_and_right,
        @eq_comm _ posted]
  rw [indexOffers, hFold]
  simp [OfferIndex.empty, authenticateOffers]

-- ---------------------------------------------------------------------------
-- The pair of a leg A that has a crossing leg B
-- ---------------------------------------------------------------------------

/-- The board's pair of a leg-A offer id. -/
def boardPairOf (t : Tclk) (records : List TranscriptRecord) (legAOfferId : String) :
    Option BoardPair :=
  ((indexOffers t records).legAByOfferId.get? legAOfferId).map
    (boardPair (indexOffers t records) legAOfferId)

/-- What a pair is made of: the post of its leg B, and the two accepts. -/
structure Picks where
  legB : Option (TranscriptRecord × OfferFrame)
  acceptA : Option (Posted AcceptFrame)
  acceptB : Option (Posted AcceptFrame)
deriving DecidableEq, Repr

def BoardPair.picks (pair : BoardPair) : Picks :=
  ⟨pair.legB.map fun pairing => (pairing.legB.record, pairing.legB.offer), pair.acceptA.accept,
    pair.acceptB.accept⟩

/-- A leg B that crosses: signed by an accepter of leg A, and accepted by the signer of
leg A. -/
def Crosses (index : OfferIndex) (legA : LegACandidate) (c : LegBCandidate) : Prop :=
  c ∈ index.legBCandidates ∧ c.context.legAOfferId = legA.offer.id ∧
    acceptedBy (index.acceptsByRef.getList legA.offer.id) c.offer.sender = true ∧
    acceptedBy (index.acceptsByRef.getList c.offer.id) legA.offer.sender = true

/-- The rank of a candidate of this leg A. -/
def legARank (index : OfferIndex) (legA : LegACandidate) : LegBCandidate → Option Nat :=
  crossSeq index legA.offer.sender (index.acceptsByRef.getList legA.offer.id)

/-- An accept of the sender is among the accepts. -/
theorem acceptedBy_iff {accepts : List (Posted AcceptFrame)} {did : String} :
    acceptedBy accepts did = true ↔ ∃ accept ∈ accepts, accept.frame.sender = did := by
  simp [acceptedBy]

/-- A sender that accepted has a place in the accepts. -/
theorem acceptSeqOf_isSome {accepts : List (Posted AcceptFrame)} {did : String} :
    (acceptSeqOf accepts did).isSome = true ↔ acceptedBy accepts did = true := by
  rw [acceptSeqOf, List.isSome_min?_iff, acceptedBy_iff, ne_eq, List.map_eq_nil_iff,
    List.filter_eq_nil_iff]
  simp

/-- What is read off the accepts of one DID depends on those only. -/
theorem acceptedBy_congr {accepts accepts' : List (Posted AcceptFrame)} {did : String}
    (h : accepts'.filter (fun accept => accept.frame.sender = did) =
      accepts.filter fun accept => accept.frame.sender = did) :
    acceptedBy accepts' did = acceptedBy accepts did := by
  have hFilter : ∀ l : List (Posted AcceptFrame), acceptedBy l did =
      !(l.filter fun accept => accept.frame.sender = did).isEmpty := by
    intro l
    rw [Bool.eq_iff_iff, acceptedBy_iff]
    simp
  rw [hFilter, hFilter, h]

/-- The place of a sender depends on its own accepts only. -/
theorem acceptSeqOf_congr {accepts accepts' : List (Posted AcceptFrame)} {did : String}
    (h : accepts'.filter (fun accept => accept.frame.sender = did) =
      accepts.filter fun accept => accept.frame.sender = did) :
    acceptSeqOf accepts' did = acceptSeqOf accepts did := by
  rw [acceptSeqOf, acceptSeqOf, h]

/-- The accept of a counterparty that accepted is its first. -/
theorem chooseAccept_of_accepted {accepts : List (Posted AcceptFrame)} {did : String}
    (h : acceptedBy accepts did = true) : (chooseAccept accepts (some did)).accept =
      (accepts.filter fun accept => accept.frame.sender = did).head? := by
  rw [List.head?_filter]
  cases hfind : accepts.find? (fun accept => accept.frame.sender = did) with
  | none =>
    obtain ⟨accept, hmem, hsender⟩ := acceptedBy_iff.mp h
    simpa [hsender] using List.find?_eq_none.mp hfind accept hmem
  | some own =>
    cases accepts with
    | nil => cases hfind
    | cons first rest =>
      unfold chooseAccept
      simp only [Option.bind_some, hfind]

/-- An answer has a rank when both parties accepted. -/
theorem legARank_isSome {legA : LegACandidate} {c : LegBCandidate} :
    (∃ n, legARank index legA c = some n) ↔
      acceptedBy (index.acceptsByRef.getList legA.offer.id) c.offer.sender = true ∧
      acceptedBy (index.acceptsByRef.getList c.offer.id) legA.offer.sender = true := by
  rw [← Option.isSome_iff_exists, legARank, crossSeq]
  split
  · rw [acceptSeqOf_isSome]
    tauto
  · simp [*]

/-- The winner among the candidates of a leg A that has a crossing one. -/
theorem winner_of_crossing {legA : LegACandidate} {c₀ : LegBCandidate}
    (hLegA : index.legAByOfferId.get? legA.offer.id = some legA) (hCross : Crosses index legA c₀) :
    ∃ c n, (legBByLegAOfferId index).get? legA.offer.id = some ⟨c, false, false⟩ ∧
      c ∈ index.legBCandidates ∧ c.context.legAOfferId = legA.offer.id ∧
      legARank index legA c = some n ∧
      ∀ d ∈ index.legBCandidates, d.context.legAOfferId = legA.offer.id →
        ∀ m, legARank index legA d = some m →
          n < m ∨ (n = m ∧ c.record.seq ≤ d.record.seq) := by
  obtain ⟨hc₀, hNames, hAccepter, hBuyer⟩ := hCross
  have hMem : ∀ {d}, d ∈ (candidatesByLegA index).getList legA.offer.id ↔
      d ∈ index.legBCandidates ∧ d.context.legAOfferId = legA.offer.id := by
    intro d
    rw [getList_candidatesByLegA, List.mem_filter, mem_orderedLegB, decide_eq_true_eq]
  have hOrder : ((candidatesByLegA index).getList legA.offer.id).Pairwise
      fun c d => c.record.seq ≤ d.record.seq := by
    rw [getList_candidatesByLegA]
    exact pairwise_orderedLegB.filter _
  have hBest : Best (legARank index legA) _ _ := scan_best hOrder
  obtain ⟨m₀, hm₀⟩ := legARank_isSome.mpr ⟨hAccepter, hBuyer⟩
  cases hscan : (((candidatesByLegA index).getList legA.offer.id).foldl
      (scanCandidate index legA.offer.sender (index.acceptsByRef.getList legA.offer.id))
      ⟨none, none⟩).crossing with
  | none =>
    rw [hscan] at hBest
    exact absurd (hm₀.symm.trans (hBest c₀ (hMem.mpr ⟨hc₀, hNames⟩))) (by simp)
  | some best =>
    obtain ⟨c, n⟩ := best
    rw [hscan] at hBest
    obtain ⟨hc, hrank, hleast⟩ := hBest
    refine ⟨c, n, ?_, (hMem.mp hc).1, (hMem.mp hc).2, hrank,
      fun d hd hdNames m hm => hleast d (hMem.mpr ⟨hd, hdNames⟩) m hm⟩
    -- the accepts of leg A are not empty and the candidates are those scanned
    have hAccepts : (index.acceptsByRef.getList legA.offer.id).isEmpty = false := by
      obtain ⟨accept, hmem, -⟩ := acceptedBy_iff.mp hAccepter
      cases hl : index.acceptsByRef.getList legA.offer.id with
      | nil => rw [hl] at hmem; cases hmem
      | cons => rfl
    have hGet : (candidatesByLegA index).get? legA.offer.id =
        some ((candidatesByLegA index).getList legA.offer.id) := by
      cases hget : (candidatesByLegA index).get? legA.offer.id with
      | none =>
        rw [OrdMap.getList, hget] at hc
        cases hc
      | some cs => rw [OrdMap.getList, hget, Option.getD_some]
    rw [legBByLegAOfferId, OrdMap.get?_filterMap, hGet, Option.bind_some, hLegA, Option.bind_some,
      pairLegB]
    simp only [hAccepts, Bool.false_eq_true, if_false, hscan]

-- ---------------------------------------------------------------------------
-- Outsiders
-- ---------------------------------------------------------------------------

/-- Frames commit to their content: no two offers have one id. -/
def Tclk.OfferIdsCommit (t : Tclk) : Prop :=
  ∀ line line' offer offer', t.tryDecodeFrame line = some (.offer offer) →
    t.tryDecodeFrame line' = some (.offer offer') → offer.id = offer'.id → offer = offer'

/-- The offer is posted by an authenticated record. -/
def PostedOffer (t : Tclk) (records : List TranscriptRecord) (offer : OfferFrame) : Prop :=
  ∃ record, ⟨record, .offer offer⟩ ∈ authenticateOffers t records

/-- The offer carries a genuine accept by `buyer`. -/
def Endorsed (t : Tclk) (records : List TranscriptRecord) (buyer : String) (offer : OfferFrame) :
    Prop :=
  ∃ record accept, ⟨record, .accept accept⟩ ∈ authenticateOffers t records ∧
    accept.sender = buyer ∧ isGenuineAccept t offer accept = true

/-- The offer answers this leg A. -/
def Answers (t : Tclk) (legA : LegACandidate) (offer : OfferFrame) : Prop :=
  ∃ swapId, classifySwapOffer t offer = some ⟨swapId, .b ⟨legA.offer.id⟩⟩

/-- The record is signed neither by the Buyer nor by the signer of a posted leg B of this
leg A that carries the Buyer's genuine accept. -/
structure Outsider (t : Tclk) (records records' : List TranscriptRecord) (legA : LegACandidate)
    (record : TranscriptRecord) : Prop where
  notBuyer : record.sender ≠ legA.offer.sender
  notEndorsed : ∀ offer, PostedOffer t records' offer → Answers t legA offer →
    Endorsed t records legA.offer.sender offer → record.sender ≠ offer.sender

section
variable {records records' : List TranscriptRecord} {legA : LegACandidate}

/-- An authentic post is the frame of its record, by its sender. -/
theorem authenticate_eq_some {record : TranscriptRecord} {posted : Posted TclkFrame}
    (h : authenticate t record = some posted) : posted.record = record ∧
      posted.frame.sender = record.sender ∧ t.tryDecodeFrame record.line = some posted.frame := by
  unfold authenticate at h
  split at h
  · cases h
  split at h
  · cases h
  split at h
  · cases h
  split at h
  · cases h
  obtain rfl := Option.some.inj h
  exact ⟨rfl, not_not.mp ‹_›, ‹_›⟩

/-- The posts come of the records. -/
theorem mem_authenticateOffers {posted : Posted TclkFrame}
    (h : posted ∈ authenticateOffers t records) : posted.record ∈ records ∧
      posted.frame.sender = posted.record.sender ∧
      t.tryDecodeFrame posted.record.line = some posted.frame := by
  obtain ⟨record, hmem, hauth⟩ := List.mem_filterMap.mp h
  obtain ⟨rfl, hsender, hline⟩ := authenticate_eq_some hauth
  exact ⟨hmem, hsender, hline⟩

/-- An offer is posted under its id. -/
theorem offerPost_eq_some {id : String} {posted : Posted TclkFrame} {offer : OfferFrame} :
    offerPost id posted = some offer ↔ posted.frame = .offer offer ∧ offer.id = id := by
  unfold offerPost
  split
  · rename_i offer' hframe
    rw [hframe]
    constructor
    · intro h
      split at h
      · obtain rfl := Option.some.inj h
        exact ⟨rfl, ‹_›⟩
      · cases h
    · rintro ⟨h, hid⟩
      cases h
      rw [if_pos hid]
  · rename_i hframe
    constructor
    · intro h
      cases h
    · rintro ⟨h, -⟩
      exact absurd h (hframe offer)

/-- A leg A is posted under its id. -/
theorem legAPost_eq_some {id : String} {posted : Posted TclkFrame} {legA : LegACandidate}
    (h : legAPost t id posted = some legA) :
    posted = ⟨legA.record, .offer legA.offer⟩ ∧ legA.offer.id = id := by
  obtain ⟨record, frame⟩ := posted
  unfold legAPost at h
  split at h
  case h_2 => cases h
  rename_i offer hframe
  split at h
  case h_2 => cases h
  split at h
  case isFalse => cases h
  obtain rfl := Option.some.inj h
  exact ⟨congrArg _ hframe, ‹_›⟩

/-- An outsider's post: an authenticated record that outsiders signed. -/
def OutsiderPost (t : Tclk) (records records' : List TranscriptRecord) (legA : LegACandidate)
    (posted : Posted TclkFrame) : Prop :=
  Outsider t records records' legA posted.record ∧
    authenticate t posted.record = some posted

/-- Records inserted insert posts. -/
theorem posts_inserted (h : Inserted (Outsider t records records' legA) records records') :
    Inserted (OutsiderPost t records records' legA) (authenticateOffers t records)
      (authenticateOffers t records') := by
  refine h.filterMap _ fun record posted hOut hauth => ?_
  obtain ⟨hrecord, -⟩ := authenticate_eq_some hauth
  exact ⟨hrecord.symm ▸ hOut, hrecord.symm ▸ hauth⟩

/-- A post by a DID that is no outsider was there before. -/
theorem mem_of_not_outsider (h : Inserted (Outsider t records records' legA) records records')
    {posted : Posted TclkFrame} (hposted : posted ∈ authenticateOffers t records')
    (hNot : ∀ p, OutsiderPost t records records' legA p → p.frame.sender ≠ posted.frame.sender) :
    posted ∈ authenticateOffers t records :=
  ((posts_inserted h).mem_or hposted).resolve_right fun hOut => hNot posted hOut rfl

/-- An outsider's post is not the buyer's. -/
theorem buyer_not_outsider {posted : Posted TclkFrame}
    (h : OutsiderPost t records records' legA posted) :
    posted.frame.sender ≠ legA.offer.sender := by
  obtain ⟨-, hsender, -⟩ := authenticate_eq_some h.2
  rw [hsender]
  exact h.1.notBuyer

/-- An outsider's post is no endorsed answer. -/
theorem endorsed_not_outsider {offer : OfferFrame} (hPosted : PostedOffer t records' offer)
    (hAnswers : Answers t legA offer) (hEndorsed : Endorsed t records legA.offer.sender offer)
    {posted : Posted TclkFrame} (h : OutsiderPost t records records' legA posted) :
    posted.frame.sender ≠ offer.sender := by
  obtain ⟨-, hsender, -⟩ := authenticate_eq_some h.2
  rw [hsender]
  exact h.1.notEndorsed offer hPosted hAnswers hEndorsed

/-- Outsiders cannot post an offer that another DID signed. -/
theorem offerPost_of_outsider (hIds : t.OfferIdsCommit) {offer : OfferFrame}
    (hPosted : PostedOffer t records' offer)
    (hNot : ∀ p, OutsiderPost t records records' legA p → p.frame.sender ≠ offer.sender)
    {posted : Posted TclkFrame} (h : OutsiderPost t records records' legA posted) :
    offerPost offer.id posted = none := by
  cases hpost : offerPost offer.id posted with
  | none => rfl
  | some offer' =>
    obtain ⟨hframe, hid⟩ := offerPost_eq_some.mp hpost
    obtain ⟨record, hmem⟩ := hPosted
    obtain ⟨-, -, hline⟩ := mem_authenticateOffers hmem
    obtain ⟨-, -, hline'⟩ := authenticate_eq_some h.2
    rw [hframe] at hline'
    obtain rfl := hIds _ _ _ _ hline' hline hid
    exact absurd (by rw [hframe]; rfl) (hNot posted h)

/-- The accepts of such an offer by a DID that is no outsider stay as they are. -/
theorem accepts_of_inserted (hIds : t.OfferIdsCommit)
    (h : Inserted (Outsider t records records' legA) records records') {offer : OfferFrame}
    (hPosted : PostedOffer t records' offer)
    (hNot : ∀ p, OutsiderPost t records records' legA p → p.frame.sender ≠ offer.sender)
    {did : String} (hDid : ∀ p, OutsiderPost t records records' legA p → p.frame.sender ≠ did) :
    ((indexOffers t records').acceptsByRef.getList offer.id).filter
        (fun accept => accept.frame.sender = did) =
      ((indexOffers t records).acceptsByRef.getList offer.id).filter
        fun accept => accept.frame.sender = did := by
  rw [getList_acceptsByRef, getList_acceptsByRef]
  exact acceptsAfter_of_inserted (fun p hp => offerPost_of_outsider hIds hPosted hNot hp) hDid
    (posts_inserted h) none

-- ---------------------------------------------------------------------------
-- Nothing an outsider posts matters
-- ---------------------------------------------------------------------------

/-- A leg A that is indexed was posted. -/
theorem postedOffer_of_get?_legA {id : String}
    (hLegA : (indexOffers t records).legAByOfferId.get? id = some legA) :
    PostedOffer t records legA.offer ∧ legA.offer.id = id := by
  rw [get?_legA] at hLegA
  obtain ⟨posted, hmem, hpost⟩ := List.exists_of_findSome?_eq_some hLegA
  obtain ⟨rfl, hid⟩ := legAPost_eq_some hpost
  exact ⟨⟨legA.record, hmem⟩, hid⟩

/-- What was posted stays posted among more records. -/
theorem PostedOffer.of_inserted (h : Inserted (Outsider t records records' legA) records records')
    {offer : OfferFrame} (hPosted : PostedOffer t records offer) : PostedOffer t records' offer :=
  hPosted.imp fun _ hmem => (posts_inserted h).mem hmem

/-- Leg A is still its first post. -/
theorem legA_of_inserted (hIds : t.OfferIdsCommit)
    (h : Inserted (Outsider t records records' legA) records records')
    (hLegA : (indexOffers t records).legAByOfferId.get? legA.offer.id = some legA) :
    (indexOffers t records').legAByOfferId.get? legA.offer.id = some legA := by
  have hPosted := (postedOffer_of_get?_legA hLegA).1.of_inserted h
  rw [get?_legA] at hLegA ⊢
  rw [(posts_inserted h).findSome?_eq fun posted hOut => ?_]
  · exact hLegA
  cases hpost : legAPost t legA.offer.id posted with
  | none => rfl
  | some other =>
    obtain ⟨rfl, hid⟩ := legAPost_eq_some hpost
    have hNone := offerPost_of_outsider hIds hPosted (fun _ => buyer_not_outsider) hOut
    rw [offerPost_eq_some.mpr ⟨rfl, hid⟩] at hNone
    cases hNone

/-- An accept that counts for a posted offer is a genuine accept of it. -/
theorem endorsed_of_acceptedBy (hIds : t.OfferIdsCommit) {offer : OfferFrame} {buyer : String}
    (hPosted : PostedOffer t records offer)
    (hAccepted : acceptedBy ((indexOffers t records).acceptsByRef.getList offer.id) buyer = true) :
    Endorsed t records buyer offer := by
  rw [getList_acceptsByRef] at hAccepted
  obtain ⟨accept, hmem, hsender⟩ := acceptedBy_iff.mp hAccepted
  obtain ⟨haccept, offer', hoffer, hgenuine⟩ := mem_acceptsAfter hmem
  rcases hoffer with hoffer | ⟨posted, hposted, hoffer⟩
  · cases hoffer
  obtain ⟨hframe, hid⟩ := offerPost_eq_some.mp hoffer
  obtain ⟨-, -, hline⟩ := mem_authenticateOffers hposted
  obtain ⟨record, hrecord⟩ := hPosted
  obtain ⟨-, -, hline'⟩ := mem_authenticateOffers hrecord
  rw [hframe] at hline
  obtain rfl := hIds _ _ _ _ hline hline' hid
  exact ⟨accept.record, accept.frame, haccept, hsender, hgenuine⟩

/-- The Buyer's accepts are not an outsider's. -/
theorem Endorsed.of_inserted (h : Inserted (Outsider t records records' legA) records records')
    {offer : OfferFrame} (hEndorsed : Endorsed t records' legA.offer.sender offer) :
    Endorsed t records legA.offer.sender offer := by
  obtain ⟨record, accept, hmem, hsender, hgenuine⟩ := hEndorsed
  refine ⟨record, accept, mem_of_not_outsider h hmem fun p hp => ?_, hsender, hgenuine⟩
  show p.frame.sender ≠ accept.sender
  rw [hsender]
  exact buyer_not_outsider hp

/-- The rank of a leg B the Buyer accepted is the same in both rooms. -/
theorem legARank_of_inserted (hIds : t.OfferIdsCommit)
    (h : Inserted (Outsider t records records' legA) records records')
    (hLegA : PostedOffer t records' legA.offer) {c : LegBCandidate}
    (hPosted : PostedOffer t records' c.offer) (hAnswers : Answers t legA c.offer)
    (hEndorsed : Endorsed t records legA.offer.sender c.offer) :
    legARank (indexOffers t records') legA c = legARank (indexOffers t records) legA c := by
  have hSigner : ∀ p, OutsiderPost t records records' legA p → p.frame.sender ≠ c.offer.sender :=
    fun _ => endorsed_not_outsider hPosted hAnswers hEndorsed
  have hBuyer : ∀ p, OutsiderPost t records records' legA p →
      p.frame.sender ≠ legA.offer.sender := fun _ => buyer_not_outsider
  unfold legARank crossSeq
  rw [acceptedBy_congr (accepts_of_inserted hIds h hPosted hSigner hBuyer),
    acceptSeqOf_congr (accepts_of_inserted hIds h hLegA hBuyer hSigner)]

/-- A candidate is a post that classifies as an answer. -/
theorem mem_legBCandidates_self {c : LegBCandidate}
    (hc : c ∈ (indexOffers t records).legBCandidates) :
    ⟨c.record, .offer c.offer⟩ ∈ authenticateOffers t records ∧
      classifySwapOffer t c.offer = some ⟨c.swapId, .b c.context⟩ :=
  mem_legBCandidates.mp ⟨c.handle, hc⟩

/-- A candidate that names the leg A answers it. -/
theorem answers_of_mem {c : LegBCandidate} (hc : c ∈ (indexOffers t records).legBCandidates)
    (hNames : c.context.legAOfferId = legA.offer.id) : Answers t legA c.offer := by
  refine ⟨c.swapId, ?_⟩
  rw [(mem_legBCandidates_self hc).2, ← hNames]

/-- A crossing candidate keeps its post and its rank. -/
theorem crossing_of_inserted (hIds : t.OfferIdsCommit)
    (h : Inserted (Outsider t records records' legA) records records')
    (hLegA : PostedOffer t records' legA.offer) {c : LegBCandidate} {n : Nat}
    (hc : c ∈ (indexOffers t records).legBCandidates)
    (hNames : c.context.legAOfferId = legA.offer.id)
    (hn : legARank (indexOffers t records) legA c = some n) :
    ∃ handle, { c with handle := handle } ∈ (indexOffers t records').legBCandidates ∧
      legARank (indexOffers t records') legA { c with handle := handle } = some n := by
  obtain ⟨hmem, hclass⟩ := mem_legBCandidates_self hc
  have hPosted : PostedOffer t records c.offer := ⟨c.record, hmem⟩
  have hEndorsed := endorsed_of_acceptedBy hIds hPosted (legARank_isSome.mp ⟨n, hn⟩).2
  obtain ⟨handle, hmem'⟩ := mem_legBCandidates.mpr ⟨(posts_inserted h).mem hmem, hclass⟩
  refine ⟨handle, hmem', ?_⟩
  exact (legARank_of_inserted hIds h hLegA (hPosted.of_inserted h) (answers_of_mem hc hNames)
    hEndorsed).trans hn

/-- A candidate that crosses afterwards did before. -/
theorem crossing_before_inserted (hIds : t.OfferIdsCommit)
    (h : Inserted (Outsider t records records' legA) records records')
    (hLegA : PostedOffer t records' legA.offer) {c : LegBCandidate} {n : Nat}
    (hc : c ∈ (indexOffers t records').legBCandidates)
    (hNames : c.context.legAOfferId = legA.offer.id)
    (hn : legARank (indexOffers t records') legA c = some n) :
    ∃ handle, { c with handle := handle } ∈ (indexOffers t records).legBCandidates ∧
      legARank (indexOffers t records) legA { c with handle := handle } = some n := by
  obtain ⟨hmem, hclass⟩ := mem_legBCandidates_self hc
  have hPosted : PostedOffer t records' c.offer := ⟨c.record, hmem⟩
  have hEndorsed := (endorsed_of_acceptedBy hIds hPosted
    (legARank_isSome.mp ⟨n, hn⟩).2).of_inserted h
  have hAnswers := answers_of_mem hc hNames
  have hOld : ⟨c.record, .offer c.offer⟩ ∈ authenticateOffers t records :=
    mem_of_not_outsider h hmem fun _ => endorsed_not_outsider hPosted hAnswers hEndorsed
  obtain ⟨handle, hmem'⟩ := mem_legBCandidates.mpr ⟨hOld, hclass⟩
  refine ⟨handle, hmem', ?_⟩
  exact (legARank_of_inserted hIds h hLegA hPosted hAnswers hEndorsed).symm.trans hn

/-- The picks of a leg A whose leg B crosses. -/
theorem picks_of_winner {id : String} {c : LegBCandidate} {n : Nat}
    (hId : legA.offer.id = id)
    (hWinner : (legBByLegAOfferId index).get? id = some ⟨c, false, false⟩)
    (hn : legARank index legA c = some n) :
    (boardPair index id legA).picks =
      ⟨some (c.record, c.offer),
        ((index.acceptsByRef.getList id).filter
          fun accept => accept.frame.sender = c.offer.sender).head?,
        ((index.acceptsByRef.getList c.offer.id).filter
          fun accept => accept.frame.sender = legA.offer.sender).head?⟩ := by
  subst hId
  obtain ⟨hAccepter, hBuyer⟩ := legARank_isSome.mp ⟨n, hn⟩
  unfold boardPair BoardPair.picks
  simp only [hWinner, Option.map_some, chooseAccept_of_accepted hAccepter,
    chooseAccept_of_accepted hBuyer]

/-- **Outsiders do not steer the pairing.** A leg A that has a crossing leg B is paired
with the same post of leg B by the same two accepts, whatever outsiders post. -/
theorem picks_of_inserted (hIds : t.OfferIdsCommit) (hSeq : (records'.map (·.seq)).Nodup)
    (hLegA : (indexOffers t records).legAByOfferId.get? legA.offer.id = some legA)
    (hCross : ∃ c, Crosses (indexOffers t records) legA c)
    (hInserted : Inserted (Outsider t records records' legA) records records') :
    ∃ picks, (boardPairOf t records legA.offer.id).map (·.picks) = some picks ∧
      (boardPairOf t records' legA.offer.id).map (·.picks) = some picks := by
  have hPostedA := (postedOffer_of_get?_legA hLegA).1.of_inserted hInserted
  have hLegA' := legA_of_inserted hIds hInserted hLegA
  obtain ⟨c₀, hCross⟩ := hCross
  obtain ⟨c, n, hWinner, hc, hNames, hn, hleast⟩ := winner_of_crossing hLegA hCross
  -- the winner crosses afterwards too, so there is a winner then
  obtain ⟨handle, hcNew, hnNew⟩ := crossing_of_inserted hIds hInserted hPostedA hc hNames hn
  obtain ⟨c', n', hWinner', hc', hNames', hn', hleast'⟩ := winner_of_crossing hLegA'
    ⟨hcNew, hNames, legARank_isSome.mp ⟨n, hnNew⟩⟩
  obtain ⟨handle', hcOld, hnOld⟩ :=
    crossing_before_inserted hIds hInserted hPostedA hc' hNames' hn'
  -- each is of least rank among the others, so both are one post
  have hSame : c.record.seq = c'.record.seq := by
    have h := hleast _ hcOld hNames' n' hnOld
    have h' := hleast' _ hcNew hNames n hnNew
    dsimp only at h h'
    omega
  obtain ⟨hmem, -⟩ := mem_legBCandidates_self hcNew
  obtain ⟨hmem', -⟩ := mem_legBCandidates_self hc'
  have hRecord : c.record = c'.record :=
    List.inj_on_of_nodup_map hSeq (mem_authenticateOffers hmem).1 (mem_authenticateOffers hmem').1
      hSame
  have hOffer : c.offer = c'.offer := by
    have hline := (mem_authenticateOffers hmem).2.2
    have hline' := (mem_authenticateOffers hmem').2.2
    dsimp only at hline hline'
    rw [hRecord] at hline
    exact TclkFrame.offer.inj (Option.some.inj (hline.symm.trans hline'))
  have hPosted : PostedOffer t records' c.offer := ⟨c.record, hmem⟩
  have hEndorsed : Endorsed t records legA.offer.sender c.offer :=
    endorsed_of_acceptedBy hIds ⟨c.record, (mem_legBCandidates_self hc).1⟩
      (legARank_isSome.mp ⟨n, hn⟩).2
  have hSigner : ∀ p, OutsiderPost t records records' legA p → p.frame.sender ≠ c.offer.sender :=
    fun _ => endorsed_not_outsider hPosted (answers_of_mem hc hNames) hEndorsed
  have hBuyer : ∀ p, OutsiderPost t records records' legA p →
      p.frame.sender ≠ legA.offer.sender := fun _ => buyer_not_outsider
  refine ⟨_, by rw [boardPairOf, hLegA, Option.map_some, Option.map_some,
    picks_of_winner rfl hWinner hn], ?_⟩
  rw [boardPairOf, hLegA', Option.map_some, Option.map_some, picks_of_winner rfl hWinner' hn',
    ← hOffer, ← hRecord, accepts_of_inserted hIds hInserted hPostedA hBuyer hSigner,
    accepts_of_inserted hIds hInserted hPosted hSigner hBuyer]

end

-- ---------------------------------------------------------------------------
-- Sample posts
-- ---------------------------------------------------------------------------

/-- A contract id is of one offer and one accept. -/
def Tclk.ContractIdsInjective (t : Tclk) : Prop :=
  ∀ offer core offer' core' id, t.contractId offer core = some id →
    t.contractId offer' core' = some id → offer = offer' ∧ core = core'

namespace Room

def offer? : TclkFrame → Option OfferFrame
  | .offer offer => some offer
  | _ => none

def accept? : TclkFrame → Option AcceptFrame
  | .accept accept => some accept
  | _ => none

/-- The sample's offer ids commit. -/
theorem offerIdsCommit : tclk.OfferIdsCommit := by
  intro line line' offer offer' h h' hid
  have hAll : ∀ o ∈ frames.filterMap (offer? ·.2), ∀ o' ∈ frames.filterMap (offer? ·.2),
      o.id = o'.id → o = o' := by decide
  exact hAll _ (List.mem_filterMap.mpr ⟨_, Entries.mem_of_lookup h, rfl⟩) _
    (List.mem_filterMap.mpr ⟨_, Entries.mem_of_lookup h', rfl⟩) hid

/-- The sample's contract ids are injective. -/
theorem contractIdsInjective : tclk.ContractIdsInjective := by
  intro offer core offer' core' id h h'
  have hAll : ∀ e ∈ contracts, ∀ e' ∈ contracts, e.2 = e'.2 → e.1 = e'.1 := by decide
  have hMem : ((offer, core), id) ∈ contracts := Entries.mem_of_lookup h
  have hMem' : ((offer', core'), id) ∈ contracts := Entries.mem_of_lookup h'
  exact Prod.mk.inj (hAll _ hMem _ hMem' rfl)

def legA : LegACandidate := ⟨post 1 "buyer" "offer a", offerA, idOf 'e', ⟨"FLOP", "100", FLOP_RAIL, 0⟩⟩

/-- The stranger accepts the bid and answers it, both before the Seller. -/
def crowded : List TranscriptRecord :=
  [post 1 "buyer" "offer a", post 2 "stranger" "stranger accepts a", post 3 "stranger" "offer d",
   post 5 "seller" "accept a", post 6 "seller" "offer b", post 7 "buyer" "accept b"]

/-- The Buyer accepts the stranger's leg B as well. -/
def endorsed : List TranscriptRecord :=
  paired ++ [post 8 "stranger" "offer d", post 9 "buyer" "accept d"]

/-- The same, and the stranger accepts the bid before the Seller did. -/
def steered : List TranscriptRecord :=
  [post 1 "buyer" "offer a", post 2 "stranger" "stranger accepts a", post 5 "seller" "accept a",
   post 6 "seller" "offer b", post 7 "buyer" "accept b", post 8 "stranger" "offer d",
   post 9 "buyer" "accept d"]

example : (boardPairOf tclk paired legA.offer.id).isSome = true := by decide

end Room

theorem picks_of_inserted_sample : Inserted (Outsider Room.tclk Room.paired Room.crowded Room.legA)
      Room.paired Room.crowded ∧
    ∃ picks, (boardPairOf Room.tclk Room.paired Room.legA.offer.id).map (·.picks) = some picks ∧
      (boardPairOf Room.tclk Room.crowded Room.legA.offer.id).map (·.picks) = some picks := by
  have hStranger : ∀ record : TranscriptRecord, record.sender = "stranger" →
      Outsider Room.tclk Room.paired Room.crowded Room.legA record := by
    intro record hrecord
    refine ⟨by rw [hrecord]; decide, ?_⟩
    rintro offer ⟨_, hoffer⟩ - ⟨_, accept, haccept, hsender, hgenuine⟩
    -- no answer of the stranger is accepted by the buyer
    have hAll : ∀ o ∈ (authenticateOffers Room.tclk Room.crowded).filterMap (Room.offer? ·.frame),
        ∀ a ∈ (authenticateOffers Room.tclk Room.paired).filterMap (Room.accept? ·.frame),
        a.sender = Room.legA.offer.sender → isGenuineAccept Room.tclk o a = true →
          "stranger" ≠ o.sender := by decide
    rw [hrecord]
    exact hAll _ (List.mem_filterMap.mpr ⟨_, hoffer, rfl⟩) _
      (List.mem_filterMap.mpr ⟨_, haccept, rfl⟩) hsender hgenuine
  have hInserted : Inserted (Outsider Room.tclk Room.paired Room.crowded Room.legA)
      Room.paired Room.crowded :=
    .keep _ (.insert (hStranger _ rfl) (.insert (hStranger _ rfl)
      (.keep _ (.keep _ (.keep _ .nil)))))
  refine ⟨hInserted, picks_of_inserted Room.offerIdsCommit (by decide) (by decide) ?_
    hInserted⟩
  obtain ⟨c, hc, hCrosses⟩ : ∃ c ∈ (indexOffers Room.tclk Room.paired).legBCandidates,
      c.context.legAOfferId = Room.legA.offer.id ∧
      acceptedBy ((indexOffers Room.tclk Room.paired).acceptsByRef.getList
        Room.legA.offer.id) c.offer.sender = true ∧
      acceptedBy ((indexOffers Room.tclk Room.paired).acceptsByRef.getList
        c.offer.id) Room.legA.offer.sender = true := by decide
  exact ⟨c, hc, hCrosses⟩

/-- A stranger whose leg B the Buyer accepted steers the pairing by an earlier accept of
leg A, although no leg B of theirs crossed. -/
theorem pairing_steered : ¬ ∀ (t : Tclk) (records records' : List TranscriptRecord)
    (legA : LegACandidate), t.OfferIdsCommit → t.ContractIdsInjective →
    (records'.map (·.seq)).Nodup →
    (indexOffers t records).legAByOfferId.get? legA.offer.id = some legA →
    (∃ c, Crosses (indexOffers t records) legA c) →
    Inserted (fun record => record.sender ≠ legA.offer.sender ∧
      ∀ c, Crosses (indexOffers t records) legA c → record.sender ≠ c.offer.sender)
      records records' →
    (boardPairOf t records legA.offer.id).map (·.picks) =
      (boardPairOf t records' legA.offer.id).map (·.picks) := by
  intro hAll
  have hSame := hAll Room.tclk Room.endorsed Room.steered Room.legA Room.offerIdsCommit
    Room.contractIdsInjective (by decide) (by decide) ?crosses ?inserted
  case crosses =>
    obtain ⟨c, hc, hCrosses⟩ : ∃ c ∈ (indexOffers Room.tclk Room.endorsed).legBCandidates,
        c.context.legAOfferId = Room.legA.offer.id ∧
        acceptedBy ((indexOffers Room.tclk Room.endorsed).acceptsByRef.getList
          Room.legA.offer.id) c.offer.sender = true ∧
        acceptedBy ((indexOffers Room.tclk Room.endorsed).acceptsByRef.getList
          c.offer.id) Room.legA.offer.sender = true := by decide
    exact ⟨c, hc, hCrosses⟩
  case inserted =>
    refine .keep _ (.insert ⟨by decide, ?_⟩
      (.keep _ (.keep _ (.keep _ (.keep _ (.keep _ .nil))))))
    rintro c ⟨hc, -, hAccepter, -⟩
    have hSellers : ∀ c ∈ (indexOffers Room.tclk Room.endorsed).legBCandidates,
        acceptedBy ((indexOffers Room.tclk Room.endorsed).acceptsByRef.getList
          Room.legA.offer.id) c.offer.sender = true → "stranger" ≠ c.offer.sender := by
      decide
    exact hSellers c hc hAccepter
  revert hSame
  decide

end SwapDesk.Desk
