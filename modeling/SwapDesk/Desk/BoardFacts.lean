import SwapDesk.Desk.Board
import SwapDesk.Lib.Insertion

/-!
# SwapDesk — what the board's index holds

The index is built by one pass over the authenticated records. Each of its parts
is read off the records directly here, so that the results about the board need
not follow the loop again:

* `legBCandidates_ids`, `legBCandidates_handles`: one candidate per post of a leg
  B, each its own object;
* `has_legA_iff`: a leg A per leg-A offer id;
* `getList_candidatesByLegA`, `mem_of_winner`: the candidates of a leg A, and the
  one that wins.
-/

namespace SwapDesk.Desk

variable {t : Tclk} {index : OfferIndex}

-- ---------------------------------------------------------------------------
-- Posts of a leg
-- ---------------------------------------------------------------------------

/-- The id under which a post offers this leg of a swap, if it does. -/
def legOfferId (t : Tclk) (leg : Leg) (posted : Posted TclkFrame) : Option String :=
  match posted.frame with
  | .offer offer =>
    match classifySwapOffer t offer, leg with
    | some ⟨_, .a _⟩, .a => some offer.id
    | some ⟨_, .b _⟩, .b => some offer.id
    | _, _ => none
  | _ => none

/-- The offer ids posted for a leg, once per post. -/
def legOfferIds (t : Tclk) (leg : Leg) (records : List TranscriptRecord) : List String :=
  (authenticateOffers t records).filterMap (legOfferId t leg)

theorem indexFrame_ids (posted : Posted TclkFrame) :
    (indexFrame t index posted).legBCandidates.map (·.offer.id) =
      index.legBCandidates.map (·.offer.id) ++ (legOfferId t .b posted).toList := by
  unfold indexFrame legOfferId
  cases posted.frame with
  | offer offer =>
    dsimp only
    rcases classifySwapOffer t offer with _ | ⟨swapId, context | context⟩ <;> simp
  | accept accept =>
    dsimp only
    split
    · simp
    · split <;> simp
  | other type sender => simp

/-- One candidate per post of a leg B, in order. -/
theorem legBCandidates_ids (records : List TranscriptRecord) :
    (indexOffers t records).legBCandidates.map (·.offer.id) = legOfferIds t .b records := by
  have hFold : ∀ (posts : List (Posted TclkFrame)) (index : OfferIndex),
      (posts.foldl (indexFrame t) index).legBCandidates.map (·.offer.id) =
        index.legBCandidates.map (·.offer.id) ++ posts.filterMap (legOfferId t .b) := by
    intro posts
    induction posts with
    | nil => simp
    | cons posted posts ih =>
      intro index
      rw [List.foldl_cons, ih, indexFrame_ids, List.append_assoc]
      cases h : legOfferId t .b posted <;> simp [h]
  exact hFold _ _

/-- The candidates are told apart by their handles. -/
theorem legBCandidates_handles (records : List TranscriptRecord) :
    (indexOffers t records).legBCandidates.map (·.handle) =
      List.range (indexOffers t records).legBCandidates.length := by
  have hFold : ∀ (posts : List (Posted TclkFrame)) (index : OfferIndex),
      index.legBCandidates.map (·.handle) = List.range index.legBCandidates.length →
      (posts.foldl (indexFrame t) index).legBCandidates.map (·.handle) =
        List.range (posts.foldl (indexFrame t) index).legBCandidates.length := by
    intro posts
    induction posts with
    | nil => exact fun _ h => h
    | cons posted posts ih =>
      intro index h
      refine ih _ ?_
      -- a step adds no candidate, or one under the next handle
      unfold indexFrame
      cases posted.frame with
      | offer offer =>
        dsimp only
        rcases classifySwapOffer t offer with _ | ⟨swapId, context | context⟩
        · exact h
        · exact h
        · simp [h, List.range_succ]
      | accept accept =>
        dsimp only
        split
        · exact h
        · split <;> exact h
      | other type sender => exact h
  exact hFold _ _ rfl

theorem handle_inj {records : List TranscriptRecord} {c d : LegBCandidate}
    (hc : c ∈ (indexOffers t records).legBCandidates)
    (hd : d ∈ (indexOffers t records).legBCandidates) (h : c.handle = d.handle) : c = d := by
  have hNodup : ((indexOffers t records).legBCandidates.map (·.handle)).Nodup := by
    rw [legBCandidates_handles]
    exact List.nodup_range
  exact List.inj_on_of_nodup_map hNodup hc hd h

theorem indexFrame_has_legA (posted : Posted TclkFrame) (id : String) :
    (indexFrame t index posted).legAByOfferId.has id = true ↔
      index.legAByOfferId.has id = true ∨ legOfferId t .a posted = some id := by
  unfold indexFrame legOfferId OrdMap.has
  cases posted.frame with
  | offer offer =>
    dsimp only
    rcases classifySwapOffer t offer with _ | ⟨swapId, context | context⟩
    · simp
    · rw [OrdMap.get?_setIfAbsent]
      by_cases h : id = offer.id
      · simp [h]
      · simp [h, Ne.symm h]
    · simp
  | accept accept =>
    dsimp only
    split
    · simp
    · split <;> simp
  | other type sender => simp

/-- The leg-A offer ids of the index are those posted. -/
theorem has_legA_iff (records : List TranscriptRecord) (id : String) :
    (indexOffers t records).legAByOfferId.has id = true ↔ id ∈ legOfferIds t .a records := by
  have hFold : ∀ (posts : List (Posted TclkFrame)) (index : OfferIndex),
      (posts.foldl (indexFrame t) index).legAByOfferId.has id = true ↔
        index.legAByOfferId.has id = true ∨ id ∈ posts.filterMap (legOfferId t .a) := by
    intro posts
    induction posts with
    | nil => simp
    | cons posted posts ih =>
      intro index
      rw [List.foldl_cons, ih, indexFrame_has_legA]
      cases h : legOfferId t .a posted <;> simp [h, or_assoc, @eq_comm _ id]
  rw [indexOffers, hFold]
  simp [OfferIndex.empty, OrdMap.has, legOfferIds]

-- ---------------------------------------------------------------------------
-- The candidates of a leg A
-- ---------------------------------------------------------------------------

theorem mem_orderedLegB {c : LegBCandidate} : c ∈ orderedLegB index ↔ c ∈ index.legBCandidates :=
  List.mem_insertionSort _

theorem perm_orderedLegB : (orderedLegB index).Perm index.legBCandidates :=
  List.perm_insertionSort _ _

theorem pairwise_orderedLegB :
    (orderedLegB index).Pairwise fun c d => c.record.seq ≤ d.record.seq := by
  have hTotal : Std.Total fun c d : LegBCandidate => c.record.seq ≤ d.record.seq :=
    ⟨fun _ _ => Nat.le_total _ _⟩
  have hTrans : IsTrans LegBCandidate fun c d => c.record.seq ≤ d.record.seq :=
    ⟨fun _ _ _ => Nat.le_trans⟩
  exact List.pairwise_insertionSort _ _

theorem getList_candidatesByLegA (id : String) :
    (candidatesByLegA index).getList id =
      (orderedLegB index).filter fun c => c.context.legAOfferId = id := by
  have hFold : ∀ (cs : List LegBCandidate) (lists : OrdMap String (List LegBCandidate)),
      (cs.foldl (fun lists c => lists.push c.context.legAOfferId c) lists).getList id =
        lists.getList id ++ cs.filter fun c => c.context.legAOfferId = id := by
    intro cs
    induction cs with
    | nil => simp
    | cons c cs ih =>
      intro lists
      rw [List.foldl_cons, ih, OrdMap.getList_push]
      by_cases h : c.context.legAOfferId = id
      · simp [h]
      · rw [if_neg (Ne.symm h)]
        simp [h]
  exact hFold _ _

/-- The scan only ever holds candidates it has seen. -/
theorem mem_of_scan {buyer : String} {accepts : List (Posted AcceptFrame)} {seen : List LegBCandidate}
    {cs : List LegBCandidate} {scan : CandidateScan} {c : LegBCandidate}
    (hCrossing : ∀ c n, scan.crossing = some (c, n) → c ∈ seen)
    (hFallback : ∀ c, scan.fallback = some c → c ∈ seen) (hcs : ∀ c ∈ cs, c ∈ seen)
    (h : (∃ n, (cs.foldl (scanCandidate index buyer accepts) scan).crossing = some (c, n)) ∨
      (cs.foldl (scanCandidate index buyer accepts) scan).fallback = some c) : c ∈ seen := by
  induction cs generalizing scan with
  | nil => exact h.elim (fun ⟨n, hn⟩ => hCrossing c n hn) (hFallback c)
  | cons d cs ih =>
    have hd := hcs d List.mem_cons_self
    refine ih ?_ ?_ (fun c hc => hcs c (List.mem_cons_of_mem d hc)) h
    · intro c n hn
      unfold scanCandidate at hn
      split at hn
      · exact hCrossing c n hn
      · dsimp only at hn
        split at hn
        · obtain ⟨rfl, -⟩ := Prod.mk.inj (Option.some.inj hn)
          exact hd
        · exact hCrossing c n hn
    · intro c hc
      unfold scanCandidate at hc
      split at hc
      · exact hFallback c hc
      · rcases Option.or_eq_some_iff.mp hc with hc | ⟨-, hc⟩
        · exact hFallback c hc
        · obtain rfl := Option.some.inj hc
          exact hd

/-- The leg B that is paired is one of the candidates. -/
theorem mem_of_pairLegB {legA : LegACandidate} {id : String} {cs : List LegBCandidate}
    {pairing : Pairing} (h : pairLegB index legA id cs = some pairing) : pairing.legB ∈ cs := by
  unfold pairLegB at h
  dsimp only at h
  split at h
  · obtain ⟨c, hc, rfl⟩ := Option.map_eq_some_iff.mp h
    exact List.mem_of_mem_head? hc
  · have hNone : ∀ c n, (none : Option (LegBCandidate × Nat)) = some (c, n) → c ∈ cs := by simp
    have hNone' : ∀ c, (none : Option LegBCandidate) = some c → c ∈ cs := by simp
    split at h
    · rename_i hcrossing
      obtain rfl := Option.some.inj h
      exact mem_of_scan hNone hNone' (fun c hc => hc) (.inl ⟨_, hcrossing⟩)
    · rename_i hfallback
      obtain rfl := Option.some.inj h
      exact mem_of_scan hNone hNone' (fun c hc => hc) (.inr hfallback)
    · cases h

/-- A winner is a posted candidate that names its leg A, which is known. -/
theorem mem_of_winner {id : String} {winner : Pairing}
    (h : (legBByLegAOfferId index).get? id = some winner) :
    index.legAByOfferId.has id = true ∧ winner.legB ∈ orderedLegB index ∧
      winner.legB.context.legAOfferId = id := by
  rw [legBByLegAOfferId, OrdMap.get?_filterMap] at h
  obtain ⟨cs, hcs, h⟩ := Option.bind_eq_some_iff.mp h
  obtain ⟨legA, hlegA, h⟩ := Option.bind_eq_some_iff.mp h
  have hmem := mem_of_pairLegB h
  have hlist : (candidatesByLegA index).getList id = cs := by rw [OrdMap.getList, hcs]; rfl
  rw [← hlist, getList_candidatesByLegA, List.mem_filter] at hmem
  exact ⟨by rw [OrdMap.has, hlegA]; rfl, hmem.1, of_decide_eq_true hmem.2⟩

/-! ## A sample room

A Buyer bids, a Seller and a stranger accept, both answer with a leg B, and the
Buyer accepts either. Which of these are posted, and when, is up to the input. -/

namespace Room

def idOf (c : Char) : String := String.ofList ('0' :: 'x' :: List.replicate 64 c)

def offerA : OfferFrame :=
  { id := idOf 'a', sender := "buyer", role := .payer, lock := "hash", asset := "USDC", amount := "5"
    rails := ["evm-htlc"], expiresMs := 1000, claimByMs := 2000, refundAfterMs := 3000
    job := some ⟨SWAP_PROTO, idOf 'e', some "a|FLOP|100|flop-htlc|0"⟩ }

def legBOffer (id : Char) (sender : String) : OfferFrame :=
  { id := idOf id, sender := sender, role := .payer, lock := "hash", asset := "FLOP", amount := "100"
    rails := [FLOP_RAIL], expiresMs := 1000, claimByMs := 4000, refundAfterMs := 5000
    job := some ⟨SWAP_PROTO, idOf 'e', some ("b|" ++ idOf 'a')⟩ }

def core (sender : String) (offer : OfferFrame) : AcceptCore :=
  ⟨sender, offer.id, "0x66", none, "00"⟩

def contracts : List ((OfferFrame × AcceptCore) × String) :=
  [((offerA, core "seller" offerA), "ca"), ((offerA, core "stranger" offerA), "ca'"),
   ((legBOffer 'b' "seller", core "buyer" (legBOffer 'b' "seller")), "cb"),
   ((legBOffer 'd' "stranger", core "buyer" (legBOffer 'd' "stranger")), "cd")]

def acceptOf (sender : String) (offer : OfferFrame) : TclkFrame :=
  .accept ⟨core sender offer, (contracts.lookup (offer, core sender offer)).getD ""⟩

def frames : List (String × TclkFrame) :=
  [("offer a", .offer offerA), ("accept a", acceptOf "seller" offerA),
   ("stranger accepts a", acceptOf "stranger" offerA),
   ("offer b", .offer (legBOffer 'b' "seller")),
   ("accept b", acceptOf "buyer" (legBOffer 'b' "seller")),
   ("offer d", .offer (legBOffer 'd' "stranger")),
   ("accept d", acceptOf "buyer" (legBOffer 'd' "stranger"))]

/-- The library on the frames of the room. -/
def tclk : Tclk where
  offerRoom := "tclk-offers"
  dealRoom contract := "mb-p-tclk-" ++ contract
  verifyTranscriptRecord record := record.signature.isSome
  tryDecodeFrame line := frames.lookup line
  foldTranscript records :=
    ⟨match records.filterMap (frames.lookup ·.line) with
      | .offer offer :: .accept accept :: _ =>
        some ⟨offer, .accepted, some accept.contract, some offer.sender, some accept.sender,
          some accept.statement, none, none, none⟩
      | .offer offer :: _ => some ⟨offer, .proposed, none, none, none, none, none, none, none⟩
      | _ => none, []⟩
  lockTerms _ := none
  contractId offer core := contracts.lookup (offer, core)
  normalizeRailId rail := if rail ∈ ["evm-htlc", FLOP_RAIL] then some rail else none

def post (seq : Nat) (sender line : String) : TranscriptRecord :=
  ⟨"tclk-offers", seq, 10, sender, "00", line, some "signed"⟩

def inputOf (offers : List TranscriptRecord) : BoardInput := ⟨offers, fun _ => none, none, 100, none⟩

/-- A bid, its accept, the leg B that answers it, and the Buyer's accept of that. -/
def paired : List TranscriptRecord :=
  [post 1 "buyer" "offer a", post 5 "seller" "accept a", post 6 "seller" "offer b",
   post 7 "buyer" "accept b"]

end Room

end SwapDesk.Desk
