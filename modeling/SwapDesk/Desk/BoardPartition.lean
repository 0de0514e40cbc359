import SwapDesk.Desk.BoardFacts

/-!
# SwapDesk — how the board divides the offers

Every leg-A offer id has one view. A leg-B post is either the leg B of one view or
one entry of `unpaired`, so an offer posted once is accounted for once, and one
posted `n` times is accounted for `n` times:

* `legB_count`: the views and the unpaired entries of a leg-B offer id are together
  as many as its posts;
* `partitions_iff`: the board divides the offers exactly when no leg-B offer is
  posted twice.
-/

namespace SwapDesk.Desk

variable {t : Tclk} {input : BoardInput} {board : Board}

-- ---------------------------------------------------------------------------
-- The views of an offer
-- ---------------------------------------------------------------------------

/-- The pairs of a board, each with the view it was folded to. -/
def boardViews (t : Tclk) (input : BoardInput) (board : Board) : List (BoardPair × SwapView) :=
  (boardPairs (indexOffers t input.offers)).zip board.swaps

/-- `pair` has this offer as its leg. -/
def BoardPair.hasLeg (pair : BoardPair) (leg : Leg) (offerId : String) : Bool :=
  match leg with
  | .a => pair.legAOfferId = offerId
  | .b => pair.legB.any fun pairing => pairing.legB.offer.id = offerId

/-- The views that have this offer as their leg. -/
def viewsOf (t : Tclk) (input : BoardInput) (board : Board) (leg : Leg) (offerId : String) :
    List SwapView :=
  ((boardViews t input board).filter fun e => e.1.hasLeg leg offerId).map Prod.snd

def unpairedOf (board : Board) (offerId : String) : List UnpairedOffer :=
  board.unpaired.filter fun entry => entry.offerId = offerId

/-- The board divides the swap offers: every view is the fold of its pair, a leg A has
one view, and a leg B either is in one view or is listed once. -/
structure Partitions (t : Tclk) (input : BoardInput) (board : Board) : Prop where
  complete : (boardViews t input board).map Prod.snd = board.swaps
  folded : ∀ e ∈ boardViews t input board,
    foldPair t input (indexOffers t input.offers) e.1 = some e.2
  legA : ∀ id ∈ legOfferIds t .a input.offers, (viewsOf t input board .a id).length = 1
  legB : ∀ id ∈ legOfferIds t .b input.offers,
    (viewsOf t input board .b id).length + (unpairedOf board id).length = 1

-- ---------------------------------------------------------------------------
-- Views and pairs
-- ---------------------------------------------------------------------------

theorem forall₂_of_mapM {α β : Type} {f : α → Option β} {l : List α} {l' : List β}
    (h : l.mapM f = some l') : List.Forall₂ (fun a b => f a = some b) l l' := by
  induction l generalizing l' with
  | nil =>
    obtain rfl := Option.some.inj h
    exact .nil
  | cons a l ih =>
    rw [List.mapM_cons] at h
    obtain ⟨b, hb, h⟩ := Option.bind_eq_some_iff.mp h
    obtain ⟨bs, hbs, h⟩ := Option.bind_eq_some_iff.mp h
    obtain rfl := Option.some.inj h
    exact .cons hb (ih hbs)

theorem swaps_of_buildBoard (h : buildBoard t input = some board) :
    List.Forall₂ (fun pair view => foldPair t input (indexOffers t input.offers) pair = some view)
      (boardPairs (indexOffers t input.offers)) board.swaps ∧
    board.unpaired = unpairedOffers (indexOffers t input.offers) := by
  obtain ⟨swaps, hswaps, hboard⟩ := Option.bind_eq_some_iff.mp h
  obtain rfl := Option.some.inj hboard
  exact ⟨forall₂_of_mapM hswaps, rfl⟩

/-- The views of an offer are as many as its pairs. -/
theorem length_viewsOf (h : buildBoard t input = some board) (leg : Leg) (id : String) :
    (viewsOf t input board leg id).length =
      (boardPairs (indexOffers t input.offers)).countP fun pair => pair.hasLeg leg id := by
  have hLength := (swaps_of_buildBoard h).1.length_eq
  have hFst : (boardViews t input board).map Prod.fst = boardPairs (indexOffers t input.offers) :=
    List.map_fst_zip hLength.le
  rw [viewsOf, List.length_map, ← List.countP_eq_length_filter]
  rw [← hFst, List.countP_map]
  rfl

-- ---------------------------------------------------------------------------
-- Leg A
-- ---------------------------------------------------------------------------

theorem countP_legA (index : OfferIndex) {id : String}
    (h : index.legAByOfferId.has id = true) :
    (boardPairs index).countP (fun pair => pair.hasLeg .a id) = 1 := by
  rw [boardPairs, List.countP_map]
  have hKeys : index.legAByOfferId.entries.countP
      ((fun pair => pair.hasLeg .a id) ∘ fun e => boardPair index e.1 e.2) =
      (index.legAByOfferId.entries.map Prod.fst).count id := by
    rw [List.count, List.countP_map]
    rfl
  rw [hKeys]
  obtain ⟨legA, hlegA⟩ := Option.isSome_iff_exists.mp h
  exact List.nodup_iff_count_eq_one.mp index.legAByOfferId.nodup id
    (List.mem_map.mpr ⟨(id, legA), OrdMap.mem_entries.mpr hlegA, rfl⟩)

-- ---------------------------------------------------------------------------
-- Leg B
-- ---------------------------------------------------------------------------

/-- The candidates that some leg A is paired with, by leg A. -/
def winners (index : OfferIndex) : List LegBCandidate :=
  (boardPairs index).filterMap fun pair => pair.legB.map (·.legB)

theorem countP_legB (index : OfferIndex) (id : String) :
    (boardPairs index).countP (fun pair => pair.hasLeg .b id) =
      (winners index).countP fun c => c.offer.id = id := by
  unfold winners
  induction boardPairs index with
  | nil => rfl
  | cons pair pairs ih =>
    rw [List.countP_cons, List.filterMap_cons, ih]
    cases hb : pair.legB with
    | none => simp [BoardPair.hasLeg, hb]
    | some pairing => simp [BoardPair.hasLeg, hb, List.countP_cons]

theorem mem_winners {index : OfferIndex} {c : LegBCandidate} : c ∈ winners index ↔
    ∃ pairing, (legBByLegAOfferId index).get? c.context.legAOfferId = some pairing ∧
      pairing.legB = c := by
  constructor
  · intro h
    obtain ⟨pair, hpair, hc⟩ := List.mem_filterMap.mp h
    obtain ⟨⟨id, legA⟩, -, rfl⟩ := List.mem_map.mp hpair
    obtain ⟨pairing, hpairing, rfl⟩ := Option.map_eq_some_iff.mp hc
    have hNames := (mem_of_winner hpairing).2.2
    exact ⟨pairing, by rw [hNames]; exact hpairing, rfl⟩
  · rintro ⟨pairing, hpairing, rfl⟩
    obtain ⟨hhas, -, -⟩ := mem_of_winner hpairing
    obtain ⟨legA, hlegA⟩ := Option.isSome_iff_exists.mp hhas
    refine List.mem_filterMap.mpr ⟨boardPair index pairing.legB.context.legAOfferId legA,
      List.mem_map.mpr ⟨(_, legA), OrdMap.mem_entries.mpr hlegA, rfl⟩, ?_⟩
    exact Option.map_eq_some_iff.mpr ⟨pairing, hpairing, rfl⟩

/-- Each winner names its own leg A, and leg A ids are not repeated. -/
theorem nodup_winners (index : OfferIndex) : (winners index).Nodup := by
  refine List.Nodup.of_map (fun c => c.context.legAOfferId) ?_
  have hSub : ((winners index).map fun c => c.context.legAOfferId).Sublist
      (index.legAByOfferId.entries.map Prod.fst) := by
    unfold winners boardPairs
    induction index.legAByOfferId.entries with
    | nil => exact .slnil
    | cons e entries ih =>
      rw [List.map_cons, List.filterMap_cons, List.map_cons]
      cases hb : (boardPair index e.1 e.2).legB with
      | none => exact ih.cons _
      | some pairing =>
        have hNames : pairing.legB.context.legAOfferId = e.1 := (mem_of_winner hb).2.2
        simp only [Option.map_some, List.map_cons, hNames]
        exact ih.cons_cons _
  exact index.legAByOfferId.nodup.sublist hSub

/-- A candidate is listed as unpaired unless it is the one its leg A is paired with. -/
theorem unpairedReason_eq_none {index : OfferIndex} {c : LegBCandidate} :
    unpairedReason index c = none ↔
      ∃ pairing, (legBByLegAOfferId index).get? c.context.legAOfferId = some pairing ∧
        pairing.legB.handle = c.handle := by
  unfold unpairedReason
  dsimp only
  constructor
  · intro h
    split at h
    · cases h
    split at h
    · cases h
    rename_i winner hwinner
    split at h
    · exact ⟨winner, hwinner, ‹_›⟩
    · split at h <;> cases h
  · rintro ⟨winner, hwinner, hhandle⟩
    have hhas := (mem_of_winner hwinner).1
    simp only [hhas, hwinner, hhandle, Bool.not_true, Bool.false_eq_true, if_false, if_true]

/-- The posts that are not unpaired are the winners. -/
theorem perm_winners (records : List TranscriptRecord) :
    ((orderedLegB (indexOffers t records)).filter fun c =>
      (unpairedReason (indexOffers t records) c).isNone).Perm (winners (indexOffers t records)) := by
  set index := indexOffers t records with hindex
  have hOrdered : (orderedLegB index).Nodup := by
    refine (perm_orderedLegB.nodup_iff).mpr (List.Nodup.of_map (·.handle) ?_)
    rw [hindex, legBCandidates_handles]
    exact List.nodup_range
  refine (List.perm_ext_iff_of_nodup (hOrdered.filter _) (nodup_winners index)).mpr fun c => ?_
  rw [List.mem_filter, Option.isNone_iff_eq_none, unpairedReason_eq_none, mem_winners]
  constructor
  · rintro ⟨hc, pairing, hpairing, hhandle⟩
    have hWinner : pairing.legB ∈ (indexOffers t records).legBCandidates :=
      mem_orderedLegB.mp (mem_of_winner hpairing).2.1
    exact ⟨pairing, hpairing, handle_inj hWinner (mem_orderedLegB.mp hc) hhandle⟩
  · rintro ⟨pairing, hpairing, rfl⟩
    exact ⟨(mem_of_winner hpairing).2.1, pairing, hpairing, rfl⟩

theorem length_unpairedOf (h : buildBoard t input = some board) (id : String) :
    (unpairedOf board id).length =
      ((orderedLegB (indexOffers t input.offers)).filter fun c =>
        !(unpairedReason (indexOffers t input.offers) c).isNone).countP
          fun c => c.offer.id = id := by
  rw [unpairedOf, (swaps_of_buildBoard h).2, unpairedOffers, ← List.countP_eq_length_filter]
  induction orderedLegB (indexOffers t input.offers) with
  | nil => rfl
  | cons c cs ih =>
    rw [List.filterMap_cons, List.filter_cons]
    cases hreason : unpairedReason (indexOffers t input.offers) c with
    | none => simpa using ih
    | some reason => simp [List.countP_cons, ih]

/-- The views and the unpaired entries of a leg-B offer are as many as its posts. -/
theorem legB_count (h : buildBoard t input = some board) (id : String) :
    (viewsOf t input board .b id).length + (unpairedOf board id).length =
      (legOfferIds t .b input.offers).count id := by
  have hPosts : (legOfferIds t .b input.offers).count id =
      (orderedLegB (indexOffers t input.offers)).countP fun c => c.offer.id = id := by
    rw [← legBCandidates_ids, List.count, List.countP_map]
    exact (perm_orderedLegB.countP_eq _).symm
  rw [length_viewsOf h, countP_legB, ← (perm_winners input.offers).countP_eq,
    length_unpairedOf h, hPosts]
  exact (List.countP_eq_countP_filter_add _ _ _).symm

/-- **The board divides the offers exactly when no leg-B offer is posted twice.** -/
theorem partitions_iff (h : buildBoard t input = some board) :
    Partitions t input board ↔ (legOfferIds t .b input.offers).Nodup := by
  constructor
  · intro hParts
    refine List.nodup_iff_count_eq_one.mpr fun id hid => ?_
    rw [← legB_count h]
    exact hParts.legB id hid
  · intro hNodup
    obtain ⟨hSwaps, -⟩ := swaps_of_buildBoard h
    refine ⟨List.map_snd_zip hSwaps.length_eq.ge, fun e he => ?_, fun id hid => ?_, fun id hid => ?_⟩
    · exact (List.forall₂_iff_zip.mp hSwaps).2 he
    · rw [length_viewsOf h, countP_legA _ ((has_legA_iff input.offers id).mpr hid)]
    · rw [legB_count h]
      exact List.nodup_iff_count_eq_one.mp hNodup id hid

theorem partitions_iff_sample : ∃ board,
    buildBoard Room.tclk (Room.inputOf Room.paired) = some board ∧
      Partitions Room.tclk (Room.inputOf Room.paired) board := by
  have hSome : (buildBoard Room.tclk (Room.inputOf Room.paired)).isSome = true := by decide
  obtain ⟨board, hboard⟩ := Option.isSome_iff_exists.mp hSome
  exact ⟨board, hboard, (partitions_iff hboard).mpr (by decide)⟩

namespace Room

/-- The Seller posts the winning leg B once more. -/
def reposted : List TranscriptRecord := paired ++ [post 8 "seller" "offer b"]

end Room

/-- A reposted leg B is both the leg B of a view and unpaired. -/
theorem reposted_not_partitions : ∃ board,
    buildBoard Room.tclk (Room.inputOf Room.reposted) = some board ∧
      ¬ Partitions Room.tclk (Room.inputOf Room.reposted) board := by
  have hTwice : (buildBoard Room.tclk (Room.inputOf Room.reposted)).map (fun board =>
      ((viewsOf Room.tclk (Room.inputOf Room.reposted) board .b (Room.idOf 'b')).length,
        unpairedOf board (Room.idOf 'b'))) =
      some (1, [⟨Room.idOf 'b', "leg A already paired"⟩]) := by decide
  obtain ⟨board, hboard, hcounts⟩ := Option.map_eq_some_iff.mp hTwice
  obtain ⟨hviews, hunpaired⟩ := Prod.mk.inj hcounts
  refine ⟨board, hboard, fun hParts => ?_⟩
  have hOnce := hParts.legB (Room.idOf 'b') (by decide)
  rw [hviews, hunpaired] at hOnce
  cases hOnce

end SwapDesk.Desk
