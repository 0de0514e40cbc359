import SwapDesk.Desk.Replay
import SwapDesk.Desk.BoardFacts
import SwapDesk.Rails.NearSoundness

/-!
# SwapDesk — captured legs do not mix

The evidence the captured fold attaches to a contract is a function of that
contract's own posts, deal room, note and capture, and of the configuration and
the clock. `AgreeFor` says that two inputs agree on all of that; what else they
hold, and how it fails, is left open.

Main results:

* `evidence_isolated`: inputs that agree for a contract give it the same
  evidence; and on the rails whose captures are kept per contract no other
  contract has its key;
* `capture_shared_by_hash_lock`: an EVM capture is kept under its hash lock, so
  two contracts that share one share the capture.
-/

namespace SwapDesk.Desk

open Rails

variable {t : Tclk} {readers : Readers}

-- ---------------------------------------------------------------------------
-- A contract's own posts
-- ---------------------------------------------------------------------------

/-- The accept is genuine for an offer that was posted. -/
def acceptsPosted (t : Tclk) (posts : List (Posted TclkFrame)) (accept : AcceptFrame) : Bool :=
  posts.any fun p =>
    match p.frame with
    | .offer offer => isGenuineAccept t offer accept
    | _ => false

/-- A genuine accept of contract `c`. -/
def acceptsContract (t : Tclk) (posts : List (Posted TclkFrame)) (c : String)
    (accept : AcceptFrame) : Bool :=
  accept.contract = c && acceptsPosted t posts accept

/-- A genuine accept of the contract, or a post of an offer that such an accept names. -/
def isOwnPost (t : Tclk) (posts : List (Posted TclkFrame)) (c : String) (p : Posted TclkFrame) :
    Bool :=
  match p.frame with
  | .offer offer =>
    posts.any fun q =>
      match q.frame with
      | .accept accept => acceptsContract t posts c accept && accept.ref = offer.id
      | _ => false
  | .accept accept => acceptsContract t posts c accept
  | .other _ _ => false

def ownPosts (t : Tclk) (c : String) (records : List TranscriptRecord) : List (Posted TclkFrame) :=
  let posts := authenticateOffers t records
  posts.filter (isOwnPost t posts c)

-- ---------------------------------------------------------------------------
-- The scan sees only them
-- ---------------------------------------------------------------------------

/-- Two scans that agree on a contract: on the offers its accepts may name, and on its
candidate. -/
structure AgreeOn (own : String → Prop) (c : String) (scan scan' : LegScan) : Prop where
  offers : ∀ id, own id → scan.swapLegOfferIds.get? id = scan'.swapLegOfferIds.get? id
  candidate : scan.byContract.get? c = scan'.byContract.get? c

/-- Every offer of the scan was posted. -/
def OffersPosted (posts : List (Posted TclkFrame)) (scan : LegScan) : Prop :=
  ∀ id legOffer, scan.swapLegOfferIds.get? id = some legOffer →
    ∃ p ∈ posts, p.frame = .offer legOffer.offer

/-- The offers a genuine accept of `c` names. -/
def OwnOffer (t : Tclk) (posts : List (Posted TclkFrame)) (c id : String) : Prop :=
  ∃ p ∈ posts, ∃ accept, p.frame = .accept accept ∧ acceptsContract t posts c accept = true ∧
    accept.ref = id

theorem isOwnPost_offer {posts : List (Posted TclkFrame)} {c : String} {p : Posted TclkFrame}
    {offer : OfferFrame} (hp : p.frame = .offer offer) :
    isOwnPost t posts c p = true ↔ OwnOffer t posts c offer.id := by
  unfold isOwnPost OwnOffer
  rw [hp]
  dsimp only
  rw [List.any_eq_true]
  constructor
  · rintro ⟨q, hq, h⟩
    split at h
    · rename_i accept hAccept
      rw [Bool.and_eq_true, decide_eq_true_eq] at h
      exact ⟨q, hq, accept, hAccept, h.1, h.2⟩
    · cases h
  · rintro ⟨q, hq, accept, hAccept, hOwn, hRef⟩
    refine ⟨q, hq, ?_⟩
    rw [hAccept]
    simp [hOwn, hRef]

/-- An accept of the contract that is genuine for an offer of the scan is its own. -/
theorem acceptsContract_of_genuine {posts : List (Posted TclkFrame)} {scan : LegScan}
    {accept : AcceptFrame} {legOffer : SwapLegOffer} (hPosted : OffersPosted posts scan)
    (hGet : scan.swapLegOfferIds.get? accept.ref = some legOffer)
    (hGenuine : isGenuineAccept t legOffer.offer accept = true) :
    acceptsContract t posts accept.contract accept = true := by
  obtain ⟨p, hp, hFrame⟩ := hPosted _ _ hGet
  unfold acceptsContract acceptsPosted
  rw [Bool.and_eq_true, decide_eq_true_eq, List.any_eq_true]
  exact ⟨rfl, p, hp, by rw [hFrame]; exact hGenuine⟩

theorem offersPosted_step {posts : List (Posted TclkFrame)} {scan : LegScan} {p : Posted TclkFrame}
    (hp : p ∈ posts) (h : OffersPosted posts scan) : OffersPosted posts (scanLegFrame t scan p) := by
  unfold scanLegFrame
  split
  · rename_i offer hOffer
    split
    · exact h
    · intro id legOffer hGet
      dsimp only at hGet
      rw [OrdMap.get?_set] at hGet
      split at hGet
      · obtain rfl := Option.some.inj hGet
        exact ⟨p, hp, hOffer⟩
      · exact h id legOffer hGet
  · split
    · exact h
    · split
      · exact h
      · exact h
  · exact h

/-- A post that is not the contract's own changes nothing of it. -/
theorem agreeOn_other {posts : List (Posted TclkFrame)} {c : String} {scan scan' : LegScan}
    {p : Posted TclkFrame} (hPosted : OffersPosted posts scan)
    (hOther : isOwnPost t posts c p = false) (h : AgreeOn (OwnOffer t posts c) c scan scan') :
    AgreeOn (OwnOffer t posts c) c (scanLegFrame t scan p) scan' := by
  unfold scanLegFrame
  split
  · rename_i offer hOffer
    have hNot : ¬ OwnOffer t posts c offer.id := by
      rw [← isOwnPost_offer hOffer, hOther]
      decide
    split
    · exact h
    · refine ⟨?_, h.candidate⟩
      intro id hOwn
      dsimp only
      rw [OrdMap.get?_set, if_neg (by rintro rfl; exact hNot hOwn)]
      exact h.offers id hOwn
  · rename_i accept hAccept
    split
    · exact h
    · rename_i legOffer hGet
      split
      · exact h
      · rename_i hGenuine
        rw [Bool.not_eq_true, Bool.not_eq_false'] at hGenuine
        refine ⟨h.offers, ?_⟩
        dsimp only
        -- an accept that is genuine but not the contract's own is of another contract
        have hne : c ≠ accept.contract := by
          rintro rfl
          rw [isOwnPost, hAccept] at hOther
          dsimp only at hOther
          rw [acceptsContract_of_genuine hPosted hGet hGenuine] at hOther
          cases hOther
        rw [OrdMap.get?_setIfAbsent, if_neg hne, Option.or_none]
        exact h.candidate
  · exact h

/-- A post of the contract's own does the same to both. -/
theorem agreeOn_own {posts : List (Posted TclkFrame)} {c : String} {scan scan' : LegScan}
    {p : Posted TclkFrame} (hp : p ∈ posts) (hOwn : isOwnPost t posts c p = true)
    (h : AgreeOn (OwnOffer t posts c) c scan scan') :
    AgreeOn (OwnOffer t posts c) c (scanLegFrame t scan p) (scanLegFrame t scan' p) := by
  unfold scanLegFrame
  split
  · split
    · exact h
    · refine ⟨?_, h.candidate⟩
      intro id hId
      dsimp only
      rw [OrdMap.get?_set, OrdMap.get?_set, h.offers id hId]
  · rename_i accept hAccept
    rw [isOwnPost, hAccept] at hOwn
    rw [← h.offers accept.ref ⟨p, hp, accept, hAccept, hOwn, rfl⟩]
    split
    · exact h
    · split
      · exact h
      · refine ⟨h.offers, ?_⟩
        dsimp only
        rw [OrdMap.get?_setIfAbsent, OrdMap.get?_setIfAbsent, h.candidate]
  · exact h

/-- Over the whole pass, leaving out the other posts changes nothing of the contract. -/
theorem agreeOn_run {posts : List (Posted TclkFrame)} {c : String} :
    ∀ {ps : List (Posted TclkFrame)} {scan scan' : LegScan}, ps ⊆ posts →
      OffersPosted posts scan → AgreeOn (OwnOffer t posts c) c scan scan' →
      AgreeOn (OwnOffer t posts c) c (ps.foldl (scanLegFrame t) scan)
        ((ps.filter (isOwnPost t posts c)).foldl (scanLegFrame t) scan')
  | [], _, _, _, _, h => h
  | p :: ps, scan, scan', hSub, hPosted, h => by
    have hp := hSub List.mem_cons_self
    have hRest := List.subset_of_cons_subset hSub
    rw [List.foldl_cons]
    cases hOwn : isOwnPost t posts c p with
    | false =>
      rw [List.filter_cons_of_neg (by rw [hOwn]; decide)]
      exact agreeOn_run hRest (offersPosted_step hp hPosted) (agreeOn_other hPosted hOwn h)
    | true =>
      rw [List.filter_cons_of_pos hOwn, List.foldl_cons]
      exact agreeOn_run hRest (offersPosted_step hp hPosted) (agreeOn_own hp hOwn h)

/-- The candidate of a contract, from the whole room. -/
def candidateOf (t : Tclk) (records : List TranscriptRecord) (c : String) :
    Option SwapLegCandidate :=
  (scanLegs t records).byContract.get? c

/-- It is what the contract's own posts make it. -/
theorem candidateOf_eq (records : List TranscriptRecord) (c : String) :
    candidateOf t records c =
      ((ownPosts t c records).foldl (scanLegFrame t) .empty).byContract.get? c :=
  (agreeOn_run (fun _ hp => hp) (by intro id legOffer h; cases h) ⟨fun _ _ => rfl, rfl⟩).candidate

-- ---------------------------------------------------------------------------
-- Evidence by contract
-- ---------------------------------------------------------------------------

/-- A candidate is filed under its own contract. -/
theorem contract_of_byContract {scan : LegScan} {p : Posted TclkFrame}
    (h : ∀ k candidate, scan.byContract.get? k = some candidate → candidate.contract = k) :
    ∀ k candidate, (scanLegFrame t scan p).byContract.get? k = some candidate →
      candidate.contract = k := by
  unfold scanLegFrame
  split
  · split <;> exact h
  · split
    · exact h
    · split
      · exact h
      · intro k candidate hGet
        dsimp only at hGet
        rw [OrdMap.get?_setIfAbsent] at hGet
        rcases Option.or_eq_some_iff.mp hGet with hGet | ⟨-, hGet⟩
        · exact h k candidate hGet
        · split at hGet
          · rename_i hk
            obtain rfl := Option.some.inj hGet
            exact hk.symm
          · cases hGet
  · exact h

theorem contract_of_candidateOf {records : List TranscriptRecord} {c : String}
    {candidate : SwapLegCandidate} (h : candidateOf t records c = some candidate) :
    candidate.contract = c := by
  have hRun : ∀ (ps : List (Posted TclkFrame)) (scan : LegScan),
      (∀ k cand, scan.byContract.get? k = some cand → cand.contract = k) →
      ∀ k cand, (ps.foldl (scanLegFrame t) scan).byContract.get? k = some cand →
        cand.contract = k := by
    intro ps
    induction ps with
    | nil => exact fun scan h => h
    | cons p ps ih => exact fun scan h => ih _ (contract_of_byContract h)
  exact hRun _ _ (by intro k cand h; cases h) c candidate h

/-- A fold that files results under distinct keys files each under its own. -/
theorem get?_foldl_set {α β : Type} {f : α → Option β} {key : α → String} {k : String}
    {g : OrdMap String β → α → OrdMap String β} (hNone : ∀ m x, f x = none → g m x = m)
    (hSome : ∀ m x b, f x = some b → g m x = m.set (key x) b) :
    ∀ {xs : List α} {m : OrdMap String β}, (xs.map key).Nodup →
      (xs.foldl g m).get? k = ((xs.find? fun x => key x = k).bind f).or (m.get? k)
  | [], m, _ => rfl
  | x :: xs, m, h => by
    rw [List.map_cons, List.nodup_cons] at h
    rw [List.foldl_cons, get?_foldl_set hNone hSome h.2, List.find?_cons]
    by_cases hk : key x = k
    · -- no later element has this key
      have hOnly : xs.find? (fun x => key x = k) = none := by
        rw [List.find?_eq_none]
        intro y hy hyk
        exact h.1 (List.mem_map.mpr ⟨y, hy, (of_decide_eq_true hyk).trans hk.symm⟩)
      rw [hOnly]
      simp only [hk, decide_true, Option.bind_none, Option.none_or, Option.bind_some]
      cases hf : f x with
      | none => rw [hNone m x hf, Option.none_or]
      | some b => rw [hSome m x b hf, OrdMap.get?_set, if_pos hk.symm, Option.some_or]
    · simp only [hk, decide_false]
      cases hf : f x with
      | none => rw [hNone m x hf]
      | some b => rw [hSome m x b hf, OrdMap.get?_set, if_neg (Ne.symm hk)]

theorem mem_findSwapLegCandidates {records : List TranscriptRecord} {candidate : SwapLegCandidate} :
    candidate ∈ findSwapLegCandidates t records ↔
      candidateOf t records candidate.contract = some candidate := by
  unfold findSwapLegCandidates
  rw [List.mem_insertionSort, List.mem_map]
  constructor
  · rintro ⟨⟨k, cand⟩, hMem, rfl⟩
    have hGet := OrdMap.mem_entries.mp hMem
    rw [contract_of_candidateOf hGet]
    exact hGet
  · intro h
    exact ⟨(candidate.contract, candidate), OrdMap.mem_entries.mpr h, rfl⟩

/-- No two candidates have one contract. -/
theorem nodup_contracts (records : List TranscriptRecord) :
    ((findSwapLegCandidates t records).map (·.contract)).Nodup := by
  unfold findSwapLegCandidates
  rw [((List.perm_insertionSort _ _).map _).nodup_iff, List.map_map]
  have hKeys : (scanLegs t records).byContract.entries.map ((·.contract) ∘ Prod.snd) =
      (scanLegs t records).byContract.entries.map Prod.fst := by
    refine List.map_congr_left ?_
    rintro ⟨k, cand⟩ hMem
    exact contract_of_candidateOf (OrdMap.mem_entries.mp hMem)
  rw [hKeys]
  exact (scanLegs t records).byContract.nodup

/-- The evidence of a contract is that of its candidate. -/
theorem get?_evidenceByContract (input : FoldCapturedInput readers) (c : String) :
    (evidenceByContract t input).get? c =
      (candidateOf t input.offers c).bind (legEvidence t input) := by
  have hFold : (evidenceByContract t input).get? c =
      (((findSwapLegCandidates t input.offers).find? fun x => x.contract = c).bind
        (legEvidence t input)).or (OrdMap.empty.get? c) := by
    refine get?_foldl_set ?_ ?_ (nodup_contracts input.offers)
    · intro m x hx
      rw [hx]
    · intro m x b hx
      rw [hx]
  rw [hFold, OrdMap.get?_empty, Option.or_none]
  cases h : candidateOf t input.offers c with
  | none =>
    have hNone : (findSwapLegCandidates t input.offers).find? (fun x => x.contract = c) = none := by
      rw [List.find?_eq_none]
      intro cand hMem hc
      obtain rfl := of_decide_eq_true hc
      rw [mem_findSwapLegCandidates.mp hMem] at h
      cases h
    rw [hNone]
  | some candidate =>
    have hContract := contract_of_candidateOf h
    have hMem : candidate ∈ findSwapLegCandidates t input.offers := by
      rw [mem_findSwapLegCandidates, hContract]
      exact h
    cases hFind : (findSwapLegCandidates t input.offers).find? (fun x => x.contract = c) with
    | none =>
      rw [List.find?_eq_none] at hFind
      exact absurd (decide_eq_true hContract) (hFind candidate hMem)
    | some other =>
      -- the contracts are distinct, so what is found is the candidate
      have hOther := mem_findSwapLegCandidates.mp (List.mem_of_find?_eq_some hFind)
      have hc : other.contract = c := by simpa using List.find?_some hFind
      rw [hc, h] at hOther
      obtain rfl := Option.some.inj hOther
      rfl

-- ---------------------------------------------------------------------------
-- The key of a contract's own capture
-- ---------------------------------------------------------------------------

/-- Which capture, of which rail. -/
inductive CaptureKey where
  | evm (key : String)
  | btc (key : String)
  | near (key : String)
  | sol (key : String)
deriving DecidableEq, Repr

/-- Where the fold looks for the capture of an accepted lock. -/
def captureKey (c : String) (accepted : AcceptedLock) : Option CaptureKey :=
  if accepted.rail = EVM_RAIL_ID then some (.evm accepted.railRef)
  else if accepted.rail = BTC_RAIL_ID then some (.btc accepted.railRef)
  else if accepted.rail = NEAR_RAIL_ID then
    (parseNearRef accepted.railRef).map fun ref => .near (nearCaptureKey ref.hashLock c)
  else if accepted.rail = SOL_RAIL_ID then
    (parseSolRef accepted.railRef).map fun ref => .sol (solCaptureKey ref.hashLock c)
  else none

/-- The key of the capture of a contract's own accepted lock. -/
def ownKey (t : Tclk) (input : FoldCapturedInput readers) (c : String) : Option CaptureKey :=
  (candidateOf t input.offers c).bind fun candidate =>
    (acceptedLockOf t input candidate).bind (captureKey c)

def SameCapture (input input' : FoldCapturedInput readers) : CaptureKey → Prop
  | .evm key => input.chain key = input'.chain key
  | .btc key => input.btcChain key = input'.btcChain key
  | .near key => input.nearChain key = input'.nearChain key
  | .sol key => input.solChain key = input'.solChain key

/-- The captures with the one of this key missing. -/
def FoldCapturedInput.dropCapture (input : FoldCapturedInput readers) :
    CaptureKey → FoldCapturedInput readers
  | .evm key => { input with chain := fun k => if k = key then none else input.chain k }
  | .btc key => { input with btcChain := fun k => if k = key then none else input.btcChain k }
  | .near key => { input with nearChain := fun k => if k = key then none else input.nearChain k }
  | .sol key => { input with solChain := fun k => if k = key then none else input.solChain k }

/-- Two inputs agree on all a contract's evidence is made of. -/
structure AgreeFor (t : Tclk) (c : String) (input input' : FoldCapturedInput readers) : Prop where
  posts : ownPosts t c input.offers = ownPosts t c input'.offers
  dealRoom : input.dealRooms (t.dealRoom c) = input'.dealRooms (t.dealRoom c)
  note : input.notes c = input'.notes c
  capture : ∀ key, ownKey t input c = some key → SameCapture input input' key
  evm : input.evm = input'.evm
  btc : input.btc = input'.btc
  near : input.near = input'.near
  sol : input.sol = input'.sol
  nowMs : input.nowMs = input'.nowMs

/-- A rail's branch reads nothing but its configuration, its capture and the leg. -/
theorem railEvidence_congr {input input' : FoldCapturedInput readers} {leg : LegContext}
    (hNote : input.notes leg.contract = input'.notes leg.contract)
    (hCapture : ∀ key, captureKey leg.contract leg.accepted = some key →
      SameCapture input input' key)
    (hEvm : input.evm = input'.evm) (hBtc : input.btc = input'.btc)
    (hNear : input.near = input'.near) (hSol : input.sol = input'.sol) :
    railEvidence input leg = railEvidence input' leg := by
  unfold railEvidence
  unfold captureKey at hCapture
  dsimp only
  rw [hNote, hEvm, hBtc, hNear, hSol]
  -- on paper the note is all, then the rails one after another
  by_cases hPaper : leg.accepted.rail = PAPER_RAIL_ID ∧ leg.accepted.railRef = leg.contract
  · rw [if_pos hPaper, if_pos hPaper]
  · rw [if_neg hPaper, if_neg hPaper]
    by_cases hE : leg.accepted.rail = EVM_RAIL_ID
    · have hSame : input.chain leg.accepted.railRef = input'.chain leg.accepted.railRef :=
        hCapture _ (if_pos hE)
      rw [hSame, hE]
      split_ifs with h₁ h₂ h₃ h₄
      · rfl
      · exact absurd h₂ (by decide)
      · exact absurd h₃.1 (by decide)
      · exact absurd h₄.1 (by decide)
      · rfl
    · have hE' : ¬ (leg.accepted.rail = EVM_RAIL_ID ∧
          leg.accepted.railRef = leg.terms.statement) := fun h => hE h.1
      rw [if_neg hE', if_neg hE']
      rw [if_neg hE] at hCapture
      -- each of them reads its own capture only
      by_cases hB : leg.accepted.rail = BTC_RAIL_ID
      · have hSame : input.btcChain leg.accepted.railRef = input'.btcChain leg.accepted.railRef :=
          hCapture _ (if_pos hB)
        rw [if_pos hB, if_pos hB, hSame]
      · rw [if_neg hB, if_neg hB]
        rw [if_neg hB] at hCapture
        by_cases hN : leg.accepted.rail = NEAR_RAIL_ID ∧
            (parseNearRef leg.accepted.railRef).map (·.hashLock) = some leg.terms.statement
        · obtain ⟨ref, hRef, -⟩ := Option.map_eq_some_iff.mp hN.2
          rw [if_pos hN, if_pos hN]
          rw [if_pos hN.1, hRef] at hCapture
          rw [hRef, Option.map_some, Option.getD_some]
          have hSame : input.nearChain (nearCaptureKey ref.hashLock leg.contract) =
              input'.nearChain (nearCaptureKey ref.hashLock leg.contract) := hCapture _ rfl
          rw [hSame]
        · rw [if_neg hN, if_neg hN]
          by_cases hS : leg.accepted.rail = SOL_RAIL_ID ∧
              (parseSolRef leg.accepted.railRef).map (·.hashLock) = some leg.terms.statement
          · obtain ⟨ref, hRef, -⟩ := Option.map_eq_some_iff.mp hS.2
            rw [if_pos hS, if_pos hS]
            rw [if_neg (by rw [hS.1]; decide), if_pos hS.1, hRef] at hCapture
            rw [hRef, Option.map_some, Option.getD_some]
            have hSame : input.solChain (solCaptureKey ref.hashLock leg.contract) =
                input'.solChain (solCaptureKey ref.hashLock leg.contract) := hCapture _ rfl
            rw [hSame]
          · rw [if_neg hS, if_neg hS]

/-- A key that begins with a hash lock gives its contract away. -/
theorem contract_of_key {hash hash' c d : String} (hHash : NEAR_HASH_LOCK_SHAPE hash = true)
    (hHash' : NEAR_HASH_LOCK_SHAPE hash' = true)
    (h : hash ++ ":" ++ c = hash' ++ ":" ++ d) : c = d := by
  have hLen := (length_and_no_colon_of_hash hHash).1
  have hLen' := (length_and_no_colon_of_hash hHash').1
  have hList := congrArg (fun s : String => s.toList.drop 67) h
  simp only [String.toList_append] at hList
  rw [List.drop_left' (by simp [hLen]), List.drop_left' (by simp [hLen'])] at hList
  exact String.toList_inj.mp hList

theorem hash_of_parseNearRef {ref : String} {parts : NearRef}
    (h : parseNearRef ref = some parts) : NEAR_HASH_LOCK_SHAPE parts.hashLock = true :=
  (formatNearRef_eq_ok.mp (parseNearRef_eq_some.mp h)).1

theorem hash_of_parseSolRef {ref : String} {parts : SolRef} (h : parseSolRef ref = some parts) :
    NEAR_HASH_LOCK_SHAPE parts.hashLock = true := by
  unfold parseSolRef at h
  dsimp only at h
  split at h
  · rename_i hShape
    obtain rfl := Option.some.inj h
    rw [Bool.and_eq_true, Bool.and_eq_true] at hShape
    exact hShape.1.1
  · cases h

/-- Two contracts have one key only on a rail whose captures are kept by the ref. -/
theorem captureKey_inj {c d : String} {accepted accepted' : AcceptedLock} {key : CaptureKey}
    (h : captureKey c accepted = some key) (h' : captureKey d accepted' = some key) :
    c = d ∨ accepted.railRef = accepted'.railRef ∧
      (accepted.rail = EVM_RAIL_ID ∨ accepted.rail = BTC_RAIL_ID) := by
  unfold captureKey at h h'
  split_ifs at h with hE hB hN hS
  · obtain rfl := Option.some.inj h
    split_ifs at h' with hE' <;> simp at h'
    exact .inr ⟨h'.symm, .inl hE⟩
  · obtain rfl := Option.some.inj h
    split_ifs at h' with hE' hB' <;> simp at h'
    exact .inr ⟨h'.symm, .inr hB⟩
  · obtain ⟨ref, hRef, rfl⟩ := Option.map_eq_some_iff.mp h
    split_ifs at h' with hE' hB' hN' <;> simp at h'
    obtain ⟨ref', hRef', hKey⟩ := h'
    exact .inl (contract_of_key (hash_of_parseNearRef hRef') (hash_of_parseNearRef hRef) hKey).symm
  · obtain ⟨ref, hRef, rfl⟩ := Option.map_eq_some_iff.mp h
    split_ifs at h' with hE' hB' hN' hS' <;> simp at h'
    obtain ⟨ref', hRef', hKey⟩ := h'
    exact .inl (contract_of_key (hash_of_parseSolRef hRef') (hash_of_parseSolRef hRef) hKey).symm

-- ---------------------------------------------------------------------------
-- Isolation
-- ---------------------------------------------------------------------------

/-- A contract's evidence is the same for any two inputs that agree for it, whatever else
they hold; and another contract has the same capture key only when their locks name one
ref on a rail that keeps its captures by the ref. -/
theorem evidence_isolated {c : String} {input input' : FoldCapturedInput readers}
    (h : AgreeFor t c input input') :
    (evidenceByContract t input).get? c = (evidenceByContract t input').get? c ∧
      ∀ d accepted accepted' key, d ≠ c → captureKey c accepted = some key →
        captureKey d accepted' = some key →
          accepted.railRef = accepted'.railRef ∧
            (accepted.rail = EVM_RAIL_ID ∨ accepted.rail = BTC_RAIL_ID) := by
  constructor
  -- the candidate is the same, and so is its lock
  · rw [get?_evidenceByContract, get?_evidenceByContract, candidateOf_eq input'.offers,
      ← h.posts, ← candidateOf_eq]
    cases hCandidate : candidateOf t input.offers c with
    | none => rfl
    | some candidate =>
      have hContract := contract_of_candidateOf hCandidate
      have hAccepted : acceptedLockOf t input candidate = acceptedLockOf t input' candidate := by
        unfold acceptedLockOf
        rw [hContract, h.dealRoom]
      show legEvidence t input candidate = legEvidence t input' candidate
      unfold legEvidence
      rw [← hAccepted, hContract, h.dealRoom, h.nowMs]
      cases hLock : acceptedLockOf t input candidate with
      | none => rfl
      | some accepted =>
        refine railEvidence_congr h.note ?_ h.evm h.btc h.near h.sol
        intro key hKey
        -- the capture it reads is the one under its own key
        refine h.capture key ?_
        unfold ownKey
        rw [hCandidate, Option.bind_some, hLock]
        exact hKey
  -- two contracts share a key only with their ref, where the rail keys by it
  · intro d accepted accepted' key hne hKey hKey'
    rcases captureKey_inj hKey hKey' with hcd | hRef
    · exact absurd hcd.symm hne
    · exact hRef

/-! ## A shared hash lock

Two sellers accept one offer under one statement, so their contracts share the hash
lock. Both lock, and neither capture ran to completion. -/

namespace Replayed

def statement : String := "0x" ++ Rails.Sample.hash

def acceptOf (sender contract : String) : AcceptFrame :=
  ⟨⟨sender, Room.offerA.id, statement, none, "00"⟩, contract⟩

def frames : List (String × TclkFrame) :=
  [("offer", .offer Room.offerA), ("accept 1", .accept (acceptOf "seller" "c1")),
   ("accept 2", .accept (acceptOf "stranger" "c2"))]

/-- The library on these frames; a deal room that is not empty holds a lock of this ref. -/
def tclk (rail ref : String) : Tclk :=
  { Room.tclk with
    tryDecodeFrame := fun line => frames.lookup line
    contractId := fun _ core => some (if core.sender = "seller" then "c1" else "c2")
    foldTranscript := fun records =>
      match records.map fun record => frames.lookup record.line with
      | some (.offer offer) :: some (.accept accept) :: _ :: _ =>
        ⟨some ⟨offer, .locked, some accept.contract, some offer.sender, some accept.sender,
          some accept.statement, none, some rail, some ref⟩, [⟨3, 2, some "lock", true, none⟩]⟩
      | _ => ⟨none, []⟩ }

def offers : List TranscriptRecord :=
  [Room.post 1 "buyer" "offer", Room.post 2 "seller" "accept 1", Room.post 3 "stranger" "accept 2"]

/-- A rail whose captures all say why they did not complete, as its reader reports it. -/
def failed (railId label : String) : ChainRail where
  Config := Unit
  Pinned := Unit
  Accounts := Unit
  Capture := String
  check _ := .ok ()
  caip2 _ := "eip155:1"
  resolve _ _ := ()
  indexRef _ := ""
  evidence terms _ _ error := .ok
    ⟨{ rail := railId, ref := terms.statement, terms := terms, railVerified := none
       checkedAtMs := 10, finalizedRef := none, endpoint := none
       reason := some (label ++ ": chain read did not complete: " ++ error), raw := none }, none⟩

def failingReaders : Readers where
  paper := ⟨fun _ => none, fun _ _ _ => false, fun bytes => bytes⟩
  evm := failed EVM_RAIL_ID "evm-htlc"
  btc := failed BTC_RAIL_ID "btc-htlc"
  near := nearRail Rails.Sample.runtime fun _ _ => ⟨none, none, none, none⟩
  sol := failed SOL_RAIL_ID "sol-htlc"

def nearCapture (error : String) : NearCapture := { Rails.Sample.lockCapture with error := some error }

def input : FoldCapturedInput failingReaders where
  offers := offers
  dealRooms _ := some [Room.post 3 "buyer" "lock"]
  notes _ := none
  chain := fun key => if key = statement then some "timeout" else none
  btcChain _ := none
  nearChain := fun key =>
    if key = nearCaptureKey statement "c1" then some (nearCapture "timeout")
    else if key = nearCaptureKey statement "c2" then some (nearCapture "refused") else none
  solChain _ := none
  evm := some ()
  btc := none
  near := some Rails.Sample.lockCapture.config
  sol := none
  nowMs := 100

def nearTclk : Tclk := tclk NEAR_RAIL_ID Rails.Sample.ref

/-- Without the other contract's capture and its deal room. -/
def alone : FoldCapturedInput failingReaders :=
  { input.dropCapture (.near (nearCaptureKey statement "c2")) with
    dealRooms := fun room => if room = "mb-p-tclk-c2" then none else input.dealRooms room }

example : ((evidenceByContract nearTclk input).get? "c2").isSome = true := by decide

end Replayed

set_option maxRecDepth 4000 in
theorem evidence_isolated_sample :
    ((evidenceByContract Replayed.nearTclk Replayed.input).get? "c1").isSome = true ∧
      (evidenceByContract Replayed.nearTclk Replayed.input).get? "c1" =
        (evidenceByContract Replayed.nearTclk Replayed.alone).get? "c1" := by
  have hOwn : ownKey Replayed.nearTclk Replayed.input "c1" =
      some (.near (nearCaptureKey Replayed.statement "c1")) := by decide
  have hne : nearCaptureKey Replayed.statement "c1" ≠ nearCaptureKey Replayed.statement "c2" := by
    decide
  have hRoom : Replayed.input.dealRooms (Replayed.nearTclk.dealRoom "c1") =
      Replayed.alone.dealRooms (Replayed.nearTclk.dealRoom "c1") := by decide
  have hAgree : AgreeFor Replayed.nearTclk "c1" Replayed.input Replayed.alone := by
    refine ⟨rfl, hRoom, rfl, ?_, rfl, rfl, rfl, rfl, rfl⟩
    intro key hKey
    obtain rfl := Option.some.inj (hOwn.symm.trans hKey)
    have hKept : Replayed.alone.nearChain (nearCaptureKey Replayed.statement "c1") =
        Replayed.input.nearChain (nearCaptureKey Replayed.statement "c1") := by
      simp [Replayed.alone, FoldCapturedInput.dropCapture, hne]
    exact hKept.symm
  exact ⟨by decide, (evidence_isolated hAgree).1⟩

/-- EVM captures are kept by the hash lock alone: without the capture of one contract the
other, which shares its hash lock, has no evidence. -/
theorem capture_shared_by_hash_lock : ¬ ∀ (t : Tclk) (readers : Readers)
    (input : FoldCapturedInput readers) (c d : String) (key : CaptureKey), c ≠ d →
      ownKey t input d = some key →
        (evidenceByContract t (input.dropCapture key)).get? c =
          (evidenceByContract t input).get? c := by
  intro h
  have hSame := h (Replayed.tclk EVM_RAIL_ID Replayed.statement) Replayed.failingReaders Replayed.input
    "c1" "c2" (.evm Replayed.statement) (by decide) (by decide)
  exact absurd (congrArg Option.isSome hSame) (by decide)

end SwapDesk.Desk
