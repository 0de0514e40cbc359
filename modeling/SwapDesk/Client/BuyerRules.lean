import SwapDesk.Client.BuyerWorld

/-!
# SwapDesk — what a Buyer may do, and when

What the record and the answers of the call must be like before each operation that the outside
can see. `Spec` says of a part of a call that it keeps to these rules and to the invariant, and how
it ends; the lemmas on it are one for each way to put a call together.
-/

namespace SwapDesk.Client.Buyer

open Check Desk Client.Flow

section

variable (deps : BuyerDeps) (rail : CounterAssetRail) (pairing : Pairing)

-- ---------------------------------------------------------------------------
-- Locks
-- ---------------------------------------------------------------------------

/-- Everything that is needed to find this lock again is on record. -/
structure WriteAhead (s : World) (prepared : PreparedLock) : Prop where
  usable : s.failed = false
  attempted : s.stored.state.lock.attempted = true
  prepared : s.stored.state.lock.prepared = some prepared
  hashLock : s.stored.state.lock.hashLock = some pairing.statement
  accounts : ∃ accounts, s.stored.state.lock.accounts = some accounts ∧
    accounts.payee.isSome = true ∧ accounts.payer.isSome = true

/-- The deadlines were good when the clock was read. -/
def DeadlinesAt (now : ℤ) : Prop := (lockDeadlines deps rail pairing now).ok = true

/-- The clocks of the chain and of this party were close. -/
def ClocksAgree (call : List Entry) : Prop :=
  rail.railId = SOL_RAIL_ID → ∃ chainMs localMs, ⟨.chainTimeMs, .ok chainMs⟩ ∈ call ∧
    ⟨.clock, .ok localMs⟩ ∈ call ∧ |chainMs - localMs| ≤ rail.maxChainClockSkewMs

/-- What was looked at in this call before a new action on the lock. -/
structure Guarded (call : List Entry) : Prop where
  deadlines : ∃ now, ⟨.clock, .ok now⟩ ∈ call ∧ DeadlinesAt deps rail pairing now
  offers : checkOffers deps rail pairing = .ok ()
  legB : ⟨.paperVerifyLock, .ok true⟩ ∈ call
  clocks : ClocksAgree rail call

/-- In this call the rail has said that the lock never landed, and a read has not found it. -/
def Dead (call : List Entry) (ref : String) : Prop :=
  (∃ prepared, prepared.ref = ref ∧ (⟨.recoverLock prepared, .ok .neverLanded⟩ ∈ call ∨
    ⟨.resendLock prepared, .ok .neverLanded⟩ ∈ call)) ∧
  ∃ accounts evidence, ⟨.verifyLockFinal ref accounts, .ok evidence⟩ ∈ call ∧ evidence.rail = none

/-- A lock may be sent: the first one, or again once it is dead. -/
structure MayLock (s : World) (prepared : PreparedLock) : Prop where
  ahead : WriteAhead pairing s prepared
  guarded : Guarded deps rail pairing s.call
  verified : s.live.legBVerified = true
  alone : locksSent s.past = [] ∨ Dead s.call prepared.ref

-- ---------------------------------------------------------------------------
-- Claims and refunds
-- ---------------------------------------------------------------------------

/-- In this call the lock on record, searched from the block on record, was found claimed with this
secret. -/
def Paid (live : Live) (call : List Entry) (secret : String) : Prop :=
  ∃ railRef, live.railRef = some railRef ∧
    ⟨.findClaimedPreimage railRef live.lockedFromBlock, .ok (some secret)⟩ ∈ call

/-- Leg B may be claimed with this secret. -/
structure MayClaim (s : World) (secret : String) : Prop where
  usable : s.failed = false
  intent : s.stored.state.legBClaimAttempted = true
  opens : deps.verifySecret pairing.termsB.lock pairing.termsB.statement secret = true
  paid : rail.railId = SOL_RAIL_ID → Paid (applyRecord s.stored) s.call secret

/-- A refund of leg A may be signed or sent. -/
structure MayRefund (s : World) (railRef : String) : Prop where
  usable : s.failed = false
  intent : s.stored.state.refund.attempted = true
  ref : (applyRecord s.stored).railRef = some railRef
  time : ∃ now, ⟨.clock, .ok now⟩ ∈ s.call ∧ pairing.offerA.refundAfterMs ≤ now
  unclaimed : s.stored.state.legBClaimed = false
  settled : s.stored.state.legBClaimAttempted = true → s.stored.state.legBClaimAdopted = true
  pending : rail.hasCheckPendingClaim = true →
    ⟨.checkPendingClaim railRef s.stored.state.lock.fromBlock, .ok none⟩ ∈ s.call
  landed : rail.hasLockAbsence = true → s.stored.state.lock.evidence.isSome = true
  verdict : s.stored.state.lock.neverLanded = false

/-- A read of this call has shown leg A neither refunded for good nor claimed. -/
def SeenOpen (call : List Entry) (ref : String) : Prop :=
  ∃ accounts evidence, ⟨.verifyLockFinal ref accounts, .ok evidence⟩ ∈ call ∧
    evidence.rail.any (fun rail => rail.status = .refunded ∧ rail.final = true) = false ∧
    evidence.rail.any (fun rail => rail.status = .claimed) = false

/-- A refund may be built: no other one that has a handle may still land, and if any was sent
before, leg A was looked at in this call. -/
structure Fresh (s : World) (railRef : String) : Prop where
  void : Void s.past
  looked : refundsSent s.past = [] ∨ SeenOpen s.call railRef

/-- The evidence reader has shown leg A refunded. -/
def SeenRefunded (call : List Entry) (ref : String) : Prop :=
  ∃ accounts evidence, ⟨.verifyLockFinal ref accounts, .ok evidence⟩ ∈ call ∧
    evidence.rail.any (fun rail => rail.status = .refunded ∧ rail.final = true) = true

-- ---------------------------------------------------------------------------
-- Lines
-- ---------------------------------------------------------------------------

/-- This is a ref of leg A's lock: that of the prepared lock, or of its evidence. -/
def Live.NamesLock (live : Live) (ref : String) : Prop :=
  live.railRef = some ref ∨ ∃ evidence, live.lockEvidence = some evidence ∧ evidence.ref = ref

/-- A line says what is on record. -/
def MayPost (s : World) : LedgerKind → Line → Prop
  | .lockA, line => s.stored.state.lock.evidence.isSome = true ∧
    (∃ now, ⟨.clock, .ok now⟩ ∈ s.call ∧ now < pairing.offerA.refundAfterMs) ∧
    ∃ ref, (applyRecord s.stored).NamesLock ref ∧
      line = .lock pairing.acceptA.contract rail.railId ref
  | .revealB, line =>
    (s.stored.state.legBClaimed = true ∨ s.stored.state.legBClaimAdopted = true) ∧
    ∃ secret, line = .reveal pairing.acceptB.contract pairing.acceptB.contract secret ∧
      deps.verifySecret pairing.termsB.lock pairing.termsB.statement secret = true
  | .receiptB, line =>
    (s.stored.state.legBClaimed = true ∨ s.stored.state.legBClaimAdopted = true) ∧
    line = .receipt pairing.acceptB.contract "claimed" "paper" pairing.acceptB.contract
  | .refundA, line => s.stored.state.refund.evidence.isSome = true ∧
    ∃ ref, (applyRecord s.stored).railRef = some ref ∧ SeenRefunded s.call ref ∧
      line = .refund pairing.acceptA.contract ref
  | .receiptRefundA, line => s.stored.state.refund.evidence.isSome = true ∧
    ∃ ref, (applyRecord s.stored).railRef = some ref ∧ SeenRefunded s.call ref ∧
      line = .receipt pairing.acceptA.contract "refunded" rail.railId ref
  | .accountA, line => s.stored.state.lock.attempted = false ∧ LedgerKind.lockA ∉ s.stored.entered ∧
    ∃ address text, line = .account text ∧
      s.stored.state.ownAccountLine = some ⟨address, text⟩
  | _, _ => False

/-- The rules. -/
def Guard (s : World) : Op → Prop
  | .approve => ∃ prepared, MayLock deps rail pairing s prepared
  | .sendLock prepared => MayLock deps rail pairing s prepared ∧ (rail.approves = true →
    ∃ now, s.call.getLast? = some ⟨.clock, .ok now⟩ ∧ DeadlinesAt deps rail pairing now)
  | .resendLock prepared => WriteAhead pairing s prepared ∧ Guarded deps rail pairing s.call ∧
    s.live.legBVerified = true ∧ ⟨.recoverLock prepared, .ok .unknown⟩ ∈ s.call
  | .paperClaim secret => MayClaim deps rail pairing s secret
  | .signRefund ref => MayRefund rail pairing s ref ∧ Fresh s ref
  | .sendRefund ref handle => MayRefund rail pairing s ref ∧ Fresh s ref ∧
    s.stored.state.refund.recovery = handle
  | .resendRefund ref handle => MayRefund rail pairing s ref ∧
    s.stored.state.refund.recovery = some handle ∧
    ⟨.recoverRefund ref handle, .ok .unknown⟩ ∈ s.call
  | .resendRefundIfDropped ref evidence => MayRefund rail pairing s ref ∧
    s.stored.state.refund.evidence = some evidence
  | .post kind line => MayPost deps rail pairing s kind line
  | .saveAccountLine _ => s.stored.state.ownAccountLine = none
  | _ => True

/-- A record is never taken back. -/
structure Keeps (s s' : World) : Prop where
  behind : Behind (applyRecord s.stored) (applyRecord s'.stored)
  accountLine : ∀ line, s.stored.state.ownAccountLine = some line →
    s'.stored.state.ownAccountLine = some line

/-- How a part of a call ends. -/
def Post {α : Type} (F : α → World → Prop) (E : Failure → World → Prop) :
    Except Failure α → World → Prop
  | .ok a, s => Inv rail pairing s ∧ F a s
  | .error e, s => Inv rail pairing s ∧ E e s

/-- A part of a call keeps to the rules and to the invariant, and ends as `F` and `E` say. -/
abbrev Ends {α : Type} (t : BuyerRoutine α) (F : α → World → Prop) (E : Failure → World → Prop)
    (s : World) : Prop :=
  Routine.Meets (fun s s₁ => s₁ = s) (Does rail)
    (fun o s _ s' => (Guard deps rail pairing s o ∧ Keeps s s') ∧ Inv rail pairing s')
    (Post rail pairing F E) t s

/-- An error leaves nothing that is not on record. -/
abbrev Spec {α : Type} (t : BuyerRoutine α) (F : α → World → Prop) (s : World) : Prop :=
  Ends deps rail pairing t F (fun _ => Synced) s

end

section

variable {deps : BuyerDeps} {rail : CounterAssetRail} {pairing : Pairing} {s s' : World}
  {α β : Type} {t : BuyerRoutine α} {f : α → BuyerRoutine β} {F : α → World → Prop}
  {F' : β → World → Prop} {E E' : Failure → World → Prop}

/-- A world keeps itself. -/
theorem Keeps.refl (s : World) : Keeps s s := ⟨.refl _, fun _ h => h⟩

/-- Keeping is transitive. -/
theorem Keeps.trans {s₁ : World} (h : Keeps s s₁) (h' : Keeps s₁ s') : Keeps s s' :=
  ⟨h.behind.trans h'.behind, fun line hLine => h'.accountLine line (h.accountLine line hLine)⟩

/-- The invariant survives whatever only lays more down on the record. -/
theorem Inv.keeps (h : Inv rail pairing s) (hLaid : Laid s s') : Keeps s s' := by
  obtain hSame | ⟨r, hr, hGrows⟩ := hLaid.stored
  · exact ⟨by rw [hSame]; exact .refl _, fun line hOld => by rw [hSame]; exact hOld⟩
  · refine ⟨?_, fun line hOld => by rw [hr]; exact hGrows.line line hOld⟩
    rw [hr, applyRecord_project h.live r]
    exact h.behind.trans (shown_behind _ _)

-- ---------------------------------------------------------------------------
-- Putting parts together
-- ---------------------------------------------------------------------------

/-- A value returned ends where it stands. -/
theorem spec_pure {a : α} (hInv : Inv rail pairing s) (h : F a s) :
    Ends deps rail pairing (pure a) F E s := .done ⟨hInv, h⟩

/-- A failure ends where it stands. -/
theorem spec_fail {e : Failure} (hInv : Inv rail pairing s) (h : E e s) :
    Ends deps rail pairing (.fail e : BuyerRoutine α) F E s := .fail ⟨hInv, h⟩

/-- Sequencing: the second part starts in every world the first can end in. -/
theorem Spec.bind (h : Ends deps rail pairing t F E s)
    (hf : ∀ a s', Inv rail pairing s' → F a s' → Ends deps rail pairing (f a) F' E s') :
    Ends deps rail pairing (t >>= f) F' E s := by
  refine Routine.Meets.bind (Routine.Meets.mono h ?_)
  intro x s' hPost
  cases x with
  | ok a => exact hf a s' hPost.1 hPost.2
  | error e => exact hPost

/-- The postcondition of a value may be weakened, with the invariant at hand. -/
theorem Spec.mono {F' : α → World → Prop} (h : Ends deps rail pairing t F E s)
    (hF : ∀ a s', Inv rail pairing s' → F a s' → F' a s') : Ends deps rail pairing t F' E s := by
  refine Routine.Meets.mono h ?_
  intro x s' hPost
  cases x with
  | ok a => exact ⟨hPost.1, hF a s' hPost.1 hPost.2⟩
  | error e => exact hPost

/-- Both postconditions may be weakened. -/
theorem Spec.imp {F' : α → World → Prop} {E' : Failure → World → Prop}
    (h : Ends deps rail pairing t F E s) (hF : ∀ a s', F a s' → F' a s')
    (hE : ∀ e s', E e s' → E' e s') : Ends deps rail pairing t F' E' s := by
  refine Routine.Meets.mono h ?_
  rintro (e | a) s' ⟨hInv, hEnd⟩
  · exact ⟨hInv, hE e s' hEnd⟩
  · exact ⟨hInv, hF a s' hEnd⟩

/-- A record is never taken back in any part of a call. -/
theorem Spec.keeps (h : Ends deps rail pairing t F E s) :
    Ends deps rail pairing t (fun a s' => Keeps s s' ∧ F a s') (fun e s' => Keeps s s' ∧ E e s')
      s := by
  refine Routine.Meets.mono (Routine.Meets.keeps h .refl (fun _ _ _ => .trans)
    fun _ _ _ _ hG => hG.1.2) ?_
  rintro (e | a) s' ⟨hKeeps, hInv, hEnd⟩
  · exact ⟨hInv, hKeeps, hEnd⟩
  · exact ⟨hInv, hKeeps, hEnd⟩

/-- A pure computation that may fail leaves the world as it is. -/
theorem spec_ofExcept {ε : Type} {x : Except ε α} {g : ε → Failure} (hInv : Inv rail pairing s)
    (hSynced : Synced s) (h : ∀ a, x = .ok a → F a s) :
    Spec deps rail pairing (Routine.ofExcept (x.mapError g)) F s := by
  cases x with
  | ok a => exact .done ⟨hInv, h a rfl⟩
  | error e => exact .fail ⟨hInv, hSynced⟩

/-- A requirement leaves the world as it is, and holds afterwards. -/
theorem spec_require {condition : Prop} [Decidable condition] {e : Failure}
    {F : Unit → World → Prop} (hInv : Inv rail pairing s) (hSynced : Synced s)
    (h : condition → F () s) :
    Spec deps rail pairing (Routine.ofExcept (require condition e)) F s := by
  unfold require
  split
  · rename_i hCondition
    exact .done ⟨hInv, h hCondition⟩
  · exact .fail ⟨hInv, hSynced⟩

/-- A check leaves the world as it is, and its condition holds afterwards. -/
theorem spec_check {condition : Prop} [Decidable condition] {message : String}
    {F : Unit → World → Prop} (hInv : Inv rail pairing s) (hSynced : Synced s)
    (h : condition → F () s) : Spec deps rail pairing (check condition message) F s :=
  spec_require hInv hSynced h

/-- A value that must be there is there afterwards. -/
theorem spec_found {value : Option α} {message : String} (hInv : Inv rail pairing s)
    (hSynced : Synced s) (h : ∀ a, value = some a → F a s) :
    Spec deps rail pairing (found value message) F s := by
  unfold found need
  cases value with
  | some a => exact .done ⟨hInv, h a rfl⟩
  | none => exact .fail ⟨hInv, hSynced⟩

/-- A conditional step runs or is left out. -/
theorem spec_whenever {condition : Bool} {t : BuyerRoutine Unit} {F : Unit → World → Prop}
    (hInv : Inv rail pairing s) (hThen : condition = true → Spec deps rail pairing t F s)
    (hElse : condition = false → F () s) : Spec deps rail pairing (whenever condition t) F s := by
  cases condition with
  | true => exact hThen rfl
  | false => exact .done ⟨hInv, hElse rfl⟩

-- ---------------------------------------------------------------------------
-- Operations
-- ---------------------------------------------------------------------------

/-- An operation is judged by every answer that the world may give to it. -/
theorem spec_ask {o : Op} {F : o.Value → World → Prop}
    (h : ∀ r s', Does rail o s r s' → (Guard deps rail pairing s o ∧ Keeps s s') ∧
      Post rail pairing F E r s') : Ends deps rail pairing (ask o) F E s := by
  refine Routine.Meets.bind (.call fun s₁ hSame r s' hDoes => ?_)
  obtain rfl := hSame
  obtain ⟨hAllowed, hPost⟩ := h r s' hDoes
  cases r with
  | ok a => exact ⟨⟨hAllowed, hPost.1⟩, .done hPost⟩
  | error e => exact ⟨⟨hAllowed, hPost.1⟩, .fail hPost⟩

/-- Something is read of the outside, or done outside that is no lock and no refund. -/
theorem spec_read {o : Op} {F : o.Value → World → Prop} (hRead : o.isRead = true)
    (hGuard : Guard deps rail pairing s o) (hInv : Inv rail pairing s) (hSynced : Synced s)
    (h : ∀ a, Answers rail o a → Inv rail pairing (s.note o (.ok a)) → F a (s.note o (.ok a))) :
    Spec deps rail pairing (ask o) F s := by
  refine spec_ask fun r s' hDoes => ?_
  obtain ⟨hAnswers, rfl⟩ := hDoes.outside (Op.isOutside_of_isRead hRead)
  refine ⟨⟨hGuard, ⟨.refl _, fun _ hLine => hLine⟩⟩, ?_⟩
  have hNoted := hInv.read hRead r
  cases r with
  | ok a => exact ⟨hNoted, h a (hAnswers a rfl) hNoted⟩
  | error e => exact ⟨hNoted, hSynced⟩

/-- Looking at the live state answers with it. -/
theorem spec_look {F : Live → World → Prop} (hInv : Inv rail pairing s) (h : F s.live s) :
    Spec deps rail pairing (ask .look) F s := by
  refine spec_ask fun r s' hDoes => ?_
  obtain ⟨rfl, rfl⟩ := hDoes
  exact ⟨⟨trivial, .refl _⟩, hInv, h⟩

/-- Reading the record answers with it. -/
theorem spec_record {F : Stored → World → Prop} (hInv : Inv rail pairing s) (h : F s.stored s) :
    Spec deps rail pairing (ask .record) F s := by
  refine spec_ask fun r s' hDoes => ?_
  obtain ⟨rfl, rfl⟩ := hDoes
  exact ⟨⟨trivial, .refl _⟩, hInv, h⟩

/-- A change of the live state only has to keep the invariant. -/
theorem spec_modify {change : Live → Live} {F : Unit → World → Prop}
    (hInv : Inv rail pairing { s with live := change s.live })
    (h : F () { s with live := change s.live }) :
    Spec deps rail pairing (ask (.modify change)) F s := by
  refine spec_ask fun r s' hDoes => ?_
  obtain ⟨rfl, rfl⟩ := hDoes
  exact ⟨⟨trivial, ⟨.refl _, fun _ hLine => hLine⟩⟩, hInv, h⟩

/-- A flow whose save was refused does nothing more. -/
theorem spec_usable {F : Unit → World → Prop} (hInv : Inv rail pairing s)
    (h : s.failed = false → F () s) : Spec deps rail pairing (ask .usable) F s := by
  refine spec_ask fun r s' hDoes => ?_
  obtain ⟨hUsable, rfl⟩ := hDoes
  refine ⟨⟨trivial, .refl _⟩, ?_⟩
  cases r with
  | ok a => exact ⟨hInv, h (hUsable.mp rfl)⟩
  | error e =>
    refine ⟨hInv, fun hFailed => ?_⟩
    cases hUsable.mpr hFailed

/-- The live fields are on record. -/
def World.saved (s : World) : World := { s with stored := project s.live s.stored }

/-- A save that is refused, or whose answer is lost, ends the flow's life. -/
theorem Writes.failed {next : Stored} {error : Failure} (h : Writes s next (.error error) s') :
    s'.failed = true := by
  cases h with
  | lost error hFailed => rfl
  | refused error hFailed => rfl
  | dead error hFailed => exact hFailed

/-- A flow whose record failed counts as synced: it can write nothing more. -/
theorem synced_of_failed (h : s.failed = true) : Synced s := by
  intro hFailed
  rw [h] at hFailed
  cases hFailed

/-- A persist either saves the live state or fails the flow. -/
theorem spec_persist {F : Unit → World → Prop} (hInv : Inv rail pairing s)
    (h : s.failed = false → Inv rail pairing s.saved → Synced s.saved → F () s.saved) :
    Spec deps rail pairing (ask .persist) F s := by
  refine spec_ask fun r s' hDoes => ?_
  have hLaid : Laid s s' := hDoes.laid (.refl _)
  refine ⟨⟨trivial, hInv.keeps hLaid⟩, ?_⟩
  cases r with
  | ok a =>
    cases hDoes with
    | saved hFailed =>
      exact ⟨hInv.laid hLaid, h hFailed (hInv.laid hLaid) (synced_project hInv.live rfl)⟩
  | error e => exact ⟨hInv.laid hLaid, synced_of_failed hDoes.failed⟩

/-- A change followed by a persist is one step of the record. -/
theorem spec_save {change : Live → Live} {F : Unit → World → Prop}
    (hInv : Inv rail pairing { s with live := change s.live })
    (h : s.failed = false → Inv rail pairing { s with live := change s.live }.saved →
      Synced { s with live := change s.live }.saved →
      F () { s with live := change s.live }.saved) :
    Spec deps rail pairing (save change) F s := by
  refine Spec.bind (F := fun _ s' => s' = { s with live := change s.live })
    (spec_modify hInv rfl) ?_
  rintro _ s' hInv' rfl
  exact spec_persist hInv' h

-- ---------------------------------------------------------------------------
-- Reads
-- ---------------------------------------------------------------------------

/-- Nothing has happened but answers. -/
structure Heard (s s' : World) : Prop where
  live : s'.live = s.live
  stored : s'.stored = s.stored
  failed : s'.failed = s.failed
  asked : ∀ entry ∈ s.call, entry ∈ s'.call

/-- Nothing has happened but reads. -/
structure Reads (s s' : World) : Prop extends Heard s s' where
  sent : locksSent s'.past = locksSent s.past
  refund : ∀ refund, refund ∈ outstanding s'.past → refund ∈ outstanding s.past
  refunded : refundsSent s'.past = refundsSent s.past

/-- Noting an answer changes neither the live state nor the record. -/
theorem heard_note {o : Op} (r : o.Answer) : Heard s (s.note o r) :=
  ⟨rfl, rfl, rfl, fun _ hEntry => List.mem_append_left _ hEntry⟩

/-- Hearing twice is hearing. -/
theorem Heard.trans {s₁ : World} (h : Heard s s₁) (h' : Heard s₁ s') : Heard s s' where
  live := h'.live.trans h.live
  stored := h'.stored.trans h.stored
  failed := h'.failed.trans h.failed
  asked entry hEntry := h'.asked entry (h.asked entry hEntry)

/-- A synced world stays synced while it only hears. -/
theorem Heard.synced (h : Heard s s') (hSynced : Synced s) : Synced s' := by
  intro hFailed
  rw [h.stored, h.live]
  exact hSynced (h.failed ▸ hFailed)

/-- A world reads nothing and stays. -/
theorem Reads.refl (s : World) : Reads s s :=
  ⟨⟨rfl, rfl, rfl, fun _ h => h⟩, rfl, fun _ h => h, rfl⟩

/-- Reading twice is reading. -/
theorem Reads.trans {s₁ : World} (h : Reads s s₁) (h' : Reads s₁ s') : Reads s s' where
  toHeard := h.toHeard.trans h'.toHeard
  sent := h'.sent.trans h.sent
  refund refund hOut := h.refund refund (h'.refund refund hOut)
  refunded := h'.refunded.trans h.refunded

/-- Noting the answer of a read is reading. -/
theorem reads_note {o : Op} (hRead : o.isRead = true) (r : o.Answer) : Reads s (s.note o r) where
  toHeard := heard_note r
  sent := by
    rw [note_past, locksSent_append, lockSent_read hRead, Option.toList_none, List.append_nil]
  refund refund hOut := by
    rw [note_past, outstanding_append] at hOut
    exact after_unsent (sendsRefund_read hRead) r hOut
  refunded := by
    rw [note_past, refundsSent_append, sendsRefund_read hRead, if_neg Bool.false_ne_true,
      List.append_nil]

/-- A synced world stays synced while it only reads. -/
theorem Reads.synced (h : Reads s s') (hSynced : Synced s) : Synced s' := h.toHeard.synced hSynced

/-- A lock seen open was seen open in every longer call. -/
theorem SeenOpen.mono {call call' : List Entry} {ref : String} (h : SeenOpen call ref)
    (hCall : ∀ entry ∈ call, entry ∈ call') : SeenOpen call' ref := by
  obtain ⟨accounts, evidence, hRead, hOpen⟩ := h
  exact ⟨accounts, evidence, hCall _ hRead, hOpen⟩

/-- What is fresh stays fresh while the flow only reads. -/
theorem Fresh.reads {ref : String} (h : Fresh s ref) (hReads : Reads s s') : Fresh s' ref where
  void refund hOut := h.void refund (hReads.refund refund hOut)
  looked := h.looked.imp (fun hNone => hReads.refunded.trans hNone) fun hOpen =>
    hOpen.mono hReads.asked

/-- An answer that is noted is in the call. -/
theorem mem_note {o : Op} (r : o.Answer) : ⟨o, r⟩ ∈ (s.note o r).call :=
  List.mem_append_right _ (List.mem_singleton.mpr rfl)

/-- A call goes on with what was read. -/
theorem spec_read_then {o : Op} {f : o.Value → BuyerRoutine β} (hRead : o.isRead = true)
    (hGuard : Guard deps rail pairing s o) (hInv : Inv rail pairing s) (hSynced : Synced s)
    (hf : ∀ a, Answers rail o a → Inv rail pairing (s.note o (.ok a)) →
      Synced (s.note o (.ok a)) → Spec deps rail pairing (f a) F' (s.note o (.ok a))) :
    Spec deps rail pairing (ask o >>= f) F' s := by
  refine Spec.bind (spec_read (F := fun a s' => Answers rail o a ∧ s' = s.note o (.ok a)) hRead
    hGuard hInv hSynced fun a hAnswers _ => ⟨hAnswers, rfl⟩) ?_
  rintro a s' hInv' ⟨hAnswers, rfl⟩
  exact hf a hAnswers hInv' hSynced

/-- Looking first only names the live state. -/
theorem spec_look_then {f : Live → BuyerRoutine β} (hInv : Inv rail pairing s)
    (hf : Spec deps rail pairing (f s.live) F' s) :
    Spec deps rail pairing (ask .look >>= f) F' s := by
  refine Spec.bind (spec_look (F := fun live s' => live = s.live ∧ s' = s) hInv ⟨rfl, rfl⟩) ?_
  rintro live s' hInv' ⟨rfl, rfl⟩
  exact hf

-- ---------------------------------------------------------------------------
-- Lines
-- ---------------------------------------------------------------------------

/-- Nothing has happened to the live fields, and the journal is alive. -/
structure Told (s s' : World) : Prop where
  live : s'.live = s.live
  failed : s'.failed = false
  synced : Synced s'
  asked : ∀ entry ∈ s.call, entry ∈ s'.call

/-- A write that succeeded leaves the flow usable. -/
theorem Writes.usable {next : Stored} (h : Writes s next (.ok ()) s') : s'.failed = false := by
  cases h with
  | saved hFailed => exact hFailed

/-- A posted account line stays on the record. -/
theorem Laid.accountLine (h : Laid s s') {line : OwnAccountLine}
    (hLine : s.stored.state.ownAccountLine = some line) :
    s'.stored.state.ownAccountLine = some line := by
  obtain hSame | ⟨r, hr, hGrows⟩ := h.stored
  · rwa [hSame]
  · rw [hr]
    exact hGrows.line line hLine

/-- A post that may be made keeps the invariant, however it ends. -/
theorem Inv.posted (h : Inv rail pairing s) {kind : LedgerKind} {line : Line}
    (hMay : MayPost deps rail pairing s kind line) {s₁ : World} {r : Except Failure Unit}
    (hLaid : Laid s s₁) : Inv rail pairing (s₁.note (.post kind line) r) := by
  refine (h.laid hLaid).noted (fun p hp => ?_) (fun handle hOut => .inl hOut)
    (fun hSends => absurd hSends Bool.false_ne_true) ?_
  · cases hp
  · intro text answer hPost
    obtain ⟨hOp, -⟩ := Entry.mk.inj hPost
    obtain ⟨rfl, rfl⟩ := Op.post.inj hOp
    obtain ⟨-, -, address, text', hLine, hOwn⟩ := hMay
    obtain rfl := Line.account.inj hLine
    exact ⟨address, hLaid.accountLine hOwn⟩

/-- A line is posted when the rules allow it, and the live fields stay as they are. -/
theorem spec_ensurePosted {kind : LedgerKind} {line : Line} {guard : BuyerRoutine Unit}
    (hInv : Inv rail pairing s) (hSynced : Synced s) (hFailed : s.failed = false)
    (hGuard : Spec deps rail pairing guard
      (fun _ s' => Reads s s' ∧ MayPost deps rail pairing s' kind line) s) :
    Spec deps rail pairing (ensurePosted kind line guard) (fun _ s' => Told s s') s := by
  -- the line is looked up first, and marked where it has landed
  refine Spec.bind (F := fun there s' => Told s s' ∧ (there = false → s' = s)) ?_ ?_
  · refine spec_ask fun r s' hDoes => ?_
    have hLaid : Laid s s' := hDoes.laid
    refine ⟨⟨trivial, hInv.keeps hLaid⟩, ?_⟩
    have hAsked : ∀ entry ∈ s.call, entry ∈ s'.call := by
      rw [hLaid.call]
      exact fun _ h => h
    have hSynced' := hSynced.laid hInv hLaid
    cases hDoes with
    | landed _ _ =>
      exact ⟨hInv, ⟨rfl, hFailed, hSynced, hAsked⟩, fun h => absurd h.symm Bool.false_ne_true⟩
    | found hWrites =>
      exact ⟨hInv.laid hLaid, ⟨hLaid.live, hWrites.usable, hSynced', hAsked⟩,
        fun h => absurd h.symm Bool.false_ne_true⟩
    | absent _ _ => exact ⟨hInv, ⟨rfl, hFailed, hSynced, hAsked⟩, fun _ => rfl⟩
    | unread error => exact ⟨hInv, hSynced⟩
    | unmarked error hWrites => exact ⟨hInv.laid hLaid, hSynced'⟩
  -- a line that is not there is posted, after its guard
  · rintro there s' hInv' ⟨hTold, hThere⟩
    refine spec_whenever hInv' (fun hNot => ?_) fun _ => hTold
    obtain rfl := hThere (by simpa using hNot)
    refine Spec.bind hGuard ?_
    rintro _ s₁ hInv₁ ⟨hReads, hMay⟩
    refine spec_ask fun r s' hDoes => ?_
    obtain ⟨s₂, hPosts, rfl⟩ := hDoes
    have hLaid := hPosts.laid
    have hInv₂ := hInv₁.posted hMay (r := r) hLaid
    have hSynced₂ : Synced s₂ := (hReads.synced hSynced).laid hInv₁ hLaid
    have hKeeps := hInv₁.keeps hLaid
    -- the rule of the line was checked in the world that the post began in
    refine ⟨⟨hMay, hKeeps.behind, hKeeps.accountLine⟩, ?_⟩
    cases r with
    | error error => exact ⟨hInv₂, hSynced₂⟩
    | ok a =>
      refine ⟨hInv₂, ?_, ?_, hSynced₂, ?_⟩
      · exact hLaid.live.trans hReads.live
      · cases hPosts with
        | posted _ hWrites => exact hWrites.usable
      · intro entry hEntry
        refine List.mem_append_left _ ?_
        rw [hLaid.call]
        exact hReads.asked entry hEntry

-- ---------------------------------------------------------------------------
-- Errors
-- ---------------------------------------------------------------------------

/-- A handler takes over in every world the first part can fail in. -/
theorem Spec.orElse {handler : Failure → BuyerRoutine α} (h : Ends deps rail pairing t F E s)
    (hHandler : ∀ e s', Inv rail pairing s' → E e s' →
      Ends deps rail pairing (handler e) F E' s') :
    Ends deps rail pairing (t.orElse handler) F E' s := by
  refine Routine.Meets.orElse (Routine.Meets.mono h ?_)
  intro x s' hPost
  cases x with
  | ok a => exact hPost
  | error e => exact hHandler e s' hPost.1 hPost.2

/-- A change of the live fields that leaves alone what the invariant is about. -/
theorem Inv.touch {new : Live} (h : Inv rail pairing s) (hRecorded : Recorded rail pairing new)
    (hBehind : Behind s.live new) (hRefund : new.refundRecovery = s.live.refundRecovery) :
    Inv rail pairing { s with live := new } :=
  h.modify hRecorded hBehind (fun handle hOut => hRefund.trans (h.refund handle hOut).2)
    (hRefund ▸ h.handle)

-- ---------------------------------------------------------------------------
-- Exchanges
-- ---------------------------------------------------------------------------

/-- Nothing has happened but that exchanges were kept, which no record has. -/
structure Kept (s s' : World) : Prop where
  live : ∃ exchanges, s'.live = { s.live with writeExchanges := exchanges }
  stored : s'.stored = s.stored
  failed : s'.failed = s.failed

/-- A synced world stays synced while exchanges are kept. -/
theorem Kept.synced (h : Kept s s') (hSynced : Synced s) : Synced s' := by
  obtain ⟨⟨exchanges, hLive⟩, hStored, hFailed⟩ := h
  intro hUsable
  rw [hStored, hLive]
  exact hSynced (hFailed.symm.trans hUsable)

/-- Keeping the exchanges changes nothing that the rules speak of. -/
theorem spec_keepExchanges (hInv : Inv rail pairing s) :
    Ends deps rail pairing keepExchanges (fun _ s' => Kept s s') E s := by
  refine Spec.bind (F := fun _ s' => Heard s s') (spec_ask fun r s' hDoes => ?_) ?_
  · -- the list is the rail's own, and is always there
    obtain ⟨⟨exchanges, rfl⟩, rfl⟩ := hDoes
    exact ⟨⟨trivial, .refl _, fun _ hLine => hLine⟩, hInv.read rfl _, heard_note _⟩
  · intro exchanges s₁ hInv₁ hHeard
    refine spec_ask fun r s' hDoes => ?_
    obtain ⟨rfl, rfl⟩ := hDoes
    have hRecorded := hInv₁.live
    refine ⟨⟨trivial, .refl _, fun _ hLine => hLine⟩, ?_,
      ⟨s.live.writeExchanges ++ exchanges, ?_⟩, hHeard.stored, hHeard.failed⟩
    · exact hInv₁.touch ⟨hRecorded.attempted, hRecorded.untouched, hRecorded.refundless,
        hRecorded.landed⟩ { Behind.refl s₁.live with } rfl
    · rw [← hHeard.live]

end

end SwapDesk.Client.Buyer
