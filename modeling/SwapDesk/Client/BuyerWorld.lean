import SwapDesk.Client.BuyerSettle
import SwapDesk.Lib.Serving

/-!
# SwapDesk — the runs of a Buyer's flow

What the operations of a flow's calls do: to its fields, to its record, and nothing else. What the
rail, the paper rail, the venue and the clock answer is free, but for a few things that a rail is
documented not to do. A process may die between any two operations, and a new one resumes the flow
from its record.

The invariant of these runs is `Inv`: a record is never ahead of the live fields, and accounts for
every transaction that was sent.
-/

namespace SwapDesk.Client.Buyer

open Check Desk Client.Flow

-- ---------------------------------------------------------------------------
-- The state of a flow
-- ---------------------------------------------------------------------------

/-- An operation that was answered. -/
structure Entry where
  op : Op
  answer : op.Answer

structure World where
  live : Live
  /-- A save was refused. -/
  failed : Bool
  stored : Stored
  /-- What was asked in this call, in order. -/
  call : List Entry
  /-- What was asked in all calls, of all processes. -/
  past : List Entry

def World.note (s : World) (o : Op) (r : o.Answer) : World :=
  { s with call := s.call ++ [⟨o, r⟩], past := s.past ++ [⟨o, r⟩] }

section

variable {s : World} {o : Op} {r : o.Answer}

@[simp] theorem note_live : (s.note o r).live = s.live := rfl
@[simp] theorem note_failed : (s.note o r).failed = s.failed := rfl
@[simp] theorem note_stored : (s.note o r).stored = s.stored := rfl
@[simp] theorem note_call : (s.note o r).call = s.call ++ [⟨o, r⟩] := rfl
@[simp] theorem note_past : (s.note o r).past = s.past ++ [⟨o, r⟩] := rfl

end

-- ---------------------------------------------------------------------------
-- Saves and posts
-- ---------------------------------------------------------------------------

/-- A record is to be made durable. A journal that has failed saves no more. -/
inductive Writes (s : World) (next : Stored) : Except Failure Unit → World → Prop
  | saved : s.failed = false → Writes s next (.ok ()) { s with stored := next }
  /-- It is saved, and the answer is lost. -/
  | lost (error : Failure) :
      s.failed = false → Writes s next (.error error) { s with stored := next, failed := true }
  | refused (error : Failure) :
      s.failed = false → Writes s next (.error error) { s with failed := true }
  | dead (error : Failure) : s.failed = true → Writes s next (.error error) s

def Stored.enter (r : Stored) (kind : LedgerKind) : Stored :=
  { r with entered := kind :: r.entered }

def Stored.land (r : Stored) (kind : LedgerKind) : Stored :=
  { r.enter kind with landed := kind :: r.landed }

/-- `ensurePosted`, up to the point where the line must be posted. -/
inductive Adopts (s : World) (kind : LedgerKind) : Except Failure Bool → World → Prop
  | landed : s.failed = false → kind ∈ s.stored.landed → Adopts s kind (.ok true) s
  | found {s' : World} :
      Writes s (project s.live (s.stored.land kind)) (.ok ()) s' → Adopts s kind (.ok true) s'
  | absent : s.failed = false → kind ∉ s.stored.landed → Adopts s kind (.ok false) s
  | unread (error : Failure) : Adopts s kind (.error error) s
  | unmarked (error : Failure) {s' : World} :
      Writes s (project s.live (s.stored.land kind)) (.error error) s' →
      Adopts s kind (.error error) s'

/-- The intent of a line is saved, if it was not before. -/
inductive Intends (s : World) (kind : LedgerKind) : Except Failure Unit → World → Prop
  | before : s.failed = false → kind ∈ s.stored.entered → Intends s kind (.ok ()) s
  | saves {r : Except Failure Unit} {s' : World} :
      Writes s (project s.live (s.stored.enter kind)) r s' → Intends s kind r s'

/-- The rest of `ensurePosted`. -/
inductive Posts (s : World) (kind : LedgerKind) : Except Failure Unit → World → Prop
  | posted {s₁ s' : World} : Intends s kind (.ok ()) s₁ →
      Writes s₁ (project s₁.live (s₁.stored.land kind)) (.ok ()) s' → Posts s kind (.ok ()) s'
  | unsaved (error : Failure) {s' : World} :
      Intends s kind (.error error) s' → Posts s kind (.error error) s'
  /-- The venue refused the line, or its answer was lost. -/
  | unanswered (error : Failure) {s' : World} :
      Intends s kind (.ok ()) s' → Posts s kind (.error error) s'
  | unmarked (error : Failure) {s₁ s' : World} : Intends s kind (.ok ()) s₁ →
      Writes s₁ (project s₁.live (s₁.stored.land kind)) (.error error) s' →
      Posts s kind (.error error) s'

-- ---------------------------------------------------------------------------
-- Operations
-- ---------------------------------------------------------------------------

/-- What a rail is documented not to answer. -/
def Answers (rail : CounterAssetRail) : (o : Op) → o.Value → Prop
  | .resendLock _, outcome => outcome ≠ .unknown
  | .resendRefund .., outcome => outcome ≠ .unknown
  | .signRefund _, handle => handle.isSome = true → rail.hasRecoverRefund = true
  | _, _ => True

def Does (rail : CounterAssetRail) : (o : Op) → World → o.Answer → World → Prop
  | .look, s, r, s' => r = .ok s.live ∧ s' = s
  | .modify change, s, r, s' => r = .ok () ∧ s' = { s with live := change s.live }
  | .usable, s, r, s' => (r = .ok () ↔ s.failed = false) ∧ s' = s
  | .record, s, r, s' => r = .ok s.stored ∧ s' = s
  | .persist, s, r, s' => Writes s (project s.live s.stored) r s'
  | .saveAccountLine line, s, r, s' =>
    Writes s (project s.live
      { s.stored with state := { s.stored.state with ownAccountLine := some line } }) r s'
  | .adopt kind _, s, r, s' => Adopts s kind r s'
  | .post kind line, s, r, s' => ∃ s₁, Posts s kind r s₁ ∧ s' = s₁.note (.post kind line) r
  | .clock, s, r, s' => (∃ now, r = .ok now) ∧ s' = s.note .clock r
  | .newExchanges, s, r, s' => (∃ exchanges, r = .ok exchanges) ∧ s' = s.note .newExchanges r
  | o, s, r, s' => (∀ value, r = .ok value → Answers rail o value) ∧ s' = s.note o r

/-- The operations that the outside answers: all but those on the flow itself. -/
def Op.isOutside : Op → Bool
  | .look | .modify _ | .usable | .record | .persist | .saveAccountLine _ | .adopt .. | .post .. =>
    false
  | _ => true

/-- What is asked outside is answered by its rail, and only the answer is noted. -/
theorem Does.outside {rail : CounterAssetRail} {o : Op} (hOutside : o.isOutside = true)
    {s s' : World} {r : o.Answer} (h : Does rail o s r s') :
    (∀ value, r = .ok value → Answers rail o value) ∧ s' = s.note o r := by
  cases o with
  | look | modify | usable | record | persist | saveAccountLine | adopt | post => cases hOutside
  | clock | newExchanges => exact ⟨fun _ _ => trivial, h.2⟩
  | _ => exact h

-- ---------------------------------------------------------------------------
-- Processes
-- ---------------------------------------------------------------------------

/-- The record of a flow that `acceptLegB` has just paired. -/
structure Blank (r : Stored) : Prop where
  legBVerified : r.state.legBVerified = false
  ownAccountLine : r.state.ownAccountLine = none
  lock : r.state.lock = ⟨false, none, none, none, none, none, false, false⟩
  legBClaimAttempted : r.state.legBClaimAttempted = false
  legBClaimed : r.state.legBClaimed = false
  legBClaimAdopted : r.state.legBClaimAdopted = false
  refund : r.state.refund = ⟨false, none, none, false, false⟩
  refundNotes : r.state.refundNotes = []
  entered : ∀ kind ∈ r.entered, kind ∈ [LedgerKind.offerA, .acceptB]
  landed : ∀ kind, kind ∈ r.landed ↔ kind ∈ [LedgerKind.offerA, .acceptB]

/-- A flow with these lines in its ledger has a pairing when it is resumed. -/
def Stored.paired (r : Stored) : Bool := r.isLanded .offerA && r.isLanded .acceptB

/-- `resume`: the live fields are those of the record. It is refused when a lock was attempted and
accept B never landed, or when it has another hash lock. The frames, which no call after the pairing
touches, are those of the pairing. -/
def resume (pairing : Pairing) (s : World) : Option World :=
  if s.stored.state.lock.attempted && !s.stored.isLanded .acceptB then none
  else if s.stored.state.lock.hashLock.all (· = pairing.statement) then
    some { s with live := applyRecord s.stored, failed := false, call := [] }
  else none

def flow (deps : BuyerDeps) (rail : CounterAssetRail) (pairing : Pairing) :
    Serving Op.Answer Failure World Call where
  program := program deps rail pairing
  act := Does rail
  init s := Blank s.stored ∧ s.live = applyRecord s.stored ∧ s.failed = false ∧ s.call = [] ∧
    s.past = []
  begin s := { s with call := [] }
  restart := resume pairing

-- ---------------------------------------------------------------------------
-- What is laid down
-- ---------------------------------------------------------------------------

/-- The transactions that may have funded leg A's lock. -/
def Entry.lockSent : Entry → Option PreparedLock
  | ⟨.sendLock prepared, _⟩ => some prepared
  | ⟨.resendLock prepared, _⟩ => some prepared
  | _ => none

def locksSent (past : List Entry) : List PreparedLock := past.filterMap Entry.lockSent

/-- The refunds whose fate is open, after one more answer, by their handles. Of one that was sent
without a handle nothing is ever learnt. -/
def Entry.after (before : List (Option LockRecovery)) : Entry → List (Option LockRecovery)
  | ⟨.sendRefund _ (some handle), .ok (.notBroadcast _)⟩ => before.filter (· ≠ some handle)
  | ⟨.sendRefund _ none, .ok (.notBroadcast _)⟩ => before
  | ⟨.sendRefund _ signed, _⟩ => signed :: before
  | ⟨.recoverRefund _ handle, .ok .neverLanded⟩ => before.filter (· ≠ some handle)
  | ⟨.recoverRefund _ handle, .error (.landedAndFailed _)⟩ => before.filter (· ≠ some handle)
  | ⟨.resendRefund _ handle, .ok .neverLanded⟩ => before.filter (· ≠ some handle)
  | ⟨.resendRefund _ handle, .error (.landedAndFailed _)⟩ => before.filter (· ≠ some handle)
  | ⟨.resendRefund _ handle, _⟩ => some handle :: before
  | _ => before

/-- The refunds that were sent, or may have been, and are not known to be void. -/
def outstanding (past : List Entry) : List (Option LockRecovery) := past.foldl Entry.after []

/-- No refund that has a handle may still land. -/
def Void (past : List Entry) : Prop := ∀ refund ∈ outstanding past, refund = none

def Op.sendsRefund : Op → Bool
  | .sendRefund .. | .resendRefund .. => true
  | _ => false

/-- The times that a refund was handed to the network, or may have been. -/
def refundsSent (past : List Entry) : List Entry := past.filter (·.op.sendsRefund)

/-- What is known of the lock is recorded with the attempt, all at once; where the rail can tell a
lock that never landed, nothing is refunded that was not seen locked. -/
structure Recorded (rail : CounterAssetRail) (pairing : Pairing) (live : Live) : Prop where
  attempted : live.legALockAttempted = true → ∃ prepared accounts,
    live.preparedLock = some prepared ∧ live.lockedRailRef = some prepared.ref ∧
      live.lockedHashLock = some pairing.statement ∧ live.lockedAccounts = some accounts ∧
      accounts.payee.isSome = true ∧ accounts.payer.isSome = true
  untouched : live.legALockAttempted = false → live.preparedLock = none ∧
    live.lockedRailRef = none ∧ live.lockedHashLock = none ∧ live.lockedAccounts = none ∧
      live.lockEvidence = none ∧ live.refundAttempted = false
  refundless : live.refundAttempted = false →
    live.refundRecovery = none ∧ live.legARefundEvidence = none
  landed : rail.hasLockAbsence = true → live.legARefundEvidence.isSome = true →
    live.lockEvidence.isSome = true

/-- Nothing that `old` has is taken back in `new`. -/
structure Behind (old new : Live) : Prop where
  verified : old.legBVerified = true → new.legBVerified = true
  attempted : old.legALockAttempted = true → new.legALockAttempted = true
  prepared : ∀ p, old.preparedLock = some p → ∃ q, new.preparedLock = some q ∧ q.ref = p.ref
  accounts : ∀ accounts, old.lockedAccounts = some accounts → new.lockedAccounts = some accounts
  evidence : old.lockEvidence.isSome = true → new.lockEvidence.isSome = true
  neverLanded : old.lockNeverLanded = true → new.lockNeverLanded = true
  claimed : old.legBClaimed = true → new.legBClaimed = true
  adopted : old.legBClaimAdopted = true → new.legBClaimAdopted = true
  refundAttempted : old.refundAttempted = true → new.refundAttempted = true
  refunded : old.legARefundEvidence.isSome = true → new.legARefundEvidence.isSome = true

/-- The invariant of every run. -/
structure Inv (rail : CounterAssetRail) (pairing : Pairing) (s : World) : Prop where
  live : Recorded rail pairing s.live
  stored : Recorded rail pairing (applyRecord s.stored)
  behind : Behind (applyRecord s.stored) s.live
  locks : ∀ p ∈ locksSent s.past, ∃ q, s.stored.state.lock.prepared = some q ∧ q.ref = p.ref
  refund : ∀ handle, some handle ∈ outstanding s.past →
    s.stored.state.refund.recovery = some handle ∧ s.live.refundRecovery = some handle
  sent : refundsSent s.past = [] ∨ s.stored.state.refund.attempted = true
  handle : s.live.refundRecovery.isSome = true → rail.hasRecoverRefund = true
  handleStored : s.stored.state.refund.recovery.isSome = true → rail.hasRecoverRefund = true
  accountLine : ∀ text r, ⟨.post .accountA (.account text), r⟩ ∈ s.past →
    ∃ address, s.stored.state.ownAccountLine = some ⟨address, text⟩
  paired : s.stored.paired = true

section

variable {rail : CounterAssetRail} {pairing : Pairing} {s s' : World} {old new newer : Live}

/-- A live state is behind itself. -/
theorem Behind.refl (live : Live) : Behind live live :=
  ⟨id, id, fun p hp => ⟨p, hp, rfl⟩, fun _ h => h, id, id, id, id, id, id⟩

/-- Being behind is transitive. -/
theorem Behind.trans (h : Behind old new) (h' : Behind new newer) : Behind old newer where
  verified hOld := h'.verified (h.verified hOld)
  attempted hOld := h'.attempted (h.attempted hOld)
  prepared p hp := by
    obtain ⟨q, hq, hRef⟩ := h.prepared p hp
    obtain ⟨q', hq', hRef'⟩ := h'.prepared q hq
    exact ⟨q', hq', hRef'.trans hRef⟩
  accounts accounts hOld := h'.accounts accounts (h.accounts accounts hOld)
  evidence hOld := h'.evidence (h.evidence hOld)
  neverLanded hOld := h'.neverLanded (h.neverLanded hOld)
  claimed hOld := h'.claimed (h.claimed hOld)
  adopted hOld := h'.adopted (h.adopted hOld)
  refundAttempted hOld := h'.refundAttempted (h.refundAttempted hOld)
  refunded hOld := h'.refunded (h.refunded hOld)

-- ---------------------------------------------------------------------------
-- A record of the live fields
-- ---------------------------------------------------------------------------

/-- The live fields as a record of them shows them: it has no exchanges. -/
def Live.shown (live : Live) (r : Stored) : Live :=
  { live with
    lockFramePosted := live.lockFramePosted || r.isLanded .lockA
    legARefundFramesPosted := live.legARefundFramesPosted || r.isLanded .receiptRefundA
    writeExchanges := [] }

/-- Between two calls the record has all that the live fields have, but for notes; a line that the
ledger has counts as posted. -/
def Synced (s : World) : Prop :=
  s.failed = false → applyRecord s.stored =
    { s.live.shown s.stored with refundNotes := s.stored.state.refundNotes }

/-- What was saved is what is read back. -/
theorem applyRecord_project (h : Recorded rail pairing new) (r : Stored) :
    applyRecord (project new r) = new.shown r := by
  have hRef : (new.preparedLock.map (·.ref)).or (new.lockEvidence.map (·.ref)) =
      new.lockedRailRef := by
    cases hAttempted : new.legALockAttempted with
    | true =>
      obtain ⟨p, _, hp, hRef, -⟩ := h.attempted hAttempted
      rw [hp, hRef]
      rfl
    | false =>
      obtain ⟨hp, hRef, -, -, hEvidence, -⟩ := h.untouched hAttempted
      rw [hp, hRef, hEvidence]
      rfl
  unfold applyRecord project Live.shown
  simp only [hRef, Stored.isLanded, Bool.or_assoc, Bool.or_self]

/-- A record that is read leaves the live state recorded. -/
theorem Recorded.shown (h : Recorded rail pairing new) (r : Stored) :
    Recorded rail pairing (new.shown r) :=
  ⟨h.attempted, h.untouched, h.refundless, h.landed⟩

/-- Showing a record takes nothing from the live state. -/
theorem behind_shown (live : Live) (r : Stored) : Behind (live.shown r) live :=
  ⟨id, id, fun p hp => ⟨p, hp, rfl⟩, fun _ h => h, id, id, id, id, id, id⟩

/-- Showing a record adds nothing that the rules speak of. -/
theorem shown_behind (live : Live) (r : Stored) : Behind live (live.shown r) :=
  ⟨id, id, fun p hp => ⟨p, hp, rfl⟩, fun _ h => h, id, id, id, id, id, id⟩

-- ---------------------------------------------------------------------------
-- What an operation does to the invariant
-- ---------------------------------------------------------------------------

/-- What a record has besides the live fields is not taken back. -/
structure Grows (r r' : Stored) : Prop where
  line : ∀ line, r.state.ownAccountLine = some line → r'.state.ownAccountLine = some line
  landed : ∀ kind ∈ r.landed, kind ∈ r'.landed

/-- A record grows into itself. -/
theorem Grows.refl (r : Stored) : Grows r r := ⟨fun _ h => h, fun _ h => h⟩

/-- Growing is transitive. -/
theorem Grows.trans {r r' r'' : Stored} (h : Grows r r') (h' : Grows r' r'') : Grows r r'' :=
  ⟨fun line hLine => h'.line line (h.line line hLine),
    fun kind hKind => h'.landed kind (h.landed kind hKind)⟩

/-- A record grows by the entry of an intent. -/
theorem grows_enter (r : Stored) (kind : LedgerKind) : Grows r (r.enter kind) :=
  ⟨fun _ h => h, fun _ h => h⟩

/-- A record grows by the landing of an intent. -/
theorem grows_land (r : Stored) (kind : LedgerKind) : Grows r (r.land kind) :=
  ⟨fun _ h => h, fun _ h => List.mem_cons_of_mem _ h⟩

/-- A paired record stays paired while it grows. -/
theorem Grows.paired {r r' : Stored} (h : Grows r r') (hPaired : r.paired = true) :
    r'.paired = true := by
  simp only [Stored.paired, Stored.isLanded, Bool.and_eq_true, List.contains_iff_mem] at hPaired ⊢
  exact ⟨h.landed _ hPaired.1, h.landed _ hPaired.2⟩

/-- The live state was laid over a record, or not, and nothing else has changed. -/
structure Laid (s s' : World) : Prop where
  live : s'.live = s.live
  call : s'.call = s.call
  past : s'.past = s.past
  failed : s'.failed = false → s.failed = false
  stored : s'.stored = s.stored ∨ ∃ r, s'.stored = project s.live r ∧ Grows s.stored r

/-- A world lays itself down. -/
theorem Laid.refl (s : World) : Laid s s := ⟨rfl, rfl, rfl, id, .inl rfl⟩

/-- Laying down is transitive. -/
theorem Laid.trans {s₁ : World} (h : Laid s s₁) (h' : Laid s₁ s') : Laid s s' where
  live := h'.live.trans h.live
  call := h'.call.trans h.call
  past := h'.past.trans h.past
  failed hFailed := h.failed (h'.failed hFailed)
  stored := by
    obtain hSame | ⟨r, hr, hGrows⟩ := h'.stored
    · rw [hSame]
      exact h.stored
    · refine .inr ⟨r, by rw [hr, h.live], ?_⟩
      obtain hSame | ⟨r₁, hr₁, hGrows₁⟩ := h.stored
      · rwa [hSame] at hGrows
      · rw [hr₁] at hGrows
        exact hGrows₁.trans ⟨hGrows.line, hGrows.landed⟩

/-- A write of a record that has grown lays it down. -/
theorem Writes.laid {r : Stored} {answer : Except Failure Unit}
    (h : Writes s (project s.live r) answer s') (hGrows : Grows s.stored r) : Laid s s' := by
  cases h with
  | saved hFailed => exact ⟨rfl, rfl, rfl, id, .inr ⟨r, rfl, hGrows⟩⟩
  | lost error hFailed =>
    exact ⟨rfl, rfl, rfl, fun h => absurd h.symm Bool.false_ne_true, .inr ⟨r, rfl, hGrows⟩⟩
  | refused error hFailed =>
    exact ⟨rfl, rfl, rfl, fun h => absurd h.symm Bool.false_ne_true, .inl rfl⟩
  | dead error hFailed => exact .refl s

/-- Adopting a post lays it down. -/
theorem Adopts.laid {kind : LedgerKind} {answer : Except Failure Bool}
    (h : Adopts s kind answer s') : Laid s s' := by
  cases h with
  | landed hFailed hLanded => exact .refl s
  | found hWrites => exact hWrites.laid (grows_land _ _)
  | absent hFailed hLanded => exact .refl s
  | unread error => exact .refl s
  | unmarked error hWrites => exact hWrites.laid (grows_land _ _)

/-- Entering an intent lays it down. -/
theorem Intends.laid {kind : LedgerKind} {answer : Except Failure Unit}
    (h : Intends s kind answer s') : Laid s s' := by
  cases h with
  | before hFailed hEntered => exact .refl s
  | saves hWrites => exact hWrites.laid (grows_enter _ _)

/-- A landed post is laid down. -/
theorem Posts.laid {kind : LedgerKind} {answer : Except Failure Unit}
    (h : Posts s kind answer s') : Laid s s' := by
  cases h with
  | posted hIntends hWrites => exact hIntends.laid.trans (hWrites.laid (grows_land _ _))
  | unsaved error hIntends => exact hIntends.laid
  | unanswered error hIntends => exact hIntends.laid
  | unmarked error hIntends hWrites => exact hIntends.laid.trans (hWrites.laid (grows_land _ _))

/-- A record that the live fields were laid over has them. -/
theorem Inv.laid (h : Inv rail pairing s) (hLaid : Laid s s') : Inv rail pairing s' := by
  obtain ⟨hLive, -, hPast, -, hStored⟩ := hLaid
  obtain hSame | ⟨r, hr, hGrows⟩ := hStored
  -- the record stayed as it was
  · exact
      { live := by rw [hLive]; exact h.live
        stored := by rw [hSame]; exact h.stored
        behind := by rw [hSame, hLive]; exact h.behind
        locks := by rw [hSame, hPast]; exact h.locks
        refund := by rw [hSame, hLive, hPast]; exact h.refund
        sent := by rw [hSame, hPast]; exact h.sent
        handle := by rw [hLive]; exact h.handle
        handleStored := by rw [hSame]; exact h.handleStored
        accountLine := by rw [hSame, hPast]; exact h.accountLine
        paired := by rw [hSame]; exact h.paired }
  -- or the flow was projected into it, and the ledger grew
  · have hApply := applyRecord_project h.live r
    refine
      { live := by rw [hLive]; exact h.live
        stored := by rw [hr, hApply]; exact h.live.shown r
        behind := by rw [hr, hApply, hLive]; exact behind_shown _ _
        locks := ?_
        refund := ?_
        sent := ?_
        handle := by rw [hLive]; exact h.handle
        handleStored := by rw [hr]; exact h.handle
        accountLine := ?_
        paired := by rw [hr]; exact hGrows.paired h.paired }
    -- the lock on record still has the ref of every lock that was sent
    · rw [hPast, hr]
      intro p hp
      obtain ⟨q, hq, hRef⟩ := h.locks p hp
      obtain ⟨q', hq', hRef'⟩ := h.behind.prepared q hq
      exact ⟨q', hq', hRef'.trans hRef⟩
    -- a refund in flight is the one that the flow holds, and so the one that is recorded
    · rw [hPast, hr, hLive]
      exact fun handle hOut => ⟨(h.refund handle hOut).2, (h.refund handle hOut).2⟩
    -- an intent is never taken back
    · rw [hPast, hr]
      exact h.sent.imp_right h.behind.refundAttempted
    -- a line of the ledger stays in it
    · rw [hPast, hr]
      intro text answer hPost
      obtain ⟨address, hOld⟩ := h.accountLine text answer hPost
      exact ⟨address, hGrows.line _ hOld⟩

/-- The live state is synced once its projection is the record. -/
theorem synced_project (hRecorded : Recorded rail pairing s.live) {r : Stored}
    (hStored : s.stored = project s.live r) : Synced s := by
  intro _
  rw [hStored, applyRecord_project hRecorded]
  rfl

/-- A synced world stays synced while records are laid down. -/
theorem Synced.laid (h : Synced s) (hInv : Inv rail pairing s) (hLaid : Laid s s') : Synced s' := by
  obtain hSame | ⟨r, hr, -⟩ := hLaid.stored
  · intro hFailed
    rw [hSame, hLaid.live]
    exact h (hLaid.failed hFailed)
  · have hRecorded : Recorded rail pairing s'.live := by
      rw [hLaid.live]
      exact hInv.live
    exact synced_project hRecorded (by rw [hr, hLaid.live])

/-- A change of the live fields that takes nothing back. -/
theorem Inv.modify (h : Inv rail pairing s) (hRecorded : Recorded rail pairing new)
    (hBehind : Behind s.live new)
    (hRefund : ∀ handle, some handle ∈ outstanding s.past → new.refundRecovery = some handle)
    (hHandle : new.refundRecovery.isSome = true → rail.hasRecoverRefund = true) :
    Inv rail pairing { s with live := new } where
  live := hRecorded
  stored := h.stored
  behind := h.behind.trans hBehind
  locks := h.locks
  refund handle hOut := ⟨(h.refund handle hOut).1, hRefund handle hOut⟩
  sent := h.sent
  handle := hHandle
  handleStored := h.handleStored
  accountLine := h.accountLine
  paired := h.paired

/-- The refunds outstanding, one entry later. -/
theorem outstanding_append (past : List Entry) (entry : Entry) :
    outstanding (past ++ [entry]) = entry.after (outstanding past) := by
  unfold outstanding
  rw [List.foldl_append]
  rfl

/-- The locks sent, one entry later. -/
theorem locksSent_append (past : List Entry) (entry : Entry) :
    locksSent (past ++ [entry]) = locksSent past ++ entry.lockSent.toList := by
  unfold locksSent
  rw [List.filterMap_append]
  cases h : entry.lockSent <;> simp [h]

/-- The refunds sent, one entry later. -/
theorem refundsSent_append (past : List Entry) (entry : Entry) :
    refundsSent (past ++ [entry]) =
      refundsSent past ++ if entry.op.sendsRefund then [entry] else [] := by
  unfold refundsSent
  rw [List.filter_append, List.filter_singleton, Bool.cond_eq_ite]

/-- The operations that send nothing. -/
def Op.isRead : Op → Bool
  | .sendLock _ | .resendLock _ | .sendRefund .. | .resendRefund .. => false
  | o => o.isOutside

/-- A read is asked outside. -/
theorem Op.isOutside_of_isRead {o : Op} (h : o.isRead = true) : o.isOutside = true := by
  cases o <;> first | exact h | rfl

/-- A read sends no lock. -/
theorem lockSent_read {o : Op} (h : o.isRead = true) (r : o.Answer) :
    Entry.lockSent ⟨o, r⟩ = none := by
  cases o <;> first | rfl | cases h

/-- A read sends no refund. -/
theorem sendsRefund_read {o : Op} (h : o.isRead = true) : o.sendsRefund = false := by
  cases o <;> first | rfl | cases h

/-- A refund that is sent is outstanding, or void. -/
theorem of_sent {before : List (Option LockRecovery)} {ref : String}
    {signed other : Option LockRecovery} {r : Except Failure Sent}
    (h : other ∈ Entry.after before ⟨.sendRefund ref signed, r⟩) :
    other ∈ before ∨ signed = other := by
  have hSent (h : other ∈ signed :: before) : other ∈ before ∨ signed = other :=
    (List.mem_cons.mp h).symm.imp_right Eq.symm
  rcases r with error | sent
  · cases signed <;> exact hSent h
  · cases sent with
    | sent evidence => cases signed <;> exact hSent h
    | notBroadcast error =>
      cases signed with
      | none => exact .inl h
      | some handle => exact .inl (List.mem_of_mem_filter h)

/-- A refund that never was handed to the network is not outstanding for that. -/
theorem of_notBroadcast {before : List (Option LockRecovery)} {ref : String}
    {signed other : Option LockRecovery} {error : Failure}
    (h : other ∈ Entry.after before ⟨.sendRefund ref signed, .ok (.notBroadcast error)⟩) :
    other ∈ before := by
  cases signed with
  | none => exact h
  | some handle => exact List.mem_of_mem_filter h

/-- A refund that is sent again is outstanding, or void. -/
theorem of_resent {before : List (Option LockRecovery)} {ref : String} {handle : LockRecovery}
    {other : Option LockRecovery} {r : Except Failure LockRecoveryOutcome}
    (h : other ∈ Entry.after before ⟨.resendRefund ref handle, r⟩) :
    other ∈ before ∨ some handle = other := by
  have hSent (h : other ∈ some handle :: before) : other ∈ before ∨ some handle = other :=
    (List.mem_cons.mp h).symm.imp_right Eq.symm
  rcases r with error | outcome
  · cases error with
    | landedAndFailed message => exact .inl (List.mem_of_mem_filter h)
    | _ => exact hSent h
  · cases outcome with
    | neverLanded => exact .inl (List.mem_of_mem_filter h)
    | _ => exact hSent h

/-- An operation that sends no refund opens none. -/
theorem after_unsent {o : Op} (h : o.sendsRefund = false) (r : o.Answer)
    {before : List (Option LockRecovery)} {refund : Option LockRecovery}
    (hAfter : refund ∈ Entry.after before ⟨o, r⟩) : refund ∈ before := by
  cases o with
  | recoverRefund ref voided =>
    rcases r with error | outcome
    · cases error with
      | landedAndFailed message => exact List.mem_of_mem_filter hAfter
      | _ => exact hAfter
    · cases outcome with
      | neverLanded => exact List.mem_of_mem_filter hAfter
      | _ => exact hAfter
  | _ => first | exact hAfter | cases h

/-- A lock that was sent would be on record. -/
theorem Inv.nothingSent (h : Inv rail pairing s) (hAttempted : s.live.legALockAttempted = false) :
    locksSent s.past = [] := by
  refine List.eq_nil_iff_forall_not_mem.mpr fun p hp => ?_
  obtain ⟨q, hq, -⟩ := h.locks p hp
  obtain ⟨q', hq', -⟩ := h.behind.prepared q hq
  rw [(h.live.untouched hAttempted).1] at hq'
  cases hq'

/-- The record accounts for one more answer. -/
theorem Inv.noted (h : Inv rail pairing s) {o : Op} {r : o.Answer}
    (hLock : ∀ p, Entry.lockSent ⟨o, r⟩ = some p → s.stored.state.lock.prepared = some p)
    (hRefund : ∀ handle, some handle ∈ Entry.after (outstanding s.past) ⟨o, r⟩ →
      some handle ∈ outstanding s.past ∨
        s.stored.state.refund.recovery = some handle ∧ s.live.refundRecovery = some handle)
    (hSent : o.sendsRefund = true → s.stored.state.refund.attempted = true)
    (hLine : ∀ text answer, (⟨.post .accountA (.account text), answer⟩ : Entry) = ⟨o, r⟩ →
      ∃ address, s.stored.state.ownAccountLine = some ⟨address, text⟩) :
    Inv rail pairing (s.note o r) where
  live := h.live
  stored := h.stored
  behind := h.behind
  locks p hp := by
    rw [note_past, locksSent_append, List.mem_append, Option.mem_toList] at hp
    -- a lock that was sent before, or this one
    rcases hp with hp | hp
    · exact h.locks p hp
    · exact ⟨p, hLock p hp, rfl⟩
  refund handle hOut := by
    rw [note_past, outstanding_append] at hOut
    -- a refund that was in flight before, or this one
    exact (hRefund handle hOut).elim (h.refund handle) id
  sent := by
    rw [note_past, refundsSent_append, List.append_eq_nil_iff]
    cases hOp : o.sendsRefund with
    -- the first send of a refund needs the intent
    | true => exact .inr (hSent hOp)
    | false => exact h.sent.imp_left fun hNone => ⟨hNone, if_neg Bool.false_ne_true⟩
  handle := h.handle
  handleStored := h.handleStored
  accountLine text answer hPost := by
    rw [note_past, List.mem_append, List.mem_singleton] at hPost
    exact hPost.elim (h.accountLine text answer) (hLine text answer)
  paired := h.paired

/-- An operation that sends nothing leaves everything as it was. -/
theorem Inv.read (h : Inv rail pairing s) {o : Op} (hRead : o.isRead = true) (r : o.Answer) :
    Inv rail pairing (s.note o r) := by
  refine h.noted ?_ (fun handle hOut => .inl (after_unsent (sendsRefund_read hRead) r hOut)) ?_ ?_
  · intro p hp
    rw [lockSent_read hRead] at hp
    cases hp
  · rw [sendsRefund_read hRead]
    exact fun h => absurd h Bool.false_ne_true
  · intro text answer hPost
    obtain ⟨rfl, -⟩ := Entry.mk.inj hPost
    cases hRead

end

end SwapDesk.Client.Buyer
