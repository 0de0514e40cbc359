import Mathlib.Data.List.Chain
import SwapDesk.Client.Journal

/-!
# SwapDesk — a journal is never ahead of its store

Whatever calls are made on a journal, in whatever order its saves, reads and posts are
answered, and however the store answers.

Main result: `journal_never_ahead`. A save raises the revision of what it was handed, and that
is the next revision only when it was made from the record of the journal (`Journal.Fresh`): a
save of a record that was read before another save went through writes the same revision again
(`stale_save_repeats_revision`). Updates of the record that they are given are always fresh
(`Journal.freshRun_of_keepsRevision`).
-/

namespace SwapDesk.Client

open Check

namespace Journal

variable {β : Type} {deps : JournalDeps β} {j j' : Journal β} {e : Event β} {fx : List (Effect β)}

-- ---------------------------------------------------------------------------
-- What the bookkeeping leaves alone
-- ---------------------------------------------------------------------------

/-- The record, its digest, the failure and the save in flight. -/
structure SameSave (j j' : Journal β) : Prop where
  current : j'.current = j.current
  digest : j'.digest = j.digest
  failure : j'.failure = j.failure
  saving : j'.saving = j.saving

theorem SameSave.refl (j : Journal β) : SameSave j j := ⟨rfl, rfl, rfl, rfl⟩

theorem SameSave.trans {j j' j'' : Journal β} (h : SameSave j j') (h' : SameSave j' j'') :
    SameSave j j'' :=
  ⟨h'.current.trans h.current, h'.digest.trans h.digest, h'.failure.trans h.failure,
    h'.saving.trans h.saving⟩

/-- What happens to an attempt is nothing to the saves. -/
theorem sameSave_goTo (kind : LedgerKind) (attempt : Attempt) (phase : Phase) :
    SameSave j (j.goTo kind attempt phase) := ⟨rfl, rfl, rfl, rfl⟩

/-- Neither is the end of an update that another attempt waits for. -/
theorem sameSave_saved (owner : Option LedgerKind) (result : Except String Unit) :
    SameSave j (j.saved owner result) := by
  unfold saved
  split
  · exact .refl j
  · split
    · exact .refl j
    · split
      all_goals first | exact sameSave_goTo _ _ _ | exact .refl j

theorem sameSave_intend (kind : LedgerKind) (attempt : Attempt) :
    SameSave j (j.intend deps kind attempt) := ⟨rfl, rfl, rfl, rfl⟩

/-- Nor a mark that is queued. -/
theorem sameSave_mark (kind : LedgerKind) (attempt : Attempt) (record : TranscriptRecordJson)
    (ensureIntent : Bool) : SameSave j (j.mark deps kind attempt record ensureIntent) :=
  ⟨rfl, rfl, rfl, rfl⟩

end Journal

-- ---------------------------------------------------------------------------
-- What a step can do
-- ---------------------------------------------------------------------------

/-- A write to the store or a post. -/
def Effect.isOutward {β : Type} : Effect β → Bool
  | .save _ _ => true
  | .post _ => true
  | _ => false

def Effect.acked? {β : Type} : Effect β → Option (FlowRecord β × List UInt8)
  | .acknowledged next bytes => some (next, bytes)
  | _ => none

def Effect.isSave {β : Type} : Effect β → Bool
  | .save _ _ => true
  | _ => false

def Effect.isFailed {β : Type} : Effect β → Bool
  | .failed => true
  | _ => false

namespace Journal

variable {β : Type} {deps : JournalDeps β} {j j' : Journal β} {e : Event β} {fx : List (Effect β)}

/-- The four things that a step does to the save of a journal. -/
inductive Does (deps : JournalDeps β) (j : Journal β) (e : Event β) :
    Journal β → List (Effect β) → Prop
  /-- Nothing; a post only when the journal is usable. -/
  | keeps {j' : Journal β} {fx : List (Effect β)} : SameSave j j' →
      (∀ f ∈ fx, f.acked? = none ∧ f.isFailed = false ∧ f.isSave = false ∧
        (f.isOutward = true → j.failure = none)) → Does deps j e j' fx
  /-- The store is handed a save. -/
  | asks {clock : Int} {turn : Turn β} {rest : List (Turn β)} {derived projected : FlowRecord β}
      {bytes : List UInt8} : e = .turn clock → j.saving = none → j.failure = none →
      j.queue = turn :: rest → turn.derive j.current = .ok (some derived) →
      (j.projector.getD .ok) derived = .ok projected →
      Does deps j e
        { j with
          queue := rest
          saving := some ⟨if turn.create then projected else bumped projected clock, bytes,
            turn.owner⟩ }
        [.save bytes j.digest]
  /-- A save was refused, or is not possible. -/
  | fails {j' : Journal β} : j'.current = j.current → j'.digest = j.digest →
      j'.failure.isSome = true → j'.saving = none → Does deps j e j' [.failed]
  /-- The store has acknowledged the save. -/
  | acks {j' : Journal β} {saving : Saving β} : e = .stored (.ok ()) → j.saving = some saving →
      j'.current = saving.next → j'.digest = some (deps.flowDigest saving.bytes) →
      j'.failure = j.failure → j'.saving = none →
      Does deps j e j' [.acknowledged saving.next saving.bytes]

/-- A journal that does nothing outward, and keeps its record. -/
theorem Does.quiet {j' : Journal β} (h : SameSave j j') : Does deps j e j' [] :=
  .keeps h nofun

/-- A journal that failed has its failure. -/
theorem fail_isSome (error : String) : (j.fail error).failure.isSome = true := rfl

/-- A turn writes what it made of the record, or fails, or ends without a write. -/
theorem Does.commit {clock : Int} {turn : Turn β} {rest : List (Turn β)} (hSaving : j.saving = none)
    (hQueue : j.queue = turn :: rest) :
    Does deps j (.turn clock) ({ j with queue := rest }.commit deps turn clock).1
      ({ j with queue := rest }.commit deps turn clock).2 := by
  have hRest : SameSave j { j with queue := rest } := ⟨rfl, rfl, rfl, rfl⟩
  have hSaved : ∀ result, SameSave j ({ j with queue := rest }.saved turn.owner result) :=
    fun result => hRest.trans (sameSave_saved turn.owner result)
  -- a write that cannot be made fails the journal
  have hFails : ∀ message, Does deps j (.turn clock)
      (({ j with queue := rest }.fail message).saved turn.owner (.error message)) [.failed] := by
    intro message
    have hSame : SameSave ({ j with queue := rest }.fail message) _ :=
      sameSave_saved turn.owner (.error message)
    refine .fails hSame.current hSame.digest ?_ (hSame.saving.trans hSaving)
    rw [hSame.failure]
    exact fail_isSome message
  unfold Journal.commit
  split
  · exact .quiet (hSaved _)
  · rename_i hFailure
    split
    · exact .quiet (hSaved _)
    · exact hFails _
    · exact .quiet (hSaved _)
    · rename_i derived hDerived
      split
      · exact hFails _
      · rename_i next bytes hMade
        simp only [prepare, bind_eq_ok] at hMade
        -- what was made was handed over by the turn, one revision later
        obtain ⟨projected, hProjected, encoded, -, hNext⟩ := hMade
        obtain ⟨rfl, rfl⟩ := Prod.mk.inj (Except.ok.inj hNext)
        exact .asks rfl hSaving hFailure hQueue hDerived hProjected

/-- An attempt posts only as long as nothing has failed. -/
theorem Does.postNow {kind : LedgerKind} {attempt : Attempt} :
    Does deps j e (j.postNow kind attempt).1 (j.postNow kind attempt).2 := by
  unfold Journal.postNow
  split
  · exact .quiet (sameSave_goTo _ _ _)
  · rename_i hFailure
    refine .keeps (sameSave_goTo _ _ _) fun f hf => ?_
    obtain rfl := List.mem_singleton.mp hf
    exact ⟨rfl, rfl, rfl, fun _ => hFailure⟩

/-- A new attempt reads, queues or ends. -/
theorem Does.postOnce {spec : PostSpec} :
    Does deps j e (j.postOnce deps spec).1 (j.postOnce deps spec).2 := by
  unfold Journal.postOnce
  extract_lets isNew attempt refuse
  have hGoTo : ∀ phase, SameSave j (j.goTo spec.kind attempt phase) := sameSave_goTo _ _
  split
  · exact .quiet (hGoTo _)
  · split
    · exact .quiet (hGoTo _)
    · exact .quiet (hGoTo _)
    · split
      · exact .quiet (hGoTo _)
      · split
        · refine .keeps (hGoTo _) fun f hf => ?_
          obtain rfl := List.mem_singleton.mp hf
          exact ⟨rfl, rfl, rfl, nofun⟩
        · exact .quiet (sameSave_intend _ _)

/-- An attempt that read the room posts, queues or ends. -/
theorem Does.afterRead {kind : LedgerKind} {attempt : Attempt} {records : List TranscriptRecordJson} :
    Does deps j e (j.afterRead deps kind attempt records).1
      (j.afterRead deps kind attempt records).2 := by
  unfold Journal.afterRead
  split
  · exact .quiet (sameSave_mark _ _ _ _)
  · split
    · split
      · exact .quiet (sameSave_intend _ _)
      · exact .postNow
    · exact .quiet (sameSave_goTo _ _ _)

/-- Every step does one of the four. -/
theorem does_of_step (h : j.step deps e = some (j', fx)) : Does deps j e j' fx := by
  cases e with
  -- calls only queue turns
  | update derive =>
    obtain ⟨rfl, rfl⟩ := Prod.mk.inj (Option.some.inj h)
    exact .quiet ⟨rfl, rfl, rfl, rfl⟩
  | setProjector projector =>
    obtain ⟨rfl, rfl⟩ := Prod.mk.inj (Option.some.inj h)
    exact .quiet ⟨rfl, rfl, rfl, rfl⟩
  | ensurePosted spec =>
    simp only [step] at h
    split at h
    · obtain ⟨rfl, rfl⟩ := Prod.mk.inj (Option.some.inj h)
      exact .quiet (.refl j)
    · obtain ⟨rfl, rfl⟩ := Prod.mk.inj (Option.some.inj h)
      exact .postOnce
  | adopt spec record =>
    obtain ⟨rfl, rfl⟩ := Prod.mk.inj (Option.some.inj h)
    exact .quiet ⟨rfl, rfl, rfl, rfl⟩
  -- the turn of the write queue is the one that asks for a save
  | turn clock =>
    simp only [step] at h
    split at h
    · rename_i turn rest hSaving hQueue
      obtain ⟨rfl, rfl⟩ := Prod.mk.inj (Option.some.inj h)
      exact .commit hSaving hQueue
    · cases h
  -- its answer makes the record current, or fails the journal
  | stored answer =>
    simp only [step, Option.bind_eq_bind, Option.bind_eq_some_iff] at h
    obtain ⟨saving, hSaving, h⟩ := h
    split at h
    · obtain ⟨rfl, rfl⟩ := Prod.mk.inj (Option.some.inj h)
      have hSame : SameSave { j with
          current := saving.next
          digest := some (deps.flowDigest saving.bytes)
          saving := none } _ := sameSave_saved saving.owner (.ok ())
      exact .acks rfl hSaving hSame.current hSame.digest hSame.failure hSame.saving
    · rename_i error
      obtain ⟨rfl, rfl⟩ := Prod.mk.inj (Option.some.inj h)
      have hSame : SameSave ({ j with saving := none }.fail error) _ :=
        sameSave_saved saving.owner (.error error)
      refine .fails hSame.current hSame.digest ?_ hSame.saving
      rw [hSame.failure]
      exact fail_isSome error
  -- what the venue answers moves an attempt
  | read kind answer =>
    simp only [step, Option.bind_eq_bind, Option.bind_eq_some_iff] at h
    obtain ⟨attempt, -, h⟩ := h
    split at h
    · obtain ⟨rfl, rfl⟩ := Prod.mk.inj (Option.some.inj h)
      exact .afterRead
    · obtain ⟨rfl, rfl⟩ := Prod.mk.inj (Option.some.inj h)
      exact .quiet (sameSave_goTo _ _ _)
    · cases h
  | resume kind =>
    simp only [step, Option.bind_eq_bind, Option.bind_eq_some_iff] at h
    obtain ⟨attempt, -, h⟩ := h
    split at h
    · obtain ⟨rfl, rfl⟩ := Prod.mk.inj (Option.some.inj h)
      exact .postNow
    · cases h
  | posted kind answer =>
    simp only [step, Option.bind_eq_bind, Option.bind_eq_some_iff] at h
    obtain ⟨attempt, -, h⟩ := h
    split at h
    · obtain ⟨rfl, rfl⟩ := Prod.mk.inj (Option.some.inj h)
      exact .quiet (sameSave_mark _ _ _ _)
    · obtain ⟨rfl, rfl⟩ := Prod.mk.inj (Option.some.inj h)
      exact .quiet (sameSave_goTo _ _ _)
    · cases h
  | settle kind =>
    simp only [step, Option.bind_eq_bind, Option.bind_eq_some_iff] at h
    obtain ⟨attempt, -, h⟩ := h
    split at h
    · obtain ⟨rfl, rfl⟩ := Prod.mk.inj (Option.some.inj h)
      exact .quiet ⟨rfl, rfl, rfl, rfl⟩
    · cases h

-- ---------------------------------------------------------------------------
-- What is queued
-- ---------------------------------------------------------------------------

/-- The saves that the journal makes for a post of its own. -/
inductive OwnDerive (deps : JournalDeps β) : Derive β → Prop
  | intent (spec : LineSpec) : OwnDerive deps fun current =>
      withLedgerIntent deps.checked current spec.kind spec.room (ledgerText deps spec)
  | landed (spec : LineSpec) (record : TranscriptRecordJson) (ensureIntent : Bool) :
      OwnDerive deps (withLanded deps.checked spec (ledgerText deps spec) record ensureIntent)

/-- What is queued was queued before, or is a save of this event. -/
structure Queues (deps : JournalDeps β) (e : Event β) (j j' : Journal β) : Prop where
  queue : ∀ turn ∈ j'.queue, turn ∈ j.queue ∨
    turn.create = false ∧ (e = .update turn.derive ∨ OwnDerive deps turn.derive)
  projector : ∀ projector ∈ j'.projector, projector ∈ j.projector ∨ e = .setProjector projector

/-- A journal that queues nothing new. -/
theorem Queues.of_eq (hQueue : ∀ turn ∈ j'.queue, turn ∈ j.queue)
    (hProjector : j'.projector = j.projector) : Queues deps e j j' :=
  ⟨fun turn h => .inl (hQueue turn h), fun _ h => .inl (hProjector ▸ h)⟩

/-- An update is queued by its caller, or is one that the journal makes itself. -/
theorem Queues.run {derive : Derive β} {owner : Option LedgerKind} {i : Journal β}
    (h : Queues deps e j i) (hDerive : e = .update derive ∨ OwnDerive deps derive) :
    Queues deps e j (i.run derive owner) := by
  refine ⟨fun turn hTurn => ?_, h.projector⟩
  rcases List.mem_append.mp hTurn with hOld | hNew
  · exact h.queue turn hOld
  · obtain rfl := List.mem_singleton.mp hNew
    exact .inr ⟨rfl, hDerive⟩

theorem Queues.refl : Queues deps e j j := .of_eq (fun _ h => h) rfl

theorem queues_goTo {kind : LedgerKind} {attempt : Attempt} {phase : Phase} :
    Queues deps e j (j.goTo kind attempt phase) := .of_eq (fun _ h => h) rfl

theorem queues_intend {kind : LedgerKind} {attempt : Attempt} :
    Queues deps e j (j.intend deps kind attempt) :=
  queues_goTo.run (.inr (.intent attempt.spec.toLineSpec))

/-- A mark queues one of the journal's own updates. -/
theorem queues_mark {kind : LedgerKind} {attempt : Attempt} {record : TranscriptRecordJson}
    {ensureIntent : Bool} : Queues deps e j (j.mark deps kind attempt record ensureIntent) :=
  queues_goTo.run (.inr (.landed attempt.spec.toLineSpec record ensureIntent))

/-- The end of an update leaves the queue alone. -/
theorem saved_queue {owner : Option LedgerKind} {result : Except String Unit} :
    (j.saved owner result).queue = j.queue ∧ (j.saved owner result).projector = j.projector := by
  unfold saved
  split
  · exact ⟨rfl, rfl⟩
  · split
    · exact ⟨rfl, rfl⟩
    · split <;> exact ⟨rfl, rfl⟩

theorem queues_postNow {kind : LedgerKind} {attempt : Attempt} :
    Queues deps e j (j.postNow kind attempt).1 := by
  unfold postNow
  split <;> exact queues_goTo

theorem queues_postOnce {spec : PostSpec} : Queues deps e j (j.postOnce deps spec).1 := by
  unfold postOnce
  extract_lets isNew attempt refuse
  split
  · exact queues_goTo
  · split
    · exact queues_goTo
    · exact queues_goTo
    · split
      · exact queues_goTo
      · split
        · exact queues_goTo
        · exact queues_intend

theorem queues_afterRead {kind : LedgerKind} {attempt : Attempt} {records : List TranscriptRecordJson} :
    Queues deps e j (j.afterRead deps kind attempt records).1 := by
  unfold afterRead
  split
  · exact queues_mark
  · split
    · split
      · exact queues_intend
      · exact queues_postNow
    · exact queues_goTo

theorem queues_commit {clock : Int} {turn : Turn β} :
    Queues deps e j (j.commit deps turn clock).1 := by
  have hSaved : ∀ (i : Journal β) owner result, i.queue = j.queue → i.projector = j.projector →
      Queues deps e j (i.saved owner result) := by
    intro i owner result hQueue hProjector
    obtain ⟨hQueue', hProjector'⟩ := @saved_queue _ i owner result
    exact .of_eq (fun turn h => by rwa [hQueue', hQueue] at h) (hProjector'.trans hProjector)
  unfold commit
  split
  · exact hSaved j _ _ rfl rfl
  · split
    · exact hSaved j _ _ rfl rfl
    · exact hSaved (j.fail _) _ _ rfl rfl
    · exact hSaved j _ _ rfl rfl
    · split
      · exact hSaved (j.fail _) _ _ rfl rfl
      · exact .of_eq (fun _ h => h) rfl

/-- What is queued by any event was handed in with it, or is the journal's own. -/
theorem queues_of_step (h : j.step deps e = some (j', fx)) : Queues deps e j j' := by
  cases e with
  -- a call queues its own turn
  | update derive =>
    obtain ⟨rfl, -⟩ := Prod.mk.inj (Option.some.inj h)
    exact Queues.refl.run (.inl rfl)
  | setProjector =>
    obtain ⟨rfl, -⟩ := Prod.mk.inj (Option.some.inj h)
    -- only `setProjector` changes the projector
    refine ⟨fun turn hTurn => .inl hTurn, fun _ h' => .inr ?_⟩
    rw [Option.some.inj h']
  | ensurePosted spec =>
    simp only [step] at h
    split at h
    · obtain ⟨rfl, -⟩ := Prod.mk.inj (Option.some.inj h)
      exact .refl
    · obtain ⟨rfl, -⟩ := Prod.mk.inj (Option.some.inj h)
      exact queues_postOnce
  | adopt spec record =>
    obtain ⟨rfl, -⟩ := Prod.mk.inj (Option.some.inj h)
    exact Queues.refl.run (.inr (.landed spec record true))
  -- a turn leaves the queue
  | turn clock =>
    simp only [step] at h
    split at h
    · rename_i turn rest hSaving hQueue
      obtain ⟨rfl, -⟩ := Prod.mk.inj (Option.some.inj h)
      have hRest := @queues_commit _ deps { j with queue := rest } (.turn clock) clock turn
      refine ⟨fun t ht => (hRest.queue t ht).imp_left fun hOld => ?_, hRest.projector⟩
      rw [hQueue]
      exact List.mem_cons_of_mem _ hOld
    · cases h
  | stored answer =>
    simp only [step, Option.bind_eq_bind, Option.bind_eq_some_iff] at h
    obtain ⟨saving, hSaving, h⟩ := h
    split at h
    all_goals
      obtain ⟨rfl, -⟩ := Prod.mk.inj (Option.some.inj h)
      obtain ⟨hQueue, hProjector⟩ := saved_queue
      exact .of_eq (fun turn h => by rwa [hQueue] at h) hProjector
  -- an attempt queues the turn of its next phase
  | read kind answer =>
    simp only [step, Option.bind_eq_bind, Option.bind_eq_some_iff] at h
    obtain ⟨attempt, -, h⟩ := h
    split at h
    · obtain ⟨rfl, -⟩ := Prod.mk.inj (Option.some.inj h)
      exact queues_afterRead
    · obtain ⟨rfl, -⟩ := Prod.mk.inj (Option.some.inj h)
      exact queues_goTo
    · cases h
  | resume kind =>
    simp only [step, Option.bind_eq_bind, Option.bind_eq_some_iff] at h
    obtain ⟨attempt, -, h⟩ := h
    split at h
    · obtain ⟨rfl, -⟩ := Prod.mk.inj (Option.some.inj h)
      exact queues_postNow
    · cases h
  | posted kind answer =>
    simp only [step, Option.bind_eq_bind, Option.bind_eq_some_iff] at h
    obtain ⟨attempt, -, h⟩ := h
    split at h
    · obtain ⟨rfl, -⟩ := Prod.mk.inj (Option.some.inj h)
      exact queues_mark
    · obtain ⟨rfl, -⟩ := Prod.mk.inj (Option.some.inj h)
      exact queues_goTo
    · cases h
  | settle kind =>
    simp only [step, Option.bind_eq_bind, Option.bind_eq_some_iff] at h
    obtain ⟨attempt, -, h⟩ := h
    split at h
    · obtain ⟨rfl, -⟩ := Prod.mk.inj (Option.some.inj h)
      exact .of_eq (fun _ h => h) rfl
    · cases h

-- ---------------------------------------------------------------------------
-- Runs
-- ---------------------------------------------------------------------------

/-- The journal after some events, and what it asked for on the way. -/
def runs (deps : JournalDeps β) : Journal β → List (Event β) → Option (Journal β × List (Effect β))
  | j, [] => some (j, [])
  | j, e :: es => do
    let (next, fx) ← j.step deps e
    let (last, rest) ← runs deps next es
    return (last, fx ++ rest)

/-- A run is its first step and a run. -/
theorem runs_cons {es : List (Event β)} (h : runs deps j (e :: es) = some (j', fx)) :
    ∃ i fx₁ fx₂, j.step deps e = some (i, fx₁) ∧ runs deps i es = some (j', fx₂) ∧
      fx = fx₁ ++ fx₂ := by
  simp only [runs, Option.bind_eq_bind, Option.bind_eq_some_iff] at h
  obtain ⟨⟨i, fx₁⟩, hStep, ⟨last, fx₂⟩, hRuns, hEnd⟩ := h
  obtain ⟨rfl, rfl⟩ := Prod.mk.inj (Option.some.inj hEnd)
  exact ⟨i, fx₁, fx₂, hStep, hRuns, rfl⟩

/-- The saves that the store acknowledged. -/
def acked (fx : List (Effect β)) : List (FlowRecord β × List UInt8) := fx.filterMap Effect.acked?

/-- The record and the digest of the last acknowledged save. -/
def lastSave (deps : JournalDeps β) (j : Journal β) (fx : List (Effect β)) :
    FlowRecord β × Option String :=
  ((acked fx).getLast?.map fun save => (save.1, some (deps.flowDigest save.2))).getD
    (j.current, j.digest)

/-- Effects of which none is an acknowledged save. -/
theorem acked_eq_nil {fx : List (Effect β)} (h : ∀ f ∈ fx, f.acked? = none) : acked fx = [] :=
  List.filterMap_eq_nil_iff.mpr h

/-- One step: the record of the journal is that of the last acknowledged save. -/
theorem Does.lastSave (h : Does deps j e j' fx) : (j'.current, j'.digest) = lastSave deps j fx := by
  cases h with
  | keeps hSame hQuiet =>
    rw [Journal.lastSave, acked_eq_nil fun f hf => (hQuiet f hf).1, hSame.current, hSame.digest]
    rfl
  | asks => rfl
  | fails hCurrent hDigest =>
    rw [hCurrent, hDigest]
    rfl
  | acks _ _ hCurrent hDigest =>
    rw [hCurrent, hDigest]
    rfl

/-- The run lemma: so it is after any number of steps. -/
theorem lastSave_runs {es : List (Event β)} (h : runs deps j es = some (j', fx)) :
    (j'.current, j'.digest) = lastSave deps j fx := by
  induction es generalizing j fx with
  | nil =>
    obtain ⟨rfl, rfl⟩ := Prod.mk.inj (Option.some.inj h)
    rfl
  | cons e es ih =>
    obtain ⟨i, fx₁, fx₂, hStep, hRuns, rfl⟩ := runs_cons h
    have hFirst := (does_of_step hStep).lastSave
    rw [ih hRuns, lastSave, lastSave, hFirst, lastSave, acked, acked, acked, List.filterMap_append,
      List.getLast?_append]
    cases (List.filterMap Effect.acked? fx₂).getLast? with
    | none => rfl
    | some save => rfl

/-! ### Failures -/

/-- One step of a journal that failed: it stays failed, and does nothing outward. -/
theorem Does.failed (h : Does deps j e j' fx) (hFailed : j.failure.isSome = true) :
    j'.failure.isSome = true ∧ ∀ f ∈ fx, f.isOutward = false := by
  cases h with
  | keeps hSame hQuiet =>
    refine ⟨hSame.failure ▸ hFailed, fun f hf => ?_⟩
    by_contra hOutward
    rw [(hQuiet f hf).2.2.2 (Bool.of_not_eq_false hOutward)] at hFailed
    cases hFailed
  | asks _ _ hUsable =>
    rw [hUsable] at hFailed
    cases hFailed
  | fails _ _ hFailed' =>
    refine ⟨hFailed', fun f hf => ?_⟩
    obtain rfl := List.mem_singleton.mp hf
    rfl
  | acks _ _ _ _ hFailure =>
    refine ⟨hFailure ▸ hFailed, fun f hf => ?_⟩
    obtain rfl := List.mem_singleton.mp hf
    rfl

/-- A step ends in a failed journal exactly when it was one or the step failed. -/
theorem Does.failure_iff (h : Does deps j e j' fx) :
    j'.failure.isSome = true ↔ j.failure.isSome = true ∨ ∃ f ∈ fx, f.isFailed = true := by
  cases h with
  | keeps hSame hQuiet =>
    rw [hSame.failure, or_iff_left]
    rintro ⟨f, hf, hFailed⟩
    rw [(hQuiet f hf).2.1] at hFailed
    cases hFailed
  | asks => simp [Effect.isFailed]
  | fails _ _ hFailed => simp [hFailed, Effect.isFailed]
  | acks _ _ _ _ hFailure => simp [hFailure, Effect.isFailed]

/-- The run lemma: a failed journal does nothing outward any more. -/
theorem failed_runs {es : List (Event β)} (h : runs deps j es = some (j', fx))
    (hFailed : j.failure.isSome = true) : ∀ f ∈ fx, f.isOutward = false := by
  induction es generalizing j fx with
  | nil =>
    obtain ⟨rfl, rfl⟩ := Prod.mk.inj (Option.some.inj h)
    exact nofun
  | cons e es ih =>
    obtain ⟨i, fx₁, fx₂, hStep, hRuns, rfl⟩ := runs_cons h
    obtain ⟨hFailed', hQuiet⟩ := (does_of_step hStep).failed hFailed
    intro f hf
    rcases List.mem_append.mp hf with hf | hf
    · exact hQuiet f hf
    · exact ih hRuns hFailed' f hf

/-- A journal has failed exactly when it said so. -/
theorem failure_iff_runs {es : List (Event β)} (h : runs deps j es = some (j', fx)) :
    j'.failure.isSome = true ↔ j.failure.isSome = true ∨ ∃ f ∈ fx, f.isFailed = true := by
  induction es generalizing j fx with
  | nil =>
    obtain ⟨rfl, rfl⟩ := Prod.mk.inj (Option.some.inj h)
    simp
  | cons e es ih =>
    obtain ⟨i, fx₁, fx₂, hStep, hRuns, rfl⟩ := runs_cons h
    rw [ih hRuns, (does_of_step hStep).failure_iff, or_assoc]
    simp only [List.mem_append, or_and_right, exists_or]

/-- A failure comes after every write. -/
def WritesThenFails (fx : List (Effect β)) : Prop :=
  fx.Pairwise fun a b => a.isFailed = true → b.isOutward = false

/-- Nothing outward follows a failure in any run. -/
theorem writesThenFails_runs {es : List (Event β)} (h : runs deps j es = some (j', fx)) :
    WritesThenFails fx := by
  induction es generalizing j fx with
  | nil =>
    obtain ⟨rfl, rfl⟩ := Prod.mk.inj (Option.some.inj h)
    exact .nil
  | cons e es ih =>
    obtain ⟨i, fx₁, fx₂, hStep, hRuns, rfl⟩ := runs_cons h
    have hDoes := does_of_step hStep
    refine List.pairwise_append.mpr ⟨?_, ih hRuns, fun a ha b hb hFailed => ?_⟩
    · cases hDoes with
      | keeps _ hQuiet =>
        refine List.Pairwise.imp_of_mem (R := fun _ _ => True) (fun ha _ _ hFailed => ?_)
          (List.pairwise_of_forall fun _ _ => trivial)
        rw [(hQuiet _ ha).2.1] at hFailed
        cases hFailed
      | asks => exact List.pairwise_singleton _ _
      | fails => exact List.pairwise_singleton _ _
      | acks => exact List.pairwise_singleton _ _
    · exact failed_runs hRuns (hDoes.failure_iff.mpr (.inr ⟨a, ha, hFailed⟩)) b hb

end Journal

/-! ### Revisions -/

variable {β : Type}

/-- The next revision, and not earlier. -/
def Raises (a b : FlowRecord β) : Prop :=
  b.revision = a.revision + 1 ∧ a.updatedAtMs ≤ b.updatedAtMs

namespace Journal

variable {deps : JournalDeps β} {j j' : Journal β} {e : Event β} {fx : List (Effect β)}

/-- What the next turn has to save: what its derive function and the projector make of the
record. -/
def handed (j : Journal β) : Option (FlowRecord β) :=
  match j.queue with
  | [] => none
  | turn :: _ =>
    match turn.derive j.current with
    | .ok (some derived) => ((j.projector.getD .ok) derived).toOption
    | _ => none

/-- The record that a turn has to save was made from the journal's own: it has its revision, and
will not be saved as earlier. -/
def Fresh (j : Journal β) : Event β → Prop
  | .turn clock => ∀ record ∈ j.handed,
      record.revision = j.current.revision ∧ j.current.updatedAtMs ≤ max record.updatedAtMs clock
  | _ => True

/-- The same of every turn of a run, in the state that it is taken in. -/
def FreshRun (deps : JournalDeps β) : Journal β → List (Event β) → Prop
  | _, [] => True
  | j, e :: es => j.Fresh e ∧ ∀ next ∈ j.step deps e, FreshRun deps next.1 es

/-- A run is fresh if its first turn is, and what follows. -/
theorem FreshRun.cons {es : List (Event β)} (hStep : j.step deps e = some (j', fx))
    (hFresh : j.Fresh e) (hRest : FreshRun deps j' es) : FreshRun deps j (e :: es) := by
  refine ⟨hFresh, fun next hNext => ?_⟩
  obtain rfl := Option.some.inj (hStep.symm.trans hNext)
  exact hRest

/-- What a turn hands over: the record that the update made, as the projector changed it. -/
theorem handed_eq {turn : Turn β} {rest : List (Turn β)} {derived projected : FlowRecord β}
    (hQueue : j.queue = turn :: rest) (hDerived : turn.derive j.current = .ok (some derived))
    (hProjected : (j.projector.getD .ok) derived = .ok projected) : j.handed = some projected := by
  unfold handed
  rw [hQueue]
  dsimp only
  rw [hDerived]
  dsimp only
  rw [hProjected]
  rfl

/-- `bumped` raises exactly the records that were made from the journal's own. -/
theorem raises_bumped_iff {projected : FlowRecord β} {clock : Int}
    (h : j.handed = some projected) :
    Raises j.current (bumped projected clock) ↔ j.Fresh (.turn clock) := by
  unfold Fresh Raises bumped
  rw [h]
  simp

/-- Only `begin` queues a save that does not raise the revision. -/
theorem updates_of_step (h : ∀ turn ∈ j.queue, turn.create = false)
    (hStep : j.step deps e = some (j', fx)) : ∀ turn ∈ j'.queue, turn.create = false :=
  fun turn hTurn => ((queues_of_step hStep).queue turn hTurn).elim (h turn) And.left

/-- Only `begin` creates: in a journal that was opened every queued turn is an update. -/
theorem updates_runs {es : List (Event β)} (h : ∀ turn ∈ j.queue, turn.create = false)
    (hRuns : runs deps j es = some (j', fx)) : ∀ turn ∈ j'.queue, turn.create = false := by
  induction es generalizing j fx with
  | nil =>
    obtain ⟨rfl, rfl⟩ := Prod.mk.inj (Option.some.inj hRuns)
    exact h
  | cons e es ih =>
    obtain ⟨i, fx₁, fx₂, hStep, hRest, rfl⟩ := runs_cons hRuns
    exact ih (updates_of_step h hStep) hRest

/-- A turn that hands the store a save raises the revision exactly when it is fresh. -/
theorem raises_iff_fresh {clock : Int} {bytes : List UInt8} {expected : Option String}
    (hUpdates : ∀ turn ∈ j.queue, turn.create = false)
    (hStep : j.step deps (.turn clock) = some (j', [.save bytes expected])) :
    ∃ saving, j'.saving = some saving ∧
      (Raises j.current saving.next ↔ j.Fresh (.turn clock)) := by
  generalize hEffects : [Effect.save bytes expected] = fx at hStep
  cases does_of_step hStep with
  | keeps _ hQuiet =>
    have hNoSave := (hQuiet (.save bytes expected) (hEffects ▸ List.mem_singleton.mpr rfl)).2.2.1
    cases hNoSave
  | @asks _ turn rest derived projected _ hEvent _ _ hTurns hDerived hProjected =>
    obtain rfl := Event.turn.inj hEvent
    refine ⟨_, rfl, ?_⟩
    have hCreate := hUpdates turn (hTurns ▸ List.mem_cons_self)
    simp only [hCreate, Bool.false_eq_true, if_false]
    exact raises_bumped_iff (handed_eq hTurns hDerived hProjected)
  | fails => cases hEffects
  | acks => cases hEffects

/-- What is queued updates the record, and the save in flight raises it. -/
structure Raising (j : Journal β) : Prop where
  updates : ∀ turn ∈ j.queue, turn.create = false
  saving : ∀ saving ∈ j.saving, Raises j.current saving.next

/-- One step: an acknowledged save raises the revision of the record by one. -/
theorem Raising.step (h : Raising j) (hFresh : j.Fresh e)
    (hStep : j.step deps e = some (j', fx)) :
    Raising j' ∧ (acked fx = [] ∧ j'.current = j.current ∨
      ∃ bytes, acked fx = [(j'.current, bytes)] ∧ Raises j.current j'.current) := by
  have hUpdates := updates_of_step h.updates hStep
  cases does_of_step hStep with
  -- no save, no change of the record
  | keeps hSame hQuiet =>
    refine ⟨⟨hUpdates, ?_⟩, .inl ⟨acked_eq_nil fun f hf => (hQuiet f hf).1, hSame.current⟩⟩
    rw [hSame.saving, hSame.current]
    exact h.saving
  -- a save is asked for with the next revision
  | @asks clock turn rest derived projected bytes hEvent _ _ hTurns hDerived hProjected =>
    refine ⟨⟨hUpdates, ?_⟩, .inl ⟨rfl, rfl⟩⟩
    rintro _ ⟨⟩
    have hCreate := h.updates turn (hTurns ▸ List.mem_cons_self)
    simp only [hCreate, Bool.false_eq_true, if_false]
    exact (raises_bumped_iff (handed_eq hTurns hDerived hProjected)).mpr (hEvent ▸ hFresh)
  | fails hCurrent _ _ hSaving =>
    refine ⟨⟨hUpdates, ?_⟩, .inl ⟨rfl, hCurrent⟩⟩
    rw [hSaving]
    exact nofun
  -- an acknowledged one is current
  | @acks _ saving _ hSaving hCurrent _ _ hSaving' =>
    refine ⟨⟨hUpdates, ?_⟩, .inr ⟨saving.bytes, ?_, ?_⟩⟩
    · rw [hSaving']
      exact nofun
    · rw [hCurrent]
      rfl
    · rw [hCurrent]
      exact h.saving saving hSaving

/-- Over a run whose turns are all fresh, each acknowledged save raises the one before it. -/
theorem raises_runs {es : List (Event β)} (h : Raising j) (hFresh : FreshRun deps j es)
    (hRuns : runs deps j es = some (j', fx)) :
    (j.current :: (acked fx).map Prod.fst).IsChain Raises := by
  induction es generalizing j fx with
  | nil =>
    obtain ⟨rfl, rfl⟩ := Prod.mk.inj (Option.some.inj hRuns)
    exact .singleton _
  | cons e es ih =>
    obtain ⟨i, fx₁, fx₂, hStep, hRest, rfl⟩ := runs_cons hRuns
    obtain ⟨hRaising, hAcked⟩ := h.step hFresh.1 hStep
    have hChain := ih hRaising (hFresh.2 _ hStep) hRest
    rw [acked, List.filterMap_append]
    rcases hAcked with ⟨hNone, hCurrent⟩ | ⟨bytes, hOne, hRaises⟩
    · rw [acked] at hNone
      rw [hNone, List.nil_append, ← hCurrent]
      exact hChain
    · rw [acked] at hOne
      rw [hOne, List.singleton_append, List.map_cons]
      exact hChain.cons_cons hRaises

/-- A journal that was just opened. -/
theorem raising_opened (record : FlowRecord β) (digest : String) : Raising (opened record digest) :=
  ⟨nofun, nofun⟩

end Journal

/-! ### Updates of the record that they are given -/

/-- A derive function that keeps the revision and the time of the record it is given. -/
def KeepsRevision (derive : Derive β) : Prop :=
  ∀ record next, derive record = .ok (some next) →
    next.revision = record.revision ∧ next.updatedAtMs = record.updatedAtMs

/-- The same of a projector. -/
def ProjectsRevision (projector : FlowRecord β → Except String (FlowRecord β)) : Prop :=
  ∀ record next, projector record = .ok next →
    next.revision = record.revision ∧ next.updatedAtMs = record.updatedAtMs

/-- The functions that an event hands to the journal keep the revision. -/
def Event.KeepsRevision : Event β → Prop
  | .update derive => Client.KeepsRevision derive
  | .setProjector projector => ProjectsRevision projector
  | _ => True

namespace Journal

variable {deps : JournalDeps β} {j j' : Journal β} {e : Event β} {fx : List (Effect β)}

/-- The journal's own updates keep the revision of the record they are given. -/
theorem OwnDerive.keepsRevision {derive : Derive β} (h : OwnDerive deps derive) :
    KeepsRevision derive := by
  intro record next hNext
  cases h with
  | intent spec => exact withLedgerIntent_revision hNext
  | landed spec venueRecord ensureIntent => exact withLanded_revision hNext

/-- What is queued and the projector keep the revision. -/
structure KeepsRevisions (j : Journal β) : Prop where
  queue : ∀ turn ∈ j.queue, KeepsRevision turn.derive
  projector : ∀ projector ∈ j.projector, ProjectsRevision projector

/-- The step lemma of journals whose updates keep the revision. -/
theorem KeepsRevisions.step (h : KeepsRevisions j) (hEvent : e.KeepsRevision)
    (hStep : j.step deps e = some (j', fx)) : KeepsRevisions j' := by
  obtain ⟨hQueue, hProjector⟩ := queues_of_step hStep
  constructor
  · intro turn hTurn
    rcases hQueue turn hTurn with hOld | ⟨-, rfl | hOwn⟩
    · exact h.queue turn hOld
    · exact hEvent
    · exact hOwn.keepsRevision
  · intro projector hNew
    rcases hProjector projector hNew with hOld | rfl
    · exact h.projector projector hOld
    · exact hEvent

/-- Their turns are fresh. -/
theorem KeepsRevisions.fresh (h : KeepsRevisions j) : j.Fresh e := by
  cases e with
  | turn clock =>
    -- the derivation keeps the revision, and so does the projector
    intro record hRecord
    unfold handed at hRecord
    split at hRecord
    · cases hRecord
    rename_i turn rest hQueue
    split at hRecord
    · rename_i derived hDerived
      have hDerive := h.queue turn (hQueue ▸ List.mem_cons_self) _ _ hDerived
      have hProject : record.revision = derived.revision ∧
          record.updatedAtMs = derived.updatedAtMs := by
        cases hP : j.projector with
        | none =>
          rw [hP] at hRecord
          obtain rfl := Option.some.inj hRecord
          exact ⟨rfl, rfl⟩
        | some projector =>
          rw [hP] at hRecord
          cases hProjected : projector derived with
          | error message =>
            rw [Option.getD_some, hProjected] at hRecord
            cases hRecord
          | ok projected =>
            rw [Option.getD_some, hProjected] at hRecord
            obtain rfl := Option.some.inj hRecord
            exact h.projector projector hP derived projected hProjected
      rw [hProject.1, hDerive.1, hProject.2, hDerive.2]
      exact ⟨rfl, Int.le_max_left _ _⟩
    · cases hRecord
  | _ => trivial

/-- Updates that start from the record they are given are always fresh, and so are the saves
that the journal makes for its posts. -/
theorem freshRun_of_keepsRevision {es : List (Event β)} (h : KeepsRevisions j)
    (hEvents : ∀ e ∈ es, e.KeepsRevision) : FreshRun deps j es := by
  induction es generalizing j with
  | nil => trivial
  | cons e es ih =>
    refine ⟨h.fresh, ?_⟩
    rintro ⟨j', fx⟩ hStep
    have hNext := h.step (hEvents e List.mem_cons_self) hStep
    exact ih hNext fun e he => hEvents e (List.mem_cons_of_mem _ he)

/-- A new record is the journal's once the store has acknowledged it: `begin` answers then. -/
theorem created {initial : FlowRecord β} {clock : Int} {bytes : List UInt8}
    (h : deps.encode initial = .ok bytes) :
    runs deps (begun initial) [.turn clock, .stored (.ok ())] =
      some (opened initial (deps.flowDigest bytes),
        [.save bytes none, .acknowledged initial bytes]) := by
  have hPrepare : ∀ j : Journal β, j.projector = none →
      j.prepare deps true clock initial = .ok (initial, bytes) := by
    intro j hProjector
    simp only [prepare, bind_eq_ok, hProjector]
    exact ⟨initial, rfl, bytes, h, rfl⟩
  simp [runs, step, begun, commit, hPrepare, saved, opened]

end Journal

/-- **A journal is never ahead of its store.** Its record and digest are those of the last
acknowledged save; once a save was refused or failed nothing is written or posted any more; and
a conflict that a derive function raises changes nothing. A save raises the revision by one
exactly when what it has to save was made from the record of the journal; over a run whose turns
are all of this kind, every acknowledged save does. -/
theorem journal_never_ahead {deps : JournalDeps β} {record : FlowRecord β} {digest : String}
    {es : List (Event β)} {j : Journal β} {fx : List (Effect β)}
    (h : Journal.runs deps (.opened record digest) es = some (j, fx)) :
    (j.current, j.digest) = Journal.lastSave deps (.opened record digest) fx ∧
      (j.failure.isSome = true ↔ ∃ f ∈ fx, f.isFailed = true) ∧ Journal.WritesThenFails fx ∧
      (∀ clock turn rest message, j.failure = none → j.saving = none → j.queue = turn :: rest →
        turn.derive j.current = .error (.conflict message) →
          ∃ j', j.step deps (.turn clock) = some (j', []) ∧ Journal.SameSave j j') ∧
      (∀ clock j' bytes expected,
        j.step deps (.turn clock) = some (j', [.save bytes expected]) →
          ∃ saving, j'.saving = some saving ∧
            (Raises j.current saving.next ↔ j.Fresh (.turn clock))) ∧
      (Journal.FreshRun deps (.opened record digest) es →
        (record :: (Journal.acked fx).map Prod.fst).IsChain Raises) := by
  refine ⟨Journal.lastSave_runs h, ?_, Journal.writesThenFails_runs h, ?_, ?_, fun hFresh => ?_⟩
  · rw [Journal.failure_iff_runs h, or_iff_right]
    exact nofun
  · intro clock turn rest message hUsable hSaving hQueue hConflict
    refine ⟨{ j with queue := rest }.saved turn.owner (.error message), ?_, ?_⟩
    · simp [Journal.step, Journal.commit, hSaving, hQueue, hUsable, hConflict]
    · have hRest : Journal.SameSave j { j with queue := rest } := ⟨rfl, rfl, rfl, rfl⟩
      exact hRest.trans (Journal.sameSave_saved turn.owner _)
  · intro clock j' bytes expected hStep
    have hUpdates := Journal.updates_runs (Journal.raising_opened record digest).updates h
    exact Journal.raises_iff_fresh hUpdates hStep
  · exact Journal.raises_runs (Journal.raising_opened record digest) hFresh h

namespace JournalSample

def record : FlowRecord Unit := ⟨1, 10, fun _ => none, [], ()⟩

def deps : JournalDeps Unit where
  did := "did:a"
  encode _ := .ok []
  checked _ := true
  flowDigest _ := "digest"
  digestOfText text := text
  verify _ := true

/-- Two saves of the same record, the second queued before the first went through. -/
def saves : List (Event Unit) :=
  [.update fun _ => .ok (some record), .update fun _ => .ok (some record), .turn 20,
    .stored (.ok ()), .turn 20, .stored (.ok ())]

/-- A save and an update that were acknowledged, then an update that was refused. -/
def updates : List (Event Unit) :=
  [.update fun _ => .ok (some record), .turn 20, .stored (.ok ()),
    .update fun current => .ok (some current), .update fun current => .ok (some current),
    .turn 30, .stored (.ok ()), .turn 40, .stored (.error "stale")]

/-- Both saves are acknowledged, with the same revision. -/
theorem runs_saves : ∃ j fx, Journal.runs deps (.opened record "digest") saves = some (j, fx) ∧
    (Journal.acked fx).map (·.1.revision) = [2, 2] :=
  ⟨_, _, rfl, rfl⟩

/-- Two saves are acknowledged, one revision after the other, and the third is refused. -/
theorem runs_updates : ∃ j fx, Journal.runs deps (.opened record "digest") updates = some (j, fx) ∧
    (Journal.acked fx).map (·.1.revision) = [2, 3] ∧ j.failure = some "stale" :=
  ⟨_, _, rfl, rfl, rfl⟩

/-- The save writes what the journal has; each update starts from the record it is given. -/
theorem freshRun_updates : Journal.FreshRun deps (.opened record "digest") updates := by
  have hSame : KeepsRevision fun current : FlowRecord Unit => .ok (some current) := by
    rintro record _ ⟨⟩
    exact ⟨rfl, rfl⟩
  have hEvents : ∀ e ∈ updates.drop 3, e.KeepsRevision := by
    simp [updates, Event.KeepsRevision, hSame]
  refine .cons rfl trivial (.cons rfl ?_ (.cons rfl trivial
    (Journal.freshRun_of_keepsRevision ⟨nofun, nofun⟩ hEvents)))
  rintro _ ⟨⟩
  decide

end JournalSample

theorem journal_never_ahead_sample :
    Journal.runs JournalSample.deps (.begun JournalSample.record) [.turn 10, .stored (.ok ())] =
      some (.opened JournalSample.record "digest",
        [.save [] none, .acknowledged JournalSample.record []]) ∧ ∃ j fx,
    Journal.runs JournalSample.deps (.opened JournalSample.record "digest") JournalSample.updates =
      some (j, fx) ∧ j.failure = some "stale" ∧
    (j.current, j.digest) =
      Journal.lastSave JournalSample.deps (.opened JournalSample.record "digest") fx ∧
    (JournalSample.record :: (Journal.acked fx).map Prod.fst).IsChain Raises := by
  obtain ⟨j, fx, hRuns, -, hFailure⟩ := JournalSample.runs_updates
  obtain ⟨hLast, -, -, -, -, hRaises⟩ := journal_never_ahead hRuns
  exact ⟨Journal.created rfl, j, fx, hRuns, hFailure, hLast,
    hRaises JournalSample.freshRun_updates⟩

/-- A save of a record that was read before another save went through writes the same revision
again. -/
theorem stale_save_repeats_revision : ¬ ∀ (β : Type) (deps : JournalDeps β) (record : FlowRecord β)
    (digest : String) (es : List (Event β)) (j : Journal β) (fx : List (Effect β)),
    Journal.runs deps (.opened record digest) es = some (j, fx) →
      (record :: (Journal.acked fx).map Prod.fst).IsChain Raises := by
  intro h
  obtain ⟨j, fx, hRuns, hRevisions⟩ := JournalSample.runs_saves
  have hChain := h _ _ _ _ _ j fx hRuns
  have hLength : (Journal.acked fx).length = 2 := by
    rw [← List.length_map, hRevisions]
    rfl
  obtain ⟨a, b, hAcked⟩ := List.length_eq_two.mp hLength
  rw [hAcked] at hChain hRevisions
  obtain ⟨ha, hb⟩ : a.1.revision = 2 ∧ b.1.revision = 2 := by simpa using hRevisions
  have hRaises : Raises a.1 b.1 := by simpa using hChain.tail
  have hNext := hRaises.1
  omega

end SwapDesk.Client
