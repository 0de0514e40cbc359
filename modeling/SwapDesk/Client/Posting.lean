import SwapDesk.Lib.Machine
import SwapDesk.Client.JournalSafety

/-!
# SwapDesk — journalled posting

One flow at a time works on a stored record and posts its lines through a journal. The
process may die at any point, and the next flow opens the record that the store then has.
The venue keeps what is posted, and a read shows every record of the room that was there when
the read was asked for; a post is there at once, whether or not its answer arrives.

A save writes what it was handed. When that is a record from before a line was recorded, the
store forgets the line, and a second text of the kind can be posted (`second_text_posted`). Main
result: `posts_write_ahead`, for the runs in which every turn keeps the ledger (`Journal.Keeps`).
Flows whose functions keep the ledger of the record that they are given never leave these runs
(`keeping_of_growing`).
-/

namespace SwapDesk.Client

open Check

variable {β : Type}

-- ---------------------------------------------------------------------------
-- The world of a flow
-- ---------------------------------------------------------------------------

/-- A line that was handed to the venue: whether it got there, and what the store held then. -/
structure Posted (β : Type) where
  spec : LineSpec
  landed : Bool
  stored : Option (FlowRecord β)

structure FlowWorld (β : Type) where
  /-- What the store has under the key of the flow. -/
  durable : Option (FlowRecord β)
  /-- The journal of the flow that is alive. -/
  journal : Option (Journal β)
  /-- The store has taken the save that the journal awaits. -/
  taken : Bool
  venue : List TranscriptRecordJson
  /-- How much of the venue was there when the room of a kind was last asked for. -/
  readFrom : LedgerKind → Nat
  posts : List (Posted β)

/-- The record of a line of this party, as the venue keeps it. -/
def Own (deps : JournalDeps β) (spec : LineSpec) (record : TranscriptRecordJson) : Prop :=
  record.room = spec.room ∧ record.line = spec.text ∧ record.sender = deps.did ∧
    deps.verify record = true

/-- What the store and the venue answer. -/
def Answers (w : FlowWorld β) (j : Journal β) : Event β → Prop
  | .stored (.ok _) => w.taken = true
  | .read kind (.ok records) => ∀ attempt, j.inflight kind = some attempt →
      ∀ record ∈ w.venue.take (w.readFrom kind), record.room = attempt.spec.room →
        record ∈ records
  | _ => True

/-- The world after a step of the journal; `lands` is the record of a line that it posted. -/
def FlowWorld.after (w : FlowWorld β) (j : Journal β) (fx : List (Effect β))
    (lands : Option TranscriptRecordJson) : FlowWorld β :=
  let moved := { w with journal := some j, taken := w.taken && !fx.any Effect.isSave }
  match fx with
  | [.read spec] =>
    { moved with readFrom := Function.update w.readFrom spec.kind w.venue.length }
  | [.post spec] =>
    { moved with
      venue := w.venue ++ lands.toList
      posts := w.posts ++ [⟨spec.toLineSpec, lands.isSome, w.durable⟩] }
  | _ => moved

inductive Move (β : Type) where
  | created (record : FlowRecord β)
  | opened (digest : String)
  | crashed
  | taken
  | others (record : TranscriptRecordJson)
  | act (event : Event β) (lands : Option TranscriptRecordJson)

inductive FlowStep (deps : JournalDeps β) (w : FlowWorld β) : Move β → FlowWorld β → Prop
  /-- The first save of a new record. -/
  | created {record : FlowRecord β} : w.durable = none →
      FlowStep deps w (.created record) { w with durable := some record }
  | opened {record : FlowRecord β} {digest : String} : w.durable = some record →
      w.journal = none →
      FlowStep deps w (.opened digest) { w with journal := some (.opened record digest) }
  | crashed : FlowStep deps w .crashed { w with journal := none }
  /-- The store takes the save it was handed; its answer may be anything. -/
  | taken {j : Journal β} {saving : Saving β} : w.journal = some j → j.saving = some saving →
      FlowStep deps w .taken { w with durable := some saving.next, taken := true }
  | others {record : TranscriptRecordJson} :
      FlowStep deps w (.others record) { w with venue := w.venue ++ [record] }
  | act {j j' : Journal β} {event : Event β} {fx : List (Effect β)}
      {lands : Option TranscriptRecordJson} : w.journal = some j → Answers w j event →
      j.step deps event = some (j', fx) →
      (∀ spec, Effect.post spec ∈ fx → ∀ record ∈ lands, Own deps spec.toLineSpec record) →
      FlowStep deps w (.act event lands) (w.after j' fx lands)

/-- The flows of one record, from before its first save. -/
def flowMachine (deps : JournalDeps β) : Machine (FlowWorld β) (Move β) where
  init w := w.durable = none ∧ w.journal = none ∧ w.posts = []
  step := FlowStep deps

-- ---------------------------------------------------------------------------
-- The steps that keep the ledger
-- ---------------------------------------------------------------------------

/-- The kind of a line settles whether its text is held as a digest. -/
def LineSpec.Proper (secret : LedgerKind → Bool) (spec : LineSpec) : Prop :=
  spec.digestOnly = secret spec.kind

/-- What the next turn saves has every entry of the journal's record, and the projector keeps the
entry that an attempt to post has just asked for. -/
def Journal.KeepsLedger (j : Journal β) : Prop :=
  ∀ turn rest derived projected, j.queue = turn :: rest →
    turn.derive j.current = .ok (some derived) → (j.projector.getD .ok) derived = .ok projected →
      Ledger.Extends j.current projected ∧
        (turn.owner.isSome = true → Ledger.Extends derived projected)

/-- An event that keeps the ledger, in the state that it finds the journal in. -/
def Journal.Keeps (secret : LedgerKind → Bool) (j : Journal β) : Event β → Prop
  | .turn _ => j.KeepsLedger
  | .ensurePosted spec => spec.Proper secret
  | _ => True

def Move.Keeps (secret : LedgerKind → Bool) (w : FlowWorld β) : Move β → Prop
  | .act event _ => ∀ j, w.journal = some j → j.Keeps secret event
  | _ => True

/-- The flows of one record, as long as every move keeps the ledger. -/
def keepingMachine (deps : JournalDeps β) (secret : LedgerKind → Bool) :
    Machine (FlowWorld β) (Move β) where
  init := (flowMachine deps).init
  step w m w' := FlowStep deps w m w' ∧ m.Keeps secret w

-- ---------------------------------------------------------------------------
-- Entries
-- ---------------------------------------------------------------------------

/-- The ledger holds the intent to post a line. -/
def HasEntry (deps : JournalDeps β) (record : FlowRecord β) (spec : LineSpec) : Prop :=
  ∃ e, ledgerEntry record spec.kind = some e ∧ e.room = spec.room ∧
    e.text = Journal.ledgerText deps spec

/-- A record that keeps the ledger of another one keeps its entries. -/
theorem HasEntry.extends {deps : JournalDeps β} {a b : FlowRecord β} {spec : LineSpec}
    (h : HasEntry deps a spec) (hExtends : Ledger.Extends a b) : HasEntry deps b spec := by
  obtain ⟨e, he, hRoom, hText⟩ := h
  obtain ⟨e', he', hRoom', hText', -⟩ := hExtends spec.kind e he
  exact ⟨e', he', hRoom'.trans hRoom, hText'.trans hText⟩

/-- Once the intent is recorded, the line has its entry. -/
theorem hasEntry_of_intent {deps : JournalDeps β} {record : FlowRecord β} {spec : LineSpec}
    {next : Option (FlowRecord β)}
    (h : withLedgerIntent deps.checked record spec.kind spec.room (Journal.ledgerText deps spec) =
      .ok next) : HasEntry deps (next.getD record) spec :=
  (withLedgerIntent_ok h).2

/-- Two lines are the same line, or two secrets with the same digest. -/
def SameLine (deps : JournalDeps β) (a b : LineSpec) : Prop :=
  a.room = b.room ∧ (a.text = b.text ∨
    a.digestOnly = true ∧ deps.digestOfText a.text = deps.digestOfText b.text)

/-- Two lines of one kind in one ledger are the same line. -/
theorem HasEntry.same {deps : JournalDeps β} {record : FlowRecord β} {a b : LineSpec}
    {secret : LedgerKind → Bool} (ha : HasEntry deps record a) (hb : HasEntry deps record b)
    (hKind : a.kind = b.kind) (hProperA : a.Proper secret) (hProperB : b.Proper secret) :
    SameLine deps a b := by
  obtain ⟨e, he, hRoom, hText⟩ := ha
  obtain ⟨e', he', hRoom', hText'⟩ := hb
  rw [hKind, he'] at he
  obtain rfl := Option.some.inj he
  have hFlag : a.digestOnly = b.digestOnly := by
    rw [hProperA, hProperB, hKind]
  have hLedger := hText.symm.trans hText'
  rw [Journal.ledgerText, Journal.ledgerText, ← hFlag] at hLedger
  refine ⟨hRoom.symm.trans hRoom', ?_⟩
  split at hLedger
  · rename_i hDigest
    exact .inr ⟨hDigest, hLedger⟩
  · exact .inl hLedger

-- ---------------------------------------------------------------------------
-- The store and the journal
-- ---------------------------------------------------------------------------

/-- What the store has is the journal's record, or the save on its way. -/
structure StoreSound (w : FlowWorld β) (j : Journal β) (d : FlowRecord β) : Prop where
  durable : w.durable = some d
  grown : Ledger.Extends j.current d
  idle : j.failure = none → j.saving = none → d = j.current
  waiting : ∀ saving, j.saving = some saving → j.failure = none ∧
    Ledger.Extends j.current saving.next ∧ d = if w.taken then saving.next else j.current

/-- What the journal does to the world around it leaves the stored record as it is. -/
theorem after_durable {w : FlowWorld β} {j : Journal β} {fx : List (Effect β)}
    {lands : Option TranscriptRecordJson} : (w.after j fx lands).durable = w.durable ∧
      (w.after j fx lands).journal = some j ∧
      (w.after j fx lands).taken = (w.taken && !fx.any Effect.isSave) := by
  unfold FlowWorld.after
  extract_lets moved
  split <;> exact ⟨rfl, rfl, rfl⟩

/-- The journal and its store stay in step over an act of the journal. -/
theorem StoreSound.act {deps : JournalDeps β} {secret : LedgerKind → Bool} {w : FlowWorld β}
    {j j' : Journal β} {d : FlowRecord β} {e : Event β} {fx : List (Effect β)}
    {lands : Option TranscriptRecordJson} (h : StoreSound w j d) (hKeeps : j.Keeps secret e)
    (hAnswers : Answers w j e) (hStep : j.step deps e = some (j', fx)) :
    StoreSound (w.after j' fx lands) j' d := by
  obtain ⟨hDurable, -, hTaken⟩ := @after_durable _ w j' fx lands
  have hDurable' := hDurable.trans h.durable
  cases Journal.does_of_step hStep with
  | keeps hSame hQuiet =>
    have hNoSave : fx.any Effect.isSave = false :=
      List.any_eq_false.mpr fun f hf => by simp [(hQuiet f hf).2.2.1]
    rw [hNoSave, Bool.not_false, Bool.and_true] at hTaken
    refine ⟨hDurable', hSame.current ▸ h.grown, ?_, ?_⟩
    · rw [hSame.failure, hSame.saving, hSame.current]
      exact h.idle
    · rw [hSame.failure, hSame.saving, hSame.current, hTaken]
      exact h.waiting
  | @asks clock turn rest derived projected bytes hEvent hNone hUsable hTurns hDerived hProjected =>
    have hd := h.idle hUsable hNone
    refine ⟨hDurable', h.grown, nofun, ?_⟩
    rintro _ ⟨⟩
    rw [hTaken]
    refine ⟨hUsable, ?_, by simpa [Effect.isSave] using hd⟩
    -- what goes out is what the turn was handed, raised
    subst hEvent
    refine (hKeeps _ _ _ _ hTurns hDerived hProjected).1.trans ?_
    split <;> exact .of_eq rfl
  | fails hCurrent _ hFailed hSaving =>
    refine ⟨hDurable', hCurrent ▸ h.grown, ?_, ?_⟩
    · intro hUsable
      rw [hUsable] at hFailed
      cases hFailed
    · rw [hSaving]
      exact nofun
  | @acks _ saving hEvent hSaving hCurrent _ hFailure hSaving' =>
    obtain ⟨hUsable, -, hd⟩ := h.waiting saving hSaving
    have hAcked : w.taken = true := by
      rw [hEvent] at hAnswers
      exact hAnswers
    rw [hAcked, if_pos rfl] at hd
    subst hd
    refine ⟨hDurable', hCurrent ▸ .refl _, fun _ _ => hCurrent.symm, ?_⟩
    rw [hSaving']
    exact nofun

-- ---------------------------------------------------------------------------
-- Flows whose functions keep the ledger
-- ---------------------------------------------------------------------------

/-- A function of a save that only extends the ledger of the record that it is given. -/
def Grows (derive : Derive β) : Prop :=
  ∀ record next, derive record = .ok (some next) → Ledger.Extends record next

def GrowsProjector (projector : FlowRecord β → Except String (FlowRecord β)) : Prop :=
  ∀ record next, projector record = .ok next → Ledger.Extends record next

/-- The functions that a move hands to the journal extend the ledger, and the line that it asks
to post is held as its kind says. -/
def Move.Growing (secret : LedgerKind → Bool) : Move β → Prop
  | .act (.update derive) _ => Grows derive
  | .act (.setProjector projector) _ => GrowsProjector projector
  | .act (.ensurePosted spec) _ => spec.Proper secret
  | _ => True

/-- All that is queued extends the ledger, and so does the projector. -/
structure Journal.Growing (j : Journal β) : Prop where
  queue : ∀ turn ∈ j.queue, Grows turn.derive
  projector : ∀ projector ∈ j.projector, GrowsProjector projector

section

variable {deps : JournalDeps β} {secret : LedgerKind → Bool} {j j' : Journal β} {e : Event β}
  {fx : List (Effect β)} {lands : Option TranscriptRecordJson} {w w' : FlowWorld β}

/-- What the journal saves for its own posts only adds to the ledger. -/
theorem Journal.OwnDerive.grows {derive : Derive β} (h : Journal.OwnDerive deps derive) :
    Grows derive := by
  intro record next hNext
  cases h with
  | intent spec => exact (withLedgerIntent_ok hNext).1
  | landed spec venueRecord ensureIntent => exact withLanded_ok hNext

/-- A journal with updates that only add to the ledger loses no entry at its next turn. -/
theorem Journal.Growing.keepsLedger (h : j.Growing) : j.KeepsLedger := by
  intro turn rest derived projected hQueue hDerived hProjected
  have hProject : Ledger.Extends derived projected := by
    cases hP : j.projector with
    | none =>
      rw [hP] at hProjected
      obtain rfl := Except.ok.inj hProjected
      exact .refl derived
    | some projector =>
      rw [hP] at hProjected
      exact h.projector projector hP derived projected hProjected
  have hDerive := h.queue turn (hQueue ▸ List.mem_cons_self) _ _ hDerived
  exact ⟨hDerive.trans hProject, fun _ => hProject⟩

/-- Such a journal stays one, as long as it is handed nothing else. -/
theorem Journal.Growing.step (h : j.Growing) (hMove : (Move.act e lands).Growing secret)
    (hStep : j.step deps e = some (j', fx)) : j'.Growing := by
  obtain ⟨hQueue, hProjector⟩ := Journal.queues_of_step hStep
  constructor
  · intro turn hTurn
    rcases hQueue turn hTurn with hOld | ⟨-, rfl | hOwn⟩
    · exact h.queue turn hOld
    · exact hMove
    · exact hOwn.grows
  · intro projector hNew
    rcases hProjector projector hNew with hOld | rfl
    · exact h.projector projector hOld
    · exact hMove

/-- A growing journal keeps the ledger at every event. -/
theorem Journal.Growing.keeps (h : j.Growing) (hMove : (Move.act e lands).Growing secret) :
    j.Keeps secret e := by
  cases e with
  | turn clock => exact h.keepsLedger
  | ensurePosted spec => exact hMove
  | _ => trivial

/-- A move of such a journal keeps the ledger, and leaves such a journal. -/
theorem growing_step {m : Move β} (h : ∀ j, w.journal = some j → j.Growing)
    (hMove : m.Growing secret) (hStep : FlowStep deps w m w') :
    m.Keeps secret w ∧ ∀ j, w'.journal = some j → j.Growing := by
  cases hStep with
  | created => exact ⟨trivial, h⟩
  | opened =>
    refine ⟨trivial, fun j hj => ?_⟩
    obtain rfl := Option.some.inj hj
    exact ⟨nofun, nofun⟩
  | crashed => exact ⟨trivial, nofun⟩
  | taken => exact ⟨trivial, h⟩
  | others => exact ⟨trivial, h⟩
  | act hj _ hJournalStep =>
    refine ⟨fun i hi => (h i hi).keeps hMove, fun i hi => ?_⟩
    obtain rfl := Option.some.inj (after_durable.2.1.symm.trans hi)
    exact (h _ hj).step hMove hJournalStep

/-- Flows whose functions extend the ledger of the record that they are given keep it at every
move. -/
theorem keeping_of_growing {moves : List (Move β)} (h : ∀ j, w.journal = some j → j.Growing)
    (hMoves : ∀ m ∈ moves, m.Growing secret) (hRun : (flowMachine deps).Leads w moves w') :
    (keepingMachine deps secret).Leads w moves w' := by
  induction hRun with
  | nil => exact .nil _
  | cons hStep _ ih =>
    obtain ⟨hKeeps, hNext⟩ := growing_step h (hMoves _ List.mem_cons_self) hStep
    exact .cons ⟨hStep, hKeeps⟩ (ih hNext fun m hm => hMoves m (List.mem_cons_of_mem _ hm))

end

-- ---------------------------------------------------------------------------
-- The attempts and their saves
-- ---------------------------------------------------------------------------

/-- The kinds whose attempts await a save. -/
def Journal.owners (j : Journal β) : List LedgerKind :=
  j.queue.filterMap Turn.owner ++ (j.saving.bind Saving.owner).toList

/-- Every save that an attempt awaits is the one that the attempt asked for. -/
structure OwnersSound (deps : JournalDeps β) (j : Journal β) : Prop where
  nodup : j.owners.Nodup
  queue : ∀ turn ∈ j.queue, ∀ kind, turn.owner = some kind → ∃ attempt,
    j.inflight kind = some attempt ∧
      (attempt.phase = .intending ∧ (∀ record next, turn.derive record = .ok next →
          HasEntry deps (next.getD record) attempt.spec.toLineSpec) ∨
        ∃ record, attempt.phase = .marking record)
  saving : ∀ saving ∈ j.saving, ∀ kind, saving.owner = some kind → ∃ attempt,
    j.inflight kind = some attempt ∧
      (attempt.phase = .intending ∧ HasEntry deps saving.next attempt.spec.toLineSpec ∨
        ∃ record, attempt.phase = .marking record)

/-- Nothing of the kind was handed to the venue. -/
def NonePosted (posts : List (Posted β)) (kind : LedgerKind) : Prop :=
  ∀ p ∈ posts, p.spec.kind ≠ kind

/-- Every line of the kind that landed is among these records. -/
def AllAmong (deps : JournalDeps β) (posts : List (Posted β)) (kind : LedgerKind)
    (records : List TranscriptRecordJson) : Prop :=
  ∀ p ∈ posts, p.spec.kind = kind → p.landed = true → ∃ record ∈ records, Own deps p.spec record

/-- What is known of an attempt in each phase. -/
def AttemptSound (deps : JournalDeps β) (posts : List (Posted β)) (read : List TranscriptRecordJson)
    (current : FlowRecord β) (attempt : Attempt) : Prop :=
  match attempt.phase with
  | .reading => AllAmong deps posts attempt.spec.kind read ∧
      (attempt.isNew = true ∧ NonePosted posts attempt.spec.kind ∨
        attempt.isNew = false ∧ HasEntry deps current attempt.spec.toLineSpec)
  | .intending => NonePosted posts attempt.spec.kind
  | .intended => NonePosted posts attempt.spec.kind ∧
      HasEntry deps current attempt.spec.toLineSpec
  | _ => True

/-- The same of every attempt; `read` is what its room held when it was asked for. -/
structure AttemptsSound (deps : JournalDeps β) (secret : LedgerKind → Bool)
    (posts : List (Posted β)) (read : LedgerKind → List TranscriptRecordJson) (j : Journal β) :
    Prop where
  kind : ∀ kind attempt, j.inflight kind = some attempt →
    attempt.spec.kind = kind ∧ attempt.spec.Proper secret
  phase : ∀ kind attempt, j.inflight kind = some attempt →
    AttemptSound deps posts (read kind) j.current attempt

/-- The posts of a text that landed. -/
def landings (posts : List (Posted β)) (kind : LedgerKind) (text : String) : List (Posted β) :=
  posts.filter fun p => p.spec.kind = kind && p.spec.text = text && p.landed

/-- The lines that were handed to the venue. -/
structure PostsSound (deps : JournalDeps β) (secret : LedgerKind → Bool) (w : FlowWorld β) :
    Prop where
  proper : ∀ p ∈ w.posts, p.spec.Proper secret
  stored : ∀ p ∈ w.posts, ∃ record, p.stored = some record ∧ HasEntry deps record p.spec
  durable : ∀ p ∈ w.posts, ∃ d, w.durable = some d ∧ HasEntry deps d p.spec
  current : ∀ j, w.journal = some j → ∀ p ∈ w.posts, HasEntry deps j.current p.spec
  venue : ∀ kind, AllAmong deps w.posts kind w.venue
  once : ∀ kind text, (landings w.posts kind text).length ≤ 1

/-- What the room of each kind held when it was asked for. -/
def FlowWorld.read (w : FlowWorld β) (kind : LedgerKind) : List TranscriptRecordJson :=
  w.venue.take (w.readFrom kind)

structure FlowSound (deps : JournalDeps β) (secret : LedgerKind → Bool) (w : FlowWorld β) :
    Prop where
  posts : PostsSound deps secret w
  alive : ∀ j, w.journal = some j → ∃ d, StoreSound w j d ∧ OwnersSound deps j ∧
    AttemptsSound deps secret w.posts w.read j

/-! ### Awaited saves -/

def Phase.isAwaiting : Phase → Bool
  | .intending => true
  | .marking _ => true
  | _ => false

namespace OwnersSound

variable {deps : JournalDeps β} {j : Journal β} {kind : LedgerKind} {attempt : Attempt}
  {phase : Phase}

/-- An attempt that awaits no save owns none. -/
theorem free (h : OwnersSound deps j)
    (hPhase : ∀ attempt, j.inflight kind = some attempt → attempt.phase.isAwaiting = false) :
    kind ∉ j.owners := by
  intro hOwner
  have hAwaits : ∃ attempt, j.inflight kind = some attempt ∧ attempt.phase.isAwaiting = true := by
    rcases List.mem_append.mp hOwner with hQueue | hSaving
    · obtain ⟨turn, hTurn, hKind⟩ := List.mem_filterMap.mp hQueue
      obtain ⟨attempt, hAttempt, ⟨hPhase, -⟩ | ⟨record, hPhase⟩⟩ := h.queue turn hTurn kind hKind
      · exact ⟨attempt, hAttempt, by rw [hPhase]; rfl⟩
      · exact ⟨attempt, hAttempt, by rw [hPhase]; rfl⟩
    · obtain ⟨saving, hSaving, hKind⟩ := Option.bind_eq_some_iff.mp (Option.mem_toList.mp hSaving)
      obtain ⟨attempt, hAttempt, ⟨hPhase, -⟩ | ⟨record, hPhase⟩⟩ :=
        h.saving saving hSaving kind hKind
      · exact ⟨attempt, hAttempt, by rw [hPhase]; rfl⟩
      · exact ⟨attempt, hAttempt, by rw [hPhase]; rfl⟩
  obtain ⟨attempt, hAttempt, hTrue⟩ := hAwaits
  rw [hPhase attempt hAttempt] at hTrue
  cases hTrue

/-- The attempts of other kinds are the same. -/
theorem of_inflight {j' : Journal β} (h : OwnersSound deps j) (hFree : kind ∉ j.owners)
    (hQueue : j'.queue = j.queue) (hSaving : j'.saving = j.saving)
    (hInflight : ∀ other, other ≠ kind → j'.inflight other = j.inflight other) :
    OwnersSound deps j' := by
  have hOwners : j'.owners = j.owners := by rw [Journal.owners, hQueue, hSaving, Journal.owners]
  refine ⟨hOwners ▸ h.nodup, fun turn hTurn other hOther => ?_, fun saving hS other hOther => ?_⟩
  · rw [hQueue] at hTurn
    have hne : other ≠ kind := by
      rintro rfl
      exact hFree (List.mem_append_left _ (List.mem_filterMap.mpr ⟨turn, hTurn, hOther⟩))
    rw [hInflight other hne]
    exact h.queue turn hTurn other hOther
  · rw [hSaving] at hS
    have hne : other ≠ kind := by
      rintro rfl
      exact hFree (List.mem_append_right _ (Option.mem_toList.mpr
        (Option.bind_eq_some_iff.mpr ⟨saving, hS, hOther⟩)))
    rw [hInflight other hne]
    exact h.saving saving hS other hOther

/-- An attempt that goes to another phase saves nothing. -/
theorem goTo (h : OwnersSound deps j) (hFree : kind ∉ j.owners) :
    OwnersSound deps (j.goTo kind attempt phase) :=
  h.of_inflight hFree rfl rfl fun _ hne => Function.update_of_ne hne _ _

/-- A save that no attempt awaits. -/
theorem run_none (h : OwnersSound deps j) (derive : Derive β) :
    OwnersSound deps (j.run derive none) := by
  have hOwners : (j.run derive none).owners = j.owners := by
    simp [Journal.owners, Journal.run]
  refine ⟨hOwners ▸ h.nodup, fun turn hTurn kind hKind => ?_, h.saving⟩
  rcases List.mem_append.mp hTurn with hOld | hNew
  · exact h.queue turn hOld kind hKind
  · obtain rfl := List.mem_singleton.mp hNew
    cases hKind

/-- A save that an attempt awaits from now on. -/
theorem run_some (h : OwnersSound deps j) (hFree : kind ∉ j.owners) {derive : Derive β}
    (hPhase : (phase = .intending ∧ ∀ record next, derive record = .ok next →
        HasEntry deps (next.getD record) attempt.spec.toLineSpec) ∨
      ∃ record, phase = .marking record) :
    OwnersSound deps ((j.goTo kind attempt phase).run derive (some kind)) := by
  have hGone : OwnersSound deps (j.goTo kind attempt phase) := h.goTo hFree
  obtain ⟨hNodup, hQueue, hSaving⟩ := hGone
  refine ⟨?_, fun turn hTurn other hOther => ?_, hSaving⟩
  · have hOwners : ((j.goTo kind attempt phase).run derive (some kind)).owners =
        j.queue.filterMap Turn.owner ++ kind :: (j.saving.bind Saving.owner).toList := by
      simp [Journal.owners, Journal.run, Journal.goTo, Journal.setAttempt]
    rw [hOwners]
    exact List.perm_middle.nodup_iff.mpr (List.nodup_cons.mpr ⟨hFree, h.nodup⟩)
  · rcases List.mem_append.mp hTurn with hOld | hNew
    · exact hQueue turn hOld other hOther
    · obtain rfl := List.mem_singleton.mp hNew
      obtain rfl := Option.some.inj hOther
      exact ⟨_, Function.update_self _ _ _, hPhase⟩

/-- The save of an intent belongs to the attempt that queued it. -/
theorem intend (h : OwnersSound deps j) (hFree : kind ∉ j.owners) :
    OwnersSound deps (j.intend deps kind attempt) :=
  h.run_some hFree (.inl ⟨rfl, fun _ _ => hasEntry_of_intent⟩)

/-- So does the save of a landed mark. -/
theorem mark (h : OwnersSound deps j) (hFree : kind ∉ j.owners) {record : TranscriptRecordJson}
    {ensureIntent : Bool} : OwnersSound deps (j.mark deps kind attempt record ensureIntent) :=
  h.run_some hFree (.inr ⟨record, rfl⟩)

/-- The save that an attempt awaited is over. -/
theorem saved (h : OwnersSound deps j) {owner : Option LedgerKind} {result : Except String Unit}
    (hFree : ∀ kind ∈ owner, kind ∉ j.owners) : OwnersSound deps (j.saved owner result) := by
  unfold Journal.saved
  split
  · exact h
  · rename_i kind
    split
    · exact h
    · split
      all_goals first | exact h | exact h.goTo (hFree kind rfl)

/-- The turn of the first save. -/
theorem commit {turn : Turn β} {rest : List (Turn β)} {clock : Int} (h : OwnersSound deps j)
    (hKeeps : j.KeepsLedger) (hSaving : j.saving = none) (hQueue : j.queue = turn :: rest) :
    OwnersSound deps ({ j with queue := rest }.commit deps turn clock).1 := by
  -- the turn taken from the queue owns its kind, and no turn left owns the same
  have hOwners : j.owners = turn.owner.toList ++ rest.filterMap Turn.owner := by
    rw [Journal.owners, hQueue, hSaving]
    cases h : turn.owner <;> simp [h]
  have hNodup := hOwners ▸ h.nodup
  have hRestOwners : ({ j with queue := rest } : Journal β).owners = rest.filterMap Turn.owner := by
    rw [Journal.owners, hSaving]
    simp
  have hRest : OwnersSound deps { j with queue := rest } := by
    refine ⟨?_, fun t ht => h.queue t (hQueue ▸ List.mem_cons_of_mem _ ht), h.saving⟩
    rw [hRestOwners]
    exact (List.nodup_append.mp hNodup).2.1
  have hFree : ∀ kind ∈ turn.owner, kind ∉ ({ j with queue := rest } : Journal β).owners := by
    intro kind hKind hMem
    rw [hRestOwners] at hMem
    exact (List.nodup_append.mp hNodup).2.2 kind (Option.mem_toList.mpr hKind) kind hMem rfl
  -- a write that fails leaves the queue as it is
  have hFails : ∀ message, OwnersSound deps ({ j with queue := rest }.fail message) :=
    fun _ => ⟨hRest.nodup, hRest.queue, hRest.saving⟩
  unfold Journal.commit
  split
  · exact hRest.saved hFree
  · split
    · exact hRest.saved hFree
    · exact (hFails _).saved hFree
    · exact hRest.saved hFree
    · split
      · exact (hFails _).saved hFree
      · rename_i derived hDerived _ next bytes hPrepared
        -- what the write bears holds whatever the turn derived
        have hNext : turn.owner.isSome = true → Ledger.Extends derived next := by
          intro hOwner
          simp only [Journal.prepare, bind_eq_ok] at hPrepared
          obtain ⟨projected, hProjected, _, -, hNext⟩ := hPrepared
          obtain ⟨rfl, -⟩ := Prod.mk.inj (Except.ok.inj hNext)
          refine ((hKeeps _ _ _ _ hQueue hDerived hProjected).2 hOwner).trans ?_
          split <;> exact .of_eq rfl
        refine ⟨?_, hRest.queue, ?_⟩
        · have hSame : (rest.filterMap Turn.owner ++ turn.owner.toList).Nodup :=
            List.perm_append_comm.nodup_iff.mpr hNodup
          simpa [Journal.owners] using hSame
        · rintro _ ⟨⟩ kind hKind
          obtain ⟨attempt, hAttempt, hPhase⟩ :=
            h.queue turn (hQueue ▸ List.mem_cons_self) kind hKind
          refine ⟨attempt, hAttempt, hPhase.imp_left fun hIntent => ⟨hIntent.1, ?_⟩⟩
          have hOwned : turn.owner.isSome = true := Option.isSome_iff_exists.mpr ⟨kind, hKind⟩
          exact (hIntent.2 _ _ hDerived).extends (hNext hOwned)

/-- Posting saves nothing. -/
theorem postNow (h : OwnersSound deps j) (hFree : kind ∉ j.owners) :
    OwnersSound deps (j.postNow kind attempt).1 := by
  unfold Journal.postNow
  split <;> exact h.goTo hFree

/-- A new attempt queues the save of its intent, or nothing. -/
theorem postOnce {spec : PostSpec} (h : OwnersSound deps j) (hFree : spec.kind ∉ j.owners) :
    OwnersSound deps (j.postOnce deps spec).1 := by
  unfold Journal.postOnce
  extract_lets isNew attempt refuse
  split
  · exact h.goTo hFree
  · split
    · exact h.goTo hFree
    · exact h.goTo hFree
    · split
      · exact h.goTo hFree
      · split
        · exact h.goTo hFree
        · exact h.intend hFree

/-- After the room was read the attempt posts, or queues the save of its mark. -/
theorem afterRead {records : List TranscriptRecordJson} (h : OwnersSound deps j)
    (hFree : kind ∉ j.owners) : OwnersSound deps (j.afterRead deps kind attempt records).1 := by
  unfold Journal.afterRead
  split
  · exact h.mark hFree
  · split
    · split
      · exact h.intend hFree
      · exact h.postNow hFree
    · exact h.goTo hFree

/-- The store has answered. -/
theorem stored {saving : Saving β} {current : FlowRecord β} {digest failure : Option String}
    {result : Except String Unit} (h : OwnersSound deps j) (hSaving : j.saving = some saving) :
    OwnersSound deps (Journal.saved { j with
      current := current, digest := digest, failure := failure, saving := none }
      saving.owner result) := by
  have hNodup : (j.queue.filterMap Turn.owner ++ saving.owner.toList).Nodup := by
    have hOwners := h.nodup
    rw [Journal.owners, hSaving] at hOwners
    exact hOwners
  have hOwners : ({ j with
      current := current, digest := digest, failure := failure, saving := none } :
        Journal β).owners = j.queue.filterMap Turn.owner := by
    simp [Journal.owners]
  have hIdle : OwnersSound deps { j with
      current := current, digest := digest, failure := failure, saving := none } := by
    refine ⟨?_, h.queue, ?_⟩
    · rw [hOwners]
      exact (List.nodup_append.mp hNodup).1
    · rintro _ ⟨⟩
  refine hIdle.saved fun kind hKind hMem => ?_
  rw [hOwners] at hMem
  exact (List.nodup_append.mp hNodup).2.2 kind hMem kind (Option.mem_toList.mpr hKind) rfl

/-- The step lemma: after every event each queued save belongs to an attempt in its phase. -/
theorem act {secret : LedgerKind → Bool} {j' : Journal β} {e : Event β} {fx : List (Effect β)}
    (h : OwnersSound deps j) (hKeeps : j.Keeps secret e) (hStep : j.step deps e = some (j', fx)) :
    OwnersSound deps j' := by
  -- an attempt that awaits no write owns none
  have hFree : ∀ {kind attempt}, j.inflight kind = some attempt →
      attempt.phase.isAwaiting = false → kind ∉ j.owners := by
    intro kind attempt hAttempt hPhase
    refine h.free fun other hOther => ?_
    obtain rfl := Option.some.inj (hAttempt.symm.trans hOther)
    exact hPhase
  -- calls of the flow
  cases e with
  | update derive =>
    obtain ⟨rfl, -⟩ := Prod.mk.inj (Option.some.inj hStep)
    exact h.run_none derive
  | setProjector =>
    obtain ⟨rfl, -⟩ := Prod.mk.inj (Option.some.inj hStep)
    exact ⟨h.nodup, h.queue, h.saving⟩
  | ensurePosted spec =>
    simp only [Journal.step] at hStep
    split at hStep
    · obtain ⟨rfl, -⟩ := Prod.mk.inj (Option.some.inj hStep)
      exact h
    · rename_i hNone
      obtain ⟨rfl, -⟩ := Prod.mk.inj (Option.some.inj hStep)
      exact h.postOnce (h.free fun attempt hAttempt => by rw [hNone] at hAttempt; cases hAttempt)
  | adopt spec record =>
    obtain ⟨rfl, -⟩ := Prod.mk.inj (Option.some.inj hStep)
    exact h.run_none _
  -- the write queue
  | turn clock =>
    simp only [Journal.step] at hStep
    split at hStep
    · rename_i hSaving hQueue
      obtain ⟨rfl, -⟩ := Prod.mk.inj (Option.some.inj hStep)
      exact h.commit hKeeps hSaving hQueue
    · cases hStep
  | stored answer =>
    simp only [Journal.step, Option.bind_eq_bind, Option.bind_eq_some_iff] at hStep
    obtain ⟨saving, hSaving, hStep⟩ := hStep
    split at hStep
    all_goals
      obtain ⟨rfl, -⟩ := Prod.mk.inj (Option.some.inj hStep)
      exact h.stored hSaving
  -- answers of the venue
  | read kind answer =>
    simp only [Journal.step, Option.bind_eq_bind, Option.bind_eq_some_iff] at hStep
    obtain ⟨attempt, hAttempt, hStep⟩ := hStep
    split at hStep
    · rename_i hPhase
      obtain ⟨rfl, -⟩ := Prod.mk.inj (Option.some.inj hStep)
      exact h.afterRead (hFree hAttempt (by rw [hPhase]; rfl))
    · rename_i hPhase
      obtain ⟨rfl, -⟩ := Prod.mk.inj (Option.some.inj hStep)
      exact h.goTo (hFree hAttempt (by rw [hPhase]; rfl))
    · cases hStep
  | resume kind =>
    simp only [Journal.step, Option.bind_eq_bind, Option.bind_eq_some_iff] at hStep
    obtain ⟨attempt, hAttempt, hStep⟩ := hStep
    split at hStep
    · rename_i hPhase
      obtain ⟨rfl, -⟩ := Prod.mk.inj (Option.some.inj hStep)
      exact h.postNow (hFree hAttempt (by rw [hPhase]; rfl))
    · cases hStep
  | posted kind answer =>
    simp only [Journal.step, Option.bind_eq_bind, Option.bind_eq_some_iff] at hStep
    obtain ⟨attempt, hAttempt, hStep⟩ := hStep
    split at hStep
    · rename_i hPhase
      obtain ⟨rfl, -⟩ := Prod.mk.inj (Option.some.inj hStep)
      exact h.mark (hFree hAttempt (by rw [hPhase]; rfl))
    · rename_i hPhase
      obtain ⟨rfl, -⟩ := Prod.mk.inj (Option.some.inj hStep)
      exact h.goTo (hFree hAttempt (by rw [hPhase]; rfl))
    · cases hStep
  | settle kind =>
    simp only [Journal.step, Option.bind_eq_bind, Option.bind_eq_some_iff] at hStep
    obtain ⟨attempt, hAttempt, hStep⟩ := hStep
    split at hStep
    · rename_i hPhase
      obtain ⟨rfl, -⟩ := Prod.mk.inj (Option.some.inj hStep)
      exact h.of_inflight (hFree hAttempt (by rw [hPhase]; rfl)) rfl rfl
        fun _ hne => Function.update_of_ne hne _ _
    · cases hStep

end OwnersSound

/-! ### Phases -/

/-- The attempt that goes on is in its new phase. -/
theorem Journal.goTo_self (j : Journal β) (kind : LedgerKind) (attempt : Attempt) (phase : Phase) :
    (j.goTo kind attempt phase).inflight kind = some { attempt with phase := phase } :=
  Function.update_self _ _ _

/-- The attempts of other kinds stay as they are. -/
theorem Journal.goTo_other {j : Journal β} {kind other : LedgerKind} {attempt : Attempt}
    {phase : Phase} (h : other ≠ kind) :
    (j.goTo kind attempt phase).inflight other = j.inflight other :=
  Function.update_of_ne h _ _

namespace AttemptsSound

variable {deps : JournalDeps β} {secret : LedgerKind → Bool} {posts : List (Posted β)}
  {read : LedgerKind → List TranscriptRecordJson} {j : Journal β} {kind : LedgerKind}
  {attempt : Attempt} {phase : Phase}

/-- The attempts are the same, and the ledger has grown. -/
theorem of_inflight {j' : Journal β} (h : AttemptsSound deps secret posts read j)
    (hInflight : j'.inflight = j.inflight) (hGrows : Ledger.Extends j.current j'.current) :
    AttemptsSound deps secret posts read j' := by
  refine ⟨fun k a ha => h.kind k a (hInflight ▸ ha), fun k a ha => ?_⟩
  have hPhase := h.phase k a (hInflight ▸ ha)
  unfold AttemptSound at hPhase ⊢
  split
  · rename_i hReading
    rw [hReading] at hPhase
    exact ⟨hPhase.1, hPhase.2.imp_right fun hOld => ⟨hOld.1, hOld.2.extends hGrows⟩⟩
  · rename_i hIntending
    rw [hIntending] at hPhase
    exact hPhase
  · rename_i hIntended
    rw [hIntended] at hPhase
    exact ⟨hPhase.1, hPhase.2.extends hGrows⟩
  · trivial

/-- What holds of the attempts holds on, if it holds of the one that goes to another phase. -/
theorem goTo (h : AttemptsSound deps secret posts read j)
    (hKind : attempt.spec.kind = kind ∧ attempt.spec.Proper secret)
    (hPhase : AttemptSound deps posts (read kind) j.current { attempt with phase := phase }) :
    AttemptsSound deps secret posts read (j.goTo kind attempt phase) := by
  refine ⟨fun k a ha => ?_, fun k a ha => ?_⟩
  · by_cases hk : k = kind
    · subst hk
      obtain rfl := Option.some.inj ((j.goTo_self k _ _).symm.trans ha)
      exact hKind
    · exact h.kind k a ((Journal.goTo_other hk).symm.trans ha)
  · by_cases hk : k = kind
    · subst hk
      obtain rfl := Option.some.inj ((j.goTo_self k _ _).symm.trans ha)
      exact hPhase
    · exact h.phase k a ((Journal.goTo_other hk).symm.trans ha)

/-- Queueing an update is nothing to the attempts. -/
theorem run (h : AttemptsSound deps secret posts read j) (derive : Derive β)
    (owner : Option LedgerKind) : AttemptsSound deps secret posts read (j.run derive owner) :=
  h.of_inflight rfl (.refl _)

/-- A line of an attempt that awaits the venue was posted, and another room may have grown. -/
theorem posted {posts' : List (Posted β)} {read' : LedgerKind → List TranscriptRecordJson}
    (h : AttemptsSound deps secret posts read j)
    (hPosts : ∀ p ∈ posts', p ∈ posts ∨
      ∀ attempt, j.inflight p.spec.kind = some attempt → attempt.phase = .posting)
    (hRead : ∀ kind, ∀ record ∈ read kind, record ∈ read' kind) :
    AttemptsSound deps secret posts' read' j := by
  refine ⟨h.kind, fun k a ha => ?_⟩
  have hPhase := h.phase k a ha
  have hKind := (h.kind k a ha).1
  unfold AttemptSound at hPhase ⊢
  -- only an attempt that is posting meets new posts
  have hOld : a.phase ≠ .posting → ∀ p ∈ posts', p.spec.kind = a.spec.kind → p ∈ posts := by
    intro hne p hp hSame
    refine (hPosts p hp).resolve_right fun hPosting => hne (hPosting a ?_)
    rw [hSame, hKind]
    exact ha
  -- by the phase of the attempt
  split
  · rename_i hReading
    rw [hReading] at hPhase
    have hOld := hOld (by rw [hReading]; exact nofun)
    refine ⟨fun p hp hSame hLanded => ?_, hPhase.2.imp_left fun hNew => ⟨hNew.1, ?_⟩⟩
    · obtain ⟨record, hRecord, hOwn⟩ := hPhase.1 p (hOld p hp hSame) hSame hLanded
      exact ⟨record, hRead k record hRecord, hOwn⟩
    · exact fun p hp hSame => hNew.2 p (hOld p hp hSame) hSame
  · rename_i hIntending
    rw [hIntending] at hPhase
    exact fun p hp hSame => hPhase p (hOld (by rw [hIntending]; exact nofun) p hp hSame) hSame
  · rename_i hIntended
    rw [hIntended] at hPhase
    refine ⟨fun p hp hSame => ?_, hPhase.2⟩
    exact hPhase.1 p (hOld (by rw [hIntended]; exact nofun) p hp hSame) hSame
  · trivial

/-- The save that an attempt awaited is over. -/
theorem saved {owner : Option LedgerKind} {result : Except String Unit}
    (h : AttemptsSound deps secret posts read j)
    (hEntry : ∀ kind ∈ owner, ∀ attempt, j.inflight kind = some attempt →
      attempt.phase = .intending → result = .ok () →
        HasEntry deps j.current attempt.spec.toLineSpec) :
    AttemptsSound deps secret posts read (j.saved owner result) := by
  unfold Journal.saved
  split
  · exact h
  · rename_i kind
    split
    · exact h
    · rename_i attempt hAttempt
      have hKind := h.kind kind attempt hAttempt
      have hPhase := h.phase kind attempt hAttempt
      split
      · rename_i hIntending
        unfold AttemptSound at hPhase
        rw [hIntending] at hPhase
        exact h.goTo hKind ⟨hPhase, hEntry kind rfl attempt hAttempt hIntending rfl⟩
      all_goals first | exact h | exact h.goTo hKind trivial

end AttemptsSound

-- ---------------------------------------------------------------------------
-- What a step asks of the venue
-- ---------------------------------------------------------------------------

/-- Nothing is read or posted. -/
def Silent (fx : List (Effect β)) : Prop :=
  (∀ spec, fx ≠ [.read spec]) ∧ ∀ spec, Effect.post spec ∉ fx

/-- An attempt posts its line: its intent was just saved, or it was there already and the room
that was read has no such line. -/
structure Posts (deps : JournalDeps β) (j : Journal β) (e : Event β) (kind : LedgerKind)
    (attempt : Attempt) (j' : Journal β) (fx : List (Effect β)) : Prop where
  effect : fx = [.post attempt.spec]
  usable : j.failure = none
  inflight : j.inflight kind = some attempt
  next : j' = j.goTo kind attempt .posting
  phase : attempt.phase = .intended ∨ attempt.phase = .reading ∧ attempt.isNew = false ∧
    ∃ records, e = .read kind (.ok records) ∧
      Journal.findOwn deps records attempt.spec.text = none

/-- What a step asks of the venue, besides what it does to the saves. -/
inductive Asks (deps : JournalDeps β) (j : Journal β) (e : Event β) (j' : Journal β)
    (fx : List (Effect β)) : Prop
  | silent : Silent fx → Asks deps j e j' fx
  | reads {spec : PostSpec} : fx = [.read spec] → e = .ensurePosted spec →
      j.inflight spec.kind = none → Asks deps j e j' fx
  | posts {kind : LedgerKind} {attempt : Attempt} : Posts deps j e kind attempt j' fx →
      Asks deps j e j' fx

/-- Doing nothing asks nothing of the room. -/
theorem silent_nil : Silent ([] : List (Effect β)) := ⟨nofun, nofun⟩

section

variable {deps : JournalDeps β} {j j' : Journal β} {e : Event β} {fx : List (Effect β)}

/-- An attempt posts when its intent is recorded, or when it read the room and did not find its
line. -/
theorem asks_postNow {kind : LedgerKind} {attempt : Attempt}
    (hAttempt : j.inflight kind = some attempt)
    (hPhase : attempt.phase = .intended ∨ attempt.phase = .reading ∧ attempt.isNew = false ∧
      ∃ records, e = .read kind (.ok records) ∧
        Journal.findOwn deps records attempt.spec.text = none) :
    Asks deps j e (j.postNow kind attempt).1 (j.postNow kind attempt).2 := by
  unfold Journal.postNow
  split
  · exact .silent silent_nil
  · rename_i hUsable
    exact .posts ⟨rfl, hUsable, hAttempt, rfl, hPhase⟩

/-- What `postOnce` makes of a line: it ends at once, or reads the room, or asks for the save of
an intent that is not there yet. -/
theorem postOnce_cases (deps : JournalDeps β) (j : Journal β) (spec : PostSpec) :
    (∃ result, j.postOnce deps spec = (j.goTo spec.kind
      ⟨spec, (ledgerEntry j.current spec.kind).isNone, .reading⟩ (.ended result), [])) ∨
    (j.postOnce deps spec = (j.goTo spec.kind
        ⟨spec, (ledgerEntry j.current spec.kind).isNone, .reading⟩ .reading, [.read spec]) ∧
      ∃ next, withLedgerIntent deps.checked j.current spec.kind spec.room
        (Journal.ledgerText deps spec.toLineSpec) = .ok next) ∨
    (j.postOnce deps spec = (j.intend deps spec.kind
        ⟨spec, (ledgerEntry j.current spec.kind).isNone, .reading⟩, []) ∧
      (ledgerEntry j.current spec.kind).isNone = true) := by
  unfold Journal.postOnce
  extract_lets isNew attempt refuse
  split
  · exact .inl ⟨_, rfl⟩
  · split
    · exact .inl ⟨_, rfl⟩
    · exact .inl ⟨_, rfl⟩
    · rename_i next hIntent
      split
      · exact .inl ⟨_, rfl⟩
      · split
        · exact .inr (.inl ⟨rfl, next, hIntent⟩)
        · rename_i hNew
          refine .inr (.inr ⟨rfl, ?_⟩)
          cases hOld : isNew with
          | true => exact hOld
          | false => simp [hOld] at hNew

/-- A new attempt asks at most to read the room. -/
theorem asks_postOnce {spec : PostSpec} (hNone : j.inflight spec.kind = none) :
    Asks deps j (.ensurePosted spec) (j.postOnce deps spec).1 (j.postOnce deps spec).2 := by
  rcases postOnce_cases deps j spec with ⟨result, hEnds⟩ | ⟨hReads, -⟩ | ⟨hIntends, -⟩
  · rw [hEnds]
    exact .silent silent_nil
  · exact .reads (by rw [hReads]) rfl hNone
  · rw [hIntends]
    exact .silent silent_nil

/-- What is asked after a read was answered is a post, if anything. -/
theorem asks_afterRead {kind : LedgerKind} {attempt : Attempt} {records : List TranscriptRecordJson}
    (hAttempt : j.inflight kind = some attempt) (hReading : attempt.phase = .reading) :
    Asks deps j (.read kind (.ok records)) (j.afterRead deps kind attempt records).1
      (j.afterRead deps kind attempt records).2 := by
  unfold Journal.afterRead
  split
  · exact .silent silent_nil
  · rename_i hNone
    split
    · split
      · exact .silent silent_nil
      · rename_i hOld
        exact asks_postNow hAttempt
          (.inr ⟨hReading, Bool.eq_false_iff.mpr hOld, records, rfl, hNone⟩)
    · exact .silent silent_nil

/-- A turn of the queue asks nothing of the room. -/
theorem silent_commit {turn : Turn β} {clock : Int} : Silent (j.commit deps turn clock).2 := by
  unfold Journal.commit
  split
  · exact silent_nil
  · split
    · exact silent_nil
    · exact ⟨nofun, by simp⟩
    · exact silent_nil
    · split
      · exact ⟨nofun, by simp⟩
      · exact ⟨nofun, by simp⟩

/-- A step without effects asks for nothing. -/
theorem asks_of_nil {next : Journal β}
    (h : (some (next, []) : Option (Journal β × List (Effect β))) = some (j', fx)) :
    Asks deps j e j' fx := by
  obtain ⟨-, rfl⟩ := Prod.mk.inj (Option.some.inj h)
  exact .silent silent_nil

/-- What a journal asks of the room, over all of its events. -/
theorem asks_of_step (h : j.step deps e = some (j', fx)) : Asks deps j e j' fx := by
  cases e with
  | update derive =>
    exact asks_of_nil h
  | setProjector =>
    exact asks_of_nil h
  -- posting and reading are asked for here, where a kind is begun
  | ensurePosted spec =>
    simp only [Journal.step] at h
    split at h
    · exact asks_of_nil h
    · rename_i hNone
      obtain ⟨rfl, rfl⟩ := Prod.mk.inj (Option.some.inj h)
      exact asks_postOnce hNone
  | adopt spec record =>
    exact asks_of_nil h
  -- a save asks for nothing but the store
  | turn clock =>
    simp only [Journal.step] at h
    split at h
    · obtain ⟨-, rfl⟩ := Prod.mk.inj (Option.some.inj h)
      exact .silent silent_commit
    · cases h
  | stored answer =>
    simp only [Journal.step, Option.bind_eq_bind, Option.bind_eq_some_iff] at h
    obtain ⟨saving, -, h⟩ := h
    split at h
    all_goals
      obtain ⟨-, rfl⟩ := Prod.mk.inj (Option.some.inj h)
      exact .silent ⟨fun _ hRead => (by cases hRead), by simp⟩
  -- what was read decides whether the line is posted
  | read kind answer =>
    simp only [Journal.step, Option.bind_eq_bind, Option.bind_eq_some_iff] at h
    obtain ⟨attempt, hAttempt, h⟩ := h
    split at h
    · rename_i hPhase
      obtain ⟨rfl, rfl⟩ := Prod.mk.inj (Option.some.inj h)
      exact asks_afterRead hAttempt hPhase
    · exact asks_of_nil h
    · cases h
  -- and so does the write-ahead that is through
  | resume kind =>
    simp only [Journal.step, Option.bind_eq_bind, Option.bind_eq_some_iff] at h
    obtain ⟨attempt, hAttempt, h⟩ := h
    split at h
    · rename_i hPhase
      obtain ⟨rfl, rfl⟩ := Prod.mk.inj (Option.some.inj h)
      exact asks_postNow hAttempt (.inl hPhase)
    · cases h
  -- answers and ends ask for nothing
  | posted kind answer =>
    simp only [Journal.step, Option.bind_eq_bind, Option.bind_eq_some_iff] at h
    obtain ⟨attempt, -, h⟩ := h
    split at h
    all_goals first
      | cases h; done
      | exact asks_of_nil h
  | settle kind =>
    simp only [Journal.step, Option.bind_eq_bind, Option.bind_eq_some_iff] at h
    obtain ⟨attempt, -, h⟩ := h
    split at h
    · exact asks_of_nil h
    · cases h

end

-- ---------------------------------------------------------------------------
-- The invariant
-- ---------------------------------------------------------------------------

section

variable {deps : JournalDeps β} {secret : LedgerKind → Bool} {w : FlowWorld β} {j j' : Journal β}
  {d : FlowRecord β} {e : Event β} {fx : List (Effect β)} {lands : Option TranscriptRecordJson}

/-- A journal that asks nothing of the room leaves the room and the posts as they are. -/
theorem after_silent (h : Silent fx) : (w.after j fx lands).posts = w.posts ∧
    (w.after j fx lands).venue = w.venue ∧ (w.after j fx lands).readFrom = w.readFrom := by
  unfold FlowWorld.after
  extract_lets moved
  split
  · exact absurd rfl (h.1 _)
  · exact absurd (List.mem_singleton.mpr rfl) (h.2 _)
  · exact ⟨rfl, rfl, rfl⟩

/-- The journal's record only grows. -/
theorem StoreSound.current_grows (h : StoreSound w j d) (hStep : j.step deps e = some (j', fx)) :
    Ledger.Extends j.current j'.current := by
  cases Journal.does_of_step hStep with
  | keeps hSame => exact hSame.current ▸ .refl _
  | asks => exact .refl _
  | fails hCurrent => exact hCurrent ▸ .refl _
  | acks _ hSaving hCurrent => exact hCurrent ▸ (h.waiting _ hSaving).2.1

/-- Nothing was posted, and the ledger has grown. -/
theorem PostsSound.grow {w' : FlowWorld β} (h : PostsSound deps secret w)
    (hPosts : w'.posts = w.posts)
    (hVenue : ∀ record ∈ w.venue, record ∈ w'.venue)
    (hDurable : ∀ d, w.durable = some d → ∃ d', w'.durable = some d' ∧ Ledger.Extends d d')
    (hCurrent : ∀ j', w'.journal = some j' → (∃ j, w.journal = some j ∧
      Ledger.Extends j.current j'.current) ∨ w.durable = some j'.current) :
    PostsSound deps secret w' := by
  obtain ⟨hProper, hStored, hInStore, hInJournal, hInVenue, hOnce⟩ := h
  refine ⟨?_, ?_, ?_, ?_, ?_, ?_⟩
  · rwa [hPosts]
  · rwa [hPosts]
  -- what is durable only grows
  · rw [hPosts]
    intro p hp
    obtain ⟨d, hd, hEntry⟩ := hInStore p hp
    obtain ⟨d', hd', hGrows⟩ := hDurable d hd
    exact ⟨d', hd', hEntry.extends hGrows⟩
  -- a journal goes on from one of before, or from the durable record
  · rw [hPosts]
    intro j' hj' p hp
    rcases hCurrent j' hj' with ⟨j, hj, hGrows⟩ | hOpened
    · exact (hInJournal j hj p hp).extends hGrows
    · obtain ⟨d, hd, hEntry⟩ := hInStore p hp
      obtain rfl := Option.some.inj (hd.symm.trans hOpened)
      exact hEntry
  -- so does the venue
  · rw [hPosts]
    intro kind p hp hKind hLanded
    obtain ⟨record, hRecord, hOwn⟩ := hInVenue kind p hp hKind hLanded
    exact ⟨record, hVenue record hRecord, hOwn⟩
  · rwa [hPosts]

/-- A line of a kind that has landed is among the records that were read. -/
theorem seen_of_landed (h : PostsSound deps secret w) (hj : w.journal = some j)
    (hAttempts : AttemptsSound deps secret w.posts w.read j) {kind : LedgerKind} {attempt : Attempt}
    {records : List TranscriptRecordJson} (hAttempt : j.inflight kind = some attempt)
    (hReading : attempt.phase = .reading) (hAnswers : Answers w j (.read kind (.ok records)))
    {p : Posted β} (hp : p ∈ w.posts) (hSame : p.spec.kind = kind) (hLanded : p.landed = true) :
    attempt.isNew = false ∧ SameLine deps p.spec attempt.spec.toLineSpec ∧
      ∃ record ∈ records, Own deps p.spec record := by
  obtain ⟨hKind, hProper⟩ := hAttempts.kind kind attempt hAttempt
  have hSound := hAttempts.phase kind attempt hAttempt
  unfold AttemptSound at hSound
  rw [hReading] at hSound
  obtain ⟨hAmong, ⟨-, hNone⟩ | ⟨hOld, hEntry⟩⟩ := hSound
  · exact absurd (hSame.trans hKind.symm) (hNone p hp)
  -- the ledger holds one line of the kind, so that the line that landed is in this room
  have hLine := (h.current j hj p hp).same hEntry (hSame.trans hKind.symm) (h.proper p hp) hProper
  obtain ⟨record, hRecord, hOwn⟩ := hAmong p hp (hSame.trans hKind.symm) hLanded
  exact ⟨hOld, hLine, record, hAnswers attempt hAttempt record hRecord (hOwn.1.trans hLine.1), hOwn⟩

/-- A line that is about to be posted has its intent in the ledger, and has not landed yet. -/
theorem ready_to_post (h : PostsSound deps secret w) (hj : w.journal = some j)
    (hAttempts : AttemptsSound deps secret w.posts w.read j) (hAnswers : Answers w j e)
    {kind : LedgerKind} {attempt : Attempt} (hPost : Posts deps j e kind attempt j' fx) :
    HasEntry deps j.current attempt.spec.toLineSpec ∧
      ∀ p ∈ w.posts, p.spec.kind = attempt.spec.kind → p.spec.text = attempt.spec.text →
        p.landed = false := by
  obtain ⟨-, -, hAttempt, -, hPhase⟩ := hPost
  have hKind := (hAttempts.kind kind attempt hAttempt).1
  have hSound := hAttempts.phase kind attempt hAttempt
  unfold AttemptSound at hSound
  rcases hPhase with hIntended | ⟨hReading, hOld, records, rfl, hNone⟩
  · rw [hIntended] at hSound
    exact ⟨hSound.2, fun p hp hSame => absurd hSame (hSound.1 p hp)⟩
  · rw [hReading] at hSound
    obtain ⟨-, ⟨hNew, -⟩ | ⟨-, hEntry⟩⟩ := hSound
    · rw [hOld] at hNew
      cases hNew
    refine ⟨hEntry, fun p hp hSame hText => ?_⟩
    by_contra hLanded
    obtain ⟨-, -, record, hRecord, -, hLine, hSender, hVerified⟩ :=
      seen_of_landed h hj hAttempts hAttempt hReading hAnswers hp (hSame.trans hKind)
        (Bool.of_not_eq_false hLanded)
    have hMissed := List.find?_eq_none.mp hNone record hRecord
    simp [hSender, hLine.trans hText, hVerified] at hMissed

/-- Every line that an act posts has its entry in the stored record. -/
theorem PostsSound.act (h : PostsSound deps secret w)
    (hj : w.journal = some j) (hStore : StoreSound w j d)
    (hAttempts : AttemptsSound deps secret w.posts w.read j) (hAnswers : Answers w j e)
    (hStep : j.step deps e = some (j', fx))
    (hLands : ∀ spec, Effect.post spec ∈ fx → ∀ record ∈ lands, Own deps spec.toLineSpec record) :
    PostsSound deps secret (w.after j' fx lands) := by
  obtain ⟨hDurable, hJournal, -⟩ := @after_durable _ w j' fx lands
  have hGrown : PostsSound deps secret (w.after j' fx lands) ∨ ∃ kind attempt,
      Posts deps j e kind attempt j' fx := by
    cases asks_of_step hStep with
    | silent hSilent =>
      obtain ⟨hPosts, hVenue, -⟩ := @after_silent _ w j' fx lands hSilent
      refine .inl (h.grow hPosts (fun _ hr => hVenue ▸ hr) (fun d' hd' => ?_) fun j'' hj'' => ?_)
      · exact ⟨d', hDurable.trans hd', .refl d'⟩
      · obtain rfl := Option.some.inj (hJournal.symm.trans hj'')
        exact .inl ⟨j, hj, hStore.current_grows hStep⟩
    | reads hEffect =>
      subst hEffect
      have hSame : ∀ d', w.durable = some d' →
          ∃ d'', w.durable = some d'' ∧ Ledger.Extends d' d'' := fun d' hd' => ⟨d', hd', .refl d'⟩
      refine .inl (h.grow rfl (fun _ hr => hr) hSame fun j'' hj'' => ?_)
      obtain rfl := Option.some.inj hj''
      exact Or.inl ⟨j, hj, hStore.current_grows hStep⟩
    | posts hPost => exact .inr ⟨_, _, hPost⟩
  rcases hGrown with hGrown | ⟨kind, attempt, hPost⟩
  · exact hGrown
  obtain ⟨hEntry, hNone⟩ := ready_to_post h hj hAttempts hAnswers hPost
  obtain ⟨rfl, -, hAttempt, rfl, -⟩ := hPost
  have hProper := (hAttempts.kind kind attempt hAttempt).2
  have hOwn := hLands attempt.spec (List.mem_singleton.mpr rfl)
  have hMem : ∀ p ∈ w.posts ++ [⟨attempt.spec.toLineSpec, lands.isSome, w.durable⟩],
      p ∈ w.posts ∨ p = ⟨attempt.spec.toLineSpec, lands.isSome, w.durable⟩ := by
    intro p hp
    exact (List.mem_append.mp hp).imp_right List.mem_singleton.mp
  refine ⟨fun p hp => ?_, fun p hp => ?_, fun p hp => ?_, fun i hi p hp => ?_, fun k p hp => ?_,
    fun k text => ?_⟩
  -- the spec that was posted is proper
  · rcases hMem p hp with hOld | rfl
    · exact h.proper p hOld
    · exact hProper
  -- its entry was stored before
  · rcases hMem p hp with hOld | rfl
    · exact h.stored p hOld
    · exact ⟨d, hStore.durable, hEntry.extends hStore.grown⟩
  -- and is durable
  · rcases hMem p hp with hOld | rfl
    · exact h.durable p hOld
    · exact ⟨d, hStore.durable, hEntry.extends hStore.grown⟩
  -- and is in the journal's own ledger
  · obtain rfl := Option.some.inj hi
    rcases hMem p hp with hOld | rfl
    · exact h.current j hj p hOld
    · exact hEntry
  -- what landed is at the venue
  · intro hKind hLanded
    rcases hMem p hp with hOld | rfl
    · obtain ⟨record, hRecord, hOwn'⟩ := h.venue k p hOld hKind hLanded
      exact ⟨record, List.mem_append_left _ hRecord, hOwn'⟩
    · obtain ⟨record, rfl⟩ := Option.isSome_iff_exists.mp hLanded
      exact ⟨record, List.mem_append_right _ (List.mem_singleton.mpr rfl), hOwn record rfl⟩
  -- a text lands again only where no earlier landing of it is on record
  · show (landings (w.posts ++ [⟨attempt.spec.toLineSpec, lands.isSome, w.durable⟩]) k text).length
      ≤ 1
    rw [landings, List.filter_append, List.length_append]
    by_cases hk : attempt.spec.kind = k ∧ attempt.spec.text = text
    · have hNil : landings w.posts k text = [] := by
        refine List.filter_eq_nil_iff.mpr fun p hp hBoth => ?_
        simp only [Bool.and_eq_true, decide_eq_true_eq] at hBoth
        obtain ⟨⟨hKind, hText⟩, hLanded⟩ := hBoth
        rw [hNone p hp (hKind.trans hk.1.symm) (hText.trans hk.2.symm)] at hLanded
        cases hLanded
      rw [landings] at hNil
      rw [hNil]
      exact (Nat.zero_add _).trans_le (List.length_filter_le _ _)
    -- a landing of another text counts for that text alone
    · have hOther : landings [(⟨attempt.spec.toLineSpec, lands.isSome, w.durable⟩ : Posted β)]
          k text = [] := by
        refine List.filter_eq_nil_iff.mpr fun p hp hBoth => hk ?_
        obtain rfl := List.mem_singleton.mp hp
        simp only [Bool.and_eq_true, decide_eq_true_eq] at hBoth
        exact hBoth.1
      rw [landings] at hOther
      rw [hOther]
      exact h.once k text

end

/-! ### The attempts over a step -/

namespace AttemptsSound

section

variable {deps : JournalDeps β} {secret : LedgerKind → Bool} {posts : List (Posted β)}
  {read : LedgerKind → List TranscriptRecordJson} {j j' : Journal β} {kind : LedgerKind}
  {attempt : Attempt} {fx : List (Effect β)}

/-- An attempt that has ended promises nothing more. -/
theorem ended (h : AttemptsSound deps secret posts read j) {result : Except String TranscriptRecordJson}
    (hKind : attempt.spec.kind = kind ∧ attempt.spec.Proper secret) :
    AttemptsSound deps secret posts read (j.goTo kind attempt (.ended result)) :=
  h.goTo hKind trivial

/-- An attempt that marks its line has found it. -/
theorem mark (h : AttemptsSound deps secret posts read j) {record : TranscriptRecordJson}
    {ensureIntent : Bool} (hKind : attempt.spec.kind = kind ∧ attempt.spec.Proper secret) :
    AttemptsSound deps secret posts read (j.mark deps kind attempt record ensureIntent) := by
  have hGone : AttemptsSound deps secret posts read (j.goTo kind attempt (.marking record)) :=
    h.goTo hKind trivial
  exact hGone.run _ _

/-- An attempt that records its intent has nothing in the room. -/
theorem intend (h : AttemptsSound deps secret posts read j)
    (hKind : attempt.spec.kind = kind ∧ attempt.spec.Proper secret)
    (hNone : NonePosted posts attempt.spec.kind) :
    AttemptsSound deps secret posts read (j.intend deps kind attempt) := by
  have hGone : AttemptsSound deps secret posts read (j.goTo kind attempt .intending) :=
    h.goTo hKind hNone
  exact hGone.run _ _

/-- An attempt that posts has its entry. -/
theorem postNow (h : AttemptsSound deps secret posts read j)
    (hKind : attempt.spec.kind = kind ∧ attempt.spec.Proper secret) :
    AttemptsSound deps secret posts read (j.postNow kind attempt).1 := by
  unfold Journal.postNow
  split
  · exact h.ended hKind
  · exact h.goTo hKind trivial

/-- A line whose kind has no intent was never posted. -/
theorem none_posted {spec : LineSpec} (hPosts : ∀ p ∈ posts, HasEntry deps j.current p.spec)
    (hNew : (ledgerEntry j.current spec.kind).isNone = true) : NonePosted posts spec.kind := by
  intro p hp hKind
  obtain ⟨e, he, -⟩ := hPosts p hp
  rw [← hKind, he] at hNew
  cases hNew

/-- A new attempt starts where the ledger has its line. -/
theorem postOnce {spec : PostSpec} (h : AttemptsSound deps secret posts read j)
    (hPosts : ∀ p ∈ posts, HasEntry deps j.current p.spec) (hProper : spec.Proper secret)
    (hSilent : Silent (j.postOnce deps spec).2) :
    AttemptsSound deps secret posts read (j.postOnce deps spec).1 := by
  rcases postOnce_cases deps j spec with ⟨result, hEnds⟩ | ⟨hReads, -⟩ | ⟨hIntends, hNew⟩
  · rw [hEnds]
    exact h.ended ⟨rfl, hProper⟩
  · rw [hReads] at hSilent
    exact absurd rfl (hSilent.1 spec)
  · rw [hIntends]
    exact h.intend ⟨rfl, hProper⟩ (none_posted hPosts hNew)

/-- After a read the attempt marks the line that it found, or posts. -/
theorem afterRead {records : List TranscriptRecordJson} (h : AttemptsSound deps secret posts read j)
    (hAttempt : j.inflight kind = some attempt) (hReading : attempt.phase = .reading) :
    AttemptsSound deps secret posts read (j.afterRead deps kind attempt records).1 := by
  have hKind := h.kind kind attempt hAttempt
  have hPhase := h.phase kind attempt hAttempt
  unfold AttemptSound at hPhase
  rw [hReading] at hPhase
  unfold Journal.afterRead
  split
  · exact h.mark hKind
  · split
    · split
      · rename_i hNew
        rcases hPhase.2 with ⟨-, hNone⟩ | ⟨hOld, -⟩
        · exact h.intend hKind hNone
        · rw [hOld] at hNew
          cases hNew
      · exact h.postNow hKind
    · exact h.ended hKind

/-- An update that is refused changes nothing for the attempts. -/
theorem saved_error {owner : Option LedgerKind} {error : String}
    (h : AttemptsSound deps secret posts read j) :
    AttemptsSound deps secret posts read (j.saved owner (.error error)) :=
  h.saved fun _ _ _ _ _ hOk => by cases hOk

/-- The queue's next save, which an attempt may await. -/
theorem turn {turn : Turn β} {rest : List (Turn β)} {clock : Int}
    (h : AttemptsSound deps secret posts read j) (hOwners : OwnersSound deps j)
    (hQueue : j.queue = turn :: rest) :
    AttemptsSound deps secret posts read ({ j with queue := rest }.commit deps turn clock).1 := by
  have hRest : AttemptsSound deps secret posts read { j with queue := rest } :=
    h.of_inflight rfl (.refl _)
  have hFails : ∀ message,
      AttemptsSound deps secret posts read ({ j with queue := rest }.fail message) :=
    fun _ => hRest.of_inflight rfl (.refl _)
  unfold Journal.commit
  -- the write fails, or it is committed and the turn's attempt has its entry in it
  split
  · exact hRest.saved_error
  · split
    · exact hRest.saved_error
    · exact (hFails _).saved_error
    · rename_i hDerived
      refine hRest.saved fun kind hKind a ha hIntending _ => ?_
      obtain ⟨a', ha', hIntent | ⟨record, hMarking⟩⟩ :=
        hOwners.queue turn (hQueue ▸ List.mem_cons_self) kind hKind
      · obtain rfl := Option.some.inj (ha.symm.trans ha')
        exact hIntent.2 _ _ hDerived
      · obtain rfl := Option.some.inj (ha.symm.trans ha')
        -- a marking write does not bear an intent
        rw [hMarking] at hIntending
        cases hIntending
    · split
      · exact (hFails _).saved_error
      · exact hRest.of_inflight rfl (.refl _)

/-- The store has acknowledged a save. -/
theorem acked {saving : Saving β} {digest : Option String}
    (h : AttemptsSound deps secret posts read j) (hOwners : OwnersSound deps j)
    (hSaving : j.saving = some saving) (hGrows : Ledger.Extends j.current saving.next) :
    AttemptsSound deps secret posts read
      (Journal.saved { j with current := saving.next, digest := digest, saving := none }
        saving.owner (.ok ())) := by
  have hNext : AttemptsSound deps secret posts read
      { j with current := saving.next, digest := digest, saving := none } :=
    h.of_inflight rfl hGrows
  refine hNext.saved fun kind hKind a ha hIntending _ => ?_
  obtain ⟨a', ha', hIntent | ⟨record, hMarking⟩⟩ := hOwners.saving saving hSaving kind hKind
  · obtain rfl := Option.some.inj (ha.symm.trans ha')
    exact hIntent.2
  · obtain rfl := Option.some.inj (ha.symm.trans ha')
    rw [hMarking] at hIntending
    cases hIntending

/-- The end of an attempt. -/
theorem settle (h : AttemptsSound deps secret posts read j) :
    AttemptsSound deps secret posts read
      { j with inflight := Function.update j.inflight kind none } := by
  have hOld : ∀ k a, Function.update j.inflight kind none k = some a →
      j.inflight k = some a := by
    intro k a ha
    by_cases hk : k = kind
    · subst hk
      rw [Function.update_self] at ha
      cases ha
    · rwa [Function.update_of_ne hk] at ha
  exact ⟨fun k a ha => h.kind k a (hOld k a ha), fun k a ha => h.phase k a (hOld k a ha)⟩

/-- A step that asks nothing of the venue. -/
theorem silent {e : Event β} (h : AttemptsSound deps secret posts read j)
    (hOwners : OwnersSound deps j) (hPosts : ∀ p ∈ posts, HasEntry deps j.current p.spec)
    (hWaiting : ∀ saving, j.saving = some saving → Ledger.Extends j.current saving.next)
    (hKeeps : j.Keeps secret e) (hStep : j.step deps e = some (j', fx)) (hSilent : Silent fx) :
    AttemptsSound deps secret posts read j' := by
  cases e with
  -- calls of the flow start a write and touch no attempt
  | update derive =>
    obtain ⟨rfl, -⟩ := Prod.mk.inj (Option.some.inj hStep)
    exact h.run _ _
  | setProjector =>
    obtain ⟨rfl, -⟩ := Prod.mk.inj (Option.some.inj hStep)
    exact h.of_inflight rfl (.refl _)
  | ensurePosted spec =>
    simp only [Journal.step] at hStep
    split at hStep
    · obtain ⟨rfl, -⟩ := Prod.mk.inj (Option.some.inj hStep)
      exact h
    · obtain ⟨rfl, rfl⟩ := Prod.mk.inj (Option.some.inj hStep)
      exact h.postOnce hPosts hKeeps hSilent
  | adopt spec record =>
    obtain ⟨rfl, -⟩ := Prod.mk.inj (Option.some.inj hStep)
    exact h.run _ _
  -- turns of the write queue
  | turn clock =>
    simp only [Journal.step] at hStep
    split at hStep
    · rename_i hQueue
      obtain ⟨rfl, -⟩ := Prod.mk.inj (Option.some.inj hStep)
      exact h.turn hOwners hQueue
    · cases hStep
  | stored answer =>
    simp only [Journal.step, Option.bind_eq_bind, Option.bind_eq_some_iff] at hStep
    obtain ⟨saving, hSaving, hStep⟩ := hStep
    split at hStep
    · obtain ⟨rfl, -⟩ := Prod.mk.inj (Option.some.inj hStep)
      exact h.acked hOwners hSaving (hWaiting saving hSaving)
    · obtain ⟨rfl, -⟩ := Prod.mk.inj (Option.some.inj hStep)
      exact AttemptsSound.saved_error (h.of_inflight rfl (.refl _))
  -- answers of the venue move one attempt
  | read kind answer =>
    simp only [Journal.step, Option.bind_eq_bind, Option.bind_eq_some_iff] at hStep
    obtain ⟨attempt, hAttempt, hStep⟩ := hStep
    split at hStep
    · rename_i hPhase
      obtain ⟨rfl, -⟩ := Prod.mk.inj (Option.some.inj hStep)
      exact h.afterRead hAttempt hPhase
    · obtain ⟨rfl, -⟩ := Prod.mk.inj (Option.some.inj hStep)
      exact h.ended (h.kind kind attempt hAttempt)
    · cases hStep
  | resume kind =>
    simp only [Journal.step, Option.bind_eq_bind, Option.bind_eq_some_iff] at hStep
    obtain ⟨attempt, hAttempt, hStep⟩ := hStep
    split at hStep
    · obtain ⟨rfl, -⟩ := Prod.mk.inj (Option.some.inj hStep)
      exact h.postNow (h.kind kind attempt hAttempt)
    · cases hStep
  | posted kind answer =>
    simp only [Journal.step, Option.bind_eq_bind, Option.bind_eq_some_iff] at hStep
    obtain ⟨attempt, hAttempt, hStep⟩ := hStep
    split at hStep
    · obtain ⟨rfl, -⟩ := Prod.mk.inj (Option.some.inj hStep)
      exact h.mark (h.kind kind attempt hAttempt)
    · obtain ⟨rfl, -⟩ := Prod.mk.inj (Option.some.inj hStep)
      exact h.ended (h.kind kind attempt hAttempt)
    · cases hStep
  | settle kind =>
    simp only [Journal.step, Option.bind_eq_bind, Option.bind_eq_some_iff] at hStep
    obtain ⟨attempt, hAttempt, hStep⟩ := hStep
    -- an attempt that ends leaves the others
    split at hStep
    · obtain ⟨rfl, -⟩ := Prod.mk.inj (Option.some.inj hStep)
      exact h.settle
    · cases hStep

end

end AttemptsSound

section

variable {deps : JournalDeps β} {secret : LedgerKind → Bool} {w : FlowWorld β} {j j' : Journal β}
  {d : FlowRecord β} {e : Event β} {fx : List (Effect β)} {lands : Option TranscriptRecordJson}

/-- Where the ledger has an entry of the kind, an intent that goes through is of that entry. -/
theorem hasEntry_of_old {record : FlowRecord β} {spec : LineSpec} {next : Option (FlowRecord β)}
    (h : withLedgerIntent deps.checked record spec.kind spec.room (Journal.ledgerText deps spec) =
      .ok next) (hOld : (ledgerEntry record spec.kind).isNone = false) :
    HasEntry deps record spec := by
  unfold withLedgerIntent at h
  cases hEntry : ledgerEntry record spec.kind with
  | none =>
    rw [hEntry] at hOld
    cases hOld
  | some existing =>
    rw [hEntry] at h
    simp only [bind_eq_ok, require_eq_ok, exists_const] at h
    exact ⟨existing, hEntry, h.1⟩

/-- The room of a kind is asked for, and nothing is known of another kind. -/
theorem AttemptsSound.reads {spec : PostSpec} (h : AttemptsSound deps secret w.posts w.read j)
    (hVenue : AllAmong deps w.posts spec.kind w.venue)
    (hPosts : ∀ p ∈ w.posts, HasEntry deps j.current p.spec) (hProper : spec.Proper secret)
    (hIntent : ∃ next, withLedgerIntent deps.checked j.current spec.kind spec.room
      (Journal.ledgerText deps spec.toLineSpec) = .ok next) :
    AttemptsSound deps secret w.posts
      (fun kind => w.venue.take (Function.update w.readFrom spec.kind w.venue.length kind))
      (j.goTo spec.kind ⟨spec, (ledgerEntry j.current spec.kind).isNone, .reading⟩ .reading) := by
  have hOther : ∀ kind, kind ≠ spec.kind →
      w.venue.take (Function.update w.readFrom spec.kind w.venue.length kind) = w.read kind := by
    intro kind hne
    rw [Function.update_of_ne hne, FlowWorld.read]
  -- the attempt that begins knows its kind
  refine ⟨fun k a ha => ?_, fun k a ha => ?_⟩
  · by_cases hk : k = spec.kind
    · subst hk
      obtain rfl := Option.some.inj ((j.goTo_self _ _ _).symm.trans ha)
      exact ⟨rfl, hProper⟩
    · exact h.kind k a ((Journal.goTo_other hk).symm.trans ha)
  -- either the intent is new, and nothing was posted of it, or the entry was there before
  · by_cases hk : k = spec.kind
    · subst hk
      obtain rfl := Option.some.inj ((j.goTo_self _ _ _).symm.trans ha)
      rw [Function.update_self, List.take_length]
      refine ⟨hVenue, ?_⟩
      cases hNew : (ledgerEntry j.current spec.kind).isNone with
      | true => exact .inl ⟨rfl, AttemptsSound.none_posted hPosts hNew⟩
      | false =>
        obtain ⟨next, hOk⟩ := hIntent
        exact .inr ⟨rfl, hasEntry_of_old hOk hNew⟩
    · have hOld : j.inflight k = some a := (Journal.goTo_other hk).symm.trans ha
      rw [hOther k hk]
      exact h.phase k a hOld

/-- The step lemma of the attempts. -/
theorem AttemptsSound.act (h : AttemptsSound deps secret w.posts w.read j)
    (hSound : PostsSound deps secret w) (hj : w.journal = some j) (hStore : StoreSound w j d)
    (hOwners : OwnersSound deps j) (hKeeps : j.Keeps secret e)
    (hStep : j.step deps e = some (j', fx)) :
    AttemptsSound deps secret (w.after j' fx lands).posts (w.after j' fx lands).read j' := by
  have hPosts := hSound.current j hj
  cases asks_of_step hStep with
  -- an event without an effect changes no post
  | silent hSilent =>
    obtain ⟨hSamePosts, hVenue, hReadFrom⟩ := @after_silent _ w j' fx lands hSilent
    have hRead : (w.after j' fx lands).read = w.read := by
      funext kind
      rw [FlowWorld.read, hVenue, hReadFrom, FlowWorld.read]
    rw [hSamePosts, hRead]
    exact h.silent hOwners hPosts (fun saving hS => (hStore.waiting saving hS).2.1) hKeeps hStep
      hSilent
  -- a read begins an attempt
  | @reads spec hEffect hEvent hNone =>
    subst hEffect
    subst hEvent
    simp only [Journal.step, hNone] at hStep
    have hOnce : j.postOnce deps spec = (j', [.read spec]) := Option.some.inj hStep
    rcases postOnce_cases deps j spec with ⟨result, hEnds⟩ | ⟨hReading, hIntent⟩ | ⟨hIntends, -⟩
    · rw [hEnds] at hOnce
      cases (Prod.mk.inj hOnce).2
    · rw [hReading] at hOnce
      obtain ⟨rfl, -⟩ := Prod.mk.inj hOnce
      exact h.reads (hSound.venue spec.kind) hPosts hKeeps hIntent
    · rw [hIntends] at hOnce
      cases (Prod.mk.inj hOnce).2
  -- a post ends in the posts what its attempt was about
  | @posts kind attempt hPost =>
    obtain ⟨rfl, -, hAttempt, rfl, -⟩ := hPost
    obtain ⟨hKind, hSpec⟩ := h.kind kind attempt hAttempt
    have hPosting : AttemptsSound deps secret w.posts w.read (j.goTo kind attempt .posting) :=
      h.goTo ⟨hKind, hSpec⟩ trivial
    refine hPosting.posted (fun p hp => ?_) fun k record hRecord => ?_
    · refine (List.mem_append.mp hp).imp_right fun hNew a ha => ?_
      obtain rfl := List.mem_singleton.mp hNew
      rw [show attempt.spec.toLineSpec.kind = kind from hKind] at ha
      obtain rfl := Option.some.inj ((j.goTo_self _ _ _).symm.trans ha)
      rfl
    · show record ∈ (w.venue ++ lands.toList).take (w.readFrom k)
      rw [List.take_append]
      exact List.mem_append_left _ hRecord

end

/-! ### Every step keeps it -/

section

variable {deps : JournalDeps β} {secret : LedgerKind → Bool} {w w' : FlowWorld β} {m : Move β}

/-- A flow starts with nothing posted. -/
theorem FlowSound.init (h : (flowMachine deps).init w) : FlowSound deps secret w := by
  obtain ⟨hDurable, hJournal, hPosts⟩ := h
  have hNone : ∀ p, p ∉ w.posts := fun p hp => by rw [hPosts] at hp; cases hp
  refine ⟨⟨fun p hp => absurd hp (hNone p), fun p hp => absurd hp (hNone p),
    fun p hp => absurd hp (hNone p), fun _ _ p hp => absurd hp (hNone p),
    fun _ p hp => absurd hp (hNone p), fun kind text => ?_⟩, fun j hj => ?_⟩
  · rw [hPosts]
    exact Nat.zero_le 1
  · rw [hJournal] at hj
    cases hj

/-- The flow that opens a record knows nothing but the record. -/
theorem FlowSound.opened {record : FlowRecord β} {digest : String} (h : FlowSound deps secret w)
    (hDurable : w.durable = some record) :
    FlowSound deps secret { w with journal := some (.opened record digest) } := by
  refine ⟨h.posts.grow rfl (fun _ hr => hr) (fun d hd => ⟨d, hd, .refl d⟩) fun j hj => ?_,
    fun j hj => ⟨record, ?_, ?_, ?_⟩⟩
  · obtain rfl := Option.some.inj hj
    exact .inr hDurable
  · obtain rfl := Option.some.inj hj
    exact ⟨hDurable, .refl record, fun _ _ => rfl, nofun⟩
  · obtain rfl := Option.some.inj hj
    exact ⟨List.nodup_nil, nofun, nofun⟩
  · obtain rfl := Option.some.inj hj
    have hNone : ∀ kind attempt, (Journal.opened record digest).inflight kind ≠ some attempt :=
      fun _ _ h => Option.some_ne_none _ h.symm
    exact ⟨fun k a ha => absurd ha (hNone k a), fun k a ha => absurd ha (hNone k a)⟩

/-- The store takes a save. -/
theorem FlowSound.taken {j : Journal β} {saving : Saving β} (h : FlowSound deps secret w)
    (hj : w.journal = some j) (hSaving : j.saving = some saving) :
    FlowSound deps secret { w with durable := some saving.next, taken := true } := by
  obtain ⟨d, hStore, hOwners, hAttempts⟩ := h.alive j hj
  obtain ⟨hUsable, hGrows, hd⟩ := hStore.waiting saving hSaving
  have hDurable : Ledger.Extends d saving.next := by
    rw [hd]
    split
    · exact .refl _
    · exact hGrows
  refine ⟨h.posts.grow rfl (fun _ hr => hr) (fun d' hd' => ?_) fun i hi => ?_, fun i hi => ?_⟩
  · obtain rfl := Option.some.inj (hStore.durable.symm.trans hd')
    exact ⟨saving.next, rfl, hDurable⟩
  · exact .inl ⟨i, hi, .refl _⟩
  · obtain rfl := Option.some.inj (hj.symm.trans hi)
    refine ⟨saving.next, ⟨rfl, hGrows, fun _ hIdle => ?_, fun saving' hSaving' => ?_⟩, hOwners,
      hAttempts⟩
    · rw [hSaving] at hIdle
      cases hIdle
    · obtain rfl := Option.some.inj (hSaving.symm.trans hSaving')
      exact ⟨hUsable, hGrows, rfl⟩

/-- Somebody else's record appears at the venue. -/
theorem FlowSound.others {record : TranscriptRecordJson} (h : FlowSound deps secret w) :
    FlowSound deps secret { w with venue := w.venue ++ [record] } := by
  refine ⟨h.posts.grow rfl (fun _ hr => List.mem_append_left _ hr)
    (fun d hd => ⟨d, hd, .refl d⟩) fun i hi => .inl ⟨i, hi, .refl _⟩, fun j hj => ?_⟩
  obtain ⟨d, hStore, hOwners, hAttempts⟩ := h.alive j hj
  refine ⟨d, ⟨hStore.durable, hStore.grown, hStore.idle, hStore.waiting⟩, hOwners,
    hAttempts.posted (fun p hp => .inl hp) fun kind r hr => ?_⟩
  show r ∈ (w.venue ++ [record]).take (w.readFrom kind)
  rw [List.take_append]
  exact List.mem_append_left _ hr

/-- The step lemma of a flow whose saves keep the ledger. -/
theorem FlowSound.step (h : FlowSound deps secret w) (hStep : FlowStep deps w m w')
    (hKeeps : m.Keeps secret w) : FlowSound deps secret w' := by
  cases hStep with
  -- a created journal starts from an empty directory, so nothing was posted yet
  | @created record hNone =>
    have hDead : ∀ j, w.journal ≠ some j := by
      intro j hj
      obtain ⟨d, hStore, -⟩ := h.alive j hj
      have hSome := hStore.durable
      rw [hNone] at hSome
      cases hSome
    refine ⟨h.posts.grow rfl (fun _ hr => hr) (fun d hd => ?_) fun j hj => absurd hj (hDead j),
      fun j hj => absurd hj (hDead j)⟩
    rw [hNone] at hd
    cases hd
  -- an opened journal starts from what is durable
  | opened hDurable => exact h.opened hDurable
  -- a crash takes the journal and nothing else
  | crashed =>
    exact ⟨h.posts.grow rfl (fun _ hr => hr) (fun d hd => ⟨d, hd, .refl d⟩) nofun, nofun⟩
  | taken hj hSaving => exact h.taken hj hSaving
  -- a record written by others, or the events of the journal itself
  | others => exact h.others
  | @act j j' event fx lands hj hAnswers hJournalStep hLands =>
    obtain ⟨d, hStore, hOwners, hAttempts⟩ := h.alive j hj
    refine ⟨h.posts.act hj hStore hAttempts hAnswers hJournalStep hLands, fun i hi => ?_⟩
    obtain rfl := Option.some.inj (after_durable.2.1.symm.trans hi)
    have hKept := hKeeps j hj
    exact ⟨d, hStore.act hKept hAnswers hJournalStep, hOwners.act hKept hJournalStep,
      hAttempts.act h.posts hj hStore hOwners hKept hJournalStep⟩

/-- And so it is in every state that such a flow reaches. -/
theorem FlowSound.of_reachable (h : (keepingMachine deps secret).Reachable w) :
    FlowSound deps secret w :=
  Machine.invariant (fun _ => .init) (fun _ _ _ _ hSound hStep => hSound.step hStep.1 hStep.2) h

/-- What the store has only ever grows. -/
def StoreGrows (w w' : FlowWorld β) : Prop :=
  ∀ d, w.durable = some d → ∃ d', w'.durable = some d' ∧ Ledger.Extends d d'

/-- No move takes an entry or a landed mark from the stored record, when its saves keep the ledger.
-/
theorem storeGrows_step (h : FlowSound deps secret w) (hStep : FlowStep deps w m w') :
    StoreGrows w w' := by
  intro d hd
  cases hStep with
  | created hNone =>
    rw [hNone] at hd
    cases hd
  | opened => exact ⟨d, hd, .refl d⟩
  | crashed => exact ⟨d, hd, .refl d⟩
  | @taken j saving hj hSaving =>
    obtain ⟨d', hStore, -⟩ := h.alive j hj
    obtain rfl := Option.some.inj (hStore.durable.symm.trans hd)
    obtain ⟨-, hGrows, hd'⟩ := hStore.waiting saving hSaving
    refine ⟨saving.next, rfl, ?_⟩
    rw [hd']
    split
    · exact .refl _
    · exact hGrows
  | others => exact ⟨d, hd, .refl d⟩
  | act => exact ⟨d, after_durable.1.trans hd, .refl d⟩

/-- A line that has landed is adopted when its room is read. -/
theorem adopts {j : Journal β} {kind : LedgerKind} {records : List TranscriptRecordJson}
    {lands : Option TranscriptRecordJson} (h : FlowSound deps secret w) (hj : w.journal = some j)
    (hStep : FlowStep deps w (.act (.read kind (.ok records)) lands) w') {p : Posted β}
    (hp : p ∈ w.posts) (hKind : p.spec.kind = kind) (hLanded : p.landed = true)
    (hSame : ∀ attempt, j.inflight kind = some attempt → attempt.spec.text = p.spec.text) :
    w'.posts = w.posts ∧ ∃ j' attempt record, w'.journal = some j' ∧
      j'.inflight kind = some attempt ∧ attempt.phase = .marking record ∧
      record.line = p.spec.text ∧ record.sender = deps.did ∧ deps.verify record = true := by
  cases hStep with
  | @act i j' event fx _ hi hAnswers hJournalStep hLands =>
    obtain rfl := Option.some.inj (hj.symm.trans hi)
    obtain ⟨d, hStore, hOwners, hAttempts⟩ := h.alive j hj
    simp only [Journal.step, Option.bind_eq_bind, Option.bind_eq_some_iff] at hJournalStep
    obtain ⟨attempt, hAttempt, hJournalStep⟩ := hJournalStep
    split at hJournalStep
    · rename_i hReading hOk
      obtain rfl := Except.ok.inj hOk
      have hText := hSame attempt hAttempt
      -- the room still shows the record that landed, so the read finds one of the flow's own
      obtain ⟨-, -, record, hRecord, -, hLine, hSender, hVerified⟩ :=
        seen_of_landed h.posts hj hAttempts hAttempt hReading hAnswers hp hKind hLanded
      have hSome : (Journal.findOwn deps records attempt.spec.text).isSome = true := by
        refine List.find?_isSome.mpr ⟨record, hRecord, ?_⟩
        simp [hSender, hLine, hText, hVerified]
      obtain ⟨found, hFound⟩ := Option.isSome_iff_exists.mp hSome
      have hAfter : j.afterRead deps kind attempt records =
          (j.mark deps kind attempt found true, []) := by
        rw [Journal.afterRead, hFound]
      -- and the journal goes on to mark it, without a post
      have hStepped := Option.some.inj hJournalStep
      rw [hAfter] at hStepped
      obtain ⟨rfl, rfl⟩ := Prod.mk.inj hStepped
      have hIs := List.find?_some hFound
      simp only [Bool.and_eq_true, decide_eq_true_eq] at hIs
      refine ⟨rfl, _, _, found, rfl, j.goTo_self kind attempt _, rfl, ?_, hIs.1.1, hIs.2⟩
      exact hIs.1.2.trans hText
    · rename_i hOk
      cases hOk
    · cases hJournalStep

/-- Journalled posting is write-ahead and single-text, whenever flows crash and reopen, in the runs
that keep the ledger. What was posted had its intent stored first; the posts of a kind are one
line (or two secrets of one digest); a text lands once, and is adopted by a flow that reads it;
and what the store holds of a line that landed stays. -/
theorem posts_write_ahead {deps : JournalDeps β} {secret : LedgerKind → Bool}
    {w w' : FlowWorld β} {moves : List (Move β)} (hReach : (keepingMachine deps secret).Reachable w)
    (hRun : (keepingMachine deps secret).Leads w moves w') :
    (∀ p ∈ w.posts, ∃ record, p.stored = some record ∧ HasEntry deps record p.spec) ∧
    (∀ p ∈ w.posts, ∀ q ∈ w.posts, p.spec.kind = q.spec.kind → SameLine deps p.spec q.spec) ∧
    (∀ kind text, (landings w.posts kind text).length ≤ 1) ∧
    (∀ j, w.journal = some j → ∀ kind records lands u,
      FlowStep deps w (.act (.read kind (.ok records)) lands) u →
      ∀ p ∈ w.posts, p.spec.kind = kind → p.landed = true →
      (∀ attempt, j.inflight kind = some attempt → attempt.spec.text = p.spec.text) →
      u.posts = w.posts ∧ ∃ j' attempt record, u.journal = some j' ∧
        j'.inflight kind = some attempt ∧ attempt.phase = .marking record ∧
        record.line = p.spec.text ∧ record.sender = deps.did ∧ deps.verify record = true) ∧
    StoreGrows w w' := by
  have hSound : FlowSound deps secret w := .of_reachable hReach
  refine ⟨hSound.posts.stored, fun p hp q hq hKind => ?_, hSound.posts.once, ?_, ?_⟩
  · obtain ⟨d, hd, hEntry⟩ := hSound.posts.durable p hp
    obtain ⟨d', hd', hEntry'⟩ := hSound.posts.durable q hq
    obtain rfl := Option.some.inj (hd.symm.trans hd')
    exact hEntry.same hEntry' hKind (hSound.posts.proper p hp) (hSound.posts.proper q hq)
  · intro j hj kind records lands u hStep p hp hKind hLanded hSame
    exact adopts hSound hj hStep hp hKind hLanded hSame
  · refine hRun.related (R := StoreGrows) (fun _ d hd => ⟨d, hd, .refl d⟩)
      (fun s t u hst htu d hd => ?_)
      (fun s e s' hs hStep => storeGrows_step (.of_reachable hs) hStep.1) hReach
    obtain ⟨d', hd', hGrows⟩ := hst d hd
    obtain ⟨d'', hd'', hGrows'⟩ := htu d' hd'
    exact ⟨d'', hd'', hGrows.trans hGrows'⟩

end

/-! ### A flow that crashes after its post, and one that saves what it had read before -/

namespace PostSample

def deps : JournalDeps Unit where
  did := "did:plc:maker"
  encode _ := .ok []
  checked _ := true
  flowDigest _ := "digest"
  digestOfText text := text
  verify _ := true

def secret (kind : LedgerKind) : Bool := kind = .revealB

def line : PostSpec := ⟨⟨.acceptA, "room", "the line", false, none⟩, none⟩

def otherLine : PostSpec := ⟨⟨.acceptA, "room", "another line", false, none⟩, none⟩

def record : FlowRecord Unit := ⟨1, 0, fun _ => none, [], ()⟩

def landed : TranscriptRecordJson := ⟨"room", 3, 7, "did:plc:maker", some "n", none, "the line"⟩

/-- The record that shows the line as landed. -/
def marked : FlowRecord Unit :=
  ⟨3, 6, fun _ => none, [⟨.acceptA, "room", "the line", some ⟨3, some "n", some landed⟩⟩], ()⟩

/-- What a move that can happen leaves. -/
def played (w : FlowWorld Unit) : Move Unit → FlowWorld Unit
  | .created record => { w with durable := some record }
  | .opened digest => { w with journal := w.durable.map (.opened · digest) }
  | .crashed => { w with journal := none }
  | .taken =>
    { w with durable := (w.journal.bind (·.saving)).map Saving.next, taken := true }
  | .others record => { w with venue := w.venue ++ [record] }
  | .act event lands =>
    match w.journal.bind (·.step deps event) with
    | some (j, fx) => w.after j fx lands
    | none => w

def start : FlowWorld Unit := ⟨none, none, false, [], fun _ => 0, []⟩

def posting : List (Move Unit) :=
  [.created record, .opened "digest", .act (.ensurePosted line) none, .act (.turn 5) none, .taken,
    .act (.stored (.ok ())) none, .act (.resume .acceptA) (some landed)]

def reopening : List (Move Unit) :=
  [.crashed, .opened "digest", .act (.ensurePosted line) none]

def resuming : List (Move Unit) :=
  [.act (.read .acceptA (.ok [landed])) none, .act (.turn 6) none, .taken,
    .act (.stored (.ok ())) none]

def saving : List (Move Unit) :=
  [.act (.update fun _ => .ok (some marked)) none, .act (.turn 7) none, .taken]

def overwriting : List (Move Unit) :=
  [.act (.posted .acceptA (.ok landed)) none, .act (.turn 6) none, .taken,
    .act (.stored (.ok ())) none, .act (.settle .acceptA) none,
    .act (.update fun _ => .ok (some record)) none, .act (.turn 7) none, .taken,
    .act (.stored (.ok ())) none, .act (.ensurePosted otherLine) none, .act (.turn 8) none, .taken,
    .act (.stored (.ok ())) none, .act (.resume .acceptA) none]

def announced : FlowWorld Unit := posting.foldl played start

def posted : FlowWorld Unit := reopening.foldl played announced

def adopted : FlowWorld Unit := resuming.foldl played posted

def saved : FlowWorld Unit := saving.foldl played adopted

def overwritten : FlowWorld Unit := overwriting.foldl played announced

/-- A step that lands nothing. -/
theorem acts {w : FlowWorld Unit} {j j' : Journal Unit} {event : Event Unit}
    {fx : List (Effect Unit)} (hj : w.journal = some j) (hAnswers : Answers w j event)
    (hStep : j.step deps event = some (j', fx)) :
    FlowStep deps w (.act event none) (w.after j' fx none) :=
  .act hj hAnswers hStep fun _ _ _ h => by cases h

/-- The line is announced: its intent is saved. -/
theorem announced_leads : (flowMachine deps).Leads start posting announced := by
  refine .cons (.created rfl) (.cons (.opened rfl rfl) (.cons (acts rfl trivial rfl) ?_))
  refine .cons (acts rfl trivial rfl) (.cons (.taken rfl rfl) ?_)
  refine .cons (acts rfl (by exact rfl) rfl) (.cons (.act rfl trivial rfl ?_) (.nil _))
  intro spec hSpec record hRecord
  obtain rfl := Option.some.inj hRecord
  cases hSpec with
  | head => exact ⟨rfl, rfl, rfl, rfl⟩
  | tail _ hMore => cases hMore

/-- The line is posted, and marked as landed. -/
theorem posted_leads : (flowMachine deps).Leads announced reopening posted :=
  .cons .crashed (.cons (.opened rfl rfl) (.cons (acts rfl trivial rfl) (.nil _)))

/-- All of this keeps the ledger. -/
theorem posted_reachable : (keepingMachine deps secret).Reachable posted := by
  refine ⟨start, posting ++ reopening, ⟨rfl, rfl, rfl⟩, ?_⟩
  refine keeping_of_growing nofun (fun m hm => ?_) (announced_leads.append posted_leads)
  simp only [posting, reopening, List.cons_append, List.nil_append, List.mem_cons,
    List.not_mem_nil, or_false] at hm
  rcases hm with rfl | rfl | rfl | rfl | rfl | rfl | rfl | rfl | rfl | rfl
  all_goals trivial

/-- A journal that is opened again finds its line and posts it no more. -/
theorem adopted_leads : (keepingMachine deps secret).Leads posted resuming adopted := by
  have hRun : (flowMachine deps).Leads posted resuming adopted := by
    refine .cons (acts rfl ?_ rfl) (.cons (acts rfl trivial rfl) (.cons (.taken rfl rfl) ?_))
    · rintro attempt - record hRecord -
      exact hRecord
    · exact .cons (acts rfl (by exact rfl) rfl) (.nil _)
  refine keeping_of_growing (fun j hj => ?_) (fun m hm => ?_) hRun
  · obtain rfl := Option.some.inj hj
    exact ⟨nofun, nofun⟩
  · simp only [resuming, List.mem_cons, List.not_mem_nil, or_false] at hm
    rcases hm with rfl | rfl | rfl | rfl
    all_goals trivial

/-- A save of the record as it is now keeps its ledger. -/
theorem saved_leads : (keepingMachine deps secret).Leads adopted saving saved := by
  refine .cons ⟨acts rfl trivial rfl, fun _ _ => trivial⟩ (.cons ⟨acts rfl trivial rfl, ?_⟩
    (.cons ⟨.taken rfl rfl, trivial⟩ (.nil _)))
  rintro _ ⟨⟩ _ _ _ _ ⟨⟩ ⟨⟩ ⟨⟩
  exact ⟨.of_eq rfl, nofun⟩

/-- A save of an old record empties the ledger, and a second text is posted. -/
theorem overwritten_reachable : (flowMachine deps).Reachable overwritten := by
  refine ⟨start, posting ++ overwriting, ⟨rfl, rfl, rfl⟩, announced_leads.append ?_⟩
  refine .cons (acts rfl trivial rfl) (.cons (acts rfl trivial rfl) (.cons (.taken rfl rfl) ?_))
  refine .cons (acts rfl (by exact rfl) rfl) (.cons (acts rfl trivial rfl) ?_)
  refine .cons (acts rfl trivial rfl) (.cons (acts rfl trivial rfl) (.cons (.taken rfl rfl) ?_))
  refine .cons (acts rfl (by exact rfl) rfl) (.cons (acts rfl trivial rfl) ?_)
  refine .cons (acts rfl trivial rfl) (.cons (.taken rfl rfl) ?_)
  exact .cons (acts rfl (by exact rfl) rfl) (.cons (acts rfl trivial rfl) (.nil _))

end PostSample

theorem posts_write_ahead_sample : PostSample.adopted.posts.map Posted.landed = [true] ∧
    (∀ p ∈ PostSample.adopted.posts, ∃ record, p.stored = some record ∧
      HasEntry PostSample.deps record p.spec) ∧
    StoreGrows PostSample.adopted PostSample.saved := by
  obtain ⟨hStored, -, -, -, hGrows⟩ := posts_write_ahead
    (PostSample.posted_reachable.leads PostSample.adopted_leads) PostSample.saved_leads
  exact ⟨rfl, hStored, hGrows⟩

/-- A save of the record from before the line was recorded takes the line out of the ledger, and
the flow posts a second text of the kind. -/
theorem second_text_posted : ¬ ∀ (β : Type) (deps : JournalDeps β) (w : FlowWorld β),
    (flowMachine deps).Reachable w → ∀ p ∈ w.posts, ∀ q ∈ w.posts, p.spec.kind = q.spec.kind →
      SameLine deps p.spec q.spec := by
  intro h
  have hPosts : PostSample.overwritten.posts.map (·.spec) =
      [PostSample.line.toLineSpec, PostSample.otherLine.toLineSpec] := rfl
  obtain ⟨p, hp, hFirst⟩ := List.mem_map.mp (hPosts ▸ List.mem_cons_self)
  obtain ⟨q, hq, hSecond⟩ :=
    List.mem_map.mp (hPosts ▸ List.mem_cons_of_mem _ (List.mem_singleton.mpr rfl))
  have hSame := h _ _ _ PostSample.overwritten_reachable p hp q hq (by rw [hFirst, hSecond]; rfl)
  rw [hFirst, hSecond] at hSame
  rcases hSame with ⟨-, hText | ⟨hDigest, -⟩⟩
  · exact absurd hText (by decide)
  · cases hDigest

end SwapDesk.Client
