import Mathlib.Logic.Function.Basic
import SwapDesk.Client.Ledger

/-!
# SwapDesk — the journal of a flow

`FlowJournal` of `src/client/flow-resume.ts`. Its calls run one stretch of code at a time, up
to the next `await`: the journal is a state machine with one event for each stretch. Saves
wait in a queue and go out one at a time; a post of a kind is one attempt, which later calls
for the same line share.

What the store and the venue do is told by the events: `Journal.step` says what a journal
makes of them, and what it asks of the store and the venue.

Main results are in `SwapDesk.Client.JournalSafety` and `SwapDesk.Client.Posting`.
-/

namespace SwapDesk.Client

open Check

/-- What the journal uses of the code around it. -/
structure JournalDeps (β : Type) where
  /-- This party's DID. -/
  did : String
  /-- `encodeFlowRecord` -/
  encode : FlowRecord β → Except String (List UInt8)
  /-- `checked` does not throw. -/
  checked : FlowRecord β → Bool
  flowDigest : List UInt8 → String
  digestOfText : String → String
  /-- `verifyTranscriptRecord` -/
  verify : TranscriptRecordJson → Bool

abbrev Derive (β : Type) := FlowRecord β → Except DeriveError (Option (FlowRecord β))

/-- A line to post. `guard` does not throw on the room as it was read. -/
structure PostSpec extends LineSpec where
  guard : Option (List TranscriptRecordJson → Bool)

/-- A save that waits for its turn, and the attempt to post that awaits it. -/
structure Turn (β : Type) where
  derive : Derive β
  create : Bool
  owner : Option LedgerKind

/-- The save that the store was handed. -/
structure Saving (β : Type) where
  next : FlowRecord β
  bytes : List UInt8
  owner : Option LedgerKind

inductive Phase where
  /-- Awaits the records of the room. -/
  | reading
  /-- Awaits the save of the intent. -/
  | intending
  /-- The intent is saved. -/
  | intended
  /-- Awaits the venue. -/
  | posting
  /-- Awaits the save of the landed mark of this record. -/
  | marking (record : TranscriptRecordJson)
  | ended (result : Except String TranscriptRecordJson)

/-- An attempt to post, from `ensurePosted` to its end. -/
structure Attempt where
  spec : PostSpec
  isNew : Bool
  phase : Phase

structure Journal (β : Type) where
  /-- The record as last made durable. -/
  current : FlowRecord β
  digest : Option String
  /-- The first refused save, once there was one. -/
  failure : Option String
  projector : Option (FlowRecord β → Except String (FlowRecord β))
  queue : List (Turn β)
  saving : Option (Saving β)
  inflight : LedgerKind → Option Attempt

inductive Event (β : Type) where
  /-- `update`; `save` is the update to a given record. -/
  | update (derive : Derive β)
  | setProjector (projector : FlowRecord β → Except String (FlowRecord β))
  | ensurePosted (spec : PostSpec)
  | adopt (spec : LineSpec) (record : TranscriptRecordJson)
  /-- The first save of the queue has its turn. -/
  | turn (clock : Int)
  /-- The store answers; an error when it refuses or fails. -/
  | stored (answer : Except String Unit)
  | read (kind : LedgerKind) (answer : Except String (List TranscriptRecordJson))
  /-- An attempt goes on after its intent was saved. -/
  | resume (kind : LedgerKind)
  | posted (kind : LedgerKind) (answer : Except String TranscriptRecordJson)
  /-- The callers of an attempt get its result. -/
  | settle (kind : LedgerKind)

inductive Effect (β : Type) where
  /-- `store.save(key, bytes, expected)` -/
  | save (bytes : List UInt8) (expected : Option String)
  | acknowledged (next : FlowRecord β) (bytes : List UInt8)
  /-- A save was refused, or was not possible. -/
  | failed
  /-- The room of an attempt is read. -/
  | read (spec : PostSpec)
  | post (spec : PostSpec)

namespace Journal

variable {β : Type} (deps : JournalDeps β)

/-- `open`: the journal of a stored record. -/
def opened (current : FlowRecord β) (digest : String) : Journal β :=
  ⟨current, some digest, none, none, [], none, fun _ => none⟩

/-- `begin`: the journal of a new record, which is still to be created. -/
def begun (initial : FlowRecord β) : Journal β :=
  ⟨initial, none, none, none, [⟨fun _ => .ok (some initial), true, none⟩], none, fun _ => none⟩

/-- `assertUsable` does not throw. -/
def usable (j : Journal β) : Bool := j.failure.isNone

/-- `fail`: the first failure is kept. -/
def fail (j : Journal β) (error : String) : Journal β :=
  { j with failure := some (j.failure.getD error) }

def run (j : Journal β) (derive : Derive β) (owner : Option LedgerKind) : Journal β :=
  { j with queue := j.queue ++ [⟨derive, false, owner⟩] }

def setAttempt (j : Journal β) (kind : LedgerKind) (attempt : Attempt) : Journal β :=
  { j with inflight := Function.update j.inflight kind (some attempt) }

/-- An attempt goes on to this phase. -/
def goTo (j : Journal β) (kind : LedgerKind) (attempt : Attempt) (phase : Phase) : Journal β :=
  j.setAttempt kind { attempt with phase := phase }

def ledgerText (spec : LineSpec) : String :=
  if spec.digestOnly then deps.digestOfText spec.text else spec.text

/-- This party's own authenticated record that carries exactly the text. -/
def findOwn (records : List TranscriptRecordJson) (text : String) : Option TranscriptRecordJson :=
  records.find? fun candidate =>
    candidate.sender = deps.did && candidate.line = text && deps.verify candidate

/-- The save that an attempt awaited is over. -/
def saved (j : Journal β) (owner : Option LedgerKind) (result : Except String Unit) : Journal β :=
  match owner with
  | none => j
  | some kind =>
    match j.inflight kind with
    | none => j
    | some attempt =>
      match attempt.phase, result with
      | .intending, .ok _ => j.goTo kind attempt .intended
      | .marking record, .ok _ => j.goTo kind attempt (.ended (.ok record))
      | .intending, .error error => j.goTo kind attempt (.ended (.error error))
      | .marking _, .error error => j.goTo kind attempt (.ended (.error error))
      | _, _ => j

/-- The record to save, and its bytes. -/
def prepare (j : Journal β) (create : Bool) (clock : Int) (derived : FlowRecord β) :
    Except String (FlowRecord β × List UInt8) := do
  let projected ← (j.projector.getD .ok) derived
  let next := if create then projected else bumped projected clock
  return (next, ← deps.encode next)

/-- `commit`, up to the store. -/
def commit (j : Journal β) (turn : Turn β) (clock : Int) : Journal β × List (Effect β) :=
  match j.failure with
  | some failure => (j.saved turn.owner (.error failure), [])
  | none =>
    match turn.derive j.current with
    -- nothing was latched: the journal is fine
    | .error (.conflict message) => (j.saved turn.owner (.error message), [])
    | .error (.invalid message) => ((j.fail message).saved turn.owner (.error message), [.failed])
    | .ok none => (j.saved turn.owner (.ok ()), [])
    | .ok (some derived) =>
      match j.prepare deps turn.create clock derived with
      | .error message => ((j.fail message).saved turn.owner (.error message), [.failed])
      | .ok (next, bytes) =>
        ({ j with saving := some ⟨next, bytes, turn.owner⟩ }, [.save bytes j.digest])

/-- What an entry already marked landed answers with. -/
def landedAnswer (j : Journal β) (spec : PostSpec) : Option (Except String TranscriptRecordJson) := do
  let entry ← ledgerEntry j.current spec.kind
  let landed ← entry.landed
  let fromSlot := spec.slot.bind fun slot => (j.current.frames slot).bind (·.record)
  match (fromSlot.filter fun record => record.seq = landed.seq).or landed.record with
  | some record =>
    return if deps.verify record then .ok record
      else .error "the stored record of the landed line does not authenticate"
  -- `markAsRecord`
  | none => return .ok ⟨entry.room, landed.seq, 0, deps.did, landed.nonce, none, entry.text⟩

/-- The post of an attempt, when the journal is still usable. -/
def postNow (j : Journal β) (kind : LedgerKind) (attempt : Attempt) : Journal β × List (Effect β) :=
  match j.failure with
  | some failure => (j.goTo kind attempt (.ended (.error failure)), [])
  | none => (j.goTo kind attempt .posting, [.post attempt.spec])

def intend (j : Journal β) (kind : LedgerKind) (attempt : Attempt) : Journal β :=
  (j.goTo kind attempt .intending).run
    (fun current => withLedgerIntent deps.checked current attempt.spec.kind attempt.spec.room
      (ledgerText deps attempt.spec.toLineSpec))
    (some kind)

def mark (j : Journal β) (kind : LedgerKind) (attempt : Attempt) (record : TranscriptRecordJson)
    (ensureIntent : Bool) : Journal β :=
  (j.goTo kind attempt (.marking record)).run
    (withLanded deps.checked attempt.spec.toLineSpec (ledgerText deps attempt.spec.toLineSpec)
      record ensureIntent)
    (some kind)

/-- `postOnce`, up to its first `await`. -/
def postOnce (j : Journal β) (spec : PostSpec) : Journal β × List (Effect β) :=
  let isNew := (ledgerEntry j.current spec.kind).isNone
  let attempt : Attempt := ⟨spec, isNew, .reading⟩
  let refuse (error : String) := (j.goTo spec.kind attempt (.ended (.error error)), [])
  match j.failure with
  | some failure => refuse failure
  | none =>
    match withLedgerIntent deps.checked j.current spec.kind spec.room
        (ledgerText deps spec.toLineSpec) with
    | .error (.conflict message) => refuse message
    | .error (.invalid message) => refuse message
    | .ok _ =>
      match j.landedAnswer deps spec with
      | some answer => (j.goTo spec.kind attempt (.ended answer), [])
      | none =>
        if !isNew || spec.guard.isSome then
          (j.goTo spec.kind attempt .reading, [.read spec])
        else (j.intend deps spec.kind attempt, [])

/-- An attempt with the records of the room. -/
def afterRead (j : Journal β) (kind : LedgerKind) (attempt : Attempt)
    (records : List TranscriptRecordJson) : Journal β × List (Effect β) :=
  match findOwn deps records attempt.spec.text with
  | some found => (j.mark deps kind attempt found true, [])
  | none =>
    if attempt.spec.guard.all (· records) then
      if attempt.isNew then (j.intend deps kind attempt, [])
      else j.postNow kind attempt
    else (j.goTo kind attempt (.ended (.error "refused by the guard")), [])

/-- What a journal makes of an event, when the event can happen. -/
def step (j : Journal β) : Event β → Option (Journal β × List (Effect β))
  | .update derive => some (j.run derive none, [])
  | .setProjector projector => some ({ j with projector := some projector }, [])
  | .ensurePosted spec =>
    match j.inflight spec.kind with
    -- shared when it is the same line, refused when it is another one
    | some _ => some (j, [])
    | none => some (j.postOnce deps spec)
  | .adopt spec record =>
    some (j.run (withLanded deps.checked spec (ledgerText deps spec) record true) none, [])
  | .turn clock =>
    match j.saving, j.queue with
    | none, turn :: rest => some ({ j with queue := rest }.commit deps turn clock)
    | _, _ => none
  | .stored answer => do
    let saving ← j.saving
    match answer with
    | .ok _ =>
      return ({ j with
          current := saving.next
          digest := some (deps.flowDigest saving.bytes)
          saving := none }.saved saving.owner (.ok ()),
        [.acknowledged saving.next saving.bytes])
    | .error error =>
      return (({ j with saving := none }.fail error).saved saving.owner (.error error), [.failed])
  | .read kind answer => do
    let attempt ← j.inflight kind
    match attempt.phase, answer with
    | .reading, .ok records => return j.afterRead deps kind attempt records
    | .reading, .error error => return (j.goTo kind attempt (.ended (.error error)), [])
    | _, _ => none
  | .resume kind => do
    let attempt ← j.inflight kind
    match attempt.phase with
    | .intended => return j.postNow kind attempt
    | _ => none
  | .posted kind answer => do
    let attempt ← j.inflight kind
    match attempt.phase, answer with
    | .posting, .ok record => return (j.mark deps kind attempt record false, [])
    | .posting, .error error => return (j.goTo kind attempt (.ended (.error error)), [])
    | _, _ => none
  | .settle kind => do
    let attempt ← j.inflight kind
    match attempt.phase with
    | .ended _ => return ({ j with inflight := Function.update j.inflight kind none }, [])
    | _ => none

end Journal

end SwapDesk.Client
