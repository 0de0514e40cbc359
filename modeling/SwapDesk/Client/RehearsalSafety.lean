import SwapDesk.Client.RehearsalIdentity

/-!
# SwapDesk — what a kill leaves of the rehearsal world

The runs of a runner that has a venue, notes and identities in its state directory, with every
operation on a file failing or not, and the runner killed before any of them.

Main result: `world_survives`. Killed at any instant, the venue and the notes open again, with
all that their callers were told and at most what was in flight; and an identity that was
returned is returned again.
-/

namespace SwapDesk.Client.RehearsalWorld

open Snapshot

-- ---------------------------------------------------------------------------
-- The history of a venue
-- ---------------------------------------------------------------------------

/-- The records of a room that posts were answered with, in order. -/
def resolved (room : String) (log : List (Entry Post SafeInt VenueRecord)) :
    List VenueRecord :=
  log.filterMap fun
    | .answered post _ record => if post.room = room then some record else none
    | .killed _ => none

/-- The posts to a room that were in flight at a kill, each with the clock that it read. -/
def inFlight (room : String) (log : List (Entry Post SafeInt VenueRecord)) :
    List (Post × SafeInt) :=
  log.filterMap fun
    | .killed (some call) => if call.1.room = room then some call else none
    | _ => none

/-- A room holds every post that was answered, in order and numbered from 1, and besides them
posts that were in flight at a kill, at most one for each. -/
structure Survives (room : String) (log : List (Entry Post SafeInt VenueRecord))
    (records : List VenueRecord) : Prop where
  numbered : ∀ i r, records[i]? = some r → r.seq = i + 1
  resolved : (resolved room log).Sublist records
  besides : records.length ≤ (RehearsalWorld.resolved room log).length + (inFlight room log).length
  origin : ∀ r ∈ records, r ∈ RehearsalWorld.resolved room log ∨
    ∃ call ∈ inFlight room log, r.room = room ∧ r.line = call.1.line ∧
      r.sender = call.1.signer.did ∧ r.timestampMs = call.2.val

variable {real : List Char → JsonNum} {venuePath notesPath room : String}

section

variable {log : List (Entry Post SafeInt VenueRecord)} {records : List VenueRecord}
  {post : Post} {now : SafeInt} {r : VenueRecord}

theorem resolved_append (log more : List (Entry Post SafeInt VenueRecord)) :
    resolved room (log ++ more) = resolved room log ++ resolved room more :=
  List.filterMap_append

theorem inFlight_append (log more : List (Entry Post SafeInt VenueRecord)) :
    inFlight room (log ++ more) = inFlight room log ++ inFlight room more :=
  List.filterMap_append

/-- An entry that tells nothing of the room. -/
theorem Survives.keep (h : Survives room log records)
    {entry : Entry Post SafeInt VenueRecord}
    (hEntry : RehearsalWorld.resolved room [entry] = []) :
    Survives room (log ++ [entry]) records := by
  have hResolved : RehearsalWorld.resolved room (log ++ [entry]) =
      RehearsalWorld.resolved room log := by
    rw [resolved_append, hEntry, List.append_nil]
  have hFlight : inFlight room (log ++ [entry]) = inFlight room log ++ inFlight room [entry] :=
    inFlight_append log [entry]
  refine ⟨h.numbered, hResolved ▸ h.resolved, ?_, fun r hr => ?_⟩
  · rw [hResolved, hFlight, List.length_append]
    have hBesides := h.besides
    omega
  · rw [hResolved, hFlight]
    rcases h.origin r hr with hOld | ⟨call, hCall, hMade⟩
    · exact .inl hOld
    · exact .inr ⟨call, List.mem_append_left _ hCall, hMade⟩

theorem numbered_push (h : Survives room log records) (hSeq : r.seq = records.length + 1) :
    ∀ i r', (records ++ [r])[i]? = some r' → r'.seq = i + 1 := by
  intro i r' hr'
  rw [List.getElem?_append] at hr'
  split at hr'
  · exact h.numbered i r' hr'
  · obtain ⟨hIndex, rfl⟩ := List.getElem?_eq_some_iff.mp hr'
    rw [List.length_singleton] at hIndex
    rw [List.getElem_singleton, hSeq]
    omega

/-- A post to the room is answered with its record. -/
theorem Survives.answered (h : Survives room log records) (hRoom : post.room = room)
    (hSeq : r.seq = records.length + 1) :
    Survives room (log ++ [.answered post now r]) (records ++ [r]) := by
  have hResolved : RehearsalWorld.resolved room (log ++ [.answered post now r]) =
      RehearsalWorld.resolved room log ++ [r] := by
    rw [resolved_append]
    simp [RehearsalWorld.resolved, hRoom]
  have hFlight : inFlight room (log ++ [.answered post now r]) = inFlight room log := by
    rw [inFlight_append]
    simp [inFlight]
  refine ⟨numbered_push h hSeq, ?_, ?_, fun r' hr' => ?_⟩
  · rw [hResolved]
    exact h.resolved.append (List.Sublist.refl _)
  · rw [hResolved, hFlight, List.length_append, List.length_append]
    have hBesides := h.besides
    omega
  · rw [hResolved, hFlight]
    rcases List.mem_append.mp hr' with hOld | hNew
    · exact (h.origin r' hOld).imp (List.mem_append_left _) id
    · exact .inl (List.mem_append_right _ hNew)

/-- A post to the room is written, and its caller is killed before it knows. -/
theorem Survives.written (h : Survives room log records) (hRoom : post.room = room)
    (hSeq : r.seq = records.length + 1) (hMade : r.room = room ∧ r.line = post.line ∧
      r.sender = post.signer.did ∧ r.timestampMs = now.val) :
    Survives room (log ++ [.killed (some (post, now))]) (records ++ [r]) := by
  have hResolved : RehearsalWorld.resolved room (log ++ [.killed (some (post, now))]) =
      RehearsalWorld.resolved room log := by
    rw [resolved_append]
    simp [RehearsalWorld.resolved]
  have hFlight : inFlight room (log ++ [.killed (some (post, now))]) =
      inFlight room log ++ [(post, now)] := by
    rw [inFlight_append]
    simp [inFlight, hRoom]
  refine ⟨numbered_push h hSeq, ?_, ?_, fun r' hr' => ?_⟩
  · rw [hResolved]
    exact h.resolved.trans (List.sublist_append_left _ _)
  · rw [hResolved, hFlight, List.length_append, List.length_append, List.length_singleton,
      List.length_singleton]
    have hBesides := h.besides
    omega
  · rw [hResolved, hFlight]
    rcases List.mem_append.mp hr' with hOld | hNew
    · rcases h.origin r' hOld with hTold | ⟨call, hCall, hMade'⟩
      · exact .inl hTold
      · exact .inr ⟨call, List.mem_append_left _ hCall, hMade'⟩
    · obtain rfl := List.mem_singleton.mp hNew
      exact .inr ⟨_, List.mem_append_right _ List.mem_cons_self, hMade⟩

/-- What a history of a venue comes to. -/
theorem survives_of_leaves {rooms : Rooms}
    (h : (durableVenue real venuePath).Leaves log rooms) (room : String) :
    Survives room log (rooms.getList room) := by
  induction h with
  | start => exact ⟨nofun, List.nil_sublist _, Nat.zero_le _, nofun⟩
  | answered _ hServe _ => exact absurd hServe (postNow_ne_answer _ _ _ _)
  | @wrote log m next post now r _ hServe ih =>
    obtain ⟨-, hSeq, -, -, -, -, rfl⟩ := postNow_eq_write hServe
    rw [OrdMap.getList_set]
    split
    · rename_i hRoom
      subst hRoom
      exact ih.answered rfl hSeq
    · rename_i hRoom
      refine ih.keep ?_
      simp [resolved, Ne.symm hRoom]
  | killed _ ih => exact ih.keep rfl
  | @written log m next post now r _ hServe ih =>
    obtain ⟨hMade, hSeq, hTime, hSender, hLine, -, rfl⟩ := postNow_eq_write hServe
    rw [OrdMap.getList_set]
    split
    · rename_i hRoom
      subst hRoom
      exact ih.written rfl hSeq ⟨hMade, hLine, hSender, hTime⟩
    · exact ih.keep rfl

end

-- ---------------------------------------------------------------------------
-- The history of notes
-- ---------------------------------------------------------------------------

/-- What the note at a path can be: the value of the last write that resolved `true`, or that of
a write which was in flight at a kill since. -/
def noteValues (path : String) (log : List (Entry NoteWrite Unit Bool)) : List (Option String) :=
  log.foldl
    (fun values entry =>
      match entry with
      | .answered c _ true => if c.path = path then [some c.value] else values
      | .answered _ _ false => values
      | .killed none => values
      | .killed (some (c, _)) => if c.path = path then some c.value :: values else values)
    [none]

/-- The entry is of a write that set the note to this value, or was in flight at a kill. -/
def Sets (path value : String) : Entry NoteWrite Unit Bool → Prop
  | .answered c _ true => c.path = path ∧ c.value = value
  | .killed (some (c, _)) => c.path = path ∧ c.value = value
  | _ => False

theorem noteValues_concat (path : String) (log : List (Entry NoteWrite Unit Bool))
    (entry : Entry NoteWrite Unit Bool) :
    noteValues path (log ++ [entry]) =
      match entry with
      | .answered c _ true => if c.path = path then [some c.value] else noteValues path log
      | .answered _ _ false => noteValues path log
      | .killed none => noteValues path log
      | .killed (some (c, _)) =>
        if c.path = path then some c.value :: noteValues path log else noteValues path log := by
  unfold noteValues
  rw [List.foldl_append, List.foldl_cons, List.foldl_nil]

/-- What a history of notes comes to. -/
theorem mem_noteValues {log : List (Entry NoteWrite Unit Bool)} {values : Notes}
    (h : (durableNotes real notesPath).Leaves log values) (path : String) :
    values.get? path ∈ noteValues path log := by
  induction h with
  | start => exact List.mem_singleton.mpr rfl
  -- a write that was refused changes nothing
  | answered _ hServe ih =>
    obtain rfl := setNow_eq_answer hServe
    rw [noteValues_concat]
    exact ih
  | @wrote log m next c i a _ hServe ih =>
    obtain ⟨rfl, rfl, -, -⟩ := setNow_eq_write hServe
    rw [noteValues_concat, OrdMap.get?_set]
    by_cases hPath : c.path = path
    · subst hPath
      simp
    · simp [hPath, Ne.symm hPath, ih]
  -- a write that was cut off may or may not be in the file
  | @killed log m call _ ih =>
    rw [noteValues_concat]
    cases call with
    | none => exact ih
    | some call =>
      dsimp only
      split
      · exact List.mem_cons_of_mem _ ih
      · exact ih
  | @written log m next c i a _ hServe ih =>
    obtain ⟨-, rfl, -, -⟩ := setNow_eq_write hServe
    rw [noteValues_concat, OrdMap.get?_set]
    by_cases hPath : c.path = path
    · subst hPath
      simp
    · simp [hPath, Ne.symm hPath, ih]

/-- What a note can be was set to it, or it can have been before. -/
theorem sets_of_mem_noteValues {path : String} {note : Option String}
    {before after : List (Entry NoteWrite Unit Bool)}
    (h : note ∈ noteValues path (before ++ after)) :
    note ∈ noteValues path before ∨
      ∃ entry ∈ after, ∃ value, note = some value ∧ Sets path value entry := by
  -- by induction on the entries after, the last one first
  induction after using List.reverseRecOn with
  | nil => exact .inl (by rwa [List.append_nil] at h)
  | append_singleton after entry ih =>
    have hMore : note ∈ noteValues path (before ++ after) → note ∈ noteValues path before ∨
        ∃ entry' ∈ after ++ [entry], ∃ value, note = some value ∧ Sets path value entry' :=
      fun hOld => (ih hOld).imp_right fun ⟨e, he, hSets⟩ => ⟨e, List.mem_append_left _ he, hSets⟩
    have hLast : (∃ value, note = some value ∧ Sets path value entry) →
        note ∈ noteValues path before ∨
          ∃ entry' ∈ after ++ [entry], ∃ value, note = some value ∧ Sets path value entry' :=
      fun hSets => .inr ⟨entry, List.mem_append_right _ List.mem_cons_self, hSets⟩
    rw [← List.append_assoc, noteValues_concat] at h
    split at h
    -- only an entry that sets this path can add the value
    · rename_i c _
      split at h
      · rename_i hPath
        exact hLast ⟨c.value, List.mem_singleton.mp h, hPath, rfl⟩
      · exact hMore h
    · exact hMore h
    · exact hMore h
    · rename_i c _
      split at h
      · rename_i hPath
        rcases List.mem_cons.mp h with hNew | hOld
        · exact hLast ⟨c.value, hNew, hPath, rfl⟩
        · exact hMore hOld
      · exact hMore h

/-- A write that resolves `true` after another one of the same note is not one for an absent
note; and if it expects a value, the other one set it, or one in between. -/
theorem expected_was_set {values : Notes} {c₁ c₂ : NoteWrite}
    {before between after : List (Entry NoteWrite Unit Bool)}
    (h : (durableNotes real notesPath).Leaves
      (before ++ .answered c₁ () true :: (between ++ .answered c₂ () true :: after)) values)
    (hPath : c₁.path = c₂.path) :
    c₂.condition.ifAbsent = false ∧ ∀ value, c₂.condition.ifValue = some value →
      c₁.value = value ∨ ∃ entry ∈ between, Sets c₂.path value entry := by
  have hSplit : before ++ .answered c₁ () true :: (between ++ .answered c₂ () true :: after) =
      ((before ++ [.answered c₁ () true]) ++ between ++ [.answered c₂ () true]) ++ after := by
    simp
  rw [hSplit] at h
  obtain ⟨next, hNext⟩ := h.of_append
  obtain ⟨m, hLeaves, hServe⟩ := hNext.of_answered
  have hFirst : noteValues c₂.path (before ++ [.answered c₁ () true]) = [some c₁.value] := by
    rw [noteValues_concat]
    exact if_pos hPath
  have hNote := sets_of_mem_noteValues (mem_noteValues hLeaves c₂.path)
  rw [hFirst, List.mem_singleton] at hNote
  rcases hServe with hAnswer | hWrite
  · cases setNow_eq_answer hAnswer
  · obtain ⟨-, -, hAbsent, hValue⟩ := setNow_eq_write hWrite
    constructor
    · by_contra hIf
      rw [hAbsent (by simpa using hIf)] at hNote
      rcases hNote with hNote | ⟨_, _, value, hNote, _⟩ <;> cases hNote
    · intro value hIf
      rw [hValue value hIf] at hNote
      rcases hNote with hNote | ⟨entry, hMem, value', hNote, hSets⟩
      · exact .inl (Option.some.inj hNote).symm
      · obtain rfl := Option.some.inj hNote
        exact .inr ⟨entry, hMem, hSets⟩

-- ---------------------------------------------------------------------------
-- The runner
-- ---------------------------------------------------------------------------

/-- The venue, the notes and the identities of a state directory. -/
structure World (ι : Type) where
  venue : Snapshot.State (List Char) Rooms Post SafeInt VenueRecord
  notes : Snapshot.State (List Char) Notes NoteWrite Unit Bool
  identities : String → IdentityFile ι

namespace World

variable {ι : Type}

/-- What a runner does; a kill is one of all that it has open. -/
inductive Event where
  | venue (e : Snapshot.Event Post SafeInt)
  | notes (e : Snapshot.Event NoteWrite Unit)
  | identity (path : String) (e : IdentityFile.Event)
  | kill

def kill (w : World ι) : World ι :=
  ⟨w.venue.kill, w.notes.kill, fun path => (w.identities path).kill⟩

variable (real : List Char → JsonNum) (venuePath notesPath : String)
  (identityFromSeed : List UInt8 → ι)

def step (w : World ι) : Event → Option (World ι)
  | .venue .kill | .notes .kill | .identity _ .kill => none
  | .venue e => ((durableVenue real venuePath).step w.venue e).map fun s => { w with venue := s }
  | .notes e => ((durableNotes real notesPath).step w.notes e).map fun s => { w with notes := s }
  | .identity path e =>
    (IdentityFile.step identityFromSeed path (w.identities path) e).map fun s =>
      { w with identities := Function.update w.identities path s }
  | .kill => some w.kill

/-- Nothing is there yet. -/
def fresh : World ι := ⟨Snapshot.fresh, Snapshot.fresh, fun _ => IdentityFile.fresh⟩

/-- All the runs. -/
def machine : Machine (World ι) Event :=
  .ofFun (· = fresh) (step real venuePath notesPath identityFromSeed)

variable {real venuePath notesPath identityFromSeed}

/-- Each file sees a run of its own. -/
structure Parts (real : List Char → JsonNum) (venuePath notesPath : String)
    (identityFromSeed : List UInt8 → ι) (w : World ι) : Prop where
  venue : (durableVenue real venuePath).machine.Reachable w.venue
  notes : (durableNotes real notesPath).machine.Reachable w.notes
  identity : ∀ path, (IdentityFile.machine identityFromSeed path).Reachable (w.identities path)

theorem Parts.kill {w : World ι} (h : Parts real venuePath notesPath identityFromSeed w) :
    Parts real venuePath notesPath identityFromSeed w.kill where
  venue := Snapshot.reachable_kill h.venue
  notes := Snapshot.reachable_kill h.notes
  identity path := by
    have hStep : IdentityFile.step identityFromSeed path (w.identities path) .kill =
        some (w.identities path).kill := rfl
    exact (h.identity path).step hStep

theorem Parts.step {w w' : World ι} {e : Event}
    (h : Parts real venuePath notesPath identityFromSeed w)
    (hStep : w.step real venuePath notesPath identityFromSeed e = some w') :
    Parts real venuePath notesPath identityFromSeed w' := by
  unfold World.step at hStep
  split at hStep
  · cases hStep
  · cases hStep
  · cases hStep
  · obtain ⟨s, hs, rfl⟩ := Option.map_eq_some_iff.mp hStep
    exact ⟨h.venue.step hs, h.notes, h.identity⟩
  · obtain ⟨s, hs, rfl⟩ := Option.map_eq_some_iff.mp hStep
    exact ⟨h.venue, h.notes.step hs, h.identity⟩
  · rename_i path e _
    obtain ⟨s, hs, rfl⟩ := Option.map_eq_some_iff.mp hStep
    refine ⟨h.venue, h.notes, fun path' => ?_⟩
    dsimp only
    by_cases hPath : path' = path
    · subst hPath
      rw [Function.update_self]
      exact (h.identity path').step hs
    · rw [Function.update_of_ne hPath]
      exact h.identity path'
  · obtain rfl := Option.some.inj hStep
    exact h.kill

theorem parts {w : World ι}
    (h : (machine real venuePath notesPath identityFromSeed).Reachable w) :
    Parts real venuePath notesPath identityFromSeed w := by
  refine Machine.invariant (fun w hInit => ?_) (fun w e w' _ hParts hStep => ?_) h
  · obtain rfl := hInit
    exact ⟨.init rfl, .init rfl, fun path => .init rfl⟩
  · have hStep : w.step real venuePath notesPath identityFromSeed e = some w' := hStep
    exact hParts.step hStep

end World

-- ---------------------------------------------------------------------------
-- Sample runs
-- ---------------------------------------------------------------------------

namespace Sample

def otherNumber (_ : List Char) : JsonNum := .int 0

def post (line : String) : Post := ⟨"tclk-offers", line, ⟨"did:key:z6Mk", fun _ => some "sig"⟩⟩

def now : SafeInt := ⟨1790000000000, by decide⟩

def seed : Seed := ⟨List.replicate 32 0x31, by simp⟩

def note (value : String) (ifValue : Option String) : NoteWrite :=
  ⟨"paper", "leg-b", value, ⟨false, ifValue⟩⟩

/-- The turn of a call that writes, up to its rename. -/
def turn {C I : Type} (input : I) : List (Snapshot.Event C I) :=
  .serve input :: List.replicate 6 .act

/-- Two posts, the second of them in flight. -/
def posts : List (Snapshot.Event Post SafeInt) :=
  .opens :: .call (post "one") :: turn now ++ .settle :: .call (post "two") :: turn now

/-- A note, and two writes that expect its value. -/
def writes : List (Snapshot.Event NoteWrite Unit) :=
  .opens :: .call (note "x" none) :: turn () ++
    [.settle, .call (note "x" (some "x")), .call (note "y" (some "x"))]

/-- Both writes, one after the other. -/
def bothWrites : List (Snapshot.Event NoteWrite Unit) := turn () ++ .settle :: turn () ++ [.settle]

def events : List World.Event :=
  posts.map .venue ++ writes.map .notes ++
    .identity "buyer" (.load 0) :: List.replicate 6 (.identity "buyer" (.act 0 seed))

def step : World (List UInt8) → World.Event → Option (World (List UInt8)) :=
  World.step otherNumber "venue.json" "notes.json" id

def machine : Machine (World (List UInt8)) World.Event :=
  World.machine otherNumber "venue.json" "notes.json" id

def world : World (List UInt8) := (Machine.run step World.fresh events).getD World.fresh

/-- A run that goes on to its end reaches what it comes to. -/
theorem leads_run {es : List World.Event} {w : World (List UInt8)}
    (h : (Machine.run step w es).isSome = true) :
    machine.Leads w es ((Machine.run step w es).getD World.fresh) := by
  obtain ⟨w', hw'⟩ := Option.isSome_iff_exists.mp h
  rw [hw']
  exact Machine.leads_of_run hw'

end Sample

-- ---------------------------------------------------------------------------
-- What a kill leaves
-- ---------------------------------------------------------------------------

/-- The rehearsal world survives a kill at any instant: the venue opens with every post that was
answered, and at most what was in flight; the notes with what was last written; a write that
expects a value resolves `true` after another one of the note only if that value was set since;
and a load returns the identity that was returned before, or one when the file is not cut off. -/
theorem world_survives {ι : Type} {identityFromSeed : List UInt8 → ι} {w : World ι}
    (h : (World.machine real venuePath notesPath identityFromSeed).Reachable w) :
    (∃ rooms, (durableVenue real venuePath).opened w.kill.venue.file = some rooms ∧
      ∀ room, Survives room w.kill.venue.log (rooms.getList room)) ∧
    (∃ values, (durableNotes real notesPath).opened w.kill.notes.file = some values ∧
      ∀ path, values.get? path ∈ noteValues path w.kill.notes.log) ∧
    (∀ before between after c₁ c₂,
      w.notes.log =
        before ++ .answered c₁ () true :: (between ++ .answered c₂ () true :: after) →
      c₁.path = c₂.path →
      c₂.condition.ifAbsent = false ∧ ∀ value, c₂.condition.ifValue = some value →
        c₁.value = value ∨ ∃ entry ∈ between, Sets c₂.path value entry) ∧
    ∀ path, (w.identities path).returned ≠ [] ∨ ¬ IdentityFile.CutOff (w.identities path).file →
      ∀ seed, ∃ s' id, Machine.run (IdentityFile.step identityFromSeed path)
          (w.kill.identities path) (IdentityFile.loadEvents (w.identities path) seed) = some s' ∧
        s'.returned = (w.identities path).returned ++ [id] ∧
        ∀ id' ∈ (w.identities path).returned, id = id' := by
  have hParts := World.parts h
  obtain ⟨rooms, hRooms, hVenue⟩ := kept (lawful_durableVenue real venuePath) hParts.venue
  obtain ⟨values, hValues, hNotes⟩ := kept (lawful_durableNotes real notesPath) hParts.notes
  refine ⟨⟨rooms, hRooms, survives_of_leaves hVenue⟩, ⟨values, hValues, mem_noteValues hNotes⟩,
    ?_, ?_⟩
  · intro before between after c₁ c₂ hLog hPath
    obtain ⟨more, hMore⟩ := log_kill w.notes
    have hLeaves : (durableNotes real notesPath).Leaves (w.notes.log ++ more) values :=
      hMore ▸ hNotes
    obtain ⟨m, hBefore⟩ := hLeaves.of_append
    rw [hLog] at hBefore
    exact expected_was_set hBefore hPath
  · intro path hCut seed
    exact IdentityFile.load_of_inv (IdentityFile.inv (hParts.identity path)) hCut seed

theorem world_survives_sample :
    (resolved "tclk-offers" Sample.world.kill.venue.log).length = 1 ∧
    (inFlight "tclk-offers" Sample.world.kill.venue.log).length = 1 ∧
    (∃ rooms, (durableVenue Sample.otherNumber "venue.json").opened Sample.world.kill.venue.file =
        some rooms ∧
      ∀ room, Survives room Sample.world.kill.venue.log (rooms.getList room)) ∧
    ∀ seed, ∃ s' held, Machine.run (IdentityFile.step id "buyer")
        (Sample.world.kill.identities "buyer")
        (IdentityFile.loadEvents (Sample.world.identities "buyer") seed) = some s' ∧
      s'.returned = [Sample.seed.val] ++ [held] ∧ ∀ id' ∈ [Sample.seed.val], held = id' := by
  have hReachable : Sample.machine.Reachable Sample.world :=
    (Machine.Reachable.init rfl).leads (Sample.leads_run (by decide))
  obtain ⟨hVenue, -, -, hIdentity⟩ := world_survives hReachable
  have hReturned : (Sample.world.identities "buyer").returned = [Sample.seed.val] := by
    decide
  have hLoad := hIdentity "buyer" (.inl (by rw [hReturned]; exact nofun))
  rw [hReturned] at hLoad
  exact ⟨by decide, by decide, hVenue, hLoad⟩

/-- Of two overlapping writes that expect one value, the first may set that very value, and then
both resolve `true`. -/
theorem overlapping_writes_resolve :
    ¬ ∀ (w w' : World (List UInt8)) (es : List World.Event) (c₁ c₂ : NoteWrite) (value : String),
      Sample.machine.Reachable w → Sample.machine.Leads w es w' →
      w.notes.process.map (·.queue) = some [c₁, c₂] → c₁.path = c₂.path →
      c₁.condition = ⟨false, some value⟩ → c₂.condition = ⟨false, some value⟩ →
      w'.notes.log ≠ w.notes.log ++ [.answered c₁ () true, .answered c₂ () true] := by
  intro h
  have hReachable : Sample.machine.Reachable Sample.world :=
    (Machine.Reachable.init rfl).leads (Sample.leads_run (by decide))
  exact h Sample.world _ (Sample.bothWrites.map .notes) (Sample.note "x" (some "x"))
    (Sample.note "y" (some "x")) "x" hReachable (Sample.leads_run (by decide))
    (by decide) rfl rfl rfl (by decide)

end SwapDesk.Client.RehearsalWorld
