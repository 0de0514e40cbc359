import Mathlib.Data.List.Sort
import SwapDesk.Lib.Grammar
import SwapDesk.Lib.JsonPretty
import SwapDesk.Lib.OrdMap
import SwapDesk.Lib.Snapshot

/-!
# SwapDesk — the rehearsal world

The rooms of `DurableVenue` and the notes of `DurableNoteStore` of
`src/client/rehearsal-world.ts`, as stores that keep their state in one file, with the texts of
their files.

Main results: `lawful_durableVenue` and `lawful_durableNotes`. Every state that calls lead to is
read back from what is written of it.
-/

namespace SwapDesk.Client.RehearsalWorld

open Json

/-- A damaged or unreadable world file. -/
structure RehearsalWorldError where
  message : String
deriving DecidableEq, Repr

def worldError (message : String) : RehearsalWorldError := ⟨"rehearsal state: " ++ message⟩

-- ---------------------------------------------------------------------------
-- The venue file
-- ---------------------------------------------------------------------------

/-- A `TranscriptRecord` of this venue, which signs every one. -/
structure VenueRecord where
  room : String
  seq : Nat
  timestampMs : Int
  sender : String
  nonce : String
  signature : String
  line : String
deriving DecidableEq, Repr

abbrev Rooms := OrdMap String (List VenueRecord)

def recordJson (r : VenueRecord) : Json :=
  .obj
    [("room", .str r.room), ("seq", .num (.int r.seq)), ("timestampMs", .num (.int r.timestampMs)),
      ("sender", .str r.sender), ("nonce", .str r.nonce), ("signature", .str r.signature),
      ("line", .str r.line)]

def venueJson (rooms : Rooms) : Json :=
  .obj
    [("v", .num (.int 1)),
      ("rooms", .obj (rooms.entries.map fun e => (e.1, .arr (e.2.map recordJson))))]

def serializeVenue (rooms : Rooms) : List Char := JsonText.pretty 0 (venueJson rooms) ++ ['\n']

/-- `isRecordShape`, with the record that the value then is. -/
def isRecordShape (value : Json) (room : String) (seq : Nat) : Option VenueRecord := do
  let keys := ",".intercalate (value.fieldNames.insertionSort (· ≤ ·))
  guard (keys = "line,nonce,room,sender,seq,signature,timestampMs")
  guard (value.text? "room" = some room)
  guard (value.int? "seq" = some (seq : Int))
  let timestampMs ← value.int? "timestampMs"
  guard (timestampMs.natAbs ≤ JsonText.maxExact)
  let sender ← value.text? "sender"
  let nonce ← value.text? "nonce"
  let signature ← value.text? "signature"
  let line ← value.text? "line"
  return { room, seq, timestampMs, sender, nonce, signature, line }

section

variable (real : List Char → JsonNum) (path : String)

def venueRoom (field : String × Json) :
    Except RehearsalWorldError (String × List VenueRecord) :=
  match field with
  | (room, .arr items) => do
    let records ← items.zipIdx.mapM fun (value, index) =>
      match isRecordShape value room (index + 1) with
      | some record => .ok record
      | none => .error (worldError ("the venue file " ++ path ++
          " holds a record that does not fit room " ++ room ++ " at position " ++
          toString (index + 1)))
    return (room, records)
  | _ => .error (worldError ("the venue file " ++ path ++ " has a room that is not a list"))

/-- What `DurableVenue.open` makes of the text of its file. -/
def openVenue (text : List Char) : Except RehearsalWorldError Rooms :=
  match JsonText.parse real text with
  | none => .error (worldError ("the venue file " ++ path ++
      " is not valid JSON; it holds the swap's frames and is never replaced by an empty one"))
  | some file =>
    match file.int? "v", file.field? "rooms" with
    | some 1, some (.obj fields) => do
      let rooms ← fields.mapM (venueRoom path)
      return .ofEntries rooms
    | _, _ => .error (worldError ("the venue file " ++ path ++ " is not a version 1 venue"))

end

-- ---------------------------------------------------------------------------
-- Posts
-- ---------------------------------------------------------------------------

/-- A signer, where `none` is one that throws. -/
structure Signer where
  did : String
  sign : String → Option String

structure Post where
  room : String
  line : String
  signer : Signer

/-- A reading of the clock. -/
abbrev SafeInt := { n : Int // n.natAbs ≤ JsonText.maxExact }

/-- `postNow` up to its write. -/
def postNow (rooms : Rooms) (post : Post) (now : SafeInt) : Served Rooms VenueRecord :=
  let records := rooms.getList post.room
  let seq := records.length + 1
  let nonce := toString (10000 + seq)
  match post.signer.sign (post.room ++ "|" ++ nonce ++ "|" ++ post.line) with
  | none => .refuse
  | some signature =>
    let record : VenueRecord :=
      { room := post.room, seq, timestampMs := now.val, sender := post.signer.did, nonce
        signature, line := post.line }
    -- an array is not pushed beyond the longest that there is
    if records.length + 1 < 2 ^ 32 then .write (rooms.set post.room (records ++ [record])) record
    else .refuse

def durableVenue (real : List Char → JsonNum) (path : String) :
    Snapshot (List Char) Rooms Post SafeInt VenueRecord where
  start := .empty
  encode := serializeVenue
  decode text := (openVenue real path text).toOption
  serve := postNow
  attempts := 6

/-- What a room can hold: records of this room, numbered from 1. -/
structure Fits (room : String) (records : List VenueRecord) : Prop where
  length_lt : records.length < 2 ^ 32
  record : ∀ i r, records[i]? = some r →
    r.room = room ∧ r.seq = i + 1 ∧ r.timestampMs.natAbs ≤ JsonText.maxExact

def Fit (rooms : Rooms) : Prop := ∀ room records, rooms.get? room = some records → Fits room records

/-- A post that is written goes to the end of its room. -/
theorem postNow_eq_write {rooms next : Rooms} {post : Post} {now : SafeInt} {r : VenueRecord}
    (h : postNow rooms post now = .write next r) :
    r.room = post.room ∧ r.seq = (rooms.getList post.room).length + 1 ∧
      r.timestampMs = now.val ∧ r.sender = post.signer.did ∧ r.line = post.line ∧
      (rooms.getList post.room).length + 1 < 2 ^ 32 ∧
      next = rooms.set post.room (rooms.getList post.room ++ [r]) := by
  unfold postNow at h
  dsimp only at h
  split at h
  · cases h
  · split at h
    · rename_i hRoom
      cases h
      exact ⟨rfl, rfl, rfl, rfl, rfl, hRoom, rfl⟩
    · cases h

/-- A post is never answered without a write. -/
theorem postNow_ne_answer (rooms : Rooms) (post : Post) (now : SafeInt) (r : VenueRecord) :
    postNow rooms post now ≠ .answer r := by
  unfold postNow
  dsimp only
  split
  · exact nofun
  · split <;> exact nofun

-- ---------------------------------------------------------------------------
-- A venue file is read back
-- ---------------------------------------------------------------------------

/-- The records of a room fit it. -/
theorem fits_getList {rooms : Rooms} (h : Fit rooms) (room : String) :
    Fits room (rooms.getList room) := by
  unfold OrdMap.getList
  cases hRoom : rooms.get? room with
  | none => exact ⟨by simp, by simp⟩
  | some records => exact h room records hRoom

/-- A post keeps the rooms fit. -/
theorem fit_postNow {rooms next : Rooms} {post : Post} {now : SafeInt} {r : VenueRecord}
    (hFit : Fit rooms) (h : postNow rooms post now = .write next r) : Fit next := by
  obtain ⟨hRoom, hSeq, hTime, -, -, hLength, rfl⟩ := postNow_eq_write h
  intro room records hRecords
  rw [OrdMap.get?_set] at hRecords
  split at hRecords
  · rename_i hEq
    subst hEq
    obtain rfl := Option.some.inj hRecords
    have hOld := fits_getList hFit post.room
    refine ⟨by rw [List.length_append, List.length_singleton]; exact hLength, fun i r' hr' => ?_⟩
    rw [List.getElem?_append] at hr'
    split at hr'
    · exact hOld.record i r' hr'
    · rename_i hLast
      obtain ⟨hIndex, rfl⟩ := List.getElem?_eq_some_iff.mp hr'
      rw [List.length_singleton] at hIndex
      refine ⟨by simpa using hRoom, ?_, ?_⟩
      · simp only [List.getElem_singleton, hSeq]
        omega
      · simp only [List.getElem_singleton, hTime]
        exact now.property
  · exact hFit room records hRecords

/-- A printed record has the shape of one. -/
theorem isRecordShape_recordJson {r : VenueRecord}
    (h : r.timestampMs.natAbs ≤ JsonText.maxExact) :
    isRecordShape (recordJson r) r.room r.seq = some r := by
  have hKeys : ",".intercalate ((recordJson r).fieldNames.insertionSort (· ≤ ·)) =
      "line,nonce,room,sender,seq,signature,timestampMs" := by
    show ",".intercalate (["room", "seq", "timestampMs", "sender", "nonce", "signature",
      "line"].insertionSort (· ≤ ·)) = _
    decide +kernel
  have hReads : (recordJson r).text? "room" = some r.room ∧
      (recordJson r).int? "seq" = some (r.seq : Int) ∧
      (recordJson r).int? "timestampMs" = some r.timestampMs ∧
      (recordJson r).text? "sender" = some r.sender ∧
      (recordJson r).text? "nonce" = some r.nonce ∧
      (recordJson r).text? "signature" = some r.signature ∧
      (recordJson r).text? "line" = some r.line := by
    simp [recordJson, text?, int?, field?, List.lookup_cons]
  obtain ⟨hRoom, hSeq, hTime, hSender, hNonce, hSignature, hLine⟩ := hReads
  unfold isRecordShape
  simp [hKeys, hRoom, hSeq, hTime, hSender, hNonce, hSignature, hLine, guard, h]

/-- A fit venue is plain JSON. -/
theorem plain_venueJson {rooms : Rooms} (h : Fit rooms) : JsonText.Plain (venueJson rooms) := by
  -- the numbers of a record are exact ones
  have hRecord : ∀ r : VenueRecord, r.seq < 2 ^ 32 →
      r.timestampMs.natAbs ≤ JsonText.maxExact → JsonText.Plain (recordJson r) := by
    intro r hSeq hTime
    have hSeq : r.seq ≤ JsonText.maxExact := by
      unfold JsonText.maxExact
      omega
    simp [recordJson, JsonText.Plain, JsonText.PlainFields, hSeq, hTime]
  have hRooms : JsonText.PlainFields
      (rooms.entries.map fun e => (e.1, Json.arr (e.2.map recordJson))) := by
    refine JsonText.plainFields_iff.mpr fun field hField => ?_
    obtain ⟨⟨room, records⟩, hEntry, rfl⟩ := List.mem_map.mp hField
    have hFits : Fits room records := h room records (OrdMap.mem_entries.mp hEntry)
    refine JsonText.plainItems_iff.mpr fun item hItem => ?_
    obtain ⟨r, hr, rfl⟩ := List.mem_map.mp hItem
    obtain ⟨i, hi⟩ := List.mem_iff_getElem?.mp hr
    obtain ⟨-, hSeq, hTime⟩ := hFits.record i r hi
    have hLt : i < records.length := (List.getElem?_eq_some_iff.mp hi).1
    have hLength := hFits.length_lt
    exact hRecord r (by omega) hTime
  -- the names of the rooms are all different
  have hNames : (rooms.entries.map fun e => (e.1, Json.arr (e.2.map recordJson))).map Prod.fst =
      rooms.entries.map Prod.fst := by
    rw [List.map_map]
    rfl
  refine ⟨by simp, Nat.one_le_ofNat, ⟨?_, hRooms⟩, trivial⟩
  rw [hNames]
  exact rooms.nodup

/-- A printed room reads back. -/
theorem venueRoom_recordJson (path : String) {room : String} {records : List VenueRecord}
    (h : Fits room records) :
    venueRoom path (room, .arr (records.map recordJson)) = .ok (room, records) := by
  have hRecords : ((records.map recordJson).zipIdx.mapM fun (value, index) =>
      match isRecordShape value room (index + 1) with
      | some record => Except.ok record
      | none => .error (worldError ("the venue file " ++ path ++
          " holds a record that does not fit room " ++ room ++ " at position " ++
          toString (index + 1)))) = Except.ok records := by
    refine Grammar.mapM_eq_ok.mpr (List.forall₂_iff_get.mpr ⟨by simp, fun i hLeft hRight => ?_⟩)
    obtain ⟨hRoom, hSeq, hTime⟩ := h.record i records[i] (List.getElem?_eq_getElem hRight)
    have hShape := isRecordShape_recordJson hTime
    rw [hRoom, hSeq] at hShape
    simp [hShape]
  unfold venueRoom
  dsimp only
  rw [hRecords]
  rfl

/-- A serialised venue opens again. -/
theorem openVenue_serializeVenue (real : List Char → JsonNum) (path : String) {rooms : Rooms}
    (h : Fit rooms) : openVenue real path (serializeVenue rooms) = .ok rooms := by
  have hParse : JsonText.parse real (serializeVenue rooms) = some (venueJson rooms) :=
    JsonText.parse_pretty (plain_venueJson h)
  have hReads : (venueJson rooms).int? "v" = some 1 ∧
      (venueJson rooms).field? "rooms" =
        some (.obj (rooms.entries.map fun e => (e.1, .arr (e.2.map recordJson)))) := by
    simp [venueJson, int?, field?, List.lookup_cons]
  have hRooms : (rooms.entries.map fun e => (e.1, Json.arr (e.2.map recordJson))).mapM
      (venueRoom path) = .ok rooms.entries := by
    refine Grammar.mapM_eq_ok.mpr (List.forall₂_map_left_iff.mpr (List.forall₂_same.mpr fun e he => ?_))
    exact venueRoom_recordJson path (h e.1 e.2 (OrdMap.mem_entries.mp he))
  unfold openVenue
  simp only [hParse, hReads, hRooms]
  exact congrArg Except.ok (OrdMap.ofEntries_entries rooms)

/-- The venue is a lawful durable store. -/
theorem lawful_durableVenue (real : List Char → JsonNum) (path : String) :
    (durableVenue real path).Lawful Fit where
  start := fun room records h => by cases h
  write := fun m c i next a hFit hServe => fit_postNow hFit hServe
  decode_encode := fun m hFit => by
    show (openVenue real path (serializeVenue m)).toOption = some m
    rw [openVenue_serializeVenue real path hFit]
    rfl

-- ---------------------------------------------------------------------------
-- The notes
-- ---------------------------------------------------------------------------

abbrev Notes := OrdMap String String

def notesJson (values : Notes) : Json :=
  .obj [("v", .num (.int 1)), ("notes", .obj (values.entries.map fun e => (e.1, .str e.2)))]

def serializeNotes (values : Notes) : List Char := JsonText.pretty 0 (notesJson values) ++ ['\n']

/-- What `DurableNoteStore.open` makes of the text of its file. -/
def openNotes (real : List Char → JsonNum) (path : String) (text : List Char) :
    Except RehearsalWorldError Notes :=
  match JsonText.parse real text with
  | none => .error (worldError ("the notes file " ++ path ++
      " is not valid JSON; it holds the paper leg and is never replaced by an empty one"))
  | some file =>
    match file.int? "v", file.field? "notes" with
    | some 1, some (.obj fields) => do
      let values ← fields.mapM fun
        | (key, .str value) => .ok (key, value)
        | _ => .error (worldError ("the notes file " ++ path ++ " holds a note that is not text"))
      return .ofEntries values
    | _, _ => .error (worldError ("the notes file " ++ path ++ " is not a version 1 notes file"))

/-- The properties that a condition has; a write without one has neither. -/
structure Condition where
  ifAbsent : Bool
  ifValue : Option String
deriving DecidableEq, Repr

structure NoteWrite where
  ns : String
  key : String
  value : String
  condition : Condition
deriving DecidableEq, Repr

def NoteWrite.path (c : NoteWrite) : String := c.ns ++ "/" ++ c.key

/-- `setNow` up to its write. -/
def setNow (values : Notes) (c : NoteWrite) (_ : Unit) : Served Notes Bool :=
  let current := values.get? c.path
  if c.condition.ifAbsent && current.isSome then .answer false
  else if c.condition.ifValue.any fun value => current ≠ some value then .answer false
  else .write (values.set c.path c.value) true

def durableNotes (real : List Char → JsonNum) (path : String) :
    Snapshot (List Char) Notes NoteWrite Unit Bool where
  start := .empty
  encode := serializeNotes
  decode text := (openNotes real path text).toOption
  serve := setNow
  attempts := 6

/-- A write resolves `true` when its condition holds of the note as it is. -/
theorem setNow_eq_write {values next : Notes} {c : NoteWrite} {a : Bool}
    (h : setNow values c () = .write next a) :
    a = true ∧ next = values.set c.path c.value ∧
      (c.condition.ifAbsent = true → values.get? c.path = none) ∧
      ∀ value, c.condition.ifValue = some value → values.get? c.path = some value := by
  unfold setNow at h
  dsimp only at h
  split at h
  · cases h
  · rename_i hAbsent
    split at h
    · cases h
    · rename_i hValue
      cases h
      refine ⟨rfl, rfl, fun hIf => ?_, fun value hIf => ?_⟩
      · simpa [hIf] using hAbsent
      · simpa [hIf] using hValue

/-- A note is answered only when it is refused. -/
theorem setNow_eq_answer {values : Notes} {c : NoteWrite} {a : Bool}
    (h : setNow values c () = .answer a) : a = false := by
  unfold setNow at h
  dsimp only at h
  split at h
  · cases h
    rfl
  · split at h <;> cases h
    rfl

/-- Notes are plain JSON. -/
theorem plain_notesJson (values : Notes) : JsonText.Plain (notesJson values) := by
  have hNotes : JsonText.PlainFields (values.entries.map fun e => (e.1, Json.str e.2)) := by
    refine JsonText.plainFields_iff.mpr fun field hField => ?_
    obtain ⟨e, -, rfl⟩ := List.mem_map.mp hField
    trivial
  have hNames : (values.entries.map fun e => (e.1, Json.str e.2)).map Prod.fst =
      values.entries.map Prod.fst := by
    rw [List.map_map]
    rfl
  refine ⟨by simp, Nat.one_le_ofNat, ⟨?_, hNotes⟩, trivial⟩
  rw [hNames]
  exact values.nodup

/-- Serialised notes open again. -/
theorem openNotes_serializeNotes (real : List Char → JsonNum) (path : String) (values : Notes) :
    openNotes real path (serializeNotes values) = .ok values := by
  have hParse : JsonText.parse real (serializeNotes values) = some (notesJson values) :=
    JsonText.parse_pretty (plain_notesJson values)
  have hReads : (notesJson values).int? "v" = some 1 ∧
      (notesJson values).field? "notes" =
        some (.obj (values.entries.map fun e => (e.1, .str e.2))) := by
    simp [notesJson, int?, field?, List.lookup_cons]
  have hNotes : (values.entries.map fun e => (e.1, Json.str e.2)).mapM (fun
      | (key, .str value) => .ok (key, value)
      | _ => .error (worldError ("the notes file " ++ path ++ " holds a note that is not text"))) =
      Except.ok values.entries :=
    Grammar.mapM_eq_ok.mpr (List.forall₂_map_left_iff.mpr
      (List.forall₂_same.mpr fun e _ => rfl))
  unfold openNotes
  simp only [hParse, hReads, hNotes]
  exact congrArg Except.ok (OrdMap.ofEntries_entries values)

/-- The notes are a lawful durable store. -/
theorem lawful_durableNotes (real : List Char → JsonNum) (path : String) :
    (durableNotes real path).Lawful fun _ => True where
  start := trivial
  write := fun m c i next a hGood hServe => trivial
  decode_encode := fun m hGood => by
    show (openNotes real path (serializeNotes m)).toOption = some m
    rw [openNotes_serializeNotes]
    rfl

end SwapDesk.Client.RehearsalWorld
