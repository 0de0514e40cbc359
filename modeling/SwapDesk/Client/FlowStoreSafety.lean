import Mathlib.Logic.Function.Basic
import SwapDesk.Client.FlowStoreFile
import SwapDesk.Lib.Machine

/-!
# SwapDesk — what a flow store holds

A `FileFlowStore` over any sequence of saves, in which a save may also be cut off before its file
is renamed and leave a lock or a temporary file behind. The saves of one key are one after another,
as its lock makes them; what two processes do while they take that lock is not part of this.

Main result: `store_is_map`. The store is a map from keys to records in which a record is replaced
only by a save that names the digest of the one it replaces: nothing is lost, nothing else is
listed, and nothing is ever found corrupt.
-/

namespace SwapDesk.Client.FlowStore

variable {sha256 : List UInt8 → Digest}

-- ---------------------------------------------------------------------------
-- The abstract store
-- ---------------------------------------------------------------------------

/-- What a store holds for each key. -/
abbrev Contents := FlowKey → Option Payload

inductive StoreEvent where
  | save (key : FlowKey) (payload : Payload) (expected : Option (List Char))
  /-- A leftover appears, changes or goes. -/
  | leftover (name : List Char) (content : Option (List UInt8))

/-- What a caller has to name to replace the record. -/
def Contents.digest (sha256 : List UInt8 → Digest) (contents : Contents) (key : FlowKey) :
    Option (List Char) :=
  (contents key).map fun payload => flowDigest sha256 payload.val

/-- A compare-and-swap; leftovers are no part of the contents. -/
def Contents.apply (sha256 : List UInt8 → Digest) (contents : Contents) : StoreEvent → Contents
  | .save key payload expected =>
    if expected = contents.digest sha256 key then Function.update contents key (some payload)
    else contents
  | .leftover _ _ => contents

def Contents.after (sha256 : List UInt8 → Digest) (events : List StoreEvent) : Contents :=
  events.foldl (Contents.apply sha256) fun _ => none

-- ---------------------------------------------------------------------------
-- The directory over a run
-- ---------------------------------------------------------------------------

/-- A file of this name, with this content or none. -/
def Directory.put (dir : Directory) (name : List Char) : Option (List UInt8) → Directory
  | some content => dir.set name content
  | none => dir.filterMap fun other file => if other = name then none else some file

inductive Directory.Step (sha256 : List UInt8 → Digest) :
    Directory → StoreEvent → Directory → Prop
  | saved {dir dir' : Directory} {key : FlowKey} {payload : Payload}
      {expected : Option (List Char)} : dir.save sha256 key payload.val expected = .ok dir' →
      Step sha256 dir (.save key payload expected) dir'
  | refused {dir : Directory} {key : FlowKey} {payload : Payload} {expected : Option (List Char)}
      {error : FlowStoreError} : dir.save sha256 key payload.val expected = .error error →
      Step sha256 dir (.save key payload expected) dir
  | leftover {dir : Directory} {name : List Char} {content : Option (List UInt8)} :
      IsLeftover name → Step sha256 dir (.leftover name content) (dir.put name content)

/-- A store that starts with no file. -/
def directories (sha256 : List UInt8 → Digest) : Machine Directory StoreEvent where
  init dir := dir = .empty
  step := Directory.Step sha256

-- ---------------------------------------------------------------------------
-- Names
-- ---------------------------------------------------------------------------

/-- A key has a file of its own. -/
theorem fileName_inj {key key' : FlowKey} : key.fileName = key'.fileName ↔ key = key' := by
  refine ⟨fun h => ?_, congrArg _⟩
  have hNamed := FILE_NAME_PATTERN_eq_some.mpr h
  rw [FILE_NAME_PATTERN_eq_some.mpr rfl] at hNamed
  exact Option.some.inj hNamed

/-- A key is told by its text. -/
theorem text_inj {key key' : FlowKey} (h : key.text = key'.text) : key = key' := by
  obtain ⟨role, id, shape⟩ := key
  obtain ⟨role', id', shape'⟩ := key'
  cases role <;> cases role' <;> simp [FlowKey.text, FlowRole.text] at h
  · rw [FlowKey.mk.injEq]
    exact ⟨rfl, h⟩
  · rw [FlowKey.mk.injEq]
    exact ⟨rfl, h⟩

/-- A record is no temporary file, of its own key or of another one. -/
theorem isStaleTemp_fileName (key key' : FlowKey) : isStaleTemp key key'.fileName = false := by
  unfold isStaleTemp
  cases hTail : after? (key.fileName ++ ".tmp-".toList) key'.fileName with
  | none => rfl
  | some tail =>
    have hName := after?_eq_some.mp hTail
    rw [FlowKey.fileName, FlowKey.fileName, List.append_assoc, List.append_assoc] at hName
    refine absurd hName (stem_append_ne fun hEq => ?_)
    have hLength := congrArg List.length hEq
    simp at hLength

/-- No leftover goes by the name of a record. -/
theorem IsLeftover.ne_fileName {name : List Char} (h : IsLeftover name) (key : FlowKey) :
    key.fileName ≠ name := by
  rintro rfl
  have hNone := FILE_NAME_PATTERN_leftover h
  rw [FILE_NAME_PATTERN_eq_some.mpr rfl] at hNone
  cases hNone

/-- Only the file of this name changes. -/
theorem Directory.get?_put (dir : Directory) (name other : List Char)
    (content : Option (List UInt8)) :
    (dir.put name content).get? other = if other = name then content else dir.get? other := by
  cases content with
  | some content => exact OrdMap.get?_set dir name other content
  | none =>
    rw [Directory.put, OrdMap.get?_filterMap]
    split
    · cases dir.get? other <;> rfl
    · cases dir.get? other <;> rfl

-- ---------------------------------------------------------------------------
-- The files are those of the contents
-- ---------------------------------------------------------------------------

/-- Each record has its file, and there is no file of a record that is not there. -/
def Holds (sha256 : List UInt8 → Digest) (dir : Directory) (contents : Contents) : Prop :=
  ∀ key : FlowKey,
    dir.get? key.fileName = (contents key).map fun payload => frame sha256 payload.val

section

variable {dir dir' : Directory} {contents : Contents} {key : FlowKey}

/-- A key loads the record that is there. -/
theorem Holds.load (h : Holds sha256 dir contents) (key : FlowKey) :
    dir.load sha256 key = .ok ((contents key).map (·.val)) := by
  unfold Directory.load
  rw [h key]
  cases contents key with
  | none => rfl
  | some payload =>
    show (readPayload sha256 _ (frame sha256 payload.val)).map some = _
    rw [readPayload_frame]
    rfl

/-- The compare lets through who knows what is there. -/
theorem Holds.compare (h : Holds sha256 dir contents) (key : FlowKey)
    (expected : Option (List Char)) :
    dir.compare sha256 key expected = .ok () ↔ expected = contents.digest sha256 key := by
  unfold Directory.compare Contents.digest
  cases expected with
  | none =>
    show (if dir.has key.fileName then _ else _) = _ ↔ _
    rw [OrdMap.has, h key]
    cases contents key with
    | none => exact ⟨fun _ => rfl, fun _ => rfl⟩
    | some payload => exact ⟨nofun, nofun⟩
  | some expected =>
    dsimp only
    rw [h.load key]
    cases contents key with
    | none => exact ⟨nofun, nofun⟩
    | some payload =>
      dsimp only [Option.map_some]
      rw [Option.some.injEq, eq_comm (a := expected)]
      split
      · rename_i hSame
        exact ⟨fun _ => hSame, fun _ => rfl⟩
      · rename_i hOther
        exact ⟨nofun, fun hSame => absurd hSame hOther⟩

/-- A save goes through for who knows what is there, and then puts the record in place. -/
theorem Holds.save (h : Holds sha256 dir contents) {payload : List UInt8}
    {expected : Option (List Char)} :
    dir.save sha256 key payload expected = .ok dir' ↔
      expected = contents.digest sha256 key ∧
        dir' = (dir.removeStaleTemps key).set key.fileName (frame sha256 payload) := by
  rw [← h.compare key expected]
  unfold Directory.save
  cases dir.compare sha256 key expected with
  | error error => exact ⟨nofun, nofun⟩
  | ok _ =>
    constructor
    · intro hOk
      exact ⟨rfl, (Except.ok.inj hOk).symm⟩
    · rintro ⟨-, rfl⟩
      rfl

/-- A step of the directory is one of its contents. -/
theorem Holds.step (h : Holds sha256 dir contents) {event : StoreEvent}
    (hStep : Directory.Step sha256 dir event dir') :
    Holds sha256 dir' (contents.apply sha256 event) := by
  cases hStep with
  | @saved _ key payload expected hSave =>
    obtain ⟨hExpected, rfl⟩ := h.save.mp hSave
    intro other
    rw [Contents.apply, if_pos hExpected, OrdMap.get?_set]
    by_cases hKey : other = key
    · rw [hKey, if_pos rfl, Function.update_self]
      rfl
    · rw [if_neg fun hName => hKey (fileName_inj.mp hName), Function.update_of_ne hKey,
        Directory.removeStaleTemps, OrdMap.get?_filterMap, h other]
      cases contents other with
      | none => rfl
      | some payload =>
        show (if isStaleTemp key other.fileName then _ else _) = _
        rw [isStaleTemp_fileName]
        rfl
  | @refused key payload expected error hSave =>
    -- who is refused did not know what is there
    have hOther : expected ≠ contents.digest sha256 key := by
      intro hExpected
      rw [h.save.mpr ⟨hExpected, rfl⟩] at hSave
      cases hSave
    rw [Contents.apply, if_neg hOther]
    exact h
  | @leftover name content hName =>
    intro other
    rw [Directory.get?_put, if_neg (hName.ne_fileName other)]
    exact h other

/-- A run of the directory is one of its contents. -/
theorem Holds.leads {events : List StoreEvent} (h : Holds sha256 dir contents)
    (hRun : (directories sha256).Leads dir events dir') :
    Holds sha256 dir' (events.foldl (Contents.apply sha256) contents) := by
  induction hRun generalizing contents with
  | nil => exact h
  | cons hStep _ ih => exact ih (h.step hStep)

/-- The keys that are listed are those of the records. -/
theorem Holds.mem_list (h : Holds sha256 dir contents) {text : List Char} :
    text ∈ dir.list ↔ ∃ key : FlowKey, text = key.text ∧ (contents key).isSome = true := by
  unfold Directory.list
  rw [List.mem_mergeSort, List.mem_map]
  have hFile (key : FlowKey) : key ∈ (dir.entries.map Prod.fst).filterMap FILE_NAME_PATTERN ↔
      (contents key).isSome = true := by
    have hGet : (contents key).isSome = (dir.get? key.fileName).isSome := by
      rw [h key, Option.isSome_map]
    rw [hGet, List.mem_filterMap, Option.isSome_iff_exists]
    simp only [List.mem_map, Prod.exists, exists_and_right, exists_eq_right,
      FILE_NAME_PATTERN_eq_some, OrdMap.mem_entries]
  constructor
  · rintro ⟨key, hKey, rfl⟩
    exact ⟨key, rfl, (hFile key).mp hKey⟩
  · rintro ⟨key, rfl, hKey⟩
    exact ⟨key, (hFile key).mpr hKey, rfl⟩

/-- No key is listed twice, and they are listed in order. -/
theorem sorted_list (dir : Directory) : dir.list.Pairwise (· < ·) := by
  have hSorted : dir.list.Pairwise (· ≤ ·) := List.pairwise_mergeSort' _ _
  have hKeys : ((dir.entries.map Prod.fst).filterMap FILE_NAME_PATTERN).Nodup := by
    refine dir.nodup.filterMap fun name name' key hName hName' => ?_
    rw [FILE_NAME_PATTERN_eq_some.mp hName, FILE_NAME_PATTERN_eq_some.mp hName']
  have hNodup : dir.list.Nodup :=
    (List.mergeSort_perm _ _).nodup_iff.mpr (hKeys.map fun _ _ h => text_inj h)
  exact (hSorted.and hNodup).imp fun h => lt_of_le_of_ne h.1 h.2

end

/-- **A flow store is a map.** Whatever was saved, refused or left behind, a key loads the record
that the last save of it put there; a save goes through exactly for who names the digest of what is
there, or that there is nothing; and the keys that have a record are listed, once each and in
order. -/
theorem store_is_map (sha256 : List UInt8 → Digest) {events : List StoreEvent} {dir : Directory}
    (hRun : (directories sha256).Leads .empty events dir) :
    (∀ key, dir.load sha256 key = .ok ((Contents.after sha256 events key).map (·.val))) ∧
      (∀ (key : FlowKey) (payload : List UInt8) (expected : Option (List Char)),
        (∃ dir', dir.save sha256 key payload expected = .ok dir') ↔
          expected = (Contents.after sha256 events).digest sha256 key) ∧
      dir.list.Pairwise (· < ·) ∧
      ∀ text, text ∈ dir.list ↔
        ∃ key : FlowKey, text = key.text ∧ (Contents.after sha256 events key).isSome = true := by
  have hHolds : Holds sha256 dir (Contents.after sha256 events) :=
    Holds.leads (fun _ => rfl) hRun
  refine ⟨hHolds.load, fun key payload expected => ?_, sorted_list dir, fun text =>
    hHolds.mem_list⟩
  constructor
  · rintro ⟨dir', hSave⟩
    exact (hHolds.save.mp hSave).1
  · intro hExpected
    exact ⟨_, hHolds.save.mpr ⟨hExpected, rfl⟩⟩

namespace StoreSample

/-- The first 32 bytes, where there are as many. -/
def digest (bytes : List UInt8) : Digest :=
  ⟨(bytes ++ List.replicate 32 0).take 32, by simp⟩

def key : FlowKey := ⟨.buyer, '0' :: 'x' :: List.replicate 64 'a', by decide⟩

def first : Payload := ⟨[1], by decide⟩

def second : Payload := ⟨[2], by decide⟩

/-- A record is created; a save is cut off and leaves its lock; two more create and replace. -/
def events : List StoreEvent :=
  [.save key first none, .leftover key.lockName (some [49]), .save key second none,
    .save key second (some (flowDigest digest first.val))]

/-- Every save goes through or is refused. -/
theorem step_save (dir : Directory) (key : FlowKey) (payload : Payload)
    (expected : Option (List Char)) :
    ∃ dir', Directory.Step digest dir (.save key payload expected) dir' := by
  cases hSave : dir.save digest key payload.val expected with
  | ok dir' => exact ⟨dir', .saved hSave⟩
  | error error => exact ⟨dir, .refused hSave⟩

/-- The events of the sample are a run. -/
theorem runs : ∃ dir, (directories digest).Leads .empty events dir := by
  obtain ⟨dir₁, h₁⟩ := step_save .empty key first none
  have h₂ : Directory.Step digest dir₁ (.leftover key.lockName (some [49])) _ :=
    .leftover (.inr ⟨key, .inl rfl⟩)
  obtain ⟨dir₃, h₃⟩ := step_save _ key second none
  obtain ⟨dir₄, h₄⟩ := step_save dir₃ key second (some (flowDigest digest first.val))
  exact ⟨dir₄, .cons h₁ (.cons h₂ (.cons h₃ (.cons h₄ (.nil _))))⟩

/-- The save that takes the record for new is refused. -/
theorem contents : Contents.after digest (events.take 3) key = some first ∧
    Contents.after digest events key = some second := by
  decide

end StoreSample

/-- After the sample's events the second record is loaded, and its key is listed. -/
theorem store_is_map_sample : ∃ dir,
    (directories StoreSample.digest).Leads .empty StoreSample.events dir ∧
    dir.load StoreSample.digest StoreSample.key = .ok (some [2]) ∧
    StoreSample.key.text ∈ dir.list := by
  obtain ⟨dir, hRun⟩ := StoreSample.runs
  obtain ⟨hLoad, -, -, hList⟩ := store_is_map StoreSample.digest hRun
  have hContents := StoreSample.contents.2
  refine ⟨dir, hRun, ?_, (hList _).mpr ⟨StoreSample.key, rfl, ?_⟩⟩
  · rw [hLoad, hContents]
    rfl
  · rw [hContents]
    rfl

end SwapDesk.Client.FlowStore
