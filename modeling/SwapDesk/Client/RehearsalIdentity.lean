import SwapDesk.Lib.Hex
import SwapDesk.Client.RehearsalWorld

/-!
# SwapDesk — the identities of a rehearsal

`loadOrCreateIdentity` of `src/client/rehearsal-world.ts`, with any number of calls of one file
under way, every operation failing or not, and the process killed before any of them.

Main result: `load_of_inv`. A load after a kill returns the identity that was returned before,
unless the creation of the file was cut off.
-/

namespace SwapDesk.Client.RehearsalWorld

open CharClass (isHexLower)

-- ---------------------------------------------------------------------------
-- Seed files
-- ---------------------------------------------------------------------------

/-- What the system's generator gives. -/
abbrev Seed := { bytes : List UInt8 // bytes.length = 32 }

/-- The digits of a text that `SEED_FILE` matches. -/
def SEED_FILE (text : List Char) : Option (List Char) :=
  let digits := if text.getLast? = some '\n' then text.dropLast else text
  if digits.length = 64 ∧ digits.all isHexLower = true then some digits else none

/-- What is written of a seed. -/
def seedText (seed : Seed) : List Char := Hex.encode seed.val ++ ['\n']

/-- Where a call of `loadOrCreateIdentity` is. -/
inductive Loading where
  | reading
  | making (seed : Seed)
  | opening (seed : Seed)
  | writing (seed : Seed)
  | syncing (seed : Seed)
  | closing (seed : Seed)
  /-- The file is closed after something failed. -/
  | abandoning
deriving DecidableEq

/-- An identity file, the calls that are under way, and the identities that were returned. -/
structure IdentityFile (ι : Type) where
  file : Option (List Char)
  loads : Nat → Option Loading
  returned : List ι

namespace IdentityFile

variable {ι : Type}

section

variable (identityFromSeed : List UInt8 → ι) (path : String)

/-- What a call makes of the text of the file. -/
def identityOf (text : List Char) : Except RehearsalWorldError ι :=
  match SEED_FILE text with
  | none => .error (worldError ("the identity file " ++ path ++
      " is not 64 hex digits; it is never replaced by a new one"))
  | some digits => .ok (identityFromSeed ((Hex.decode digits).getD []))

inductive Event where
  | load (i : Nat)
  /-- The next operation of a call succeeds; the seed is what the generator gives if asked. -/
  | act (i : Nat) (seed : Seed)
  /-- A write has come to this length. -/
  | part (i : Nat) (length : Nat)
  | fails (i : Nat)
  | kill

def set (s : IdentityFile ι) (i : Nat) (phase : Option Loading) : IdentityFile ι :=
  { s with loads := Function.update s.loads i phase }

/-- A call returns. -/
def settle (s : IdentityFile ι) (i : Nat) (id : ι) : IdentityFile ι :=
  { s.set i none with returned := s.returned ++ [id] }

def act (s : IdentityFile ι) (i : Nat) (minted : Seed) : Loading → IdentityFile ι
  | .reading =>
    match s.file with
    | none => s.set i (some (.making minted))
    | some text =>
      match identityOf identityFromSeed path text with
      | .ok id => s.settle i id
      | .error _ => s.set i none
  | .making seed => s.set i (some (.opening seed))
  | .opening seed =>
    match s.file with
    | none => { s.set i (some (.writing seed)) with file := some [] }
    -- the file is created exclusively
    | some _ => s.set i none
  | .writing seed =>
    { s.set i (some (.syncing seed)) with file := s.file.map fun _ => seedText seed }
  | .syncing seed => s.set i (some (.closing seed))
  | .closing seed => s.settle i (identityFromSeed seed.val)
  | .abandoning => s.set i none

/-- Where a call goes on after an operation that fails. -/
def afterFailure : Loading → Option Loading
  | .writing _ | .syncing _ => some .abandoning
  | _ => none

/-- A kill changes no file. -/
def kill (s : IdentityFile ι) : IdentityFile ι := { s with loads := fun _ => none }

def step (s : IdentityFile ι) : Event → Option (IdentityFile ι)
  | .load i => if s.loads i = none then some (s.set i (some .reading)) else none
  | .act i minted => (s.loads i).map (s.act identityFromSeed path i minted)
  | .part i length =>
    match s.loads i, s.file with
    | some (.writing seed), some text =>
      if text.length ≤ length then some { s with file := some ((seedText seed).take length) }
      else none
    | _, _ => none
  | .fails i => (s.loads i).map fun phase => s.set i (afterFailure phase)
  | .kill => some s.kill

/-- Nobody has called yet, and there is no file. -/
def fresh : IdentityFile ι := ⟨none, fun _ => none, []⟩

/-- All the runs. -/
def machine : Machine (IdentityFile ι) Event :=
  .ofFun (· = fresh) (step identityFromSeed path)

end

-- ---------------------------------------------------------------------------
-- What is read of a file
-- ---------------------------------------------------------------------------

section

variable {identityFromSeed : List UInt8 → ι} {path : String}

/-- A seed file has 65 characters. -/
theorem length_seedText (seed : Seed) : (seedText seed).length = 65 := by
  rw [seedText, List.length_append, Hex.length_encode, seed.property]
  rfl

/-- A text that matches has its 64 digits. -/
theorem length_of_SEED_FILE {text digits : List Char} (h : SEED_FILE text = some digits) :
    64 ≤ text.length := by
  simp only [SEED_FILE, Option.ite_none_right_eq_some] at h
  obtain ⟨⟨hLength, -⟩, -⟩ := h
  split at hLength
  · rw [List.length_dropLast] at hLength
    omega
  · exact hLength.ge

/-- All the digits of a seed, with or without the line break, match. -/
theorem SEED_FILE_take (seed : Seed) {n : Nat} (h : 64 ≤ n) :
    SEED_FILE ((seedText seed).take n) = some (Hex.encode seed.val) := by
  have hLength : (Hex.encode seed.val).length = 64 := by
    rw [Hex.length_encode, seed.property]
  have hDigits := Hex.all_isHexLower_encode seed.val
  unfold SEED_FILE
  dsimp only
  rcases Nat.lt_or_ge n 65 with hShort | hWhole
  · obtain rfl : n = 64 := by omega
    have hTake : (seedText seed).take 64 = Hex.encode seed.val := by
      rw [seedText, List.take_append_of_le_length hLength.ge, List.take_of_length_le hLength.le]
    have hLast : (Hex.encode seed.val).getLast? ≠ some '\n' := by
      intro hLast
      have hMem := List.mem_of_getLast? hLast
      have hBreak := List.all_eq_true.mp hDigits '\n' hMem
      cases hBreak
    rw [hTake, if_neg hLast, if_pos ⟨hLength, hDigits⟩]
  · have hTake : (seedText seed).take n = Hex.encode seed.val ++ ['\n'] :=
      List.take_of_length_le (by rw [length_seedText]; exact hWhole)
    have hLast : (Hex.encode seed.val ++ ['\n']).getLast? = some '\n' := List.getLast?_concat
    rw [hTake, if_pos hLast, List.dropLast_concat, if_pos ⟨hLength, hDigits⟩]

/-- What a call makes of a part of what is written of a seed. -/
theorem identityOf_part {text : List Char} {seed : Seed} (h : text <+: seedText seed) {id : ι} :
    identityOf identityFromSeed path text = .ok id ↔
      64 ≤ text.length ∧ id = identityFromSeed seed.val := by
  unfold identityOf
  constructor
  · intro hOk
    split at hOk
    · cases hOk
    · rename_i digits hDigits
      have hLength := length_of_SEED_FILE hDigits
      rw [List.prefix_iff_eq_take.mp h, SEED_FILE_take seed hLength] at hDigits
      obtain rfl := Option.some.inj hDigits
      rw [Hex.decode_encode] at hOk
      exact ⟨hLength, (Except.ok.inj hOk).symm⟩
  · rintro ⟨hLength, rfl⟩
    rw [List.prefix_iff_eq_take.mp h, SEED_FILE_take seed hLength]
    dsimp only
    rw [Hex.decode_encode]
    rfl

-- ---------------------------------------------------------------------------
-- The invariant
-- ---------------------------------------------------------------------------

/-- The seed of a call that has created the file. -/
def made : Loading → Option Seed
  | .writing seed | .syncing seed | .closing seed => some seed
  | _ => none

/-- There is no file yet. -/
structure Blank (s : IdentityFile ι) : Prop where
  file : s.file = none
  made : ∀ i phase, s.loads i = some phase → made phase = none
  returned : s.returned = []

/-- The file is a part of what is written of one seed, which is the seed of every call that has
created it and of every identity that was returned. -/
structure Holds (identityFromSeed : List UInt8 → ι) (seed : Seed) (s : IdentityFile ι)
    (text : List Char) : Prop where
  file : s.file = some text
  part : text <+: seedText seed
  maker : ∀ i phase, s.loads i = some phase → ∀ seed' ∈ made phase, seed' = seed
  whole : ∀ i phase, s.loads i = some phase → phase = .syncing seed ∨ phase = .closing seed →
    text = seedText seed
  returned : ∀ id ∈ s.returned, 64 ≤ text.length ∧ id = identityFromSeed seed.val

def Inv (identityFromSeed : List UInt8 → ι) (s : IdentityFile ι) : Prop :=
  Blank s ∨ ∃ seed text, Holds identityFromSeed seed s text

/-- The loads after one of them moved. -/
theorem loads_set (s : IdentityFile ι) (i j : Nat) (phase : Option Loading) :
    (s.set i phase).loads j = if j = i then phase else s.loads j := by
  simp only [IdentityFile.set, Function.update_apply]

/-- A file that nobody made stays so. -/
theorem Blank.set {s : IdentityFile ι} (h : Blank s) {i : Nat} {phase : Option Loading}
    (hPhase : ∀ p ∈ phase, IdentityFile.made p = none) : Blank (s.set i phase) := by
  refine ⟨h.file, fun j p hp => ?_, h.returned⟩
  rw [loads_set] at hp
  split at hp
  · exact hPhase p hp
  · exact h.made j p hp

/-- A file that holds a seed goes on holding it. -/
theorem Holds.set {s : IdentityFile ι} {seed : Seed} {text : List Char}
    (h : Holds identityFromSeed seed s text) {i : Nat} {phase : Option Loading}
    (hMaker : ∀ p ∈ phase, ∀ seed' ∈ made p, seed' = seed)
    (hWhole : ∀ p ∈ phase, p = .syncing seed ∨ p = .closing seed → text = seedText seed) :
    Holds identityFromSeed seed (s.set i phase) text := by
  refine ⟨h.file, h.part, fun j p hp => ?_, fun j p hp => ?_, h.returned⟩
  · rw [loads_set] at hp
    split at hp
    · exact hMaker p hp
    · exact h.maker j p hp
  · rw [loads_set] at hp
    split at hp
    · exact hWhole p hp
    · exact h.whole j p hp

/-- A call that goes on with nothing of the file. -/
theorem Holds.leave {s : IdentityFile ι} {seed : Seed} {text : List Char}
    (h : Holds identityFromSeed seed s text) {i : Nat} {phase : Option Loading}
    (hPhase : ∀ p ∈ phase, made p = none) :
    Holds identityFromSeed seed (s.set i phase) text := by
  refine h.set (fun p hp seed' hSeed => ?_) fun p hp hMade => ?_
  · rw [hPhase p hp] at hSeed
    cases hSeed
  · rcases hMade with rfl | rfl <;> cases hPhase _ hp

/-- A call returns what the file holds whole. -/
theorem Holds.settle {s : IdentityFile ι} {seed : Seed} {text : List Char}
    (h : Holds identityFromSeed seed s text) {i : Nat} {id : ι}
    (hId : 64 ≤ text.length ∧ id = identityFromSeed seed.val) :
    Holds identityFromSeed seed (s.settle i id) text := by
  have hSet : Holds identityFromSeed seed (s.set i none) text := h.leave nofun
  refine ⟨hSet.file, hSet.part, hSet.maker, hSet.whole, fun id' hMem => ?_⟩
  rcases List.mem_append.mp hMem with hOld | hNew
  · exact h.returned id' hOld
  · rw [List.mem_singleton.mp hNew]
    exact hId

/-- The file that a call has open grows to more of the same. -/
theorem Holds.grow {s : IdentityFile ι} {seed : Seed} {text longer : List Char}
    (h : Holds identityFromSeed seed s text) (hPart : longer <+: seedText seed)
    (hLength : text.length ≤ longer.length) :
    Holds identityFromSeed seed { s with file := some longer } longer := by
  refine ⟨rfl, hPart, h.maker, fun i p hp hMade => ?_, fun id hId => ?_⟩
  · have hWhole := h.whole i p hp hMade
    rw [hWhole] at hLength
    exact hPart.eq_of_length_le hLength
  · obtain ⟨hOld, hEq⟩ := h.returned id hId
    exact ⟨hOld.trans hLength, hEq⟩

/-- From no file, a load keeps the invariant. -/
theorem Blank.act {s : IdentityFile ι} (h : Blank s) {i : Nat} {phase : Loading}
    (hPhase : s.loads i = some phase) (minted : Seed) :
    Inv identityFromSeed (s.act identityFromSeed path i minted phase) := by
  have hMade := h.made i phase hPhase
  cases phase with
  | reading =>
    unfold IdentityFile.act
    rw [h.file]
    exact .inl (h.set fun p hp => by cases hp; rfl)
  | making seed => exact .inl (h.set fun p hp => by cases hp; rfl)
  | opening seed =>
    -- the call that creates the file makes its seed the one of the file
    unfold IdentityFile.act
    rw [h.file]
    refine .inr ⟨seed, [], rfl, List.nil_prefix, fun j p hp => ?_, fun j p hp hSeed => ?_, ?_⟩
    · have hp : (s.set i (some (.writing seed))).loads j = some p := hp
      rw [loads_set] at hp
      split at hp
      · cases hp
        intro seed' hSeed
        exact (Option.some.inj hSeed).symm
      · rw [h.made j p hp]
        exact nofun
    · have hp : (s.set i (some (.writing seed))).loads j = some p := hp
      rw [loads_set] at hp
      split at hp
      · cases hp
        rcases hSeed with hSeed | hSeed <;> cases hSeed
      · have hNone := h.made j p hp
        rcases hSeed with rfl | rfl <;> cases hNone
    · intro id hId
      have hId : id ∈ s.returned := hId
      rw [h.returned] at hId
      cases hId
  | abandoning => exact .inl (h.set nofun)
  | _ => cases hMade

/-- From a file that holds a seed, a load keeps the invariant. -/
theorem Holds.act {s : IdentityFile ι} {seed : Seed} {text : List Char}
    (h : Holds identityFromSeed seed s text) {i : Nat} {phase : Loading}
    (hPhase : s.loads i = some phase) (minted : Seed) :
    Inv identityFromSeed (s.act identityFromSeed path i minted phase) := by
  have hMaker := h.maker i phase hPhase
  have hWhole := h.whole i phase hPhase
  cases phase with
  | reading =>
    -- a reader finds a part of the one text, and returns only on the whole
    unfold IdentityFile.act
    rw [h.file]
    dsimp only
    split
    · rename_i id hOk
      exact .inr ⟨seed, text, h.settle ((identityOf_part h.part).mp hOk)⟩
    · exact .inr ⟨seed, text, h.leave nofun⟩
  | making seed' => exact .inr ⟨seed, text, h.leave fun p hp => by cases hp; rfl⟩
  | opening seed' =>
    -- the file is there, so it cannot be created once more
    unfold IdentityFile.act
    rw [h.file]
    exact .inr ⟨seed, text, h.leave nofun⟩
  | writing seed' =>
    -- its maker writes the rest
    obtain rfl := hMaker seed' rfl
    have hText := h.grow (List.prefix_refl (seedText seed')) h.part.length_le
    have hNext : Holds identityFromSeed seed'
        (IdentityFile.set { s with file := some (seedText seed') } i (some (.syncing seed')))
        (seedText seed') :=
      hText.set (fun p hp seed hSeed => by cases hp; exact (Option.some.inj hSeed).symm)
        fun p hp _ => rfl
    refine .inr ⟨seed', seedText seed', ?_⟩
    unfold IdentityFile.act
    rw [h.file]
    exact hNext
  | syncing seed' =>
    obtain rfl := hMaker seed' rfl
    refine .inr ⟨seed', text, h.set (fun p hp seed hSeed => ?_) fun p hp _ => hWhole (.inl rfl)⟩
    cases hp
    exact (Option.some.inj hSeed).symm
  | closing seed' =>
    obtain rfl := hMaker seed' rfl
    -- the maker closes it once everything is in it
    have hText := hWhole (.inr rfl)
    refine .inr ⟨seed', text, h.settle ⟨?_, rfl⟩⟩
    rw [hText, length_seedText]
    decide
  | abandoning => exact .inr ⟨seed, text, h.leave nofun⟩

/-- A load that failed has made no file. -/
theorem made_afterFailure (phase : Loading) : ∀ p ∈ afterFailure phase, made p = none := by
  intro p hp
  cases phase <;> cases hp <;> rfl

/-- Every step keeps the invariant. -/
theorem inv_step {s s' : IdentityFile ι} {e : Event} (h : Inv identityFromSeed s)
    (hStep : step identityFromSeed path s e = some s') : Inv identityFromSeed s' := by
  cases e with
  | load i =>
    simp only [step, Option.ite_none_right_eq_some] at hStep
    obtain ⟨-, hNext⟩ := hStep
    obtain rfl := Option.some.inj hNext
    -- a call that begins has made nothing
    have hReading : ∀ p ∈ some Loading.reading, made p = none := fun p hp => by cases hp; rfl
    exact h.imp (·.set hReading) fun ⟨seed, text, hHolds⟩ => ⟨seed, text, hHolds.leave hReading⟩
  | act i minted =>
    obtain ⟨phase, hPhase, rfl⟩ := Option.map_eq_some_iff.mp hStep
    rcases h with hBlank | ⟨seed, text, hHolds⟩
    · exact hBlank.act hPhase minted
    -- once there is a seed, everything is about that one
    · exact hHolds.act hPhase minted
  | part i length =>
    simp only [step] at hStep
    split at hStep
    · rename_i seed' text' hPhase hFile
      split at hStep
      · rename_i hLength
        obtain rfl := Option.some.inj hStep
        rcases h with hBlank | ⟨seed, text, hHolds⟩
        · rw [hBlank.file] at hFile
          cases hFile
        · obtain rfl := hHolds.maker i _ hPhase seed' rfl
          obtain rfl := Option.some.inj (hHolds.file.symm.trans hFile)
          -- a part that was written is longer than what was there
          have hPart := hHolds.part.length_le
          refine .inr ⟨seed', _, hHolds.grow (List.take_prefix _ _) ?_⟩
          rw [List.length_take]
          omega
      · cases hStep
    · cases hStep
  | fails i =>
    obtain ⟨phase, -, rfl⟩ := Option.map_eq_some_iff.mp hStep
    have hMade := made_afterFailure phase
    exact h.imp (·.set hMade) fun ⟨seed, text, hHolds⟩ => ⟨seed, text, hHolds.leave hMade⟩
  | kill =>
    -- the file outlives the processes
    obtain rfl := Option.some.inj hStep
    refine h.imp (fun hBlank => ⟨hBlank.file, nofun, hBlank.returned⟩) ?_
    rintro ⟨seed, text, hHolds⟩
    exact ⟨seed, text, hHolds.file, hHolds.part, nofun, nofun, hHolds.returned⟩

/-- The invariant holds in every reachable state. -/
theorem inv {s : IdentityFile ι} (h : (machine identityFromSeed path).Reachable s) :
    Inv identityFromSeed s := by
  refine Machine.invariant (fun s hInit => ?_) (fun s e s' _ hInv hStep => ?_) h
  · obtain rfl := hInit
    exact .inl ⟨rfl, nofun, rfl⟩
  · have hStep : step identityFromSeed path s e = some s' := hStep
    exact inv_step hInv hStep

-- ---------------------------------------------------------------------------
-- A load with nothing in its way
-- ---------------------------------------------------------------------------

/-- The creation of the file was cut off before all the digits were written. -/
def CutOff (file : Option (List Char)) : Prop :=
  ∃ seed : Seed, ∃ n < 64, file = some ((seedText seed).take n)

/-- One call, of which every operation succeeds. -/
def loadEvents (s : IdentityFile ι) (seed : Seed) : List Event :=
  .load 0 :: List.replicate (if s.file = none then 6 else 1) (.act 0 seed)

/-- A load after a kill mints where there is no file. -/
theorem run_load_blank {s : IdentityFile ι} (h : s.file = none) (seed : Seed) :
    ∃ s', Machine.run (step identityFromSeed path) s.kill (loadEvents s seed) = some s' ∧
      s'.returned = s.returned ++ [identityFromSeed seed.val] := by
  unfold loadEvents
  simp [h, Machine.run, step, kill, IdentityFile.set, IdentityFile.act, IdentityFile.settle,
    List.replicate]

/-- A load after a kill returns the identity of the file. -/
theorem run_load_held {s : IdentityFile ι} {text : List Char} {id : ι} (h : s.file = some text)
    (hOk : identityOf identityFromSeed path text = .ok id) (seed : Seed) :
    ∃ s', Machine.run (step identityFromSeed path) s.kill (loadEvents s seed) = some s' ∧
      s'.returned = s.returned ++ [id] := by
  unfold loadEvents
  simp [h, hOk, Machine.run, step, kill, IdentityFile.set, IdentityFile.act, IdentityFile.settle]

/-- After a kill, a load returns what was returned before. -/
theorem load_of_inv {s : IdentityFile ι} (h : Inv identityFromSeed s)
    (hCut : s.returned ≠ [] ∨ ¬ CutOff s.file) (seed : Seed) :
    ∃ s' id, Machine.run (step identityFromSeed path) s.kill (loadEvents s seed) = some s' ∧
      s'.returned = s.returned ++ [id] ∧ ∀ id' ∈ s.returned, id = id' := by
  rcases h with hBlank | ⟨seed', text, hHolds⟩
  · obtain ⟨s', hRun, hReturned⟩ := @run_load_blank _ identityFromSeed path s hBlank.file seed
    refine ⟨s', _, hRun, hReturned, ?_⟩
    rw [hBlank.returned]
    exact nofun
  · have hLength : 64 ≤ text.length := by
      rcases hCut with hReturned | hCut
      · obtain ⟨id, hId⟩ := List.exists_mem_of_ne_nil _ hReturned
        exact (hHolds.returned id hId).1
      · by_contra hShort
        refine hCut ⟨seed', text.length, by omega, ?_⟩
        rw [hHolds.file, ← List.prefix_iff_eq_take.mp hHolds.part]
    have hOk : identityOf identityFromSeed path text = .ok (identityFromSeed seed'.val) :=
      (identityOf_part hHolds.part).mpr ⟨hLength, rfl⟩
    obtain ⟨s', hRun, hReturned⟩ := run_load_held hHolds.file hOk seed
    exact ⟨s', _, hRun, hReturned, fun id' hId => (hHolds.returned id' hId).2.symm⟩

/-- A file whose creation was cut off is refused for ever, since nothing replaces it. -/
theorem identityOf_cutOff {text : List Char} (h : CutOff (some text)) (id : ι) :
    identityOf identityFromSeed path text ≠ .ok id := by
  obtain ⟨seed, n, hn, hText⟩ := h
  obtain rfl := Option.some.inj hText
  intro hOk
  have hLength := ((identityOf_part (List.take_prefix n _)).mp hOk).1
  rw [List.length_take] at hLength
  omega

end

end IdentityFile

end SwapDesk.Client.RehearsalWorld
