import Mathlib.Data.List.Induction
import SwapDesk.Lib.Machine

/-!
# A store that keeps its state in one file

A store serves one call at a time, in the order in which they are made. A call that changes the
state writes the whole of the new one to a temporary file and renames that over the store's file;
after this the state in memory is the new one, and the caller has its answer. Any operation on
a file may fail, and the process may be killed before any of them; another one then opens the
store from its file.

* `Snapshot.Leaves`: the states that a history of answers and kills can leave;
* `Snapshot.kept`: killed at any point of any run, the store opens, in a state that its history
  leaves: that of every answer, and of the call in flight at a kill or not.
-/

/-- What a call comes to, before anything is written. -/
inductive Served (σ Answer : Type) where
  | refuse
  /-- The state stays as it is. -/
  | answer (a : Answer)
  | write (next : σ) (a : Answer)

/-- A store: its state before there is a file, how a state is written and read, and its calls,
with what each takes from its surroundings when its turn has come. -/
structure Snapshot (τ σ Call Input Answer : Type) where
  start : σ
  encode : σ → τ
  decode : τ → Option σ
  serve : σ → Call → Input → Served σ Answer
  /-- How often a rename is tried. -/
  attempts : Nat

namespace Snapshot

variable {τ σ Call Input Answer : Type}

/-! ## Replacing the file -/

/-- The next operation on a file, with what the temporary file holds. -/
inductive Phase (τ : Type) where
  /-- The directory is made. -/
  | making
  | opening
  | writing
  | syncing (temp : τ)
  | closing (temp : τ)
  /-- The temporary file is closed after something failed. -/
  | abandoning
  | replacing (attempt : Nat) (temp : τ)
  /-- The temporary file is removed after the last rename failed. -/
  | removing
  /-- The file is replaced, and the caller not yet told. -/
  | renamed
deriving DecidableEq, Repr

/-- After an operation that succeeds, where `none` is the end of a call that is rejected. -/
def Phase.acts (text : τ) : Phase τ → Option (Phase τ)
  | .making => some .opening
  | .opening => some .writing
  | .writing => some (.syncing text)
  | .syncing temp => some (.closing temp)
  | .closing temp => some (.replacing 1 temp)
  | .abandoning => none
  | .replacing _ _ => some .renamed
  | .removing => none
  -- no operation is left
  | .renamed => some .renamed

/-- After an operation that fails. `again` says that a rename may succeed later. -/
def Phase.fails (attempts : Nat) (again : Bool) : Phase τ → Option (Phase τ)
  | .making => none
  | .opening => none
  | .writing => some .abandoning
  | .syncing _ => some .abandoning
  | .closing _ => none
  | .abandoning => none
  | .replacing attempt temp =>
    if again && attempt < attempts then some (.replacing (attempt + 1) temp) else some .removing
  | .removing => none
  | .renamed => some .renamed

/-- The file after an operation that succeeds. -/
def Phase.leaves (file : Option τ) : Phase τ → Option τ
  | .replacing _ temp => some temp
  | _ => file

def Phase.replaced : Phase τ → Bool
  | .renamed => true
  | _ => false

/-- What is renamed over the file is the whole text. -/
def Phase.Whole (text : τ) : Phase τ → Prop
  | .syncing temp | .closing temp | .replacing _ temp => temp = text
  | _ => True

theorem Phase.whole_acts {text : τ} {phase next : Phase τ} (h : phase.Whole text)
    (hNext : phase.acts text = some next) : next.Whole text := by
  cases phase <;> cases hNext <;> first | exact h | trivial

theorem Phase.whole_fails {text : τ} {phase next : Phase τ} {attempts : Nat} {again : Bool}
    (h : phase.Whole text) (hNext : phase.fails attempts again = some next) :
    next.Whole text ∧ next.replaced = phase.replaced := by
  cases phase with
  | replacing attempt temp =>
    simp only [fails] at hNext
    split at hNext
    · obtain rfl := Option.some.inj hNext
      exact ⟨h, rfl⟩
    · obtain rfl := Option.some.inj hNext
      exact ⟨trivial, rfl⟩
  | _ => cases hNext <;> exact ⟨trivial, rfl⟩

/-! ## Runs -/

/-- A call whose turn has come, and which writes. -/
structure Running (τ σ Call Input Answer : Type) where
  call : Call
  input : Input
  next : σ
  answer : Answer
  phase : Phase τ

/-- A process that has opened the store. -/
structure Process (τ σ Call Input Answer : Type) where
  memory : σ
  /-- The calls whose turn has not come. -/
  queue : List Call
  running : Option (Running τ σ Call Input Answer)

/-- What there is to know of a store from outside. -/
inductive Entry (Call Input Answer : Type) where
  | answered (call : Call) (input : Input) (answer : Answer)
  /-- The process was killed, with this call in flight. -/
  | killed (inFlight : Option (Call × Input))
deriving DecidableEq, Repr

structure State (τ σ Call Input Answer : Type) where
  file : Option τ
  process : Option (Process τ σ Call Input Answer)
  log : List (Entry Call Input Answer)

inductive Event (Call Input : Type) where
  | opens
  | call (c : Call)
  /-- The turn of the next call has come. -/
  | serve (input : Input)
  /-- The next operation on a file succeeds. -/
  | act
  | fails (again : Bool)
  /-- The caller of a call that is written is told. -/
  | settle
  | kill
deriving DecidableEq, Repr

variable (S : Snapshot τ σ Call Input Answer)

/-- What a process that opens the store finds. -/
def opened : Option τ → Option σ
  | none => some S.start
  | some text => S.decode text

/-- The call in flight, if there is one. -/
def Process.inFlight (p : Process τ σ Call Input Answer) : Option (Call × Input) :=
  p.running.map fun r => (r.call, r.input)

/-- A kill changes no file. -/
def State.kill (s : State τ σ Call Input Answer) : State τ σ Call Input Answer :=
  match s.process with
  | none => s
  | some p => { s with process := none, log := s.log ++ [.killed p.inFlight] }

theorem log_kill (s : State τ σ Call Input Answer) : ∃ more, s.kill.log = s.log ++ more := by
  unfold State.kill
  split
  · exact ⟨[], (List.append_nil _).symm⟩
  · exact ⟨_, rfl⟩

/-- The first operation of a call that writes, or its end. -/
def State.turn (s : State τ σ Call Input Answer) (m : σ) (queue : List Call) (c : Call)
    (i : Input) : Served σ Answer → State τ σ Call Input Answer
  | .refuse => { s with process := some ⟨m, queue, none⟩ }
  | .answer a =>
    { s with process := some ⟨m, queue, none⟩, log := s.log ++ [.answered c i a] }
  | .write next a => { s with process := some ⟨m, queue, some ⟨c, i, next, a, .making⟩⟩ }

def step (s : State τ σ Call Input Answer) :
    Event Call Input → Option (State τ σ Call Input Answer)
  | .opens =>
    match s.process with
    | none => (S.opened s.file).map fun m => { s with process := some ⟨m, [], none⟩ }
    | some _ => none
  | .call c => s.process.map fun p => { s with process := some { p with queue := p.queue ++ [c] } }
  | .serve i =>
    match s.process with
    | some ⟨m, c :: queue, none⟩ => some (s.turn m queue c i (S.serve m c i))
    | _ => none
  | .act =>
    match s.process with
    | some ⟨m, queue, some r⟩ =>
      some { s with
        file := r.phase.leaves s.file
        process := some
          ⟨m, queue, (r.phase.acts (S.encode r.next)).map fun p => { r with phase := p }⟩ }
    | _ => none
  | .fails again =>
    match s.process with
    | some ⟨m, queue, some r⟩ =>
      some { s with
        process := some
          ⟨m, queue, (r.phase.fails S.attempts again).map fun p => { r with phase := p }⟩ }
    | _ => none
  | .settle =>
    match s.process with
    | some ⟨_, queue, some ⟨c, i, next, a, .renamed⟩⟩ =>
      some { s with process := some ⟨next, queue, none⟩, log := s.log ++ [.answered c i a] }
    | _ => none
  | .kill => s.process.map fun _ => s.kill

/-- Nobody has opened the store yet, and there is no file. -/
def fresh : State τ σ Call Input Answer := ⟨none, none, []⟩

/-- All the runs. -/
def machine : Machine (State τ σ Call Input Answer) (Event Call Input) :=
  .ofFun (· = fresh) S.step

/-! ## What a history leaves -/

/-- The states that a history can leave. A call in flight at a kill was written or not. -/
inductive Leaves : List (Entry Call Input Answer) → σ → Prop
  | start : Leaves [] S.start
  | answered {log : List (Entry Call Input Answer)} {m : σ} {c : Call} {i : Input} {a : Answer} :
      Leaves log m → S.serve m c i = .answer a → Leaves (log ++ [.answered c i a]) m
  | wrote {log : List (Entry Call Input Answer)} {m next : σ} {c : Call} {i : Input}
      {a : Answer} : Leaves log m → S.serve m c i = .write next a →
      Leaves (log ++ [.answered c i a]) next
  | killed {log : List (Entry Call Input Answer)} {m : σ} {inFlight : Option (Call × Input)} :
      Leaves log m → Leaves (log ++ [.killed inFlight]) m
  | written {log : List (Entry Call Input Answer)} {m next : σ} {c : Call} {i : Input}
      {a : Answer} : Leaves log m → S.serve m c i = .write next a →
      Leaves (log ++ [.killed (some (c, i))]) next

/-- The states that are read back from what is written of them, and that calls lead to. -/
structure Lawful (good : σ → Prop) : Prop where
  start : good S.start
  write : ∀ m c i next a, good m → S.serve m c i = .write next a → good next
  decode_encode : ∀ m, good m → S.decode (S.encode m) = some m

variable {S} {good : σ → Prop}

theorem Leaves.isGood (hS : S.Lawful good) {log : List (Entry Call Input Answer)} {m : σ}
    (h : S.Leaves log m) : good m := by
  induction h with
  | start => exact hS.start
  | answered _ _ ih => exact ih
  | wrote _ hServe ih => exact hS.write _ _ _ _ _ ih hServe
  | killed _ ih => exact ih
  | written _ hServe ih => exact hS.write _ _ _ _ _ ih hServe

/-- Every history began as a shorter one. -/
theorem Leaves.of_append {log log' : List (Entry Call Input Answer)} {m : σ}
    (h : S.Leaves (log ++ log') m) : ∃ m', S.Leaves log m' := by
  induction log' using List.reverseRecOn generalizing m with
  | nil =>
    rw [List.append_nil] at h
    exact ⟨m, h⟩
  | append_singleton log' entry ih =>
    rw [← List.append_assoc] at h
    generalize hLog : log ++ log' ++ [entry] = whole at h
    cases h with
    | start => exact absurd hLog (by simp)
    | answered hLeaves => exact ih ((List.append_inj' hLog rfl).1 ▸ hLeaves)
    | wrote hLeaves => exact ih ((List.append_inj' hLog rfl).1 ▸ hLeaves)
    | killed hLeaves => exact ih ((List.append_inj' hLog rfl).1 ▸ hLeaves)
    | written hLeaves => exact ih ((List.append_inj' hLog rfl).1 ▸ hLeaves)

/-- Every answer is the one that the state before it gives. -/
theorem Leaves.of_answered {log : List (Entry Call Input Answer)} {m : σ} {c : Call} {i : Input}
    {a : Answer} (h : S.Leaves (log ++ [.answered c i a]) m) :
    ∃ m', S.Leaves log m' ∧ (S.serve m' c i = .answer a ∨ S.serve m' c i = .write m a) := by
  generalize hLog : log ++ [.answered c i a] = whole at h
  cases h with
  | start => exact absurd hLog (by simp)
  | answered hLeaves hServe =>
    obtain ⟨rfl, hLast⟩ := List.append_inj' hLog rfl
    cases hLast
    exact ⟨_, hLeaves, .inl hServe⟩
  | wrote hLeaves hServe =>
    obtain ⟨rfl, hLast⟩ := List.append_inj' hLog rfl
    cases hLast
    exact ⟨_, hLeaves, .inr hServe⟩
  | killed hLeaves => cases (List.append_inj' hLog rfl).2
  | written hLeaves hServe => cases (List.append_inj' hLog rfl).2

/-! ## Runs keep what they told -/

/-- A call that writes has not replaced the file, or has replaced it by its own text. -/
structure Running.Sound (S : Snapshot τ σ Call Input Answer) (m : σ) (file : Option τ)
    (r : Running τ σ Call Input Answer) : Prop where
  serve : S.serve m r.call r.input = .write r.next r.answer
  whole : r.phase.Whole (S.encode r.next)
  opened : S.opened file = some (if r.phase.replaced then r.next else m)

/-- Memory is what the history leaves, and so is the file, but for the call in flight. -/
structure Process.Sound (S : Snapshot τ σ Call Input Answer)
    (log : List (Entry Call Input Answer)) (file : Option τ)
    (p : Process τ σ Call Input Answer) : Prop where
  leaves : S.Leaves log p.memory
  resting : p.running = none → S.opened file = some p.memory
  running : ∀ r, p.running = some r → r.Sound S p.memory file

def Inv (S : Snapshot τ σ Call Input Answer) (s : State τ σ Call Input Answer) : Prop :=
  match s.process with
  | none => ∃ m, S.opened s.file = some m ∧ S.Leaves s.log m
  | some p => p.Sound S s.log s.file

/-- Whatever is killed in a sound state leaves a file that opens. -/
theorem Process.Sound.kill {log : List (Entry Call Input Answer)} {file : Option τ}
    {p : Process τ σ Call Input Answer} (h : p.Sound S log file) :
    ∃ m, S.opened file = some m ∧ S.Leaves (log ++ [.killed p.inFlight]) m := by
  unfold Process.inFlight
  cases hRunning : p.running with
  | none => exact ⟨_, h.resting hRunning, .killed h.leaves⟩
  | some r =>
    have hr := h.running r hRunning
    by_cases hReplaced : r.phase.replaced = true
    · -- the file is replaced and nobody was told
      exact ⟨_, hr.opened.trans (by rw [if_pos hReplaced]), .written h.leaves hr.serve⟩
    · exact ⟨_, hr.opened.trans (by rw [if_neg hReplaced]), .killed h.leaves⟩

theorem Inv.kill {s : State τ σ Call Input Answer} (h : Inv S s) :
    ∃ m, S.opened s.kill.file = some m ∧ S.Leaves s.kill.log m := by
  unfold Inv at h
  unfold State.kill
  split at h
  · exact h
  · exact h.kill

/-- The call in flight goes on, or is rejected with the file as it was. -/
theorem Running.Sound.fails {m : σ} {file : Option τ} {r r' : Running τ σ Call Input Answer}
    {attempts : Nat} {again : Bool} (h : r.Sound S m file)
    (hNext : (r.phase.fails attempts again).map (fun p => { r with phase := p }) = some r') :
    r'.Sound S m file := by
  obtain ⟨phase, hPhase, rfl⟩ := Option.map_eq_some_iff.mp hNext
  obtain ⟨hWhole, hReplaced⟩ := Phase.whole_fails h.whole hPhase
  have hOpened := h.opened
  rw [← hReplaced] at hOpened
  exact ⟨h.serve, hWhole, hOpened⟩

/-- A rename puts the whole text in the place of the file; nothing else touches it. -/
theorem Running.Sound.acts (hS : S.Lawful good) {m : σ} {file : Option τ}
    {r r' : Running τ σ Call Input Answer} (h : r.Sound S m file) (hGood : good m)
    (hNext : (r.phase.acts (S.encode r.next)).map (fun p => { r with phase := p }) = some r') :
    r'.Sound S m (r.phase.leaves file) := by
  obtain ⟨phase, hPhase, rfl⟩ := Option.map_eq_some_iff.mp hNext
  refine ⟨h.serve, Phase.whole_acts h.whole hPhase, ?_⟩
  have hWhole := h.whole
  have hOpened := h.opened
  cases hOld : r.phase with
  | replacing attempt temp =>
    rw [hOld] at hPhase hWhole
    obtain rfl := Option.some.inj hPhase
    obtain rfl : temp = S.encode r.next := hWhole
    exact hS.decode_encode _ (hS.write _ _ _ _ _ hGood h.serve)
  | _ =>
    rw [hOld] at hPhase hOpened
    cases hPhase <;> exact hOpened

/-- A rejected call leaves the file as it was. -/
theorem Running.Sound.rejected {m : σ} {file : Option τ} {r : Running τ σ Call Input Answer}
    (h : r.Sound S m file) (hEnd : r.phase.acts (S.encode r.next) = none ∨
      ∃ attempts again, r.phase.fails attempts again = none) :
    S.opened file = some m ∧ r.phase.leaves file = file := by
  have hOpened := h.opened
  cases hPhase : r.phase with
  | renamed =>
    rw [hPhase] at hEnd
    rcases hEnd with hEnd | ⟨_, _, hEnd⟩ <;> cases hEnd
  | replacing attempt temp =>
    rw [hPhase] at hEnd
    rcases hEnd with hEnd | ⟨attempts, again, hEnd⟩
    · cases hEnd
    · simp only [Phase.fails] at hEnd
      split at hEnd <;> cases hEnd
  | _ =>
    rw [hPhase] at hOpened
    exact ⟨hOpened, rfl⟩

/-- Serving a call touches no file. -/
theorem Process.Sound.turn {s : State τ σ Call Input Answer} {m : σ} {queue rest : List Call}
    {c : Call} {i : Input} (h : Process.Sound S s.log s.file ⟨m, queue, none⟩) :
    Inv S (s.turn m rest c i (S.serve m c i)) := by
  have hOpened := h.resting rfl
  cases hServe : S.serve m c i with
  | refuse => exact ⟨h.leaves, fun _ => hOpened, nofun⟩
  | answer a => exact ⟨.answered h.leaves hServe, fun _ => hOpened, nofun⟩
  | write next a =>
    refine ⟨h.leaves, nofun, fun r hr => ?_⟩
    obtain rfl := Option.some.inj hr
    exact ⟨hServe, trivial, hOpened⟩

theorem inv_step (hS : S.Lawful good) {s s' : State τ σ Call Input Answer}
    {e : Event Call Input} (h : Inv S s) (hStep : S.step s e = some s') : Inv S s' := by
  -- without a process there is only the file, and a process may open it
  cases hProcess : s.process with
  | none =>
    unfold step at hStep
    rw [hProcess] at hStep
    unfold Inv at h
    rw [hProcess] at h
    obtain ⟨m, hOpened, hLeaves⟩ := h
    cases e with
    | opens =>
      dsimp only at hStep
      rw [hOpened] at hStep
      obtain rfl := Option.some.inj hStep
      exact ⟨hLeaves, fun _ => hOpened, nofun⟩
    | _ => cases hStep
  -- a process goes on with the call it is in, or with the next one
  | some p =>
    obtain ⟨m, queue, running⟩ := p
    have hSound : Process.Sound S s.log s.file ⟨m, queue, running⟩ := by
      unfold Inv at h
      rw [hProcess] at h
      exact h
    unfold step at hStep
    rw [hProcess] at hStep
    cases e with
    | opens => cases hStep
    | call c =>
      -- a call waits in the queue
      obtain rfl := Option.some.inj hStep
      exact ⟨hSound.leaves, hSound.resting, hSound.running⟩
    | serve i =>
      cases queue with
      | nil => cases hStep
      | cons c queue =>
        cases running with
        | some r => cases hStep
        | none =>
          obtain rfl := Option.some.inj hStep
          exact hSound.turn
    -- an operation of the call that runs; when it ends without a change, the file is as it was
    -- opened
    | act =>
      cases running with
      | none => cases hStep
      | some r =>
        obtain rfl := Option.some.inj hStep
        have hr := hSound.running r rfl
        refine ⟨hSound.leaves, fun hEnd => ?_, fun r' hr' =>
          hr.acts hS (hSound.leaves.isGood hS) hr'⟩
        obtain ⟨hOpened, hFile⟩ := hr.rejected (.inl (Option.map_eq_none_iff.mp hEnd))
        dsimp only
        rw [hFile, hOpened]
    -- one that fails may be tried again
    | fails again =>
      cases running with
      | none => cases hStep
      | some r =>
        obtain rfl := Option.some.inj hStep
        have hr := hSound.running r rfl
        refine ⟨hSound.leaves, fun hEnd => ?_, fun r' hr' => hr.fails hr'⟩
        exact (hr.rejected (.inr ⟨_, _, Option.map_eq_none_iff.mp hEnd⟩)).1
    -- the call is over: the process has what it wrote
    | settle =>
      dsimp only at hStep
      split at hStep
      · rename_i m' queue' c i next a hEq
        cases hEq
        obtain rfl := Option.some.inj hStep
        have hr := hSound.running _ rfl
        exact ⟨.wrote hSound.leaves hr.serve, fun _ => hr.opened, nofun⟩
      · cases hStep
    -- the process is gone, the file stays
    | kill =>
      obtain rfl := Option.some.inj hStep
      unfold Inv State.kill
      rw [hProcess]
      exact hSound.kill

/-- Every run keeps the file readable, and true to what was told of it. -/
theorem inv (hS : S.Lawful good) {s : State τ σ Call Input Answer}
    (h : S.machine.Reachable s) : Inv S s := by
  refine Machine.invariant (fun s hInit => ?_) (fun s e s' _ hInv hStep => ?_) h
  · obtain rfl := hInit
    exact ⟨S.start, rfl, .start⟩
  · have hStep : S.step s e = some s' := hStep
    exact inv_step hS hInv hStep

/-- Killed at any point, the store opens, in a state that its history leaves. -/
theorem kept (hS : S.Lawful good) {s : State τ σ Call Input Answer}
    (h : S.machine.Reachable s) :
    ∃ m, S.opened s.kill.file = some m ∧ S.Leaves s.kill.log m :=
  (inv hS h).kill

theorem reachable_kill {s : State τ σ Call Input Answer} (h : S.machine.Reachable s) :
    S.machine.Reachable s.kill := by
  cases hProcess : s.process with
  | none =>
    unfold State.kill
    rw [hProcess]
    exact h
  | some p =>
    have hStep : S.step s .kill = some s.kill := by
      unfold step
      rw [hProcess]
      rfl
    exact h.step hStep

end Snapshot
