import Mathlib.Data.List.TakeWhile
import SwapDesk.Lib.CharClass
import SwapDesk.Lib.Decimal
import SwapDesk.Lib.Machine

/-!
# SwapDesk — the lock of a state directory

`acquireRunLock` of `src/client/rehearsal-world.ts` and the release that it returns, run by any
number of processes of one host, which take turns at their file operations and may die at any
of them.

Main result: `runLock_exclusive`. One process at a time holds the lock, as long as no lock is
broken that was replaced or filled since it was read, or that was read before its maker wrote to
it; otherwise two may (`runLock_shared`).
-/

namespace SwapDesk.Client.RunLock

open CharClass (isDigit_iff isSpace isSpace_eq_false)

-- ---------------------------------------------------------------------------
-- Files and processes
-- ---------------------------------------------------------------------------

/-- The lock at its path: which file it is, who made it, and what is in it. -/
structure LockFile where
  inode : Nat
  maker : Nat
  content : List Char
deriving DecidableEq, Repr

/-- Where a process is in `acquireRunLock` or in a release. -/
inductive Phase where
  | idle
  /-- About to create the lock. -/
  | creating (attempt : Nat) (body : List Char)
  /-- The lock is created, and empty. -/
  | writing (inode : Nat) (body : List Char)
  | syncing (inode : Nat) (body : List Char)
  | reading (attempt : Nat) (body : List Char)
  | judging (attempt : Nat) (body : List Char) (held : LockFile)
  /-- About to remove the lock, which was judged a leftover when `held` was read. -/
  | breaking (attempt : Nat) (body : List Char) (held : LockFile)
  /-- `acquireRunLock` has returned. -/
  | locked (inode : Nat) (body : List Char)
  /-- The release is about to read the lock. -/
  | comparing (inode : Nat) (body : List Char)
  /-- The release is about to remove the lock. -/
  | removing (inode : Nat) (body : List Char)
deriving DecidableEq, Repr

/-- The processes by their pids, and the lock. -/
structure World where
  table : Nat → Option Phase
  file : Option LockFile
  /-- No file has this inode or a later one yet. -/
  nextInode : Nat

-- ---------------------------------------------------------------------------
-- Judging a lock
-- ---------------------------------------------------------------------------

def parseDigits (text : List Char) : Option Nat :=
  if text.takeWhile Char.isDigit = [] then none
  else some (Nat.ofDigitChars 10 (text.takeWhile Char.isDigit) 0)

/-- `Number.parseInt` with radix 10, past white space, where `none` is not a number. -/
def parseInt (text : List Char) : Option Int :=
  match text.dropWhile isSpace with
  | '-' :: rest => (parseDigits rest).map fun n => -(n : Int)
  | '+' :: rest => (parseDigits rest).map fun n => (n : Int)
  | rest => (parseDigits rest).map fun n => (n : Int)

/-- What a process writes into its lock. -/
def lockBody (pid : Nat) (token : List Char) : List Char :=
  Nat.toDigits 10 pid ++ '\n' :: (token ++ ['\n'])

def processAlive (w : World) (pid : Int) : Bool := 1 ≤ pid && (w.table pid.toNat).isSome

/-- The lock is held by another process that is alive. -/
def heldByOther (w : World) (self : Nat) (held : List Char) : Bool :=
  match parseInt (held.takeWhile (· ≠ '\n')) with
  | none => false
  | some pid => pid ≠ self && processAlive w pid

-- ---------------------------------------------------------------------------
-- Steps
-- ---------------------------------------------------------------------------

inductive Event where
  | spawn (pid : Nat)
  | exit (pid : Nat)
  | acquire (pid : Nat) (token : List Char)
  | release (pid : Nat)
  /-- The next operation of a process. -/
  | act (pid : Nat)
  /-- The next operation of a process fails. -/
  | fails (pid : Nat)
deriving DecidableEq, Repr

def World.set (w : World) (pid : Nat) (phase : Phase) : World :=
  { w with table := Function.update w.table pid (some phase) }

/-- A write to an open file, which need not be at the path any more. -/
def LockFile.write (inode : Nat) (body : List Char) (f : LockFile) : LockFile :=
  if f.inode = inode then { f with content := body } else f

/-- The next of the three attempts. -/
def retry (attempt : Nat) (body : List Char) : Phase :=
  if attempt + 1 < 3 then .creating (attempt + 1) body else .idle

/-- The next operation of a process that is in this phase. -/
def act (w : World) (pid : Nat) : Phase → Option World
  | .idle => none
  | .creating attempt body =>
    match w.file with
    | none =>
      some ({ w with
        file := some ⟨w.nextInode, pid, []⟩
        nextInode := w.nextInode + 1 }.set pid (.writing w.nextInode body))
    | some _ => some (w.set pid (.reading attempt body))
  | .writing inode body =>
    some ({ w with file := w.file.map (LockFile.write inode body) }.set pid (.syncing inode body))
  | .syncing inode body => some (w.set pid (.locked inode body))
  | .reading attempt body =>
    match w.file with
    | none => some (w.set pid (retry attempt body))
    | some held => some (w.set pid (.judging attempt body held))
  | .judging attempt body held =>
    if heldByOther w pid held.content then some (w.set pid .idle)
    else some (w.set pid (.breaking attempt body held))
  | .breaking attempt body _ => some ({ w with file := none }.set pid (retry attempt body))
  | .locked _ _ => none
  | .comparing inode body =>
    match w.file with
    | none => some (w.set pid .idle)
    | some now =>
      if now.content = body then some (w.set pid (.removing inode body))
      else some (w.set pid .idle)
  | .removing _ _ => some ({ w with file := none }.set pid .idle)

/-- The phases whose next operation is one on a file. -/
def Phase.mayFail : Phase → Bool
  | .idle | .judging _ _ _ | .locked _ _ => false
  | _ => true

def step (w : World) : Event → Option World
  | .spawn pid =>
    if 1 ≤ pid ∧ w.table pid = none then some (w.set pid .idle) else none
  | .exit pid =>
    if (w.table pid).isSome then some { w with table := Function.update w.table pid none } else none
  | .acquire pid token =>
    if w.table pid = some .idle then some (w.set pid (.creating 0 (lockBody pid token))) else none
  | .release pid =>
    match w.table pid with
    | some (.locked inode body) => some (w.set pid (.comparing inode body))
    | _ => none
  | .act pid => (w.table pid).bind (act w pid)
  | .fails pid =>
    -- `acquireRunLock` throws what failed; a release that cannot read the lock leaves it
    (w.table pid).bind fun phase => if phase.mayFail then some (w.set pid .idle) else none

/-- Nobody has called yet, and the lock may be there. -/
def Init (w : World) : Prop :=
  (∀ pid phase, w.table pid = some phase → 1 ≤ pid ∧ phase = .idle) ∧
    ∀ f, w.file = some f → f.inode < w.nextInode

/-- All the runs. -/
def machine : Machine World Event := .ofFun Init step

-- ---------------------------------------------------------------------------
-- Who has the lock
-- ---------------------------------------------------------------------------

/-- The lock that a process has made, and not given up, with what it writes into it. -/
def Phase.made : Phase → Option (Nat × List Char)
  | .writing inode body | .syncing inode body | .locked inode body | .comparing inode body
  | .removing inode body => some (inode, body)
  | _ => none

/-- `acquireRunLock` has returned, and its release has not. -/
def Phase.holds : Phase → Bool
  | .locked _ _ | .comparing _ _ | .removing _ _ => true
  | _ => false

def Holds (w : World) (pid : Nat) : Prop := ∃ phase, w.table pid = some phase ∧ phase.holds = true

/-- One process holds the lock, and a release that removes a lock removes its own. -/
structure Exclusive (w : World) : Prop where
  one : ∀ p q, Holds w p → Holds w q → p = q
  own : ∀ p inode body f, w.table p = some (.removing inode body) → w.file = some f →
    f.inode = inode ∧ ∀ q phase body', w.table q = some phase →
      phase.made = some (f.inode, body') → q = p

/-- If a lock is broken, it is the one that was read and not empty, or no process that is alive
has made it. -/
def Unspoiled (w : World) (e : Event) : Prop :=
  ∀ pid attempt body held f, e = .act pid → w.table pid = some (.breaking attempt body held) →
    w.file = some f → (f = held ∧ f.content ≠ []) ∨
      ∀ q phase body', w.table q = some phase → phase.made ≠ some (f.inode, body')

/-- The runs in which no lock is broken that should not be. -/
def unspoiled : Machine World Event where
  init := Init
  step w e w' := step w e = some w' ∧ Unspoiled w e

-- ---------------------------------------------------------------------------
-- What a process writes names it
-- ---------------------------------------------------------------------------

/-- Printed digits parse back. -/
theorem parseDigits_toDigits (n : Nat) : parseDigits (Nat.toDigits 10 n) = some n := by
  have hRun : (Nat.toDigits 10 n).takeWhile Char.isDigit = Nat.toDigits 10 n :=
    List.takeWhile_eq_self_iff.mpr fun c hc =>
      Nat.isDigit_of_mem_toDigits (by decide) (by decide) hc
  unfold parseDigits
  rw [hRun, if_neg Nat.toDigits_ne_nil, Nat.ofDigitChars_ten_toDigits]

/-- A printed number parses back. -/
theorem parseInt_toDigits (n : Nat) : parseInt (Nat.toDigits 10 n) = some (n : Int) := by
  have hDigit : ∀ c ∈ Nat.toDigits 10 n, c.isDigit = true := fun c hc =>
    Nat.isDigit_of_mem_toDigits (by decide) (by decide) hc
  have hText := parseDigits_toDigits n
  obtain ⟨c, rest, hCons⟩ := List.exists_cons_of_ne_nil (@Nat.toDigits_ne_nil n 10)
  have hc : c.isDigit = true := hDigit c (by rw [hCons]; exact List.mem_cons_self)
  have hBounds := isDigit_iff.mp hc
  have hSpace : isSpace c = false := isSpace_eq_false (by omega) (by omega)
  unfold parseInt
  rw [hCons, List.dropWhile_cons_of_neg (by rw [hSpace]; exact Bool.false_ne_true)]
  rw [hCons] at hText
  split
  · exact absurd hc (by rename_i h; rw [(List.cons.inj h).1]; decide)
  · exact absurd hc (by rename_i h; rw [(List.cons.inj h).1]; decide)
  · rw [hText]
    rfl

/-- The first line of a lock body is the pid. -/
theorem parseInt_lockBody (pid : Nat) (token : List Char) :
    parseInt ((lockBody pid token).takeWhile (· ≠ '\n')) = some (pid : Int) := by
  have hLine : (lockBody pid token).takeWhile (· ≠ '\n') = Nat.toDigits 10 pid := by
    unfold lockBody
    rw [List.takeWhile_append_of_pos fun c hc => ?_, List.takeWhile_cons_of_neg (by decide),
      List.append_nil]
    have hDigit := Nat.isDigit_of_mem_toDigits (by decide) (by decide) hc
    refine decide_eq_true fun hNewline => ?_
    rw [hNewline] at hDigit
    exact absurd hDigit (by decide)
  rw [hLine, parseInt_toDigits]

/-- A body with the pid of a live process is held by it. -/
theorem heldByOther_lockBody {w : World} {self pid : Nat} {token : List Char} (hPos : 1 ≤ pid)
    (hne : pid ≠ self) (hAlive : (w.table pid).isSome = true) :
    heldByOther w self (lockBody pid token) = true := by
  unfold heldByOther processAlive
  rw [parseInt_lockBody]
  simp only [Int.toNat_natCast, hAlive, Bool.and_true, Bool.and_eq_true, decide_eq_true_eq, ne_eq,
    Int.natCast_inj]
  exact ⟨hne, by omega⟩

-- ---------------------------------------------------------------------------
-- The invariant
-- ---------------------------------------------------------------------------

/-- What a process writes or has written. -/
def Phase.body : Phase → Option (List Char)
  | .idle => none
  | .creating _ body | .writing _ body | .syncing _ body | .reading _ body | .judging _ body _
  | .breaking _ body _ | .locked _ body | .comparing _ body | .removing _ body => some body

/-- The lock that a process has read. -/
def Phase.read : Phase → Option LockFile
  | .judging _ _ held | .breaking _ _ held => some held
  | _ => none

/-- A process is about to break a lock. -/
def Phase.breaks : Phase → Bool
  | .breaking _ _ _ => true
  | _ => false

/-- What is so of a process with this pid in this phase. -/
structure Good (w : World) (pid : Nat) (phase : Phase) : Prop where
  pos : 1 ≤ pid
  body : ∀ body, phase.body = some body → ∃ token, body = lockBody pid token
  /-- The lock of a process that has made one is at the path, and says whose it is as soon as
  this is written. -/
  made : ∀ inode body, phase.made = some (inode, body) →
    ∃ content, w.file = some ⟨inode, pid, content⟩ ∧
      (content = body ∨ (phase = .writing inode body ∧ content = []))
  read : ∀ held, phase.read = some held → held.inode < w.nextInode
  /-- A lock that is about to be broken was not that of a process that is alive. -/
  judged : ∀ held, phase.read = some held → phase.breaks = true → ∀ other phase' body,
    w.table other = some phase' → phase'.made = some (held.inode, body) → body ≠ held.content

structure Inv (w : World) : Prop where
  good : ∀ pid phase, w.table pid = some phase → Good w pid phase
  file : ∀ f, w.file = some f → f.inode < w.nextInode

variable {w w' : World} {pid : Nat} {phase phase' : Phase}

/-- A process that made the file has its body. -/
theorem body_of_made {inode : Nat} {body : List Char} (h : phase.made = some (inode, body)) :
    phase.body = some body := by
  cases phase <;> cases h <;> rfl

/-- The table after one process moved. -/
theorem table_set {q : Nat} (h : (w.set pid phase').table q = some phase) :
    (q = pid ∧ phase = phase') ∨ (q ≠ pid ∧ w.table q = some phase) := by
  unfold World.set at h
  dsimp only at h
  by_cases hq : q = pid
  · subst hq
    rw [Function.update_self] at h
    exact .inl ⟨rfl, (Option.some.inj h).symm⟩
  · rw [Function.update_of_ne hq] at h
    exact .inr ⟨hq, h⟩

/-- Two processes have not made the same lock. -/
theorem Inv.made_unique (h : Inv w) {p q : Nat} {phase phase' : Phase} {i j : Nat}
    {body body' : List Char} (hp : w.table p = some phase) (hq : w.table q = some phase')
    (hMade : phase.made = some (i, body)) (hMade' : phase'.made = some (j, body')) : p = q := by
  obtain ⟨content, hFile, -⟩ := (h.good p phase hp).made i body hMade
  obtain ⟨content', hFile', -⟩ := (h.good q phase' hq).made j body' hMade'
  rw [hFile, Option.some.injEq, LockFile.mk.injEq] at hFile'
  exact hFile'.2.1

/-- A process that goes on, while the lock stays as it is. -/
theorem Inv.move (h : Inv w) (hOld : w.table pid = some phase)
    (hBody : ∀ body, phase'.body = some body → ∃ token, body = lockBody pid token)
    (hMade : ∀ inode body, phase'.made = some (inode, body) → phase.made = some (inode, body) ∧
      ∀ inode body, phase ≠ .writing inode body)
    (hRead : ∀ held, phase'.read = some held → held.inode < w.nextInode ∧
      (phase'.breaks = true → ∀ other phase'' body, w.table other = some phase'' →
        phase''.made = some (held.inode, body) → body ≠ held.content)) :
    Inv (w.set pid phase') := by
  -- whoever has made the file after the move had made it before
  have hStill : ∀ other phase'' inode body, (w.set pid phase').table other = some phase'' →
      phase''.made = some (inode, body) →
      ∃ phase₀, w.table other = some phase₀ ∧ phase₀.made = some (inode, body) := by
    intro other phase'' inode body hTable hMade'
    rcases table_set hTable with ⟨rfl, rfl⟩ | ⟨-, hTable⟩
    · exact ⟨phase, hOld, (hMade inode body hMade').1⟩
    · exact ⟨phase'', hTable, hMade'⟩
  refine ⟨fun q phase₁ hTable => ?_, h.file⟩
  -- the process that moved, then the others
  rcases table_set hTable with ⟨rfl, rfl⟩ | ⟨-, hTable⟩
  · have hGood := h.good q phase hOld
    refine ⟨hGood.pos, hBody, fun inode body hNew => ?_, fun held hHeld => (hRead held hHeld).1,
      fun held hHeld hBreaks other phase'' body hOther hOtherMade => ?_⟩
    · obtain ⟨hSame, hWritten⟩ := hMade inode body hNew
      obtain ⟨content, hFile, hContent⟩ := hGood.made inode body hSame
      refine ⟨content, hFile, .inl ?_⟩
      rcases hContent with rfl | ⟨rfl, -⟩
      · rfl
      · exact absurd rfl (hWritten inode body)
    · obtain ⟨phase₀, hTable₀, hMade₀⟩ := hStill other phase'' _ _ hOther hOtherMade
      exact (hRead held hHeld).2 hBreaks other phase₀ body hTable₀ hMade₀
  · have hGood := h.good q phase₁ hTable
    refine ⟨hGood.pos, hGood.body, hGood.made, hGood.read,
      fun held hHeld hBreaks other phase'' body hOther hOtherMade => ?_⟩
    obtain ⟨phase₀, hTable₀, hMade₀⟩ := hStill other phase'' _ _ hOther hOtherMade
    exact hGood.judged held hHeld hBreaks other phase₀ body hTable₀ hMade₀

/-- A lock that nobody alive has made is removed, by a process that goes on without one. -/
theorem Inv.remove (h : Inv w) (hOld : w.table pid = some phase)
    (hUnmade : ∀ q phase₁ inode body, q ≠ pid → w.table q = some phase₁ →
      phase₁.made ≠ some (inode, body))
    (hBody : ∀ body, phase'.body = some body → ∃ token, body = lockBody pid token)
    (hMade : phase'.made = none) (hRead : phase'.read = none) :
    Inv ({ w with file := none }.set pid phase') := by
  refine ⟨fun q phase₁ hTable => ?_, nofun⟩
  rcases table_set hTable with ⟨rfl, rfl⟩ | ⟨hq, hTable⟩
  · refine ⟨(h.good q phase hOld).pos, hBody, ?_, ?_, ?_⟩
    · rw [hMade]
      exact nofun
    · rw [hRead]
      exact nofun
    · rw [hRead]
      exact nofun
  · have hGood := h.good q phase₁ hTable
    refine ⟨hGood.pos, hGood.body,
      fun inode body hNew => absurd hNew (hUnmade q phase₁ inode body hq hTable), hGood.read,
      fun held hHeld hBreaks other phase'' body hOther hOtherMade => ?_⟩
    rcases table_set hOther with ⟨-, rfl⟩ | ⟨-, hOther⟩
    · rw [hMade] at hOtherMade
      cases hOtherMade
    · exact hGood.judged held hHeld hBreaks other phase'' body hOther hOtherMade

/-- The phases without a lock. -/
theorem Inv.plain (h : Inv w) (hOld : w.table pid = some phase)
    (hBody : ∀ body, phase'.body = some body → ∃ token, body = lockBody pid token)
    (hMade : phase'.made = none) (hRead : phase'.read = none) : Inv (w.set pid phase') := by
  refine h.move hOld hBody ?_ ?_
  · rw [hMade]
    exact nofun
  · rw [hRead]
    exact nofun

/-- A retry keeps the body. -/
theorem retry_body {attempt : Nat} {body : List Char} :
    ∀ body', (retry attempt body).body = some body' → body' = body := by
  unfold retry
  split
  · exact fun body' h => (Option.some.inj h).symm
  · exact nofun

/-- A retry has made and read nothing. -/
theorem retry_plain (attempt : Nat) (body : List Char) :
    (retry attempt body).made = none ∧ (retry attempt body).read = none := by
  unfold retry
  split <;> exact ⟨rfl, rfl⟩

/-- Creating the file keeps the invariant. -/
theorem Inv.create (h : Inv w) {attempt : Nat} {body : List Char}
    (hOld : w.table pid = some (.creating attempt body)) (hFile : w.file = none) :
    Inv ({ w with
      file := some ⟨w.nextInode, pid, []⟩
      nextInode := w.nextInode + 1 }.set pid (.writing w.nextInode body)) := by
  have hGood := h.good pid _ hOld
  refine ⟨fun q phase₁ hTable => ?_, fun f hf => ?_⟩
  · rcases table_set hTable with ⟨rfl, rfl⟩ | ⟨hq, hTable⟩
    · refine ⟨hGood.pos, hGood.body, fun inode body' hNew => ?_, nofun, nofun⟩
      obtain ⟨rfl, rfl⟩ := Prod.mk.inj (Option.some.inj hNew)
      exact ⟨[], rfl, .inr ⟨rfl, rfl⟩⟩
    · have hGood' := h.good q phase₁ hTable
      refine ⟨hGood'.pos, hGood'.body, fun inode body' hNew => ?_,
        fun held hHeld => Nat.lt_succ_of_lt (hGood'.read held hHeld),
        fun held hHeld hBreaks other phase'' body' hOther hOtherMade => ?_⟩
      · obtain ⟨content, hThere, -⟩ := hGood'.made inode body' hNew
        rw [hFile] at hThere
        cases hThere
      · rcases table_set hOther with ⟨-, rfl⟩ | ⟨-, hOther⟩
        · -- what was read before is not the new file
          have hLt := hGood'.read held hHeld
          have hEq : w.nextInode = held.inode := (Prod.mk.inj (Option.some.inj hOtherMade)).1
          omega
        · exact hGood'.judged held hHeld hBreaks other phase'' body' hOther hOtherMade
  · obtain rfl := Option.some.inj hf
    exact Nat.lt_succ_self _

/-- Writing the body keeps the invariant. -/
theorem Inv.write (h : Inv w) {inode : Nat} {body : List Char}
    (hOld : w.table pid = some (.writing inode body)) :
    Inv ({ w with file := w.file.map (LockFile.write inode body) }.set pid
      (.syncing inode body)) := by
  have hGood := h.good pid _ hOld
  obtain ⟨content, hFile, -⟩ := hGood.made inode body rfl
  have hWritten : w.file.map (LockFile.write inode body) = some ⟨inode, pid, body⟩ := by
    rw [hFile, Option.map_some, LockFile.write, if_pos rfl]
  refine ⟨fun q phase₁ hTable => ?_, fun f hf => ?_⟩
  · rcases table_set hTable with ⟨rfl, rfl⟩ | ⟨hq, hTable⟩
    · refine ⟨hGood.pos, hGood.body, fun inode' body' hNew => ?_, nofun, nofun⟩
      obtain ⟨rfl, rfl⟩ := Prod.mk.inj (Option.some.inj hNew)
      exact ⟨body, hWritten, .inl rfl⟩
    · have hGood' := h.good q phase₁ hTable
      refine ⟨hGood'.pos, hGood'.body, fun inode' body' hNew =>
        absurd (h.made_unique hTable hOld hNew rfl) hq, hGood'.read,
        fun held hHeld hBreaks other phase'' body' hOther hOtherMade => ?_⟩
      rcases table_set hOther with ⟨rfl, rfl⟩ | ⟨-, hOther⟩
      · exact hGood'.judged held hHeld hBreaks _ _ body' hOld hOtherMade
      · exact hGood'.judged held hHeld hBreaks other phase'' body' hOther hOtherMade
  · obtain rfl := Option.some.inj (hWritten.symm.trans hf)
    have hLt := h.file _ hFile
    exact hLt

/-- The judgement of a lock that was read. -/
theorem Inv.judge (h : Inv w) {attempt : Nat} {body : List Char} {held : LockFile}
    (hOld : w.table pid = some (.judging attempt body held))
    (hJudged : heldByOther w pid held.content = false) :
    Inv (w.set pid (.breaking attempt body held)) := by
  have hGood := h.good pid _ hOld
  refine h.move hOld hGood.body nofun fun held' hHeld => ?_
  obtain rfl := Option.some.inj hHeld
  refine ⟨hGood.read _ rfl, fun _ other phase'' body' hOther hMade hSame => ?_⟩
  -- a process that is alive and has written this would have been found
  obtain ⟨token, rfl⟩ := (h.good other phase'' hOther).body body' (body_of_made hMade)
  have hne : other ≠ pid := by
    rintro rfl
    rw [hOld] at hOther
    obtain rfl := Option.some.inj hOther
    cases hMade
  have hHeld := @heldByOther_lockBody w pid other token
    (h.good other phase'' hOther).pos hne (by rw [hOther]; rfl)
  rw [hSame, hJudged] at hHeld
  cases hHeld

/-- Every act that is not spoiled keeps the invariant. -/
theorem Inv.act (h : Inv w) (hOld : w.table pid = some phase)
    (hUnspoiled : Unspoiled w (.act pid)) (hAct : act w pid phase = some w') : Inv w' := by
  have hGood := h.good pid phase hOld
  cases phase with
  | idle => cases hAct
  -- the file is created only where there is none
  | creating attempt body =>
    cases hFile : w.file with
    | none =>
      rw [RunLock.act, hFile] at hAct
      obtain rfl := Option.some.inj hAct
      exact h.create hOld hFile
    | some f =>
      rw [RunLock.act, hFile] at hAct
      obtain rfl := Option.some.inj hAct
      exact h.plain hOld hGood.body rfl rfl
  | writing inode body =>
    obtain rfl := Option.some.inj hAct
    exact h.write hOld
  | syncing inode body =>
    obtain rfl := Option.some.inj hAct
    exact h.move hOld hGood.body (fun _ _ hMade => ⟨hMade, nofun⟩) nofun
  -- a reader keeps what it read, or tries again
  | reading attempt body =>
    cases hFile : w.file with
    | none =>
      rw [RunLock.act, hFile] at hAct
      obtain rfl := Option.some.inj hAct
      obtain ⟨hMade, hRead⟩ := retry_plain attempt body
      refine h.plain hOld (fun body' hBody => hGood.body body' ?_) hMade hRead
      rw [retry_body body' hBody]
      rfl
    | some held =>
      rw [RunLock.act, hFile] at hAct
      obtain rfl := Option.some.inj hAct
      refine h.move hOld hGood.body nofun fun held' hHeld => ⟨?_, nofun⟩
      obtain rfl := Option.some.inj hHeld
      exact h.file _ hFile
  -- a file that is held fails the call, another one is about to be removed
  | judging attempt body held =>
    rw [RunLock.act] at hAct
    split at hAct
    · obtain rfl := Option.some.inj hAct
      exact h.plain hOld nofun rfl rfl
    · rename_i hJudged
      obtain rfl := Option.some.inj hAct
      exact h.judge hOld (Bool.not_eq_true _ ▸ hJudged)
  | breaking attempt body held =>
    obtain rfl := Option.some.inj hAct
    obtain ⟨hMade, hRead⟩ := retry_plain attempt body
    refine h.remove hOld ?_ (fun body' hBody => hGood.body body' ?_) hMade hRead
    · -- the lock that is broken is not that of a process that is alive
      intro q phase₁ inode body' hq hTable hNew
      obtain ⟨content, hFile, hContent⟩ := (h.good q phase₁ hTable).made inode body' hNew
      rcases hUnspoiled pid attempt body held _ rfl hOld hFile with ⟨rfl, hFilled⟩ | hNobody
      · rcases hContent with rfl | ⟨-, rfl⟩
        · exact hGood.judged _ rfl rfl q phase₁ content hTable hNew rfl
        · exact hFilled rfl
      · exact hNobody q phase₁ body' hTable hNew
    · rw [retry_body body' hBody]
      rfl
  | locked inode body => cases hAct
  -- a release removes only the file with the process's own token
  | comparing inode body =>
    rw [RunLock.act] at hAct
    split at hAct
    · obtain rfl := Option.some.inj hAct
      exact h.plain hOld nofun rfl rfl
    · split at hAct
      · obtain rfl := Option.some.inj hAct
        exact h.move hOld hGood.body (fun _ _ hMade => ⟨hMade, nofun⟩) nofun
      · obtain rfl := Option.some.inj hAct
        exact h.plain hOld nofun rfl rfl
  | removing inode body =>
    obtain rfl := Option.some.inj hAct
    exact h.remove hOld (fun q phase₁ inode' body' hq hTable hNew =>
      hq (h.made_unique hTable hOld hNew rfl)) nofun rfl rfl

/-- A new process keeps the invariant. -/
theorem Inv.spawn (h : Inv w) (hPos : 1 ≤ pid) (hFree : w.table pid = none) :
    Inv (w.set pid .idle) := by
  refine ⟨fun q phase₁ hTable => ?_, h.file⟩
  rcases table_set hTable with ⟨rfl, rfl⟩ | ⟨-, hTable⟩
  · exact ⟨hPos, nofun, nofun, nofun, nofun⟩
  · have hGood := h.good q phase₁ hTable
    refine ⟨hGood.pos, hGood.body, hGood.made, hGood.read,
      fun held hHeld hBreaks other phase'' body hOther hOtherMade => ?_⟩
    rcases table_set hOther with ⟨-, rfl⟩ | ⟨-, hOther⟩
    · cases hOtherMade
    · exact hGood.judged held hHeld hBreaks other phase'' body hOther hOtherMade

/-- A process that ends keeps the invariant. -/
theorem Inv.exit (h : Inv w) : Inv { w with table := Function.update w.table pid none } := by
  have hStill : ∀ q phase₁, Function.update w.table pid none q = some phase₁ →
      w.table q = some phase₁ := by
    intro q phase₁ hTable
    by_cases hq : q = pid
    · subst hq
      rw [Function.update_self] at hTable
      cases hTable
    · rwa [Function.update_of_ne hq] at hTable
  refine ⟨fun q phase₁ hTable => ?_, h.file⟩
  have hGood := h.good q phase₁ (hStill q phase₁ hTable)
  exact ⟨hGood.pos, hGood.body, hGood.made, hGood.read,
    fun held hHeld hBreaks other phase'' body hOther hOtherMade =>
      hGood.judged held hHeld hBreaks other phase'' body (hStill _ _ hOther) hOtherMade⟩

/-- What one step keeps. -/
theorem Inv.step (h : Inv w) {e : Event} (hStep : step w e = some w')
    (hUnspoiled : Unspoiled w e) : Inv w' := by
  unfold RunLock.step at hStep
  cases e with
  -- processes come and go
  | spawn pid =>
    dsimp only at hStep
    split at hStep
    · rename_i hFree
      obtain rfl := Option.some.inj hStep
      exact h.spawn hFree.1 hFree.2
    · cases hStep
  | exit pid =>
    dsimp only at hStep
    split at hStep
    · obtain rfl := Option.some.inj hStep
      exact h.exit
    · cases hStep
  -- they call and return
  | acquire pid token =>
    dsimp only at hStep
    split at hStep
    · rename_i hIdle
      obtain rfl := Option.some.inj hStep
      refine h.plain hIdle (fun body hBody => ⟨token, ?_⟩) rfl rfl
      exact (Option.some.inj hBody).symm
    · cases hStep
  | release pid =>
    dsimp only at hStep
    split at hStep
    · rename_i inode body hLocked
      obtain rfl := Option.some.inj hStep
      exact h.move hLocked (h.good pid _ hLocked).body (fun _ _ hMade => ⟨hMade, nofun⟩) nofun
    · cases hStep
  | act pid =>
    obtain ⟨phase, hOld, hAct⟩ := Option.bind_eq_some_iff.mp hStep
    exact h.act hOld hUnspoiled hAct
  | fails pid =>
    obtain ⟨phase, hOld, hFails⟩ := Option.bind_eq_some_iff.mp hStep
    split at hFails
    · obtain rfl := Option.some.inj hFails
      exact h.plain hOld nofun rfl rfl
    · cases hFails

/-- The invariant holds initially. -/
theorem Inv.init (h : Init w) : Inv w := by
  refine ⟨fun pid phase hTable => ?_, h.2⟩
  obtain ⟨hPos, rfl⟩ := h.1 pid phase hTable
  exact ⟨hPos, nofun, nofun, nofun, nofun⟩

/-- The invariant holds in every reachable world. -/
theorem Inv.reachable (h : unspoiled.Reachable w) : Inv w :=
  Machine.invariant (fun _ => Inv.init) (fun _ _ _ _ hInv hStep => hInv.step hStep.1 hStep.2) h

/-- The invariant leaves one holder at most. -/
theorem Inv.exclusive (h : Inv w) : Exclusive w := by
  have hMade : ∀ {phase : Phase}, phase.holds = true → ∃ inode body,
      phase.made = some (inode, body) := by
    intro phase hHolds
    cases phase <;> cases hHolds <;> exact ⟨_, _, rfl⟩
  constructor
  · rintro p q ⟨phase, hp, hHolds⟩ ⟨phase', hq, hHolds'⟩
    obtain ⟨_, _, hMadeP⟩ := hMade hHolds
    obtain ⟨_, _, hMadeQ⟩ := hMade hHolds'
    exact h.made_unique hp hq hMadeP hMadeQ
  · intro p inode body f hp hFile
    obtain ⟨content, hOwn, -⟩ := (h.good p _ hp).made inode body rfl
    rw [hFile] at hOwn
    obtain rfl := Option.some.inj hOwn
    exact ⟨rfl, fun q phase' body' hq hMadeQ => h.made_unique hq hp hMadeQ rfl⟩

/-- As long as no lock is broken that should not be, one process holds the lock at a time, and
a release removes no other's. -/
theorem runLock_exclusive (h : unspoiled.Reachable w) : Exclusive w :=
  (Inv.reachable h).exclusive

-- ---------------------------------------------------------------------------
-- Runs
-- ---------------------------------------------------------------------------

/-- A step, unless it breaks a lock that is not as it was read. -/
def carefulStep (w : World) (e : Event) : Option World :=
  match e with
  | .act pid =>
    match w.table pid with
    | some (.breaking _ _ held) =>
      if w.file = some held ∧ held.content ≠ [] then step w e else none
    | _ => step w e
  | _ => step w e

/-- A careful run is an unspoiled one. -/
theorem leads_of_careful {es : List Event} :
    ∀ {w w' : World}, Machine.run carefulStep w es = some w' → unspoiled.Leads w es w' := by
  induction es with
  | nil =>
    intro w w' h
    obtain rfl := Option.some.inj h
    exact .nil w
  | cons e es ih =>
    intro w w' h
    obtain ⟨v, hStep, hRest⟩ := Option.bind_eq_some_iff.mp h
    refine .cons (t := v) ?_ (ih hRest)
    cases e with
    | act pid =>
      unfold carefulStep at hStep
      dsimp only at hStep
      split at hStep
      · rename_i attempt body held hTable
        split at hStep
        · rename_i hSame
          -- a careful removal finds the very file that was judged, with its body in it
          refine ⟨hStep, fun pid' attempt' body' held' f hEvent hTable' hFile => .inl ?_⟩
          obtain rfl := Event.act.inj hEvent
          rw [hTable, Option.some.injEq, Phase.breaking.injEq] at hTable'
          obtain ⟨-, -, rfl⟩ := hTable'
          obtain rfl := Option.some.inj (hSame.1.symm.trans hFile)
          exact ⟨rfl, hSame.2⟩
        · cases hStep
      · rename_i hPhase
        refine ⟨hStep, fun pid' attempt' body' held' f hEvent hTable' _ => ?_⟩
        obtain rfl := Event.act.inj hEvent
        exact absurd hTable' (hPhase attempt' body' held')
    | spawn pid => exact ⟨hStep, nofun⟩
    | exit pid => exact ⟨hStep, nofun⟩
    | acquire pid token => exact ⟨hStep, nofun⟩
    | release pid => exact ⟨hStep, nofun⟩
    | fails pid => exact ⟨hStep, nofun⟩

/-- Processes 5 and 6 both find the lock that process 3 has left behind. Process 5 breaks it, and
process 6, which reads the new one while its maker still syncs it, is turned away. -/
theorem runLock_exclusive_sample : ∃ w, unspoiled.Reachable w ∧ Holds w 5 ∧
    w.table 6 = some .idle ∧ ¬ Holds w 6 ∧ Exclusive w := by
  have hInit : unspoiled.init ⟨fun _ => none, some ⟨0, 3, lockBody 3 ['a']⟩, 1⟩ := by
    refine ⟨nofun, fun f hf => ?_⟩
    obtain rfl := Option.some.inj hf
    exact Nat.one_pos
  have hLeads := @leads_of_careful
    [.spawn 5, .spawn 6, .acquire 5 ['b'], .acquire 6 ['c'], .act 5, .act 6, .act 5, .act 5, .act 5,
      .act 5, .act 5, .act 6, .act 6, .act 5]
    ⟨fun _ => none, some ⟨0, 3, lockBody 3 ['a']⟩, 1⟩ _ rfl
  have hReachable := (Machine.Reachable.init hInit).leads hLeads
  refine ⟨_, hReachable, ⟨_, rfl, rfl⟩, rfl, fun h => ?_, runLock_exclusive hReachable⟩
  obtain ⟨phase, hPhase, hHolds⟩ := h
  obtain rfl := Option.some.inj hPhase
  cases hHolds

/-- Process 2 takes the lock that process 1 has created and not yet written for a leftover, and
both have it. -/
theorem runLock_shared : ∃ w, machine.Reachable w ∧ Holds w 1 ∧ Holds w 2 := by
  have hInit : Init ⟨fun _ => none, none, 0⟩ := ⟨nofun, nofun⟩
  have hLeads := @Machine.leads_of_run World Event Init step
    [.spawn 1, .spawn 2, .acquire 1 ['a'], .act 1, .acquire 2 ['b'], .act 2, .act 2, .act 2,
      .act 2, .act 2, .act 2, .act 2, .act 1, .act 1] ⟨fun _ => none, none, 0⟩ _ rfl
  exact ⟨_, ⟨_, _, hInit, hLeads⟩, ⟨_, rfl, rfl⟩, ⟨_, rfl, rfl⟩⟩

end SwapDesk.Client.RunLock
