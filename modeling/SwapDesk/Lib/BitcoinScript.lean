import Mathlib.Data.Nat.Digits.Lemmas
import Mathlib.Data.UInt

/-!
# Bitcoin Script

A stack machine for a part of Bitcoin Script, under the rules that hold for a
version 0 witness program and the standard policy: the argument of a conditional
is minimal, a failing signature is empty, and a script leaves exactly one element,
which is true. Signatures and the hash are parameters of the transaction.

A stack is a list with its top first; a witness is a list in the order it is
written, so its last item is the top.

Main results:

* `decode_serialize`, which says that a serialised script is read back;
* `readNum_numBytes`, for the numbers of a script;
* `run_notif_else`, which runs a conditional by running one of its branches.
-/

namespace BitcoinScript

inductive Opcode where
  | notif
  | «else»
  | endif
  | size
  | equal
  | equalverify
  | sha256
  | checksig
  | checksigverify
  | checklocktimeverify
deriving DecidableEq, Repr

def Opcode.byte : Opcode → UInt8
  | .notif => 0x64
  | .else => 0x67
  | .endif => 0x68
  | .size => 0x82
  | .equal => 0x87
  | .equalverify => 0x88
  | .sha256 => 0xa8
  | .checksig => 0xac
  | .checksigverify => 0xad
  | .checklocktimeverify => 0xb1

def Opcode.all : List Opcode :=
  [.notif, .else, .endif, .size, .equal, .equalverify, .sha256, .checksig, .checksigverify,
    .checklocktimeverify]

def Opcode.ofByte? (b : UInt8) : Option Opcode := Opcode.all.find? fun code => code.byte = b

inductive Instr where
  | push (data : List UInt8)
  | op (code : Opcode)
deriving DecidableEq, Repr

/-! ## Numbers -/

/-- A number in as few bytes as hold it, the least significant first. The top bit of the last
byte is the sign. -/
def numBytes (n : Nat) : List UInt8 :=
  let digits := (Nat.digits 256 n).map UInt8.ofNat
  if digits.getLast?.any (0x80 ≤ ·) then digits ++ [0] else digits

/-- No shorter list of bytes holds the same number. -/
def isMinimal (bytes : List UInt8) : Bool :=
  match bytes.reverse with
  | [] => true
  | [last] => last &&& 0x7f != 0
  | last :: next :: _ => last &&& 0x7f != 0 || 0x80 ≤ next

def magnitude (bytes : List UInt8) : Nat := Nat.ofDigits 256 (bytes.map UInt8.toNat)

/-- The number, if it is minimal, not negative, and of at most `limit` bytes. -/
def readNum (limit : Nat) (bytes : List UInt8) : Option Nat :=
  if bytes.length ≤ limit ∧ isMinimal bytes = true ∧ bytes.getLast?.all (· < 0x80) = true then
    some (magnitude bytes)
  else none

/-- The digits in base 256 are bytes. -/
theorem map_toNat_digits (n : Nat) :
    ((Nat.digits 256 n).map UInt8.ofNat).map UInt8.toNat = Nat.digits 256 n := by
  rw [List.map_map]
  refine (List.map_congr_left fun d hd => ?_).trans (List.map_id _)
  have hLt : d < 256 := Nat.digits_lt_base (by decide) hd
  show (UInt8.ofNat d).toNat = d
  rw [UInt8.toNat_ofNat']
  omega

/-- A number's bytes give back the number. -/
theorem magnitude_numBytes (n : Nat) : magnitude (numBytes n) = n := by
  unfold magnitude numBytes
  dsimp only
  split
  · rw [List.map_append, map_toNat_digits, Nat.ofDigits_append, Nat.ofDigits_digits]
    simp
  · rw [map_toNat_digits, Nat.ofDigits_digits]

/-- Numbers with the same bytes are the same. -/
theorem numBytes_inj {m n : Nat} (h : numBytes m = numBytes n) : m = n := by
  rw [← magnitude_numBytes m, ← magnitude_numBytes n, h]

/-- The last byte of a number is not zero, unless it is there for the sign alone. -/
theorem numBytes_form {n : Nat} (h : 0 < n) :
    ∃ front last, last ≠ 0 ∧ (last < 0x80 ∧ numBytes n = front ++ [last] ∨
      0x80 ≤ last ∧ numBytes n = front ++ [last, 0]) := by
  rcases List.eq_nil_or_concat (Nat.digits 256 n) with hNil | ⟨front, last, hDigits⟩
  · exact absurd (Nat.digits_eq_nil_iff_eq_zero.mp hNil) (by omega)
  · rw [List.concat_eq_append] at hDigits
    have hLast : last ≠ 0 := by
      have hSome := Nat.getLast_digit_ne_zero 256 (show n ≠ 0 by omega)
      simpa [hDigits] using hSome
    have hLt : last < 256 := Nat.digits_lt_base (by decide) (by rw [hDigits]; simp)
    refine ⟨front.map UInt8.ofNat, UInt8.ofNat last, ?_, ?_⟩
    · intro hZero
      have := congrArg UInt8.toNat hZero
      rw [UInt8.toNat_ofNat', Nat.mod_eq_of_lt hLt] at this
      exact hLast this
    · have hTop : ((Nat.digits 256 n).map UInt8.ofNat).getLast? = some (UInt8.ofNat last) := by
        rw [hDigits, List.map_append, List.map_singleton, List.getLast?_append,
          List.getLast?_singleton, Option.some_or]
      unfold numBytes
      dsimp only
      rw [hTop, Option.any_some, hDigits, List.map_append, List.map_singleton]
      by_cases hHigh : 0x80 ≤ UInt8.ofNat last
      · rw [if_pos (decide_eq_true hHigh), List.append_assoc]
        exact .inr ⟨hHigh, rfl⟩
      · rw [if_neg (by simpa using hHigh)]
        exact .inl ⟨UInt8.not_le.mp hHigh, rfl⟩

/-- The sign bit of the last byte is clear, and the byte before it is why an empty last one is
there. -/
theorem minimal_numBytes (n : Nat) :
    isMinimal (numBytes n) = true ∧ (numBytes n).getLast?.all (· < 0x80) = true := by
  rcases Nat.eq_zero_or_pos n with rfl | hPos
  · exact ⟨rfl, rfl⟩
  obtain ⟨front, last, hLast, ⟨hLow, hForm⟩ | ⟨hHigh, hForm⟩⟩ := numBytes_form hPos
  · have hByte : ∀ k : Fin 256, UInt8.ofNat k.val ≠ 0 → UInt8.ofNat k.val < 0x80 →
        (UInt8.ofNat k.val &&& 0x7f != 0) = true := by decide +kernel
    have hBits := hByte ⟨last.toNat, last.toNat_lt⟩
    rw [UInt8.ofNat_toNat] at hBits
    rw [hForm]
    refine ⟨?_, by simpa using hLow⟩
    unfold isMinimal
    rw [List.reverse_append, List.reverse_singleton, List.singleton_append]
    split <;> simp_all
  · rw [hForm]
    simp [isMinimal, hHigh]

/-- The sign takes no more than one further byte. -/
theorem length_numBytes_le {limit n : Nat} (h : n < 256 ^ limit) :
    (numBytes n).length ≤ limit + 1 := by
  have hDigits : (Nat.digits 256 n).length ≤ limit := (Nat.digits_length_le_iff (by decide) n).mpr h
  unfold numBytes
  dsimp only
  split
  · rw [List.length_append, List.length_map, List.length_singleton]
    omega
  · rw [List.length_map]
    omega

/-- Numbers are read back. -/
theorem readNum_numBytes {limit n : Nat} (h : n < 256 ^ limit) :
    readNum (limit + 1) (numBytes n) = some n := by
  rw [readNum, if_pos ⟨length_numBytes_le h, minimal_numBytes n⟩, magnitude_numBytes]

/-! ## Serialisation -/

def serializeInstr : Instr → List UInt8
  | .push data => UInt8.ofNat data.length :: data
  | .op code => [code.byte]

def serialize (script : List Instr) : List UInt8 := script.flatMap serializeInstr

/-- A byte below 76 pushes that many bytes; any other is an opcode. -/
def decode : Nat → List UInt8 → Option (List Instr)
  | _, [] => some []
  | 0, _ :: _ => none
  | fuel + 1, b :: rest =>
    if b.toNat < 76 then
      if b.toNat ≤ rest.length then
        (decode fuel (rest.drop b.toNat)).map fun script => .push (rest.take b.toNat) :: script
      else none
    else
      match Opcode.ofByte? b with
      | none => none
      | some code => (decode fuel rest).map fun script => .op code :: script

/-- What is pushed fits the one-byte length. -/
def Short : Instr → Prop
  | .push data => data.length < 76
  | .op _ => True

/-- An opcode is read back from its byte. -/
theorem ofByte?_byte (code : Opcode) :
    Opcode.ofByte? code.byte = some code ∧ 76 ≤ code.byte.toNat := by
  cases code <;> decide

/-- A serialised script is read back. -/
theorem decode_serialize {script : List Instr} (h : ∀ instr ∈ script, Short instr) :
    ∀ {fuel : Nat}, script.length ≤ fuel → decode fuel (serialize script) = some script := by
  induction script with
  | nil =>
    intro fuel _
    cases fuel <;> rfl
  | cons instr script ih =>
    intro fuel hFuel
    rw [List.length_cons] at hFuel
    obtain ⟨f, rfl⟩ : ∃ f, fuel = f + 1 := ⟨fuel - 1, by omega⟩
    have hRest := ih (fun instr hInstr => h instr (List.mem_cons_of_mem _ hInstr))
      (show script.length ≤ f by omega)
    have hShort := h instr (List.mem_cons_self ..)
    unfold serialize at hRest ⊢
    cases instr with
    -- the byte before the data is its length
    | push data =>
      have hLength : data.length < 76 := hShort
      have hByte : (UInt8.ofNat data.length).toNat = data.length := by
        rw [UInt8.toNat_ofNat']
        omega
      rw [List.flatMap_cons, serializeInstr, List.cons_append, decode, hByte, if_pos hLength,
        if_pos (by simp), List.drop_left, List.take_left, hRest]
      rfl
    -- a code of one byte
    | op code =>
      obtain ⟨hCode, hByte⟩ := ofByte?_byte code
      rw [List.flatMap_cons, serializeInstr, List.singleton_append, decode, if_neg (by omega),
        hCode]
      dsimp only
      rw [hRest]
      rfl

/-! ## The machine -/

/-- What a script sees of the transaction that spends it. -/
structure Context where
  /-- The signature is valid for the public key. -/
  checkSig : List UInt8 → List UInt8 → Bool
  sha256 : List UInt8 → List UInt8
  lockTime : Nat
  sequence : Nat

structure State where
  stack : List (List UInt8)
  /-- Whether each open conditional is executed, the innermost first. -/
  conditions : List Bool
deriving DecidableEq, Repr

def State.executes (s : State) : Bool := s.conditions.all id

def truth (b : Bool) : List UInt8 := if b then [1] else []

/-- Neither zero nor negative zero. -/
def castToBool (bytes : List UInt8) : Bool :=
  match bytes.reverse with
  | [] => false
  | last :: rest => rest.any (· != 0) || (last != 0 && last != 0x80)

/-- A signature that does not check is empty. -/
def checkSignature (ctx : Context) (sig key : List UInt8) : Option Bool :=
  if sig = [] then some false
  else if ctx.checkSig sig key then some true
  else none

/-- Below it a lock time is a height, and from it on a time. -/
def lockTimeThreshold : Nat := 500000000

def finalSequence : Nat := 0xffffffff

/-- The lock time of the transaction has reached `n`, and is in force. -/
def LockTimeReached (ctx : Context) (n : Nat) : Prop :=
  (n < lockTimeThreshold ↔ ctx.lockTime < lockTimeThreshold) ∧ n ≤ ctx.lockTime ∧
    ctx.sequence ≠ finalSequence

instance (ctx : Context) (n : Nat) : Decidable (LockTimeReached ctx n) :=
  inferInstanceAs (Decidable (_ ∧ _))

/-- An opcode that is no conditional, on the stack. -/
def stepStack (ctx : Context) : Opcode → List (List UInt8) → Option (List (List UInt8))
  | .size, top :: stack => some (numBytes top.length :: top :: stack)
  | .equal, a :: b :: stack => some (truth (a = b) :: stack)
  | .equalverify, a :: b :: stack => if a = b then some stack else none
  | .sha256, top :: stack => some (ctx.sha256 top :: stack)
  | .checksig, key :: sig :: stack =>
    (checkSignature ctx sig key).map fun checked => truth checked :: stack
  | .checksigverify, key :: sig :: stack =>
    if checkSignature ctx sig key = some true then some stack else none
  | .checklocktimeverify, top :: stack =>
    match readNum 5 top with
    | none => none
    | some n => if LockTimeReached ctx n then some (top :: stack) else none
  | _, _ => none

/-- The argument of a conditional is empty or one. -/
def stepNotif (s : State) : Option State :=
  if s.executes then
    match s.stack with
    | [] :: stack => some ⟨stack, true :: s.conditions⟩
    | [1] :: stack => some ⟨stack, false :: s.conditions⟩
    | _ => none
  else some ⟨s.stack, false :: s.conditions⟩

def step (ctx : Context) (s : State) : Instr → Option State
  | .push data => some (if s.executes then { s with stack := data :: s.stack } else s)
  | .op .notif => stepNotif s
  | .op .else =>
    match s.conditions with
    | [] => none
    | c :: conditions => some { s with conditions := (!c) :: conditions }
  | .op .endif =>
    match s.conditions with
    | [] => none
    | _ :: conditions => some { s with conditions := conditions }
  | .op code =>
    if s.executes then (stepStack ctx code s.stack).map fun stack => { s with stack := stack }
    else some s

def run (ctx : Context) : List Instr → State → Option State
  | [], s => some s
  | instr :: script, s => (step ctx s instr).bind (run ctx script)

/-! ## Branches -/

/-- An opcode that opens, turns or closes a conditional. -/
def Instr.isFlow : Instr → Bool
  | .op .notif => true
  | .op .else => true
  | .op .endif => true
  | _ => false

/-- An instruction that is executed, on the stack alone. -/
def stepPlain (ctx : Context) : Instr → List (List UInt8) → Option (List (List UInt8))
  | .push data, stack => some (data :: stack)
  | .op code, stack => stepStack ctx code stack

def runPlain (ctx : Context) : List Instr → List (List UInt8) → Option (List (List UInt8))
  | [], stack => some stack
  | instr :: script, stack => (stepPlain ctx instr stack).bind (runPlain ctx script)

/-- A plain instruction runs where the branch executes. -/
theorem step_of_not_flow {ctx : Context} {instr : Instr} (h : instr.isFlow = false) (s : State) :
    step ctx s instr =
      if s.executes then (stepPlain ctx instr s.stack).map fun stack => { s with stack := stack }
      else some s := by
  cases instr with
  | push data => cases hExecutes : s.executes <;> simp [step, stepPlain, hExecutes]
  | op code => cases code <;> first | rfl | cases h

/-- Scripts run one after the other. -/
theorem run_append {ctx : Context} {first second : List Instr} {s : State} :
    run ctx (first ++ second) s = (run ctx first s).bind (run ctx second) := by
  induction first generalizing s with
  | nil => rfl
  | cons instr first ih =>
    rw [List.cons_append, run, run]
    cases step ctx s instr with
    | none => rfl
    | some next => exact ih

/-- Without conditionals a script that is executed is one on the stack. -/
theorem run_executed {ctx : Context} {branch : List Instr}
    (h : ∀ instr ∈ branch, instr.isFlow = false) {s : State} (hExecutes : s.executes = true) :
    run ctx branch s =
      (runPlain ctx branch s.stack).map fun stack => { s with stack := stack } := by
  induction branch generalizing s with
  | nil => rfl
  | cons instr branch ih =>
    rw [run, step_of_not_flow (h instr (List.mem_cons_self ..)), if_pos hExecutes, runPlain]
    cases stepPlain ctx instr s.stack with
    | none => rfl
    | some stack =>
      exact ih (fun instr hInstr => h instr (List.mem_cons_of_mem _ hInstr))
        (s := { s with stack := stack }) hExecutes

/-- And one that is skipped leaves everything as it is. -/
theorem run_skipped {ctx : Context} {branch : List Instr}
    (h : ∀ instr ∈ branch, instr.isFlow = false) {s : State} (hSkips : s.executes = false) :
    run ctx branch s = some s := by
  induction branch with
  | nil => rfl
  | cons instr branch ih =>
    rw [run, step_of_not_flow (h instr (List.mem_cons_self ..)), hSkips]
    exact ih fun instr hInstr => h instr (List.mem_cons_of_mem _ hInstr)

/-- A conditional between two branches runs one of them. -/
theorem run_notif_else {ctx : Context} {empty one : List Instr}
    (hEmpty : ∀ instr ∈ empty, instr.isFlow = false) (hOne : ∀ instr ∈ one, instr.isFlow = false)
    (b : Bool) (stack : List (List UInt8)) :
    run ctx (.op .notif :: (empty ++ .op .else :: (one ++ [.op .endif]))) ⟨truth b :: stack, []⟩ =
      (runPlain ctx (if b then one else empty) stack).map fun stack => ⟨stack, []⟩ := by
  rw [run]
  cases b with
  | false =>
    show run ctx _ ⟨stack, [true]⟩ = _
    rw [run_append, run_executed hEmpty rfl, if_neg Bool.false_ne_true]
    cases runPlain ctx empty stack with
    | none => rfl
    | some left =>
      show run ctx _ ⟨left, [false]⟩ = _
      rw [run_append, run_skipped hOne rfl]
      rfl
  | true =>
    show run ctx _ ⟨stack, [false]⟩ = _
    rw [run_append, run_skipped hEmpty rfl, if_pos rfl]
    show run ctx _ ⟨stack, [true]⟩ = _
    rw [run_append, run_executed hOne rfl]
    cases runPlain ctx one stack <;> rfl

/-! ## Acceptance -/

/-- The script accepts the witness. -/
def Accepts (ctx : Context) (script : List Instr) (witness : List (List UInt8)) : Prop :=
  ∃ top, run ctx script ⟨witness.reverse, []⟩ = some ⟨[top], []⟩ ∧ castToBool top = true

/-- The serialised script reads as instructions that accept the witness. -/
def AcceptsBytes (ctx : Context) (bytes : List UInt8) (witness : List (List UInt8)) : Prop :=
  ∃ script, decode bytes.length bytes = some script ∧ Accepts ctx script witness

/-- A script has at least a byte an instruction. -/
theorem length_le_length_serialize (script : List Instr) :
    script.length ≤ (serialize script).length := by
  induction script with
  | nil => exact Nat.le_refl 0
  | cons instr script ih =>
    have hOne : 1 ≤ (serializeInstr instr).length := by cases instr <;> simp [serializeInstr]
    unfold serialize at ih ⊢
    rw [List.flatMap_cons, List.length_append, List.length_cons]
    omega

/-- A serialised script accepts what the script does. -/
theorem acceptsBytes_serialize {ctx : Context} {script : List Instr} {witness : List (List UInt8)}
    (h : ∀ instr ∈ script, Short instr) :
    AcceptsBytes ctx (serialize script) witness ↔ Accepts ctx script witness := by
  unfold AcceptsBytes
  rw [decode_serialize h (length_le_length_serialize script)]
  simp

/-- A positive number is true. -/
theorem castToBool_numBytes {n : Nat} (h : 0 < n) : castToBool (numBytes n) = true := by
  unfold castToBool
  obtain ⟨front, last, hLast, ⟨hLow, hForm⟩ | ⟨-, hForm⟩⟩ := numBytes_form h
  · have hSign : last ≠ 0x80 := by
      rintro rfl
      exact absurd hLow (by decide)
    rw [hForm, List.reverse_append, List.reverse_singleton, List.singleton_append]
    simp [hLast, hSign]
  · rw [hForm]
    simp [hLast]

/-- A truth value casts to itself. -/
@[simp] theorem castToBool_truth (b : Bool) : castToBool (truth b) = b := by
  cases b <;> decide

end BitcoinScript
