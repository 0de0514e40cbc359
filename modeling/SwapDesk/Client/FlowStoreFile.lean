import Mathlib.Data.Char
import Mathlib.Data.List.Lex
import SwapDesk.Lib.Decimal
import SwapDesk.Lib.Hex
import SwapDesk.Lib.JsonText
import SwapDesk.Lib.OrdMap

/-!
# SwapDesk — the files of a flow store

The files of a `FileFlowStore` of `src/client/flow-store.ts`: a line with the length and the sha256
of the payload, and the payload, under a name that `FILE_NAME_PATTERN` matches; and `load`, `save`
and `list` on the directory that holds them.

Main results: `readPayload_frame`, every payload is read back from its file, and
`FILE_NAME_PATTERN_eq_some`, the names of records are told from all others. What a store therefore
holds is in `SwapDesk.Client.FlowStoreSafety`.
-/

namespace SwapDesk.Client.FlowStore

open CharClass (isAlphanumeric isHexLower isHexLower_iff)

-- ---------------------------------------------------------------------------
-- Texts in bytes
-- ---------------------------------------------------------------------------

/-- What sha256 gives. -/
abbrev Digest := { bytes : List UInt8 // bytes.length = 32 }

/-- The bytes that an array can hold. -/
abbrev Payload := { bytes : List UInt8 // bytes.length ≤ JsonText.maxExact }

def latin1 (text : List Char) : List UInt8 := text.map fun c => UInt8.ofNat c.toNat

def ofLatin1 (bytes : List UInt8) : List Char := bytes.map fun b => Char.ofNat b.toNat

/-- Latin-1 text reads back. -/
theorem ofLatin1_latin1 {text : List Char} (h : ∀ c ∈ text, c.toNat < 256) :
    ofLatin1 (latin1 text) = text := by
  unfold ofLatin1 latin1
  rw [List.map_map]
  refine (List.map_congr_left fun c hc => ?_).trans (List.map_id _)
  show Char.ofNat (UInt8.ofNat c.toNat).toNat = c
  rw [UInt8.toNat_ofNat_of_lt' (h c hc), Char.ofNat_toNat]

/-- The rest, if the text starts with the word. -/
def after? (word text : List Char) : Option (List Char) :=
  if word.isPrefixOf text then some (text.drop word.length) else none

/-- What follows a word is found after it. -/
theorem after?_append (word rest : List Char) : after? word (word ++ rest) = some rest := by
  unfold after?
  rw [if_pos (List.isPrefixOf_iff_prefix.mpr (List.prefix_append word rest)), List.drop_left]

/-- A rest is found where the word stands in front of it. -/
theorem after?_eq_some {word text rest : List Char} :
    after? word text = some rest ↔ text = word ++ rest := by
  constructor
  · intro h
    unfold after? at h
    split at h
    · rename_i hPrefix
      obtain rfl := Option.some.inj h
      obtain ⟨more, rfl⟩ := List.isPrefixOf_iff_prefix.mp hPrefix
      rw [List.drop_left]
    · cases h
  · rintro rfl
    exact after?_append word rest

-- ---------------------------------------------------------------------------
-- The file of a record
-- ---------------------------------------------------------------------------

/-- A record that cannot be read. -/
structure FlowStoreCorruptError where
  key : String
  reason : String
deriving DecidableEq, Repr

section

variable (sha256 : List UInt8 → Digest)

def flowDigest (bytes : List UInt8) : List Char := Hex.encode (sha256 bytes).val

def headerText (payload : List UInt8) : List Char :=
  "flop-flow-store/1 sha256=".toList ++ (flowDigest sha256 payload ++ (" length=".toList ++
    (Nat.toDigits 10 payload.length ++ ['\n'])))

/-- What `write` puts into the temporary file. -/
def frame (payload : List UInt8) : List UInt8 := latin1 (headerText sha256 payload) ++ payload

/-- The version in a line that `FORMAT_PATTERN` matches. -/
def FORMAT_PATTERN (line : List Char) : Option (List Char) := do
  let rest ← after? "flop-flow-store/".toList line
  let version := rest.takeWhile Char.isDigit
  guard (version ≠ [] ∧ (rest.dropWhile Char.isDigit).head? = some ' ')
  return version

/-- The digest and the length in a line that `HEADER_PATTERN` matches. -/
def HEADER_PATTERN (line : List Char) : Option (List Char × List Char) := do
  let rest ← after? "flop-flow-store/1 sha256=".toList line
  let digest := rest.take 64
  guard (digest.length = 64 ∧ digest.all isHexLower = true)
  let rest ← after? " length=".toList (rest.drop 64)
  let length := rest.takeWhile Char.isDigit
  guard (length ≠ [] ∧ (rest.dropWhile Char.isDigit).head? = some '\n')
  return (digest, length)

/-- The verified payload of a file. -/
def readPayload (key : String) (file : List UInt8) :
    Except FlowStoreCorruptError (List UInt8) :=
  if 10 ∉ file then .error ⟨key, "no header line"⟩
  else
    let headerLine := ofLatin1 (file.takeWhile (· ≠ 10) ++ [10])
    let payload := (file.dropWhile (· ≠ 10)).tail
    match (FORMAT_PATTERN headerLine).filter (· ≠ ['1']) with
    | some version =>
      .error ⟨key, "unknown store format version " ++ String.ofList version ++
        ", this build reads version 1 only"⟩
    | none =>
      match HEADER_PATTERN headerLine with
      | none => .error ⟨key, "unrecognised header"⟩
      | some (digest, length) =>
        if Nat.ofDigitChars 10 length 0 ≤ JsonText.maxExact ∧
            payload.length = Nat.ofDigitChars 10 length 0 then
          if flowDigest sha256 payload = digest then .ok payload
          else .error ⟨key, "payload sha256 does not match the header"⟩
        else
          .error ⟨key, "payload is " ++ toString payload.length ++ " bytes, the header says " ++
            String.ofList length⟩

end

-- ---------------------------------------------------------------------------
-- Reading back
-- ---------------------------------------------------------------------------

variable {sha256 : List UInt8 → Digest}

/-- A character that a header is made of. -/
def isPlain (c : Char) : Bool := c.toNat < 256 && c ≠ '\n'

/-- A digit is plain. -/
theorem isPlain_of_isDigit {c : Char} (h : c.isDigit = true) : isPlain c = true := by
  obtain ⟨hLow, hHigh⟩ := Char.isDigit_iff_toNat.mp h
  have hLow : 48 ≤ c.toNat := hLow
  have hHigh : c.toNat ≤ 57 := hHigh
  unfold isPlain
  rw [Bool.and_eq_true, decide_eq_true_eq, decide_eq_true_eq]
  refine ⟨by omega, ?_⟩
  rintro rfl
  exact absurd hLow (by decide)

/-- A hexadecimal digit is plain. -/
theorem isPlain_of_isHexLower {c : Char} (h : isHexLower c = true) : isPlain c = true := by
  have hBounds : 48 ≤ c.toNat ∧ c.toNat ≤ 102 := by
    have hCases := isHexLower_iff.mp h
    omega
  unfold isPlain
  rw [Bool.and_eq_true, decide_eq_true_eq, decide_eq_true_eq]
  refine ⟨by omega, ?_⟩
  rintro rfl
  exact absurd hBounds.1 (by decide)

/-- A digest has 64 digits. -/
theorem length_flowDigest (bytes : List UInt8) : (flowDigest sha256 bytes).length = 64 := by
  rw [flowDigest, Hex.length_encode, (sha256 bytes).property]

/-- A digest is hexadecimal digits. -/
theorem all_isHexLower_flowDigest (bytes : List UInt8) :
    (flowDigest sha256 bytes).all isHexLower = true :=
  Hex.all_isHexLower_encode _

/-- The header without its line break. -/
def headerWords (sha256 : List UInt8 → Digest) (payload : List UInt8) : List Char :=
  "flop-flow-store/1 sha256=".toList ++ (flowDigest sha256 payload ++ (" length=".toList ++
    Nat.toDigits 10 payload.length))

/-- A header is its words and a line break. -/
theorem headerText_eq (payload : List UInt8) :
    headerText sha256 payload = headerWords sha256 payload ++ ['\n'] := by
  unfold headerText headerWords
  simp only [List.append_assoc]

/-- The words of a header are plain. -/
theorem isPlain_headerWords (payload : List UInt8) :
    ∀ c ∈ headerWords sha256 payload, isPlain c = true := by
  have hWord : "flop-flow-store/1 sha256=".toList.all isPlain = true := by decide
  have hLength : " length=".toList.all isPlain = true := by decide
  intro c hc
  unfold headerWords at hc
  rcases List.mem_append.mp hc with hc | hc
  · exact List.all_eq_true.mp hWord c hc
  rcases List.mem_append.mp hc with hc | hc
  · exact isPlain_of_isHexLower (List.all_eq_true.mp (all_isHexLower_flowDigest payload) c hc)
  rcases List.mem_append.mp hc with hc | hc
  · exact List.all_eq_true.mp hLength c hc
  · exact isPlain_of_isDigit (Nat.isDigit_of_mem_toDigits (by decide) (by decide) hc)

/-- A header is matched with its digest and its length. -/
theorem header_ok (payload : List UInt8) :
    HEADER_PATTERN (headerText sha256 payload) =
      some (flowDigest sha256 payload, Nat.toDigits 10 payload.length) := by
  have hTake : (flowDigest sha256 payload ++ (" length=".toList ++
      (Nat.toDigits 10 payload.length ++ ['\n']))).take 64 = flowDigest sha256 payload :=
    List.take_left' (length_flowDigest payload)
  have hDrop : (flowDigest sha256 payload ++ (" length=".toList ++
      (Nat.toDigits 10 payload.length ++ ['\n']))).drop 64 =
      " length=".toList ++ (Nat.toDigits 10 payload.length ++ ['\n']) :=
    List.drop_left' (length_flowDigest payload)
  have hDigits : ∀ c ∈ Nat.toDigits 10 payload.length, c.isDigit = true := fun c hc =>
    Nat.isDigit_of_mem_toDigits (by decide) (by decide) hc
  have hRun : (Nat.toDigits 10 payload.length ++ ['\n']).takeWhile Char.isDigit =
      Nat.toDigits 10 payload.length := by
    rw [List.takeWhile_append_of_pos hDigits, List.takeWhile_cons_of_neg (by decide),
      List.append_nil]
  have hRest : (Nat.toDigits 10 payload.length ++ ['\n']).dropWhile Char.isDigit = ['\n'] := by
    rw [List.dropWhile_append_of_pos hDigits, List.dropWhile_cons_of_neg (by decide)]
  have hGuard : ((flowDigest sha256 payload).length = 64 ∧
      (flowDigest sha256 payload).all isHexLower = true) :=
    ⟨length_flowDigest payload, all_isHexLower_flowDigest payload⟩
  have hFound : Nat.toDigits 10 payload.length ≠ [] ∧ (['\n'] : List Char).head? = some '\n' :=
    ⟨Nat.toDigits_ne_nil, rfl⟩
  unfold HEADER_PATTERN headerText
  simp only [after?_append, Option.bind_eq_bind, Option.bind_some, hTake, hDrop, hRun, hRest,
    guard, if_pos hGuard, if_pos hFound]
  rfl

/-- A header is of the first format. -/
theorem format_one (payload : List UInt8) :
    (FORMAT_PATTERN (headerText sha256 payload)).filter (· ≠ ['1']) = none := by
  have hText : ∃ rest, headerText sha256 payload =
      "flop-flow-store/".toList ++ ('1' :: ' ' :: rest) := ⟨_, rfl⟩
  obtain ⟨rest, hRest⟩ := hText
  unfold FORMAT_PATTERN
  rw [hRest]
  simp only [after?_append, Option.bind_eq_bind, Option.bind_some]
  rw [List.takeWhile_cons_of_pos (by decide), List.takeWhile_cons_of_neg (by decide),
    List.dropWhile_cons_of_pos (by decide), List.dropWhile_cons_of_neg (by decide)]
  rfl

/-- Every payload is read back from its file. -/
theorem readPayload_frame (key : String) (payload : Payload) :
    readPayload sha256 key (frame sha256 payload.val) = .ok payload.val := by
  have hPlain : ∀ c ∈ headerWords sha256 payload.val, isPlain c = true :=
    isPlain_headerWords payload.val
  -- the header has no line break but its last
  have hNotBreak : ∀ b ∈ latin1 (headerWords sha256 payload.val), b ≠ 10 := by
    intro b hb
    obtain ⟨c, hc, rfl⟩ := List.mem_map.mp hb
    have hChar := hPlain c hc
    rw [isPlain, Bool.and_eq_true, decide_eq_true_eq, decide_eq_true_eq] at hChar
    intro hEq
    refine hChar.2 ?_
    have hNat := congrArg UInt8.toNat hEq
    rw [UInt8.toNat_ofNat_of_lt' hChar.1] at hNat
    rw [← Char.ofNat_toNat c, hNat]
    rfl
  have hSplit : frame sha256 payload.val =
      latin1 (headerWords sha256 payload.val) ++ 10 :: payload.val := by
    unfold frame
    rw [headerText_eq, latin1, latin1, List.map_append, List.append_assoc]
    rfl
  have hTake : (frame sha256 payload.val).takeWhile (· ≠ 10) =
      latin1 (headerWords sha256 payload.val) := by
    rw [hSplit, List.takeWhile_append_of_pos fun b hb => decide_eq_true (hNotBreak b hb),
      List.takeWhile_cons_of_neg (by decide), List.append_nil]
  have hDrop : (frame sha256 payload.val).dropWhile (· ≠ 10) = 10 :: payload.val := by
    rw [hSplit, List.dropWhile_append_of_pos fun b hb => decide_eq_true (hNotBreak b hb),
      List.dropWhile_cons_of_neg (by decide)]
  -- the line that is cut off is the header, as text again
  have hLine : ofLatin1 (latin1 (headerWords sha256 payload.val) ++ [10]) =
      headerText sha256 payload.val := by
    have hWords : ofLatin1 (latin1 (headerWords sha256 payload.val)) =
        headerWords sha256 payload.val := by
      refine ofLatin1_latin1 fun c hc => ?_
      have hChar := hPlain c hc
      rw [isPlain, Bool.and_eq_true, decide_eq_true_eq] at hChar
      exact hChar.1
    rw [headerText_eq, ofLatin1, List.map_append, ← ofLatin1, hWords]
    rfl
  have hMem : ¬ (10 ∉ frame sha256 payload.val) := by
    rw [hSplit, not_not]
    exact List.mem_append_right _ List.mem_cons_self
  -- whose words are checked one by one
  unfold readPayload
  rw [if_neg hMem, hTake, hDrop, hLine]
  simp only [format_one, header_ok, List.tail_cons, Nat.ofDigitChars_ten_toDigits]
  rw [if_pos ⟨payload.property, trivial⟩, if_pos trivial]

-- ---------------------------------------------------------------------------
-- Names
-- ---------------------------------------------------------------------------

inductive FlowRole where
  | buyer
  | seller
deriving DecidableEq, Repr

def FlowRole.text : FlowRole → List Char
  | .buyer => "buyer".toList
  | .seller => "seller".toList

def KEY_ID_SHAPE (id : List Char) : Bool :=
  id.length = 66 && "0x".toList.isPrefixOf id && (id.drop 2).all isHexLower

/-- A key: whose record it names, and which. -/
structure FlowKey where
  role : FlowRole
  id : List Char
  shape : KEY_ID_SHAPE id = true
deriving DecidableEq

/-- The names of the files of a key, without what tells them apart. -/
def FlowKey.stem (key : FlowKey) : List Char := key.role.text ++ '-' :: key.id

def FlowKey.fileName (key : FlowKey) : List Char := key.stem ++ ".json".toList

def FlowKey.lockName (key : FlowKey) : List Char := key.stem ++ ".lock".toList

def FlowKey.tmpName (key : FlowKey) (pid : Nat) (token : List UInt8) : List Char :=
  key.fileName ++ (".tmp-".toList ++ (Nat.toDigits 10 pid ++ '-' :: Hex.encode token))

/-- The key of a name, from what stands behind its role. -/
def keyOf (role : FlowRole) (rest : List Char) : Option FlowKey :=
  if h : KEY_ID_SHAPE (rest.take 66) = true ∧ rest.drop 66 = ".json".toList then
    some ⟨role, rest.take 66, h.1⟩
  else none

/-- The key of a name that `FILE_NAME_PATTERN` matches. -/
def FILE_NAME_PATTERN (name : List Char) : Option FlowKey :=
  ((after? "buyer-".toList name).bind (keyOf .buyer)).or
    ((after? "seller-".toList name).bind (keyOf .seller))

/-- The id of a flow has 66 characters. -/
theorem FlowKey.length_id (key : FlowKey) : key.id.length = 66 := by
  have hShape := key.shape
  rw [KEY_ID_SHAPE, Bool.and_eq_true, Bool.and_eq_true, decide_eq_true_eq] at hShape
  exact hShape.1.1

/-- The name behind a role is the id of the key. -/
theorem keyOf_eq_some {role : FlowRole} {rest : List Char} {key : FlowKey} :
    keyOf role rest = some key ↔ key.role = role ∧ rest = key.id ++ ".json".toList := by
  unfold keyOf
  constructor
  · intro h
    split at h
    · rename_i hShape
      obtain rfl := Option.some.inj h
      refine ⟨rfl, ?_⟩
      conv_lhs => rw [← List.take_append_drop 66 rest, hShape.2]
    · cases h
  · rintro ⟨rfl, rfl⟩
    have hTake : (key.id ++ ".json".toList).take 66 = key.id := List.take_left' key.length_id
    have hDrop : (key.id ++ ".json".toList).drop 66 = ".json".toList :=
      List.drop_left' key.length_id
    rw [dif_pos ⟨by rw [hTake]; exact key.shape, hDrop⟩]
    simp only [hTake]

/-- The pattern matches the file names of keys, and no others. -/
theorem FILE_NAME_PATTERN_eq_some {name : List Char} {key : FlowKey} :
    FILE_NAME_PATTERN name = some key ↔ name = key.fileName := by
  unfold FILE_NAME_PATTERN
  rw [Option.or_eq_some_iff]
  simp only [Option.bind_eq_some_iff, after?_eq_some, keyOf_eq_some]
  obtain ⟨role, id, shape⟩ := key
  constructor
  · rintro (⟨rest, rfl, hRole, rfl⟩ | ⟨-, rest, rfl, hRole, rfl⟩)
    · obtain rfl : role = .buyer := hRole
      rfl
    · obtain rfl : role = .seller := hRole
      rfl
  · rintro rfl
    cases role with
    | buyer => exact .inl ⟨_, rfl, rfl, rfl⟩
    | seller => exact .inr ⟨rfl, _, rfl, rfl, rfl⟩

/-- The names of two keys with something behind them, of which the one is longer or ends
otherwise. -/
theorem stem_append_ne {key key' : FlowKey} {tail tail' : List Char} (h : tail ≠ tail') :
    key.stem ++ tail ≠ key'.stem ++ tail' := by
  intro hEq
  have hId := key.length_id
  have hId' := key'.length_id
  have hRole : key.role = key'.role := by
    have hHead := congrArg List.head? hEq
    unfold FlowKey.stem at hHead
    cases hRole : key.role <;> cases hRole' : key'.role <;> rw [hRole, hRole'] at hHead <;>
      first | rfl | cases hHead
  have hLength : key.stem.length = key'.stem.length := by
    unfold FlowKey.stem
    rw [hRole, List.length_append, List.length_append, List.length_cons, List.length_cons, hId,
      hId']
  exact h (List.append_inj hEq hLength).2

/-- The name of a lock is no record's name. -/
theorem FILE_NAME_PATTERN_lockName (key : FlowKey) : FILE_NAME_PATTERN key.lockName = none := by
  refine Option.eq_none_iff_forall_ne_some.mpr fun key' h => ?_
  exact stem_append_ne (by decide) (FILE_NAME_PATTERN_eq_some.mp h)

/-- The name of a temporary file is no record's name. -/
theorem FILE_NAME_PATTERN_tmpName (key : FlowKey) (pid : Nat) (token : List UInt8) :
    FILE_NAME_PATTERN (key.tmpName pid token) = none := by
  refine Option.eq_none_iff_forall_ne_some.mpr fun key' h => ?_
  have hName := FILE_NAME_PATTERN_eq_some.mp h
  rw [FlowKey.tmpName, FlowKey.fileName, List.append_assoc] at hName
  refine stem_append_ne (fun hTail => ?_) hName
  have hLength := congrArg List.length hTail
  simp at hLength

def FlowKey.text (key : FlowKey) : List Char := key.role.text ++ ':' :: key.id

-- ---------------------------------------------------------------------------
-- The directory
-- ---------------------------------------------------------------------------

/-- The files of a store by their names. -/
abbrev Directory := OrdMap (List Char) (List UInt8)

inductive FlowStoreError where
  | corrupt (error : FlowStoreCorruptError)
  /-- `FlowRecordStaleError`: what was expected, and the digest of what is there. -/
  | stale (expected : List Char) (actual : Option (List Char))
  /-- `FlowRecordExistsError` -/
  | alreadyThere
deriving DecidableEq, Repr

/-- `/^[A-Za-z0-9_-]{1,64}$/` -/
def TEMP_TAIL (text : List Char) : Bool :=
  1 ≤ text.length && text.length ≤ 64 &&
    text.all fun c => isAlphanumeric c || c = '_' || c = '-'

/-- A temporary file of this key. -/
def isStaleTemp (key : FlowKey) (name : List Char) : Bool :=
  (after? (key.fileName ++ ".tmp-".toList) name).any TEMP_TAIL

namespace Directory

variable (sha256 : List UInt8 → Digest) (dir : Directory) (key : FlowKey)

def load : Except FlowStoreCorruptError (Option (List UInt8)) :=
  match dir.get? key.fileName with
  | none => .ok none
  | some file => (readPayload sha256 (String.ofList key.text) file).map some

/-- The compare of the compare-and-swap. -/
def compare (expected : Option (List Char)) : Except FlowStoreError Unit :=
  match expected with
  | none => if dir.has key.fileName then .error .alreadyThere else .ok ()
  | some expected =>
    match dir.load sha256 key with
    | .error error => .error (.corrupt error)
    | .ok none => .error (.stale expected none)
    | .ok (some current) =>
      if flowDigest sha256 current = expected then .ok ()
      else .error (.stale expected (some (flowDigest sha256 current)))

def removeStaleTemps : Directory :=
  dir.filterMap fun name file => if isStaleTemp key name then none else some file

/-- `save`, in the critical section of its key: the temporary file takes the place of the
record. -/
def save (payload : List UInt8) (expected : Option (List Char)) :
    Except FlowStoreError Directory := do
  dir.compare sha256 key expected
  return (dir.removeStaleTemps key).set key.fileName (frame sha256 payload)

def list : List (List Char) :=
  (((dir.entries.map Prod.fst).filterMap FILE_NAME_PATTERN).map FlowKey.text).mergeSort (· ≤ ·)

end Directory

/-- The lock of the store-wide section. -/
def sellerBeginLock : List Char := "seller-begin.lock".toList

/-- A file that is not a record: a lock, or the temporary file of a save. -/
def IsLeftover (name : List Char) : Prop :=
  name = sellerBeginLock ∨
    ∃ key : FlowKey, name = key.lockName ∨ ∃ pid token, name = key.tmpName pid token

/-- No record goes by the name of a leftover. -/
theorem FILE_NAME_PATTERN_leftover {name : List Char} (h : IsLeftover name) :
    FILE_NAME_PATTERN name = none := by
  obtain rfl | ⟨key, rfl | ⟨pid, token, rfl⟩⟩ := h
  · decide
  · exact FILE_NAME_PATTERN_lockName key
  · exact FILE_NAME_PATTERN_tmpName key pid token

end SwapDesk.Client.FlowStore
