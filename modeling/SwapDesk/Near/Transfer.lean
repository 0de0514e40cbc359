import SwapDesk.Lib.Check
import SwapDesk.Lib.Decimal
import SwapDesk.Lib.JsonFlat
import SwapDesk.Lib.OrdMap
import SwapDesk.Lib.Utf8
import SwapDesk.Near.Safety
import Mathlib.Tactic.FinCases
import Mathlib.Tactic.IntervalCases

/-!
# SwapDesk — what becomes of a transfer to the NEAR contract

`ft_on_transfer` once more, with the panics that its steps could end in: an index out of bounds
is the only one, and `runFtOnTransfer` meets none. What the message has to say is told in terms
of the texts themselves, not of the contract's own checks on their bytes: the message is a JSON
text of an object of the four fields, or of an array of their values, which a derived struct is
read from as well (`ftOnTransfer_takes_array`).

Main result: `ftOnTransfer_total_atomic`.
-/

namespace SwapDesk.Near

open Check

-- ---------------------------------------------------------------------------
-- Texts
-- ---------------------------------------------------------------------------

/-- 64 lower-case hexadecimal digits. -/
def HashHex (s : String) : Prop := s.toList.length = 64 ∧ ∀ c ∈ s.toList, c ∈ HEX

/-- The bytes of a text are its UTF-8 encoding. -/
theorem utf8Bytes_eq (s : String) : utf8Bytes s = Utf8.encode s.toList := rfl

/-- The hexadecimal digits by their code points. -/
theorem mem_HEX {c : Char} :
    c ∈ HEX ↔ (48 ≤ c.toNat ∧ c.toNat ≤ 57) ∨ (97 ≤ c.toNat ∧ c.toNat ≤ 102) := by
  constructor
  · intro h
    fin_cases h <;> decide
  · intro h
    have hChar : Char.ofNat c.toNat ∈ HEX := by
      generalize c.toNat = n at h
      rcases h with ⟨hLow, hHigh⟩ | ⟨hLow, hHigh⟩
      · interval_cases n <;> decide
      · interval_cases n <;> decide
    rwa [Char.ofNat_toNat c] at hChar

/-- The check of a hash decides its shape. -/
theorem isValidHashHex_iff {s : String} : isValidHashHex s = true ↔ HashHex s := by
  -- the check of the bytes is one of the characters
  have hAll : ((utf8Bytes s).all fun b => (48 ≤ b && b ≤ 57) || (97 ≤ b && b ≤ 102)) =
      s.toList.all fun c => decide (c ∈ HEX) := by
    rw [utf8Bytes_eq]
    have hBytes := Utf8.all_encode
      (p := fun n => (decide (48 ≤ n) && decide (n ≤ 57)) || (decide (97 ≤ n) && decide (n ≤ 102)))
      (by simp; omega) s.toList
    have hChars : (fun c : Char => (decide (48 ≤ c.toNat) && decide (c.toNat ≤ 57)) ||
        (decide (97 ≤ c.toNat) && decide (c.toNat ≤ 102))) = fun c => decide (c ∈ HEX) := by
      funext c
      simp [mem_HEX]
    rw [hChars] at hBytes
    exact hBytes
  unfold isValidHashHex HashHex
  rw [hAll, Bool.and_eq_true, beq_iff_eq, List.all_eq_true]
  simp only [decide_eq_true_eq]
  refine and_congr_left fun hHex => ?_
  -- a digit is one byte
  have hAscii : ∀ c ∈ s.toList, c.toNat < 128 := fun c hc => by
    have := mem_HEX.mp (hHex c hc)
    omega
  rw [utf8Bytes_eq, Utf8.encode_of_ascii hAscii, List.length_map]
  rfl

/-- Reading a decimal text byte by byte evaluates its digits. -/
theorem foldl_utf8Bytes {text : List Char} (h : ∀ c ∈ text, c.toNat < 128) (init : Nat) :
    (text.map fun c => UInt8.ofNat c.toNat).foldl (fun n b => 10 * n + (b.toNat - 48)) init =
      Nat.ofDigitChars 10 text init := by
  induction text generalizing init with
  | nil => rfl
  | cons c text ih =>
    have hLt := h c List.mem_cons_self
    rw [List.map_cons, List.foldl_cons, ih (fun d hd => h d (List.mem_cons_of_mem c hd)),
      Nat.ofDigitChars_cons, UInt8.toNat_ofNat_of_lt' (hLt.trans (by decide))]
    rfl

/-- A text is digits when its bytes are. -/
theorem all_digits_utf8Bytes (s : String) :
    ((utf8Bytes s).all fun b => 48 ≤ b && b ≤ 57) = s.toList.all fun c => c.isDigit := by
  have hBytes := Utf8.all_encode (p := fun n => decide (48 ≤ n) && decide (n ≤ 57))
    (by simp; omega) s.toList
  have hChars : (fun c : Char => decide (48 ≤ c.toNat) && decide (c.toNat ≤ 57)) =
      fun c => c.isDigit := by
    funext c
    rw [Bool.eq_iff_iff, Char.isDigit_iff_toNat]
    simp
  rw [hChars] at hBytes
  rw [utf8Bytes_eq]
  exact hBytes

/-- A text of digits, character by character. -/
theorem parseU64Strict_of_digits {s : String} (h : ∀ c ∈ s.toList, c.isDigit = true) :
    parseU64Strict s =
      if s.toList = [] ∨ (s.toList.head? = some '0' ∧ 1 < s.toList.length) then none
      else if Nat.ofDigitChars 10 s.toList 0 < 2 ^ 64 then some (Nat.ofDigitChars 10 s.toList 0)
      else none := by
  -- digits are ASCII, so the bytes are the characters
  have hAscii : ∀ c ∈ s.toList, c.toNat < 128 := fun c hc => by
    have hc := Char.isDigit_iff_toNat.mp (h c hc)
    have hNine : '9'.toNat = 57 := rfl
    omega
  have hAll : s.toList.all (fun c => c.isDigit) = true := List.all_eq_true.mpr h
  -- value, length and first byte are those of the text
  have hValue : (utf8Bytes s).foldl (fun n b => 10 * n + (b.toNat - 48)) 0 =
      Nat.ofDigitChars 10 s.toList 0 := by
    rw [utf8Bytes_eq, Utf8.encode_of_ascii hAscii, foldl_utf8Bytes hAscii]
  have hLength : (utf8Bytes s).length = s.toList.length := by
    rw [utf8Bytes_eq, Utf8.encode_of_ascii hAscii, List.length_map]
  have hHead : ((utf8Bytes s).head? == some 48) = decide (s.toList.head? = some '0') := by
    rw [utf8Bytes_eq, Utf8.encode_of_ascii hAscii]
    cases hList : s.toList with
    | nil => rfl
    | cons c rest =>
      have hLt := hAscii c (hList ▸ List.mem_cons_self)
      rw [List.map_cons, List.head?_cons, List.head?_cons, Bool.eq_iff_iff, beq_iff_eq,
        decide_eq_true_eq, Option.some.injEq, Option.some.injEq]
      constructor
      · intro hEq
        have hNat := congrArg UInt8.toNat hEq
        rw [UInt8.toNat_ofNat_of_lt' (hLt.trans (by decide))] at hNat
        exact Char.toNat_inj.mp hNat
      · rintro rfl
        rfl
  have hEmpty : (utf8Bytes s).isEmpty = decide (s.toList = []) := by
    rw [Bool.eq_iff_iff, List.isEmpty_iff_length_eq_zero, hLength, decide_eq_true_eq,
      List.length_eq_zero_iff]
  unfold parseU64Strict
  dsimp only
  rw [all_digits_utf8Bytes, hAll, hValue, hLength, hHead, hEmpty]
  -- empty, with a leading zero, or a number
  by_cases hNil : s.toList = []
  · simp [hNil]
  · by_cases hZero : s.toList.head? = some '0' ∧ 1 < s.toList.length
    · simp [hNil, hZero]
    · simp only [hNil, hZero, decide_false, Bool.false_eq_true, Bool.not_true, false_or,
        ↓reduceIte]
      rw [if_neg]
      simpa using hZero

/-- The canonical decimal text of a number of 64 bits, and no other. -/
theorem parseU64Strict_eq_some {s : String} {n : Nat} :
    parseU64Strict s = some n ↔ n < 2 ^ 64 ∧ s = toString n := by
  have hText : s = toString n ↔ s.toList = Nat.toDigits 10 n := by
    rw [← String.toList_inj, Nat.toString_eq_repr, Nat.toList_repr]
  rw [hText, ← Decimal.canonical_iff]
  -- digits: the text is the number's own when it is canonical
  by_cases hDigits : ∀ c ∈ s.toList, c.isDigit = true
  · rw [parseU64Strict_of_digits hDigits]
    unfold Decimal.Canonical
    split
    · rename_i hBad
      constructor
      · nofun
      · rintro ⟨-, ⟨hne, -, hZero⟩, -⟩
        exact absurd hBad (not_or.mpr ⟨hne, hZero⟩)
    · rename_i hGood
      obtain ⟨hne, hZero⟩ := not_or.mp hGood
      split
      · rename_i hLt
        rw [Option.some.injEq]
        exact ⟨fun h => ⟨h ▸ hLt, ⟨hne, hDigits, hZero⟩, h⟩, fun h => h.2.2⟩
      · rename_i hGe
        exact ⟨nofun, fun h => absurd (h.2.2 ▸ h.1) hGe⟩
  -- anything else is no number, and no number prints as it
  · have hAll : ((utf8Bytes s).all fun b => 48 ≤ b && b ≤ 57) = false := by
      rw [all_digits_utf8Bytes, Bool.eq_false_iff]
      exact fun h => hDigits (List.all_eq_true.mp h)
    constructor
    · intro h
      unfold parseU64Strict at h
      dsimp only at h
      rw [hAll] at h
      split at h <;> cases h
    · rintro ⟨-, ⟨-, h, -⟩, -⟩
      exact absurd h hDigits

-- ---------------------------------------------------------------------------
-- Messages
-- ---------------------------------------------------------------------------

/-- The four fields, in their order. -/
def LockMsg.fields (parsed : LockMsg) : List (String × Json) :=
  [("hash_lock", .str parsed.hashLock), ("payee", .str parsed.payee),
    ("claim_by_ms", .str parsed.claimByMs), ("refund_after_ms", .str parsed.refundAfterMs)]

/-- The text is a JSON object of the four fields and no others, in any order. -/
def LockMsg.InObject (parsed : LockMsg) (msg : String) : Prop :=
  ∃ fields, JsonSyntax.Says msg.toList (.obj fields) ∧ fields.Perm parsed.fields

/-- The text is a JSON array of the values of the four fields, in their order. -/
def LockMsg.InArray (parsed : LockMsg) (msg : String) : Prop :=
  JsonSyntax.Says msg.toList (.arr (parsed.fields.map Prod.snd))

/-- `serde_json` reads this text as the flat value that it is a JSON text of, and as no other. -/
def Host.ReadsFlat (host : Host) (msg : String) : Prop :=
  ∀ v, JsonSyntax.IsFlat v → (host.parseJson msg = some v ↔ JsonSyntax.Says msg.toList v)

/-- What the derived reading makes of an object. -/
theorem LockMsg.ofJson_obj {fields : List (String × Json)} {parsed : LockMsg} :
    LockMsg.ofJson (.obj fields) = some parsed ↔ fields.Perm parsed.fields := by
  have hDistinct : (parsed.fields.map Prod.fst).Nodup := by
    show FIELDS.Nodup
    decide
  simp only [ofJson, Option.bind_eq_bind, Option.bind_eq_some_iff, Option.guard_eq_some',
    exists_const, Json.text?_eq_some, Json.field?, Option.pure_def, Option.some.injEq]
  constructor
  · rintro ⟨⟨hNodup, hKeys⟩, hashLock, hHashLock, payee, hPayee, claimByMs, hClaimBy,
      refundAfterMs, hRefundAfter, rfl⟩
    have hSubset : LockMsg.fields ⟨hashLock, payee, claimByMs, refundAfterMs⟩ ⊆ fields := by
      simp only [LockMsg.fields, List.cons_subset, List.nil_subset, and_true]
      exact ⟨Entries.mem_of_lookup hHashLock, Entries.mem_of_lookup hPayee, Entries.mem_of_lookup hClaimBy,
        Entries.mem_of_lookup hRefundAfter⟩
    -- the names are four of the four, so there is nothing else
    have hLength : fields.length ≤ 4 := by
      have hSubperm : (fields.map Prod.fst).Subperm FIELDS := List.subperm_of_subset hNodup hKeys
      simpa [FIELDS] using hSubperm.length_le
    exact ((List.subperm_of_subset (.of_map _ hDistinct) hSubset).perm_of_length_le hLength).symm
  · intro hPerm
    have hKeys : (fields.map Prod.fst).Perm FIELDS := hPerm.map Prod.fst
    have hNodup : (fields.map Prod.fst).Nodup := hKeys.nodup_iff.mpr hDistinct
    have hField : ∀ {name text : String}, (name, Json.str text) ∈ parsed.fields →
        fields.lookup name = some (.str text) := fun hMem =>
      (Entries.lookup_iff_mem hNodup).mpr (hPerm.mem_iff.mpr hMem)
    exact ⟨⟨hNodup, fun key hKey => hKeys.mem_iff.mp hKey⟩, _, hField (.head _), _,
      hField (.tail _ (.head _)), _, hField (.tail _ (.tail _ (.head _))), _,
      hField (.tail _ (.tail _ (.tail _ (.head _)))), rfl⟩

/-- An array is read as a message when it holds the four fields in order. -/
theorem LockMsg.ofJson_arr {items : List Json} {parsed : LockMsg} :
    LockMsg.ofJson (.arr items) = some parsed ↔ items = parsed.fields.map Prod.snd := by
  constructor
  · intro h
    unfold ofJson at h
    split at h
    · obtain rfl := Option.some.inj h
      rename_i hItems
      exact Json.arr.inj hItems
    · rename_i hItems
      cases hItems
    · cases h
  · rintro rfl
    rfl

/-- Whatever is read as a message is flat. -/
theorem LockMsg.isFlat_of_ofJson {v : Json} {parsed : LockMsg}
    (h : LockMsg.ofJson v = some parsed) : JsonSyntax.IsFlat v := by
  cases v with
  | arr items =>
    obtain rfl := ofJson_arr.mp h
    intro item hItem
    simp only [LockMsg.fields, List.map_cons, List.map_nil, List.mem_cons, List.not_mem_nil,
      or_false] at hItem
    rcases hItem with rfl | rfl | rfl | rfl <;> exact ⟨_, rfl⟩
  | obj fields =>
    intro field hField
    have hMem := (ofJson_obj.mp h).mem_iff.mp hField
    simp only [LockMsg.fields, List.mem_cons, List.not_mem_nil, or_false] at hMem
    rcases hMem with rfl | rfl | rfl | rfl <;> exact ⟨_, rfl⟩
  | _ => cases h

/-- What the contract makes of a message, in terms of the text. -/
theorem Host.parseLockMsg_eq_some {host : Host} {msg : String} {parsed : LockMsg}
    (h : host.ReadsFlat msg) :
    host.parseLockMsg msg = some parsed ↔ parsed.InObject msg ∨ parsed.InArray msg := by
  unfold parseLockMsg
  rw [Option.bind_eq_some_iff]
  constructor
  · rintro ⟨v, hRead, hParsed⟩
    have hSays := (h v (LockMsg.isFlat_of_ofJson hParsed)).mp hRead
    cases v with
    | arr items =>
      obtain rfl := LockMsg.ofJson_arr.mp hParsed
      exact .inr hSays
    | obj fields => exact .inl ⟨fields, hSays, LockMsg.ofJson_obj.mp hParsed⟩
    | _ => cases hParsed
  · rintro (⟨fields, hSays, hPerm⟩ | hSays)
    · have hParsed := LockMsg.ofJson_obj.mpr hPerm
      exact ⟨_, (h _ (LockMsg.isFlat_of_ofJson hParsed)).mpr hSays, hParsed⟩
    · have hParsed := LockMsg.ofJson_arr.mpr (rfl : parsed.fields.map Prod.snd = _)
      exact ⟨_, (h _ (LockMsg.isFlat_of_ofJson hParsed)).mpr hSays, hParsed⟩

-- ---------------------------------------------------------------------------
-- Panics
-- ---------------------------------------------------------------------------

/-- `bytes[i]` -/
def indexByte (bytes : List UInt8) (i : Nat) : Except String UInt8 :=
  need bytes[i]? "index out of bounds"

/-- `parse_u64_strict`; an error is a panic. -/
def runParseU64Strict (s : String) : Except String (Option Nat) := do
  let bytes := utf8Bytes s
  if bytes.isEmpty then return none
  if !bytes.all (fun b => 48 ≤ b && b ≤ 57) then return none
  let first ← indexByte bytes 0
  if first == 48 && 1 < bytes.length then return none
  let value := bytes.foldl (fun n b => 10 * n + (b.toNat - 48)) 0
  -- `parse` reports a number that does not fit
  return if value < 2 ^ 64 then some value else none

/-- The first byte is looked at only where there is one. -/
theorem runParseU64Strict_eq (s : String) : runParseU64Strict s = .ok (parseU64Strict s) := by
  unfold runParseU64Strict parseU64Strict indexByte
  cases hBytes : utf8Bytes s with
  | nil => rfl
  | cons b rest =>
    simp only [List.isEmpty_cons, Bool.false_eq_true, ↓reduceIte, List.getElem?_cons_zero, need,
      List.head?_cons]
    split
    · rfl
    · by_cases hZero : (b == 48 && decide (1 < (b :: rest).length)) = true
      · have hSome : (some b == some 48 && decide (1 < (b :: rest).length)) = true := hZero
        simp only [bind, Except.bind, hZero, hSome]
        rfl
      · have hSome : ¬ (some b == some 48 && decide (1 < (b :: rest).length)) = true := hZero
        simp only [bind, Except.bind, hZero, hSome]
        rfl

/-- `ft_on_transfer`; an error is a panic. -/
def Contract.runFtOnTransfer (host : Host) (ctx : Ctx) (self : Contract) (senderId : AccountId)
    (amount : Nat) (msg : String) : Except String (Contract × Option LogEvent × Nat) := do
  let refuseAll := (self, none, amount)
  if amount = 0 then return refuseAll
  if ctx.predecessorAccountId ≠ self.usdcToken then return refuseAll
  let some parsed := host.parseLockMsg msg | return refuseAll
  if !isValidHashHex parsed.hashLock then return refuseAll
  let some payee := host.parseAccountId parsed.payee | return refuseAll
  if payee = host.currentAccountId ∨ payee = self.usdcToken then return refuseAll
  let some claimByMs ← runParseU64Strict parsed.claimByMs | return refuseAll
  let some refundAfterMs ← runParseU64Strict parsed.refundAfterMs | return refuseAll
  if refundAfterMs ≤ claimByMs then return refuseAll
  if refundAfterMs ≤ ctx.blockTimestampMs then return refuseAll
  let key := lockKey senderId parsed.hashLock
  if (self.locks key).isSome then return refuseAll
  let lock : Lock :=
    { payer := senderId, payee := payee, token := ctx.predecessorAccountId, amount := amount
      claimByMs := claimByMs, refundAfterMs := refundAfterMs, status := .locked
      preimage := .zero, revealed := false }
  let inserted := self.insert key lock
  -- both operations saturate
  let required := saturate128
    (saturate128 (host.storageByteCost * ctx.storageUsage) + storageReserve)
  if ctx.accountBalance < required then return (inserted.remove key, none, amount)
  return (inserted, some (logEvent "locked" parsed.hashLock lock), 0)

/-- A computation that is checked away on one branch. -/
theorem ok_ite {α : Type} {c : Prop} [Decidable c] {a b : α} {x : Except String α}
    (h : x = .ok b) : (if c then .ok a else x) = .ok (if c then a else b) := by
  split
  · rfl
  · exact h

/-- A transfer runs as the contract's receiver, or refunds all of it. -/
theorem runFtOnTransfer_eq (host : Host) (ctx : Ctx) (self : Contract) (senderId : AccountId)
    (amount : Nat) (msg : String) :
    self.runFtOnTransfer host ctx senderId amount msg =
      .ok (self.ftOnTransfer host ctx senderId amount msg) := by
  unfold Contract.runFtOnTransfer Contract.ftOnTransfer
  simp only [runParseU64Strict_eq, bind, Except.bind, pure, Except.pure]
  refine ok_ite (ok_ite ?_)
  rcases host.parseLockMsg msg with _ | parsed
  · rfl
  refine ok_ite ?_
  rcases host.parseAccountId parsed.payee with _ | payee
  · rfl
  refine ok_ite ?_
  rcases parseU64Strict parsed.claimByMs with _ | claimByMs
  · rfl
  dsimp only
  rcases parseU64Strict parsed.refundAfterMs with _ | refundAfterMs
  · rfl
  exact ok_ite (ok_ite (ok_ite (ok_ite rfl)))

-- ---------------------------------------------------------------------------
-- Acceptance
-- ---------------------------------------------------------------------------

/-- Every check that a transfer has to pass, with what its message says. -/
structure Accepts (host : Host) (ctx : Ctx) (contract : Contract) (senderId : AccountId)
    (msg : String) (parsed : LockMsg) (payee : AccountId) (claimByMs refundAfterMs : Nat) :
    Prop where
  token : ctx.predecessorAccountId = contract.usdcToken
  message : parsed.InObject msg ∨ parsed.InArray msg
  hashLock : HashHex parsed.hashLock
  payeeId : host.parseAccountId parsed.payee = some payee
  notSelf : payee ≠ host.currentAccountId
  notToken : payee ≠ contract.usdcToken
  claimBy : claimByMs < 2 ^ 64 ∧ parsed.claimByMs = toString claimByMs
  refundAfter : refundAfterMs < 2 ^ 64 ∧ parsed.refundAfterMs = toString refundAfterMs
  order : claimByMs < refundAfterMs
  inTime : ctx.blockTimestampMs < refundAfterMs
  free : contract.locks (lockKey senderId parsed.hashLock) = none
  covered : saturate128 (saturate128 (host.storageByteCost * ctx.storageUsage) + storageReserve) ≤
    ctx.accountBalance

/-- The lock that an accepted transfer leaves. -/
def openedLock (ctx : Ctx) (senderId payee : AccountId) (amount claimByMs refundAfterMs : Nat) :
    Lock :=
  { payer := senderId, payee := payee, token := ctx.predecessorAccountId, amount := amount
    claimByMs := claimByMs, refundAfterMs := refundAfterMs, status := .locked
    preimage := .zero, revealed := false }

section

variable {host : Host} {ctx : Ctx} {self : Contract} {senderId : AccountId} {amount : Nat}
  {msg : String}

/-- A transfer that is acceptable is locked. -/
theorem ftOnTransfer_of_accepts {parsed : LockMsg} {payee : AccountId}
    {claimByMs refundAfterMs : Nat} (hReads : host.ReadsFlat msg) (hAmount : 0 < amount)
    (h : Accepts host ctx self senderId msg parsed payee claimByMs refundAfterMs) :
    self.ftOnTransfer host ctx senderId amount msg =
      (self.insert (lockKey senderId parsed.hashLock)
          (openedLock ctx senderId payee amount claimByMs refundAfterMs),
        some (logEvent "locked" parsed.hashLock
          (openedLock ctx senderId payee amount claimByMs refundAfterMs)), 0) := by
  have hParsed := (Host.parseLockMsg_eq_some hReads).mpr h.message
  have hHash := isValidHashHex_iff.mpr h.hashLock
  have hClaimBy := parseU64Strict_eq_some.mpr h.claimBy
  have hRefundAfter := parseU64Strict_eq_some.mpr h.refundAfter
  have hPayee : ¬ (payee = host.currentAccountId ∨ payee = self.usdcToken) :=
    not_or.mpr ⟨h.notSelf, h.notToken⟩
  unfold Contract.ftOnTransfer
  simp only [hAmount.ne', ne_eq, h.token, not_true_eq_false, hParsed, hHash, h.payeeId, hPayee,
    hClaimBy, hRefundAfter, not_le.mpr h.order, not_le.mpr h.inTime, h.free, Option.isSome_none,
    not_lt.mpr h.covered, Bool.not_true, Bool.false_eq_true, ↓reduceIte]
  rw [openedLock, h.token]

/-- What is not given back was accepted. -/
theorem accepts_of_kept (hReads : host.ReadsFlat msg) (hAmount : 0 < amount)
    (h : (self.ftOnTransfer host ctx senderId amount msg).2.2 = 0) :
    ∃ parsed payee claimByMs refundAfterMs,
      Accepts host ctx self senderId msg parsed payee claimByMs refundAfterMs := by
  -- each refusal of the contract gives the whole amount back
  unfold Contract.ftOnTransfer at h
  dsimp only at h
  split at h
  · exact absurd ‹amount = 0› hAmount.ne'
  split at h
  · exact absurd h hAmount.ne'
  rename_i hToken
  split at h
  · exact absurd h hAmount.ne'
  rename_i parsed hParsed
  split at h
  · exact absurd h hAmount.ne'
  rename_i hHash
  split at h
  · exact absurd h hAmount.ne'
  rename_i payee hPayee
  split at h
  · exact absurd h hAmount.ne'
  rename_i hOther
  split at h
  · exact absurd h hAmount.ne'
  rename_i claimByMs hClaimBy
  split at h
  · exact absurd h hAmount.ne'
  rename_i refundAfterMs hRefundAfter
  split at h
  · exact absurd h hAmount.ne'
  rename_i hOrder
  split at h
  · exact absurd h hAmount.ne'
  rename_i hInTime
  split at h
  · exact absurd h hAmount.ne'
  rename_i hFree
  split at h
  · exact absurd h hAmount.ne'
  rename_i hCovered
  -- past them, every condition of `Accepts` was checked
  obtain ⟨hNotSelf, hNotToken⟩ := not_or.mp hOther
  exact ⟨parsed, payee, claimByMs, refundAfterMs,
    { token := not_not.mp hToken
      message := (Host.parseLockMsg_eq_some hReads).mp hParsed
      hashLock := isValidHashHex_iff.mp (by simpa using hHash)
      payeeId := hPayee
      notSelf := hNotSelf
      notToken := hNotToken
      claimBy := parseU64Strict_eq_some.mp hClaimBy
      refundAfter := parseU64Strict_eq_some.mp hRefundAfter
      order := not_le.mp hOrder
      inTime := not_le.mp hInTime
      free := by simpa using hFree
      covered := not_lt.mp hCovered }⟩

end

/-- A transfer never panics, and nothing or all of it is given back. It is kept exactly when every
check holds, and then opens the one lock it asks for; else the locks are as they were. -/
theorem ftOnTransfer_total_atomic (host : Host) (ctx : Ctx) (self : Contract)
    (senderId : AccountId) (amount : Nat) (msg : String) (hReads : host.ReadsFlat msg) :
    ∃ self' event returned,
      self.runFtOnTransfer host ctx senderId amount msg = .ok (self', event, returned) ∧
      (returned = 0 ∨ returned = amount) ∧
      (0 < amount → (returned = 0 ↔ ∃ parsed payee claimByMs refundAfterMs,
        Accepts host ctx self senderId msg parsed payee claimByMs refundAfterMs)) ∧
      (∀ parsed payee claimByMs refundAfterMs, 0 < amount →
        Accepts host ctx self senderId msg parsed payee claimByMs refundAfterMs →
        self'.usdcToken = self.usdcToken ∧
        self'.locks = Function.update self.locks (lockKey senderId parsed.hashLock)
          (some { payer := senderId, payee := payee, token := self.usdcToken, amount := amount
                  claimByMs := claimByMs, refundAfterMs := refundAfterMs, status := .locked
                  preimage := .zero, revealed := false })) ∧
      ((amount = 0 ∨ ¬ ∃ parsed payee claimByMs refundAfterMs,
        Accepts host ctx self senderId msg parsed payee claimByMs refundAfterMs) →
        self' = self) := by
  have hRun := runFtOnTransfer_eq host ctx self senderId amount msg
  -- the call does not panic: it keeps the amount or gives it back
  rcases hOutcome : self.ftOnTransfer host ctx senderId amount msg with ⟨self', event, returned⟩
  rw [hOutcome] at hRun
  have hSpec := ftOnTransfer_spec host ctx self senderId amount msg
  rw [hOutcome] at hSpec
  refine ⟨self', event, returned, hRun, ?_, ?_, ?_, ?_⟩
  · rcases hSpec with hEq | ⟨_, _, -, -, -, -, -, -, -, -, -, hEq⟩
    · exact .inr (congrArg (·.2.2) hEq)
    · exact .inl (congrArg (·.2.2) hEq)
  · intro hAmount
    constructor
    · intro hZero
      exact accepts_of_kept hReads hAmount (by rw [hOutcome]; exact hZero)
    · rintro ⟨parsed, payee, claimByMs, refundAfterMs, h⟩
      rw [ftOnTransfer_of_accepts hReads hAmount h] at hOutcome
      exact (congrArg (·.2.2) hOutcome).symm
  -- accepted: the one row is written
  · intro parsed payee claimByMs refundAfterMs hAmount h
    rw [ftOnTransfer_of_accepts hReads hAmount h, openedLock, h.token] at hOutcome
    obtain rfl := congrArg (·.1) hOutcome
    exact ⟨rfl, rfl⟩
  -- refused: nothing is written
  · intro hRefused
    rcases hSpec with hEq | ⟨parsed, lock, -, -, -, -, -, -, -, -, -, hEq⟩
    · exact congrArg (·.1) hEq
    · -- nothing was given back: there was nothing to give, or it was accepted
      have hZero : (self.ftOnTransfer host ctx senderId amount msg).2.2 = 0 := by
        rw [hOutcome]
        exact congrArg (·.2.2) hEq
      rcases Nat.eq_zero_or_pos amount with hAmount | hAmount
      · have hSelf : self.ftOnTransfer host ctx senderId amount msg = (self, none, amount) := by
          simp [Contract.ftOnTransfer, hAmount]
        rw [hOutcome] at hSelf
        exact congrArg (·.1) hSelf
      · exact absurd (accepts_of_kept hReads hAmount hZero) (hRefused.resolve_left hAmount.ne')

/-! ### A message in two forms -/

namespace TransferSample

open JsonSyntax

/-- A text that needs no escape. -/
def text (s : String) (h : s.toList.all isPlain = true := by decide) : StringText :=
  plainText s.toList (List.all_eq_true.mp h)

/-- A plain text says itself. -/
theorem text_says {s : String} (h : s.toList.all isPlain = true) :
    (text s h).says? = some s := by
  rw [text, says?_plainText, String.ofList_toList]

def noSpace : Ws := ⟨[], rfl⟩

def space : Ws := ⟨[' '], rfl⟩

def hashLock : StringText := text Sample.hashLock

/-- The fields in another order, with white space. -/
def objectValue : Value :=
  .object (.more space (text "payee") noSpace space (.string (text "bob.testnet")) noSpace
    (.more space (text "hash_lock") noSpace space (.string hashLock) noSpace
      (.more space (text "refund_after_ms") noSpace space (.string (text "2000")) noSpace
        (.one space (text "claim_by_ms") noSpace space (.string (text "1000")) space))))

def arrayValue : Value :=
  .array (.more noSpace (.string hashLock) noSpace
    (.more noSpace (.string (text "bob.testnet")) noSpace
      (.more noSpace (.string (text "1000")) noSpace
        (.one noSpace (.string (text "2000")) noSpace))))

def parsed : LockMsg := ⟨Sample.hashLock, "bob.testnet", "1000", "2000"⟩

def objectJson : Json :=
  .obj [("payee", .str "bob.testnet"), ("hash_lock", .str Sample.hashLock),
    ("refund_after_ms", .str "2000"), ("claim_by_ms", .str "1000")]

def arrayJson : Json := .arr (parsed.fields.map Prod.snd)

def objectMsg : String := String.ofList objectValue.print

def arrayMsg : String := String.ofList arrayValue.print

example : arrayMsg =
    "[\"66687aadf862bd776c8fc18b8e9f8e20089714856ee233b3902a591d0d5f2925\"," ++
      "\"bob.testnet\",\"1000\",\"2000\"]" := by decide

/-- The libraries at one message. -/
def host (msg : String) (v : Json) : Host :=
  { Sample.host with parseJson := fun text => if text = msg then some v else none }

/-- The sample's host reads flat texts as they are written. -/
theorem readsFlat {msg : String} {v : Json} (h : Says msg.toList v) :
    (host msg v).ReadsFlat msg := by
  intro u _
  have hRead : (host msg v).parseJson msg = some v := if_pos rfl
  rw [hRead, Option.some.injEq]
  exact ⟨fun hEq => hEq ▸ h, h.unique⟩

/-- The sample's object is said by its text. -/
theorem objectMsg_says : Says objectMsg.toList objectJson := by
  refine ⟨noSpace, objectValue, noSpace, ?_, ?_⟩
  · simp [objectMsg, Line.print, noSpace]
  · simp [objectValue, Value.flat?, Members.entries, field?, Value.text?, hashLock, text_says,
      objectJson]

/-- The sample's array is said by its text. -/
theorem arrayMsg_says : Says arrayMsg.toList arrayJson := by
  refine ⟨noSpace, arrayValue, noSpace, ?_, ?_⟩
  · simp [arrayMsg, Line.print, noSpace]
  · simp [arrayValue, Value.flat?, Items.values, Value.text?, hashLock, text_says, arrayJson,
      LockMsg.fields, parsed]

def ctx : Ctx := ⟨Sample.usdc, 11, 100, 10 ^ 24⟩

/-- Everything that is asked of a transfer but its message. -/
theorem accepts {msg : String} {v : Json} (h : parsed.InObject msg ∨ parsed.InArray msg) :
    Accepts (host msg v) ctx (.new Sample.usdc) Sample.alice msg parsed Sample.bob 1000 2000 where
  token := rfl
  message := h
  hashLock := isValidHashHex_iff.mp (by decide)
  payeeId := show Sample.host.parseAccountId "bob.testnet" = some Sample.bob by decide
  notSelf := show Sample.bob ≠ Sample.htlc by decide
  notToken := show Sample.bob ≠ Sample.usdc by decide
  claimBy := ⟨by decide, rfl⟩
  refundAfter := ⟨by decide, rfl⟩
  order := by decide
  inTime := by decide
  free := rfl
  covered := show saturate128 (saturate128 (10 ^ 19 * 100) + storageReserve) ≤ 10 ^ 24 by decide

/-- The sample's message is written as an object. -/
theorem objectMsg_inObject : parsed.InObject objectMsg :=
  ⟨_, objectMsg_says, LockMsg.ofJson_obj.mp rfl⟩

end TransferSample

theorem ftOnTransfer_total_atomic_sample : ∃ self' event,
    Contract.runFtOnTransfer
        (TransferSample.host TransferSample.objectMsg TransferSample.objectJson)
        TransferSample.ctx (.new Sample.usdc) Sample.alice 5 TransferSample.objectMsg =
      .ok (self', event, 0) ∧
    (self'.locks (lockKey Sample.alice Sample.hashLock)).map Lock.amount = some 5 := by
  obtain ⟨self', event, returned, hRun, -, hKept, hLocks, -⟩ := ftOnTransfer_total_atomic
    (TransferSample.host TransferSample.objectMsg TransferSample.objectJson) TransferSample.ctx
    (.new Sample.usdc) Sample.alice 5 TransferSample.objectMsg
    (TransferSample.readsFlat TransferSample.objectMsg_says)
  have hAccepts : Accepts (TransferSample.host TransferSample.objectMsg TransferSample.objectJson)
      TransferSample.ctx (.new Sample.usdc) Sample.alice TransferSample.objectMsg
      TransferSample.parsed Sample.bob 1000 2000 :=
    TransferSample.accepts (.inl TransferSample.objectMsg_inObject)
  obtain rfl := (hKept (by decide)).mpr ⟨_, _, _, _, hAccepts⟩
  refine ⟨self', event, hRun, ?_⟩
  have hLock := (hLocks _ _ _ _ (by decide) hAccepts).2
  rw [hLock]
  simp [TransferSample.parsed]

/-- A message need not be an object: an array of the four values is taken as well. -/
theorem ftOnTransfer_takes_array : ¬ ∀ (host : Host) (ctx : Ctx) (self : Contract)
    (senderId : AccountId) (amount : Nat) (msg : String), host.ReadsFlat msg → 0 < amount →
      ((self.ftOnTransfer host ctx senderId amount msg).2.2 = 0 ↔
        ∃ parsed payee claimByMs refundAfterMs,
          Accepts host ctx self senderId msg parsed payee claimByMs refundAfterMs ∧
            parsed.InObject msg) := by
  intro h
  have hReads := TransferSample.readsFlat TransferSample.arrayMsg_says
  have hKept := ftOnTransfer_of_accepts hReads (by decide : 0 < 5)
    (TransferSample.accepts (.inr TransferSample.arrayMsg_says))
  obtain ⟨parsed, payee, claimByMs, refundAfterMs, -, fields, hObject, -⟩ :=
    (h _ _ _ _ 5 _ hReads (by decide)).mp (congrArg (·.2.2) hKept)
  cases hObject.unique TransferSample.arrayMsg_says

end SwapDesk.Near
