import SwapDesk.Rails.SolMessage

/-!
# SwapDesk — the Solana transaction codec

`decodeShortvec`, `readMessage`, `decodeTransaction`, `encodeTransaction` and `signTransaction` of
`src/rails/sol-tx.ts`.

Main result: `codec_faithful`. What was compiled and signed is decoded as it was, and what is
decoded was written in the one way there is.
-/

namespace SwapDesk.Rails.SolTx

open Check Grammar Sol

/-! ## Shortvec -/

/-- The loop of `decodeShortvec`, with the number of rounds left. -/
def shortvecRounds : Nat → Nat → Nat → Reader String Nat
  | 0, _, _ => throw "sol-tx: shortvec is longer than 3 bytes"
  | rounds + 1, i, value => do
    let byte ← byte "sol-tx: shortvec runs past the end of the buffer"
    let group := byte.toNat % 128
    check (¬ (i = 2 ∧ 128 ≤ byte.toNat)) "sol-tx: shortvec is longer than 3 bytes"
    let value := value + group * 128 ^ i
    check (value ≤ 0xffff) "sol-tx: shortvec value exceeds 65535"
    if byte.toNat < 128 then
      check (¬ (0 < i ∧ group = 0)) "sol-tx: shortvec is not canonical (aliased length)"
      return value
    else shortvecRounds rounds (i + 1) value

/-- `decodeShortvec`, at what is left of the bytes. -/
def shortvec : Reader String Nat := shortvecRounds 3 0 0

/-- The first of the groups: it is the last one, or more follow. -/
theorem cons_eq_shortvecGroups {n : Nat} {b : UInt8} {w : List UInt8} :
    b :: w = shortvecGroups n ↔ (b.toNat < 128 ∧ n = b.toNat ∧ w = []) ∨
      (128 ≤ b.toNat ∧ ∃ more, more ≠ 0 ∧ n = b.toNat % 128 + 128 * more ∧
        w = shortvecGroups more) := by
  have hLt := b.toNat_lt
  rw [shortvecGroups]
  split
  -- the last group: no more is to come
  · rename_i hDiv
    rw [List.cons.injEq, ← UInt8.toNat_inj, UInt8.toNat_ofNat_of_lt' (show n % 128 < 256 by omega)]
    constructor
    · rintro ⟨hByte, rfl⟩
      exact .inl ⟨by omega, by omega, rfl⟩
    · rintro (⟨-, rfl, rfl⟩ | ⟨-, more, hMore, rfl, -⟩)
      · exact ⟨by omega, rfl⟩
      · omega
  -- a group with more to come has its high bit set
  · rename_i hDiv
    rw [List.cons.injEq, ← UInt8.toNat_inj,
      UInt8.toNat_ofNat_of_lt' (show n % 128 + 128 < 256 by omega)]
    constructor
    · rintro ⟨hByte, rfl⟩
      exact .inr ⟨by omega, n / 128, hDiv, by omega, rfl⟩
    · rintro (⟨hLast, rfl, -⟩ | ⟨hGe, more, hMore, rfl, rfl⟩)
      · omega
      · have hQuot : (b.toNat % 128 + 128 * more) / 128 = more := by omega
        exact ⟨by omega, by rw [hQuot]⟩

/-- A length is written in at least one byte. -/
theorem shortvecGroups_ne_nil (n : Nat) : shortvecGroups n ≠ [] := by
  rw [shortvecGroups]
  split <;> exact List.cons_ne_nil _ _

/-- What is left to read after `i` rounds is a number too, and not zero unless it is all there
is. -/
theorem reads_shortvecRounds (rounds i value : Nat) (hRounds : rounds + i = 3) :
    Reads (shortvecRounds rounds i value) fun n w => ∃ more, n = value + more * 128 ^ i ∧
      n ≤ 0xffff ∧ (0 < i → more ≠ 0) ∧ w = shortvecGroups more := by
  -- by induction on the rounds left; `more` is what the groups still to be read make
  induction rounds generalizing i value with
  | zero =>
    obtain rfl : i = 3 := by omega
    refine (Reads.throw _).congr fun n w => ⟨False.elim, ?_⟩
    rintro ⟨more, rfl, hLe, hMore, -⟩
    have := hMore (by decide)
    omega
  | succ rounds ih =>
    refine (Reads.byte.bind (K := fun b n w => ∃ more, n = value + more * 128 ^ i ∧
      n ≤ 0xffff ∧ (0 < i → more ≠ 0) ∧ b :: w = shortvecGroups more) fun b => ?_).congr
        fun n w => ⟨?_, ?_⟩
    -- the group without the high bit ends the number, unless it is a needless zero
    · by_cases hLast : b.toNat < 128
      · simp only [if_pos hLast]
        refine (Reads.pure _).check_bind.check_bind.check_bind.congr fun n w => ⟨?_, ?_⟩
        · rintro ⟨-, hLe, hCanonical, rfl, rfl⟩
          rw [Nat.mod_eq_of_lt hLast] at hCanonical hLe ⊢
          exact ⟨b.toNat, rfl, hLe, fun hi hZero => hCanonical ⟨hi, hZero⟩,
            cons_eq_shortvecGroups.mpr (.inl ⟨hLast, rfl, rfl⟩)⟩
        · rintro ⟨more, rfl, hLe, hMore, hWord⟩
          rcases cons_eq_shortvecGroups.mp hWord with ⟨-, rfl, rfl⟩ | ⟨hGe, -⟩
          · rw [Nat.mod_eq_of_lt hLast]
            exact ⟨by omega, hLe, fun h => hMore h.1 h.2, rfl, rfl⟩
          · omega
      -- a group with the high bit goes on, with 7 more bits read
      · simp only [if_neg hLast]
        refine (ih (i + 1) _ (by omega)).check_bind.check_bind.congr fun n w => ⟨?_, ?_⟩
        · rintro ⟨-, -, more, rfl, hLe, hMore, rfl⟩
          refine ⟨b.toNat % 128 + 128 * more, by ring, hLe, fun _ => ?_, ?_⟩
          · have := hMore (Nat.succ_pos i)
            omega
          · exact cons_eq_shortvecGroups.mpr
              (.inr ⟨by omega, more, hMore (Nat.succ_pos i), rfl, rfl⟩)
        · rintro ⟨_, rfl, hLe, -, hWord⟩
          rcases cons_eq_shortvecGroups.mp hWord with ⟨hLt, -⟩ | ⟨-, more, hMore, rfl, rfl⟩
          · omega
          · have hSum : value + (b.toNat % 128 + 128 * more) * 128 ^ i =
                value + b.toNat % 128 * 128 ^ i + more * 128 ^ (i + 1) := by ring
            rw [hSum] at hLe ⊢
            refine ⟨?_, by omega, more, rfl, hLe, fun _ => hMore, rfl⟩
            rintro ⟨rfl, -⟩
            omega
    · rintro ⟨b, -, v, rfl, rfl, more, hValue, hLe, hMore, hWord⟩
      exact ⟨more, hValue, hLe, hMore, hWord⟩
    · rintro ⟨more, hValue, hLe, hMore, rfl⟩
      obtain ⟨b, v, hWord⟩ := List.exists_cons_of_ne_nil (shortvecGroups_ne_nil more)
      exact ⟨b, [b], v, hWord, rfl, more, hValue, hLe, hMore, hWord.symm⟩

/-- A length is written in one way. -/
theorem reads_shortvec : Reads shortvec fun n w => encodeShortvec n = .ok w := by
  refine (reads_shortvecRounds 3 0 0 rfl).congr fun n w => ?_
  unfold encodeShortvec
  rw [require_bind_eq_ok]
  constructor
  · rintro ⟨more, rfl, hLe, -, rfl⟩
    rw [Nat.pow_zero, Nat.mul_one, Nat.zero_add] at hLe ⊢
    exact ⟨hLe, rfl⟩
  · rintro ⟨hLe, hWord⟩
    exact ⟨n, by omega, hLe, fun h => absurd h (lt_irrefl 0), (Except.ok.inj hWord).symm⟩

/-! ## Messages -/

def u8 : Reader String Nat := do
  return (← byte "sol-tx: unexpected end of data").toNat

def readInstruction (keyCount : Nat) : Reader String SolCompiledInstruction := do
  let programIdIndex ← u8
  let accCount ← shortvec
  let accountIndexes ← times u8 accCount
  let dataLen ← shortvec
  let data ← take dataLen "sol-tx: unexpected end of data"
  check (programIdIndex < keyCount) "sol-tx: program id index out of range"
  check (programIdIndex ≠ 0) "sol-tx: the fee payer cannot be a program"
  check (∀ index ∈ accountIndexes, index < keyCount) "sol-tx: account index out of range"
  return ⟨programIdIndex, accountIndexes, data⟩

/-- The header, the accounts and what follows them. -/
def readFields : Reader String MessageFields := do
  let numRequiredSignatures ← u8
  let numReadonlySigned ← u8
  let numReadonlyUnsigned ← u8
  let keyCount ← shortvec
  let accountKeys ← times (take 32 "sol-tx: unexpected end of data") keyCount
  check (1 ≤ numRequiredSignatures)
    "sol-tx: a message needs at least one signature (the fee payer)"
  check (numReadonlySigned < numRequiredSignatures) "sol-tx: the fee payer cannot be read-only"
  check (numRequiredSignatures + numReadonlyUnsigned ≤ keyCount)
    "sol-tx: header counts exceed the account list"
  let recentBlockhash ← take 32 "sol-tx: unexpected end of data"
  let ixCount ← shortvec
  let instructions ← times (readInstruction keyCount) ixCount
  return ⟨⟨numRequiredSignatures, numReadonlySigned, numReadonlyUnsigned⟩, accountKeys,
    recentBlockhash, instructions⟩

/-- `readMessage`, without the bytes that it was read from. -/
def readMessage : Reader String MessageFields := do
  let first ← peek "sol-tx: empty message"
  check (first.toNat < 128) "sol-tx: versioned (v0) messages are not supported by this codec"
  readFields

/-- A byte is read back. -/
theorem reads_u8 : Reads u8 fun n w => n < 256 ∧ w = [UInt8.ofNat n] := by
  refine (Reads.byte.bind fun b => Reads.pure b.toNat).congr fun n w => ⟨?_, ?_⟩
  · rintro ⟨b, -, -, rfl, rfl, rfl, rfl⟩
    exact ⟨b.toNat_lt, by rw [UInt8.ofNat_toNat, List.append_nil]⟩
  · rintro ⟨hLt, rfl⟩
    exact ⟨UInt8.ofNat n, _, [], (List.append_nil _).symm, rfl,
      (UInt8.toNat_ofNat_of_lt' hLt).symm, rfl⟩

/-- An instruction that can be read where there are `keyCount` accounts. -/
structure SolCompiledInstruction.Indexed (keyCount : Nat) (ix : SolCompiledInstruction) :
    Prop where
  program_byte : ix.programIdIndex < 256
  program_lt : ix.programIdIndex < keyCount
  program_ne : ix.programIdIndex ≠ 0
  accounts_byte : ∀ index ∈ ix.accountIndexes, index < 256
  accounts_lt : ∀ index ∈ ix.accountIndexes, index < keyCount

/-- Numbers below 256 are written a byte each. -/
theorem forall₂_bytes {ns : List Nat} {ws : List (List UInt8)} :
    List.Forall₂ (fun n w => n < 256 ∧ w = [UInt8.ofNat n]) ns ws ↔
      (∀ n ∈ ns, n < 256) ∧ ws = ns.map fun n => [UInt8.ofNat n] := by
  induction ns generalizing ws with
  | nil =>
    rw [List.forall₂_nil_left_iff]
    exact ⟨fun h => ⟨nofun, h⟩, fun h => h.2⟩
  | cons n ns ih =>
    rw [List.forall₂_cons_left_iff]
    constructor
    · rintro ⟨w, ws, ⟨hLt, rfl⟩, hWords, rfl⟩
      obtain ⟨hAll, rfl⟩ := ih.mp hWords
      exact ⟨List.forall_mem_cons.mpr ⟨hLt, hAll⟩, rfl⟩
    · rintro ⟨hAll, rfl⟩
      obtain ⟨hLt, hAll⟩ := List.forall_mem_cons.mp hAll
      exact ⟨_, _, ⟨hLt, rfl⟩, ih.mpr ⟨hAll, rfl⟩, rfl⟩

/-- A compact array is its length and its items. -/
theorem compactArray_eq_ok {items : List (List UInt8)} {w : List UInt8} :
    compactArray items = .ok w ↔
      ∃ length, encodeShortvec items.length = .ok length ∧ w = length ++ items.flatten := by
  unfold compactArray
  rw [bind_eq_ok]
  refine exists_congr fun length => and_congr_right fun _ => ⟨fun h => ?_, ?_⟩
  · exact (Except.ok.inj h).symm
  · rintro rfl
    rfl

/-- The parts of an encoded instruction. -/
theorem encodeInstruction_eq_ok {ix : SolCompiledInstruction} {w : List UInt8} :
    encodeInstruction ix = .ok w ↔
      ∃ accounts length, compactArray (ix.accountIndexes.map fun i => [UInt8.ofNat i]) =
          .ok accounts ∧ encodeShortvec ix.data.length = .ok length ∧
        w = UInt8.ofNat ix.programIdIndex :: (accounts ++ (length ++ ix.data)) := by
  unfold encodeInstruction
  rw [bind_eq_ok]
  refine exists_congr fun accounts => ?_
  rw [bind_eq_ok]
  constructor
  · rintro ⟨hAccounts, length, hLength, h⟩
    exact ⟨length, hAccounts, hLength, (Except.ok.inj h).symm⟩
  · rintro ⟨length, hAccounts, hLength, rfl⟩
    exact ⟨hAccounts, length, hLength, rfl⟩

/-- An instruction is read back, its indexes within the keys. -/
theorem reads_readInstruction (keyCount : Nat) :
    Reads (readInstruction keyCount) fun ix w =>
      encodeInstruction ix = .ok w ∧ ix.Indexed keyCount := by
  refine (reads_u8.bind fun programIdIndex => reads_shortvec.bind fun accCount =>
    (reads_u8.times accCount).bind fun accountIndexes => reads_shortvec.bind fun dataLen =>
    Reads.take.bind fun data => (((Reads.pure (⟨programIdIndex, accountIndexes, data⟩ :
      SolCompiledInstruction)).check_bind).check_bind).check_bind).congr fun ix w => ?_
  rw [encodeInstruction_eq_ok]
  constructor
  -- what was read, part by part, is what the encoder writes
  · rintro ⟨programIdIndex, -, -, rfl, ⟨hProgram, rfl⟩, accCount, count, -, rfl, hCount,
      accountIndexes, -, -, rfl, ⟨rfl, ws, hWords, rfl⟩, dataLen, length, -, rfl, hLength,
      data, _, -, rfl, ⟨rfl, rfl⟩, hLt, hne, hAll, rfl, rfl⟩
    obtain ⟨hBytes, rfl⟩ := forall₂_bytes.mp hWords
    refine ⟨⟨_, length, compactArray_eq_ok.mpr ⟨count, ?_, rfl⟩, hLength, ?_⟩,
      ⟨hProgram, hLt, hne, hBytes, hAll⟩⟩
    · rwa [List.length_map]
    · simp only [List.append_nil, List.append_assoc, List.singleton_append]
  -- what the encoder writes is read part by part
  · rintro ⟨⟨accounts, length, hAccounts, hLength, rfl⟩, hIndexed⟩
    obtain ⟨count, hCount, rfl⟩ := compactArray_eq_ok.mp hAccounts
    rw [List.length_map] at hCount
    refine ⟨ix.programIdIndex, [UInt8.ofNat ix.programIdIndex], _, rfl,
      ⟨hIndexed.program_byte, rfl⟩, ix.accountIndexes.length, count, _, ?_, hCount,
      ix.accountIndexes, _, length ++ ix.data, rfl,
      ⟨rfl, _, forall₂_bytes.mpr ⟨hIndexed.accounts_byte, rfl⟩, rfl⟩, ix.data.length, length,
      ix.data, rfl, hLength, ix.data, ix.data, [], (List.append_nil _).symm, ⟨rfl, rfl⟩,
      hIndexed.program_lt, hIndexed.program_ne, hIndexed.accounts_lt, rfl, rfl⟩
    exact List.append_assoc _ _ _

/-- A message that can be read, where its first byte is one of the first `bound`. -/
structure MessageFields.Readable (bound : Nat) (m : MessageFields) : Prop where
  required_pos : 1 ≤ m.header.numRequiredSignatures
  required_lt : m.header.numRequiredSignatures < bound
  readonlySigned_lt : m.header.numReadonlySigned < m.header.numRequiredSignatures
  readonlyUnsigned_byte : m.header.numReadonlyUnsigned < 256
  readonlyUnsigned_le :
    m.header.numRequiredSignatures + m.header.numReadonlyUnsigned ≤ m.accountKeys.length
  key_length : ∀ key ∈ m.accountKeys, key.length = 32
  blockhash_length : m.recentBlockhash.length = 32
  indexed : ∀ ix ∈ m.instructions, ix.Indexed m.accountKeys.length

/-- Keys of one length are written as they stand. -/
theorem forall₂_take {keys ws : List (List UInt8)} {n : Nat} :
    List.Forall₂ (fun (key w : List UInt8) => w = key ∧ key.length = n) keys ws ↔
      (∀ key ∈ keys, key.length = n) ∧ ws = keys := by
  induction keys generalizing ws with
  | nil =>
    rw [List.forall₂_nil_left_iff]
    exact ⟨fun h => ⟨nofun, h⟩, fun h => h.2⟩
  | cons key keys ih =>
    rw [List.forall₂_cons_left_iff]
    constructor
    · rintro ⟨w, ws, ⟨rfl, hLength⟩, hWords, rfl⟩
      obtain ⟨hAll, rfl⟩ := ih.mp hWords
      exact ⟨List.forall_mem_cons.mpr ⟨hLength, hAll⟩, rfl⟩
    · rintro ⟨hAll, rfl⟩
      obtain ⟨hLength, hAll⟩ := List.forall_mem_cons.mp hAll
      exact ⟨_, _, ⟨rfl, hLength⟩, ih.mpr ⟨hAll, rfl⟩, rfl⟩

/-- Instructions are read back one by one. -/
theorem forall₂_encodeInstruction {ixs : List SolCompiledInstruction} {ws : List (List UInt8)}
    {keyCount : Nat} :
    List.Forall₂ (fun ix w => encodeInstruction ix = .ok w ∧ ix.Indexed keyCount) ixs ws ↔
      ixs.mapM encodeInstruction = .ok ws ∧ ∀ ix ∈ ixs, ix.Indexed keyCount := by
  rw [mapM_eq_ok]
  rw [and_comm, ← List.forall₂_and_left]
  exact ⟨fun h => h.imp fun _ _ h => h.symm, fun h => h.imp fun _ _ h => h.symm⟩

/-- The parts of an encoded message. -/
theorem encodeMessage_eq_ok {m : MessageFields} {w : List UInt8} :
    encodeMessage m = .ok w ↔
      ∃ keys encoded instructions, compactArray m.accountKeys = .ok keys ∧
        m.instructions.mapM encodeInstruction = .ok encoded ∧
        compactArray encoded = .ok instructions ∧
        w = UInt8.ofNat m.header.numRequiredSignatures ::
          UInt8.ofNat m.header.numReadonlySigned ::
          UInt8.ofNat m.header.numReadonlyUnsigned ::
          (keys ++ (m.recentBlockhash ++ instructions)) := by
  unfold encodeMessage
  rw [bind_eq_ok]
  refine exists_congr fun keys => ?_
  rw [bind_eq_ok]
  constructor
  · rintro ⟨hKeys, encoded, hEncoded, h⟩
    obtain ⟨instructions, hInstructions, h⟩ := bind_eq_ok.mp h
    exact ⟨encoded, instructions, hKeys, hEncoded, hInstructions, (Except.ok.inj h).symm⟩
  · rintro ⟨encoded, instructions, hKeys, hEncoded, hInstructions, rfl⟩
    exact ⟨hKeys, encoded, hEncoded, bind_eq_ok.mpr ⟨instructions, hInstructions, rfl⟩⟩

/-- The fields of a message are read back. -/
theorem reads_readFields :
    Reads readFields fun m w => encodeMessage m = .ok w ∧ m.Readable 256 := by
  refine (reads_u8.bind fun required => reads_u8.bind fun readonlySigned =>
    reads_u8.bind fun readonlyUnsigned => reads_shortvec.bind fun keyCount =>
    (Reads.take.times keyCount).bind fun keys =>
    (((Reads.take.bind fun blockhash => reads_shortvec.bind fun ixCount =>
      ((reads_readInstruction keyCount).times ixCount).bind fun ixs =>
      Reads.pure (⟨⟨required, readonlySigned, readonlyUnsigned⟩, keys, blockhash, ixs⟩ :
        MessageFields)).check_bind).check_bind).check_bind).congr fun m w => ?_
  rw [encodeMessage_eq_ok]
  constructor
  -- read: the parts of the message in the order of the wire
  · rintro ⟨required, -, -, rfl, ⟨hRequired, rfl⟩, readonlySigned, -, -, rfl, ⟨-, rfl⟩,
      readonlyUnsigned, -, -, rfl, ⟨hUnsigned, rfl⟩, keyCount, count, -, rfl, hCount, keys, -, -,
      rfl, ⟨rfl, ws, hWords, rfl⟩, hPos, hSigned, hLe, blockhash, _, -, rfl, ⟨rfl, hBlockhash⟩,
      ixCount, ixCounted, -, rfl, hIxCount, ixs, -, -, rfl, ⟨rfl, encoded, hEncoded, rfl⟩, rfl,
      rfl⟩
    obtain ⟨hKeys, rfl⟩ := forall₂_take.mp hWords
    obtain ⟨hEncode, hIndexed⟩ := forall₂_encodeInstruction.mp hEncoded
    refine ⟨⟨count ++ ws.flatten, encoded, ixCounted ++ encoded.flatten,
      compactArray_eq_ok.mpr ⟨count, hCount, rfl⟩, hEncode,
      compactArray_eq_ok.mpr ⟨ixCounted, ?_, rfl⟩, ?_⟩,
      ⟨hPos, hRequired, hSigned, hUnsigned, hLe, hKeys, hBlockhash, hIndexed⟩⟩
    · rwa [← hEncoded.length_eq]
    · simp only [List.append_nil, List.append_assoc, List.singleton_append]
  -- encoded: the same parts, in the widths that the reader takes
  · rintro ⟨⟨_, encoded, _, hKeys, hEncode, hInstructions, rfl⟩, h⟩
    obtain ⟨count, hCount, rfl⟩ := compactArray_eq_ok.mp hKeys
    obtain ⟨ixCounted, hIxCount, rfl⟩ := compactArray_eq_ok.mp hInstructions
    have hEncoded := forall₂_encodeInstruction.mpr ⟨hEncode, h.indexed⟩
    rw [← hEncoded.length_eq] at hIxCount
    have hSigned := h.readonlySigned_lt
    have hRequired := h.required_lt
    refine ⟨m.header.numRequiredSignatures, _, _, rfl, ⟨hRequired, rfl⟩,
      m.header.numReadonlySigned, _, _, rfl, ⟨by omega, rfl⟩,
      m.header.numReadonlyUnsigned, _, _, rfl, ⟨h.readonlyUnsigned_byte, rfl⟩,
      m.accountKeys.length, count, _, List.append_assoc _ _ _, hCount,
      m.accountKeys, m.accountKeys.flatten, _, rfl,
      ⟨rfl, _, forall₂_take.mpr ⟨h.key_length, rfl⟩, rfl⟩, h.required_pos, hSigned,
      h.readonlyUnsigned_le, m.recentBlockhash, _, _, rfl, ⟨rfl, h.blockhash_length⟩,
      m.instructions.length, ixCounted, _, rfl, hIxCount, m.instructions, _, [],
      (List.append_nil _).symm, ⟨rfl, encoded, hEncoded, rfl⟩, rfl, rfl⟩

/-- What is read is what is written, of the messages that have a reading. -/
theorem reads_readMessage :
    Reads readMessage fun m w => encodeMessage m = .ok w ∧ m.Readable 128 := by
  refine (Reads.peek_bind (q := fun first => first.toNat < 128) reads_readFields
    ?_).congr fun m w => ?_
  · rintro m w ⟨hEncode, -⟩
    obtain ⟨_, _, _, -, -, -, rfl⟩ := encodeMessage_eq_ok.mp hEncode
    exact List.cons_ne_nil _ _
  · have hFirst : encodeMessage m = .ok w → m.header.numRequiredSignatures < 256 →
        ((∀ first ∈ w.head?, first.toNat < 128) ↔ m.header.numRequiredSignatures < 128) := by
      intro hEncode hByte
      obtain ⟨_, _, _, -, -, -, rfl⟩ := encodeMessage_eq_ok.mp hEncode
      simp only [List.head?_cons, Option.mem_def, Option.some.injEq, forall_eq',
        UInt8.toNat_ofNat_of_lt' (show m.header.numRequiredSignatures < UInt8.size from hByte)]
    constructor
    · rintro ⟨hHead, hEncode, h⟩
      exact ⟨hEncode, { h with required_lt := (hFirst hEncode h.required_lt).mp hHead }⟩
    · rintro ⟨hEncode, h⟩
      have hByte : m.header.numRequiredSignatures < 256 := by
        have := h.required_lt
        omega
      exact ⟨(hFirst hEncode hByte).mpr h.required_lt, hEncode, { h with required_lt := hByte }⟩

/-! ## Transactions -/

def SOL_MAX_TX_BYTES : Nat := 1232

def SOL_SIGNATURE_BYTES : Nat := 64

structure SolTransaction where
  signatures : List (List UInt8)
  message : SolCompiledMessage
  bytes : List UInt8
  /-- The transaction id. -/
  signature : String
deriving DecidableEq, Repr

def transactionId (firstSignature : List UInt8) : Except String String := do
  require (firstSignature.length = SOL_SIGNATURE_BYTES) "sol-tx: a signature is exactly 64 bytes"
  return String.ofList (base58Encode firstSignature)

def encodeTransaction (signatures : List (List UInt8)) (messageBytes : List UInt8) :
    Except String (List UInt8) := do
  require (∀ s ∈ signatures, s.length = SOL_SIGNATURE_BYTES)
    "sol-tx: a signature is exactly 64 bytes"
  return (← compactArray signatures) ++ messageBytes

/-- The signatures and the message, with the bytes of the message. -/
def readTransaction : Reader String (List (List UInt8) × SolCompiledMessage) := do
  let sigCount ← shortvec
  let signatures ← times (take SOL_SIGNATURE_BYTES "sol-tx: unexpected end of data") sigCount
  let (fields, bytes) ← spanned readMessage
  return (signatures, { fields with bytes })

def decodeTransaction (bytes : List UInt8) : Except String SolTransaction := do
  let ((signatures, message), rest) ← readTransaction bytes
  require (rest = []) "sol-tx: trailing bytes after the transaction"
  require (signatures.length = message.header.numRequiredSignatures)
    "sol-tx: signature count does not match the message header"
  let first ← need signatures.head? "sol-tx: no signatures"
  return ⟨signatures, message, bytes, ← transactionId first⟩

structure SolTxSigner where
  publicKeyBytes : List UInt8
  sign : List UInt8 → Except String (List UInt8)

section

variable (verify : List UInt8 → List UInt8 → List UInt8 → Bool) (message : SolCompiledMessage)
  (signers : List SolTxSigner)

/-- The signature of account `i`. -/
def signatureOf (i : Nat) : Except String (List UInt8) := do
  let key ← need message.accountKeys[i]? "sol-tx: internal - missing signer key"
  let signer ← need (signers.find? fun s => s.publicKeyBytes = key)
    s!"sol-tx: no signer supplied for required signature {i} ({keyText key})"
  let signature ← signer.sign message.bytes
  require (signature.length = SOL_SIGNATURE_BYTES)
    "sol-tx: signer returned a signature that is not 64 bytes"
  require (verify signature message.bytes key = true)
    "sol-tx: signer returned a signature that does not verify"
  return signature

/-- `signTransaction`, where `verify` is that of Ed25519. -/
def signTransaction : Except String SolTransaction := do
  let signatures ← (List.range message.header.numRequiredSignatures).mapM
    (signatureOf verify message signers)
  let bytes ← encodeTransaction signatures message.bytes
  require (bytes.length ≤ SOL_MAX_TX_BYTES)
    s!"sol-tx: transaction is {bytes.length} bytes, over the {SOL_MAX_TX_BYTES}-byte limit"
  let first ← need signatures.head? "sol-tx: internal - no signatures"
  return ⟨signatures, message, bytes, ← transactionId first⟩

end

/-- The parts of an encoded transaction. -/
theorem encodeTransaction_eq_ok {signatures : List (List UInt8)} {messageBytes w : List UInt8} :
    encodeTransaction signatures messageBytes = .ok w ↔
      (∀ s ∈ signatures, s.length = SOL_SIGNATURE_BYTES) ∧
        ∃ count, encodeShortvec signatures.length = .ok count ∧
          w = count ++ (signatures.flatten ++ messageBytes) := by
  unfold encodeTransaction
  rw [require_bind_eq_ok, bind_eq_ok]
  refine and_congr_right fun _ => ⟨?_, ?_⟩
  · rintro ⟨array, hArray, h⟩
    obtain ⟨count, hCount, rfl⟩ := compactArray_eq_ok.mp hArray
    obtain rfl := Except.ok.inj h
    exact ⟨count, hCount, List.append_assoc _ _ _⟩
  · rintro ⟨count, hCount, rfl⟩
    refine ⟨_, compactArray_eq_ok.mpr ⟨count, hCount, rfl⟩, ?_⟩
    exact congrArg Except.ok (List.append_assoc _ _ _)

/-- A transaction is read back. -/
theorem reads_readTransaction :
    Reads readTransaction fun tx w => encodeTransaction tx.1 tx.2.bytes = .ok w ∧
      encodeMessage tx.2.toMessageFields = .ok tx.2.bytes ∧ tx.2.Readable 128 := by
  refine (reads_shortvec.bind fun sigCount => (Reads.take.times sigCount).bind fun signatures =>
    reads_readMessage.spanned.bind fun read => Reads.pure
      ((signatures, { read.1 with bytes := read.2 }) :
        List (List UInt8) × SolCompiledMessage)).congr fun tx w => ?_
  rw [encodeTransaction_eq_ok]
  constructor
  · rintro ⟨sigCount, count, -, rfl, hCount, signatures, -, -, rfl, ⟨rfl, ws, hWords, rfl⟩,
      ⟨fields, bytes⟩, _, -, rfl, ⟨⟨hEncode, hReadable⟩, rfl⟩, rfl, rfl⟩
    obtain ⟨hLength, rfl⟩ := forall₂_take.mp hWords
    refine ⟨⟨hLength, count, hCount, ?_⟩, hEncode, hReadable⟩
    rw [List.append_nil]
  · obtain ⟨signatures, ⟨fields, bytes⟩⟩ := tx
    rintro ⟨⟨hLength, count, hCount, rfl⟩, hEncode, hReadable⟩
    exact ⟨signatures.length, count, _, rfl, hCount, signatures, signatures.flatten, _, rfl,
      ⟨rfl, _, forall₂_take.mpr ⟨hLength, rfl⟩, rfl⟩, (fields, bytes), bytes, [],
      (List.append_nil _).symm, ⟨⟨hEncode, hReadable⟩, rfl⟩, rfl, rfl⟩

/-- What is decoded is what is encoded in full, of the transactions that are whole. -/
theorem decodeTransaction_eq_ok {bytes : List UInt8} {tx : SolTransaction} :
    decodeTransaction bytes = .ok tx ↔
      encodeTransaction tx.signatures tx.message.bytes = .ok bytes ∧
        encodeMessage tx.message.toMessageFields = .ok tx.message.bytes ∧
        tx.message.Readable 128 ∧
        tx.signatures.length = tx.message.header.numRequiredSignatures ∧ tx.bytes = bytes ∧
        ∃ first ∈ tx.signatures.head?, transactionId first = .ok tx.signature := by
  unfold decodeTransaction
  rw [bind_eq_ok]
  constructor
  · rintro ⟨⟨⟨signatures, message⟩, rest⟩, hRead, h⟩
    obtain ⟨hRest, h⟩ := require_bind_eq_ok.mp h
    obtain ⟨hCount, h⟩ := require_bind_eq_ok.mp h
    obtain ⟨first, hFirst, h⟩ := need_bind_eq_ok.mp h
    obtain ⟨signature, hSignature, h⟩ := bind_eq_ok.mp h
    obtain rfl := Except.ok.inj h
    subst hRest
    obtain ⟨w, rfl, hEncode, hMessage, hReadable⟩ := (reads_readTransaction _ _ _).mp hRead
    rw [List.append_nil]
    exact ⟨hEncode, hMessage, hReadable, hCount, rfl, first, hFirst, hSignature⟩
  · obtain ⟨signatures, message, whole, signature⟩ := tx
    rintro ⟨hEncode, hMessage, hReadable, hCount, rfl, first, hFirst, hSignature⟩
    refine ⟨((signatures, message), []), (reads_readTransaction _ _ _).mpr
      ⟨whole, (List.append_nil _).symm, hEncode, hMessage, hReadable⟩, ?_⟩
    exact require_bind_eq_ok.mpr ⟨rfl, require_bind_eq_ok.mpr ⟨hCount,
      need_bind_eq_ok.mpr ⟨first, hFirst, bind_eq_ok.mpr ⟨signature, hSignature, rfl⟩⟩⟩⟩

/-! ## What is compiled can be read -/

/-- A compiled instruction that resolves has its indexes within the keys. -/
theorem Resolves.indexed {keys : List (List UInt8)} {ix : SolInstruction}
    {c : SolCompiledInstruction} {feePayer : List UInt8} (h : Resolves keys ix c)
    (hPayer : keys[0]? = some feePayer) (hProgram : ix.programId ≠ feePayer)
    (hCount : keys.length ≤ 255) : c.Indexed keys.length := by
  obtain ⟨hProgramKey, hAccounts, -⟩ := h
  have hLt : ∀ index ∈ c.accountIndexes, index < keys.length := by
    intro index hIndex
    have hMem : keys[index]? ∈ c.accountIndexes.map fun i => keys[i]? := List.mem_map_of_mem hIndex
    rw [hAccounts] at hMem
    obtain ⟨use, -, hUse⟩ := List.mem_map.mp hMem
    exact (List.getElem?_eq_some_iff.mp hUse.symm).1
  obtain ⟨hProgramLt, -⟩ := List.getElem?_eq_some_iff.mp hProgramKey
  refine ⟨by omega, hProgramLt, fun hZero => ?_, fun index hIndex => ?_, hLt⟩
  · rw [hZero, hPayer] at hProgramKey
    exact hProgram (Option.some.inj hProgramKey).symm
  · have := hLt index hIndex
    omega

/-- A message that was compiled can be read back. -/
theorem readable_of_compile {feePayer recentBlockhash : List UInt8}
    {instructions : List SolInstruction} {m : SolCompiledMessage}
    (h : compileLegacyMessage feePayer recentBlockhash instructions = .ok m)
    (hPrograms : ∀ ix ∈ instructions, ix.programId ≠ feePayer)
    (hSigners : m.header.numRequiredSignatures < 128) :
    encodeMessage m.toMessageFields = .ok m.bytes ∧ m.Readable 128 := by
  obtain ⟨ordered, hOrdered, hCount, hBlockhash, hHeader, hKeys, hHash, hCompiled, hEncode⟩ :=
    compileLegacyMessage_ok h
  obtain ⟨payer, hPayer, rfl, -⟩ := hOrdered.payer_first
  obtain ⟨hSigned, hUnsigned⟩ := hOrdered.header_bounds
  have hLength : m.accountKeys.length = ordered.length := by rw [hKeys, List.length_map]
  rw [← hHeader] at hSigned hUnsigned
  refine ⟨hEncode,
    { required_pos := by omega
      required_lt := hSigners
      readonlySigned_lt := hSigned
      readonlyUnsigned_byte := by omega
      readonlyUnsigned_le := hUnsigned.trans hLength.ge
      key_length := fun key hKey => ?_
      blockhash_length := by rw [hHash]; exact hBlockhash
      indexed := fun c hc => ?_ }⟩
  -- every key is that of a use
  · rw [hKeys, hOrdered.mem] at hKey
    obtain ⟨use, hUse, rfl⟩ := List.mem_map.mp hKey
    exact hOrdered.length use hUse
  -- every index resolves, so it lies within the keys
  · have hResolves := resolves_of_compile hOrdered hCompiled
    rw [← hKeys] at hResolves
    obtain ⟨i, hi⟩ := List.mem_iff_getElem?.mp hc
    obtain ⟨hLt, rfl⟩ := List.getElem?_eq_some_iff.mp hi
    have hLt' : i < instructions.length := by rw [hResolves.length_eq]; exact hLt
    have hFirst : m.accountKeys[0]? = some payer.key := by
      rw [hKeys, List.getElem?_map, hPayer, Option.map_some]
    exact (hResolves.get hLt' hLt).indexed hFirst
      (hPrograms _ (List.get_mem _ _)) (hLength.trans_le hCount)

/-- The parts of a signed transaction. -/
theorem signTransaction_ok {verify : List UInt8 → List UInt8 → List UInt8 → Bool}
    {message : SolCompiledMessage} {signers : List SolTxSigner} {tx : SolTransaction}
    (h : signTransaction verify message signers = .ok tx) :
    tx.message = message ∧ encodeTransaction tx.signatures message.bytes = .ok tx.bytes ∧
      tx.signatures.length = message.header.numRequiredSignatures ∧
      ∃ first ∈ tx.signatures.head?, transactionId first = .ok tx.signature := by
  unfold signTransaction at h
  obtain ⟨signatures, hSignatures, h⟩ := bind_eq_ok.mp h
  obtain ⟨bytes, hBytes, h⟩ := bind_eq_ok.mp h
  obtain ⟨-, h⟩ := require_bind_eq_ok.mp h
  obtain ⟨first, hFirst, h⟩ := need_bind_eq_ok.mp h
  obtain ⟨signature, hSignature, h⟩ := bind_eq_ok.mp h
  obtain rfl := Except.ok.inj h
  refine ⟨rfl, hBytes, ?_, first, hFirst, hSignature⟩
  rw [← (mapM_eq_ok.mp hSignatures).length_eq, List.length_range]

/-- A signed transaction is decoded to what it was, and a decoded one is encoded to what it was
decoded from, so that no other bytes are decoded to it. -/
theorem codec_faithful :
    (∀ (verify : List UInt8 → List UInt8 → List UInt8 → Bool) (signers : List SolTxSigner)
      (feePayer recentBlockhash : List UInt8) (instructions : List SolInstruction)
      (message : SolCompiledMessage) (tx : SolTransaction),
      compileLegacyMessage feePayer recentBlockhash instructions = .ok message →
      (∀ ix ∈ instructions, ix.programId ≠ feePayer) →
      message.header.numRequiredSignatures < 128 →
      signTransaction verify message signers = .ok tx →
      tx.message = message ∧ decodeTransaction tx.bytes = .ok tx) ∧
    (∀ (bytes : List UInt8) (tx : SolTransaction), decodeTransaction bytes = .ok tx →
      encodeMessage tx.message.toMessageFields = .ok tx.message.bytes ∧
        encodeTransaction tx.signatures tx.message.bytes = .ok bytes) ∧
    ∀ (bytes bytes' : List UInt8) (tx tx' : SolTransaction),
      decodeTransaction bytes = .ok tx → decodeTransaction bytes' = .ok tx' →
      tx.signatures = tx'.signatures → tx.message.toMessageFields = tx'.message.toMessageFields →
      bytes = bytes' := by
  refine ⟨?_, ?_, ?_⟩
  · intro verify signers feePayer recentBlockhash instructions message tx hCompile hPrograms
      hSigners hSign
    obtain ⟨rfl, hEncode, hCount, hFirst⟩ := signTransaction_ok hSign
    obtain ⟨hMessage, hReadable⟩ := readable_of_compile hCompile hPrograms hSigners
    exact ⟨rfl, decodeTransaction_eq_ok.mpr ⟨hEncode, hMessage, hReadable, hCount, rfl, hFirst⟩⟩
  · intro bytes tx h
    obtain ⟨hEncode, hMessage, -⟩ := decodeTransaction_eq_ok.mp h
    exact ⟨hMessage, hEncode⟩
  · intro bytes bytes' tx tx' h h' hSignatures hFields
    obtain ⟨hEncode, hMessage, -⟩ := decodeTransaction_eq_ok.mp h
    obtain ⟨hEncode', hMessage', -⟩ := decodeTransaction_eq_ok.mp h'
    rw [hFields] at hMessage
    have hBytes : tx.message.bytes = tx'.message.bytes :=
      Except.ok.inj (hMessage.symm.trans hMessage')
    rw [hSignatures, hBytes] at hEncode
    exact Except.ok.inj (hEncode.symm.trans hEncode')

namespace Sample

/-- The signatures of the sample message under the secret keys of the test vectors. -/
def payerSignature : List UInt8 :=
  [171, 217, 211, 64, 24, 57, 85, 80, 133, 68, 222, 39, 86, 239, 114, 86, 21, 26, 208, 76, 196, 201,
    127, 34, 189, 181, 215, 87, 154, 216, 144, 142, 219, 150, 231, 189, 190, 12, 230, 224, 155, 166,
    98, 16, 144, 55, 162, 63, 38, 115, 191, 94, 186, 121, 79, 144, 186, 221, 111, 9, 49, 120, 231,
    4]

def secondSignature : List UInt8 :=
  [203, 72, 93, 187, 54, 22, 154, 107, 31, 158, 254, 160, 52, 219, 127, 186, 58, 180, 132, 73, 207,
    57, 62, 214, 200, 200, 197, 207, 186, 69, 187, 86, 146, 245, 29, 227, 86, 191, 186, 109, 235,
    155, 82, 105, 42, 237, 138, 35, 199, 6, 144, 59, 143, 164, 229, 1, 152, 212, 5, 192, 198, 156,
    117, 13]

/-- Ed25519, on what is signed here. -/
def verify (signature message key : List UInt8) : Bool :=
  message = bytes ∧ (key = feePayer ∧ signature = payerSignature ∨
    key = second ∧ signature = secondSignature)

def signers : List SolTxSigner :=
  [⟨second, fun _ => .ok secondSignature⟩, ⟨feePayer, fun _ => .ok payerSignature⟩]

def transaction : SolTransaction :=
  { signatures := [payerSignature, secondSignature]
    message := ⟨fields, bytes⟩
    bytes := 2 :: (payerSignature ++ (secondSignature ++ bytes))
    signature := String.ofList (base58Encode payerSignature) }

/-- The sample transaction is signed. -/
theorem sign_ok : signTransaction verify ⟨fields, bytes⟩ signers = .ok transaction := by
  have hSignatures : (List.range 2).mapM (signatureOf verify ⟨fields, bytes⟩ signers) =
      .ok [payerSignature, secondSignature] := by
    decide +kernel
  have hEncode : encodeTransaction [payerSignature, secondSignature] bytes =
      .ok transaction.bytes :=
    encodeTransaction_eq_ok.mpr
      ⟨by decide +kernel, [2], encodeShortvec_of_lt (by decide), by decide +kernel⟩
  exact bind_eq_ok.mpr ⟨_, hSignatures, bind_eq_ok.mpr ⟨_, hEncode,
    require_bind_eq_ok.mpr ⟨by decide +kernel, rfl⟩⟩⟩

end Sample

/-- Two signers, whose signatures are put in the order of the accounts. -/
theorem codec_faithful_sample :
    decodeTransaction Sample.transaction.bytes = .ok Sample.transaction ∧
      encodeTransaction Sample.transaction.signatures Sample.bytes =
        .ok Sample.transaction.bytes := by
  obtain ⟨hSigned, hDecoded, -⟩ := codec_faithful
  obtain ⟨-, hDecode⟩ := hSigned Sample.verify Sample.signers Sample.feePayer Sample.blockhash
    [Sample.instruction] _ _ Sample.compile_ok (by decide) (by decide) Sample.sign_ok
  exact ⟨hDecode, (hDecoded _ _ hDecode).2⟩

end SwapDesk.Rails.SolTx
