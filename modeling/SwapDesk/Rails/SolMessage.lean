import SwapDesk.Lib.Grammar
import SwapDesk.Lib.Partition
import SwapDesk.Rails.SolClaim

/-!
# SwapDesk — compiling a Solana message

`compileLegacyMessage` of `src/rails/sol-tx.ts`: the accounts that the instructions of a
transaction use become one list, ordered by what they are used for, and the instructions name
them by their index in it.

Main result: `compileLegacyMessage_privileges`, an account has exactly the rights that some use
of it asks for.
-/

namespace SwapDesk.Rails.SolTx

open Check Grammar Sol

/-! ## Shortvec -/

/-- The loop of `encodeShortvec`: seven bits a byte, the lowest first. -/
def shortvecGroups (rem : Nat) : List UInt8 :=
  if rem / 128 = 0 then [UInt8.ofNat (rem % 128)]
  else UInt8.ofNat (rem % 128 + 128) :: shortvecGroups (rem / 128)
termination_by rem
decreasing_by omega

def encodeShortvec (value : Nat) : Except String (List UInt8) := do
  require (value ≤ 0xffff) "sol-tx: shortvec value must be 0..65535"
  return shortvecGroups value

/-- A length that takes one byte. -/
theorem encodeShortvec_of_lt {n : Nat} (h : n < 128) :
    encodeShortvec n = .ok [UInt8.ofNat n] := by
  unfold encodeShortvec shortvecGroups
  rw [if_pos (Nat.div_eq_of_lt h), Nat.mod_eq_of_lt h]
  exact require_bind_eq_ok.mpr ⟨by omega, rfl⟩

def compactArray (items : List (List UInt8)) : Except String (List UInt8) := do
  return (← encodeShortvec items.length) ++ items.flatten

/-! ## Messages -/

structure SolMessageHeader where
  numRequiredSignatures : Nat
  numReadonlySigned : Nat
  numReadonlyUnsigned : Nat
deriving DecidableEq, Repr

structure SolCompiledInstruction where
  programIdIndex : Nat
  accountIndexes : List Nat
  data : List UInt8
deriving DecidableEq, Repr

/-- A compiled message without its bytes. -/
structure MessageFields where
  header : SolMessageHeader
  accountKeys : List (List UInt8)
  recentBlockhash : List UInt8
  instructions : List SolCompiledInstruction
deriving DecidableEq, Repr

structure SolCompiledMessage extends MessageFields where
  /-- What is signed. -/
  bytes : List UInt8
deriving DecidableEq, Repr

def encodeInstruction (ix : SolCompiledInstruction) : Except String (List UInt8) := do
  let accounts ← compactArray (ix.accountIndexes.map fun i => [UInt8.ofNat i])
  let length ← encodeShortvec ix.data.length
  return UInt8.ofNat ix.programIdIndex :: (accounts ++ (length ++ ix.data))

/-- The bytes of a message. -/
def encodeMessage (m : MessageFields) : Except String (List UInt8) := do
  let keys ← compactArray m.accountKeys
  let instructions ← compactArray (← m.instructions.mapM encodeInstruction)
  return UInt8.ofNat m.header.numRequiredSignatures :: UInt8.ofNat m.header.numReadonlySigned ::
    UInt8.ofNat m.header.numReadonlyUnsigned :: (keys ++ (m.recentBlockhash ++ instructions))

/-! ## Compiling -/

def keyText (key : List UInt8) : String := String.ofList (base58Encode key)

structure Entry where
  key : List UInt8
  isSigner : Bool
  isWritable : Bool
  order : Nat
deriving DecidableEq, Repr

/-- One more use of an account. -/
def Entry.merge (e : Entry) (use : AccountMeta) : Entry :=
  { e with isSigner := e.isSigner || use.isSigner, isWritable := e.isWritable || use.isWritable }

/-- `touch`, of the entries in the order of their insertion; an entry's place in the map is the
text of its key. -/
def touch (entries : List Entry) (use : AccountMeta) : Except String (List Entry) := do
  require (use.pubkey.length = 32) "sol-tx: every account key must be 32 bytes"
  if entries.any fun e => keyText e.key = keyText use.pubkey then
    return entries.map fun e => if keyText e.key = keyText use.pubkey then e.merge use else e
  else return entries ++ [⟨use.pubkey, use.isSigner, use.isWritable, entries.length⟩]

/-- What is touched, in this order. -/
def usesOf (feePayer : List UInt8) (instructions : List SolInstruction) : List AccountMeta :=
  ⟨feePayer, true, true⟩ ::
    instructions.flatMap fun ix => ix.accounts ++ [⟨ix.programId, false, false⟩]

def rank (e : Entry) : Nat :=
  if e.isSigner then if e.isWritable then 0 else 1 else if e.isWritable then 2 else 3

/-- The comparator of the sort is not positive. -/
def before (payerId : String) (a b : Entry) : Bool :=
  if keyText a.key = payerId then true
  else if keyText b.key = payerId then false
  else if rank a = rank b then a.order ≤ b.order
  else rank a < rank b

/-- `indexOf.get`, of a map from the texts of the keys, which are distinct. -/
def indexOf (ordered : List Entry) (key : List UInt8) : Option Nat :=
  ordered.findIdx? fun e => keyText e.key = keyText key

def compileInstruction (ordered : List Entry) (ix : SolInstruction) :
    Except String SolCompiledInstruction := do
  let programIdIndex ← need (indexOf ordered ix.programId)
    "sol-tx: internal - program id missing from the account list"
  let accountIndexes ← ix.accounts.mapM fun use =>
    need (indexOf ordered use.pubkey) "sol-tx: internal - account missing from the account list"
  return ⟨programIdIndex, accountIndexes, ix.data⟩

def compileLegacyMessage (feePayer recentBlockhash : List UInt8)
    (instructions : List SolInstruction) : Except String SolCompiledMessage := do
  require (feePayer.length = 32) "sol-tx: fee payer must be 32 bytes"
  require (recentBlockhash.length = 32) "sol-tx: recent blockhash must be 32 bytes"
  let all ← (usesOf feePayer instructions).foldlM touch []
  let ordered := all.mergeSort (before (keyText feePayer))
  require (ordered.length ≤ 255)
    "sol-tx: too many accounts (a legacy message indexes accounts with one byte)"
  let header : SolMessageHeader :=
    { numRequiredSignatures := (ordered.filter fun e => e.isSigner).length
      numReadonlySigned := (ordered.filter fun e => e.isSigner && !e.isWritable).length
      numReadonlyUnsigned := (ordered.filter fun e => !e.isSigner && !e.isWritable).length }
  let compiled ← instructions.mapM (compileInstruction ordered)
  let fields : MessageFields := ⟨header, ordered.map Entry.key, recentBlockhash, compiled⟩
  return { fields with bytes := ← encodeMessage fields }

/-! ## Texts of keys -/

/-- The number that bytes are in base 58 and in base 256. -/
theorem base58Value_encode (bytes : List UInt8) :
    base58Value (base58Encode bytes) = bytes.foldl (fun n b => 256 * n + b.toNat) 0 := by
  -- a letter counts as its digit, a leading `1` as nothing
  have hDigit : ∀ d, d < 58 → Desk.BASE58_ALPHABET.idxOf (Desk.BASE58_ALPHABET.getD d '1') = d := by
    decide
  have hOnes : ∀ n, (List.replicate n '1').foldl
      (fun n c => 58 * n + Desk.BASE58_ALPHABET.idxOf c) 0 = 0 := by
    intro n
    induction n with
    | zero => rfl
    | succ n ih => exact ih
  -- the letters fold as the digits do
  have hFold : ∀ digits : List Nat, (∀ d ∈ digits, d < 58) → ∀ init,
      (digits.map fun d => Desk.BASE58_ALPHABET.getD d '1').foldl
          (fun n c => 58 * n + Desk.BASE58_ALPHABET.idxOf c) init =
        digits.foldl (fun n d => 58 * n + d) init := by
    intro digits
    induction digits with
    | nil => exact fun _ _ => rfl
    | cons d digits ih =>
      intro hLt init
      rw [List.map_cons, List.foldl_cons, List.foldl_cons, hDigit d (hLt d List.mem_cons_self),
        ih fun d' hd' => hLt d' (List.mem_cons_of_mem d hd')]
  -- printed from the top, the digits fold to the number
  have hReverse : ∀ digits : List Nat,
      digits.reverse.foldl (fun n d => 58 * n + d) 0 = Nat.ofDigits 58 digits := by
    intro digits
    induction digits with
    | nil => rfl
    | cons d digits ih =>
      rw [List.reverse_cons, List.foldl_append, ih, List.foldl_cons, List.foldl_nil,
        Nat.ofDigits_cons, Nat.add_comm]
  unfold base58Value base58Encode
  rw [List.foldl_append, hOnes, hFold _ (fun d hd =>
    Nat.digits_lt_base (by decide) (List.mem_reverse.mp hd)), hReverse, Nat.ofDigits_digits]

/-- Bytes of one length are told apart by the number they write. -/
theorem eq_of_foldl_eq {a b : List UInt8} (hLength : a.length = b.length)
    (h : a.foldl (fun n b => 256 * n + b.toNat) 0 = b.foldl (fun n b => 256 * n + b.toNat) 0) :
    a = b := by
  induction a using List.reverseRecOn generalizing b with
  | nil => exact (List.length_eq_zero_iff.mp hLength.symm).symm
  | append_singleton a x ih =>
    rcases List.eq_nil_or_concat b with rfl | ⟨b, y, rfl⟩
    · simp at hLength
    · rw [List.concat_eq_append] at h hLength ⊢
      rw [List.foldl_append, List.foldl_append, List.foldl_cons, List.foldl_cons, List.foldl_nil,
        List.foldl_nil] at h
      have hx := x.toNat_lt
      have hy := y.toNat_lt
      have hLast : x = y := UInt8.toNat_inj.mp (by omega)
      have hInit : a = b := ih (by simpa using hLength) (by omega)
      rw [hLast, hInit]

/-- Keys of 32 bytes print alike only if they are the same. -/
theorem keyText_inj {a b : List UInt8} (ha : a.length = 32) (hb : b.length = 32) :
    keyText a = keyText b ↔ a = b := by
  refine ⟨fun h => ?_, congrArg keyText⟩
  have hValue := congrArg base58Value (String.ofList_inj.mp h)
  rw [base58Value_encode, base58Value_encode] at hValue
  exact eq_of_foldl_eq (ha.trans hb.symm) hValue

/-! ## Merging -/

/-- Where a key is first used. -/
def firstUse (uses : List AccountMeta) (key : List UInt8) : Nat :=
  (uses.map AccountMeta.pubkey).idxOf key

/-- The key of the first use is used first. -/
theorem firstUse_eq_zero {use : AccountMeta} {more : List AccountMeta} {key : List UInt8} :
    firstUse (use :: more) key = 0 ↔ key = use.pubkey := by
  unfold firstUse
  rw [List.map_cons]
  constructor
  · intro hZero
    by_contra hne
    rw [List.idxOf_cons_ne _ (Ne.symm hne)] at hZero
    omega
  · rintro rfl
    exact List.idxOf_cons_self

/-- Every entry has the rights that some use of its key asks for. -/
def Granted (ofUse : AccountMeta → Bool) (ofEntry : Entry → Bool) (uses : List AccountMeta)
    (entries : List Entry) : Prop :=
  ∀ e ∈ entries, ofEntry e = true ↔ ∃ u ∈ uses, u.pubkey = e.key ∧ ofUse u = true

/-- Entries that are the uses, merged. -/
structure Merged (uses : List AccountMeta) (entries : List Entry) : Prop where
  length : ∀ use ∈ uses, use.pubkey.length = 32
  nodup : (entries.map Entry.key).Nodup
  mem : ∀ key, key ∈ entries.map Entry.key ↔ key ∈ uses.map AccountMeta.pubkey
  signer : Granted AccountMeta.isSigner Entry.isSigner uses entries
  writable : Granted AccountMeta.isWritable Entry.isWritable uses entries
  /-- The order is that of the first uses. -/
  order : ∀ (i : Nat) (e : Entry), entries[i]? = some e → e.order = i
  first : entries.Pairwise fun a b => firstUse uses a.key < firstUse uses b.key

section

variable {uses : List AccountMeta} {entries : List Entry} {use : AccountMeta}

/-- The entries after one more use of a key that has one. -/
def upgraded (entries : List Entry) (use : AccountMeta) : List Entry :=
  entries.map fun e => if e.key = use.pubkey then e.merge use else e

def extended (entries : List Entry) (use : AccountMeta) : List Entry :=
  entries ++ [⟨use.pubkey, use.isSigner, use.isWritable, entries.length⟩]

/-- An upgrade keeps the key of an entry. -/
theorem key_upgrade (e : Entry) (use : AccountMeta) :
    (if e.key = use.pubkey then e.merge use else e).key = e.key := by
  split <;> rfl

/-- An upgrade keeps the keys of the entries. -/
theorem map_key_upgraded (entries : List Entry) (use : AccountMeta) :
    (upgraded entries use).map Entry.key = entries.map Entry.key := by
  unfold upgraded
  rw [List.map_map]
  exact List.map_congr_left fun e _ => key_upgrade e use

/-- Upgrading an entry grants what the new use asks for. -/
theorem Granted.upgrade {ofUse : AccountMeta → Bool} {ofEntry : Entry → Bool}
    (h : Granted ofUse ofEntry uses entries)
    (hMerge : ∀ e, ofEntry (e.merge use) = (ofEntry e || ofUse use)) :
    Granted ofUse ofEntry (uses ++ [use]) (upgraded entries use) := by
  intro e' he'
  obtain ⟨e, he, rfl⟩ := List.mem_map.mp he'
  rw [key_upgrade]
  simp only [List.mem_append, List.mem_singleton]
  by_cases hKey : e.key = use.pubkey
  · rw [if_pos hKey, hMerge, Bool.or_eq_true, h e he]
    constructor
    · rintro (⟨u, hu, hu'⟩ | hUse)
      · exact ⟨u, .inl hu, hu'⟩
      · exact ⟨use, .inr rfl, hKey.symm, hUse⟩
    · rintro ⟨u, hu | rfl, hu'⟩
      · exact .inl ⟨u, hu, hu'⟩
      · exact .inr hu'.2
  · rw [if_neg hKey, h e he]
    constructor
    · rintro ⟨u, hu, hu'⟩
      exact ⟨u, .inl hu, hu'⟩
    · rintro ⟨u, hu | rfl, hu'⟩
      · exact ⟨u, hu, hu'⟩
      · exact absurd hu'.1.symm hKey

/-- A new entry grants what its use asks for. -/
theorem Granted.extend {ofUse : AccountMeta → Bool} {ofEntry : Entry → Bool}
    (h : Granted ofUse ofEntry uses entries)
    (hNewUse : use.pubkey ∉ uses.map AccountMeta.pubkey)
    (hNew : use.pubkey ∉ entries.map Entry.key)
    (hEntry : ∀ order, ofEntry ⟨use.pubkey, use.isSigner, use.isWritable, order⟩ = ofUse use) :
    Granted ofUse ofEntry (uses ++ [use]) (extended entries use) := by
  intro e hMem
  simp only [List.mem_append, List.mem_singleton]
  rcases List.mem_append.mp hMem with he | he
  · rw [h e he]
    constructor
    · rintro ⟨u, hu, hu'⟩
      exact ⟨u, .inl hu, hu'⟩
    · rintro ⟨u, hu | rfl, hKey, hu'⟩
      · exact ⟨u, hu, hKey, hu'⟩
      · exact absurd (List.mem_map.mpr ⟨e, he, hKey.symm⟩) hNew
  · rw [List.mem_singleton.mp he, hEntry]
    constructor
    · intro hUse
      exact ⟨use, .inr rfl, rfl, hUse⟩
    · rintro ⟨u, hu | rfl, hKey, hu'⟩
      · exact absurd (List.mem_map.mpr ⟨u, hu, hKey⟩) hNewUse
      · exact hu'

namespace Merged

/-- No uses are merged to no entries. -/
theorem nil : Merged [] [] where
  length := nofun
  nodup := List.nodup_nil
  mem _ := Iff.rfl
  signer := nofun
  writable := nofun
  order _ _ h := by cases h
  first := List.Pairwise.nil

/-- The keys merged have 32 bytes. -/
theorem key_length (h : Merged uses entries) {e : Entry} (he : e ∈ entries) :
    e.key.length = 32 := by
  obtain ⟨use, hUse, hKey⟩ :=
    List.mem_map.mp ((h.mem e.key).mp (List.mem_map_of_mem he))
  rw [← hKey]
  exact h.length use hUse

/-- One more use of 32 bytes keeps the lengths. -/
theorem length_append (h : Merged uses entries) (hLength : use.pubkey.length = 32) :
    ∀ u ∈ uses ++ [use], u.pubkey.length = 32 := by
  intro u hu
  rcases List.mem_append.mp hu with hu | hu
  · exact h.length u hu
  · rw [List.mem_singleton.mp hu]
    exact hLength

/-- A key keeps the place of its first use. -/
theorem first_append (h : Merged uses entries) (use : AccountMeta) :
    entries.Pairwise fun a b => firstUse (uses ++ [use]) a.key < firstUse (uses ++ [use]) b.key := by
  have hSame : ∀ e ∈ entries, firstUse (uses ++ [use]) e.key = firstUse uses e.key := by
    intro e he
    unfold firstUse
    rw [List.map_append]
    exact List.idxOf_append_of_mem ((h.mem e.key).mp (List.mem_map_of_mem he))
  refine h.first.imp_of_mem fun {a b} ha hb hLt => ?_
  rw [hSame a ha, hSame b hb]
  exact hLt

/-- A use of a known key is merged by an upgrade. -/
theorem upgrade (h : Merged uses entries) (hLength : use.pubkey.length = 32)
    (hUsed : use.pubkey ∈ entries.map Entry.key) :
    Merged (uses ++ [use]) (upgraded entries use) where
  length := h.length_append hLength
  nodup := by
    rw [map_key_upgraded]
    exact h.nodup
  -- the keys stay as they are: the use's own is among them
  mem key := by
    rw [map_key_upgraded, h.mem, List.map_append, List.mem_append]
    refine ⟨.inl, ?_⟩
    rintro (hMem | hMem)
    · exact hMem
    · rw [List.mem_singleton.mp hMem]
      exact (h.mem _).mp hUsed
  signer := h.signer.upgrade fun _ => rfl
  writable := h.writable.upgrade fun _ => rfl
  -- an upgrade changes no order number
  order i e' he' := by
    unfold upgraded at he'
    rw [List.getElem?_map] at he'
    obtain ⟨e, he, rfl⟩ := Option.map_eq_some_iff.mp he'
    have hOrder := h.order i e he
    split <;> exact hOrder
  first := by
    unfold upgraded
    rw [List.pairwise_map]
    simp only [key_upgrade]
    exact h.first_append use

/-- A use of a new key is merged by a new entry. -/
theorem extend (h : Merged uses entries) (hLength : use.pubkey.length = 32)
    (hNew : use.pubkey ∉ entries.map Entry.key) :
    Merged (uses ++ [use]) (extended entries use) := by
  have hNewUse : use.pubkey ∉ uses.map AccountMeta.pubkey := fun hMem => hNew ((h.mem _).mpr hMem)
  refine
    { length := h.length_append hLength
      nodup := ?_
      mem := fun key => ?_
      signer := h.signer.extend hNewUse hNew fun _ => rfl
      writable := h.writable.extend hNewUse hNew fun _ => rfl
      order := ?_
      first := ?_ }
  · unfold extended
    rw [List.map_append, List.nodup_append]
    refine ⟨h.nodup, List.nodup_singleton _, ?_⟩
    rintro key hKey key' hKey' rfl
    have hSame : key = use.pubkey := List.mem_singleton.mp hKey'
    exact hNew (hSame ▸ hKey)
  · unfold extended
    simp only [List.map_append, List.mem_append, h.mem, List.map_cons, List.map_nil]
  · intro i e he
    unfold extended at he
    rcases Nat.lt_or_ge i entries.length with hLt | hGe
    · rw [List.getElem?_append_left hLt] at he
      exact h.order i e he
    · rw [List.getElem?_append_right hGe, List.getElem?_singleton] at he
      split at he
      · obtain rfl := Option.some.inj he
        show entries.length = i
        omega
      · cases he
  · unfold extended
    rw [List.pairwise_append]
    refine ⟨h.first_append use, List.pairwise_singleton _ _, ?_⟩
    intro e he e' he'
    obtain rfl := List.mem_singleton.mp he'
    -- a new key is first used last
    have hMem := (h.mem e.key).mp (List.mem_map_of_mem he)
    have hLt := List.idxOf_lt_length_of_mem hMem
    unfold firstUse
    rw [List.map_append, List.idxOf_append_of_mem hMem, List.idxOf_append_of_notMem hNewUse]
    omega

/-- One step of the compiler. -/
theorem touch (h : Merged uses entries) {entries' : List Entry}
    (hTouch : SolTx.touch entries use = .ok entries') : Merged (uses ++ [use]) entries' := by
  unfold SolTx.touch at hTouch
  obtain ⟨hLength, hRest⟩ := require_bind_eq_ok.mp hTouch
  -- the texts of the keys tell the keys apart
  have hText : ∀ e ∈ entries, (keyText e.key = keyText use.pubkey ↔ e.key = use.pubkey) :=
    fun e he => keyText_inj (h.key_length he) hLength
  split at hRest
  · rename_i hAny
    obtain ⟨e, he, hSame⟩ := List.any_eq_true.mp hAny
    have hKey := (hText e he).mp (of_decide_eq_true hSame)
    have hEntries : (entries.map fun e =>
        if keyText e.key = keyText use.pubkey then e.merge use else e) = upgraded entries use :=
      List.map_congr_left fun e he => by simp only [hText e he]
    obtain rfl := Except.ok.inj hRest
    rw [hEntries]
    exact h.upgrade hLength (hKey ▸ List.mem_map_of_mem he)
  · rename_i hAny
    obtain rfl := Except.ok.inj hRest
    refine h.extend hLength fun hMem => hAny ?_
    obtain ⟨e, he, hKey⟩ := List.mem_map.mp hMem
    exact List.any_eq_true.mpr ⟨e, he, decide_eq_true (congrArg keyText hKey)⟩

/-- Touching one use after another merges them all. -/
theorem foldlM_touch {more : List AccountMeta} (h : Merged uses entries) {entries' : List Entry}
    (hFold : more.foldlM SolTx.touch entries = .ok entries') : Merged (uses ++ more) entries' := by
  induction more generalizing uses entries with
  | nil =>
    obtain rfl := Except.ok.inj hFold
    rwa [List.append_nil]
  | cons use more ih =>
    rw [List.foldlM_cons] at hFold
    obtain ⟨between, hTouch, hRest⟩ := bind_eq_ok.mp hFold
    have hMerged := ih (h.touch hTouch) hRest
    rwa [List.append_assoc, List.singleton_append] at hMerged

end Merged

end

/-! ## Sorting -/

section

variable {payerId : String}

/-- Any two entries are in order one way or the other. -/
theorem before_total (a b : Entry) : (before payerId a b || before payerId b a) = true := by
  unfold before
  by_cases ha : keyText a.key = payerId
  · simp [ha]
  by_cases hb : keyText b.key = payerId
  · simp [hb]
  simp only [ha, hb, ↓reduceIte]
  by_cases hRank : rank a = rank b
  · simp only [hRank, ↓reduceIte, Bool.or_eq_true, decide_eq_true_eq]
    omega
  · simp only [hRank, Ne.symm hRank, ↓reduceIte, Bool.or_eq_true, decide_eq_true_eq]
    omega

/-- The order of entries is transitive. -/
theorem before_trans (a b c : Entry) (hab : before payerId a b = true)
    (hbc : before payerId b c = true) : before payerId a c = true := by
  unfold before at *
  by_cases ha : keyText a.key = payerId
  · simp [ha]
  simp only [ha, ↓reduceIte] at hab ⊢
  by_cases hb : keyText b.key = payerId
  · simp [hb] at hab
  simp only [hb, ↓reduceIte] at hab hbc
  by_cases hc : keyText c.key = payerId
  · simp [hc] at hbc
  simp only [hc, ↓reduceIte] at hbc ⊢
  split_ifs at * <;> simp only [decide_eq_true_eq] at * <;> omega

end

section

variable {uses : List AccountMeta} {all : List Entry} {feePayer : List UInt8}

/-- Entries of one order number are one entry. -/
theorem Merged.eq_of_order (h : Merged uses all) {a b : Entry} (ha : a ∈ all) (hb : b ∈ all)
    (hOrder : a.order = b.order) : a = b := by
  obtain ⟨i, hi⟩ := List.mem_iff_getElem?.mp ha
  obtain ⟨j, hj⟩ := List.mem_iff_getElem?.mp hb
  rw [h.order i a hi, h.order j b hj] at hOrder
  rw [hOrder, hj] at hi
  exact (Option.some.inj hi).symm

/-- Entries are numbered by their first use. -/
theorem Merged.first_of_order (h : Merged uses all) {a b : Entry} (ha : a ∈ all) (hb : b ∈ all)
    (hOrder : a.order < b.order) : firstUse uses a.key < firstUse uses b.key := by
  obtain ⟨i, hi⟩ := List.mem_iff_getElem?.mp ha
  obtain ⟨j, hj⟩ := List.mem_iff_getElem?.mp hb
  rw [h.order i a hi, h.order j b hj] at hOrder
  obtain ⟨hLt, rfl⟩ := List.getElem?_eq_some_iff.mp hi
  obtain ⟨hLt', rfl⟩ := List.getElem?_eq_some_iff.mp hj
  exact List.pairwise_iff_getElem.mp h.first i j hLt hLt' hOrder

/-- The entries as the message has them. -/
structure Ordered (uses : List AccountMeta) (feePayer : List UInt8) (ordered : List Entry) :
    Prop where
  nodup : (ordered.map Entry.key).Nodup
  length : ∀ use ∈ uses, use.pubkey.length = 32
  mem : ∀ key, key ∈ ordered.map Entry.key ↔ key ∈ uses.map AccountMeta.pubkey
  signer : Granted AccountMeta.isSigner Entry.isSigner uses ordered
  writable : Granted AccountMeta.isWritable Entry.isWritable uses ordered
  /-- By category, and then by first use. -/
  sorted : ordered.Pairwise fun a b => rank a < rank b ∨
    (rank a = rank b ∧ firstUse uses a.key < firstUse uses b.key)

/-- The entries of rank 0 are the writable signers. -/
theorem rank_eq_zero {e : Entry} : rank e = 0 ↔ e.isSigner = true ∧ e.isWritable = true := by
  unfold rank
  cases e.isSigner <;> cases e.isWritable <;> decide

/-- The entries of rank 0 or 1 are the signers. -/
theorem rank_le_one {e : Entry} : rank e ≤ 1 ↔ e.isSigner = true := by
  unfold rank
  cases e.isSigner <;> cases e.isWritable <;> decide

/-- The fee payer's entry has every right, and is first used first. -/
theorem Merged.payer {more : List AccountMeta} (h : Merged (⟨feePayer, true, true⟩ :: more) all)
    {e : Entry} (he : e ∈ all) (hKey : e.key = feePayer) :
    rank e = 0 ∧ firstUse (⟨feePayer, true, true⟩ :: more) e.key = 0 := by
  refine ⟨rank_eq_zero.mpr ⟨(h.signer e he).mpr ?_, (h.writable e he).mpr ?_⟩, ?_⟩
  · exact ⟨_, List.mem_cons_self, hKey.symm, rfl⟩
  · exact ⟨_, List.mem_cons_self, hKey.symm, rfl⟩
  · exact firstUse_eq_zero.mpr hKey

/-- Sorting merged entries orders them. -/
theorem Merged.ordered {more : List AccountMeta}
    (h : Merged (⟨feePayer, true, true⟩ :: more) all) :
    Ordered (⟨feePayer, true, true⟩ :: more) feePayer
      (all.mergeSort (before (keyText feePayer))) := by
  have hPerm := List.mergeSort_perm all (before (keyText feePayer))
  have hPayerLength : feePayer.length = 32 := h.length _ List.mem_cons_self
  have hSorted : (all.mergeSort (before (keyText feePayer))).Pairwise
      fun a b => before (keyText feePayer) a b = true :=
    List.pairwise_mergeSort before_trans before_total all
  have hKeys := hPerm.map Entry.key
  have hNodup := hKeys.nodup_iff.mpr h.nodup
  refine
    { nodup := hNodup
      length := h.length
      mem := fun key => by rw [hKeys.mem_iff, h.mem]
      signer := fun e he => h.signer e (hPerm.mem_iff.mp he)
      writable := fun e he => h.writable e (hPerm.mem_iff.mp he)
      sorted := ?_ }
  -- no key comes twice, so the sort is strict
  have hDistinct : (all.mergeSort (before (keyText feePayer))).Pairwise fun a b => a.key ≠ b.key :=
    List.pairwise_map.mp hNodup
  refine (hSorted.and hDistinct).imp_of_mem fun {a b} ha hb hab => ?_
  obtain ⟨hBefore, hne⟩ := hab
  have ha := hPerm.mem_iff.mp ha
  have hb := hPerm.mem_iff.mp hb
  have hPayer : ∀ e ∈ all, (keyText e.key = keyText feePayer ↔ e.key = feePayer) :=
    fun e he => keyText_inj (h.key_length he) hPayerLength
  by_cases hA : a.key = feePayer
  · -- the fee payer comes first in its category
    obtain ⟨hRank, hFirst⟩ := h.payer ha hA
    rcases Nat.eq_zero_or_pos (rank b) with hZero | hPos
    · refine .inr ⟨by rw [hRank, hZero], ?_⟩
      rw [hFirst]
      exact Nat.pos_of_ne_zero fun hFirstB => hne (hA.trans (firstUse_eq_zero.mp hFirstB).symm)
    · exact .inl (by omega)
  -- any other entry goes by category, then by its first use
  · unfold before at hBefore
    rw [if_neg (fun hText => hA ((hPayer a ha).mp hText))] at hBefore
    split at hBefore
    · cases hBefore
    split at hBefore
    · rename_i hRank
      refine .inr ⟨hRank, h.first_of_order ha hb ?_⟩
      have hLe := of_decide_eq_true hBefore
      rcases hLe.lt_or_eq with hLt | hEq
      · exact hLt
      · exact absurd (congrArg Entry.key (h.eq_of_order ha hb hEq)) hne
    · exact .inl (of_decide_eq_true hBefore)

end

/-! ## Privileges -/

/-- Account `i` of a message is a signer. -/
def MessageFields.isSigner (m : MessageFields) (i : Nat) : Bool :=
  i < m.header.numRequiredSignatures

/-- Account `i` of a message is writable. -/
def MessageFields.isWritable (m : MessageFields) (i : Nat) : Bool :=
  if m.isSigner i then i < m.header.numRequiredSignatures - m.header.numReadonlySigned
  else i < m.accountKeys.length - m.header.numReadonlyUnsigned

/-- Signer and writable, signer, writable, neither. -/
def MessageFields.category (m : MessageFields) (i : Nat) : Nat :=
  if m.isSigner i then if m.isWritable i then 0 else 1 else if m.isWritable i then 2 else 3

/-- The indices of an instruction lead to the accounts that it names. -/
def Resolves (keys : List (List UInt8)) (ix : SolInstruction) (c : SolCompiledInstruction) :
    Prop :=
  keys[c.programIdIndex]? = some ix.programId ∧
    c.accountIndexes.map (fun i => keys[i]?) = ix.accounts.map (fun use => some use.pubkey) ∧
    c.data = ix.data

/-- What is right of a message that was compiled. -/
structure Privileges (feePayer : List UInt8) (instructions : List SolInstruction)
    (m : MessageFields) : Prop where
  once : m.accountKeys.Nodup
  used : ∀ key, key ∈ m.accountKeys ↔ key = feePayer ∨
    ∃ ix ∈ instructions, key = ix.programId ∨ ∃ use ∈ ix.accounts, use.pubkey = key
  payer : m.accountKeys[0]? = some feePayer
  readonlySigned : m.header.numReadonlySigned < m.header.numRequiredSignatures
  readonlyUnsigned :
    m.header.numRequiredSignatures + m.header.numReadonlyUnsigned ≤ m.accountKeys.length
  signer : ∀ (i : Nat) (key : List UInt8), m.accountKeys[i]? = some key →
    (m.isSigner i = true ↔ key = feePayer ∨
      ∃ ix ∈ instructions, ∃ use ∈ ix.accounts, use.pubkey = key ∧ use.isSigner = true)
  writable : ∀ (i : Nat) (key : List UInt8), m.accountKeys[i]? = some key →
    (m.isWritable i = true ↔ key = feePayer ∨
      ∃ ix ∈ instructions, ∃ use ∈ ix.accounts, use.pubkey = key ∧ use.isWritable = true)
  sorted : ∀ (i j : Nat) (key key' : List UInt8), i < j → m.accountKeys[i]? = some key →
    m.accountKeys[j]? = some key' → m.category i < m.category j ∨
      (m.category i = m.category j ∧
        firstUse (usesOf feePayer instructions) key < firstUse (usesOf feePayer instructions) key')
  resolves : List.Forall₂ (Resolves m.accountKeys) instructions m.instructions

section

variable {feePayer : List UInt8} {instructions : List SolInstruction}

/-- The keys used are the payer's and those of the instructions. -/
theorem mem_usesOf {key : List UInt8} :
    key ∈ (usesOf feePayer instructions).map AccountMeta.pubkey ↔ key = feePayer ∨
      ∃ ix ∈ instructions, key = ix.programId ∨ ∃ use ∈ ix.accounts, use.pubkey = key := by
  unfold usesOf
  simp only [List.map_cons, List.mem_cons, List.mem_map, List.mem_flatMap, List.mem_append,
    List.not_mem_nil, or_false]
  refine or_congr_right ⟨?_, ?_⟩
  · rintro ⟨use, ⟨ix, hix, hUse | rfl⟩, rfl⟩
    · exact ⟨ix, hix, .inr ⟨use, hUse, rfl⟩⟩
    · exact ⟨ix, hix, .inl rfl⟩
  · rintro ⟨ix, hix, rfl | ⟨use, hUse, rfl⟩⟩
    · exact ⟨_, ⟨ix, hix, .inr rfl⟩, rfl⟩
    · exact ⟨use, ⟨ix, hix, .inl hUse⟩, rfl⟩

/-- A right that the fee payer has and a program does not get of being called. -/
theorem exists_usesOf {right : AccountMeta → Bool} (hPayer : right ⟨feePayer, true, true⟩ = true)
    (hProgram : ∀ programId, right ⟨programId, false, false⟩ = false) {key : List UInt8} :
    (∃ u ∈ usesOf feePayer instructions, u.pubkey = key ∧ right u = true) ↔ key = feePayer ∨
      ∃ ix ∈ instructions, ∃ use ∈ ix.accounts, use.pubkey = key ∧ right use = true := by
  unfold usesOf
  simp only [List.mem_cons, List.mem_flatMap, List.mem_append, List.not_mem_nil, or_false]
  constructor
  · rintro ⟨u, rfl | ⟨ix, hix, hUse | rfl⟩, rfl, hRight⟩
    · exact .inl rfl
    · exact .inr ⟨ix, hix, u, hUse, rfl, hRight⟩
    · rw [hProgram] at hRight
      cases hRight
  · rintro (rfl | ⟨ix, hix, use, hUse, rfl, hRight⟩)
    · exact ⟨_, .inl rfl, rfl, hPayer⟩
    · exact ⟨use, .inr ⟨ix, hix, .inl hUse⟩, rfl, hRight⟩

/-- Where an entry stands tells its rank. -/
theorem Ordered.lt_countP_iff {uses : List AccountMeta} {ordered : List Entry}
    (h : Ordered uses feePayer ordered) (bound : Nat) {i : Nat} {e : Entry}
    (he : ordered[i]? = some e) : i < ordered.countP (fun e => rank e ≤ bound) ↔ rank e ≤ bound := by
  have hRank : ordered.Pairwise fun a b => rank a ≤ rank b :=
    h.sorted.imp fun hab => hab.elim Nat.le_of_lt fun hEq => hEq.1.le
  rw [hRank.lt_countP_iff (fun a b hab hb =>
    decide_eq_true (hab.trans (of_decide_eq_true hb))) he, decide_eq_true_eq]

/-- The counts of the header. -/
def headerOf (ordered : List Entry) : SolMessageHeader :=
  { numRequiredSignatures := (ordered.filter fun e => e.isSigner).length
    numReadonlySigned := (ordered.filter fun e => e.isSigner && !e.isWritable).length
    numReadonlyUnsigned := (ordered.filter fun e => !e.isSigner && !e.isWritable).length }

/-- The parts of a compiled message. -/
theorem compileLegacyMessage_ok {recentBlockhash : List UInt8} {m : SolCompiledMessage}
    (h : compileLegacyMessage feePayer recentBlockhash instructions = .ok m) :
    ∃ ordered, Ordered (usesOf feePayer instructions) feePayer ordered ∧ ordered.length ≤ 255 ∧
      recentBlockhash.length = 32 ∧ m.header = headerOf ordered ∧
      m.accountKeys = ordered.map Entry.key ∧ m.recentBlockhash = recentBlockhash ∧
      List.Forall₂ (fun ix c => compileInstruction ordered ix = .ok c) instructions
        m.instructions ∧
      encodeMessage m.toMessageFields = .ok m.bytes := by
  unfold compileLegacyMessage at h
  obtain ⟨-, h⟩ := require_bind_eq_ok.mp h
  obtain ⟨hBlockhash, h⟩ := require_bind_eq_ok.mp h
  obtain ⟨all, hAll, h⟩ := bind_eq_ok.mp h
  obtain ⟨hCount, h⟩ := require_bind_eq_ok.mp h
  obtain ⟨compiled, hCompiled, h⟩ := bind_eq_ok.mp h
  obtain ⟨bytes, hBytes, h⟩ := bind_eq_ok.mp h
  obtain rfl := Except.ok.inj h
  have hMerged : Merged (usesOf feePayer instructions) all := Merged.nil.foldlM_touch hAll
  exact ⟨_, hMerged.ordered, hCount, hBlockhash, rfl, rfl, rfl, mapM_eq_ok.mp hCompiled,
    hBytes⟩

/-- The counts of the header are those of the ranks. -/
theorem headerOf_counts (ordered : List Entry) :
    (headerOf ordered).numRequiredSignatures = ordered.countP (fun e => rank e ≤ 1) ∧
    (headerOf ordered).numRequiredSignatures =
      ordered.countP (fun e => rank e ≤ 0) + (headerOf ordered).numReadonlySigned ∧
    ordered.length =
      ordered.countP (fun e => rank e ≤ 2) + (headerOf ordered).numReadonlyUnsigned := by
  unfold headerOf
  simp only [← List.countP_eq_length_filter]
  refine ⟨List.countP_congr fun e _ => ?_, List.countP_eq_add ?_ ?_, ?_⟩
  · rw [decide_eq_true_eq, rank_le_one]
  · intro e _
    unfold rank
    cases e.isSigner <;> cases e.isWritable <;> rfl
  · intro e _
    unfold rank
    cases e.isSigner <;> cases e.isWritable <;> rfl
  · rw [← List.countP_true]
    refine List.countP_eq_add ?_ ?_
    · intro e _
      unfold rank
      cases e.isSigner <;> cases e.isWritable <;> rfl
    · intro e _
      unfold rank
      cases e.isSigner <;> cases e.isWritable <;> rfl

/-- An index leads to the key it was looked up for. -/
theorem getElem?_of_indexOf {uses : List AccountMeta} {ordered : List Entry}
    (h : Ordered uses feePayer ordered) {key : List UInt8} {i : Nat}
    (hKey : key ∈ uses.map AccountMeta.pubkey) (hIndex : indexOf ordered key = some i) :
    (ordered.map Entry.key)[i]? = some key := by
  obtain ⟨hLt, hText, -⟩ := List.findIdx?_eq_some_iff_getElem.mp hIndex
  have hLength : ∀ key ∈ uses.map AccountMeta.pubkey, key.length = 32 := by
    intro key hKey
    obtain ⟨use, hUse, rfl⟩ := List.mem_map.mp hKey
    exact h.length use hUse
  have hMem : ordered[i].key ∈ ordered.map Entry.key := List.mem_map_of_mem (List.getElem_mem hLt)
  have hSame := (keyText_inj (hLength _ ((h.mem _).mp hMem)) (hLength _ hKey)).mp
    (of_decide_eq_true hText)
  rw [List.getElem?_map, List.getElem?_eq_getElem hLt, Option.map_some, hSame]

/-- What the header says of the account at an index. -/
theorem flags_of_entry {uses : List AccountMeta} {ordered : List Entry} {m : MessageFields}
    (h : Ordered uses feePayer ordered) (hHeader : m.header = headerOf ordered)
    (hKeys : m.accountKeys = ordered.map Entry.key) {i : Nat} {e : Entry}
    (he : ordered[i]? = some e) :
    m.isSigner i = e.isSigner ∧ m.isWritable i = e.isWritable ∧ m.category i = rank e := by
  obtain ⟨hRequired, hSigned, hUnsigned⟩ := headerOf_counts ordered
  have hSigner : m.isSigner i = e.isSigner := by
    rw [Bool.eq_iff_iff, ← rank_le_one, ← h.lt_countP_iff 1 he, ← hRequired, ← hHeader]
    exact decide_eq_true_iff
  have hWritable : m.isWritable i = e.isWritable := by
    unfold MessageFields.isWritable
    rw [hSigner, hHeader, hKeys, List.length_map]
    have hZero := h.lt_countP_iff 0 he
    have hTwo := h.lt_countP_iff 2 he
    have hSub : (headerOf ordered).numRequiredSignatures - (headerOf ordered).numReadonlySigned =
        ordered.countP (fun e => rank e ≤ 0) := by omega
    have hSub' : ordered.length - (headerOf ordered).numReadonlyUnsigned =
        ordered.countP (fun e => rank e ≤ 2) := by omega
    rw [hSub, hSub']
    simp only [hZero, hTwo]
    unfold rank
    cases e.isSigner <;> cases e.isWritable <;> rfl
  refine ⟨hSigner, hWritable, ?_⟩
  unfold MessageFields.category rank
  rw [hSigner, hWritable]

/-- A compiled instruction resolves to the one compiled. -/
theorem resolves_of_compileInstruction {uses : List AccountMeta} {ordered : List Entry}
    (h : Ordered uses feePayer ordered) {ix : SolInstruction} {c : SolCompiledInstruction}
    (hUses : ∀ use ∈ ix.accounts ++ [⟨ix.programId, false, false⟩],
      use.pubkey ∈ uses.map AccountMeta.pubkey)
    (hCompile : compileInstruction ordered ix = .ok c) :
    Resolves (ordered.map Entry.key) ix c := by
  unfold compileInstruction at hCompile
  obtain ⟨programIdIndex, hProgram, hCompile⟩ := need_bind_eq_ok.mp hCompile
  obtain ⟨accountIndexes, hAccounts, hCompile⟩ := bind_eq_ok.mp hCompile
  obtain rfl := Except.ok.inj hCompile
  refine ⟨getElem?_of_indexOf h (hUses ⟨ix.programId, false, false⟩ (by simp)) hProgram, ?_, rfl⟩
  have hIndexes := mapM_eq_ok.mp hAccounts
  have hEach : ∀ use ∈ ix.accounts, use.pubkey ∈ uses.map AccountMeta.pubkey :=
    fun use hUse => hUses use (List.mem_append_left _ hUse)
  dsimp only
  clear * - h hIndexes hEach
  generalize ix.accounts = accounts at hIndexes hEach ⊢
  induction hIndexes with
  | nil => rfl
  | cons hIndex _ ih =>
    rw [List.map_cons, List.map_cons, ih fun use hUse => hEach use (List.mem_cons_of_mem _ hUse),
      getElem?_of_indexOf h (hEach _ List.mem_cons_self) (need_eq_ok.mp hIndex)]

/-- The payer comes first. -/
theorem Ordered.payer_first {more : List AccountMeta} {ordered : List Entry}
    (h : Ordered (⟨feePayer, true, true⟩ :: more) feePayer ordered) :
    ∃ e, ordered[0]? = some e ∧ e.key = feePayer ∧ rank e = 0 := by
  obtain ⟨e, he, hKey⟩ := List.mem_map.mp ((h.mem feePayer).mpr List.mem_cons_self)
  have hRank : rank e = 0 := rank_eq_zero.mpr
    ⟨(h.signer e he).mpr ⟨_, List.mem_cons_self, hKey.symm, rfl⟩,
      (h.writable e he).mpr ⟨_, List.mem_cons_self, hKey.symm, rfl⟩⟩
  obtain ⟨i, hi⟩ := List.mem_iff_getElem?.mp he
  cases i with
  | zero => exact ⟨e, hi, hKey, hRank⟩
  | succ i =>
    -- nothing comes before an entry of rank 0 that is used first of all
    obtain ⟨hLt, rfl⟩ := List.getElem?_eq_some_iff.mp hi
    have hFirst : firstUse (⟨feePayer, true, true⟩ :: more) ordered[i + 1].key = 0 :=
      firstUse_eq_zero.mpr hKey
    have hBefore := List.pairwise_iff_getElem.mp h.sorted 0 (i + 1) (by omega) hLt (by omega)
    omega

/-- The counts of the header stay within the keys. -/
theorem Ordered.header_bounds {more : List AccountMeta} {ordered : List Entry}
    (h : Ordered (⟨feePayer, true, true⟩ :: more) feePayer ordered) :
    (headerOf ordered).numReadonlySigned < (headerOf ordered).numRequiredSignatures ∧
      (headerOf ordered).numRequiredSignatures + (headerOf ordered).numReadonlyUnsigned ≤
        ordered.length := by
  obtain ⟨payer, hPayer, -, hPayerRank⟩ := h.payer_first
  obtain ⟨hRequired, hSigned, hUnsigned⟩ := headerOf_counts ordered
  have hZero := (h.lt_countP_iff 0 hPayer).mpr hPayerRank.le
  have hMono : ordered.countP (fun e => rank e ≤ 1) ≤ ordered.countP (fun e => rank e ≤ 2) :=
    List.countP_mono_left fun e _ hOne =>
      decide_eq_true ((of_decide_eq_true hOne).trans (by decide))
  omega

/-- The compiled instructions resolve to the ones compiled. -/
theorem resolves_of_compile {ordered : List Entry} {compiled : List SolCompiledInstruction}
    (h : Ordered (usesOf feePayer instructions) feePayer ordered)
    (hCompiled : List.Forall₂ (fun ix c => compileInstruction ordered ix = .ok c) instructions
      compiled) :
    List.Forall₂ (Resolves (ordered.map Entry.key)) instructions compiled := by
  have hMem : ∀ ix ∈ instructions, ∀ use ∈ ix.accounts ++ [⟨ix.programId, false, false⟩],
      use.pubkey ∈ (usesOf feePayer instructions).map AccountMeta.pubkey :=
    fun ix hix use hUse => List.mem_map_of_mem
      (List.mem_cons_of_mem _ (List.mem_flatMap.mpr ⟨ix, hix, hUse⟩))
  exact ((List.forall₂_and_left _ _).mpr ⟨hMem, hCompiled⟩).imp fun ix c hix =>
    resolves_of_compileInstruction h hix.1 hix.2

end

/-- Every account is listed once, has the rights that some use of it asks for and no others, and
is what the indices of the instructions lead to. -/
theorem compileLegacyMessage_privileges {feePayer recentBlockhash : List UInt8}
    {instructions : List SolInstruction} {m : SolCompiledMessage}
    (h : compileLegacyMessage feePayer recentBlockhash instructions = .ok m) :
    Privileges feePayer instructions m.toMessageFields := by
  obtain ⟨ordered, hOrdered, -, -, hHeader, hKeys, -, hCompiled, -⟩ := compileLegacyMessage_ok h
  obtain ⟨payer, hPayer, hPayerKey, -⟩ := hOrdered.payer_first
  obtain ⟨hSigned, hUnsigned⟩ := hOrdered.header_bounds
  -- an account key belongs to the entry at its index
  have hEntry : ∀ (i : Nat) (key : List UInt8), m.accountKeys[i]? = some key →
      ∃ e, ordered[i]? = some e ∧ e.key = key := by
    intro i key hKey
    rw [hKeys, List.getElem?_map] at hKey
    exact Option.map_eq_some_iff.mp hKey
  refine
    { once := by rw [hKeys]; exact hOrdered.nodup
      used := fun key => by rw [hKeys, hOrdered.mem, mem_usesOf]
      payer := by rw [hKeys, List.getElem?_map, hPayer, Option.map_some, hPayerKey]
      readonlySigned := by rw [hHeader]; exact hSigned
      readonlyUnsigned := by rw [hHeader, hKeys, List.length_map]; exact hUnsigned
      signer := fun i key hKey => ?_
      writable := fun i key hKey => ?_
      sorted := fun i j key key' hLt hKey hKey' => ?_
      resolves := by rw [hKeys]; exact resolves_of_compile hOrdered hCompiled }
  -- the counts of the header tell what each entry was granted
  · obtain ⟨e, he, rfl⟩ := hEntry i key hKey
    obtain ⟨hSigner, -, -⟩ := flags_of_entry hOrdered hHeader hKeys he
    rw [hSigner, hOrdered.signer e (List.mem_of_getElem? he)]
    exact exists_usesOf rfl fun _ => rfl
  · obtain ⟨e, he, rfl⟩ := hEntry i key hKey
    obtain ⟨-, hWritable, -⟩ := flags_of_entry hOrdered hHeader hKeys he
    rw [hWritable, hOrdered.writable e (List.mem_of_getElem? he)]
    exact exists_usesOf rfl fun _ => rfl
  -- and the sort tells the categories in order
  · obtain ⟨e, he, rfl⟩ := hEntry i key hKey
    obtain ⟨e', he', rfl⟩ := hEntry j key' hKey'
    obtain ⟨-, -, hCategory⟩ := flags_of_entry hOrdered hHeader hKeys he
    obtain ⟨-, -, hCategory'⟩ := flags_of_entry hOrdered hHeader hKeys he'
    rw [hCategory, hCategory']
    obtain ⟨hi, rfl⟩ := List.getElem?_eq_some_iff.mp he
    obtain ⟨hj, rfl⟩ := List.getElem?_eq_some_iff.mp he'
    exact List.pairwise_iff_getElem.mp hOrdered.sorted i j hi hj hLt

namespace Sample

/-- The public keys of the first two test vectors of Ed25519. -/
def feePayer : List UInt8 :=
  [215, 90, 152, 1, 130, 177, 10, 183, 213, 75, 254, 211, 201, 100, 7, 58, 14, 225, 114, 243, 218,
    166, 35, 37, 175, 2, 26, 104, 247, 7, 81, 26]

def second : List UInt8 :=
  [61, 64, 23, 195, 232, 67, 137, 90, 146, 183, 10, 167, 77, 27, 126, 188, 156, 152, 44, 207, 46,
    196, 150, 140, 192, 205, 85, 241, 42, 244, 102, 12]

def program : List UInt8 := List.replicate 32 4

def blockhash : List UInt8 := List.replicate 32 9

/-- The second signer is named twice, once to sign and once to be written. -/
def instruction : SolInstruction :=
  ⟨program, [⟨second, true, false⟩, ⟨feePayer, false, false⟩, ⟨second, false, true⟩], [7]⟩

def fields : MessageFields :=
  ⟨⟨2, 0, 1⟩, [feePayer, second, program], blockhash, [⟨2, [1, 0, 1], [7]⟩]⟩

def bytes : List UInt8 :=
  [2, 0, 1, 3] ++ (feePayer ++ (second ++ (program ++ (blockhash ++ [1, 2, 3, 1, 0, 1, 1, 7]))))

/-- The sample instruction compiles. -/
theorem compile_ok :
    compileLegacyMessage feePayer blockhash [instruction] = .ok ⟨fields, bytes⟩ := by
  have hTouched : (usesOf feePayer [instruction]).foldlM touch [] =
      .ok [⟨feePayer, true, true, 0⟩, ⟨second, true, true, 1⟩, ⟨program, false, false, 2⟩] := by
    decide
  have hSort : [(⟨feePayer, true, true, 0⟩ : Entry), ⟨second, true, true, 1⟩,
      ⟨program, false, false, 2⟩].mergeSort (before (keyText feePayer)) =
      [⟨feePayer, true, true, 0⟩, ⟨second, true, true, 1⟩, ⟨program, false, false, 2⟩] :=
    List.mergeSort_of_pairwise (by decide)
  have hCompiled : [instruction].mapM (compileInstruction
      [⟨feePayer, true, true, 0⟩, ⟨second, true, true, 1⟩, ⟨program, false, false, 2⟩]) =
      .ok [⟨2, [1, 0, 1], [7]⟩] := by
    decide
  have hEncode : encodeMessage fields = .ok bytes := by
    simp [encodeMessage, compactArray, fields, bytes, encodeInstruction, encodeShortvec_of_lt,
      pure, Except.pure, bind, Except.bind]
  refine require_bind_eq_ok.mpr ⟨by decide, require_bind_eq_ok.mpr ⟨by decide,
    bind_eq_ok.mpr ⟨_, hTouched, ?_⟩⟩⟩
  rw [hSort]
  exact require_bind_eq_ok.mpr ⟨by decide, bind_eq_ok.mpr ⟨_, hCompiled,
    bind_eq_ok.mpr ⟨_, hEncode, rfl⟩⟩⟩

end Sample

/-- Both uses of the second signer count. -/
theorem compileLegacyMessage_privileges_sample :
    Privileges Sample.feePayer [Sample.instruction] Sample.fields :=
  compileLegacyMessage_privileges Sample.compile_ok

end SwapDesk.Rails.SolTx
