import Mathlib.Tactic.Common
import Mathlib.Data.UInt

/-!
# SwapDesk — text helpers of the NEAR contract

The helpers at the bottom of `contracts-near/htlc/src/lib.rs`, over the UTF-8
bytes of a string as Rust sees them, and the account ids they are applied to.

Main results:

* `decodeHex_hexEncode`: decoding what the contract encodes gives the bytes
  back, so a stored preimage can be read from its view;
* `lockKey_inj`: the storage key of a lock determines its payer and its hash
  lock, because an account id has no `:`.
-/

namespace SwapDesk.Near

/-- The bytes of a Rust `&str`. -/
def utf8Bytes (s : String) : List UInt8 := s.toList.flatMap String.utf8EncodeChar

-- ---------------------------------------------------------------------------
-- Hexadecimal
-- ---------------------------------------------------------------------------

def HEX : List Char :=
  ['0', '1', '2', '3', '4', '5', '6', '7', '8', '9', 'a', 'b', 'c', 'd', 'e', 'f']

def hexChar (nibble : UInt8) : Char := HEX.getD nibble.toNat '0'

def hexEncode (bytes : List UInt8) : String :=
  String.ofList (bytes.flatMap fun b => [hexChar (b >>> (4 : UInt8)), hexChar (b &&& 0x0f)])

def hexVal (b : UInt8) : Option UInt8 :=
  if 48 ≤ b ∧ b ≤ 57 then some (b - 48)
  else if 97 ≤ b ∧ b ≤ 102 then some (b - 97 + 10)
  else if 65 ≤ b ∧ b ≤ 70 then some (b - 65 + 10)
  else none

/-- The loop of `decode_hex`, which reads two bytes at a time. -/
def decodeHexPairs : List UInt8 → Option (List UInt8)
  | [] => some []
  | [_] => none
  | b₀ :: b₁ :: rest =>
    match hexVal b₀, hexVal b₁ with
    | some hi, some lo => (decodeHexPairs rest).map fun out => (hi <<< 4 ||| lo) :: out
    | _, _ => none

def decodeHex (s : String) : Option (List UInt8) :=
  if (utf8Bytes s).length % 2 ≠ 0 then none else decodeHexPairs (utf8Bytes s)

/-- The two characters of a byte are one byte each in UTF-8 and decode to it. -/
theorem hexVal_hexChar (b : UInt8) : ∃ b₀ b₁ hi lo,
    String.utf8EncodeChar (hexChar (b >>> (4 : UInt8))) = [b₀] ∧
    String.utf8EncodeChar (hexChar (b &&& 0x0f)) = [b₁] ∧
    hexVal b₀ = some hi ∧ hexVal b₁ = some lo ∧ hi <<< 4 ||| lo = b := by
  have key : ∀ n : Fin 256,
      String.utf8EncodeChar (hexChar (UInt8.ofNat n >>> (4 : UInt8))) =
        [(hexChar (UInt8.ofNat n >>> (4 : UInt8))).val.toUInt8] ∧
      String.utf8EncodeChar (hexChar (UInt8.ofNat n &&& 0x0f)) =
        [(hexChar (UInt8.ofNat n &&& 0x0f)).val.toUInt8] ∧
      hexVal (hexChar (UInt8.ofNat n >>> (4 : UInt8))).val.toUInt8 =
        some (UInt8.ofNat n >>> (4 : UInt8)) ∧
      hexVal (hexChar (UInt8.ofNat n &&& 0x0f)).val.toUInt8 = some (UInt8.ofNat n &&& 0x0f) ∧
      (UInt8.ofNat n >>> (4 : UInt8)) <<< 4 ||| (UInt8.ofNat n &&& 0x0f) = UInt8.ofNat n := by
    decide +kernel
  have hb := key ⟨b.toNat, b.toNat_lt⟩
  simp only [UInt8.ofNat_toNat] at hb
  exact ⟨_, _, _, _, hb⟩

theorem utf8Bytes_hexEncode_cons (b : UInt8) (bytes : List UInt8) :
    utf8Bytes (hexEncode (b :: bytes)) =
      String.utf8EncodeChar (hexChar (b >>> (4 : UInt8))) ++
        (String.utf8EncodeChar (hexChar (b &&& 0x0f)) ++ utf8Bytes (hexEncode bytes)) := by
  simp [utf8Bytes, hexEncode]

theorem utf8Bytes_hexEncode_length (bytes : List UInt8) :
    (utf8Bytes (hexEncode bytes)).length = 2 * bytes.length := by
  induction bytes with
  | nil => rfl
  | cons b bytes ih =>
    obtain ⟨b₀, b₁, _, _, h₀, h₁, _⟩ := hexVal_hexChar b
    rw [utf8Bytes_hexEncode_cons, h₀, h₁]
    simp only [List.length_append, List.length_cons, List.length_nil, ih]
    omega

theorem decodeHexPairs_hexEncode (bytes : List UInt8) :
    decodeHexPairs (utf8Bytes (hexEncode bytes)) = some bytes := by
  induction bytes with
  | nil => rfl
  | cons b bytes ih =>
    obtain ⟨b₀, b₁, hi, lo, h₀, h₁, hhi, hlo, hb⟩ := hexVal_hexChar b
    rw [utf8Bytes_hexEncode_cons, h₀, h₁]
    simp only [List.cons_append, List.nil_append, decodeHexPairs, hhi, hlo, ih, Option.map_some, hb]

/-- Decoding what was encoded gives the bytes back. -/
theorem decodeHex_hexEncode (bytes : List UInt8) : decodeHex (hexEncode bytes) = some bytes := by
  have hEven : (utf8Bytes (hexEncode bytes)).length % 2 = 0 := by
    rw [utf8Bytes_hexEncode_length]
    omega
  rw [decodeHex, if_neg (by omega), decodeHexPairs_hexEncode]

-- ---------------------------------------------------------------------------
-- Checks on a lock message
-- ---------------------------------------------------------------------------

def HASH_HEX_LEN : Nat := 64

def isValidHashHex (s : String) : Bool :=
  (utf8Bytes s).length == HASH_HEX_LEN &&
    (utf8Bytes s).all fun b => (48 ≤ b && b ≤ 57) || (97 ≤ b && b ≤ 102)

/-- F8: exactly `"0"` or a run of digits that does not start with zero, in the
range of a `u64`. -/
def parseU64Strict (s : String) : Option Nat :=
  let bytes := utf8Bytes s
  if bytes.isEmpty then none
  else if !bytes.all (fun b => 48 ≤ b && b ≤ 57) then none
  else if bytes.head? == some 48 && 1 < bytes.length then none
  else
    let value := bytes.foldl (fun n b => 10 * n + (b.toNat - 48)) 0
    if value < 2 ^ 64 then some value else none

example : parseU64Strict "3600000" = some 3600000 ∧ parseU64Strict "+1" = none ∧
    parseU64Strict "01" = none := by decide

-- ---------------------------------------------------------------------------
-- Account ids and storage keys
-- ---------------------------------------------------------------------------

/-- A NEAR account id. Of its grammar the contract relies on one thing: it has
no `:`. -/
structure AccountId where
  text : String
  noColon : ':' ∉ text.toList
deriving DecidableEq

@[ext] theorem AccountId.ext {a b : AccountId} (h : a.text = b.text) : a = b := by
  cases a
  cases b
  simpa using h

/-- Storage key of a lock: `"<payer account>:<hash_lock hex>"`. -/
def lockKey (payer : AccountId) (hashLock : String) : String :=
  payer.text ++ ":" ++ hashLock

/-- Two lists that agree around the first occurrence of a separator agree on
both sides of it. -/
theorem append_cons_inj {α : Type} {c : α} : ∀ {a a' b b' : List α}, c ∉ a → c ∉ a' →
    a ++ c :: b = a' ++ c :: b' → a = a' ∧ b = b'
  | [], [], _, _, _, _, h => ⟨rfl, (List.cons.inj h).2⟩
  | [], x :: _, _, _, _, ha', h => absurd ((List.cons.inj h).1 ▸ List.mem_cons_self) ha'
  | x :: _, [], _, _, ha, _, h => absurd ((List.cons.inj h).1 ▸ List.mem_cons_self) ha
  | x :: a, y :: a', b, b', ha, ha', h => by
    obtain ⟨hxy, hrest⟩ := List.cons.inj h
    obtain ⟨rfl, rfl⟩ := append_cons_inj (fun hc => ha (List.mem_cons_of_mem _ hc))
      (fun hc => ha' (List.mem_cons_of_mem _ hc)) hrest
    exact ⟨by rw [hxy], rfl⟩

/-- The key is unambiguous: it determines the payer and the hash lock. -/
theorem lockKey_inj {p p' : AccountId} {h h' : String} :
    lockKey p h = lockKey p' h' ↔ p = p' ∧ h = h' := by
  constructor
  · intro heq
    have hlist := congrArg String.toList heq
    simp only [lockKey, String.toList_append, List.append_assoc] at hlist
    have hcolon : ":".toList = [':'] := rfl
    rw [hcolon, List.singleton_append, List.singleton_append] at hlist
    obtain ⟨hp, hh⟩ := append_cons_inj p.noColon p'.noColon hlist
    exact ⟨AccountId.ext (String.toList_inj.mp hp), String.toList_inj.mp hh⟩
  · rintro ⟨rfl, rfl⟩
    rfl

end SwapDesk.Near
