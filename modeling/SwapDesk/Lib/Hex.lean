import Mathlib.Data.UInt
import Mathlib.Tactic.Common
import SwapDesk.Lib.CharClass

/-!
# Hexadecimal

Bytes as two hexadecimal digits each. Encoding writes lower case; decoding reads
both cases and fails on an odd number of digits or on any other character.
-/

namespace Hex

open CharClass (isDigit isHex isHexLower)

def digits : List Char :=
  ['0', '1', '2', '3', '4', '5', '6', '7', '8', '9', 'a', 'b', 'c', 'd', 'e', 'f']

def digit (n : Nat) : Char := digits.getD n '0'

def value? (c : Char) : Option Nat :=
  if '0' ≤ c ∧ c ≤ '9' then some (c.toNat - 48)
  else if 'a' ≤ c ∧ c ≤ 'f' then some (c.toNat - 87)
  else if 'A' ≤ c ∧ c ≤ 'F' then some (c.toNat - 55)
  else none

def encode (bytes : List UInt8) : List Char :=
  bytes.flatMap fun b => [digit (b.toNat / 16), digit (b.toNat % 16)]

def decode : List Char → Option (List UInt8)
  | [] => some []
  | [_] => none
  | hi :: lo :: rest =>
    match value? hi, value? lo with
    | some h, some l => (decode rest).map fun bytes => UInt8.ofNat (16 * h + l) :: bytes
    | _, _ => none

theorem encode_cons (b : UInt8) (bytes : List UInt8) :
    encode (b :: bytes) = digit (b.toNat / 16) :: digit (b.toNat % 16) :: encode bytes := rfl

@[simp] theorem length_encode (bytes : List UInt8) : (encode bytes).length = 2 * bytes.length := by
  induction bytes with
  | nil => rfl
  | cons b bytes ih =>
    rw [encode_cons, List.length_cons, List.length_cons, List.length_cons, ih]
    omega

theorem value?_digit {n : Nat} (h : n < 16) : value? (digit n) = some n := by
  have key : ∀ k : Fin 16, value? (digit k) = some k.val := by decide
  exact key ⟨n, h⟩

/-- Encoding writes digits in lower case. -/
theorem all_isHexLower_encode (bytes : List UInt8) : (encode bytes).all isHexLower = true := by
  have key : ∀ n : Fin 16, isHexLower (digit n) = true := by decide
  induction bytes with
  | nil => rfl
  | cons b bytes ih =>
    have hb := b.toNat_lt
    have hHigh := key ⟨b.toNat / 16, by omega⟩
    have hLow := key ⟨b.toNat % 16, by omega⟩
    rw [encode_cons, List.all_cons, List.all_cons, ih, Bool.and_true, Bool.and_eq_true]
    exact ⟨hHigh, hLow⟩

/-- Every byte string is read back from its digits. -/
@[simp] theorem decode_encode (bytes : List UInt8) : decode (encode bytes) = some bytes := by
  induction bytes with
  | nil => rfl
  | cons b bytes ih =>
    have hb := b.toNat_lt
    have hByte : UInt8.ofNat (16 * (b.toNat / 16) + b.toNat % 16) = b := by
      rw [Nat.div_add_mod, UInt8.ofNat_toNat]
    rw [encode_cons, decode, value?_digit (by omega), value?_digit (by omega)]
    simp only [ih, Option.map_some, hByte]

/-- A byte takes two digits. -/
theorem length_of_decode : ∀ {cs : List Char} {bytes : List UInt8},
    decode cs = some bytes → cs.length = 2 * bytes.length
  | [], bytes, h => by
    obtain rfl := Option.some.inj h
    rfl
  | [_], _, h => by cases h
  | hi :: lo :: rest, bytes, h => by
    rw [decode] at h
    split at h
    · obtain ⟨tail, hTail, rfl⟩ := Option.map_eq_some_iff.mp h
      rw [List.length_cons, List.length_cons, List.length_cons, length_of_decode hTail]
      omega
    · cases h

/-- A character that has a value is a digit. -/
theorem isHex_of_value? {c : Char} {n : Nat} (h : value? c = some n) : isHex c = true := by
  unfold value? at h
  unfold isHex isHexLower isDigit
  simp only [Bool.or_eq_true, Bool.and_eq_true, decide_eq_true_eq]
  split at h
  · rename_i hDigit
    exact .inl (.inl hDigit)
  · split at h
    · rename_i hLower
      exact .inl (.inr hLower)
    · split at h
      · rename_i hUpper
        exact .inr hUpper
      · cases h

/-- Only digits are decoded. -/
theorem isHex_of_decode : ∀ {cs : List Char} {bytes : List UInt8},
    decode cs = some bytes → ∀ c ∈ cs, isHex c = true
  | [], _, _ => by simp
  | [_], _, h => by cases h
  | hi :: lo :: rest, bytes, h => by
    rw [decode] at h
    split at h
    · rename_i high low hHigh hLow
      obtain ⟨tail, hTail, -⟩ := Option.map_eq_some_iff.mp h
      intro c hc
      rcases List.mem_cons.mp hc with rfl | hc
      · exact isHex_of_value? hHigh
      · rcases List.mem_cons.mp hc with rfl | hc
        · exact isHex_of_value? hLow
        · exact isHex_of_decode hTail c hc
    · cases h

end Hex
