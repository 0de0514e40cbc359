import Mathlib.Tactic.Common
import Mathlib.Data.UInt

/-!
# UTF-8

Texts as the bytes that encode them. A byte below 128 is a character of its own and no part of
another, so that a test which only such bytes pass can be made on the bytes or on the
characters (`Utf8.all_encode`).
-/

namespace Utf8

def encode (text : List Char) : List UInt8 := text.flatMap String.utf8EncodeChar

theorem encodeChar_cases (c : Char) :
    (c.toNat < 128 ∧ String.utf8EncodeChar c = [UInt8.ofNat c.toNat]) ∨
      (128 ≤ c.toNat ∧ ∃ b ∈ String.utf8EncodeChar c, 128 ≤ b.toNat) := by
  -- the last byte of a longer encoding has its high bit set
  have hHigh : ∀ x : UInt8, 128 ≤ (x ||| 0x80).toNat := by
    intro x
    rw [UInt8.toNat_or]
    exact Nat.right_le_or
  have hPos := Char.utf8Size_pos c
  have hLe := Char.utf8Size_le_four c
  by_cases hOne : c.utf8Size = 1
  · refine .inl ⟨?_, String.utf8EncodeChar_eq_singleton hOne⟩
    have hVal : c.val.toNat ≤ 127 := Char.utf8Size_eq_one_iff.mp hOne
    exact Nat.lt_succ_of_le hVal
  · have hVal : ¬ c.val.toNat ≤ 127 := fun h => hOne (Char.utf8Size_eq_one_iff.mpr h)
    refine .inr ⟨Nat.lt_of_not_le hVal, ?_⟩
    have hLast := hHigh (c.val.toUInt8 &&& 0x3f)
    rcases (by omega : c.utf8Size = 2 ∨ c.utf8Size = 3 ∨ c.utf8Size = 4) with h | h | h
    · exact ⟨_, by rw [String.utf8EncodeChar_eq_cons_cons h]; simp, hLast⟩
    · exact ⟨_, by rw [String.utf8EncodeChar_eq_cons_cons_cons h]; simp, hLast⟩
    · exact ⟨_, by rw [String.utf8EncodeChar_eq_cons_cons_cons_cons h]; simp, hLast⟩

/-- Bytes below 128 are those of characters below 128. -/
theorem encode_ascii {text : List Char} :
    (∀ b ∈ encode text, b.toNat < 128) ↔ ∀ c ∈ text, c.toNat < 128 := by
  unfold encode
  simp only [List.mem_flatMap]
  constructor
  · intro h c hc
    rcases encodeChar_cases c with ⟨hLt, -⟩ | ⟨-, b, hb, hGe⟩
    · exact hLt
    · exact absurd (h b ⟨c, hc, hb⟩) (by omega)
  · rintro h b ⟨c, hc, hb⟩
    have hLt := h c hc
    rcases encodeChar_cases c with ⟨-, hEq⟩ | ⟨hGe, -⟩
    · rw [hEq, List.mem_singleton] at hb
      rw [hb, UInt8.toNat_ofNat_of_lt' (hLt.trans (by decide))]
      exact hLt
    · omega

/-- One byte for each of them. -/
theorem encode_of_ascii {text : List Char} (h : ∀ c ∈ text, c.toNat < 128) :
    encode text = text.map fun c => UInt8.ofNat c.toNat := by
  induction text with
  | nil => rfl
  | cons c text ih =>
    have hLt := h c List.mem_cons_self
    have hRest := ih fun d hd => h d (List.mem_cons_of_mem c hd)
    rcases encodeChar_cases c with ⟨-, hEq⟩ | ⟨hGe, -⟩
    · rw [List.map_cons, ← hRest, encode, List.flatMap_cons, hEq]
      rfl
    · omega

theorem all_encode {p : Nat → Bool} (hp : ∀ n, p n = true → n < 128) (text : List Char) :
    ((encode text).all fun b => p b.toNat) = text.all fun c => p c.toNat := by
  rw [Bool.eq_iff_iff, List.all_eq_true, List.all_eq_true]
  constructor
  · intro h c hc
    have hAscii := encode_ascii.mp fun b hb => hp _ (h b hb)
    have hLt := hAscii c hc
    rw [encode_of_ascii hAscii] at h
    have hByte := h _ (List.mem_map_of_mem hc)
    rwa [UInt8.toNat_ofNat_of_lt' (hLt.trans (by decide))] at hByte
  · intro h b hb
    have hAscii : ∀ c ∈ text, c.toNat < 128 := fun c hc => hp _ (h c hc)
    rw [encode_of_ascii hAscii] at hb
    obtain ⟨c, hc, rfl⟩ := List.mem_map.mp hb
    have hLt := hAscii c hc
    rw [UInt8.toNat_ofNat_of_lt' (hLt.trans (by decide))]
    exact h c hc

theorem length_encode_le (text : List Char) : (encode text).length ≤ 4 * text.length := by
  induction text with
  | nil => exact Nat.le_refl _
  | cons c text ih =>
    have hSize := c.utf8Size_le_four
    show (String.utf8EncodeChar c ++ encode text).length ≤ 4 * (text.length + 1)
    rw [List.length_append, String.length_utf8EncodeChar]
    omega

/-- The text that bytes encode, if they encode one. -/
def decode (bytes : List UInt8) : Option (List Char) :=
  bytes.toByteArray.utf8Decode?.map Array.toList

theorem decode_eq_some {bytes : List UInt8} {text : List Char} :
    decode bytes = some text ↔ encode text = bytes := by
  have hEncode : ∀ text, (encode text).toByteArray = List.utf8Encode text := fun _ => rfl
  unfold decode
  constructor
  · intro h
    obtain ⟨chars, hChars, rfl⟩ := Option.map_eq_some_iff.mp h
    have hSome : bytes.toByteArray.utf8Decode?.isSome := by rw [hChars]; rfl
    have hGet := @ByteArray.utf8Encode_get_utf8Decode? bytes.toByteArray hSome
    simp only [hChars, Option.get_some] at hGet
    rw [← hEncode] at hGet
    exact List.toByteArray_inj.mp hGet
  · rintro rfl
    rw [hEncode, List.utf8Decode?_utf8Encode]
    rfl

theorem encode_inj {a b : List Char} : encode a = encode b ↔ a = b := by
  refine ⟨fun h => ?_, congrArg encode⟩
  have hb := decode_eq_some.mpr (rfl : encode b = encode b)
  rw [← h, decode_eq_some.mpr rfl] at hb
  exact Option.some.inj hb

/-- A text begins with another where its bytes do. -/
theorem encode_prefix_iff {a b : List Char} : encode a <+: encode b ↔ a <+: b := by
  constructor
  · rintro ⟨more, h⟩
    have hBytes := congrArg List.toByteArray h
    rw [List.toByteArray_append] at hBytes
    exact List.isPrefix_of_utf8Encode_append_eq_utf8Encode more.toByteArray hBytes
  · rintro ⟨more, rfl⟩
    exact ⟨encode more, List.flatMap_append.symm⟩

end Utf8
