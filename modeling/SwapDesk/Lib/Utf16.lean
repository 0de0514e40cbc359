import Mathlib.Tactic.Common
import Mathlib.Data.UInt

/-!
# UTF-16

Texts as code units. A pair of surrogates is one character, and a surrogate that is in no pair is
read as U+FFFD; what characters are written as is read as these characters (`Utf16.chars_encode`).
-/

namespace Utf16

def ofChar (c : Char) : List UInt16 :=
  if c.toNat < 0x10000 then [UInt16.ofNat c.toNat]
  else [UInt16.ofNat (0xd800 + (c.toNat - 0x10000) / 0x400),
    UInt16.ofNat (0xdc00 + (c.toNat - 0x10000) % 0x400)]

def encode (text : List Char) : List UInt16 := text.flatMap ofChar

def isLead (u : UInt16) : Bool := 0xd800 ≤ u.toNat && u.toNat < 0xdc00

def isTrail (u : UInt16) : Bool := 0xdc00 ≤ u.toNat && u.toNat < 0xe000

/-- The character of a code unit that is in no pair. -/
def single (u : UInt16) : Char := if isLead u || isTrail u then '\uFFFD' else Char.ofNat u.toNat

def pair (u v : UInt16) : Char :=
  Char.ofNat (0x10000 + (u.toNat - 0xd800) * 0x400 + (v.toNat - 0xdc00))

def chars : List UInt16 → List Char
  | [] => []
  | [u] => [single u]
  | u :: v :: rest =>
    if isLead u && isTrail v then pair u v :: chars rest else single u :: chars (v :: rest)

theorem chars_cons {u : UInt16} (h : isLead u = false) (rest : List UInt16) :
    chars (u :: rest) = single u :: chars rest := by
  cases rest with
  | nil => rfl
  | cons v rest =>
    rw [chars, h, Bool.false_and]
    rfl

/-- The characters of the code units of a character. -/
theorem chars_ofChar (c : Char) (rest : List UInt16) :
    chars (ofChar c ++ rest) = c :: chars rest := by
  have hValid : c.toNat < 0xd800 ∨ (0xdfff < c.toNat ∧ c.toNat < 0x110000) := c.valid
  unfold ofChar
  split
  -- one unit, which is no half of a pair
  · rename_i hLt
    have hUnit : (UInt16.ofNat c.toNat).toNat = c.toNat := UInt16.toNat_ofNat_of_lt' hLt
    have hLead : isLead (UInt16.ofNat c.toNat) = false := by
      unfold isLead
      rw [hUnit, Bool.and_eq_false_iff, decide_eq_false_iff_not, decide_eq_false_iff_not]
      omega
    have hTrail : isTrail (UInt16.ofNat c.toNat) = false := by
      unfold isTrail
      rw [hUnit, Bool.and_eq_false_iff, decide_eq_false_iff_not, decide_eq_false_iff_not]
      omega
    rw [List.singleton_append, chars_cons hLead, single, hLead, hTrail, hUnit, Char.ofNat_toNat]
    rfl
  -- two units, whose parts add up again
  · rename_i hGe
    have hLead : (UInt16.ofNat (0xd800 + (c.toNat - 0x10000) / 0x400)).toNat =
        0xd800 + (c.toNat - 0x10000) / 0x400 :=
      UInt16.toNat_ofNat_of_lt' (show _ < 65536 by omega)
    have hTrail : (UInt16.ofNat (0xdc00 + (c.toNat - 0x10000) % 0x400)).toNat =
        0xdc00 + (c.toNat - 0x10000) % 0x400 :=
      UInt16.toNat_ofNat_of_lt' (show _ < 65536 by omega)
    rw [List.cons_append, List.cons_append, List.nil_append, chars, if_pos]
    · unfold pair
      rw [hLead, hTrail]
      have hSum : 0x10000 + (0xd800 + (c.toNat - 0x10000) / 0x400 - 0xd800) * 0x400 +
          (0xdc00 + (c.toNat - 0x10000) % 0x400 - 0xdc00) = c.toNat := by
        omega
      rw [hSum, Char.ofNat_toNat]
    · unfold isLead isTrail
      rw [hLead, hTrail]
      simp only [Bool.and_eq_true, decide_eq_true_eq]
      omega

@[simp] theorem chars_encode (text : List Char) : chars (encode text) = text := by
  induction text with
  | nil => rfl
  | cons c text ih =>
    rw [encode, List.flatMap_cons, chars_ofChar]
    exact congrArg (c :: ·) ih

/-- A text without the surrogates that are in no pair. -/
def toWellFormed (text : List UInt16) : List UInt16 := encode (chars text)

theorem encode_inj {a b : List Char} : encode a = encode b ↔ a = b :=
  ⟨fun h => by rw [← chars_encode a, h, chars_encode], congrArg encode⟩

theorem toWellFormed_eq_iff {a b : List UInt16} :
    toWellFormed a = toWellFormed b ↔ chars a = chars b := encode_inj

@[simp] theorem toWellFormed_encode (text : List Char) :
    toWellFormed (encode text) = encode text :=
  congrArg encode (chars_encode text)

end Utf16
