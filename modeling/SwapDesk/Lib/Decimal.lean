import Mathlib.Data.List.Induction
import Mathlib.Tactic.IntervalCases

/-!
# Decimal texts

A run of digits is the decimal text of a number exactly when it is not empty and has no leading
zero (`Decimal.canonical_iff`).
-/

namespace Decimal

/-- A run of decimal digits without a leading zero. -/
def Canonical (text : List Char) : Prop :=
  text ≠ [] ∧ (∀ c ∈ text, c.isDigit = true) ∧ ¬ (text.head? = some '0' ∧ 1 < text.length)

theorem digitChar_of_isDigit {c : Char} (h : c.isDigit = true) :
    c.toNat - '0'.toNat < 10 ∧ Nat.digitChar (c.toNat - '0'.toNat) = c := by
  obtain ⟨hLow, hHigh⟩ := Char.isDigit_iff_toNat.mp h
  have hLow : 48 ≤ c.toNat := hLow
  have hHigh : c.toNat ≤ 57 := hHigh
  have hZero : '0'.toNat = 48 := rfl
  refine ⟨by omega, ?_⟩
  have hChar : Nat.digitChar (c.toNat - '0'.toNat) = Char.ofNat c.toNat := by
    generalize c.toNat = n at hLow hHigh
    interval_cases n <;> rfl
  rw [hChar, Char.ofNat_toNat c]

theorem ofDigitChars_snoc (text : List Char) (c : Char) :
    Nat.ofDigitChars 10 (text ++ [c]) 0 =
      10 * Nat.ofDigitChars 10 text 0 + (c.toNat - '0'.toNat) := by
  rw [Nat.ofDigitChars_append, Nat.ofDigitChars_cons, Nat.ofDigitChars_nil]

theorem ofDigitChars_pos {text : List Char} (h : Canonical text) (hHead : text.head? ≠ some '0') :
    0 < Nat.ofDigitChars 10 text 0 := by
  obtain ⟨hne, hDigits, -⟩ := h
  cases text with
  | nil => exact absurd rfl hne
  | cons c rest =>
    rw [Nat.ofDigitChars_cons, Nat.ofDigitChars_eq_ofDigitChars_zero]
    have hc := (digitChar_of_isDigit (hDigits c List.mem_cons_self)).2
    have hValue : 0 < c.toNat - '0'.toNat := by
      refine Nat.pos_of_ne_zero fun hZero => hHead ?_
      rw [hZero] at hc
      exact congrArg some hc.symm
    rw [Nat.mul_zero, Nat.zero_add]
    exact Nat.add_pos_left (Nat.mul_pos (Nat.pow_pos (by decide)) hValue) _

/-- A canonical text is that of its value. -/
theorem toDigits_ofDigitChars {text : List Char} (h : Canonical text) :
    Nat.toDigits 10 (Nat.ofDigitChars 10 text 0) = text := by
  induction text using List.reverseRecOn with
  | nil => exact absurd rfl h.1
  | append_singleton text c ih =>
    obtain ⟨-, hDigits, hZero⟩ := h
    obtain ⟨hLt, hc⟩ := digitChar_of_isDigit (hDigits c (by simp))
    rw [ofDigitChars_snoc]
    by_cases hNil : text = []
    · subst hNil
      rw [Nat.ofDigitChars_nil, Nat.mul_zero, Nat.zero_add, Nat.toDigits_of_lt_base hLt, hc]
      rfl
    · -- what stands before the last digit is canonical too, and not zero
      have hHead : text.head? ≠ some '0' := by
        intro hHead
        refine hZero ⟨?_, ?_⟩
        · rw [List.head?_append, hHead]
          rfl
        · have := List.length_pos_iff.mpr hNil
          simp
          omega
      have hText : Canonical text :=
        ⟨hNil, fun d hd => hDigits d (List.mem_append_left _ hd), fun hBoth => hHead hBoth.1⟩
      rw [← Nat.toDigits_append_toDigits (by decide) (ofDigitChars_pos hText hHead) hLt, ih hText,
        Nat.toDigits_of_lt_base hLt, hc]

theorem head?_toDigits {n : Nat} (h : 0 < n) : (Nat.toDigits 10 n).head? ≠ some '0' := by
  induction n using Nat.strongRecOn with
  | ind n ih =>
    rw [Nat.toDigits_eq_if (by decide)]
    split
    · rename_i hLt
      interval_cases n <;> decide
    · rename_i hGe
      have hDiv : 0 < n / 10 := by omega
      rw [List.head?_append]
      have hHead := ih (n / 10) (by omega) hDiv
      cases hSome : (Nat.toDigits 10 (n / 10)).head? with
      | none => exact absurd (List.head?_eq_none_iff.mp hSome) Nat.toDigits_ne_nil
      | some c =>
        rw [hSome] at hHead
        exact hHead

theorem canonical_toDigits (n : Nat) : Canonical (Nat.toDigits 10 n) := by
  refine ⟨Nat.toDigits_ne_nil, fun c hc =>
    Nat.isDigit_of_mem_toDigits (by decide) (by decide) hc, ?_⟩
  rintro ⟨hHead, hLength⟩
  rcases Nat.eq_zero_or_pos n with rfl | hPos
  · rw [Nat.toDigits_zero] at hLength
    exact absurd hLength (by decide)
  · exact head?_toDigits hPos hHead

theorem canonical_iff {text : List Char} {n : Nat} :
    (Canonical text ∧ Nat.ofDigitChars 10 text 0 = n) ↔ text = Nat.toDigits 10 n := by
  constructor
  · rintro ⟨hText, rfl⟩
    exact (toDigits_ofDigitChars hText).symm
  · rintro rfl
    exact ⟨canonical_toDigits n, Nat.ofDigitChars_ten_toDigits⟩

end Decimal
