import Mathlib.Init

/-!
# Character classes

The classes that regular expressions name, as predicates on characters.
-/

namespace CharClass

/-- `[0-9]` -/
def isDigit (c : Char) : Bool := '0' ≤ c && c ≤ '9'

/-- `[0-9a-f]` -/
def isHexLower (c : Char) : Bool := isDigit c || ('a' ≤ c && c ≤ 'f')

/-- `[0-9a-fA-F]` -/
def isHex (c : Char) : Bool := isHexLower c || ('A' ≤ c && c ≤ 'F')

/-- `[0-9A-Za-z]` -/
def isAlphanumeric (c : Char) : Bool :=
  isDigit c || ('a' ≤ c && c ≤ 'z') || ('A' ≤ c && c ≤ 'Z')

/-- `[1-9A-HJ-NP-Za-km-z]` -/
def isBase58 (c : Char) : Bool :=
  isAlphanumeric c && c != '0' && c != 'O' && c != 'I' && c != 'l'

/-- `\s`: white space and line terminators, those past ASCII among them. -/
def isSpace (c : Char) : Bool :=
  let n := c.toNat
  (9 ≤ n && n ≤ 13) || n == 0x20 || n == 0xA0 || n == 0x1680 || (0x2000 ≤ n && n ≤ 0x200A) ||
    n == 0x2028 || n == 0x2029 || n == 0x202F || n == 0x205F || n == 0x3000 || n == 0xFEFF

/-! ## Bounds -/

theorem isDigit_eq (c : Char) : isDigit c = c.isDigit := rfl

theorem isDigit_iff {c : Char} : isDigit c = true ↔ 48 ≤ c.toNat ∧ c.toNat ≤ 57 := by
  rw [isDigit, Bool.and_eq_true, decide_eq_true_eq, decide_eq_true_eq]
  exact Iff.rfl

theorem isHexLower_iff {c : Char} : isHexLower c = true ↔
    (48 ≤ c.toNat ∧ c.toNat ≤ 57) ∨ (97 ≤ c.toNat ∧ c.toNat ≤ 102) := by
  rw [isHexLower, Bool.or_eq_true, isDigit_iff, Bool.and_eq_true, decide_eq_true_eq,
    decide_eq_true_eq]
  exact Iff.rfl

/-- A digit in lower case is its own lower case. -/
theorem toLower_of_isHexLower {c : Char} (h : isHexLower c = true) : c.toLower = c := by
  refine dif_neg fun hUpper => ?_
  have hLow : 65 ≤ c.toNat := hUpper.1
  have hHigh : c.toNat ≤ 90 := hUpper.2
  have hBounds := isHexLower_iff.mp h
  omega

/-- The characters from `!` to `~` are no white space. -/
theorem isSpace_eq_false {c : Char} (hLow : 33 ≤ c.toNat) (hHigh : c.toNat ≤ 126) :
    isSpace c = false := by
  unfold isSpace
  simp only [Bool.or_eq_false_iff, Bool.and_eq_false_iff, decide_eq_false_iff_not,
    beq_eq_false_iff_ne]
  omega

end CharClass
