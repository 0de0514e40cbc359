import Mathlib.Data.Int.Log
import Mathlib.Data.Rat.Floor
import Mathlib.Tactic.FieldSimp
import Mathlib.Tactic.Linarith
import Mathlib.Tactic.Positivity
import Mathlib.Tactic.Ring

/-!
# Binary64 rounding

A number of a language whose numbers are doubles is a rational number here, and an arithmetic
operation is the exact one followed by `Double.round`: to 53 binary digits, to the nearest one,
and to the even one when there are two. Numbers near the ends of the range of
exponents are not told apart from the others.

* `Double.round_intCast`: integers of up to 53 binary digits are doubles;
* `Double.ceil_round_div`: the rounding of a quotient of such integers does not change its
  ceiling;
* `Double.le_round`: rounding does not cross `2 ^ 53`;
* `Double.round_mono`: rounding keeps the order;
* `Double.Tracks`: a computation on safe integers is exact for as long as it stays among them,
  and once it has left them it compares as the exact one does.
-/

namespace Double

/-- The nearest integer, the even one of two. -/
def toEven (y : ℚ) : ℤ :=
  if y - ⌊y⌋ < 1 / 2 then ⌊y⌋
  else if 1 / 2 < y - ⌊y⌋ then ⌊y⌋ + 1
  else if ⌊y⌋ % 2 = 0 then ⌊y⌋ else ⌊y⌋ + 1

/-- The distance of the doubles around a number. -/
def ulp (x : ℚ) : ℚ := 2 ^ (Int.log 2 |x| - 52)

def round (x : ℚ) : ℚ := if x = 0 then 0 else toEven (x / ulp x) * ulp x

/-- `Number.isSafeInteger`, of an integer. -/
def isSafe (n : ℤ) : Bool := decide (|n| < 2 ^ 53)

/-- The unit in the last place is positive. -/
theorem ulp_pos (x : ℚ) : 0 < ulp x := by
  exact zpow_pos (by norm_num) _

/-- An integer is rounded to itself. -/
theorem toEven_intCast (n : ℤ) : toEven n = n := by
  simp [toEven]

/-- Rounding moves by half a unit at most. -/
theorem abs_toEven_sub_le (y : ℚ) : |toEven y - y| ≤ 1 / 2 := by
  have hFloor := Int.floor_le y
  have hLt := Int.lt_floor_add_one y
  unfold toEven
  rw [abs_le]
  split_ifs with hLow hHigh hEven
  · constructor <;> linarith
  · push_cast
    constructor <;> linarith
  · constructor <;> linarith
  · push_cast
    constructor <;> linarith

/-- An integer below stays below. -/
theorem le_toEven {n : ℤ} {y : ℚ} (h : (n : ℚ) ≤ y) : n ≤ toEven y := by
  have hFloor : n ≤ ⌊y⌋ := Int.le_floor.mpr h
  unfold toEven
  split_ifs <;> omega

/-- A unit in the last place is small against the value. -/
theorem ulp_mul_le {x : ℚ} (hx : x ≠ 0) : ulp x * 2 ^ 52 ≤ |x| := by
  have hLog := Int.zpow_log_le_self (b := 2) (by norm_num) (abs_pos.mpr hx)
  calc ulp x * 2 ^ 52 = 2 ^ (Int.log 2 |x| - 52) * 2 ^ (52 : ℤ) := by
        rw [ulp]
        norm_num
    _ = 2 ^ Int.log 2 |x| := by
        rw [← zpow_add₀ (by norm_num)]
        congr 1
        ring
    _ ≤ |x| := by exact_mod_cast hLog

/-- Rounding moves a number by half the distance of two doubles at most. -/
theorem abs_round_sub_le {x : ℚ} (hx : x ≠ 0) : |round x - x| ≤ ulp x / 2 := by
  have hUlp := ulp_pos x
  have hHalf := abs_toEven_sub_le (x / ulp x)
  have hScaled : round x - x = (toEven (x / ulp x) - x / ulp x) * ulp x := by
    rw [round, if_neg hx]
    field_simp
  rw [hScaled, abs_mul, abs_of_pos hUlp]
  nlinarith

/-- Integers below 2^53 are represented. -/
theorem round_intCast {n : ℤ} (h : |n| < 2 ^ 53) : round n = n := by
  unfold round
  split
  · rename_i hZero
    exact hZero.symm
  rename_i hne
  -- the quotient by the distance is an integer
  have hLog : Int.log 2 |(n : ℚ)| ≤ 52 := by
    have hLt : Int.log 2 |(n : ℚ)| < 53 := by
      refine (Int.lt_zpow_iff_log_lt (by norm_num) (abs_pos.mpr hne)).mp ?_
      exact_mod_cast h
    exact Int.lt_add_one_iff.mp hLt
  obtain ⟨k, hk⟩ : ∃ k : ℕ, Int.log 2 |(n : ℚ)| - 52 = -(k : ℤ) :=
    ⟨(52 - Int.log 2 |(n : ℚ)|).toNat, by omega⟩
  have hUlp : ulp (n : ℚ) = 1 / 2 ^ k := by
    rw [ulp, hk, zpow_neg, zpow_natCast, one_div]
  have hQuotient : (n : ℚ) / ulp n = ((n * 2 ^ k : ℤ) : ℚ) := by
    rw [hUlp]
    push_cast
    field_simp
  rw [hQuotient, toEven_intCast, hUlp]
  push_cast
  field_simp

/-- Rounding does not cross a power of two. -/
theorem le_round {x : ℚ} (h : 2 ^ 53 ≤ x) : 2 ^ 53 ≤ round x := by
  have hPos : 0 < x := lt_of_lt_of_le (by norm_num) h
  have hUlp := ulp_pos x
  have hScale := ulp_mul_le hPos.ne'
  rw [abs_of_pos hPos] at hScale
  have hLog : 53 ≤ Int.log 2 x := by
    refine (Int.zpow_le_iff_le_log (by norm_num) hPos).mp ?_
    exact_mod_cast h
  have hUlpTwo : 2 ≤ ulp x := by
    rw [ulp, abs_of_pos hPos]
    calc (2 : ℚ) = 2 ^ (1 : ℤ) := by norm_num
      _ ≤ 2 ^ (Int.log 2 x - 52) := zpow_le_zpow_right₀ (by norm_num) (by omega)
  have hQuotient : ((2 ^ 52 : ℤ) : ℚ) ≤ x / ulp x := by
    rw [le_div_iff₀ hUlp]
    push_cast
    linarith
  have hEven : ((2 ^ 52 : ℤ) : ℚ) ≤ toEven (x / ulp x) := by exact_mod_cast le_toEven hQuotient
  rw [round, if_neg hPos.ne']
  push_cast at hEven
  nlinarith

/-- Rounding is monotone. -/
theorem toEven_mono {x y : ℚ} (h : x ≤ y) : toEven x ≤ toEven y := by
  have hFloor : ⌊x⌋ ≤ ⌊y⌋ := Int.floor_le_floor h
  rcases hFloor.eq_or_lt with hSame | hLt
  · -- between two integers the nearer one does not go back
    have hFraction : x - ⌊x⌋ ≤ y - ⌊x⌋ := by linarith
    unfold toEven
    rw [← hSame]
    split_ifs <;> first | omega | (exfalso; linarith)
  · have hUpper : toEven x ≤ ⌊x⌋ + 1 := by
      unfold toEven
      split_ifs <;> omega
    exact hUpper.trans ((Int.add_one_le_iff.mpr hLt).trans (le_toEven (Int.floor_le y)))

/-- Units in the last place scale with powers of two. -/
theorem zpow_mul_ulp {x : ℚ} (hx : 0 < x) (k : ℤ) :
    2 ^ k * ulp x = 2 ^ (Int.log 2 x + k - 52) := by
  rw [ulp, abs_of_pos hx, ← zpow_add₀ (by norm_num)]
  congr 1
  ring

/-- A number rounds to no more than the next power of two. -/
theorem round_le_zpow {x : ℚ} (hx : 0 < x) : round x ≤ 2 ^ (Int.log 2 x + 1) := by
  have hUlp := ulp_pos x
  have hLt : x < 2 ^ (Int.log 2 x + 1) := by
    exact_mod_cast Int.lt_zpow_succ_log_self (b := 2) (by norm_num) x
  have hScale : (2 : ℚ) ^ (Int.log 2 x + 1) = 2 ^ (53 : ℤ) * ulp x := by
    rw [zpow_mul_ulp hx]
    congr 1
    ring
  have hQuotient : x / ulp x ≤ ((2 ^ 53 : ℤ) : ℚ) := by
    rw [div_le_iff₀ hUlp]
    refine hLt.le.trans (hScale.trans ?_).le
    norm_num
  have hEven := toEven_mono hQuotient
  rw [toEven_intCast] at hEven
  have hCast : (toEven (x / ulp x) : ℚ) ≤ 2 ^ (53 : ℤ) := by exact_mod_cast hEven
  rw [round, if_neg hx.ne', hScale]
  exact mul_le_mul_of_nonneg_right hCast hUlp.le

/-- A number rounds to no less than the power of two below it. -/
theorem zpow_le_round {x : ℚ} (hx : 0 < x) : 2 ^ Int.log 2 x ≤ round x := by
  have hUlp := ulp_pos x
  have hScale := ulp_mul_le hx.ne'
  rw [abs_of_pos hx] at hScale
  have hQuotient : ((2 ^ 52 : ℤ) : ℚ) ≤ x / ulp x := by
    rw [le_div_iff₀ hUlp]
    push_cast
    linarith
  have hEven := le_toEven hQuotient
  have hCast : (2 : ℚ) ^ (52 : ℤ) ≤ toEven (x / ulp x) := by exact_mod_cast hEven
  have hPower : (2 : ℚ) ^ Int.log 2 x = 2 ^ (52 : ℤ) * ulp x := by
    rw [zpow_mul_ulp hx]
    congr 1
    ring
  rw [round, if_neg hx.ne', hPower]
  exact mul_le_mul_of_nonneg_right hCast hUlp.le

/-- Rounding keeps the order of numbers that are not negative. -/
theorem round_mono {x y : ℚ} (hx : 0 ≤ x) (h : x ≤ y) : round x ≤ round y := by
  rcases hx.eq_or_lt with rfl | hx
  · rcases h.eq_or_lt with rfl | hy
    · exact le_rfl
    · rw [show round (0 : ℚ) = 0 by simp [round]]
      exact le_trans (zpow_pos (by norm_num) _).le (zpow_le_round hy)
  have hy : 0 < y := lt_of_lt_of_le hx h
  rcases (Int.log_mono_right (b := 2) hx h).eq_or_lt with hSame | hLt
  · -- both are multiples of one distance
    have hUlp : ulp x = ulp y := by rw [ulp, ulp, abs_of_pos hx, abs_of_pos hy, hSame]
    have hPos := ulp_pos y
    rw [round, round, if_neg hx.ne', if_neg hy.ne', hUlp]
    refine mul_le_mul_of_nonneg_right ?_ hPos.le
    exact_mod_cast toEven_mono (div_le_div_of_nonneg_right h hPos.le)
  · calc round x ≤ 2 ^ (Int.log 2 x + 1) := round_le_zpow hx
      _ ≤ 2 ^ Int.log 2 y := zpow_le_zpow_right₀ (by norm_num) hLt
      _ ≤ round y := zpow_le_round hy

/-- The ceiling of a rounded quotient is the one of the quotient. -/
theorem ceil_round_div {a b : ℤ} (ha : |a| < 2 ^ 53) (hb : 0 < b) :
    ⌈round (a / b)⌉ = ⌈(a / b : ℚ)⌉ := by
  have hbQ : (0 : ℚ) < b := by exact_mod_cast hb
  by_cases hZero : a = 0
  · simp [hZero, round]
  have hx : (a / b : ℚ) ≠ 0 := div_ne_zero (by exact_mod_cast hZero) hbQ.ne'
  -- the rounding moves the quotient by less than a `b`-th
  have hError : |round (a / b) - a / b| < 1 / b := by
    have hHalf := abs_round_sub_le hx
    have hScale := ulp_mul_le hx
    have haQ : |(a : ℚ)| < 2 ^ 53 := by exact_mod_cast ha
    rw [abs_div, abs_of_pos hbQ, le_div_iff₀ hbQ] at hScale
    refine lt_of_le_of_lt hHalf ?_
    rw [lt_div_iff₀ hbQ]
    linarith
  obtain ⟨hLow, hHigh⟩ := abs_lt.mp hError
  have hCeil := Int.le_ceil (a / b : ℚ)
  have hCeilLt := Int.ceil_lt_add_one (a / b : ℚ)
  generalize hk : ⌈(a / b : ℚ)⌉ = k at hCeil hCeilLt
  have hMul : (a / b : ℚ) * b = a := div_mul_cancel₀ _ hbQ.ne'
  have hOne : (1 / b : ℚ) * b = 1 := div_mul_cancel₀ _ hbQ.ne'
  -- the quotient lies a `b`-th above the integer below its ceiling
  have hAbove : (k : ℚ) - 1 + 1 / b ≤ a / b := by
    have hInt : (k - 1) * b + 1 ≤ a := by
      have hQ : ((k : ℚ) - 1) * b < a := by nlinarith
      have : (k - 1) * b < a := by exact_mod_cast hQ
      omega
    rw [le_div_iff₀ hbQ]
    have hCast : (((k - 1) * b + 1 : ℤ) : ℚ) ≤ a := by exact_mod_cast hInt
    push_cast at hCast
    nlinarith
  rw [Int.ceil_eq_iff]
  refine ⟨by linarith, ?_⟩
  rcases hCeil.eq_or_lt with hEq | hLt
  · -- the quotient is an integer
    rw [hEq, round_intCast]
    have hkb : k * b = a := by
      have hQ : (k : ℚ) * b = a := by rw [← hEq]; exact hMul
      exact_mod_cast hQ
    refine lt_of_le_of_lt ?_ ha
    rw [← hkb, abs_mul]
    exact le_mul_of_one_le_right (abs_nonneg k) (by rw [abs_of_pos hb]; omega)
  · have hBelow : (a / b : ℚ) + 1 / b ≤ k := by
      have hInt : a + 1 ≤ k * b := by
        have hQ : (a : ℚ) < k * b := by nlinarith
        have : a < k * b := by exact_mod_cast hQ
        omega
      have hCast : ((a + 1 : ℤ) : ℚ) ≤ ((k * b : ℤ) : ℚ) := by exact_mod_cast hInt
      push_cast at hCast
      rw [← add_div, div_le_iff₀ hbQ]
      exact hCast
    linarith

/-! ## Computations on safe integers -/

/-- `x` is what a computation comes to whose exact value is `n`. -/
def Tracks (x : ℚ) (n : ℤ) : Prop :=
  (|n| < 2 ^ 53 ∧ x = n) ∨ (2 ^ 53 ≤ n ∧ 2 ^ 53 ≤ x)

namespace Tracks

variable {x y : ℚ} {n k : ℤ}

/-- A safe integer is tracked by itself. -/
theorem of_isSafe (h : isSafe n = true) : Tracks n n :=
  .inl ⟨of_decide_eq_true h, rfl⟩

/-- Rounding keeps what an exact operation has tracked. -/
theorem round (h : Tracks x n) : Tracks (round x) n := by
  rcases h with ⟨hSafe, rfl⟩ | ⟨hn, hx⟩
  · exact .inl ⟨hSafe, round_intCast hSafe⟩
  · exact .inr ⟨hn, le_round hx⟩

/-- An exact value is tracked by itself, also beyond the safe integers. -/
theorem self (h : 0 ≤ n) : Tracks n n := by
  rcases lt_or_ge n (2 ^ 53) with hLt | hGe
  · exact .inl ⟨by rw [abs_of_nonneg h]; exact hLt, rfl⟩
  · exact .inr ⟨hGe, by exact_mod_cast hGe⟩

/-- What tracks a nonnegative integer is nonnegative. -/
theorem nonneg (h : Tracks x n) (hn : 0 ≤ n) : 0 ≤ x := by
  rcases h with ⟨_, rfl⟩ | ⟨_, hx⟩
  · exact_mod_cast hn
  · exact le_trans (by norm_num) hx

/-- Sums are tracked. -/
theorem add (hx : Tracks x n) (hy : Tracks y k) (hn : 0 ≤ n) (hk : 0 ≤ k) :
    Tracks (x + y) (n + k) := by
  have hx0 := hx.nonneg hn
  have hy0 := hy.nonneg hk
  rcases hx with ⟨_, rfl⟩ | ⟨hnBig, hxBig⟩
  · rcases hy with ⟨_, rfl⟩ | ⟨hkBig, hyBig⟩
    · rw [← Int.cast_add]
      exact self (by omega)
    · exact .inr ⟨by omega, by linarith⟩
  · exact .inr ⟨by omega, by linarith⟩

/-- Products with positive integers are tracked. -/
theorem mul (hx : Tracks x n) (hn : 0 ≤ n) (hk : 1 ≤ k) : Tracks (x * k) (n * k) := by
  have hkQ : (1 : ℚ) ≤ k := by exact_mod_cast hk
  rcases hx with ⟨_, rfl⟩ | ⟨hnBig, hxBig⟩
  · rw [← Int.cast_mul]
    exact self (by positivity)
  · exact .inr ⟨by nlinarith, by nlinarith⟩

/-- Maxima are tracked. -/
theorem max (hx : Tracks x n) (hy : Tracks y k) (hn : 0 ≤ n) :
    Tracks (max x y) (max n k) := by
  rcases hx with ⟨_, rfl⟩ | ⟨hnBig, hxBig⟩
  · rcases hy with ⟨_, rfl⟩ | ⟨hkBig, hyBig⟩
    · rw [← Int.cast_max]
      exact self (le_trans hn (le_max_left n k))
    · exact .inr ⟨le_trans hkBig (le_max_right n k), le_trans hyBig (le_max_right _ y)⟩
  · exact .inr ⟨le_trans hnBig (le_max_left n k), le_trans hxBig (le_max_left x y)⟩

/-- A safe integer compares with the exact value as it does with what was computed. -/
theorem lt_iff {c : ℤ} (h : Tracks x n) (hc : isSafe c = true) : (c : ℚ) < x ↔ c < n := by
  have hc' : |c| < 2 ^ 53 := of_decide_eq_true hc
  rcases h with ⟨_, rfl⟩ | ⟨hn, hx⟩
  · exact Int.cast_lt
  · have hLt : c < 2 ^ 53 := lt_of_le_of_lt (le_abs_self c) hc'
    have hLtQ : (c : ℚ) < 2 ^ 53 := by exact_mod_cast hLt
    exact ⟨fun _ => lt_of_lt_of_le hLt hn, fun _ => lt_of_lt_of_le hLtQ hx⟩

/-- A bound in the safe range is met by both or by neither. -/
theorem le_iff {c : ℤ} (h : Tracks x n) (hc : isSafe c = true) : x ≤ c ↔ n ≤ c := by
  rw [← not_lt, ← not_lt, h.lt_iff hc]

end Tracks

end Double
