import Mathlib.Data.Nat.Digits.Lemmas
import Mathlib.Tactic.Common

/-!
# Digits in another radix

A run of digits, the most significant first, is written with the digits of another radix, and as
many zeros in front as it has itself. Writing it back gives the run (`Radix.convert_convert`).
-/

namespace Radix

/-- The number that the digits denote. -/
def value (b : Nat) (ds : List Nat) : Nat := ds.foldl (fun n d => b * n + d) 0

def leadingZeros (ds : List Nat) : Nat := (ds.takeWhile (· == 0)).length

def convert (a b : Nat) (ds : List Nat) : List Nat :=
  List.replicate (leadingZeros ds) 0 ++ (Nat.digits b (value a ds)).reverse

variable {a b : Nat} {ds : List Nat}

theorem value_append_singleton (b : Nat) (ds : List Nat) (d : Nat) :
    value b (ds ++ [d]) = b * value b ds + d := by
  simp [value]

theorem value_eq_ofDigits (b : Nat) (ds : List Nat) : value b ds = Nat.ofDigits b ds.reverse := by
  induction ds using List.reverseRecOn with
  | nil => rfl
  | append_singleton ds d ih =>
    rw [value_append_singleton, ih, List.reverse_append, List.reverse_singleton,
      List.singleton_append, Nat.ofDigits_cons, Nat.add_comm]

/-- Zeros in front do not count. -/
theorem value_replicate_append (b n : Nat) (ds : List Nat) :
    value b (List.replicate n 0 ++ ds) = value b ds := by
  rw [value_eq_ofDigits, value_eq_ofDigits, List.reverse_append, List.reverse_replicate,
    Nat.ofDigits_append_replicate_zero]

theorem value_eq_zero_iff (hb : 0 < b) : value b ds = 0 ↔ ∀ d ∈ ds, d = 0 := by
  induction ds using List.reverseRecOn with
  | nil => simp [value]
  | append_singleton ds d ih =>
    have hb : b ≠ 0 := Nat.pos_iff_ne_zero.mp hb
    rw [value_append_singleton, Nat.add_eq_zero_iff, Nat.mul_eq_zero, or_iff_right hb, ih]
    simp [or_imp, forall_and]

theorem dropWhile_append_singleton (ds : List Nat) (d : Nat) :
    (ds ++ [d]).dropWhile (· == 0) =
      if ∀ e ∈ ds, e = 0 then [d].dropWhile (· == 0) else ds.dropWhile (· == 0) ++ [d] := by
  induction ds with
  | nil => simp
  | cons e ds ih =>
    by_cases he : e = 0
    · have hDrop (rest : List Nat) :
          (0 :: rest).dropWhile (· == 0) = rest.dropWhile (· == 0) := rfl
      rw [he, List.cons_append, hDrop, hDrop, ih]
      simp only [List.forall_mem_cons, true_and]
    · have hAll : ¬ ∀ x ∈ e :: ds, x = 0 := fun h => he (h e List.mem_cons_self)
      rw [if_neg hAll, List.cons_append, List.dropWhile_cons_of_neg (by simpa using he),
        List.dropWhile_cons_of_neg (by simpa using he), List.cons_append]

/-- The digits of the number that a run of digits denotes, less the zeros in front. -/
theorem digits_value (hb : 1 < b) (h : ∀ d ∈ ds, d < b) :
    (Nat.digits b (value b ds)).reverse = ds.dropWhile (· == 0) := by
  induction ds using List.reverseRecOn with
  | nil => simp [value]
  | append_singleton ds d ih =>
    have hd : d < b := h d (by simp)
    rw [dropWhile_append_singleton, value_append_singleton, Nat.add_comm]
    by_cases hZero : value b ds = 0
    · rw [if_pos ((value_eq_zero_iff (by omega)).mp hZero), hZero, Nat.mul_zero, Nat.add_zero]
      by_cases hd0 : d = 0
      · simp [hd0]
      · rw [Nat.digits_of_lt b d hd0 hd]
        simp [hd0]
    · rw [if_neg (fun hAll => hZero ((value_eq_zero_iff (by omega)).mpr hAll)),
        Nat.digits_add b hb d (value b ds) hd (Or.inr hZero), List.reverse_cons,
        ih fun e he => h e (List.mem_append_left _ he)]

/-- The digits of a number have no zero in front. -/
theorem head?_digits (b n : Nat) : (Nat.digits b n).reverse.head? ≠ some 0 := by
  rw [List.head?_reverse]
  intro h
  have hne : Nat.digits b n ≠ [] := by
    intro hNil
    rw [hNil] at h
    cases h
  rw [List.getLast?_eq_some_getLast hne] at h
  exact Nat.getLast_digit_ne_zero b (Nat.digits_ne_nil_iff_ne_zero.mp hne) (Option.some.inj h)

theorem leadingZeros_convert (a b : Nat) (ds : List Nat) :
    leadingZeros (convert a b ds) = leadingZeros ds := by
  have hDigits := head?_digits b (value a ds)
  unfold leadingZeros convert
  cases hRun : (Nat.digits b (value a ds)).reverse with
  | nil => simp [leadingZeros]
  | cons d rest =>
    rw [hRun] at hDigits
    have hd : d ≠ 0 := fun h => hDigits (congrArg some h)
    simp [leadingZeros, hd]

theorem convert_lt (hb : 1 < b) : ∀ d ∈ convert a b ds, d < b := by
  intro d hd
  rcases List.mem_append.mp hd with hd | hd
  · rw [List.eq_of_mem_replicate hd]
    omega
  · exact Nat.digits_lt_base hb (List.mem_reverse.mp hd)

/-- Digits written in another radix and back. -/
theorem convert_convert (ha : 1 < a) (h : ∀ d ∈ ds, d < a) : convert b a (convert a b ds) = ds := by
  have hValue : value b (convert a b ds) = value a ds := by
    rw [convert, value_replicate_append, value_eq_ofDigits, List.reverse_reverse,
      Nat.ofDigits_digits]
  have hZeros : List.replicate (leadingZeros ds) 0 = ds.takeWhile (· == 0) := by
    refine (List.eq_replicate_iff.mpr ⟨rfl, fun d hd => ?_⟩).symm
    exact beq_iff_eq.mp (List.all_eq_true.mp List.all_takeWhile d hd)
  rw [convert, leadingZeros_convert, hValue, digits_value ha h, hZeros,
    List.takeWhile_append_dropWhile]

end Radix
