import Mathlib.Algebra.Order.BigOperators.Group.Finset

/-!
# Debts covered by a balance

A debtor owes `debt k` to each key `k` of a possibly infinite type, and holds a
reserve besides. `Covers balance debt reserve` says that the balance pays
whatever is owed to finitely many keys, and the reserve with it; where the
debts have finite support this bounds their sum. An event changes the debt to
one key, the reserve and the balance, and `Covers.update` is all it takes to
carry coverage over it.
-/

open Finset

/-- The balance covers the debts to any finitely many keys, and the reserve. -/
def Covers {κ : Type*} (balance : Nat) (debt : κ → Nat) (reserve : Nat) : Prop :=
  ∀ S : Finset κ, ∑ k ∈ S, debt k + reserve ≤ balance

namespace Covers

variable {κ : Type*} {balance balance' reserve reserve' : Nat} {debt debt' : κ → Nat}

theorem of_no_debt (hdebt : ∀ k, debt k = 0) (h : reserve ≤ balance) :
    Covers balance debt reserve := by
  intro S
  simpa [hdebt] using h

/-- Coverage survives a change of one debt, the reserve and the balance that
does not cost more than it brings in. -/
theorem update [DecidableEq κ] (h : Covers balance debt reserve) {k₀ : κ}
    (hother : ∀ k, k ≠ k₀ → debt' k = debt k)
    (hcost : debt' k₀ + reserve' + balance ≤ debt k₀ + reserve + balance') :
    Covers balance' debt' reserve' := by
  intro S
  have hbefore := h (insert k₀ S)
  rw [← Finset.add_sum_erase _ _ (Finset.mem_insert_self k₀ S)] at hbefore
  have hsame : ∑ k ∈ (insert k₀ S).erase k₀, debt' k = ∑ k ∈ (insert k₀ S).erase k₀, debt k :=
    Finset.sum_congr rfl fun k hk => hother k (Finset.ne_of_mem_erase hk)
  have hgrow : ∑ k ∈ S, debt' k ≤ ∑ k ∈ insert k₀ S, debt' k :=
    Finset.sum_le_sum_of_subset (Finset.subset_insert k₀ S)
  rw [← Finset.add_sum_erase _ _ (Finset.mem_insert_self k₀ S), hsame] at hgrow
  omega

/-- Coverage survives a change of the reserve and the balance alone. -/
theorem rebalance (h : Covers balance debt reserve)
    (hcost : reserve' + balance ≤ reserve + balance') : Covers balance' debt reserve' := by
  intro S
  have hbefore := h S
  omega

/-- The debts to finitely many keys are within the balance. -/
theorem sum_le (h : Covers balance debt reserve) (S : Finset κ) : ∑ k ∈ S, debt k ≤ balance :=
  (Nat.le_add_right _ _).trans (h S)

end Covers
