import Mathlib.Data.List.Perm.Basic
import Mathlib.Algebra.BigOperators.Group.List.Basic
import Mathlib.Algebra.Order.Group.Nat
import Mathlib.Algebra.GroupWithZero.Nat

/-!
# Pools of messages in flight

A message system hands over any one of the messages in flight, in any order.
`Pool.take l i` takes the `i`-th message out of the pool `l`. What is left is,
up to order, the pool without it (`Pool.take_perm`), and every fact that does
not look at the order follows from that.
-/

namespace Pool

variable {α β : Type*}

/-- Take the `i`-th message out of the pool. -/
def take (l : List α) (i : Nat) : Option (α × List α) :=
  l[i]?.map fun a => (a, l.eraseIdx i)

theorem take_perm {l rest : List α} {i : Nat} {a : α} (h : take l i = some (a, rest)) :
    l.Perm (a :: rest) := by
  obtain ⟨b, hb, heq⟩ := Option.map_eq_some_iff.mp h
  obtain ⟨rfl, rfl⟩ := Prod.mk.inj heq
  obtain ⟨hi, rfl⟩ := List.getElem?_eq_some_iff.mp hb
  exact (List.getElem_cons_eraseIdx_perm hi).symm

theorem mem_of_take {l rest : List α} {i : Nat} {a : α} (h : take l i = some (a, rest)) :
    a ∈ l :=
  (take_perm h).mem_iff.mpr List.mem_cons_self

theorem sum_of_take {f : α → Nat} {l rest : List α} {i : Nat} {a : α}
    (h : take l i = some (a, rest)) : (l.map f).sum = f a + (rest.map f).sum := by
  rw [((take_perm h).map f).sum_eq, List.map_cons, List.sum_cons]

/-- The messages of the pool that `p` picks are untouched by taking another. -/
theorem filter_of_take_neg {p : α → Bool} {l rest : List α} {i : Nat} {a : α}
    (h : take l i = some (a, rest)) (ha : p a = false) :
    (l.filter p).Perm (rest.filter p) := by
  have hperm := (take_perm h).filter p
  rwa [List.filter_cons_of_neg (by simp [ha])] at hperm

/-- Taking the only message `p` picks leaves none. -/
theorem filter_of_take_single {p : α → Bool} {l rest : List α} {i : Nat} {a b : α}
    (h : take l i = some (a, rest)) (ha : p a = true) (hl : l.filter p = [b]) :
    a = b ∧ rest.filter p = [] := by
  have hperm := (take_perm h).filter p
  rw [List.filter_cons_of_pos ha, hl] at hperm
  obtain ⟨hab, hrest⟩ := List.cons.inj (List.perm_singleton.mp hperm.symm)
  exact ⟨hab, hrest⟩

end Pool
