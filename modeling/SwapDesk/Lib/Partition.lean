import Mathlib.Data.List.Basic

/-!
# Lists that a property splits in two

In a list where no element with a property stands behind one without it, the number of the
elements with the property says where they stand (`List.Pairwise.lt_countP_iff`).
-/

universe u

variable {α : Type u} {R : α → α → Prop} {l : List α} {p : α → Bool}

/-- The elements with `p` are the first ones. -/
theorem List.Pairwise.lt_countP_iff (h : l.Pairwise R) (hp : ∀ a b, R a b → p b → p a) {i : Nat}
    {a : α} (ha : l[i]? = some a) : i < l.countP p ↔ p a = true := by
  induction l generalizing i with
  | nil => cases ha
  | cons b l ih =>
    rw [List.pairwise_cons] at h
    cases hb : p b with
    | true =>
      rw [List.countP_cons_of_pos hb]
      cases i with
      | zero =>
        obtain rfl := Option.some.inj ha
        simp [hb]
      | succ i =>
        rw [Nat.add_lt_add_iff_right]
        exact ih h.2 ha
    | false =>
      -- nothing behind has the property either
      have hNone : ∀ c ∈ l, p c = false := fun c hc => by
        rw [Bool.eq_false_iff]
        intro hc'
        rw [hp b c (h.1 c hc) hc'] at hb
        cases hb
      have hZero : l.countP p = 0 := List.countP_eq_zero.mpr fun c hc => by simp [hNone c hc]
      rw [List.countP_cons_of_neg (by simp [hb]), hZero]
      have hMem : a ∈ b :: l := List.mem_of_getElem? ha
      have hFalse : p a = false := by
        rcases List.mem_cons.mp hMem with rfl | hMem
        · exact hb
        · exact hNone a hMem
      simp [hFalse]

/-- The elements with a property that two others divide up. -/
theorem List.countP_eq_add {q r : α → Bool} (h : ∀ a ∈ l, p a = (q a || r a))
    (hDisjoint : ∀ a ∈ l, (q a && r a) = false) : l.countP p = l.countP q + l.countP r := by
  induction l with
  | nil => rfl
  | cons a l ih =>
    have hRest := ih (fun b hb => h b (List.mem_cons_of_mem a hb))
      fun b hb => hDisjoint b (List.mem_cons_of_mem a hb)
    have ha := h a List.mem_cons_self
    have hNot := hDisjoint a List.mem_cons_self
    rw [List.countP_cons, List.countP_cons, List.countP_cons, hRest, ha]
    cases hq : q a <;> cases hr : r a <;> simp_all <;> omega
