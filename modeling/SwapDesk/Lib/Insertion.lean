import Mathlib.Data.List.Basic

/-!
# Lists with elements inserted

`Inserted P l l'`: `l'` is `l` with further elements, each satisfying `P`,
inserted anywhere. What depends only on the elements without `P`, or on the first
element of a kind that has none with `P`, is the same for both.
-/

universe u v

variable {α : Type u} {β : Type v} {P : α → Prop} {l l' : List α}

inductive Inserted (P : α → Prop) : List α → List α → Prop
  | nil : Inserted P [] []
  | keep (x : α) {l l' : List α} : Inserted P l l' → Inserted P (x :: l) (x :: l')
  | insert {x : α} {l l' : List α} : P x → Inserted P l l' → Inserted P l (x :: l')

namespace Inserted

/-- Nothing is removed. -/
theorem sublist (h : Inserted P l l') : l.Sublist l' := by
  induction h with
  | nil => exact .slnil
  | keep x _ ih => exact ih.cons_cons x
  | insert _ _ ih => exact ih.cons _

theorem mem (h : Inserted P l l') {x : α} (hx : x ∈ l) : x ∈ l' := h.sublist.subset hx

/-- What is there afterwards was there or was inserted. -/
theorem mem_or (h : Inserted P l l') {x : α} (hx : x ∈ l') : x ∈ l ∨ P x := by
  induction h with
  | nil => cases hx
  | keep y _ ih =>
    rcases List.mem_cons.mp hx with rfl | hx
    · exact .inl List.mem_cons_self
    · exact (ih hx).imp_left (List.mem_cons_of_mem y)
  | insert hP _ ih =>
    rcases List.mem_cons.mp hx with rfl | hx
    · exact .inr hP
    · exact ih hx

/-- A search that no inserted element answers finds the same. -/
theorem findSome?_eq (h : Inserted P l l') {f : α → Option β} (hf : ∀ x, P x → f x = none) :
    l'.findSome? f = l.findSome? f := by
  induction h with
  | nil => rfl
  | keep x _ ih => rw [List.findSome?_cons, List.findSome?_cons, ih]
  | insert hP _ ih => rw [List.findSome?_cons, hf _ hP, ih]

/-- Whatever is read off each element is inserted as well. -/
theorem filterMap (h : Inserted P l l') {Q : β → Prop} (f : α → Option β)
    (hf : ∀ x b, P x → f x = some b → Q b) : Inserted Q (l.filterMap f) (l'.filterMap f) := by
  induction h with
  | nil => exact .nil
  | keep x _ ih =>
    rw [List.filterMap_cons, List.filterMap_cons]
    cases f x with
    | none => exact ih
    | some b => exact .keep b ih
  | @insert x _ _ hP _ ih =>
    rw [List.filterMap_cons]
    cases hfx : f x with
    | none => exact ih
    | some b => exact .insert (hf x b hP hfx) ih

end Inserted
