import Mathlib.Data.List.Basic

/-!
# Separated texts

A text of fields with one separator between each two of them. What splitting it gives is pinned
down by `splitOn_eq_iff`: the fields have no separator in them, and joined they are the text.
-/

namespace Separated

universe u

theorem intercalate_append {α : Type u} {sep : List α} {parts parts' : List (List α)}
    (h : parts ≠ []) (h' : parts' ≠ []) :
    sep.intercalate (parts ++ parts') =
      sep.intercalate parts ++ (sep ++ sep.intercalate parts') := by
  induction parts with
  | nil => exact absurd rfl h
  | cons part rest ih =>
    by_cases hRest : rest = []
    · subst hRest
      rw [List.cons_append, List.nil_append, List.intercalate_cons_of_ne_nil h',
        List.intercalate_singleton, List.append_assoc]
    · rw [List.cons_append, List.intercalate_cons_of_ne_nil hRest,
        List.intercalate_cons_of_ne_nil (List.append_ne_nil_of_left_ne_nil hRest _), ih hRest]
      simp only [List.append_assoc]

/-- Where the first separator stands. -/
theorem parts_at_separator {α : Type u} {a : α} {x x' y y' : List α}
    (h : x ++ a :: y = x' ++ a :: y') (hx : a ∉ x) (hx' : a ∉ x') : x = x' ∧ y = y' := by
  classical
  have hBefore {x y : List α} (hx : a ∉ x) :
      (x ++ a :: y).takeWhile (fun b => decide (b ≠ a)) = x := by
    rw [List.takeWhile_append_of_pos]
    · simp
    · intro b hb
      exact decide_eq_true fun hSame => hx (hSame ▸ hb)
  have hSame : x = x' := by
    rw [← hBefore (y := y) hx, h, hBefore hx']
  subst hSame
  exact ⟨rfl, (List.cons.inj (List.append_cancel_left h)).2⟩

/-- An element is a separator, or stands in one of the parts. -/
theorem mem_splitOnP {α : Type u} {p : α → Bool} {text : List α} :
    ∀ c ∈ text, p c = true ∨ ∃ part ∈ text.splitOnP p, c ∈ part := by
  induction text with
  | nil => exact fun c hc => absurd hc List.not_mem_nil
  | cons d rest ih =>
    intro c hc
    rw [List.splitOnP_cons_eq_if_modifyHead]
    obtain ⟨first, others, hSplit⟩ := List.exists_cons_of_ne_nil (List.splitOnP_ne_nil p rest)
    rw [hSplit] at ih ⊢
    by_cases hd : p d = true
    · rw [if_pos hd]
      rcases List.mem_cons.mp hc with rfl | hc
      · exact .inl hd
      · obtain hSep | ⟨part, hPart, hMem⟩ := ih c hc
        · exact .inl hSep
        · exact .inr ⟨part, List.mem_cons_of_mem _ hPart, hMem⟩
    · rw [if_neg hd, List.modifyHead_cons]
      rcases List.mem_cons.mp hc with rfl | hc
      · exact .inr ⟨c :: first, List.mem_cons_self, List.mem_cons_self⟩
      · obtain hSep | ⟨part, hPart, hMem⟩ := ih c hc
        · exact .inl hSep
        · rcases List.mem_cons.mp hPart with rfl | hPart
          · exact .inr ⟨d :: part, List.mem_cons_self, List.mem_cons_of_mem _ hMem⟩
          · exact .inr ⟨part, List.mem_cons_of_mem _ hPart, hMem⟩

section

variable {α : Type u} [BEq α] [LawfulBEq α] {sep : α} {text : List α} {parts : List (List α)}

theorem not_mem_of_mem_splitOn : ∀ part ∈ text.splitOn sep, sep ∉ part := by
  induction text with
  | nil =>
    intro part hPart
    rw [List.splitOn_nil, List.mem_singleton] at hPart
    subst hPart
    exact List.not_mem_nil
  | cons c rest ih =>
    intro part hPart
    rw [List.splitOn_cons_eq_if_modifyHead] at hPart
    obtain ⟨first, others, hSplit⟩ := List.exists_cons_of_ne_nil (List.splitOn_ne_nil sep rest)
    rw [hSplit] at hPart ih
    split at hPart
    · rcases List.mem_cons.mp hPart with rfl | hRest
      · exact List.not_mem_nil
      · exact ih part hRest
    · rename_i hNe
      rw [List.modifyHead_cons] at hPart
      rcases List.mem_cons.mp hPart with rfl | hRest
      · intro hMem
        rcases List.mem_cons.mp hMem with rfl | hMem
        · exact hNe (beq_self_eq_true sep)
        · exact ih first List.mem_cons_self hMem
      · exact ih part (List.mem_cons_of_mem _ hRest)

/-- The fields of a text have no separator in them, and joined they are the text. -/
theorem splitOn_eq_iff :
    text.splitOn sep = parts ↔
      parts ≠ [] ∧ (∀ part ∈ parts, sep ∉ part) ∧ text = [sep].intercalate parts := by
  constructor
  · rintro rfl
    exact ⟨List.splitOn_ne_nil sep text, not_mem_of_mem_splitOn,
      (List.intercalate_splitOn sep).symm⟩
  · rintro ⟨hNe, hParts, rfl⟩
    exact List.splitOn_intercalate sep hParts hNe

end

/-- The same of strings. -/
theorem fields_eq_iff {sep : Char} {text : String} {parts : List String} :
    (text.toList.splitOn sep).map String.ofList = parts ↔
      parts ≠ [] ∧ (∀ part ∈ parts, sep ∉ part.toList) ∧
        text = (String.singleton sep).intercalate parts := by
  have hText : text = (String.singleton sep).intercalate parts ↔
      text.toList = [sep].intercalate (parts.map String.toList) := by
    rw [← String.toList_inj, String.toList_intercalate, String.toList_singleton]
  have hLists : (text.toList.splitOn sep).map String.ofList = parts ↔
      text.toList.splitOn sep = parts.map String.toList := by
    constructor
    · rintro rfl
      rw [List.map_map]
      exact (List.map_id' _).symm.trans
        (List.map_congr_left fun part _ => String.toList_ofList.symm)
    · intro h
      rw [h, List.map_map]
      exact (List.map_congr_left fun part _ => String.ofList_toList).trans (List.map_id' _)
  rw [hLists, hText, splitOn_eq_iff]
  simp only [ne_eq, List.map_eq_nil_iff, List.forall_mem_map]

end Separated
