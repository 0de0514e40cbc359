import Mathlib.Data.List.Basic

/-!
# Maximal runs

The stretches of a list whose members all have a property, taken as far as they go. A scan that
looks for blocks of one length, with nothing of the kind on either side, sees exactly the runs of
that length.

Main result: `Runs.mem_runs_iff`, what stands in the list around a run.
-/

namespace Runs

variable {α : Type} {p : α → Bool}

/-- A run in front of others, unless it is empty. -/
def push (run : List α) (runs : List (List α)) : List (List α) :=
  if run.isEmpty then runs else run :: runs

/-- The runs that start behind a member without the property. -/
def laterRuns (p : α → Bool) : List α → List (List α)
  | [] => []
  | a :: rest =>
    if p a then laterRuns p rest else push (rest.takeWhile p) (laterRuns p rest)

/-- The maximal runs, in order. -/
def runs (p : α → Bool) (l : List α) : List (List α) := push (l.takeWhile p) (laterRuns p l)

theorem mem_push {run other : List α} {others : List (List α)} :
    run ∈ push other others ↔ (run = other ∧ run ≠ []) ∨ run ∈ others := by
  unfold push
  cases other with
  | nil => simp
  | cons a rest =>
    simp only [List.isEmpty_cons, Bool.false_eq_true, if_false, List.mem_cons]
    constructor
    · rintro (rfl | h)
      · exact .inl ⟨rfl, List.cons_ne_nil _ _⟩
      · exact .inr h
    · rintro (⟨rfl, -⟩ | h)
      · exact .inl rfl
      · exact .inr h

/-- No member with the property stands at the head. -/
def Stops (p : α → Bool) (rest : List α) : Prop := ∀ a ∈ rest.head?, p a = false

theorem takeWhile_append_of_stops {run rest : List α} (hRun : ∀ a ∈ run, p a = true)
    (hRest : Stops p rest) : (run ++ rest).takeWhile p = run := by
  rw [List.takeWhile_append_of_pos hRun]
  cases rest with
  | nil => rw [List.takeWhile_nil, List.append_nil]
  | cons a rest =>
    have hFails : ¬ p a = true := by
      rw [hRest a rfl]
      exact Bool.false_ne_true
    rw [List.takeWhile_cons_of_neg hFails, List.append_nil]

/-- The head of a list splits off as far as the property goes. -/
theorem exists_takeWhile_append (p : α → Bool) (l : List α) :
    ∃ rest, l = l.takeWhile p ++ rest ∧ Stops p rest := by
  refine ⟨l.dropWhile p, List.takeWhile_append_dropWhile.symm, ?_⟩
  intro a ha
  have hNot := List.head?_dropWhile_not p l
  rw [Option.mem_def.mp ha] at hNot
  simpa using hNot

theorem mem_laterRuns_iff {run l : List α} :
    run ∈ laterRuns p l ↔ run ≠ [] ∧ (∀ a ∈ run, p a = true) ∧
      ∃ before stop rest, l = before ++ stop :: (run ++ rest) ∧ p stop = false ∧
        Stops p rest := by
  induction l with
  | nil => simp [laterRuns]
  | cons a l ih =>
    rw [laterRuns]
    constructor
    · intro h
      split at h
      · obtain ⟨hNonempty, hAll, before, stop, rest, rfl, hStop, hRest⟩ := ih.mp h
        exact ⟨hNonempty, hAll, a :: before, stop, rest, rfl, hStop, hRest⟩
      · rename_i hFails
        rw [mem_push] at h
        obtain ⟨rfl, hNonempty⟩ | h := h
        · obtain ⟨rest, hSplit, hRest⟩ := exists_takeWhile_append p l
          refine ⟨hNonempty, List.all_eq_true.mp List.all_takeWhile, [], a, rest, ?_, ?_, hRest⟩
          · rw [List.nil_append, ← hSplit]
          · exact Bool.eq_false_iff.mpr hFails
        · obtain ⟨hNonempty, hAll, before, stop, rest, rfl, hStop, hRest⟩ := ih.mp h
          exact ⟨hNonempty, hAll, a :: before, stop, rest, rfl, hStop, hRest⟩
    · rintro ⟨hNonempty, hAll, before, stop, rest, hSplit, hStop, hRest⟩
      cases before with
      | nil =>
        -- the run starts right behind the head
        obtain ⟨rfl, rfl⟩ := List.cons.inj hSplit
        have hFails : ¬ p a = true := by
          rw [hStop]
          exact Bool.false_ne_true
        rw [if_neg hFails, mem_push, takeWhile_append_of_stops hAll hRest]
        exact .inl ⟨rfl, hNonempty⟩
      | cons b before =>
        obtain ⟨rfl, rfl⟩ := List.cons.inj hSplit
        have hLater := ih.mpr ⟨hNonempty, hAll, before, stop, rest, rfl, hStop, hRest⟩
        split
        · exact hLater
        · exact mem_push.mpr (.inr hLater)

/-- A run is a block of members with the property that neither side goes on with. -/
theorem mem_runs_iff {run l : List α} :
    run ∈ runs p l ↔ run ≠ [] ∧ (∀ a ∈ run, p a = true) ∧
      ∃ before rest, l = before ++ (run ++ rest) ∧
        (∀ a ∈ before.getLast?, p a = false) ∧ Stops p rest := by
  unfold runs
  rw [mem_push, mem_laterRuns_iff]
  constructor
  · rintro (⟨rfl, hNonempty⟩ | ⟨hNonempty, hAll, before, stop, rest, rfl, hStop, hRest⟩)
    · obtain ⟨rest, hSplit, hRest⟩ := exists_takeWhile_append p l
      refine ⟨hNonempty, List.all_eq_true.mp List.all_takeWhile, [], rest, hSplit, ?_, hRest⟩
      intro a ha
      cases ha
    · refine ⟨hNonempty, hAll, before ++ [stop], rest, by simp, ?_, hRest⟩
      intro a ha
      rw [List.getLast?_append, List.getLast?_singleton, Option.mem_def, Option.some_or] at ha
      obtain rfl := Option.some.inj ha
      exact hStop
  · rintro ⟨hNonempty, hAll, before, rest, rfl, hBefore, hRest⟩
    rcases before.eq_nil_or_concat with rfl | ⟨front, stop, rfl⟩
    · left
      rw [List.nil_append, takeWhile_append_of_stops hAll hRest]
      exact ⟨rfl, hNonempty⟩
    · right
      refine ⟨hNonempty, hAll, front, stop, rest, by simp, ?_, hRest⟩
      exact hBefore stop (by simp)

end Runs
