import Mathlib.Data.List.Chain

/-!
# Logs of changes

A log that many things share, each under a key of its own. `last` is what the log says of a key;
`Changes` says that nothing was logged twice in a row under one key.
-/

universe u v w

namespace ChangeLog

variable {ε : Type u} {κ : Type v} {ν : Type w} [DecidableEq κ]

section

variable (key : ε → κ) (value : ε → ν)

/-- The value logged last under a key. -/
def last (log : List ε) (k : κ) : Option ν :=
  ((log.filter fun entry => key entry = k).getLast?).map value

/-- Two entries of one key with nothing of that key between them have different values. -/
def Changes (log : List ε) : Prop :=
  ∀ k, ((log.filter fun entry => key entry = k).map value).IsChain (· ≠ ·)

end

variable {key : ε → κ} {value : ε → ν}

@[simp] theorem last_nil (k : κ) : last key value [] k = none := rfl

/-- An entry counts for its own key. -/
theorem last_push (log : List ε) (entry : ε) (k : κ) :
    last key value (log ++ [entry]) k =
      if key entry = k then some (value entry) else last key value log k := by
  unfold last
  rw [List.filter_append]
  by_cases hKey : key entry = k
  · rw [if_pos hKey, List.filter_cons_of_pos (by simpa using hKey), List.filter_nil,
      List.getLast?_append, List.getLast?_singleton, Option.some_or, Option.map_some]
  · rw [if_neg hKey, List.filter_cons_of_neg (by simpa using hKey), List.filter_nil,
      List.append_nil]

theorem changes_nil : Changes key value [] := fun _ => List.isChain_nil

/-- An entry whose value differs from the last one under its key may be logged. -/
theorem Changes.push {log : List ε} (h : Changes key value log) {entry : ε}
    (hNew : last key value log (key entry) ≠ some (value entry)) :
    Changes key value (log ++ [entry]) := by
  intro k
  rw [List.filter_append]
  by_cases hKey : key entry = k
  · subst hKey
    rw [List.filter_cons_of_pos (by simp), List.filter_nil, List.map_append, List.map_singleton,
      List.isChain_append]
    refine ⟨h (key entry), List.isChain_singleton _, ?_⟩
    intro before hBefore after hAfter
    rw [List.getLast?_map] at hBefore
    rw [List.head?_cons, Option.mem_some_iff] at hAfter
    rintro rfl
    exact hNew (hAfter ▸ hBefore)
  · rw [List.filter_cons_of_neg (by simpa using hKey), List.filter_nil, List.append_nil]
    exact h k

end ChangeLog
