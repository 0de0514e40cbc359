import Mathlib.Data.List.Basic

/-!
# Replacing every match

`replaceFrom` goes through a text once and replaces every match of a pattern, as a global regular
expression does. A pattern sees the character before it in the original text, and it says how much
of the text it takes and what stands there instead. The rules say how a text is replaced piece by
piece.
-/

universe u

namespace Replace

variable {α : Type u}

/-- By the symbol before and the text from there on: the replacement, and how many symbols are
replaced. -/
abbrev Pattern (α : Type u) : Type u := Option α → List α → Option (List α × Nat)

/-- Replace every match, after `skip` more symbols of the last one. -/
def replaceFrom (pattern : Pattern α) : Option α → Nat → List α → List α
  | _, _, [] => []
  | _, skip + 1, c :: rest => replaceFrom pattern (some c) skip rest
  | previous, 0, c :: rest =>
    match pattern previous (c :: rest) with
    | none => c :: replaceFrom pattern (some c) 0 rest
    | some (replacement, length) => replacement ++ replaceFrom pattern (some c) (length - 1) rest

variable {pattern : Pattern α} {previous : Option α}

@[simp] theorem replaceFrom_nil (skip : Nat) : replaceFrom pattern previous skip [] = [] := by
  cases skip <;> rfl

theorem replaceFrom_keep {c : α} {rest : List α} (h : pattern previous (c :: rest) = none) :
    replaceFrom pattern previous 0 (c :: rest) = c :: replaceFrom pattern (some c) 0 rest := by
  rw [replaceFrom, h]

/-- What a match takes is skipped. -/
theorem replaceFrom_skip (piece rest : List α) :
    replaceFrom pattern previous piece.length (piece ++ rest) =
      replaceFrom pattern (piece.getLast?.or previous) 0 rest := by
  induction piece generalizing previous with
  | nil => rfl
  | cons c piece ih =>
    rw [List.length_cons, List.cons_append, replaceFrom, ih]
    cases piece with
    | nil => rfl
    | cons d piece =>
      rw [List.getLast?_cons_cons, List.getLast?_eq_some_getLast (List.cons_ne_nil d piece)]
      rfl

/-- A match is replaced. -/
theorem replaceFrom_match {piece rest replacement : List α} (hPiece : piece ≠ [])
    (h : pattern previous (piece ++ rest) = some (replacement, piece.length)) :
    replaceFrom pattern previous 0 (piece ++ rest) =
      replacement ++ replaceFrom pattern (piece.getLast?) 0 rest := by
  obtain ⟨c, piece, rfl⟩ := List.exists_cons_of_ne_nil hPiece
  rw [List.cons_append] at h ⊢
  rw [replaceFrom, h]
  dsimp only
  rw [List.length_cons, Nat.add_sub_cancel, replaceFrom_skip]
  cases piece with
  | nil => rfl
  | cons d piece =>
    rw [List.getLast?_cons_cons, List.getLast?_eq_some_getLast (List.cons_ne_nil d piece)]
    rfl

/-- Symbols that no match begins with are kept. -/
theorem replaceFrom_plain {piece rest : List α}
    (h : ∀ c ∈ piece, ∀ before after, pattern before (c :: after) = none) :
    replaceFrom pattern previous 0 (piece ++ rest) =
      piece ++ replaceFrom pattern (piece.getLast?.or previous) 0 rest := by
  induction piece generalizing previous with
  | nil => rfl
  | cons c piece ih =>
    rw [List.cons_append, replaceFrom_keep (h c List.mem_cons_self _ _),
      ih fun d hd => h d (List.mem_cons_of_mem c hd)]
    cases piece with
    | nil => rfl
    | cons d piece =>
      rw [List.getLast?_cons_cons, List.getLast?_eq_some_getLast (List.cons_ne_nil d piece)]
      rfl

/-! ## Pieces -/

section

variable (pattern : Pattern α) (Ready : Option α → Prop)

/-- Before `rest`, and after a symbol that is `Ready`, the text becomes `out`, and what it leaves
before the rest is `Ready` again. -/
def Rewrites (text out rest : List α) : Prop :=
  ∀ previous, Ready previous → ∃ next, Ready next ∧
    replaceFrom pattern previous 0 (text ++ rest) = out ++ replaceFrom pattern next 0 rest

end

variable {Ready : Option α → Prop} {rest : List α}

theorem Rewrites.nil : Rewrites pattern Ready [] [] rest :=
  fun previous hReady => ⟨previous, hReady, rfl⟩

/-- Pieces are replaced one after the other. -/
theorem Rewrites.append {first firstOut second secondOut : List α}
    (hFirst : Rewrites pattern Ready first firstOut (second ++ rest))
    (hSecond : Rewrites pattern Ready second secondOut rest) :
    Rewrites pattern Ready (first ++ second) (firstOut ++ secondOut) rest := by
  intro previous hReady
  obtain ⟨middle, hMiddle, hFirst⟩ := hFirst previous hReady
  obtain ⟨next, hNext, hSecond⟩ := hSecond middle hMiddle
  exact ⟨next, hNext, by rw [List.append_assoc, hFirst, hSecond, List.append_assoc]⟩

/-- Symbols that no match begins with, nor needs before it, are kept. -/
theorem Rewrites.plain {text : List α} (hReady : ∀ c ∈ text, Ready (some c))
    (hKeep : ∀ c ∈ text, ∀ before after, pattern before (c :: after) = none) :
    Rewrites pattern Ready text text rest := by
  intro previous hPrevious
  refine ⟨text.getLast?.or previous, ?_, replaceFrom_plain hKeep⟩
  rcases List.eq_nil_or_concat text with rfl | ⟨front, last, rfl⟩
  · exact hPrevious
  · rw [List.concat_eq_append, List.getLast?_append, List.getLast?_singleton, Option.some_or,
      Option.some_or]
    exact hReady last (by simp)

end Replace
