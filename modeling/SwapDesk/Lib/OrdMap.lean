import Mathlib.Data.List.Nodup

/-!
# Maps in insertion order

A map that remembers the order in which its keys were first set, as a list of
entries without a repeated key. Lookup does not depend on the order; iteration
does.
-/

universe u v w

/-! ## Lists of entries -/

namespace Entries

variable {κ : Type u} {α : Type v} [BEq κ] [LawfulBEq κ] {entries : List (κ × α)} {k : κ} {a : α}

/-- What a lookup finds is an entry. -/
theorem mem_of_lookup (h : entries.lookup k = some a) : (k, a) ∈ entries := by
  obtain ⟨before, after, rfl, -⟩ := List.lookup_eq_some_iff.mp h
  exact List.mem_append_right _ List.mem_cons_self

/-- Where no key is there twice, the entry of a key is the one that a lookup finds. -/
theorem lookup_iff_mem (hNodup : (entries.map Prod.fst).Nodup) :
    entries.lookup k = some a ↔ (k, a) ∈ entries := by
  refine ⟨mem_of_lookup, fun hMem => ?_⟩
  induction entries with
  | nil => cases hMem
  | cons entry entries ih =>
    obtain ⟨hFirst, hRest⟩ := List.nodup_cons.mp hNodup
    rcases List.mem_cons.mp hMem with rfl | hMem
    · exact List.lookup_cons_self
    · have hne : (k == entry.1) = false :=
        beq_false_of_ne fun hKey => hFirst (hKey ▸ List.mem_map_of_mem hMem)
      rw [List.lookup_cons, hne]
      exact ih hRest hMem

end Entries

/-! ## Maps -/

structure OrdMap (κ : Type u) (α : Type v) where
  entries : List (κ × α)
  nodup : (entries.map Prod.fst).Nodup

namespace OrdMap

variable {κ : Type u} {α : Type v} {β : Type w}

def empty : OrdMap κ α := ⟨[], List.nodup_nil⟩

variable [DecidableEq κ]

def get? (m : OrdMap κ α) (k : κ) : Option α := m.entries.lookup k

def has (m : OrdMap κ α) (k : κ) : Bool := (m.get? k).isSome

@[simp] theorem get?_empty (k : κ) : (empty : OrdMap κ α).get? k = none := rfl

/-- An entry of the map is what its key looks up. -/
theorem mem_entries {m : OrdMap κ α} {k : κ} {a : α} :
    (k, a) ∈ m.entries ↔ m.get? k = some a :=
  (Entries.lookup_iff_mem m.nodup).symm

/-- `if (!m.has(k)) m.set(k, a)` -/
def setIfAbsent (m : OrdMap κ α) (k : κ) (a : α) : OrdMap κ α :=
  if h : m.get? k = none then
    { entries := m.entries ++ [(k, a)]
      nodup := by
        rw [List.map_append, List.nodup_append]
        refine ⟨m.nodup, List.nodup_singleton k, ?_⟩
        rintro x hx y hy rfl
        obtain rfl := List.mem_singleton.mp hy
        obtain ⟨⟨k', a'⟩, hmem, rfl⟩ := List.mem_map.mp hx
        rw [mem_entries.mp hmem] at h
        cases h }
  else m

theorem get?_setIfAbsent (m : OrdMap κ α) (k k' : κ) (a : α) :
    (m.setIfAbsent k a).get? k' = (m.get? k').or (if k' = k then some a else none) := by
  unfold setIfAbsent
  split
  · unfold get?
    rw [List.lookup_append]
    by_cases hk : k' = k
    · simp [hk]
    · have hbeq : (k' == k) = false := by simpa using hk
      simp [List.lookup_cons, hk, hbeq]
  · rename_i h
    obtain ⟨b, hb⟩ := Option.ne_none_iff_exists'.mp h
    by_cases hk : k' = k
    · subst hk
      simp [hb]
    · simp [hk]

/-- Replace what a key holds, and nothing else. -/
def modify (m : OrdMap κ α) (k : κ) (f : α → α) : OrdMap κ α where
  entries := m.entries.map fun e => if e.1 = k then (e.1, f e.2) else e
  nodup := by
    have hkeys : (m.entries.map fun e => if e.1 = k then (e.1, f e.2) else e).map Prod.fst =
        m.entries.map Prod.fst := by
      rw [List.map_map]
      refine List.map_congr_left fun e _ => ?_
      dsimp only [Function.comp]
      split <;> rfl
    rw [hkeys]
    exact m.nodup

theorem get?_modify (m : OrdMap κ α) (k k' : κ) (f : α → α) :
    (m.modify k f).get? k' = if k' = k then (m.get? k').map f else m.get? k' := by
  unfold get? modify
  dsimp only
  induction m.entries with
  | nil => simp
  | cons e entries ih =>
    obtain ⟨k₀, a₀⟩ := e
    rw [List.map_cons, List.lookup_cons]
    by_cases hk₀ : k₀ = k
    · subst hk₀
      rw [if_pos rfl, List.lookup_cons, ih]
      by_cases hk : k' = k₀
      · simp [hk]
      · have hbeq : (k' == k₀) = false := by simpa using hk
        simp [hk, hbeq]
    · rw [if_neg hk₀, List.lookup_cons, ih]
      by_cases hk : k' = k
      · subst hk
        have hbeq : (k' == k₀) = false := by simpa using Ne.symm hk₀
        simp [hbeq]
      · simp [hk]

/-- `m.set(k, a)`: a key keeps its place. -/
def set (m : OrdMap κ α) (k : κ) (a : α) : OrdMap κ α := (m.setIfAbsent k a).modify k fun _ => a

theorem get?_set (m : OrdMap κ α) (k k' : κ) (a : α) :
    (m.set k a).get? k' = if k' = k then some a else m.get? k' := by
  unfold set
  rw [get?_modify, get?_setIfAbsent]
  by_cases hk : k' = k
  · subst hk
    cases m.get? k' <;> simp
  · simp [hk]

/-- A new key comes last. -/
theorem entries_set {m : OrdMap κ α} {k : κ} (h : m.get? k = none) (a : α) :
    (m.set k a).entries = m.entries ++ [(k, a)] := by
  have hKeep : ∀ e ∈ m.entries, (if e.1 = k then (e.1, a) else e) = e := by
    intro e he
    refine if_neg ?_
    rintro rfl
    rw [mem_entries.mp he] at h
    cases h
  unfold set setIfAbsent modify
  rw [dif_pos h]
  dsimp only
  rw [List.map_append, List.map_congr_left hKeep, List.map_id', List.map_singleton, if_pos rfl]

/-- `new Map(entries)` -/
def ofEntries (entries : List (κ × α)) : OrdMap κ α :=
  entries.foldl (fun m e => m.set e.1 e.2) empty

/-- A map is read back from its entries. -/
theorem ofEntries_entries (m : OrdMap κ α) : ofEntries m.entries = m := by
  -- the entries are set one after another, and each key is new
  have key : ∀ (more : List (κ × α)) (seen : OrdMap κ α),
      ((seen.entries ++ more).map Prod.fst).Nodup →
      (more.foldl (fun m e => m.set e.1 e.2) seen).entries = seen.entries ++ more := by
    intro more
    induction more with
    | nil =>
      intro seen _
      rw [List.append_nil]
      rfl
    | cons e more ih =>
      intro seen hNodup
      have hNew : seen.get? e.1 = none := by
        rw [Option.eq_none_iff_forall_ne_some]
        intro a ha
        rw [List.map_append] at hNodup
        exact (List.nodup_append.mp hNodup).2.2 e.1
          (List.mem_map.mpr ⟨(e.1, a), mem_entries.mpr ha, rfl⟩) e.1 List.mem_cons_self rfl
      have hEntries := entries_set hNew e.2
      rw [List.foldl_cons, ih _ (by rw [hEntries]; simpa using hNodup), hEntries,
        List.append_assoc, List.singleton_append]
  have hEntries := key m.entries empty m.nodup
  obtain ⟨entries, nodup⟩ := m
  unfold ofEntries
  generalize entries.foldl (fun m e => m.set e.1 e.2) empty = built at *
  obtain ⟨entries', nodup'⟩ := built
  obtain rfl : entries' = entries := hEntries
  rfl

/-- Add to the list a key holds, in a map of lists. -/
def push (m : OrdMap κ (List α)) (k : κ) (a : α) : OrdMap κ (List α) :=
  (m.setIfAbsent k []).modify k (· ++ [a])

/-- The list a key holds; a key never pushed holds none. -/
def getList (m : OrdMap κ (List α)) (k : κ) : List α := (m.get? k).getD []

theorem getList_set (m : OrdMap κ (List α)) (k k' : κ) (l : List α) :
    (m.set k l).getList k' = if k' = k then l else m.getList k' := by
  unfold getList
  rw [get?_set]
  split <;> rfl

theorem getList_push (m : OrdMap κ (List α)) (k k' : κ) (a : α) :
    (m.push k a).getList k' = if k' = k then m.getList k' ++ [a] else m.getList k' := by
  unfold getList push
  rw [get?_modify, get?_setIfAbsent]
  by_cases hk : k' = k
  · subst hk
    cases m.get? k' <;> simp
  · simp [hk]

/-- The keys that are kept, with their new values. -/
def filterMap (m : OrdMap κ α) (f : κ → α → Option β) : OrdMap κ β where
  entries := m.entries.filterMap fun e => (f e.1 e.2).map fun b => (e.1, b)
  nodup := by
    have hSub : ((m.entries.filterMap fun e => (f e.1 e.2).map fun b => (e.1, b)).map
        Prod.fst).Sublist (m.entries.map Prod.fst) := by
      induction m.entries with
      | nil => exact List.Sublist.refl _
      | cons e entries ih =>
        rw [List.filterMap_cons]
        cases f e.1 e.2 with
        | none => exact ih.cons _
        | some b => exact ih.cons_cons _
    exact m.nodup.sublist hSub

theorem get?_filterMap (m : OrdMap κ α) (f : κ → α → Option β) (k : κ) :
    (m.filterMap f).get? k = (m.get? k).bind (f k) := by
  apply Option.ext
  intro b
  constructor
  · intro h
    obtain ⟨⟨k', a⟩, hmem, hmap⟩ := List.mem_filterMap.mp (mem_entries.mpr h)
    obtain ⟨b', hb', heq⟩ := Option.map_eq_some_iff.mp hmap
    obtain ⟨rfl, rfl⟩ := Prod.mk.inj heq
    rw [mem_entries.mp hmem]
    exact hb'
  · intro h
    obtain ⟨a, ha, hb⟩ := Option.bind_eq_some_iff.mp h
    refine mem_entries.mp (List.mem_filterMap.mpr ⟨(k, a), mem_entries.mpr ha, ?_⟩)
    rw [hb]
    rfl

end OrdMap
