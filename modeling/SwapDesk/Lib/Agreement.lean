import SwapDesk.Lib.OrdMap

/-!
# Claims that have to agree

Speakers claim values, in records that come in any order and any number of times. A speaker
has said a value when it has claimed that one and no other (`Agreement.verdict`).

* `Agreement.verdict_congr`: what a speaker has said depends on its claims, and not on their
  order or number;
* `Agreement.verdict_add`: one more claim confirms what was said or makes it unsaid;
* `Agreement.verdict_add_contested`: no further claim settles what is contested.
-/

namespace Agreement

variable {ι α ρ : Type} [DecidableEq ι] [DecidableEq α]

/-- One more value of a set in insertion order. -/
def insert (seen : List α) (a : α) : List α := if a ∈ seen then seen else seen ++ [a]

/-- The values after one more. -/
theorem mem_insert {seen : List α} {a b : α} : b ∈ insert seen a ↔ b ∈ seen ∨ b = a := by
  unfold insert
  split
  · rename_i hMem
    exact ⟨.inl, fun h => h.elim id fun hEq => hEq ▸ hMem⟩
  · simp

/-- One more value keeps them distinct. -/
theorem nodup_insert {seen : List α} (h : seen.Nodup) (a : α) : (insert seen a).Nodup := by
  unfold insert
  split
  · exact h
  · rename_i hMem
    rw [List.nodup_append]
    refine ⟨h, List.nodup_singleton a, ?_⟩
    rintro b hb c hc rfl
    exact hMem (List.mem_singleton.mp hc ▸ hb)

/-- The only member of a set. -/
def sole : List α → Option α
  | [a] => some a
  | _ => none

omit [DecidableEq α] in
/-- A sole value is the only one. -/
theorem sole_eq_some {seen : List α} (h : seen.Nodup) {a : α} :
    sole seen = some a ↔ ∀ b, b ∈ seen ↔ b = a := by
  constructor
  · intro hSole b
    match seen, hSole with
    | [c], hSole =>
      obtain rfl := Option.some.inj hSole
      exact List.mem_singleton
  · intro hMem
    match seen with
    | [] => exact absurd ((hMem a).mpr rfl) List.not_mem_nil
    | [c] =>
      rw [sole, (hMem c).mp (List.mem_singleton.mpr rfl)]
    | c :: d :: rest =>
      have hc := (hMem c).mp List.mem_cons_self
      have hd := (hMem d).mp (List.mem_cons_of_mem _ List.mem_cons_self)
      rw [List.nodup_cons] at h
      exact absurd (hc.trans hd.symm ▸ List.mem_cons_self) h.1

/-! ## What was heard -/

/-- `seen = heard.get(who) ?? new Set(); seen.add(what); heard.set(who, seen)` -/
def hearOne (heard : OrdMap ι (List α)) (who : ι) (what : α) : OrdMap ι (List α) :=
  heard.set who (insert (heard.getList who) what)

/-- What was heard of one after hearing of another. -/
theorem getList_hearOne (heard : OrdMap ι (List α)) (who i : ι) (what : α) :
    (hearOne heard who what).getList i =
      if i = who then insert (heard.getList who) what else heard.getList i := by
  unfold hearOne OrdMap.getList
  rw [OrdMap.get?_set]
  split <;> rfl

variable (claims : ρ → Option (ι × α))

def hearRecord (heard : OrdMap ι (List α)) (r : ρ) : OrdMap ι (List α) :=
  match claims r with
  | some (who, what) => hearOne heard who what
  | none => heard

/-- The claims of a run of records. -/
def hear (heard : OrdMap ι (List α)) (records : List ρ) : OrdMap ι (List α) :=
  records.foldl (hearRecord claims) heard

/-- What was heard is what was claimed, each value once. -/
theorem hear_spec (records : List ρ) (heard : OrdMap ι (List α)) (i : ι)
    (hNodup : (heard.getList i).Nodup) :
    ((hear claims heard records).getList i).Nodup ∧
      ∀ a, a ∈ (hear claims heard records).getList i ↔
        a ∈ heard.getList i ∨ ∃ r ∈ records, claims r = some (i, a) := by
  induction records generalizing heard with
  | nil => exact ⟨hNodup, fun a => by simp [hear]⟩
  | cons r records ih =>
    cases hClaim : claims r with
    -- the record says nothing
    | none =>
      obtain ⟨hAfter, hMem⟩ := ih heard hNodup
      have hStep : hear claims heard (r :: records) = hear claims heard records := by
        simp [hear, hearRecord, hClaim]
      rw [hStep]
      exact ⟨hAfter, fun a => by simp [hMem, hClaim]⟩
    | some claim =>
      -- it says something of somebody, who may be this one
      obtain ⟨who, what⟩ := claim
      have hStep : hear claims heard (r :: records) =
          hear claims (hearOne heard who what) records := by
        simp [hear, hearRecord, hClaim]
      have hOne := getList_hearOne heard who i what
      have hNodup' : ((hearOne heard who what).getList i).Nodup := by
        rw [hOne]
        split
        · rename_i hi
          exact nodup_insert (hi ▸ hNodup) what
        · exact hNodup
      obtain ⟨hAfter, hMem⟩ := ih (hearOne heard who what) hNodup'
      rw [hStep]
      refine ⟨hAfter, fun a => ?_⟩
      rw [hMem, hOne]
      by_cases hi : i = who
      · subst hi
        simp [mem_insert, hClaim, or_assoc, eq_comm]
      · simp [hi, hClaim, eq_comm (b := i)]

/-! ## What was said -/

/-- The value that a speaker claims, if it claims one only. -/
def verdict (records : List ρ) (i : ι) : Option α :=
  sole ((hear claims OrdMap.empty records).getList i)

variable {claims}

/-- A verdict is the only value claimed. -/
theorem verdict_eq_some {records : List ρ} {i : ι} {a : α} :
    verdict claims records i = some a ↔
      ∀ b, (∃ r ∈ records, claims r = some (i, b)) ↔ b = a := by
  obtain ⟨hNodup, hMem⟩ := hear_spec claims records OrdMap.empty i List.nodup_nil
  unfold verdict
  rw [sole_eq_some hNodup]
  refine forall_congr' fun b => ?_
  rw [hMem b]
  have hNone : b ∉ (OrdMap.empty : OrdMap ι (List α)).getList i := List.not_mem_nil
  rw [or_iff_right hNone]

/-- Claims that are the same as sets give the same verdict. -/
theorem verdict_congr {records records' : List ρ} {i : ι}
    (h : ∀ a, (∃ r ∈ records, claims r = some (i, a)) ↔ ∃ r ∈ records', claims r = some (i, a)) :
    verdict claims records i = verdict claims records' i := by
  apply Option.ext
  intro a
  rw [verdict_eq_some, verdict_eq_some]
  exact forall_congr' fun b => by rw [h b]

/-- A record that claims nothing of a speaker leaves what that speaker has said. -/
theorem verdict_ignored {before after : List ρ} {r : ρ} {i : ι}
    (h : ∀ a, claims r ≠ some (i, a)) :
    verdict claims (before ++ r :: after) i = verdict claims (before ++ after) i := by
  refine verdict_congr fun a => ?_
  simp only [List.mem_append, List.mem_cons]
  constructor
  · rintro ⟨q, hq | rfl | hq, hClaim⟩
    · exact ⟨q, .inl hq, hClaim⟩
    · exact absurd hClaim (h a)
    · exact ⟨q, .inr hq, hClaim⟩
  · rintro ⟨q, hq | hq, hClaim⟩
    · exact ⟨q, .inl hq, hClaim⟩
    · exact ⟨q, .inr (.inr hq), hClaim⟩

/-- One more record keeps the verdict or takes it away. -/
theorem verdict_add {before after : List ρ} {r : ρ} {i : ι} {a : α}
    (h : verdict claims (before ++ after) i = some a) :
    verdict claims (before ++ r :: after) i = some a ∨
      verdict claims (before ++ r :: after) i = none := by
  cases hAfter : verdict claims (before ++ r :: after) i with
  | none => exact .inr rfl
  | some b =>
    -- the claim of `a` is among the claims still
    rw [verdict_eq_some] at h hAfter
    obtain ⟨q, hq, hClaim⟩ := (h a).mpr rfl
    have hMem : q ∈ before ++ r :: after := by
      simp only [List.mem_append, List.mem_cons] at hq ⊢
      exact hq.imp_right .inr
    exact .inl (congrArg some ((hAfter a).mp ⟨q, hMem, hClaim⟩).symm)

/-- One more record does not settle what is contested. -/
theorem verdict_add_contested {before after : List ρ} {r q : ρ} {i : ι} {a : α}
    (hq : q ∈ before ++ after) (hClaim : claims q = some (i, a))
    (h : verdict claims (before ++ after) i = none) :
    verdict claims (before ++ r :: after) i = none := by
  cases hAfter : verdict claims (before ++ r :: after) i with
  | none => rfl
  | some b =>
    -- every claim before is of `b`, so that nothing was contested
    rw [verdict_eq_some] at hAfter
    have hWas : verdict claims (before ++ after) i = some b := by
      have hMem : ∀ q, q ∈ before ++ after → q ∈ before ++ r :: after := by
        intro q hq
        simp only [List.mem_append, List.mem_cons] at hq ⊢
        exact hq.imp_right .inr
      rw [verdict_eq_some]
      intro c
      constructor
      · rintro ⟨p, hp, hp'⟩
        exact (hAfter c).mp ⟨p, hMem p hp, hp'⟩
      · rintro rfl
        exact ⟨q, hq, (hAfter a).mp ⟨q, hMem q hq, hClaim⟩ ▸ hClaim⟩
    rw [h] at hWas
    cases hWas

end Agreement
