/-!
# Checks that may fail

Validation code is a sequence of checks, each of which may stop it with an
error. `Check.require` is one check of a condition, `Check.need` one of a value
that may be missing, and the lemmas say what is known once the whole sequence has
succeeded: every check held, and every part returned.
-/

namespace Check

variable {ε α β : Type}

/-- Stop with `e` unless `c` holds. -/
def require (c : Prop) [Decidable c] (e : ε) : Except ε Unit :=
  if c then .ok () else .error e

@[simp] theorem require_eq_ok {c : Prop} [Decidable c] {e : ε} {u : Unit} :
    require c e = .ok u ↔ c := by
  unfold require
  split <;> simp [*]

/-- A sequence succeeds exactly when its first part does and the rest does with
what that returned. -/
theorem bind_eq_ok {x : Except ε α} {f : α → Except ε β} {b : β} :
    (x >>= f) = .ok b ↔ ∃ a, x = .ok a ∧ f a = .ok b := by
  cases x <;> simp [bind, Except.bind]

/-- After a check the rest runs as it stands. -/
theorem require_bind_eq_ok {c : Prop} [Decidable c] {e : ε} {f : Unit → Except ε β} {b : β} :
    (require c e >>= f) = .ok b ↔ c ∧ f () = .ok b := by
  rw [bind_eq_ok]
  constructor
  · rintro ⟨u, hc, hf⟩
    exact ⟨require_eq_ok.mp hc, hf⟩
  · rintro ⟨hc, hf⟩
    exact ⟨(), require_eq_ok.mpr hc, hf⟩

/-- Stop with `e` unless there is a value, and go on with it. -/
def need (x : Option α) (e : ε) : Except ε α :=
  match x with
  | some a => .ok a
  | none => .error e

@[simp] theorem need_eq_ok {x : Option α} {e : ε} {a : α} : need x e = .ok a ↔ x = some a := by
  cases x <;> simp [need]

theorem need_bind_eq_ok {x : Option α} {e : ε} {f : α → Except ε β} {b : β} :
    (need x e >>= f) = .ok b ↔ ∃ a, x = some a ∧ f a = .ok b := by
  rw [bind_eq_ok]
  simp only [need_eq_ok]

/-- Stop if there is a value, with the error made of it. -/
def refute (x : Option α) (e : α → ε) : Except ε Unit :=
  match x with
  | some a => .error (e a)
  | none => .ok ()

@[simp] theorem refute_eq_ok {x : Option α} {e : α → ε} {u : Unit} :
    refute x e = .ok u ↔ x = none := by
  cases x <;> simp [refute]

theorem isOk_iff {x : Except ε α} : x.isOk = true ↔ ∃ a, x = .ok a := by
  cases x <;> simp [Except.isOk, Except.toBool]

/-- Renaming an error keeps what succeeds. -/
theorem mapError_eq_ok {ε' : Type} {x : Except ε α} {f : ε → ε'} {a : α} :
    x.mapError f = .ok a ↔ x = .ok a := by
  cases x with
  | ok b => exact ⟨fun h => congrArg Except.ok (Except.ok.inj h),
      fun h => congrArg Except.ok (Except.ok.inj h)⟩
  | error e => exact ⟨fun h => (by cases h), fun h => (by cases h)⟩

end Check
