import Mathlib.Tactic.Common

/-!
# Programs that perform operations

A `Routine` performs operations on its surroundings one at a time, goes on with what each
of them answers, and ends with a value or an error. What an operation answers, and what
it changes, is a relation `act`; between two operations the surroundings change as a
relation `env` allows, which is where the steps of other programs go.

* `Routine.Meets`: whatever the surroundings do, every operation the program performs is
  one that `G` allows, and it ends as the postcondition says;
* `Routine.Meets.bind`, `Routine.Meets.attempt`, `Routine.Meets.ensuring`: the rules for programs
  put together of smaller ones;
* `Routine.Only.meets`: a program that performs only operations that keep an invariant
  keeps it;
* `Routine.Meets.reaches`: a program that meets its specification meets it from every point
  that it can get to, so that a crash may come anywhere;
* `Routine.reaches_advance`: a run against given answers, for a program on a concrete input.
-/

inductive Routine {Op : Type} (Res : Op → Type) (ε α : Type) where
  | done (a : α)
  | fail (e : ε)
  | perform (o : Op) (next : Res o → Routine Res ε α)

namespace Routine

variable {Op : Type} {Res : Op → Type} {ε ε' α β : Type}

/-! ## Putting programs together -/

def bind : Routine Res ε α → (α → Routine Res ε β) → Routine Res ε β
  | .done a, f => f a
  | .fail e, _ => .fail e
  | .perform o next, f => .perform o fun r => (next r).bind f

instance : Monad (Routine Res ε) where
  pure := .done
  bind := .bind

/-- One operation, and its answer. -/
def call (o : Op) : Routine Res ε (Res o) := .perform o .done

/-- An answer that may be an error ends the program with it. -/
def ofExcept : Except ε α → Routine Res ε α
  | .ok a => .done a
  | .error e => .fail e

/-- How a program ended, as a value. -/
def attempt : Routine Res ε α → Routine Res ε' (Except ε α)
  | .done a => .done (.ok a)
  | .fail e => .done (.error e)
  | .perform o next => .perform o fun r => (next r).attempt

/-- `try … catch` -/
def orElse (t : Routine Res ε α) (handler : ε → Routine Res ε' α) : Routine Res ε' α :=
  t.attempt.bind fun
    | .ok a => .done a
    | .error e => handler e

/-- Every operation that the program may perform satisfies `P`. -/
inductive Only (P : Op → Prop) : Routine Res ε α → Prop
  | done (a : α) : Only P (.done a)
  | fail (e : ε) : Only P (.fail e)
  | perform {o : Op} {next : Res o → Routine Res ε α} :
      P o → (∀ r, Only P (next r)) → Only P (.perform o next)

section

variable {P : Op → Prop}

/-- A value asks nothing. -/
theorem only_pure {a : α} : Only P (pure a : Routine Res ε α) := .done a

/-- One operation asks itself. -/
theorem only_call {o : Op} (h : P o) : Only P (call o : Routine Res ε (Res o)) :=
  .perform h .done

/-- A computation that may fail asks nothing. -/
theorem only_ofExcept {x : Except ε α} : Only P (ofExcept x : Routine Res ε α) := by
  cases x with
  | ok a => exact .done a
  | error e => exact .fail e

/-- A sequence asks what its parts ask. -/
theorem Only.bind {t : Routine Res ε α} {f : α → Routine Res ε β} (h : Only P t)
    (hf : ∀ a, Only P (f a)) : Only P (t >>= f) := by
  induction h with
  | done a => exact hf a
  | fail e => exact .fail e
  | perform ho _ ih => exact .perform ho ih

/-- An attempt asks what it attempts. -/
theorem Only.attempt {t : Routine Res ε α} (h : Only P t) :
    Only P (t.attempt : Routine Res ε' (Except ε α)) := by
  induction h with
  | done a => exact .done _
  | fail e => exact .done _
  | perform ho _ ih => exact .perform ho ih

/-- A handled routine asks what it and its handler ask. -/
theorem Only.orElse {t : Routine Res ε α} {handler : ε → Routine Res ε' α} (h : Only P t)
    (hHandler : ∀ e, Only P (handler e)) : Only P (t.orElse handler) := by
  refine h.attempt.bind fun x => ?_
  cases x with
  | ok a => exact .done a
  | error e => exact hHandler e

end

/-! ## What a program does -/

section

variable {σ : Type} (env : σ → σ → Prop) (act : (o : Op) → σ → Res o → σ → Prop)

/-- The points that a program gets to, the surroundings changing in between. -/
inductive Reaches (t : Routine Res ε α) (s : σ) : Routine Res ε α → σ → Prop
  | refl : Reaches t s t s
  | step {o : Op} {next : Res o → Routine Res ε α} {s₁ s₂ s₃ : σ} {r : Res o} :
      Reaches t s (.perform o next) s₁ → env s₁ s₂ → act o s₂ r s₃ → Reaches t s (next r) s₃

/-- From `s`, each operation is one that `G` allows, and the end is as `Q` says. -/
inductive Meets (G : (o : Op) → σ → Res o → σ → Prop) (Q : Except ε α → σ → Prop) :
    Routine Res ε α → σ → Prop
  | done {a : α} {s : σ} : Q (.ok a) s → Meets G Q (.done a) s
  | fail {e : ε} {s : σ} : Q (.error e) s → Meets G Q (.fail e) s
  | perform {o : Op} {next : Res o → Routine Res ε α} {s : σ} :
      (∀ s₁, env s s₁ → ∀ r s₂, act o s₁ r s₂ → G o s₁ r s₂) →
      (∀ s₁, env s s₁ → ∀ r s₂, act o s₁ r s₂ → Meets G Q (next r) s₂) →
      Meets G Q (.perform o next) s

/-- Run a program up to the first operation that `stop` holds of. The surroundings change as
`wait` says before an operation, and answer it by a function. -/
def advance (wait : Op → σ → σ) (answer : (o : Op) → σ → Res o × σ) (stop : Op → Bool) :
    Routine Res ε α → σ → Routine Res ε α × σ
  | .done a, s => (.done a, s)
  | .fail e, s => (.fail e, s)
  | .perform o next, s =>
    if stop o then (.perform o next, s)
    else advance wait answer stop (next (answer o (wait o s)).1) (answer o (wait o s)).2

variable {env act} {G : (o : Op) → σ → Res o → σ → Prop}

/-- A value meets what holds of it. -/
theorem meets_pure {a : α} {Q : Except ε α → σ → Prop} {s : σ} (h : Q (.ok a) s) :
    Meets env act G Q (pure a : Routine Res ε α) s := .done h

/-- A computation that may fail meets what holds of its result. -/
theorem meets_ofExcept {x : Except ε α} {Q : Except ε α → σ → Prop} {s : σ} (h : Q x s) :
    Meets env act G Q (ofExcept x) s := by
  cases x with
  | ok a => exact .done h
  | error e => exact .fail h

/-- The postcondition may be weakened. -/
theorem Meets.mono {t : Routine Res ε α} {Q Q' : Except ε α → σ → Prop} {s : σ}
    (h : Meets env act G Q t s) (hQ : ∀ x s, Q x s → Q' x s) : Meets env act G Q' t s := by
  induction h with
  | done h => exact .done (hQ _ _ h)
  | fail h => exact .fail (hQ _ _ h)
  | perform hG _ ih => exact .perform hG ih

/-- The second part starts where the first one ended, and an error of the first one ends both. -/
theorem Meets.bind {t : Routine Res ε α} {f : α → Routine Res ε β}
    {Q : Except ε β → σ → Prop} {s : σ}
    (h : Meets env act G (fun x s => match x with
      | .ok a => Meets env act G Q (f a) s
      | .error e => Q (.error e) s) t s) :
    Meets env act G Q (t >>= f) s := by
  induction h with
  | done h => exact h
  | fail h => exact .fail h
  | perform hG _ ih => exact .perform hG ih

/-- An attempt meets what holds of either result. -/
theorem Meets.attempt {t : Routine Res ε α} {Q : Except ε' (Except ε α) → σ → Prop} {s : σ}
    (h : Meets env act G (fun x s => Q (.ok x) s) t s) : Meets env act G Q t.attempt s := by
  induction h with
  | done h => exact .done h
  | fail h => exact .done h
  | perform hG _ ih => exact .perform hG ih

/-- A handler has to meet the postcondition where the routine fails. -/
theorem Meets.orElse {t : Routine Res ε α} {handler : ε → Routine Res ε' α}
    {Q : Except ε' α → σ → Prop} {s : σ}
    (h : Meets env act G (fun x s => match x with
      | .ok a => Q (.ok a) s
      | .error e => Meets env act G Q (handler e) s) t s) :
    Meets env act G Q (t.orElse handler) s := by
  refine Meets.bind (Meets.attempt (h.mono ?_))
  intro x s₁ hx
  cases x with
  | ok a => exact .done hx
  | error e => exact hx

/-- One operation: what is allowed of it, and what is known once it has answered. -/
theorem Meets.call {o : Op} {Q : Except ε (Res o) → σ → Prop} {s : σ}
    (h : ∀ s₁, env s s₁ → ∀ r s₂, act o s₁ r s₂ → G o s₁ r s₂ ∧ Q (.ok r) s₂) :
    Meets env act G Q (call o) s :=
  .perform (fun s₁ hEnv r s₂ hAct => (h s₁ hEnv r s₂ hAct).1)
    fun s₁ hEnv r s₂ hAct => .done (h s₁ hEnv r s₂ hAct).2

/-- A program that performs only operations that keep an invariant keeps it to its end. -/
theorem Only.meets {P : Op → Prop} {I : σ → Prop} (hEnv : ∀ s s₁, I s → env s s₁ → I s₁)
    (hAct : ∀ o, P o → ∀ s r s₁, I s → act o s r s₁ → G o s r s₁ ∧ I s₁)
    {t : Routine Res ε α} (h : Only P t) {s : σ} (hs : I s) :
    Meets env act G (fun _ s => I s) t s := by
  induction h generalizing s with
  | done a => exact .done hs
  | fail e => exact .fail hs
  | perform ho _ ih =>
    have hStep := fun s₁ hs₁ r s₂ hr => hAct _ ho s₁ r s₂ (hEnv s s₁ hs hs₁) hr
    exact .perform (fun s₁ hs₁ r s₂ hr => (hStep s₁ hs₁ r s₂ hr).1)
      fun s₁ hs₁ r s₂ hr => ih r (hStep s₁ hs₁ r s₂ hr).2

/-- Every point that a program gets to meets the specification as well. -/
theorem Meets.reaches {t t' : Routine Res ε α} {Q : Except ε α → σ → Prop} {s s' : σ}
    (h : Meets env act G Q t s) (hReach : Reaches env act t s t' s') :
    Meets env act G Q t' s' := by
  induction hReach with
  | refl => exact h
  | step _ hEnv hAct ih =>
    cases ih with
    | perform _ hNext => exact hNext _ hEnv _ _ hAct

/-- Every operation that a program gets to perform is one that `G` allows. -/
theorem Meets.allows {t : Routine Res ε α} {Q : Except ε α → σ → Prop} {s s₁ s₂ s₃ : σ} {o : Op}
    {next : Res o → Routine Res ε α} {r : Res o} (h : Meets env act G Q t s)
    (hReach : Reaches env act t s (.perform o next) s₁) (hEnv : env s₁ s₂)
    (hAct : act o s₂ r s₃) : G o s₂ r s₃ := by
  cases h.reaches hReach with
  | perform hG _ => exact hG s₂ hEnv r s₃ hAct

/-- What a run by functions comes to is reached, when its steps are those of the surroundings. -/
theorem reaches_advance {wait : Op → σ → σ} {answer : (o : Op) → σ → Res o × σ} {stop : Op → Bool}
    {I : σ → Prop} (hWait : ∀ o s, I s → env s (wait o s))
    (hAnswer : ∀ o s, I s →
      act o (wait o s) (answer o (wait o s)).1 (answer o (wait o s)).2 ∧
        I (answer o (wait o s)).2)
    {t t' : Routine Res ε α} {s s' : σ} (hs' : I s') (hReach : Reaches env act t s t' s') :
    Reaches env act t s (advance wait answer stop t' s').1 (advance wait answer stop t' s').2 ∧
      I (advance wait answer stop t' s').2 := by
  induction t' generalizing s' with
  | done a => exact ⟨hReach, hs'⟩
  | fail e => exact ⟨hReach, hs'⟩
  | perform o next ih =>
    unfold advance
    split
    · exact ⟨hReach, hs'⟩
    · obtain ⟨hAct, hI⟩ := hAnswer o s' hs'
      exact ih _ hI (.step hReach (hWait o s' hs') hAct)

end

end Routine
