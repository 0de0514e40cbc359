import Mathlib.Logic.Relation
import Mathlib.Order.Lattice
import SwapDesk.Lib.Machine

/-!
# Hash time locks

What a hash time lock is, whatever holds it: something put aside on terms that never change. Until
a time that the terms name it can be claimed with a secret that opens them, and from that time on
it can be taken back.

* `Htlc.Step`: what can happen to a lock at a time;
* `Htlc.Later`: what any sequence of such steps makes of a lock;
* `Htlc.Refines`: a machine each of whose events is a sequence of such steps, at one time, for the
  lock it shows;
* `Refines.later` and `Refines.claimed_in_time`: what therefore holds over every run of the machine;
* `Later.claimable`: a secret that one lock is claimed with claims another one on the same
  statement, as long as that other one cannot be refunded.
-/

namespace Htlc

universe u

/-- What the terms of a lock say. -/
structure Rules (Terms Secret Time : Type u) where
  refundAfter : Terms → Time
  opens : Terms → Secret → Prop

inductive Phase (Secret : Type u) where
  | locked
  | claimed (secret : Secret)
  | refunded
deriving DecidableEq, Repr

structure Lock (Terms Secret : Type u) where
  terms : Terms
  phase : Phase Secret
deriving DecidableEq, Repr

variable {Terms Secret Time : Type u} [LinearOrder Time] {rules : Rules Terms Secret Time}

/-! ## Steps -/

/-- What can happen to a lock at a time. -/
inductive Step (rules : Rules Terms Secret Time) (now : Time) :
    Option (Lock Terms Secret) → Option (Lock Terms Secret) → Prop
  | lock (terms : Terms) : now < rules.refundAfter terms →
      Step rules now none (some ⟨terms, .locked⟩)
  | claim (terms : Terms) (secret : Secret) : now < rules.refundAfter terms →
      rules.opens terms secret →
      Step rules now (some ⟨terms, .locked⟩) (some ⟨terms, .claimed secret⟩)
  /-- A secret is shown once more, or another one that opens the terms as well. -/
  | again (terms : Terms) (secret secret' : Secret) : rules.opens terms secret' →
      Step rules now (some ⟨terms, .claimed secret⟩) (some ⟨terms, .claimed secret'⟩)
  | refund (terms : Terms) : rules.refundAfter terms ≤ now →
      Step rules now (some ⟨terms, .locked⟩) (some ⟨terms, .refunded⟩)

/-- Several steps at one time. -/
abbrev Steps (rules : Rules Terms Secret Time) (now : Time) :
    Option (Lock Terms Secret) → Option (Lock Terms Secret) → Prop :=
  Relation.ReflTransGen (Step rules now)

/-! ## Sequences of steps -/

/-- What a phase at one time can be at a later one. -/
inductive Phase.Later (rules : Rules Terms Secret Time) (terms : Terms) (now now' : Time) :
    Phase Secret → Phase Secret → Prop
  | same (phase : Phase Secret) : Later rules terms now now' phase phase
  /-- What is claimed from now on is claimed before the refund time. -/
  | claim (secret : Secret) : now < rules.refundAfter terms → rules.opens terms secret →
      Later rules terms now now' .locked (.claimed secret)
  | again (secret secret' : Secret) : rules.opens terms secret' →
      Later rules terms now now' (.claimed secret) (.claimed secret')
  | refund : rules.refundAfter terms ≤ now' → Later rules terms now now' .locked .refunded

/-- What a lock at one time is at a later one. -/
structure Later (rules : Rules Terms Secret Time) (now : Time)
    (lock : Option (Lock Terms Secret)) (now' : Time) (lock' : Option (Lock Terms Secret)) :
    Prop where
  time : now ≤ now'
  lock : ∀ terms phase, lock = some ⟨terms, phase⟩ → ∃ phase', lock' = some ⟨terms, phase'⟩ ∧
    phase.Later rules terms now now' phase'

theorem Phase.Later.trans {terms : Terms} {now now' now'' : Time}
    {phase phase' phase'' : Phase Secret} (hNow : now ≤ now') (hNow' : now' ≤ now'')
    (h : phase.Later rules terms now now' phase')
    (h' : phase'.Later rules terms now' now'' phase'') :
    phase.Later rules terms now now'' phase'' := by
  cases h with
  | same =>
    cases h' with
    | same => exact .same _
    | claim secret hTime hOpens => exact .claim secret (lt_of_le_of_lt hNow hTime) hOpens
    | again secret secret' hOpens => exact .again secret secret' hOpens
    | refund hTime => exact .refund hTime
  | claim secret hTime hOpens =>
    cases h' with
    | same => exact .claim secret hTime hOpens
    | again _ secret' hOpens' => exact .claim secret' hTime hOpens'
  | again secret secret' hOpens =>
    cases h' with
    | same => exact .again secret secret' hOpens
    | again _ secret'' hOpens' => exact .again secret secret'' hOpens'
  | refund hTime =>
    cases h' with
    | same => exact .refund (hTime.trans hNow')

theorem Later.refl (now : Time) (lock : Option (Lock Terms Secret)) :
    Later rules now lock now lock :=
  ⟨le_rfl, fun _ phase h => ⟨phase, h, .same phase⟩⟩

theorem Later.trans {now now' now'' : Time} {lock lock' lock'' : Option (Lock Terms Secret)}
    (h : Later rules now lock now' lock') (h' : Later rules now' lock' now'' lock'') :
    Later rules now lock now'' lock'' := by
  refine ⟨h.time.trans h'.time, fun terms phase hLock => ?_⟩
  obtain ⟨phase', hLock', hPhase⟩ := h.lock terms phase hLock
  obtain ⟨phase'', hLock'', hPhase'⟩ := h'.lock terms phase' hLock'
  exact ⟨phase'', hLock'', hPhase.trans h.time h'.time hPhase'⟩

theorem Step.later {now : Time} {lock lock' : Option (Lock Terms Secret)}
    (h : Step rules now lock lock') : Later rules now lock now lock' := by
  refine ⟨le_rfl, fun terms phase hLock => ?_⟩
  cases h with
  | lock _ _ => cases hLock
  | claim terms secret hTime hOpens =>
    cases hLock
    exact ⟨_, rfl, .claim secret hTime hOpens⟩
  | again terms secret secret' hOpens =>
    cases hLock
    exact ⟨_, rfl, .again secret secret' hOpens⟩
  | refund terms hTime =>
    cases hLock
    exact ⟨_, rfl, .refund hTime⟩

theorem Steps.later {now : Time} {lock lock' : Option (Lock Terms Secret)}
    (h : Steps rules now lock lock') : Later rules now lock now lock' := by
  induction h with
  | refl => exact .refl now lock
  | tail _ hStep ih => exact ih.trans hStep.later

/-- Waiting changes nothing. -/
theorem Later.wait {now now' : Time} (hNow : now ≤ now') (lock : Option (Lock Terms Secret)) :
    Later rules now lock now' lock :=
  ⟨hNow, fun _ phase h => ⟨phase, h, .same phase⟩⟩

section

variable {now now' : Time} {terms : Terms} {lock' : Option (Lock Terms Secret)}

/-- A lock whose refund time has not come is not refunded. -/
theorem Later.open_or_claimed (h : Later rules now (some ⟨terms, .locked⟩) now' lock')
    (hTime : now' < rules.refundAfter terms) :
    lock' = some ⟨terms, .locked⟩ ∨
      ∃ secret, rules.opens terms secret ∧ lock' = some ⟨terms, .claimed secret⟩ := by
  obtain ⟨phase, hLock', hPhase⟩ := h.lock terms .locked rfl
  cases hPhase with
  | same => exact .inl hLock'
  | claim secret _ hOpens => exact .inr ⟨secret, hOpens, hLock'⟩
  | refund hLate => exact absurd hLate (not_le.mpr hTime)

/-- A lock whose refund time has come is not claimed any more. -/
theorem Later.open_or_refunded (h : Later rules now (some ⟨terms, .locked⟩) now' lock')
    (hTime : rules.refundAfter terms ≤ now) :
    lock' = some ⟨terms, .locked⟩ ∨ lock' = some ⟨terms, .refunded⟩ := by
  obtain ⟨phase, hLock', hPhase⟩ := h.lock terms .locked rfl
  cases hPhase with
  | same => exact .inl hLock'
  | claim secret hEarly _ => exact absurd hEarly (not_lt.mpr hTime)
  | refund _ => exact .inr hLock'

theorem Later.refunded (h : Later rules now (some ⟨terms, .refunded⟩) now' lock') :
    lock' = some ⟨terms, .refunded⟩ := by
  obtain ⟨phase, hLock', hPhase⟩ := h.lock terms _ rfl
  cases hPhase with
  | same => exact hLock'

/-- With a secret that opens it a lock is claimed, or has been, as long as it cannot be
refunded. -/
theorem Later.claimable (h : Later rules now (some ⟨terms, .locked⟩) now' lock')
    (hTime : now' < rules.refundAfter terms) {secret : Secret} (hOpens : rules.opens terms secret) :
    Step rules now' lock' (some ⟨terms, .claimed secret⟩) := by
  rcases h.open_or_claimed hTime with hLock' | ⟨secret', -, hLock'⟩
  · rw [hLock']
    exact .claim terms secret hTime hOpens
  · rw [hLock']
    exact .again terms secret' secret hOpens

end

/-! ## Machines that hold a lock -/

/-- The machine shows a lock under some name, and treats it as a hash time lock. -/
structure Refines {σ ε : Type*} (M : Machine σ ε) (rules : Rules Terms Secret Time)
    (clock : σ → Time) (view : σ → Option (Lock Terms Secret)) : Prop where
  init : ∀ s, M.init s → view s = none
  time : ∀ s e s', M.Reachable s → M.step s e s' → clock s ≤ clock s'
  step : ∀ s e s', M.Reachable s → M.step s e s' → Steps rules (clock s') (view s) (view s')

namespace Refines

variable {σ ε : Type*} {M : Machine σ ε} {clock : σ → Time}
  {view : σ → Option (Lock Terms Secret)}

theorem later (h : Refines M rules clock view) {s s' : σ} {es : List ε}
    (hReach : M.Reachable s) (hRun : M.Leads s es s') :
    Later rules (clock s) (view s) (clock s') (view s') := by
  refine hRun.related (R := fun s s' => Later rules (clock s) (view s) (clock s') (view s'))
    (fun s => .refl _ _) (fun _ _ _ => .trans) (fun s e s' hReach hStep => ?_) hReach
  exact (Later.wait (h.time s e s' hReach hStep) _).trans (h.step s e s' hReach hStep).later

/-- The event that claims a lock happens before the refund time. -/
theorem claimed_in_time (h : Refines M rules clock view) {s s' : σ} {e : ε}
    (hReach : M.Reachable s) (hStep : M.step s e s') {terms : Terms} {secret : Secret}
    (hLocked : view s = some ⟨terms, .locked⟩) (hClaimed : view s' = some ⟨terms, .claimed secret⟩) :
    clock s' < rules.refundAfter terms ∧ rules.opens terms secret := by
  have hLater := (h.step s e s' hReach hStep).later
  rw [hLocked, hClaimed] at hLater
  obtain ⟨phase, hPhase, hIs⟩ := hLater.lock terms .locked rfl
  cases hPhase
  cases hIs with
  | claim _ hTime hOpens => exact ⟨hTime, hOpens⟩

end Refines

end Htlc
