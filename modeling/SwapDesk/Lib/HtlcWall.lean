import Mathlib.Algebra.Order.Ring.Int
import SwapDesk.Lib.Htlc

/-!
# Hash time locks and the time on the wall

Machines that hold hash time locks, each with a clock of its own, among parties who go by one
clock on the wall. A machine's clock is read when it does something, and is then at most `drift`
away from the wall's.

* `Walled`: a machine and the wall's clock; `Refines.not_refunded`, `Refines.claimed_at` and
  `Refines.not_claimed` say what the wall's clock tells of a lock;
* `Pair`: two machines at one wall, whose runs are runs of each (`Pair.left`, `Pair.right`).
-/

namespace Htlc

/-- A clock that is read when the wall's shows `now`. -/
structure Keeps (drift clock now : ℤ) : Prop where
  ahead : clock ≤ now + drift
  behind : now ≤ clock + drift

/-! ## One machine -/

section

variable {σ ε : Type*}

/-- What the machine does at a time, or nothing until that time. -/
inductive Walled.Step (M : Machine σ ε) (clock : σ → ℤ) (drift : ℤ) :
    σ × ℤ → Option ε → σ × ℤ → Prop
  | wait (s : σ) (now now' : ℤ) : now ≤ now' → Walled.Step M clock drift (s, now) none (s, now')
  | act (s : σ) (e : ε) (s' : σ) (now now' : ℤ) : now ≤ now' → M.step s e s' →
      Keeps drift (clock s') now' → Walled.Step M clock drift (s, now) (some e) (s', now')

def Walled (M : Machine σ ε) (clock : σ → ℤ) (drift : ℤ) : Machine (σ × ℤ) (Option ε) where
  init p := M.init p.1 ∧ clock p.1 ≤ p.2 + drift
  step := Walled.Step M clock drift

variable {M : Machine σ ε} {clock : σ → ℤ} {drift : ℤ} {p p' : σ × ℤ} {es : List (Option ε)}

theorem Walled.reachable (h : (Walled M clock drift).Reachable p) : M.Reachable p.1 := by
  refine Machine.invariant (P := fun p => M.Reachable p.1)
    (fun p (hInit : M.init p.1 ∧ _) => .init hInit.1) (fun p e p' _ hReach hStep => ?_) h
  cases hStep with
  | wait => exact hReach
  | act s e s' now now' _ hAct _ => exact hReach.step hAct

/-- The machine's clock is not far ahead. -/
theorem Walled.clock_le (h : (Walled M clock drift).Reachable p) : clock p.1 ≤ p.2 + drift := by
  refine Machine.invariant (P := fun p => clock p.1 ≤ p.2 + drift)
    (fun p (hInit : M.init p.1 ∧ _) => hInit.2) (fun p e p' _ hClock hStep => ?_) h
  cases hStep with
  | wait s now now' hNow =>
    dsimp only at hClock ⊢
    omega
  | act s e s' now now' _ _ hKeeps => exact hKeeps.ahead

theorem Walled.leads (h : (Walled M clock drift).Leads p es p') :
    p.2 ≤ p'.2 ∧ ∃ fs, M.Leads p.1 fs p'.1 := by
  induction h with
  | nil => exact ⟨le_rfl, [], .nil _⟩
  | cons hStep _ ih =>
    obtain ⟨hNow', fs, hRun⟩ := ih
    cases hStep with
    | wait s now now' hNow => exact ⟨hNow.trans hNow', fs, hRun⟩
    | act s e s' now now' hNow hAct _ => exact ⟨hNow.trans hNow', e :: fs, .cons hAct hRun⟩

variable {Terms Secret : Type} {rules : Rules Terms Secret ℤ} {view : σ → Option (Lock Terms Secret)}
  {terms : Terms}

/-- A lock is not refunded as long as the wall's clock is well before its refund time. -/
theorem Refines.not_refunded (h : Refines M rules clock view)
    (hReach : (Walled M clock drift).Reachable p) (hRun : (Walled M clock drift).Leads p es p')
    (hLocked : view p.1 = some ⟨terms, .locked⟩)
    (hRefunded : view p'.1 = some ⟨terms, .refunded⟩) :
    rules.refundAfter terms ≤ p'.2 + drift := by
  obtain ⟨-, fs, hRun'⟩ := Walled.leads hRun
  have hLater := h.later (Walled.reachable hReach) hRun'
  rw [hLocked, hRefunded] at hLater
  by_contra hEarly
  have hClock := Walled.clock_le (hReach.leads hRun)
  rcases hLater.open_or_claimed (by omega) with hOpen | ⟨secret, -, hClaimed⟩
  · cases hOpen
  · cases hClaimed

/-- With its secret, a lock is claimed in any block before its refund time. -/
theorem Refines.claimable (h : Refines M rules clock view)
    (hReach : (Walled M clock drift).Reachable p) (hRun : (Walled M clock drift).Leads p es p')
    (hLocked : view p.1 = some ⟨terms, .locked⟩) {secret : Secret}
    (hOpens : rules.opens terms secret) {block : ℤ} (hBlock : clock p'.1 ≤ block)
    (hTime : block < rules.refundAfter terms) :
    Step rules block (view p'.1) (some ⟨terms, .claimed secret⟩) := by
  obtain ⟨-, fs, hRun'⟩ := Walled.leads hRun
  have hLater := (h.later (Walled.reachable hReach) hRun').trans (.wait hBlock _)
  rw [hLocked] at hLater
  exact hLater.claimable hTime hOpens

/-- When a lock is claimed, the wall's clock is not far past its refund time. -/
theorem Refines.claimed_at (h : Refines M rules clock view)
    (hReach : (Walled M clock drift).Reachable p) {e : Option ε}
    (hStep : (Walled M clock drift).step p e p') (hLocked : view p.1 = some ⟨terms, .locked⟩)
    {secret : Secret} (hClaimed : view p'.1 = some ⟨terms, .claimed secret⟩) :
    p'.2 < rules.refundAfter terms + drift ∧ rules.opens terms secret := by
  cases hStep with
  | wait =>
    rw [hLocked] at hClaimed
    cases hClaimed
  | act s e s' now now' _ hAct hKeeps =>
    obtain ⟨hTime, hOpens⟩ := h.claimed_in_time (Walled.reachable hReach) hAct hLocked hClaimed
    have hBehind := hKeeps.behind
    exact ⟨by dsimp only; omega, hOpens⟩

/-- A lock that is not claimed when the wall's clock is well past its refund time never is. -/
theorem Refines.not_claimed (h : Refines M rules clock view)
    (hReach : (Walled M clock drift).Reachable p) (hRun : (Walled M clock drift).Leads p es p')
    (hLocked : view p.1 = some ⟨terms, .locked⟩) (hLate : rules.refundAfter terms + drift ≤ p.2) :
    view p'.1 = some ⟨terms, .locked⟩ ∨ view p'.1 = some ⟨terms, .refunded⟩ := by
  -- as long as it is so, the wall's clock is late as well
  have hKept := hRun.preserves (P := fun p => rules.refundAfter terms + drift ≤ p.2 ∧
      (view p.1 = some ⟨terms, .locked⟩ ∨ view p.1 = some ⟨terms, .refunded⟩))
    (fun p e p' hReach hBefore hStep => ?_) hReach ⟨hLate, .inl hLocked⟩
  · exact hKept.2
  obtain ⟨hLate, hBefore⟩ := hBefore
  cases hStep with
  | wait s now now' hNow => exact ⟨hLate.trans hNow, hBefore⟩
  | act s e s' now now' hNow hAct hKeeps =>
    have hBehind := hKeeps.behind
    dsimp only at hLate hBefore ⊢
    have hLater := (h.step s e s' (Walled.reachable hReach) hAct).later
    refine ⟨hLate.trans hNow, ?_⟩
    rcases hBefore with hLocked | hRefunded
    · rw [hLocked] at hLater
      exact hLater.open_or_refunded (by omega)
    · rw [hRefunded] at hLater
      exact .inr hLater.refunded

end

/-! ## A lock by itself -/

section

variable {Terms Secret : Type} (rules : Rules Terms Secret ℤ)

/-- A hash time lock and its clock, and nothing else. -/
def bare : Machine (Option (Lock Terms Secret) × ℤ) Unit where
  init s := s.1 = none
  step s _ s' := s.2 ≤ s'.2 ∧ Step rules s'.2 s.1 s'.1

theorem refines_bare : Refines (bare rules) rules Prod.snd Prod.fst where
  init _ hInit := hInit
  time _ _ _ _ hStep := hStep.1
  step _ _ _ _ hStep := .single hStep.2

end

/-! ## Two machines -/

section

variable {σ ε τ δ : Type*}

structure Pair (σ τ : Type*) where
  left : σ
  right : τ
  now : ℤ

/-- Either machine does something. -/
inductive Pair.Step (A : Machine σ ε) (B : Machine τ δ) (clockA : σ → ℤ) (clockB : τ → ℤ)
    (drift : ℤ) (p : Pair σ τ) : ε ⊕ δ → Pair σ τ → Prop
  | left (e : ε) (s' : σ) (now : ℤ) : p.now ≤ now → A.step p.left e s' →
      Keeps drift (clockA s') now → Pair.Step A B clockA clockB drift p (.inl e) ⟨s', p.right, now⟩
  | right (e : δ) (s' : τ) (now : ℤ) : p.now ≤ now → B.step p.right e s' →
      Keeps drift (clockB s') now → Pair.Step A B clockA clockB drift p (.inr e) ⟨p.left, s', now⟩

def pair (A : Machine σ ε) (B : Machine τ δ) (clockA : σ → ℤ) (clockB : τ → ℤ) (drift : ℤ) :
    Machine (Pair σ τ) (ε ⊕ δ) where
  init p := (Walled A clockA drift).init (p.left, p.now) ∧
    (Walled B clockB drift).init (p.right, p.now)
  step := Pair.Step A B clockA clockB drift

variable {A : Machine σ ε} {B : Machine τ δ} {clockA : σ → ℤ} {clockB : τ → ℤ} {drift : ℤ}
  {p p' : Pair σ τ} {es : List (ε ⊕ δ)}

theorem Pair.Step.walls {e : ε ⊕ δ} (h : Pair.Step A B clockA clockB drift p e p') :
    (Walled A clockA drift).step (p.left, p.now) e.getLeft? (p'.left, p'.now) ∧
      (Walled B clockB drift).step (p.right, p.now) e.getRight? (p'.right, p'.now) := by
  cases h with
  | left e s' now hNow hAct hKeeps =>
    exact ⟨.act _ _ _ _ _ hNow hAct hKeeps, .wait _ _ _ hNow⟩
  | right e s' now hNow hAct hKeeps =>
    exact ⟨.wait _ _ _ hNow, .act _ _ _ _ _ hNow hAct hKeeps⟩

/-- A run of both is a run of each. -/
theorem Pair.leads (h : (pair A B clockA clockB drift).Leads p es p') :
    (Walled A clockA drift).Leads (p.left, p.now) (es.map Sum.getLeft?) (p'.left, p'.now) ∧
      (Walled B clockB drift).Leads (p.right, p.now) (es.map Sum.getRight?)
        (p'.right, p'.now) := by
  induction h with
  | nil => exact ⟨.nil _, .nil _⟩
  | cons hStep _ ih =>
    obtain ⟨hLeft, hRight⟩ := Pair.Step.walls hStep
    exact ⟨.cons hLeft ih.1, .cons hRight ih.2⟩

theorem Pair.reachable (h : (pair A B clockA clockB drift).Reachable p) :
    (Walled A clockA drift).Reachable (p.left, p.now) ∧
      (Walled B clockB drift).Reachable (p.right, p.now) := by
  obtain ⟨p₀, es, hInit, hRun⟩ := h
  obtain ⟨hLeft, hRight⟩ := Pair.leads hRun
  exact ⟨⟨_, _, hInit.1, hLeft⟩, ⟨_, _, hInit.2, hRight⟩⟩

end

end Htlc
