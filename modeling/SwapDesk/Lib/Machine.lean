import Mathlib.Data.List.Basic

/-!
# Labelled state machines

A machine is a set of initial states and a labelled step relation. This file
has the induction rules every development over one needs, and nothing else:

* `Machine.invariant`: what holds initially and is kept by every step from a
  reachable state holds in every reachable state;
* `Machine.Leads.related`: a reflexive and transitive relation that every
  step from a reachable state satisfies relates the two ends of every run;
* `Machine.reachable_of_run`: the executable run of a deterministic machine
  reaches only reachable states.
-/

universe u v

/-- A labelled state machine. -/
structure Machine (σ : Type u) (ε : Type v) where
  init : σ → Prop
  step : σ → ε → σ → Prop

namespace Machine

variable {σ : Type u} {ε : Type v} {M : Machine σ ε}

/-- `M.Leads s es s'`: the events `es`, in order, take `s` to `s'`. -/
inductive Leads (M : Machine σ ε) : σ → List ε → σ → Prop
  | nil (s : σ) : Leads M s [] s
  | cons {s t s' : σ} {e : ε} {es : List ε} :
      M.step s e t → Leads M t es s' → Leads M s (e :: es) s'

/-- A state some run from an initial state ends in. -/
def Reachable (M : Machine σ ε) (s : σ) : Prop :=
  ∃ s₀ es, M.init s₀ ∧ M.Leads s₀ es s

theorem Leads.append {s t u : σ} {es fs : List ε}
    (h : M.Leads s es t) (h' : M.Leads t fs u) : M.Leads s (es ++ fs) u := by
  induction h with
  | nil => exact h'
  | cons hstep _ ih => exact .cons hstep (ih h')

theorem Leads.single {s s' : σ} {e : ε} (h : M.step s e s') : M.Leads s [e] s' :=
  .cons h (.nil s')

theorem Reachable.init {s : σ} (h : M.init s) : M.Reachable s :=
  ⟨s, [], h, .nil s⟩

theorem Reachable.leads {s s' : σ} {es : List ε}
    (h : M.Reachable s) (hrun : M.Leads s es s') : M.Reachable s' := by
  obtain ⟨s₀, fs, hinit, hpre⟩ := h
  exact ⟨s₀, fs ++ es, hinit, hpre.append hrun⟩

theorem Reachable.step {s s' : σ} {e : ε}
    (h : M.Reachable s) (hstep : M.step s e s') : M.Reachable s' :=
  h.leads (.single hstep)

/-- What every step from a reachable state keeps is kept by every run from
one. -/
theorem Leads.preserves {P : σ → Prop}
    (hstep : ∀ s e s', M.Reachable s → P s → M.step s e s' → P s')
    {s s' : σ} {es : List ε} (hrun : M.Leads s es s')
    (hreach : M.Reachable s) (h : P s) : P s' := by
  induction hrun with
  | nil => exact h
  | cons hs _ ih => exact ih (hreach.step hs) (hstep _ _ _ hreach h hs)

/-- The invariant rule. -/
theorem invariant {P : σ → Prop} (hinit : ∀ s, M.init s → P s)
    (hstep : ∀ s e s', M.Reachable s → P s → M.step s e s' → P s')
    {s : σ} (h : M.Reachable s) : P s := by
  obtain ⟨s₀, es, hs₀, hrun⟩ := h
  exact hrun.preserves hstep (.init hs₀) (hinit s₀ hs₀)

/-- The two-state rule: a preorder that contains every step from a reachable
state contains every run from one. -/
theorem Leads.related {R : σ → σ → Prop} (hrefl : ∀ s, R s s)
    (htrans : ∀ s t u, R s t → R t u → R s u)
    (hstep : ∀ s e s', M.Reachable s → M.step s e s' → R s s')
    {s s' : σ} {es : List ε} (hrun : M.Leads s es s')
    (hreach : M.Reachable s) : R s s' := by
  induction hrun with
  | nil s => exact hrefl s
  | cons hs _ ih =>
    exact htrans _ _ _ (hstep _ _ _ hreach hs) (ih (hreach.step hs))

/-! ## Deterministic machines -/

/-- The machine of a partial step function. -/
def ofFun (init : σ → Prop) (f : σ → ε → Option σ) : Machine σ ε where
  init := init
  step s e s' := f s e = some s'

/-- Run a partial step function over a list of events. -/
def run (f : σ → ε → Option σ) : σ → List ε → Option σ
  | s, [] => some s
  | s, e :: es => (f s e).bind fun t => run f t es

theorem leads_of_run {init : σ → Prop} {f : σ → ε → Option σ} {es : List ε} :
    ∀ {s s' : σ}, run f s es = some s' → (ofFun init f).Leads s es s' := by
  induction es with
  | nil =>
    intro s s' h
    obtain rfl : s = s' := Option.some.inj h
    exact .nil s
  | cons e es ih =>
    intro s s' h
    obtain ⟨t, hst, hrest⟩ := Option.bind_eq_some_iff.mp h
    exact .cons hst (ih hrest)

theorem reachable_of_run {init : σ → Prop} {f : σ → ε → Option σ}
    {s s' : σ} {es : List ε} (hs : init s) (h : run f s es = some s') :
    (ofFun init f).Reachable s' :=
  ⟨s, es, hs, leads_of_run h⟩

end Machine
