import SwapDesk.Lib.Machine
import SwapDesk.Lib.Routine

/-!
# Processes that serve calls

A process is given calls one at a time and runs a `Routine` for each. It may die at any point of
it; what is left of its state is what a new process starts from, if one can.

* `Serving.machine`: the runs of such a process and of those that follow it;
* `Serving.Sound.always`, `Serving.Sound.at_rest`: what every operation keeps, and what every call
  leaves behind, holds in every run;
* `Serving.Sound.allows`: every operation of every run is one that `G` allows.
-/

/-- What every allowed operation keeps, a whole program keeps. -/
theorem Routine.Meets.keeps {Op : Type} {Res : Op → Type} {ε α σ : Type}
    {act : (o : Op) → σ → Res o → σ → Prop} {G : (o : Op) → σ → Res o → σ → Prop}
    {Q : Except ε α → σ → Prop} {K : σ → σ → Prop} {t : Routine Res ε α} {s : σ}
    (h : Meets (fun s s₁ => s₁ = s) act G Q t s) (hRefl : ∀ s, K s s)
    (hTrans : ∀ s s' s'', K s s' → K s' s'' → K s s'') (hG : ∀ o s r s', G o s r s' → K s s') :
    Meets (fun s s₁ => s₁ = s) act G (fun x s' => K s s' ∧ Q x s') t s := by
  induction h with
  | done hQ => exact .done ⟨hRefl _, hQ⟩
  | fail hQ => exact .fail ⟨hRefl _, hQ⟩
  | perform hAllows _ ih =>
    refine .perform hAllows ?_
    rintro _ rfl r s₂ hAct
    refine (ih _ rfl r s₂ hAct).mono ?_
    rintro x s' ⟨hKept, hQ⟩
    exact ⟨hTrans _ _ _ (hG _ _ r s₂ (hAllows _ rfl r s₂ hAct)) hKept, hQ⟩

structure Serving {Op : Type} (Res : Op → Type) (ε σ κ : Type) where
  program : κ → Routine Res ε Unit
  act : (o : Op) → σ → Res o → σ → Prop
  init : σ → Prop
  /-- A call begins. -/
  begin : σ → σ
  /-- A new process starts from what is left. -/
  restart : σ → Option σ

namespace Serving

variable {Op : Type} {Res : Op → Type} {ε σ κ : Type}

inductive Event (Res : Op → Type) (κ : Type) where
  | call (k : κ)
  | answer (o : Op) (r : Res o)
  | finish
  | crash

/-- The state, and what is left to do of the call in progress. -/
structure State (Res : Op → Type) (ε σ : Type) where
  now : σ
  running : Option (Routine Res ε Unit)

inductive Step (S : Serving Res ε σ κ) : State Res ε σ → Event Res κ → State Res ε σ → Prop
  | call (s : σ) (k : κ) : Step S ⟨s, none⟩ (.call k) ⟨S.begin s, some (S.program k)⟩
  | answer {s s' : σ} {o : Op} {next : Res o → Routine Res ε Unit} {r : Res o} :
      S.act o s r s' → Step S ⟨s, some (.perform o next)⟩ (.answer o r) ⟨s', some (next r)⟩
  | returns (s : σ) : Step S ⟨s, some (.done ())⟩ .finish ⟨s, none⟩
  | throws (s : σ) (e : ε) : Step S ⟨s, some (.fail e)⟩ .finish ⟨s, none⟩
  | crash {s s' : σ} {t : Option (Routine Res ε Unit)} :
      S.restart s = some s' → Step S ⟨s, t⟩ .crash ⟨s', none⟩

def machine (S : Serving Res ε σ κ) : Machine (State Res ε σ) (Event Res κ) where
  init st := S.init st.now ∧ st.running = none
  step := S.Step

/-- `I` holds throughout, `R` between two calls, and every operation is one that `G` allows. -/
structure Sound (S : Serving Res ε σ κ) (I R : σ → Prop)
    (G : (o : Op) → σ → Res o → σ → Prop) : Prop where
  init : ∀ s, S.init s → I s ∧ R s
  begin : ∀ s, I s → R s → I (S.begin s)
  call : ∀ k s, I s → R s → Routine.Meets (fun s s₁ => s₁ = s) S.act
    (fun o s r s' => G o s r s' ∧ I s') (fun _ s' => R s') (S.program k) (S.begin s)
  restart : ∀ s s', I s → S.restart s = some s' → I s' ∧ R s'

namespace Sound

variable {S : Serving Res ε σ κ} {I R : σ → Prop} {G : (o : Op) → σ → Res o → σ → Prop}
  {st : State Res ε σ}

/-- What is known of a state between two calls, and of one with a call in progress. -/
def Holds (S : Serving Res ε σ κ) (I R : σ → Prop) (G : (o : Op) → σ → Res o → σ → Prop) :
    State Res ε σ → Prop
  | ⟨s, none⟩ => R s
  | ⟨s, some t⟩ => Routine.Meets (fun s s₁ => s₁ = s) S.act (fun o s r s' => G o s r s' ∧ I s')
      (fun _ s' => R s') t s

/-- The call in progress does what it has left to do soundly. -/
theorem holds (h : S.Sound I R G) (hReach : S.machine.Reachable st) :
    I st.now ∧ Holds S I R G st := by
  refine Machine.invariant (P := fun st => I st.now ∧ Holds S I R G st) ?_ ?_ hReach
  · rintro ⟨s, t⟩ ⟨hInit, rfl⟩
    exact h.init s hInit
  · intro st e st' _ hHolds hStep
    obtain ⟨hI, hHolds⟩ := hHolds
    cases hStep with
    | call s k => exact ⟨h.begin s hI hHolds, h.call k s hI hHolds⟩
    | answer hAct =>
      cases hHolds with
      | perform hG hNext => exact ⟨(hG _ rfl _ _ hAct).2, hNext _ rfl _ _ hAct⟩
    | returns s =>
      cases hHolds with
      | done hR => exact ⟨hI, hR⟩
    | throws s e =>
      cases hHolds with
      | fail hR => exact ⟨hI, hR⟩
    | crash hRestart => exact h.restart _ _ hI hRestart

theorem always (h : S.Sound I R G) (hReach : S.machine.Reachable st) : I st.now :=
  (h.holds hReach).1

theorem at_rest (h : S.Sound I R G) {s : σ} (hReach : S.machine.Reachable ⟨s, none⟩) : R s :=
  (h.holds hReach).2

theorem allows (h : S.Sound I R G) {s s' : σ} {o : Op} {next : Res o → Routine Res ε Unit}
    {r : Res o} (hReach : S.machine.Reachable ⟨s, some (.perform o next)⟩) (hAct : S.act o s r s') :
    G o s r s' := by
  cases (h.holds hReach).2 with
  | perform hG _ => exact (hG s rfl r s' hAct).1

/-- What every allowed operation keeps, a new call and a new process included, every run keeps. -/
theorem leads (h : S.Sound I R G) {K : σ → σ → Prop} (hRefl : ∀ s, K s s)
    (hTrans : ∀ s s' s'', K s s' → K s' s'' → K s s'')
    (hG : ∀ o s r s', G o s r s' → K s s') (hBegin : ∀ s, K s (S.begin s))
    (hRestart : ∀ s s', I s → S.restart s = some s' → K s s') {st' : State Res ε σ}
    {es : List (Event Res κ)} (hReach : S.machine.Reachable st)
    (hRun : S.machine.Leads st es st') : K st.now st'.now := by
  refine hRun.related (R := fun st st' => K st.now st'.now) (fun _ => hRefl _)
    (fun _ _ _ => hTrans _ _ _) ?_ hReach
  intro st e st' hReach hStep
  cases hStep with
  | call s k => exact hBegin s
  | answer hAct => exact hG _ _ _ _ (h.allows hReach hAct)
  | returns s => exact hRefl s
  | throws s e => exact hRefl s
  | crash hRestart' => exact hRestart _ _ (h.always hReach) hRestart'

end Sound

/-! ## Runs on given answers -/

section

variable {S : Serving Res ε σ κ} {answer : (o : Op) → σ → Res o × σ} {stop : Op → Bool}
  {s s' : σ} {t t' : Routine Res ε Unit}

/-- What a call comes to that is answered by a function, up to the first operation that `stop`
holds of. -/
def serve (S : Serving Res ε σ κ) (answer : (o : Op) → σ → Res o × σ) (stop : Op → Bool) (k : κ)
    (s : σ) : Routine Res ε Unit × σ :=
  Routine.advance (fun _ s => s) answer stop (S.program k) (S.begin s)

/-- The operation that comes next. -/
def asks : Routine Res ε Unit → Option Op
  | .perform o _ => some o
  | _ => none

theorem reachable_of_reaches (hReach : S.machine.Reachable ⟨s, some t⟩)
    (h : Routine.Reaches (fun s s₁ => s₁ = s) S.act t s t' s') :
    S.machine.Reachable ⟨s', some t'⟩ := by
  induction h with
  | refl => exact hReach
  | step _ hEnv hAct ih =>
    obtain rfl := hEnv
    exact ih.step (.answer hAct)

theorem reachable_serve {I : σ → Prop}
    (hAnswer : ∀ o s, I s → S.act o s (answer o s).1 (answer o s).2 ∧ I (answer o s).2) {k : κ}
    (hI : I (S.begin s)) (hReach : S.machine.Reachable ⟨s, none⟩) :
    S.machine.Reachable ⟨(S.serve answer stop k s).2, some (S.serve answer stop k s).1⟩ ∧
      I (S.serve answer stop k s).2 := by
  have hRun : Routine.Reaches (fun s s₁ => s₁ = s) S.act (S.program k) (S.begin s)
        (S.serve answer stop k s).1 (S.serve answer stop k s).2 ∧
      I (S.serve answer stop k s).2 := by
    refine Routine.reaches_advance ?_ hAnswer hI .refl
    exact fun _ _ _ => rfl
  exact ⟨reachable_of_reaches (hReach.step (.call s k)) hRun.1, hRun.2⟩

theorem reachable_rest (hReach : S.machine.Reachable ⟨s, some t⟩) (hEnd : (asks t).isNone = true) :
    S.machine.Reachable ⟨s, none⟩ := by
  cases t with
  | done a => exact hReach.step (.returns s)
  | fail e => exact hReach.step (.throws s e)
  | perform o next => cases hEnd

theorem exists_next {P : Op → Bool} (h : (asks t).any P = true) :
    ∃ o next, t = .perform o next ∧ P o = true := by
  cases t with
  | perform o next => exact ⟨o, next, rfl, h⟩
  | _ => cases h

end

end Serving
