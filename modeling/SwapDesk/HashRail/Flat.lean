import SwapDesk.HashRail.Contract

/-!
# SwapDesk — reentrant calls of the EVM hash rail, one after another

The rail writes what a call changes before it calls the token, and reads nothing afterwards. So a
call with everything that foreign code does within it is the same as a sequence of calls in which
foreign code does nothing.

Main result: `Call.run_flat`.
-/

namespace SwapDesk.HashRail

open Check Relation

variable {env : Deployment} {timestamp : Nat} {w w' : World}

/-- A call in which no foreign code calls anything, and a foreign token pays. -/
def Call.IsFlat : Call env → Prop
  | .lock _ _ _ _ _ _ _ foreign answer => foreign = [] ∧ answer = .returns true
  | .claim _ _ _ foreign answer => foreign = [] ∧ answer = .returns true
  | .refund _ _ foreign answer => foreign = [] ∧ answer = .returns true
  | .other _ _ _ => False
  | _ => True

/-- One such call that succeeds. -/
def FlatStep (env : Deployment) (timestamp : Nat) (w w' : World) : Prop :=
  ∃ call : Call env, call.IsFlat ∧ call.run timestamp w = .ok w'

/-- A known token decides by itself how the rail's call of it ends; with any other the world is
left as foreign code left it. -/
theorem settle_cases {token : Address} {code : Token → Except String (Token × Bool)} {ran : World}
    {answer : Answer} {failed : String}
    (h : w.settle env token code ran answer failed = .ok w') :
    w.settle env token code w (.returns true) failed = .ok w' ∨
      (w' = ran ∧ w.settle env token code w (.returns true) failed = .ok w) := by
  unfold World.settle at h ⊢
  cases hToken : env.isToken token with
  | true =>
    rw [hToken] at h
    exact .inl h
  | false =>
    rw [hToken] at h
    obtain ⟨answered, hAnswered, h⟩ := bind_eq_ok.mp h
    obtain ⟨-, h⟩ := require_bind_eq_ok.mp h
    cases answer with
    | reverts => cases hAnswered
    | returns ok =>
      cases hAnswered
      exact .inr ⟨(Except.ok.inj h).symm, rfl⟩

/-- Foreign code comes after what the rail has written. -/
theorem reflTransGen_of_settle {entered : World} {token : Address}
    {code : Token → Except String (Token × Bool)} {foreign : List (Call env)} {answer : Answer}
    {failed : String}
    (h : entered.settle env token code (Call.runAll timestamp entered foreign) answer failed =
      .ok w')
    (hFlat : ∀ w', entered.settle env token code entered (.returns true) failed = .ok w' →
      FlatStep env timestamp w w')
    (hForeign : ReflTransGen (FlatStep env timestamp) entered
      (Call.runAll timestamp entered foreign)) :
    ReflTransGen (FlatStep env timestamp) w w' := by
  rcases settle_cases h with hSettled | ⟨rfl, hSettled⟩
  · exact .single (hFlat w' hSettled)
  · exact hForeign.head (hFlat entered hSettled)

mutual

/-- A call that succeeds is a sequence of flat calls. -/
theorem Call.run_flat : ∀ (call : Call env) (w w' : World),
    call.run timestamp w = .ok w' → ReflTransGen (FlatStep env timestamp) w w'
  | .lock sender hashLock payee amount token claimByMs refundAfterMs foreign answer => by
    intro w w' h
    unfold Call.run at h
    obtain ⟨entered, hEntered, h⟩ := bind_eq_ok.mp h
    -- first what the token's code called in between, then the call by itself
    refine reflTransGen_of_settle h (fun w' hSettled => ?_) (Call.runAll_flat foreign entered)
    refine ⟨.lock sender hashLock payee amount token claimByMs refundAfterMs [] (.returns true),
      ⟨rfl, rfl⟩, ?_⟩
    unfold Call.run
    exact bind_eq_ok.mpr ⟨entered, hEntered, hSettled⟩
  | .claim sender hashLock preimage foreign answer => by
    intro w w' h
    unfold Call.run at h
    obtain ⟨entered, hEntered, h⟩ := bind_eq_ok.mp h
    refine reflTransGen_of_settle h (fun w' hSettled => ?_) (Call.runAll_flat foreign entered)
    refine ⟨.claim sender hashLock preimage [] (.returns true), ⟨rfl, rfl⟩, ?_⟩
    unfold Call.run
    exact bind_eq_ok.mpr ⟨entered, hEntered, hSettled⟩
  | .refund sender hashLock foreign answer => by
    intro w w' h
    unfold Call.run at h
    obtain ⟨entered, hEntered, h⟩ := bind_eq_ok.mp h
    refine reflTransGen_of_settle h (fun w' hSettled => ?_) (Call.runAll_flat foreign entered)
    refine ⟨.refund sender hashLock [] (.returns true), ⟨rfl, rfl⟩, ?_⟩
    unfold Call.run
    exact bind_eq_ok.mpr ⟨entered, hEntered, hSettled⟩
  | .transfer sender token dst amount => fun _ _ h =>
    .single ⟨.transfer sender token dst amount, trivial, h⟩
  | .transferFrom sender token src dst amount => fun _ _ h =>
    .single ⟨.transferFrom sender token src dst amount, trivial, h⟩
  | .approve sender token spender amount => fun _ _ h =>
    .single ⟨.approve sender token spender amount, trivial, h⟩
  | .mint sender token dst amount => fun _ _ h =>
    .single ⟨.mint sender token dst amount, trivial, h⟩
  | .other sender foreign answer => by
    intro w w' h
    unfold Call.run at h
    obtain ⟨answered, hAnswered, h⟩ := bind_eq_ok.mp h
    cases answer with
    | reverts => cases hAnswered
    | returns ok =>
      cases hAnswered
      obtain rfl := Except.ok.inj h
      exact Call.runAll_flat foreign w

/-- So are any calls, whichever of them revert. -/
theorem Call.runAll_flat : ∀ (calls : List (Call env)) (w : World),
    ReflTransGen (FlatStep env timestamp) w (Call.runAll timestamp w calls)
  | [] => fun _ => .refl
  | call :: calls => by
    intro w
    unfold Call.runAll
    cases hRun : call.run timestamp w with
    | ok w' => exact (Call.run_flat call w w' hRun).trans (Call.runAll_flat calls w')
    | error _ => exact Call.runAll_flat calls w

end

end SwapDesk.HashRail
