import Mathlib.Order.Nat
import SwapDesk.HashRail.Flat

/-!
# SwapDesk — what a flat call of the EVM hash rail does

A flat call writes one row and moves its tokens, or it is the call of a token by somebody else,
who takes nothing from a rail that has approved nothing.

Main results: `FlatStep.effect`, and `invariant` for what every such effect keeps.
-/

namespace SwapDesk.HashRail

open Check Relation

variable {env : Deployment} {timestamp : Nat} {w w' : World}

-- ---------------------------------------------------------------------------
-- Tokens
-- ---------------------------------------------------------------------------

section

variable {t t' : Token} {sender src dst a : Address} {amount : Nat} {ok : Bool}

/-- What a move of tokens changes. -/
theorem Token.move_ok (h : t.move src dst amount = .ok t') :
    amount ≤ t.balanceOf src ∧ t'.allowance = t.allowance ∧
      t'.balanceOf = Function.update
        (Function.update t.balanceOf src (t.balanceOf src - amount)) dst
        (Function.update t.balanceOf src (t.balanceOf src - amount) dst + amount) := by
  unfold Token.move at h
  obtain ⟨hFunds, h⟩ := require_bind_eq_ok.mp h
  obtain ⟨-, h⟩ := require_bind_eq_ok.mp h
  obtain rfl := Except.ok.inj h
  exact ⟨hFunds, rfl, rfl⟩

/-- Only the source of a move can lose by it. -/
theorem Token.move_le (h : t.move src dst amount = .ok t') (hSrc : a ≠ src) :
    t.balanceOf a ≤ t'.balanceOf a := by
  obtain ⟨-, -, hBalance⟩ := Token.move_ok h
  rw [hBalance]
  by_cases hDst : a = dst
  · rw [hDst, Function.update_self, Function.update_of_ne (hDst ▸ hSrc)]
    omega
  · rw [Function.update_of_ne hDst, Function.update_of_ne hSrc]

/-- The source loses no more than the amount. -/
theorem Token.move_src (h : t.move src dst amount = .ok t') :
    t.balanceOf src ≤ t'.balanceOf src + amount := by
  obtain ⟨hFunds, -, hBalance⟩ := Token.move_ok h
  rw [hBalance]
  by_cases hDst : src = dst
  · rw [hDst, Function.update_self, Function.update_self]
    omega
  · rw [Function.update_of_ne hDst, Function.update_self]
    omega

/-- A move pays the amount to another account. -/
theorem Token.move_dst (h : t.move src dst amount = .ok t') (hDst : dst ≠ src) :
    t'.balanceOf dst = t.balanceOf dst + amount := by
  obtain ⟨-, -, hBalance⟩ := Token.move_ok h
  rw [hBalance, Function.update_self, Function.update_of_ne hDst]

/-- A transfer moves the sender's tokens. -/
theorem Token.transfer_ok (h : t.transfer sender dst amount = .ok (t', ok)) :
    t.move sender dst amount = .ok t' := by
  unfold Token.transfer at h
  obtain ⟨moved, hMove, h⟩ := bind_eq_ok.mp h
  cases h
  exact hMove

/-- A transfer on behalf spends the allowance and moves. -/
theorem Token.transferFrom_ok (h : t.transferFrom sender src dst amount = .ok (t', ok)) :
    amount ≤ t.allowance src sender ∧
      (t.spend src sender amount).move src dst amount = .ok t' := by
  unfold Token.transferFrom at h
  obtain ⟨hAllowed, h⟩ := require_bind_eq_ok.mp h
  obtain ⟨moved, hMove, h⟩ := bind_eq_ok.mp h
  cases h
  exact ⟨hAllowed, hMove⟩

/-- Spending an allowance moves nothing. -/
@[simp] theorem Token.spend_balanceOf : (t.spend src sender amount).balanceOf = t.balanceOf := by
  unfold Token.spend
  dsimp only
  split <;> rfl

/-- Spending an allowance leaves the allowances of other owners. -/
theorem Token.spend_allowance (hSrc : a ≠ src) :
    (t.spend src sender amount).allowance a = t.allowance a := by
  unfold Token.spend
  dsimp only
  split
  · rfl
  · exact Function.update_of_ne hSrc _ _

end

/-- The rail has approved nothing of a token, and holds no less of it than before. -/
structure Token.Keeps (rail : Address) (t t' : Token) : Prop where
  allowance : ∀ spender, t'.allowance rail spender = 0
  balance : t.balanceOf rail ≤ t'.balanceOf rail

section

variable {t t' : Token} {src dst spender : Address} {amount : Nat} {ok : Bool}

/-- A transfer of another account leaves the rail's tokens. -/
theorem Token.keeps_transfer (hNone : ∀ spender, t.allowance env.rail spender = 0)
    (sender : Caller env) (h : t.transfer sender dst amount = .ok (t', ok)) :
    t.Keeps env.rail t' := by
  have hMove := Token.transfer_ok h
  refine ⟨fun spender => ?_, Token.move_le hMove (Ne.symm sender.2)⟩
  rw [(Token.move_ok hMove).2.1]
  exact hNone spender

/-- Without an allowance only nothing can be taken. -/
theorem Token.keeps_transferFrom (hNone : ∀ spender, t.allowance env.rail spender = 0)
    (sender : Caller env) (h : t.transferFrom sender src dst amount = .ok (t', ok)) :
    t.Keeps env.rail t' := by
  obtain ⟨hAllowed, hMove⟩ := Token.transferFrom_ok h
  by_cases hSrc : env.rail = src
  · subst hSrc
    -- nobody may spend the rail's tokens, so nothing is moved
    rw [hNone, Nat.le_zero] at hAllowed
    subst hAllowed
    have hBalance := Token.move_src hMove
    rw [Token.spend_balanceOf] at hBalance
    refine ⟨fun spender => ?_, hBalance⟩
    rw [(Token.move_ok hMove).2.1]
    unfold Token.spend
    dsimp only
    split
    · exact hNone spender
    · simp only [Function.update_self, hNone, Nat.sub_zero]
      by_cases hSpender : spender = sender
      · rw [hSpender, Function.update_self]
      · rw [Function.update_of_ne hSpender, hNone]
  -- somebody else's tokens
  · have hBalance := Token.move_le hMove hSrc
    rw [Token.spend_balanceOf] at hBalance
    refine ⟨fun spender => ?_, hBalance⟩
    rw [(Token.move_ok hMove).2.1, Token.spend_allowance hSrc]
    exact hNone spender

/-- An approval of another account leaves the rail's tokens. -/
theorem Token.keeps_approve (hNone : ∀ spender, t.allowance env.rail spender = 0)
    (sender : Caller env) : t.Keeps env.rail (t.approve sender spender amount) := by
  refine ⟨fun spender' => ?_, le_rfl⟩
  unfold Token.approve
  dsimp only
  rw [Function.update_of_ne (Ne.symm sender.2)]
  exact hNone spender'

/-- Minting leaves the rail's tokens. -/
theorem Token.keeps_mint (hNone : ∀ spender, t.allowance env.rail spender = 0)
    (h : t.mint dst amount = .ok t') : t.Keeps env.rail t' := by
  unfold Token.mint at h
  obtain ⟨-, h⟩ := require_bind_eq_ok.mp h
  obtain rfl := Except.ok.inj h
  refine ⟨hNone, ?_⟩
  dsimp only
  by_cases hDst : env.rail = dst
  · rw [hDst, Function.update_self]
    omega
  · rw [Function.update_of_ne hDst]

end

-- ---------------------------------------------------------------------------
-- What a flat call does
-- ---------------------------------------------------------------------------

/-- The rail's call of a token: of a known one by its code, of another one without effect. -/
def Moved (env : Deployment) (tokens : Address → Token) (token : Address)
    (code : Token → Except String (Token × Bool)) (tokens' : Address → Token) : Prop :=
  if env.isToken token then
    ∃ t, code (tokens token) = .ok (t, true) ∧ tokens' = Function.update tokens token t
  else tokens' = tokens

def World.withTokens (w : World) (tokens : Address → Token) : World := { w with tokens := tokens }

@[simp] theorem withTokens_tokens (w : World) (tokens : Address → Token) :
    (w.withTokens tokens).tokens = tokens := rfl

/-- Everything a flat call can do: one row is written and its tokens are moved, or a token is
called by somebody else. -/
inductive Effect (env : Deployment) (timestamp : Nat) (w : World) : World → Prop
  | locked (sender : Caller env) (hashLock : Bytes32) (payee : Address) (amount : Nat)
      (token : Address) (claimByMs refundAfterMs : Nat) (tokens : Address → Token) :
      (w.locks hashLock).status = .none → payee ≠ 0 → 0 < amount → claimByMs < refundAfterMs →
      timestamp * 1000 < refundAfterMs →
      Moved env w.tokens token (·.transferFrom env.rail sender env.rail amount) tokens →
      Effect env timestamp w ((w.write hashLock
        ⟨sender, payee, token, amount, claimByMs, refundAfterMs, .locked⟩
        (.locked hashLock sender payee token amount claimByMs refundAfterMs)).withTokens tokens)
  | claimed (hashLock preimage : Bytes32) (tokens : Address → Token) :
      (w.locks hashLock).status = .locked →
      timestamp * 1000 < (w.locks hashLock).refundAfterMs → env.sha256 preimage = hashLock →
      Moved env w.tokens (w.locks hashLock).token
        (·.transfer env.rail (w.locks hashLock).payee (w.locks hashLock).amount) tokens →
      Effect env timestamp w ((w.write hashLock { w.locks hashLock with status := .claimed }
        (.claimed hashLock preimage)).withTokens tokens)
  | refunded (hashLock : Bytes32) (tokens : Address → Token) :
      (w.locks hashLock).status = .locked → (w.locks hashLock).payer ≠ env.rail →
      (w.locks hashLock).refundAfterMs ≤ timestamp * 1000 →
      Moved env w.tokens (w.locks hashLock).token
        (·.transfer env.rail (w.locks hashLock).payer (w.locks hashLock).amount) tokens →
      Effect env timestamp w ((w.write hashLock { w.locks hashLock with status := .refunded }
        (.refunded hashLock)).withTokens tokens)
  | called (token : Address) (t : Token) :
      ((∀ spender, (w.tokens token).allowance env.rail spender = 0) →
        (w.tokens token).Keeps env.rail t) →
      Effect env timestamp w (w.setToken token t)

/-- A settlement moves the token and calls back nothing else. -/
theorem moved_of_settle {entered : World} {token : Address}
    {code : Token → Except String (Token × Bool)} {failed : String}
    (h : entered.settle env token code entered (.returns true) failed = .ok w') :
    ∃ tokens, Moved env entered.tokens token code tokens ∧ w' = entered.withTokens tokens := by
  unfold World.settle at h
  unfold Moved
  cases hToken : env.isToken token with
  | true =>
    rw [hToken] at h
    obtain ⟨answered, hAnswered, h⟩ := bind_eq_ok.mp h
    obtain ⟨hOk, h⟩ := require_bind_eq_ok.mp h
    obtain ⟨⟨t, ok⟩, hCode, hAnswered⟩ := bind_eq_ok.mp hAnswered
    cases hAnswered
    obtain rfl : ok = true := hOk
    exact ⟨_, ⟨t, hCode, rfl⟩, (Except.ok.inj h).symm⟩
  | false =>
    rw [hToken] at h
    cases h
    exact ⟨_, rfl, rfl⟩

/-- What a lock that goes through has checked and changed. -/
theorem lock_ok {sender : Address} {hashLock : Bytes32} {payee token : Address}
    {amount claimByMs refundAfterMs : Nat}
    (h : w.lock timestamp sender hashLock payee amount token claimByMs refundAfterMs = .ok w') :
    (w.locks hashLock).status = .none ∧ payee ≠ 0 ∧ 0 < amount ∧ claimByMs < refundAfterMs ∧
      timestamp * 1000 < refundAfterMs ∧
      w' = w.write hashLock ⟨sender, payee, token, amount, claimByMs, refundAfterMs, .locked⟩
        (.locked hashLock sender payee token amount claimByMs refundAfterMs) := by
  unfold World.lock at h
  obtain ⟨hNone, h⟩ := require_bind_eq_ok.mp h
  obtain ⟨hPayee, h⟩ := require_bind_eq_ok.mp h
  obtain ⟨hAmount, h⟩ := require_bind_eq_ok.mp h
  obtain ⟨hOrder, h⟩ := require_bind_eq_ok.mp h
  obtain ⟨hTime, h⟩ := require_bind_eq_ok.mp h
  exact ⟨hNone, hPayee, hAmount, hOrder, hTime, (Except.ok.inj h).symm⟩

/-- What a claim that goes through has checked and changed. -/
theorem claim_ok {hashLock preimage : Bytes32}
    (h : w.claim env timestamp hashLock preimage = .ok w') :
    (w.locks hashLock).status = .locked ∧ timestamp * 1000 < (w.locks hashLock).refundAfterMs ∧
      env.sha256 preimage = hashLock ∧
      w' = w.write hashLock { w.locks hashLock with status := .claimed }
        (.claimed hashLock preimage) := by
  unfold World.claim at h
  obtain ⟨-, h⟩ := require_bind_eq_ok.mp h
  obtain ⟨hLocked, h⟩ := require_bind_eq_ok.mp h
  obtain ⟨hTime, h⟩ := require_bind_eq_ok.mp h
  obtain ⟨hOpens, h⟩ := require_bind_eq_ok.mp h
  exact ⟨hLocked, hTime, hOpens, (Except.ok.inj h).symm⟩

/-- What a refund that goes through has checked and changed. -/
theorem refund_ok {sender : Address} {hashLock : Bytes32}
    (h : w.refund timestamp sender hashLock = .ok w') :
    (w.locks hashLock).status = .locked ∧ sender = (w.locks hashLock).payer ∧
      (w.locks hashLock).refundAfterMs ≤ timestamp * 1000 ∧
      w' = w.write hashLock { w.locks hashLock with status := .refunded } (.refunded hashLock) := by
  unfold World.refund at h
  obtain ⟨-, h⟩ := require_bind_eq_ok.mp h
  obtain ⟨hLocked, h⟩ := require_bind_eq_ok.mp h
  obtain ⟨hPayer, h⟩ := require_bind_eq_ok.mp h
  obtain ⟨hTime, h⟩ := require_bind_eq_ok.mp h
  exact ⟨hLocked, hPayer, hTime, (Except.ok.inj h).symm⟩

/-- What a call of a token changes. -/
theorem callToken_ok {token : Address} {code : Token → Except String (Token × Bool)}
    {called : World × Bool} (h : w.callToken token code = .ok called) :
    ∃ t, code (w.tokens token) = .ok (t, called.2) ∧ called.1 = w.setToken token t := by
  unfold World.callToken at h
  obtain ⟨⟨t, ok⟩, hCode, h⟩ := bind_eq_ok.mp h
  cases h
  exact ⟨t, hCode, rfl⟩

/-- A step that is flat has the effect of its function. -/
theorem FlatStep.effect (h : FlatStep env timestamp w w') : Effect env timestamp w w' := by
  obtain ⟨call, hFlat, h⟩ := h
  cases call with
  | lock sender hashLock payee amount token claimByMs refundAfterMs foreign answer =>
    -- the rail's own functions, each with the transfer that it settles
    obtain ⟨rfl, rfl⟩ := hFlat
    unfold Call.run at h
    obtain ⟨entered, hEntered, h⟩ := bind_eq_ok.mp h
    obtain ⟨hNone, hPayee, hAmount, hOrder, hTime, rfl⟩ := lock_ok hEntered
    obtain ⟨tokens, hMoved, rfl⟩ := moved_of_settle h
    exact .locked sender hashLock payee amount token claimByMs refundAfterMs tokens hNone hPayee
      hAmount hOrder hTime hMoved
  | claim sender hashLock preimage foreign answer =>
    obtain ⟨rfl, rfl⟩ := hFlat
    unfold Call.run at h
    obtain ⟨entered, hEntered, h⟩ := bind_eq_ok.mp h
    obtain ⟨hLocked, hTime, hOpens, rfl⟩ := claim_ok hEntered
    obtain ⟨tokens, hMoved, rfl⟩ := moved_of_settle h
    exact .claimed hashLock preimage tokens hLocked hTime hOpens hMoved
  | refund sender hashLock foreign answer =>
    obtain ⟨rfl, rfl⟩ := hFlat
    unfold Call.run at h
    obtain ⟨entered, hEntered, h⟩ := bind_eq_ok.mp h
    obtain ⟨hLocked, hPayer, hTime, rfl⟩ := refund_ok hEntered
    obtain ⟨tokens, hMoved, rfl⟩ := moved_of_settle h
    exact .refunded hashLock tokens hLocked (hPayer ▸ sender.2) hTime hMoved
  | transfer sender token dst amount =>
    -- calls of a token leave the rows alone
    unfold Call.run at h
    obtain ⟨called, hCalled, h⟩ := bind_eq_ok.mp h
    obtain ⟨t, hCode, hWorld⟩ := callToken_ok hCalled
    obtain rfl := (Except.ok.inj h).symm.trans hWorld
    exact .called token t fun hNone => Token.keeps_transfer hNone sender hCode
  | transferFrom sender token src dst amount =>
    unfold Call.run at h
    obtain ⟨called, hCalled, h⟩ := bind_eq_ok.mp h
    obtain ⟨t, hCode, hWorld⟩ := callToken_ok hCalled
    obtain rfl := (Except.ok.inj h).symm.trans hWorld
    exact .called token t fun hNone => Token.keeps_transferFrom hNone sender hCode
  | approve sender token spender amount =>
    unfold Call.run at h
    obtain rfl := Except.ok.inj h
    exact .called token _ fun hNone => Token.keeps_approve hNone sender
  | mint sender token dst amount =>
    unfold Call.run at h
    obtain ⟨t, hMint, h⟩ := bind_eq_ok.mp h
    obtain rfl := Except.ok.inj h
    exact .called token t fun hNone => Token.keeps_mint hNone hMint
  | other sender foreign answer => exact hFlat.elim

-- ---------------------------------------------------------------------------
-- Transactions
-- ---------------------------------------------------------------------------

/-- A transaction is a sequence of flat calls in its block. -/
theorem State.flat_of_step {s s' : State} {e : Transaction env}
    (h : (system env).step s e s') : s.timestamp ≤ e.timestamp ∧ s'.timestamp = e.timestamp ∧
      ReflTransGen (FlatStep env e.timestamp) s.world s'.world := by
  have hStep : s.step e = some s' := h
  unfold State.step at hStep
  split at hStep
  · cases hStep
  · rename_i hTime
    obtain rfl := Option.some.inj hStep
    exact ⟨not_lt.mp hTime, rfl, Call.runAll_flat [e.call] s.world⟩

/-- What holds of a rail that was just deployed, and is kept by every effect. -/
theorem invariant {P : World → Prop} (hInit : ∀ s, Initial env s → P s.world)
    (hEffect : ∀ timestamp w w', P w → Effect env timestamp w w' → P w') {s : State}
    (hReach : (system env).Reachable s) : P s.world := by
  refine Machine.invariant (P := fun s => P s.world) hInit (fun s e s' _ h hStep => ?_) hReach
  have hKeeps : ∀ w', ReflTransGen (FlatStep env e.timestamp) s.world w' → P w' := by
    intro w' hFlat
    induction hFlat with
    | refl => exact h
    | tail _ hStep ih => exact hEffect _ _ _ ih hStep.effect
  exact hKeeps _ (State.flat_of_step hStep).2.2

end SwapDesk.HashRail
