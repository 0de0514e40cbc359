import SwapDesk.HashRail.Effects
import SwapDesk.Lib.Coverage

/-!
# SwapDesk — the EVM hash rail owes no more than it holds

Of every known token, whatever foreign code is called on the way: the rail is never the sender of
an approval, so nobody else moves its tokens, and each of its functions moves them together with
the row that accounts for them.

Main result: `solvent_of_reachable`.
-/

namespace SwapDesk.HashRail

variable {env : Deployment} {timestamp : Nat} {w w' : World}

-- ---------------------------------------------------------------------------
-- The invariant
-- ---------------------------------------------------------------------------

/-- What a row owes of a token. -/
def World.owed (w : World) (token : Address) (hashLock : Bytes32) : Nat :=
  let row := w.locks hashLock
  if row.status = .locked ∧ row.token = token then row.amount else 0

/-- Nobody may take the rail's tokens, and they pay every row that is locked. -/
structure World.Solvent (env : Deployment) (w : World) (token : Address) : Prop where
  allowance : ∀ spender, (w.tokens token).allowance env.rail spender = 0
  covers : Covers ((w.tokens token).balanceOf env.rail) (w.owed token) 0

theorem Moved.known {tokens tokens' : Address → Token} {token known : Address}
    {code : Token → Except String (Token × Bool)} (h : Moved env tokens token code tokens')
    (hKnown : env.isToken known = true) :
    (known = token ∧ ∃ t, code (tokens known) = .ok (t, true) ∧ tokens' known = t) ∨
      (known ≠ token ∧ tokens' known = tokens known) := by
  unfold Moved at h
  by_cases hIs : known = token
  · subst hIs
    rw [if_pos hKnown] at h
    obtain ⟨t, hCode, rfl⟩ := h
    exact .inl ⟨rfl, t, hCode, Function.update_self ..⟩
  · refine .inr ⟨hIs, ?_⟩
    split at h
    · obtain ⟨t, -, rfl⟩ := h
      exact Function.update_of_ne hIs _ _
    · rw [h]

/-- Writing a row is paid for when its token is moved by as much as the row owes more or less. -/
theorem World.Solvent.write {token : Address} (hKnown : env.isToken token = true)
    (h : w.Solvent env token) {hashLock : Bytes32} {row : Lock} {event : Event}
    {tokens : Address → Token} {code : Token → Except String (Token × Bool)}
    (hMoved : Moved env w.tokens row.token code tokens)
    (hCode : ∀ t, row.token = token → code (w.tokens token) = .ok (t, true) →
      (∀ spender, t.allowance env.rail spender = 0) ∧
      (if row.status = .locked then row.amount else 0) + (w.tokens token).balanceOf env.rail ≤
        w.owed token hashLock + t.balanceOf env.rail) :
    ((w.write hashLock row event).withTokens tokens).Solvent env token := by
  -- what is owed changes under this hash lock only
  have hOther : ∀ other, other ≠ hashLock →
      ((w.write hashLock row event).withTokens tokens).owed token other =
        w.owed token other := by
    intro other hNe
    unfold World.owed World.withTokens World.write
    dsimp only
    rw [Function.update_of_ne hNe]
  have hSelf : ((w.write hashLock row event).withTokens tokens).owed token hashLock =
      if row.status = .locked ∧ row.token = token then row.amount else 0 := by
    unfold World.owed World.withTokens World.write
    dsimp only
    rw [Function.update_self]
  rcases hMoved.known hKnown with ⟨hIs, t, hRun, hTokens⟩ | ⟨hNe, hTokens⟩
  -- the row is one of this token
  · obtain ⟨hNone, hCost⟩ := hCode t hIs.symm hRun
    refine ⟨fun spender => ?_, h.covers.update hOther ?_⟩
    · rw [withTokens_tokens, hTokens]
      exact hNone spender
    · rw [hSelf, withTokens_tokens, hTokens]
      simp only [hIs, and_true] at hCost ⊢
      omega
  · -- the row is one of another token
    refine ⟨fun spender => ?_, h.covers.update hOther ?_⟩
    · rw [withTokens_tokens, hTokens]
      exact h.allowance spender
    · rw [hSelf, withTokens_tokens, hTokens, if_neg fun hRow => hNe hRow.2.symm]
      omega

theorem Effect.solvent {token : Address} (hKnown : env.isToken token = true)
    (h : w.Solvent env token) (hEffect : Effect env timestamp w w') : w'.Solvent env token := by
  cases hEffect with
  | locked sender hashLock payee amount lockToken claimByMs refundAfterMs tokens hNone _ _ _ _ hMoved =>
    refine h.write hKnown hMoved fun t hIs hRun => ?_
    -- what is owed is what was pulled in
    obtain ⟨-, hMove⟩ := Token.transferFrom_ok hRun
    have hPulled := Token.move_dst hMove (Ne.symm sender.2)
    rw [Token.spend_balanceOf] at hPulled
    refine ⟨fun spender => ?_, ?_⟩
    · rw [(Token.move_ok hMove).2.1, Token.spend_allowance (Ne.symm sender.2)]
      exact h.allowance spender
    · rw [if_pos rfl, hPulled]
      dsimp only
      omega
  | claimed hashLock preimage tokens hLocked _ _ hMoved =>
    have hRow : Moved env w.tokens ({ w.locks hashLock with status := .claimed } : Lock).token _
        tokens := hMoved
    refine h.write hKnown hRow fun t hIs hRun => ?_
    exact payout hashLock hLocked hIs hRun
  | refunded hashLock tokens hLocked _ _ hMoved =>
    have hRow : Moved env w.tokens ({ w.locks hashLock with status := .refunded } : Lock).token _
        tokens := hMoved
    refine h.write hKnown hRow fun t hIs hRun => ?_
    exact payout hashLock hLocked hIs hRun
  | called called t hKeeps =>
    -- a call of this token, or of another one
    by_cases hIs : token = called
    · subst hIs
      obtain ⟨hNone, hBalance⟩ := hKeeps h.allowance
      have hTokens : (w.setToken token t).tokens token = t := Function.update_self ..
      refine ⟨fun spender => ?_, ?_⟩
      · rw [hTokens]
        exact hNone spender
      · rw [hTokens]
        exact h.covers.rebalance (by omega)
    · have hTokens : (w.setToken called t).tokens token = w.tokens token :=
        Function.update_of_ne hIs _ _
      refine ⟨fun spender => ?_, ?_⟩
      · rw [hTokens]
        exact h.allowance spender
      · rw [hTokens]
        exact h.covers
where
  /-- What a locked row is paid out with is what it owed. -/
  payout (hashLock : Bytes32) (hLocked : (w.locks hashLock).status = .locked) {dst : Address}
      {t : Token} (hIs : (w.locks hashLock).token = token)
      (hRun : (w.tokens token).transfer env.rail dst (w.locks hashLock).amount = .ok (t, true)) :
      (∀ spender, t.allowance env.rail spender = 0) ∧
        0 + (w.tokens token).balanceOf env.rail ≤
          w.owed token hashLock + t.balanceOf env.rail := by
    have hMove := Token.transfer_ok hRun
    have hPaid := Token.move_src hMove
    refine ⟨fun spender => ?_, ?_⟩
    · rw [(Token.move_ok hMove).2.1]
      exact h.allowance spender
    · unfold World.owed
      dsimp only
      rw [if_pos ⟨hLocked, hIs⟩]
      omega

theorem Initial.solvent {s : State} (h : Initial env s) {token : Address}
    (hKnown : env.isToken token = true) : s.world.Solvent env token := by
  refine ⟨h.allowance token hKnown, .of_no_debt (fun hashLock => ?_) (Nat.zero_le _)⟩
  unfold World.owed
  rw [h.locks]
  exact if_neg fun hRow => absurd hRow.1 (by decide)

theorem solvent {s : State} (hReach : (system env).Reachable s) {token : Address}
    (hKnown : env.isToken token = true) : s.world.Solvent env token :=
  invariant (fun _ hInit => hInit.solvent hKnown) (fun _ _ _ => Effect.solvent hKnown) hReach

/-- Whatever foreign code is called, the rail holds of every known token what its locked rows owe,
and nobody has an allowance to take it. -/
theorem solvent_of_reachable {s : State} (hReach : (system env).Reachable s) {token : Address}
    (hKnown : env.isToken token = true) :
    (∀ rows : Finset Bytes32, ∑ hashLock ∈ rows, s.world.owed token hashLock ≤
      (s.world.tokens token).balanceOf env.rail) ∧
    ∀ spender, (s.world.tokens token).allowance env.rail spender = 0 :=
  ⟨(solvent hReach hKnown).covers.sum_le, (solvent hReach hKnown).allowance⟩

section

open Sample

/-- After the sample run the rail owes Bob what he can claim, and holds it. -/
theorem solvent_of_reachable_sample :
    (∀ rows : Finset Bytes32, ∑ hashLock ∈ rows, final.world.owed usdc hashLock ≤
      (final.world.tokens usdc).balanceOf deployment.rail) ∧
    final.world.owed usdc hashLock = 4 := by
  have hKnown : deployment.isToken usdc = true := by decide
  exact ⟨(solvent_of_reachable reachable_final hKnown).1, by decide⟩

end

end SwapDesk.HashRail
