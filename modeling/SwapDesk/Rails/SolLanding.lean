import SwapDesk.Rails.SolClaim
import SwapDesk.Rails.SolSoundness

/-!
# SwapDesk — a Solana claim does not land late

A claim reveals the secret even when it fails, so it must not be executed once the lock can
be refunded. The rail judges that from a blockhash, two heights and its clock, which it reads
one after the other, while the chain goes on.

Main result: `claim_never_late`. With blocks so slow that a blockhash outlives the landing
margin it holds only when the clock and the height are read close together
(`claim_late_under_slow_blocks`).
-/

namespace SwapDesk.Rails.Sol

open Check

/-! ## The cluster and a node that tells the truth -/

/-- The blocks of a cluster, those to come included. -/
structure Cluster where
  /-- The cluster's time, in milliseconds, in the block at a height. -/
  time : Nat → ℚ
  time_mono : Monotone time
  slotOf : Nat → Nat
  /-- The height of the block that a blockhash names. -/
  heightOf : List UInt8 → Option Nat
  /-- When the escrow can be refunded. -/
  refundAfterMs : Int

/-- How far the chain has come, and the local clock. -/
structure NodeState where
  processed : Nat
  confirmed : Nat
  finalized : Nat
  clock : ℚ
  /-- What the clock was last read as. -/
  asked : ℚ

/-- Time passes between two answers: the chain grows, and the local clock is not behind it. -/
structure Passes (c : Cluster) (s s' : NodeState) : Prop where
  processed : s.processed ≤ s'.processed
  confirmed : s.confirmed ≤ s'.confirmed
  finalized : s.finalized ≤ s'.finalized
  finalized_le : s'.finalized ≤ s'.confirmed
  confirmed_le : s'.confirmed ≤ s'.processed
  clock : c.time s'.processed ≤ s'.clock
  asked : s'.asked = s.asked

/-- What a truthful node and the clock answer. When `prompt`, the finalized block whose height is
read is less than `margin` later than the clock read before it. -/
def TruthfulValue (c : Cluster) (margin : ℚ) (prompt : Bool) (s : NodeState) :
    (o : SolOp) → o.Value → Prop
  | .getSlot, slot => slot = c.slotOf s.finalized
  | .getBlockTime slot, seconds =>
    ∀ h ≤ s.finalized, slot = c.slotOf h → seconds = some ⌊c.time h / 1000⌋
  | .clock, now => now = s.clock
  | .getLatestBlockhash, latest => ∃ h ≤ s.confirmed,
    c.heightOf (base58Decode latest.blockhash.toList) = some h ∧
      latest.lastValidBlockHeight = h + SOL_BLOCKHASH_VALIDITY_BLOCKS
  | .getBlockHeight .processed, height => height = s.processed
  | .getBlockHeight .confirmed, height => height = s.confirmed
  | .getBlockHeight .finalized, height =>
    height = s.finalized ∧ (prompt = true → c.time height < s.asked + margin)
  | .readFinalized _ _, read => ∀ account view, read.accounts.head? = some (some account) →
    decodeEscrow account.data = .ok view → view.refundAfterMs = c.refundAfterMs
  | _, _ => True

/-- Any operation may throw; one that does not is answered truthfully. -/
def Truthful (c : Cluster) (margin : ℚ) (prompt : Bool) (o : SolOp) (s : NodeState)
    (r : o.Answer) (s' : NodeState) : Prop :=
  (∀ v, r = .ok v → TruthfulValue c margin prompt s o v) ∧
    s' = { s with asked := if o = .clock then s.clock else s.asked }

/-- The blocks in which a transaction may be executed: those in which its blockhash is valid. -/
def MayExecuteAt (c : Cluster) (tx : SolTransaction) (height : Nat) : Prop :=
  ∃ h, c.heightOf tx.message.recentBlockhash = some h ∧
    height ≤ h + SOL_BLOCKHASH_VALIDITY_BLOCKS

/-- From a height on, no block takes longer than `slow`. -/
def NoSlowerThan (c : Cluster) (slow : ℚ) (start : Nat) : Prop :=
  ∀ h, start ≤ h → c.time (h + 1) ≤ c.time h + slow

variable {c : Cluster} {slow margin : ℚ} {prompt : Bool} {start born : Nat}

/-- Blocks that are no slower than a bound bound the time of a later height. -/
theorem NoSlowerThan.time_add_le (h : NoSlowerThan c slow start) {height : Nat}
    (hStart : start ≤ height) (n : Nat) : c.time (height + n) ≤ c.time height + n * slow := by
  induction n with
  | zero => simp
  | succ n ih =>
    have hNext := h (height + n) (by omega)
    rw [← Nat.add_assoc]
    push_cast
    linarith

/-- The last block of a range is no later than its first one and what the others take. -/
theorem NoSlowerThan.time_le (h : NoSlowerThan c slow start) {low high : Nat}
    (hStart : start ≤ low) : c.time high ≤ c.time low + (high - low : Nat) * slow := by
  rcases Nat.le_total low high with hLe | hLe
  · have hRange := h.time_add_le hStart (high - low)
    rwa [Nat.add_sub_cancel' hLe] at hRange
  · have hMono := c.time_mono hLe
    have hNone : high - low = 0 := by omega
    rw [hNone]
    simpa using hMono

/-! ## What the parts of a claim keep -/

/-- Everything but the send of a transaction. -/
def Quiet : SolOp → Prop
  | .sendTransaction _ => False
  | _ => True

/-- No transaction is sent that may be executed once the lock can be refunded. -/
def SendsInTime (c : Cluster) (o : SolOp) (_ : NodeState) (_ : o.Answer) (_ : NodeState) : Prop :=
  ∀ tx, o = .sendTransaction tx → ∀ height, MayExecuteAt c tx height →
    c.time height < c.refundAfterMs

/-- The chain is past the height it started at, and past the block of a blockhash. -/
def Past (start born : Nat) (s : NodeState) : Prop := start ≤ s.finalized ∧ born ≤ s.processed

/-- A past stays past as time passes. -/
theorem Past.passes {s s' : NodeState} (h : Past start born s) (hPasses : Passes c s s') :
    Past start born s' :=
  ⟨h.1.trans hPasses.finalized, h.2.trans hPasses.processed⟩

/-- A past stays past over every truthful answer. -/
theorem Past.truthful {o : SolOp} {r : o.Answer} {s s' : NodeState} (h : Past start born s)
    (hAct : Truthful c margin prompt o s r s') : Past start born s' := by
  obtain ⟨-, rfl⟩ := hAct
  exact h

abbrev Runs (c : Cluster) (margin : ℚ) (prompt : Bool) {α : Type} (t : SolRoutine α)
    (Q : Except SolError α → NodeState → Prop) (s : NodeState) : Prop :=
  Routine.Meets (Passes c) (Truthful c margin prompt) (SendsInTime c) Q t s

/-- A routine of quiet operations keeps the past. -/
theorem quiet_meets {α : Type} {t : SolRoutine α} (h : t.Only Quiet) {s : NodeState}
    (hs : Past start born s) :
    Runs c margin prompt t (fun _ s => Past start born s) s := by
  refine h.meets (fun s s₁ hs hEnv => hs.passes hEnv) ?_ hs
  intro o ho s r s₁ hs hAct
  exact ⟨fun tx hSend => absurd ho (by rw [hSend]; exact id), hs.truthful hAct⟩

/-- One operation: an answer is truthful, in a state that came after. -/
theorem ask_meets {o : SolOp} {Q : Except SolError o.Value → NodeState → Prop} {s : NodeState}
    (hs : Past start born s) (hQuiet : Quiet o)
    (hError : ∀ e s₁, Past start born s₁ → Q (.error e) s₁)
    (h : ∀ v s₁, Past start born s₁ → Passes c s s₁ → TruthfulValue c margin prompt s₁ o v →
      Q (.ok v) { s₁ with asked := if o = .clock then s₁.clock else s₁.asked }) :
    Runs c margin prompt (ask o) Q s := by
  refine Routine.Meets.bind (Routine.Meets.call fun s₁ hEnv r s₂ hAct => ⟨?_, ?_⟩)
  · exact fun tx hSend => absurd hQuiet (by rw [hSend]; exact id)
  · have hPast := hs.passes hEnv
    obtain ⟨hValue, rfl⟩ := hAct
    refine Routine.meets_ofExcept ?_
    cases r with
    | error e => exact hError e _ hPast
    | ok v => exact h v s₁ hPast hEnv (hValue v rfl)

/-- One quiet operation is quiet. -/
theorem only_ask {o : SolOp} (h : Quiet o) : (ask o).Only Quiet :=
  Routine.Only.bind (Routine.only_call h) fun _ => Routine.only_ofExcept

/-- A check asks nothing. -/
theorem only_checked {α : Type} {x : Except String α} : (checked x).Only Quiet :=
  Routine.only_ofExcept

variable {rail : SolHtlcRail}

/-- Asserting the chain is quiet. -/
theorem only_assertPinnedChain : (assertPinnedChain rail).Only Quiet :=
  Routine.Only.bind (only_ask trivial) fun _ => only_checked

/-- Reading the chain's time is quiet. -/
theorem only_chainTimeMs : (chainTimeMs rail).Only Quiet := by
  refine Routine.Only.bind (only_ask trivial) fun _ => ?_
  refine Routine.Only.bind (only_ask trivial) fun _ => ?_
  refine Routine.Only.bind only_checked fun _ => Routine.Only.bind only_checked fun _ => ?_
  exact Routine.only_pure

/-- Proving the preimage public is quiet. -/
theorem only_provePublic {ref preimage : String} {options : SolClaimOptions} :
    (provePublic ref preimage options).Only Quiet := by
  unfold provePublic
  split
  · split
    · exact Routine.Only.bind Routine.only_pure fun _ => only_checked
    · exact Routine.Only.bind (only_ask trivial) fun _ => only_checked
  · exact Routine.only_pure

/-- Reading the fees is quiet. -/
theorem only_budgetInstructions {limit attempt : Nat} {writable : List (List UInt8)} :
    (budgetInstructions limit writable attempt).Only Quiet := by
  refine Routine.Only.bind only_checked fun _ => Routine.Only.bind ?_ fun _ => ?_
  · exact Routine.Only.orElse (only_ask trivial) fun _ => Routine.only_pure
  · refine Routine.Only.bind only_checked fun _ => Routine.Only.bind only_checked fun _ => ?_
    exact Routine.only_pure

/-- Building a claim is quiet. -/
theorem only_claimInstructions {claimable : Claimable} {preimage : List UInt8}
    {options : SolClaimOptions} :
    (claimInstructions rail claimable preimage options).Only Quiet := by
  refine Routine.Only.bind only_checked fun _ => Routine.Only.bind only_checked fun _ => ?_
  refine Routine.Only.bind only_checked fun _ => ?_
  refine Routine.Only.bind only_budgetInstructions fun _ => ?_
  refine Routine.Only.bind only_checked fun _ => Routine.Only.bind only_checked fun _ => ?_
  exact Routine.only_pure

/-- A simulation is quiet. -/
theorem only_simulateOrThrow {tx : SolTransaction} : (simulateOrThrow tx).Only Quiet :=
  Routine.Only.bind (only_ask trivial) fun _ => Routine.only_ofExcept

/-! ## What each part finds out -/

/-- A finalized read that answers has a slot of the past. -/
theorem ask_readFinalized_meets {keys : List String} {minContextSlot : Option Nat}
    {Q : Except SolError FinalizedRead → NodeState → Prop} {s : NodeState} (hs : Past start born s)
    (hError : ∀ e s₁, Past start born s₁ → Q (.error e) s₁)
    (h : ∀ read s₁, Past start born s₁ → (∀ account view,
      read.accounts.head? = some (some account) → decodeEscrow account.data = .ok view →
        view.refundAfterMs = c.refundAfterMs) → Q (.ok read) s₁) :
    Runs c margin prompt (ask (.readFinalized keys minContextSlot)) Q s :=
  ask_meets hs trivial hError fun read s₁ hs₁ _ hRead => h read s₁ hs₁ hRead

/-- A pure step: the rest goes on from the same state. -/
theorem checked_meets {α β : Type} {x : Except String α} {f : α → SolRoutine β}
    {Q : Except SolError β → NodeState → Prop} {s : NodeState} (hError : ∀ e, Q (.error e) s)
    (h : ∀ a, x = .ok a → Runs c margin prompt (f a) Q s) :
    Runs c margin prompt (checked x >>= f) Q s := by
  refine Routine.Meets.bind (Routine.meets_ofExcept ?_)
  cases x with
  | error e => exact hError _
  | ok a => exact h a rfl

/-- A quiet step: the rest goes on from a later state. -/
theorem quiet_bind_meets {α β : Type} {t : SolRoutine α} {f : α → SolRoutine β}
    {Q : Except SolError β → NodeState → Prop} {s : NodeState} (hQuiet : t.Only Quiet)
    (hs : Past start born s) (hError : ∀ e s₁, Past start born s₁ → Q (.error e) s₁)
    (h : ∀ a s₁, Past start born s₁ → Runs c margin prompt (f a) Q s₁) :
    Runs c margin prompt (t >>= f) Q s := by
  refine Routine.Meets.bind ((quiet_meets hQuiet hs).mono fun x s₁ hs₁ => ?_)
  cases x with
  | error e => exact hError e s₁ hs₁
  | ok a => exact h a s₁ hs₁

/-- An escrow is viewed where an account decodes. -/
theorem viewEscrow_some {account : Option WireAccount} {ref : Desk.SolRef} {view : SolEscrowView}
    (h : viewEscrow rail account ref = .ok (some view)) :
    ∃ found, account = some found ∧ decodeEscrow found.data = .ok view := by
  unfold viewEscrow at h
  split at h
  · cases h
  · split at h
    · cases h
    · simp only [Check.bind_eq_ok, require_eq_ok, exists_const] at h
      obtain ⟨found, hFound, -, hView⟩ := h
      obtain rfl := Option.some.inj (Except.ok.inj hView)
      exact ⟨_, rfl, hFound⟩

/-- The escrow that is read is the one that the cluster refunds. -/
theorem readClaimable_meets {ref : Desk.SolRef} {s : NodeState} (hs : Past start born s) :
    Runs c margin prompt (readClaimable rail ref) (fun x s₁ => Past start born s₁ ∧
      ∀ claimable, x = .ok claimable → claimable.view.refundAfterMs = c.refundAfterMs) s := by
  -- every failure leaves the time as it is and returns nothing
  have hFail : ∀ (e : SolError) (s₁ : NodeState), Past start born s₁ → Past start born s₁ ∧
      ∀ claimable, (.error e : Except SolError Claimable) = .ok claimable →
        claimable.view.refundAfterMs = c.refundAfterMs := fun e s₁ hs₁ => ⟨hs₁, nofun⟩
  refine checked_meets (fun e => hFail e _ hs) fun escrow _ => ?_
  refine checked_meets (fun e => hFail e _ hs) fun vault _ => ?_
  refine Routine.Meets.bind (ask_readFinalized_meets hs hFail ?_)
  intro first s₁ hs₁ hFirst
  refine checked_meets (fun e => hFail e _ hs₁) fun found hFound => ?_
  refine checked_meets (fun e => hFail e _ hs₁) fun view hView => ?_
  obtain ⟨rfl, -⟩ := Option.filter_eq_some_iff.mp (need_eq_ok.mp hView)
  obtain ⟨account, hAccount, hDecoded⟩ := viewEscrow_some hFound
  -- the escrow that was read is the first account of the finalized read
  have hHead : first.accounts.head? = some (some account) := by
    cases hAccounts : first.accounts.head? with
    | none => rw [hAccounts] at hAccount; cases hAccount
    | some head => rw [hAccounts] at hAccount; exact congrArg some hAccount
  have hRefund : view.refundAfterMs = c.refundAfterMs := hFirst account view hHead hDecoded
  refine checked_meets (fun e => hFail e _ hs₁) fun _ _ => ?_
  refine checked_meets (fun e => hFail e _ hs₁) fun mint _ => ?_
  refine checked_meets (fun e => hFail e _ hs₁) fun payee _ => ?_
  refine checked_meets (fun e => hFail e _ hs₁) fun payeeToken _ => ?_
  refine quiet_bind_meets (only_ask trivial) hs₁ hFail ?_
  -- what follows reads the tokens and changes nothing of it
  intro second s₂ hs₂
  refine checked_meets (fun e => hFail e _ hs₂) fun held _ => ?_
  refine checked_meets (fun e => hFail e _ hs₂) fun amount _ => ?_
  refine checked_meets (fun e => hFail e _ hs₂) fun _ _ => ?_
  have hEnd : Past start born s₂ ∧ ∀ claimable,
      (.ok ⟨view, escrow, vault, mint, payee, payeeToken⟩ : Except SolError Claimable) =
        .ok claimable → claimable.view.refundAfterMs = c.refundAfterMs := by
    refine ⟨hs₂, ?_⟩
    rintro _ ⟨⟩
    exact hRefund
  extract_lets payeeAccount
  split
  · exact checked_meets (fun e => hFail e _ hs₂) fun _ _ => Routine.meets_pure hEnd
  · exact Routine.meets_pure hEnd

/-- The time is not behind a block that the chain has come to. -/
theorem nowMs_meets {s : NodeState} (hs : Past start born s) :
    Runs c margin prompt (nowMs rail) (fun x s₁ => Past start born s₁ ∧
      ∀ now, x = .ok now → s₁.asked ≤ now ∧
        ∃ tip, start ≤ tip ∧ born ≤ tip ∧ c.time tip ≤ now) s := by
  refine quiet_bind_meets only_chainTimeMs hs (fun e s₁ hs₁ => ⟨hs₁, nofun⟩) ?_
  intro chainTime s₁ hs₁
  refine Routine.Meets.bind (ask_meets hs₁ trivial (fun e s₂ hs₂ => ⟨hs₂, nofun⟩) ?_)
  intro now s₂ hs₂ hPasses hNow
  obtain rfl : now = s₂.clock := hNow
  refine Routine.meets_pure ⟨hs₂, ?_⟩
  rintro _ ⟨⟩
  have hTip : start ≤ s₂.processed :=
    hs₂.1.trans (hPasses.finalized_le.trans hPasses.confirmed_le)
  exact ⟨le_max_right _ _, s₂.processed, hTip, hs₂.2, hPasses.clock.trans (le_max_right _ _)⟩

/-- What is known of the block that a plan names. -/
def PlanFrom (c : Cluster) (plan : BlockhashPlan) (born : Nat) : Prop :=
  c.heightOf (base58Decode plan.blockhash.toList) = some born ∧
    born + SOL_BLOCKHASH_VALIDITY_BLOCKS ≤ plan.lastValidBlockHeight

/-- A plan is made from a blockhash born in the past. -/
theorem blockhashPlan_meets {s : NodeState} (hs : Past start 0 s) :
    Runs c margin prompt blockhashPlan (fun x s₁ => Past start 0 s₁ ∧
      ∀ plan, x = .ok plan → ∃ born, PlanFrom c plan born ∧ Past start born s₁) s := by
  refine Routine.Meets.bind (ask_meets hs trivial (fun e s₁ hs₁ => ⟨hs₁, nofun⟩) ?_)
  intro latest s₁ hs₁ hPasses hLatest
  obtain ⟨born, hConfirmed, hNamed, hLast⟩ := hLatest
  -- the chain is past the block that the blockhash names, from here on
  have hBorn : ∀ asked, Past start born { s₁ with asked := asked } :=
    fun _ => ⟨hs₁.1, hConfirmed.trans hPasses.confirmed_le⟩
  have hZero : ∀ s, Past start born s → Past start 0 s := fun s h => ⟨h.1, Nat.zero_le _⟩
  refine quiet_bind_meets (only_ask trivial) (hBorn _) (fun e s₂ hs₂ => ⟨hZero _ hs₂, nofun⟩) ?_
  intro finalizedHeight s₂ hs₂
  refine quiet_bind_meets (only_ask trivial) hs₂ (fun e s₃ hs₃ => ⟨hZero _ hs₃, nofun⟩) ?_
  intro processedHeight s₃ hs₃
  refine Routine.meets_pure ⟨hZero _ hs₃, ?_⟩
  rintro _ ⟨⟩
  exact ⟨born, ⟨hNamed, hLast ▸ le_max_left _ _⟩, hs₃⟩

/-- Once the last guard has let a plan pass, its blockhash expires before the refund. -/
theorem claimGuard_meets {plan : BlockhashPlan} {notAfterMs : ℚ} {s : NodeState}
    (hSlow : NoSlowerThan c rail.slowBlockMs start)
    (hMargin : SOL_BLOCKHASH_VALIDITY_BLOCKS * rail.slowBlockMs ≤ SOL_CLAIM_LANDING_MARGIN_MS ∨
      prompt = true)
    (hDeadline : notAfterMs ≤ c.refundAfterMs - SOL_CLAIM_LANDING_MARGIN_MS)
    (hPlan : PlanFrom c plan born) (hs : Past start born s) :
    Runs c rail.expiryMarginMs prompt (claimGuard rail plan notAfterMs c.refundAfterMs false)
      (fun x s₁ => Past start born s₁ ∧
        (x = .ok () → c.time (born + SOL_BLOCKHASH_VALIDITY_BLOCKS) < c.refundAfterMs)) s := by
  have hSlowPos : (0 : ℚ) ≤ rail.slowBlockMs := zero_le_one.trans rail.slowBlockMs_ge
  -- the guard reads the clock, then the height
  refine Routine.Meets.bind ((nowMs_meets hs).mono fun x s₁ hx => ?_)
  obtain ⟨hs₁, hNow⟩ := hx
  cases x with
  | error e => exact ⟨hs₁, nofun⟩
  | ok now =>
    obtain ⟨hAsked, tip, hTip, hBornTip, hTipTime⟩ := hNow now rfl
    refine checked_meets (fun e => ⟨hs₁, nofun⟩) fun _ hBefore => ?_
    have hBefore := require_eq_ok.mp hBefore
    refine Routine.Meets.bind (ask_meets hs₁ trivial (fun e s₂ hs₂ => ⟨hs₂, nofun⟩) ?_)
    intro height s₂ hs₂ hPasses hHeight
    obtain ⟨rfl, hPrompt⟩ := hHeight
    refine Routine.meets_ofExcept ⟨hs₂, fun hLatest => ?_⟩
    have hLatest := require_eq_ok.mp hLatest
    rcases hMargin with hMargin | hMargin
    · -- the deadline leaves the whole life of a blockhash, counted from the clock read
      have hRange : c.time (born + SOL_BLOCKHASH_VALIDITY_BLOCKS) ≤ _ := hSlow.time_le hTip
      have hBlocks : ((born + SOL_BLOCKHASH_VALIDITY_BLOCKS - tip : Nat) : ℚ) ≤
          SOL_BLOCKHASH_VALIDITY_BLOCKS := by
        exact_mod_cast (by omega : born + SOL_BLOCKHASH_VALIDITY_BLOCKS - tip ≤
          SOL_BLOCKHASH_VALIDITY_BLOCKS)
      have hLife := mul_le_mul_of_nonneg_right hBlocks hSlowPos
      linarith
    · -- the blocks that remain are counted from a block that is not past the margin
      have hRange : c.time (born + SOL_BLOCKHASH_VALIDITY_BLOCKS) ≤ _ := hSlow.time_le hs₂.1
      have hBlocks : ((born + SOL_BLOCKHASH_VALIDITY_BLOCKS - s₂.finalized : Nat) : ℚ) ≤
          (plan.lastValidBlockHeight - s₂.finalized : Nat) := by
        exact_mod_cast Nat.sub_le_sub_right hPlan.2 _
      have hLife := mul_le_mul_of_nonneg_right hBlocks hSlowPos
      have hClose := hPrompt hMargin
      rw [hPasses.asked] at hClose
      -- the refund time is so far behind the deadline, and the deadline is checked first
      unfold latestLandingMs at hLatest
      linarith

/-! ## The claim -/

/-- A key that is read is the decoded text. -/
theorem pubkeyFromBase58_ok {text : String} {key : List UInt8}
    (h : pubkeyFromBase58 text = .ok key) : key = base58Decode text.toList := by
  unfold pubkeyFromBase58 at h
  split at h
  · exact (Except.ok.inj h).symm
  · cases h

/-- What is signed carries the plan's blockhash and the plan's guard. -/
theorem buildAndSign_meets {kind : SolWriteKind} {ref : String} {instructions : List SolInstruction}
    {plan : BlockhashPlan} {guard : SolRoutine Unit} {onNotBroadcast : Bool} {s : NodeState}
    (hs : Past start born s) :
    Runs c margin prompt (buildAndSign rail kind ref instructions plan guard onNotBroadcast)
      (fun x s₁ => Past start born s₁ ∧ ∀ prepared, x = .ok prepared →
        prepared.tx.message.recentBlockhash = base58Decode plan.blockhash.toList ∧
          prepared.guard = guard) s := by
  refine checked_meets (fun e => ⟨hs, nofun⟩) fun feePayer _ => ?_
  refine checked_meets (fun e => ⟨hs, nofun⟩) fun recentBlockhash hBlockhash => ?_
  refine quiet_bind_meets (only_ask trivial) hs (fun e s₁ hs₁ => ⟨hs₁, nofun⟩) ?_
  intro signature s₁ hs₁
  refine Routine.meets_pure ⟨hs₁, ?_⟩
  rintro _ ⟨⟩
  exact ⟨pubkeyFromBase58_ok hBlockhash, rfl⟩

/-- Nothing is sent when a failure is told of, and the failure stands. -/
theorem reportFailure_meets {prepared : SolPreparedWrite} {handed : Bool} {error : SolError}
    {Q : Except SolError Unit → NodeState → Prop} {s : NodeState} (hs : Past start born s)
    (hError : ∀ e s₁, Past start born s₁ → Q (.error e) s₁) :
    Runs c margin prompt (reportFailure prepared handed error) Q s := by
  unfold reportFailure
  extract_lets preflight
  split
  · exact quiet_bind_meets (only_ask trivial) hs hError fun _ s₁ hs₁ => .fail (hError _ s₁ hs₁)
  · exact .fail (hError _ s hs)

/-- A write is sent after its guard has let it pass, and only then. -/
theorem sendPrepared_meets {prepared : SolPreparedWrite} {s : NodeState} (hs : Past start born s)
    (hGuard : ∀ s₁, Past start born s₁ → Runs c margin prompt prepared.guard
      (fun x s₂ => Past start born s₂ ∧ (x = .ok () → ∀ height,
        MayExecuteAt c prepared.tx height → c.time height < c.refundAfterMs)) s₁) :
    Runs c margin prompt (sendPrepared rail prepared) (fun _ _ => True) s := by
  -- the chain, then the simulation, then the guard; a failure of any is only reported
  refine quiet_bind_meets only_assertPinnedChain hs (fun _ _ _ => trivial) fun _ s₁ hs₁ => ?_
  refine Routine.Meets.bind (Routine.Meets.orElse ?_)
  refine quiet_bind_meets only_simulateOrThrow hs₁
    (fun e s₂ hs₂ => reportFailure_meets hs₂ fun _ _ _ => trivial) fun _ s₂ hs₂ => ?_
  refine (hGuard s₂ hs₂).mono fun x s₃ hx => ?_
  cases x with
  | error e => exact reportFailure_meets hx.1 fun _ _ _ => trivial
  | ok _ =>
    have hInTime := hx.2 rfl
    refine Routine.Meets.orElse (Routine.Meets.bind (Routine.Meets.bind
      (Routine.Meets.call fun s₄ hEnv r s₅ hAct => ⟨?_, ?_⟩)))
    · -- the one send of the whole claim
      rintro tx ⟨⟩
      exact hInTime
    have hs₅ : Past start born s₅ := (hx.1.passes hEnv).truthful hAct
    refine Routine.meets_ofExcept ?_
    cases r with
    | error e => exact reportFailure_meets hs₅ fun _ _ _ => trivial
    | ok reported =>
      refine checked_meets (fun e => reportFailure_meets hs₅ fun _ _ _ => trivial) fun _ _ => ?_
      have hSettle : (ask (.settle prepared.record)).Only Quiet := only_ask trivial
      refine (quiet_meets hSettle hs₅).mono fun x s₆ hs₆ => ?_
      cases x with
      | error e => exact reportFailure_meets hs₆ fun _ _ _ => trivial
      | ok _ => trivial

/-- A claim sends nothing that may be executed once the lock can be refunded. -/
theorem claim_meets {ref preimage : String} {notAfterMs : ℚ} {options : SolClaimOptions}
    {s : NodeState} (hRetry : options.retryPublicSecret = false)
    (hSlow : NoSlowerThan c rail.slowBlockMs start)
    (hMargin : SOL_BLOCKHASH_VALIDITY_BLOCKS * rail.slowBlockMs ≤ SOL_CLAIM_LANDING_MARGIN_MS ∨
      prompt = true) (hs : Past start 0 s) :
    Runs c rail.expiryMarginMs prompt (claim rail ref preimage notAfterMs options)
      (fun _ _ => True) s := by
  have hAny : ∀ {born : Nat} (_ : SolError) (s₁ : NodeState), Past start born s₁ → True :=
    fun _ _ _ => trivial
  -- the checks of `claim`, in the order of the source
  refine checked_meets (fun _ => trivial) fun parsed _ => ?_
  refine checked_meets (fun _ => trivial) fun preimageBytes _ => ?_
  refine quiet_bind_meets only_assertPinnedChain hs hAny fun _ s₁ hs₁ => ?_
  refine Routine.Meets.bind ((readClaimable_meets hs₁).mono fun x s₂ hx => ?_)
  obtain ⟨hs₂, hClaimable⟩ := hx
  cases x with
  | error e => trivial
  | ok claimable =>
    have hRefund : (claimable.view.refundAfterMs : ℚ) = c.refundAfterMs := by
      rw [hClaimable claimable rfl]
    dsimp only
    rw [hRetry, hRefund]
    refine quiet_bind_meets only_provePublic hs₂ hAny fun _ s₃ hs₃ => ?_
    refine Routine.Meets.bind ((nowMs_meets hs₃).mono fun x s₄ hx => ?_)
    cases x with
    | error e => trivial
    | ok now =>
      refine checked_meets (fun _ => trivial) fun _ hWindow => ?_
      -- the window that was checked leaves the landing margin
      have hDeadline : notAfterMs ≤ c.refundAfterMs - SOL_CLAIM_LANDING_MARGIN_MS := by
        simp only [claimWindow, bind_eq_ok, require_eq_ok, exists_const] at hWindow
        simpa using hWindow.2
      refine Routine.Meets.bind ((blockhashPlan_meets hx.1).mono fun x s₅ hPlanned => ?_)
      cases x with
      | error e => trivial
      | ok plan =>
        obtain ⟨born, hPlan, hs₅⟩ := hPlanned.2 plan rfl
        refine quiet_bind_meets Routine.only_ofExcept hs₅ hAny fun _ s₆ hs₆ => ?_
        refine quiet_bind_meets only_claimInstructions hs₆ hAny fun instructions s₇ hs₇ => ?_
        refine Routine.Meets.bind ((buildAndSign_meets hs₇).mono fun x s₈ hSigned => ?_)
        cases x with
        | error e => trivial
        | ok prepared =>
          obtain ⟨hBlockhash, hGuard⟩ := hSigned.2 prepared rfl
          -- the guard runs right before the send, with the plan that the transaction was built on
          have hSend : ∀ s₉, Past start born s₉ → Runs c rail.expiryMarginMs prompt
              (sendPrepared rail prepared) (fun _ _ => True) s₉ := by
            intro s₉ hs₉
            refine sendPrepared_meets hs₉ fun s₁₀ hs₁₀ => ?_
            rw [hGuard]
            refine (claimGuard_meets hSlow hMargin hDeadline hPlan hs₁₀).mono fun x s hx => ?_
            refine ⟨hx.1, fun hPassed height hMay => ?_⟩
            obtain ⟨named, hNamed, hHeight⟩ := hMay
            rw [hBlockhash, hPlan.1] at hNamed
            obtain rfl := Option.some.inj hNamed
            exact (c.time_mono hHeight).trans_lt (hx.2 hPassed)
          dsimp only
          split
          · exact quiet_bind_meets (only_ask trivial) hSigned.1 hAny fun _ s₉ hs₉ => hSend s₉ hs₉
          · exact hSend s₈ hSigned.1

/-- **A fresh claim never executes late.** Whatever time passes between the rail's own calls, a
claim that is sent lands before the refund or its blockhash expires first: when a blockhash
lives no longer than the landing margin, or when no finalized height is read so late that the
chain has come past the margin since the clock was read. -/
theorem claim_never_late {ref preimage : String} {notAfterMs : ℚ} {options : SolClaimOptions}
    {s s₁ s₂ s₃ : NodeState} {tx : SolTransaction} {answer : SolOp.Answer (.sendTransaction tx)}
    {next : SolOp.Answer (.sendTransaction tx) → SolRoutine Unit}
    (hRetry : options.retryPublicSecret = false)
    (hSlow : NoSlowerThan c rail.slowBlockMs s.finalized)
    (hMargin : SOL_BLOCKHASH_VALIDITY_BLOCKS * rail.slowBlockMs ≤ SOL_CLAIM_LANDING_MARGIN_MS ∨
      prompt = true)
    (hReach : Routine.Reaches (Passes c) (Truthful c rail.expiryMarginMs prompt)
      (claim rail ref preimage notAfterMs options) s (.perform (.sendTransaction tx) next) s₁)
    (hPasses : Passes c s₁ s₂)
    (hSent : Truthful c rail.expiryMarginMs prompt (.sendTransaction tx) s₂ answer s₃)
    {height : Nat} (hMay : MayExecuteAt c tx height) : c.time height < c.refundAfterMs :=
  (claim_meets hRetry hSlow hMargin ⟨le_rfl, Nat.zero_le _⟩).allows hReach hPasses hSent
    tx rfl height hMay

/-! ## Sample claims

One escrow, on a cluster whose blocks all take the same time. -/

namespace ClaimSample

open SolSample (be zeros le key)

/-- 32 bytes with one that is not zero. -/
def small (n : UInt8) : List UInt8 := zeros 31 ++ [n]

def payer : List UInt8 := small 8
def payee : List UInt8 := small 4
def mint : List UInt8 := small 9
def program : List UInt8 := small 1
def blockhash : List UInt8 := small 7

def preimage : List UInt8 := List.replicate 32 5

def hash : List UInt8 := be 0xf849d67325facf04177bc663b2dc544051831c589ef581d412f2eba44834e77c

def escrow : List UInt8 := be 0xcf1584c30c1292d90d38ae7c72e1a8cf2f821a4313d01d6dbe02d76a0a976489
def vault : List UInt8 := be 0xe9f0c06644311987f828ae03621361e692303ae83fe37655d4dd4673f5fe7689
def payeeToken : List UInt8 :=
  be 0x710a79bd53193841f645a5897f6bb1ee238b47d52c9635531345bd243fe0784a

def hashes : List (List UInt8 × List UInt8) :=
  [(preimage, hash),
   (ascii "htlc" ++ payer ++ hash ++ [255] ++ program ++ PDA_MARKER, escrow),
   (ascii "vault" ++ escrow ++ [255] ++ program ++ PDA_MARKER, vault),
   (payee ++ be 0x06ddf6e1d765a193d9cbe146ceeb79ac1cb485ed5f5b37913a8cf5857eff00a9 ++ mint ++
     [255] ++ be 0x8c97258f4e2489f1bb3d1029148e0d830b5a1399daff1084048e7bd8dbe9f859 ++
     PDA_MARKER, payeeToken)]

def runtime : SolRuntime where
  toRuntime := textRuntime (fun text => text)
    fun bytes => (hashes.lookup bytes).getD []
  base64Decode _ := none
  decompresses _ := false

/-- The rail, with this estimate of a slow block. -/
def solRail (slow : ℚ) (h : 1 ≤ slow) : SolHtlcRail where
  rt := runtime
  config := ⟨SOL_LOCAL_PIN, "http://rpc", key program, "", ⟨key mint⟩⟩
  signerPublicKey := key payee
  slowBlockMs := slow
  expiryMarginMs := SOL_EXPIRY_MARGIN_MS
  slowBlockMs_ge := h
  expiryMarginMs_ge := by decide
  numberText q := toString q.num

def options : SolClaimOptions := ⟨false, none, 0, false, false⟩

def ref : String := String.ofList ('0' :: 'x' :: Hex.encode hash ++ ':' :: base58Encode payer)

def sampleClaim (slow : ℚ) (h : 1 ≤ slow) : SolRoutine Unit :=
  claim (solRail slow h) ref ("0x" ++ bytesToHex preimage) 880000 options

def refundAfterMs : Nat := 1000000

/-- Every block takes `ms`, and the blockhash that is handed out names the block at `born`. -/
def cluster (ms : Nat) (born : Nat) : Cluster where
  time height := (ms : ℚ) * height
  time_mono _ _ h := by
    have hCast := Nat.mul_le_mul_left ms h
    show (ms : ℚ) * _ ≤ ms * _
    exact_mod_cast hCast
  slotOf height := height
  heightOf bytes := if bytes = blockhash then some born else none
  refundAfterMs := refundAfterMs

def escrowData : List UInt8 :=
  [1, 1, 0, 255] ++ payer ++ payee ++ mint ++ hash ++ le 8 5 ++ le 8 900000 ++
    le 8 refundAfterMs ++ zeros 32

def tokenData : List UInt8 :=
  mint ++ escrow ++ le 8 5 ++ zeros 36 ++ [1] ++ zeros 12 ++ zeros 8 ++ zeros 36

/-- The state of a node at a height, the last 32 blocks not final yet. -/
def stateAt (ms height : Nat) (asked : ℚ) : NodeState :=
  ⟨height, height, height - 32, ms * height, asked⟩

/-- What the node and the clock answer. -/
def value (ms born : Nat) (s : NodeState) : (o : SolOp) → o.Answer
  | .getGenesisHash => .ok "genesis"
  | .readFinalized _ none => .ok ⟨1, [some ⟨.int 1, key program, escrowData, false⟩]⟩
  | .readFinalized _ (some _) => .ok ⟨1, [some ⟨.int 1, TOKEN_PROGRAM_ID, tokenData, false⟩, none]⟩
  | .getSlot => .ok s.finalized
  | .getBlockTime slot => .ok (some (ms * slot / 1000))
  | .clock => .ok s.clock
  | .getLatestBlockhash =>
    if born ≤ s.confirmed then
      .ok ⟨key blockhash, born + SOL_BLOCKHASH_VALIDITY_BLOCKS, s.confirmed⟩
    else .error (.plain "sol-rpc: no confirmed block")
  | .getBlockHeight .processed => .ok s.processed
  | .getBlockHeight .confirmed => .ok s.confirmed
  | .getBlockHeight .finalized => .ok s.finalized
  | .getRecentPrioritizationFees _ => .ok []
  | .awaitPreimageFromSignature _ _ => .ok none
  | .sign _ => .ok "signature"
  | .onSigned _ => .ok ()
  | .onNotBroadcast _ => .ok ()
  | .simulateTransaction _ => .ok none
  | .sendTransaction _ => .ok "signature"
  | .settle _ => .ok ()

def answer (ms born : Nat) (o : SolOp) (s : NodeState) : o.Answer × NodeState :=
  (value ms born s o, { s with asked := if o = .clock then s.clock else s.asked })

/-- The sample's escrow decodes, its token account does not. -/
theorem decodes : (decodeEscrow escrowData).map (·.refundAfterMs) = .ok refundAfterMs ∧
    (decodeEscrow tokenData).isOk = false := by
  decide +kernel

variable {ms born : Nat}

/-- The sample cluster answers truthfully. -/
theorem truthful (margin : ℚ) (o : SolOp) (s : NodeState) :
    Truthful (cluster ms born) margin false o s (answer ms born o s).1 (answer ms born o s).2 := by
  refine ⟨fun v hv => ?_, rfl⟩
  obtain ⟨hEscrow, hToken⟩ := decodes
  -- by the operation that is answered
  cases o with
  | readFinalized keys minContextSlot =>
    cases minContextSlot with
    | none =>
      obtain rfl := Except.ok.inj hv
      rintro _ view ⟨⟩ hDecoded
      rw [hDecoded] at hEscrow
      exact Except.ok.inj hEscrow
    | some slot =>
      obtain rfl := Except.ok.inj hv
      rintro _ view ⟨⟩ hDecoded
      rw [hDecoded] at hToken
      cases hToken
  | getSlot => exact (Except.ok.inj hv).symm
  | getBlockTime slot =>
    obtain rfl := Except.ok.inj hv
    rintro height - hSlot
    obtain rfl : slot = height := hSlot
    have hFloor := Rat.floor_intCast_div_natCast (ms * slot) 1000
    push_cast at hFloor
    exact congrArg some hFloor.symm
  | clock => exact (Except.ok.inj hv).symm
  | getLatestBlockhash =>
    have hAnswer : (if born ≤ s.confirmed then
        (.ok ⟨key blockhash, born + SOL_BLOCKHASH_VALIDITY_BLOCKS, s.confirmed⟩ :
          Except SolError LatestBlockhash)
      else .error (.plain "sol-rpc: no confirmed block")) = .ok v := hv
    split at hAnswer
    · obtain rfl := Except.ok.inj hAnswer
      refine ⟨born, ‹_›, ?_, rfl⟩
      have hKey : base58Decode (key blockhash).toList = blockhash := by decide
      rw [hKey]
      show (if blockhash = blockhash then some born else none) = some born
      exact if_pos rfl
    · cases hAnswer
  | getBlockHeight commitment =>
    cases commitment with
    | processed => exact (Except.ok.inj hv).symm
    | confirmed => exact (Except.ok.inj hv).symm
    | finalized => exact ⟨(Except.ok.inj hv).symm, nofun⟩
  | _ => trivial

/-- A node whose heights are in order, with a clock that is not behind it. -/
structure Sound (ms : Nat) (s : NodeState) : Prop where
  finalized_le : s.finalized ≤ s.confirmed
  confirmed_le : s.confirmed ≤ s.processed
  clock : (ms * s.processed : ℚ) ≤ s.clock

/-- Nothing happening is time passing. -/
theorem Sound.passes {s : NodeState} (h : Sound ms s) : Passes (cluster ms born) s s :=
  ⟨le_rfl, le_rfl, le_rfl, h.finalized_le, h.confirmed_le, h.clock, rfl⟩

/-- A sound sample state stays sound over every answer. -/
theorem Sound.answered {o : SolOp} {s : NodeState} (h : Sound ms s) :
    Sound ms (answer ms born o s).2 := ⟨h.finalized_le, h.confirmed_le, h.clock⟩

/-- The chain grows up to a height that no commitment was past. -/
theorem Sound.grows {s : NodeState} (h : Sound ms s) {height : Nat}
    (hHeight : s.processed + 32 ≤ height) :
    Passes (cluster ms born) s (stateAt ms height s.asked) := by
  have hFinalized := h.finalized_le
  have hConfirmed := h.confirmed_le
  exact ⟨by show s.processed ≤ height; omega, by show s.confirmed ≤ height; omega,
    by show s.finalized ≤ height - 32; omega, by show height - 32 ≤ height; omega, le_rfl, le_rfl,
    rfl⟩

/-- The sample's states are sound. -/
theorem sound_stateAt (height : Nat) (asked : ℚ) : Sound ms (stateAt ms height asked) :=
  ⟨Nat.sub_le _ _, le_rfl, le_rfl⟩

def stop : SolOp → Bool
  | .sendTransaction _ => true
  | _ => false

def sent? : SolRoutine Unit → Option SolTransaction
  | .perform (.sendTransaction tx) _ => some tx
  | _ => none

/-- A transaction is about to be sent where a routine asks for it. -/
theorem sent?_eq_some {t : SolRoutine Unit} {tx : SolTransaction} (h : sent? t = some tx) :
    ∃ next, t = .perform (.sendTransaction tx) next := by
  unfold sent? at h
  split at h
  · obtain rfl := Option.some.inj h
    exact ⟨_, rfl⟩
  · cases h

def steady (_ : SolOp) (s : NodeState) : NodeState := s

/-- 92 blocks go by before the blockhash is handed out, and as many again between the last read of
the clock and that of the height. -/
def delayed (o : SolOp) (s : NodeState) : NodeState :=
  match o with
  | .getLatestBlockhash => if s.processed = 787 then stateAt 1000 879 s.asked else s
  | .getBlockHeight .finalized =>
    if s.processed = 879 ∧ s.asked = 879000 then stateAt 1000 971 s.asked else s
  | _ => s

/-- What two claims send: one without any delay, and one with blocks of a second each. -/
theorem sends : (sent? (Routine.advance steady (answer 600 787) stop
      (sampleClaim SOL_SLOW_BLOCK_MS (by decide))
      (stateAt 600 787 0)).1).map (·.message.recentBlockhash) = some blockhash ∧
    (sent? (Routine.advance delayed (answer 1000 879) stop
      (sampleClaim 1000 (by decide))
      (stateAt 1000 787 0)).1).map (·.message.recentBlockhash) = some blockhash := by
  decide +kernel

/-- A sample claim comes to its send. -/
theorem reaches_send {wait : SolOp → NodeState → NodeState} {slow : ℚ} {hSlow : 1 ≤ slow}
    {height : Nat} {tx : SolTransaction}
    (hWait : ∀ o s, Sound ms s → Passes (cluster ms born) s (wait o s) ∧ Sound ms (wait o s))
    (hSent : sent? (Routine.advance wait (answer ms born) stop (sampleClaim slow hSlow)
      (stateAt ms height 0)).1 = some tx) :
    ∃ next s, Routine.Reaches (Passes (cluster ms born))
      (Truthful (cluster ms born) SOL_EXPIRY_MARGIN_MS false) (sampleClaim slow hSlow)
      (stateAt ms height 0) (.perform (.sendTransaction tx) next) s ∧ Sound ms s := by
  obtain ⟨next, hNext⟩ := sent?_eq_some hSent
  have hAnswer : ∀ o s, Sound ms s →
      Truthful (cluster ms born) SOL_EXPIRY_MARGIN_MS false o (wait o s)
          (answer ms born o (wait o s)).1 (answer ms born o (wait o s)).2 ∧
        Sound ms (answer ms born o (wait o s)).2 :=
    fun o s hs => ⟨truthful SOL_EXPIRY_MARGIN_MS o (wait o s), (hWait o s hs).2.answered⟩
  have hReach := @Routine.reaches_advance _ _ _ _ _ _ _ _ _ stop _ (fun o s hs => (hWait o s hs).1)
    hAnswer (sampleClaim slow hSlow) _ _ _ (sound_stateAt height 0) .refl
  rw [hNext] at hReach
  exact ⟨next, _, hReach⟩

/-- A steady cluster stays sound. -/
theorem steady_sound (o : SolOp) (s : NodeState) (h : Sound ms s) :
    Passes (cluster ms born) s (steady o s) ∧ Sound ms (steady o s) := ⟨h.passes, h⟩

/-- A cluster with a delayed answer stays sound. -/
theorem delayed_sound (o : SolOp) (s : NodeState) (h : Sound 1000 s) :
    Passes (cluster 1000 born) s (delayed o s) ∧ Sound 1000 (delayed o s) := by
  unfold delayed
  split
  · split
    · exact ⟨h.grows (by omega), sound_stateAt 879 s.asked⟩
    · exact ⟨h.passes, h⟩
  · split
    · exact ⟨h.grows (by omega), sound_stateAt 971 s.asked⟩
    · exact ⟨h.passes, h⟩
  · exact ⟨h.passes, h⟩

/-- No block takes longer than the estimate. -/
theorem noSlowerThan (start : Nat) : NoSlowerThan (cluster ms born) ms start := by
  intro height _
  show (ms : ℚ) * (height + 1 : Nat) ≤ ms * height + ms
  push_cast
  linarith

/-- A sample transaction may execute until its blockhash expires. -/
theorem mayExecuteAt {tx : SolTransaction} (h : tx.message.recentBlockhash = blockhash) :
    MayExecuteAt (cluster ms born) tx (born + SOL_BLOCKHASH_VALIDITY_BLOCKS) := by
  refine ⟨born, ?_, le_rfl⟩
  rw [h]
  show (if blockhash = blockhash then some born else none) = some born
  exact if_pos rfl

end ClaimSample

theorem claim_never_late_sample : ∃ tx : SolTransaction,
    MayExecuteAt (ClaimSample.cluster 600 787) tx 937 ∧
      (ClaimSample.cluster 600 787).time 937 < (ClaimSample.cluster 600 787).refundAfterMs := by
  obtain ⟨tx, hSent, hBlockhash⟩ := Option.map_eq_some_iff.mp ClaimSample.sends.1
  obtain ⟨next, s, hReach, hs⟩ := ClaimSample.reaches_send ClaimSample.steady_sound hSent
  have hMay : MayExecuteAt (ClaimSample.cluster 600 787) tx 937 :=
    ClaimSample.mayExecuteAt hBlockhash
  have hMargin :
      SOL_BLOCKHASH_VALIDITY_BLOCKS * SOL_SLOW_BLOCK_MS ≤ SOL_CLAIM_LANDING_MARGIN_MS := by
    decide +kernel
  have hSlow : NoSlowerThan (ClaimSample.cluster 600 787) SOL_SLOW_BLOCK_MS 755 :=
    ClaimSample.noSlowerThan 755
  exact ⟨tx, hMay, @claim_never_late _ _ (ClaimSample.solRail _ _) _ _ _ _ _ _ _ _ _ _ _ rfl hSlow
    (.inl hMargin) hReach hs.passes
    (ClaimSample.truthful SOL_EXPIRY_MARGIN_MS (.sendTransaction tx) s) _ hMay⟩

/-- With blocks of a second the landing margin is shorter than the life of a blockhash: a claim
that was delayed before each of its height reads may be executed 29 seconds after the lock can be
refunded. -/
theorem claim_late_under_slow_blocks : ¬ ∀ (c : Cluster) (rail : SolHtlcRail)
    (ref preimage : String) (notAfterMs : ℚ) (options : SolClaimOptions) (s s₁ s₂ s₃ : NodeState) (tx : SolTransaction)
    (answer : SolOp.Answer (.sendTransaction tx))
    (next : SolOp.Answer (.sendTransaction tx) → SolRoutine Unit),
    options.retryPublicSecret = false → NoSlowerThan c rail.slowBlockMs s.finalized →
      Routine.Reaches (Passes c) (Truthful c rail.expiryMarginMs false)
        (claim rail ref preimage notAfterMs options) s (.perform (.sendTransaction tx) next) s₁ →
      Passes c s₁ s₂ →
      Truthful c rail.expiryMarginMs false (.sendTransaction tx) s₂ answer s₃ →
        ∀ height, MayExecuteAt c tx height → c.time height < c.refundAfterMs := by
  intro h
  obtain ⟨tx, hSent, hBlockhash⟩ := Option.map_eq_some_iff.mp ClaimSample.sends.2
  obtain ⟨next, s, hReach, hs⟩ := ClaimSample.reaches_send ClaimSample.delayed_sound hSent
  have hSlow : NoSlowerThan (ClaimSample.cluster 1000 879) 1000 755 := ClaimSample.noSlowerThan 755
  have hEarly := h (ClaimSample.cluster 1000 879) (ClaimSample.solRail 1000 (by decide)) _ _ _
    ClaimSample.options (ClaimSample.stateAt 1000 787 0) s s _ tx _ next rfl hSlow hReach hs.passes
    (ClaimSample.truthful SOL_EXPIRY_MARGIN_MS (.sendTransaction tx) s) 1029
    (ClaimSample.mayExecuteAt hBlockhash)
  exact absurd hEarly (by decide +kernel)

end SwapDesk.Rails.Sol
