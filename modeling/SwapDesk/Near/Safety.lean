import SwapDesk.Near.History

/-!
# SwapDesk — what the NEAR contract guarantees

The two promises the contract makes to the parties of a swap, over every run of
the machine of `SwapDesk.Near.System`:

* `payoutSafety_of_reachable`: a lock is paid out at most once, in full and to
  the right party, a promise is in flight exactly while the lock says so, and
  the contract holds what it owes;
* `secretExclusion_of_reachable`: a secret once out excludes every refund, the
  first claim comes before the deadline and every refund after it.
-/

namespace SwapDesk.Near

/-! ## A sample run

A payer locks 5 tokens under the hash of 32 zero bytes, the payee claims, the
first transfer fails, and the second claim comes after the deadline. -/

namespace Sample

def account (text : String) (h : ':' ∉ text.toList := by decide) : AccountId := ⟨text, h⟩

def alice : AccountId := account "alice.testnet"
def bob : AccountId := account "bob.testnet"
def usdc : AccountId := account "usdc.testnet"
def htlc : AccountId := account "htlc.testnet"

def secretHex : String := "0000000000000000000000000000000000000000000000000000000000000000"
def hashLock : String := "66687aadf862bd776c8fc18b8e9f8e20089714856ee233b3902a591d0d5f2925"
def lockMsg : String :=
  "\x7b\"hash_lock\":\"66687aadf862bd776c8fc18b8e9f8e20089714856ee233b3902a591d0d5f2925\"," ++
  "\"payee\":\"bob.testnet\",\"claim_by_ms\":\"1000\",\"refund_after_ms\":\"2000\"\x7d"

/-- The libraries at the one secret and the one message of the run. -/
def host : Host where
  sha256 := fun _ => (decodeHex hashLock).getD []
  parseJson := fun msg =>
    if msg = lockMsg then
      some (.obj [("hash_lock", .str hashLock), ("payee", .str "bob.testnet"),
        ("claim_by_ms", .str "1000"), ("refund_after_ms", .str "2000")])
    else none
  parseAccountId := fun text => if h : ':' ∉ text.toList then some ⟨text, h⟩ else none
  currentAccountId := htlc
  storageByteCost := 10 ^ 19

def start : State where
  contract := .new usdc
  nowMs := 0
  ledger := fun a => if a = alice then 7 else 0
  deposits := []
  pending := []
  scheduled := []
  paid := []

def events : List Event :=
  [⟨10, .transferCall alice 5 lockMsg⟩, ⟨11, .deliver 0 true 100 (10 ^ 24)⟩,
   ⟨12, .resolveTransfer 0⟩,
   ⟨20, .claim bob hashLock alice secretHex⟩, ⟨21, .transfer 0 false⟩, ⟨22, .callback 0⟩,
   ⟨3000, .claim bob hashLock alice secretHex⟩, ⟨3001, .transfer 0 true⟩]

def final : State := (Machine.run (State.step host) start events).getD start

theorem reachable_final : (system host usdc).Reachable final := by
  have hrun : (Machine.run (State.step host) start events).isSome = true := by decide +kernel
  obtain ⟨s, hs⟩ := Option.isSome_iff_exists.mp hrun
  have hfinal : final = s := by rw [final, hs]; rfl
  exact hfinal ▸ Machine.reachable_of_run ⟨rfl, rfl, rfl, rfl, rfl⟩ hs

end Sample

section
variable {host : Host} {usdcToken : AccountId} {s : State}

-- ---------------------------------------------------------------------------
-- Payouts
-- ---------------------------------------------------------------------------

/-- Payout uniqueness and solvency in one state and after it. -/
structure PayoutSafety (host : Host) (usdcToken : AccountId) (s : State) : Prop where
  /-- At most one transfer for a lock has succeeded. -/
  paid_once : ∀ payer hashLock, (s.paidFor payer hashLock).length ≤ 1
  /-- It was of the stored amount, to the stored payee or back to the stored payer. -/
  paid_exactly : ∀ p ∈ s.paid, ∃ l, s.lock? p.payer p.hashLock = some l ∧
    p.token = usdcToken ∧ p.amount = l.amount ∧
    (p.exit = .claim → p.receiverId = l.payee) ∧ (p.exit = .refund → p.receiverId = l.payer)
  /-- A transfer that succeeds moves what its promise says. -/
  moved : ∀ e s', (system host usdcToken).step s e s' → s'.paid = s.paid ∨
    ∃ p, s'.paid = p :: s.paid ∧ p.amount ≤ s.ledger host.currentAccountId ∧
      s'.ledger = moveTokens s.ledger host.currentAccountId p.receiverId p.amount
  /-- A promise is unresolved exactly while its lock says so, and is then alone. -/
  pending_iff : ∀ payer hashLock l exit, s.lock? payer hashLock = some l →
    (l.status = leavingStatus exit ↔
      ∃ t, s.pendingFor payer hashLock = [t] ∧ t.promise.exit = exit)
  pending_lock : ∀ t ∈ s.pending, ∃ l, s.lock? t.promise.payer t.promise.hashLock = some l ∧
    l.status = leavingStatus t.promise.exit ∧
    s.pendingFor t.promise.payer t.promise.hashLock = [t]
  /-- A lock that is claimed or refunded stays as it is. -/
  closed : ∀ es s', (system host usdcToken).Leads s es s' → ∀ payer hashLock l,
    s.lock? payer hashLock = some l → l.status = .claimed ∨ l.status = .refunded →
    s'.lock? payer hashLock = some l
  /-- What is owed to any locks is within the balance. -/
  solvent : ∀ S : Finset (AccountId × String),
    ∑ k ∈ S, s.owed k ≤ s.ledger host.currentAccountId

theorem Inv.paid_payout (h : Inv host usdcToken s) {p : Promise} (hp : p ∈ s.paid) :
    ∃ l, s.lock? p.payer p.hashLock = some l ∧ Stored host usdcToken p.payer p.hashLock l ∧
      p = l.payout p.hashLock p.exit ∧ l.AgreesWith p.exit := by
  have hmem : p ∈ s.paidFor p.payer p.hashLock :=
    List.mem_filter.mpr ⟨hp, Promise.isFor_iff.mpr ⟨rfl, rfl⟩⟩
  have hlife := h.life p.payer p.hashLock
  rcases hlife.paid with hnil | ⟨l, exit, hl, hps, hag⟩
  · rw [hnil] at hmem
    cases hmem
  · rw [hps] at hmem
    have heq : p = l.payout p.hashLock exit := List.mem_singleton.mp hmem
    have hexit : p.exit = exit := by rw [heq]; rfl
    rw [hl] at hlife
    exact ⟨l, hl, hlife.stored, hexit ▸ heq, hexit ▸ hag⟩

/-- Only a transfer adds to the payouts, and it moves what it adds. -/
theorem paid_of_effect {s' : State} (h : Effect host s s') : s'.paid = s.paid ∨
    ∃ p, s'.paid = p :: s.paid ∧ p.amount ≤ s.ledger host.currentAccountId ∧
      s'.ledger = moveTokens s.ledger host.currentAccountId p.receiverId p.amount := by
  cases h with
  | paid i t rest _ _ hfunds => exact .inr ⟨t.promise, rfl, hfunds, rfl⟩
  | _ => exact .inl rfl

theorem payoutSafety_of_reachable (h : (system host usdcToken).Reachable s) :
    PayoutSafety host usdcToken s := by
  have hinv := inv_of_reachable h
  refine ⟨fun payer hashLock => ?_, fun p hp => ?_, fun e s' hstep => ?_,
    fun payer hashLock l exit hl => ?_, fun t ht => ?_, fun es s' hrun payer hashLock l hl hst => ?_,
    hinv.covers.sum_le⟩
  -- paid once at most, to whom the lock says, and only by what a step adds
  · rcases (hinv.life payer hashLock).paid with hnil | ⟨_, _, -, hps, -⟩
    · simp [hnil]
    · simp [hps]
  · obtain ⟨l, hl, hstored, heq, -⟩ := hinv.paid_payout hp
    have hreceiver : p.receiverId = (l.payout p.hashLock p.exit).receiverId :=
      congrArg Promise.receiverId heq
    exact ⟨l, hl, (congrArg Promise.token heq).trans hstored.token, congrArg Promise.amount heq,
      fun hexit => by rw [hreceiver, hexit]; rfl, fun hexit => by rw [hreceiver, hexit]; rfl⟩
  · obtain ⟨-, hact⟩ := act_of_step hstep
    have hpaid := paid_of_effect (effect_of_act (hinv.at e.atMs) hact)
    exact hpaid
  -- a lock on its way out has its transfer, and the transfer has its lock
  · have hlife := hinv.life payer hashLock
    rw [hl] at hlife
    exact hlife.leaving_iff exit
  · have hmem : t ∈ s.pendingFor t.promise.payer t.promise.hashLock :=
      List.mem_filter.mpr ⟨ht, Promise.isFor_iff.mpr ⟨rfl, rfl⟩⟩
    obtain ⟨l, hl, hts, -, hst, -⟩ := (hinv.life _ _).of_pending hmem
    exact ⟨l, hl, hst, hts⟩
  -- a closed lock stays closed, and the balance covers what is owed
  · obtain ⟨l', hl', hlater⟩ :=
      (later_of_leads payer hashLock h hrun).lock l hl
    rw [hl']
    rcases hst with hst | hst
    · rw [hlater.closed .claim hst]
    · rw [hlater.closed .refund hst]

/-- In the sample run one of two transfers has succeeded. -/
theorem payoutSafety_sample : PayoutSafety Sample.host Sample.usdc Sample.final :=
  payoutSafety_of_reachable Sample.reachable_final

-- ---------------------------------------------------------------------------
-- Secrets and refunds
-- ---------------------------------------------------------------------------

/-- What holds of one lock in a state, and of it after that state. -/
structure SecretExclusion (host : Host) (usdcToken : AccountId) (s : State) (payer : AccountId)
    (hashLock : String) (l : Lock) : Prop where
  /-- The preimage a lock shows opens its hash lock. -/
  opens : ∀ text, (LockView.ofLock l).preimage = some text → ∃ bytes,
    decodeHex text = some bytes ∧ bytes.length = 32 ∧ hexEncode (host.sha256 bytes) = hashLock
  /-- Once it shows one there is no refund any more. -/
  excluded : (LockView.ofLock l).preimage.isSome → ∀ es s',
    (system host usdcToken).Leads s es s' →
    (∃ l', s'.lock? payer hashLock = some l' ∧ (LockView.ofLock l').preimage.isSome ∧
      l'.status ≠ .refunding ∧ l'.status ≠ .refunded) ∧
    (∃ new, s'.scheduledFor payer hashLock = new ++ s.scheduledFor payer hashLock ∧
      ∀ entry ∈ new, entry.1.exit = .claim) ∧
    (∀ p ∈ s'.paidFor payer hashLock, p.exit = .claim)
  /-- A claim is accepted before the deadline or with the preimage set, the
  first one before the deadline. -/
  claim_accepted : ∀ ctx preimage result,
    s.contract.claim host ctx hashLock payer preimage = .ok result →
    (l.refundAfterMs ≤ ctx.blockTimestampMs → (LockView.ofLock l).preimage.isSome) ∧
    (¬ HasClaim (s.scheduledFor payer hashLock) → ctx.blockTimestampMs < l.refundAfterMs)
  refund_accepted : ∀ ctx result, ctx.predecessorAccountId = payer →
    s.contract.refund ctx hashLock = .ok result → l.refundAfterMs ≤ ctx.blockTimestampMs
  /-- So it was for every claim and refund accepted so far. -/
  claims_so_far : ∀ newer p atMs older,
    s.scheduledFor payer hashLock = newer ++ (p, atMs) :: older → p.exit = .claim →
    ¬ HasClaim older → atMs < l.refundAfterMs
  refunds_so_far : ∀ newer p atMs older,
    s.scheduledFor payer hashLock = newer ++ (p, atMs) :: older → p.exit = .refund →
    l.refundAfterMs ≤ atMs ∧ ¬ HasClaim older
  /-- The terms never change. -/
  terms : ∀ es s', (system host usdcToken).Leads s es s' →
    ∃ l', s'.lock? payer hashLock = some l' ∧ l'.payer = l.payer ∧ l'.payee = l.payee ∧
      l'.token = l.token ∧ l'.amount = l.amount ∧ l'.claimByMs = l.claimByMs ∧
      l'.refundAfterMs = l.refundAfterMs
  /-- Operations on other locks leave this one alone. -/
  frame : s.contract.Frame host payer hashLock

theorem LockView.preimage_isSome {l : Lock} :
    (LockView.ofLock l).preimage.isSome ↔ l.revealed = true := by
  simp [LockView.ofLock]

/-- A lock whose secret is out is not on the way back to its payer. -/
theorem Life.not_refunding {payer : AccountId} {hashLock : String} {l : Lock}
    {ts : List PendingTransfer} {ps : List Promise}
    (h : Life host usdcToken payer hashLock (some l) ts ps) (hrev : l.revealed = true) :
    l.status ≠ .refunding ∧ l.status ≠ .refunded ∧ ∀ p ∈ ps, p.exit = .claim := by
  have hclaim : ∀ {exit : Exit}, l.AgreesWith exit → exit = .claim := fun hag => hag.mp hrev
  cases h with
  | locked _ hst => simp [hst]
  | @leaving _ t exit _ hst hag hp =>
    obtain rfl := hclaim hag
    refine ⟨by simp [hst, leavingStatus], by simp [hst, leavingStatus], fun p hmem => ?_⟩
    split at hmem
    · rw [List.mem_singleton.mp hmem]
      rfl
    · cases hmem
  | closed exit _ hst hag =>
    obtain rfl := hclaim hag
    refine ⟨by simp [hst, closedStatus], by simp [hst, closedStatus], fun p hmem => ?_⟩
    rw [List.mem_singleton.mp hmem]
    rfl

/-- Any part of a history is as the whole of it says. -/
theorem History.split {refundAfterMs atMs : Nat} {p : Promise}
    {newer older : List (Promise × Nat)} (h : History refundAfterMs (newer ++ (p, atMs) :: older)) :
    (p.exit = .claim → ¬ HasClaim older → atMs < refundAfterMs) ∧
      (p.exit = .refund → refundAfterMs ≤ atMs ∧ ¬ HasClaim older) := by
  induction newer with
  | nil =>
    cases h with
    | claim hexit hwindow _ =>
      exact ⟨fun _ hno => hwindow.resolve_right hno, fun hr => absurd (hexit.symm.trans hr) nofun⟩
    | refund hexit hwindow hno _ =>
      exact ⟨fun hc => absurd (hexit.symm.trans hc) nofun, fun _ => ⟨hwindow, hno⟩⟩
  | cons entry newer ih =>
    cases h with
    | claim _ _ hrest => exact ih hrest
    | refund _ _ _ hrest => exact ih hrest

theorem secretExclusion_of_reachable (h : (system host usdcToken).Reachable s)
    {payer : AccountId} {hashLock : String} {l : Lock} (hl : s.lock? payer hashLock = some l) :
    SecretExclusion host usdcToken s payer hashLock l := by
  have hlife := (inv_of_reachable h).life payer hashLock
  have hrec := history_of_reachable payer hashLock h
  rw [hl] at hlife hrec
  obtain ⟨hhistory, hclaimed⟩ := hrec
  refine ⟨fun text htext => ?_, fun hset es s' hrun => ?_, fun ctx preimage result hok => ?_,
    fun ctx result hpred hok => ?_, fun newer p atMs older heq => ?_,
    fun newer p atMs older heq => ?_, fun es s' hrun => ?_, s.contract.frame host payer hashLock⟩
  -- a secret that is shown opens the lock
  · obtain ⟨hrev, hdecode⟩ := LockView.preimage_ofLock htext
    exact ⟨l.preimage.bytes, hdecode, l.preimage.length_eq, hlife.stored.opens hrev⟩
  -- once it is out, in every later state
  · have hrev := LockView.preimage_isSome.mp hset
    obtain ⟨hlock, new, hnew, hclaims⟩ :=
      later_of_leads payer hashLock h hrun
    obtain ⟨l', hl', hlater⟩ := hlock l hl
    have hlife' := (inv_of_reachable (h.leads hrun)).life payer hashLock
    rw [hl'] at hlife'
    obtain ⟨hrefunding, hrefunded, hpaid⟩ := hlife'.not_refunding (hlater.revealed hrev)
    exact ⟨⟨l', hl', LockView.preimage_isSome.mpr (hlater.revealed hrev), hrefunding, hrefunded⟩,
      ⟨new, hnew, hclaims l hl hrev⟩, hpaid⟩
  -- a claim after the time needs the secret to be out, a refund finds that it is not
  · obtain ⟨l₀, _, hl₀, -, hwindow, -⟩ := claim_spec hok
    obtain rfl : l = l₀ := Option.some.inj (hl.symm.trans hl₀)
    refine ⟨fun hlate => LockView.preimage_isSome.mpr (hwindow.resolve_left (not_lt.mpr hlate)),
      fun hno => hwindow.resolve_right fun hrev => hno (hclaimed.mp hrev)⟩
  · subst hpred
    obtain ⟨l₀, hl₀, -, -, -, hwindow, -⟩ := refund_spec hok
    obtain rfl : l = l₀ := Option.some.inj (hl.symm.trans hl₀)
    exact hwindow
  -- the payouts of the lock, oldest first
  · rw [heq] at hhistory
    exact hhistory.split.1
  · rw [heq] at hhistory
    exact hhistory.split.2
  -- the terms stay as they are
  · obtain ⟨l', hl', hlater⟩ :=
      (later_of_leads payer hashLock h hrun).lock l hl
    exact ⟨l', hl', hlater.payer, hlater.payee, hlater.token, hlater.amount, hlater.claimByMs,
      hlater.refundAfterMs⟩

end

/-- In the sample run the second claim came after the deadline, with the
preimage set. -/
theorem secretExclusion_sample : ∃ l, Sample.final.lock? Sample.alice Sample.hashLock = some l ∧
    l.revealed = true ∧
    SecretExclusion Sample.host Sample.usdc Sample.final Sample.alice Sample.hashLock l := by
  have hview : (Sample.final.lock? Sample.alice Sample.hashLock).map Lock.revealed = some true := by
    decide +kernel
  obtain ⟨l, hl, hrev⟩ := Option.map_eq_some_iff.mp hview
  exact ⟨l, hl, hrev, secretExclusion_of_reachable Sample.reachable_final hl⟩

end SwapDesk.Near
