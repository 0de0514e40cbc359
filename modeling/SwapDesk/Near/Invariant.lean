import SwapDesk.Near.System
import SwapDesk.Lib.Coverage

/-!
# SwapDesk — the invariant of the NEAR contract

At any time a lock, the unresolved promises that name it and the successful
transfers that name it are in one of four configurations (`Life`): there is no
lock; the lock is `Locked` and nothing is under way; it is leaving by one exit,
with exactly one promise in flight; or it is closed by one exit, with exactly
one transfer made. Every event moves one lock along this life and leaves all
others where they are, whatever the order of the events. That carries both the
uniqueness of payouts and the exclusion of refunds once a secret is out.

The tokens follow: what is owed to the locks and to the deposits in
flight never exceeds the balance of the HTLC account.

Main result: `inv_of_reachable`.
-/

namespace SwapDesk.Near

-- ---------------------------------------------------------------------------
-- The life of one lock
-- ---------------------------------------------------------------------------

/-- The status of a lock while a promise for `exit` is unresolved. -/
def leavingStatus : Exit → LockStatus
  | .claim => .claiming
  | .refund => .refunding

/-- The status of a lock that has left by `exit`. -/
def closedStatus : Exit → LockStatus
  | .claim => .claimed
  | .refund => .refunded

/-- The transfer that takes a lock's tokens out by `exit`: exactly the stored
amount, to the stored payee of a claim and to the stored payer of a refund. -/
def Lock.payout (l : Lock) (hashLock : String) (exit : Exit) : Promise where
  token := l.token
  receiverId := match exit with
    | .claim => l.payee
    | .refund => l.payer
  amount := l.amount
  hashLock := hashLock
  payer := l.payer
  exit := exit

/-- What is known of a stored lock whatever its status: it lies under its own
payer, holds the configured token, and a preimage it reveals opens its hash
lock. -/
structure Stored (host : Host) (usdcToken payer : AccountId) (hashLock : String) (l : Lock) :
    Prop where
  payer : l.payer = payer
  token : l.token = usdcToken
  opens : l.revealed = true → hexEncode (host.sha256 l.preimage.bytes) = hashLock

/-- A secret is out exactly on the way to a claim. -/
def Lock.AgreesWith (l : Lock) (exit : Exit) : Prop :=
  l.revealed = true ↔ exit = .claim

/-- A lock with the unresolved promises and the successful transfers for it. -/
inductive Life (host : Host) (usdcToken payer : AccountId) (hashLock : String) :
    Option Lock → List PendingTransfer → List Promise → Prop
  | absent : Life host usdcToken payer hashLock none [] []
  | locked {l : Lock} : Stored host usdcToken payer hashLock l → l.status = .locked →
      Life host usdcToken payer hashLock (some l) [] []
  | leaving {l : Lock} {t : PendingTransfer} (exit : Exit) :
      Stored host usdcToken payer hashLock l → l.status = leavingStatus exit →
      l.AgreesWith exit → t.promise = l.payout hashLock exit →
      Life host usdcToken payer hashLock (some l) [t]
        (if t.outcome = some true then [l.payout hashLock exit] else [])
  | closed {l : Lock} (exit : Exit) :
      Stored host usdcToken payer hashLock l → l.status = closedStatus exit →
      l.AgreesWith exit →
      Life host usdcToken payer hashLock (some l) [] [l.payout hashLock exit]

section
variable {host : Host} {usdcToken payer : AccountId} {hashLock : String}
  {lock : Option Lock} {l : Lock} {ts ts' : List PendingTransfer} {ps : List Promise}

/-- The order of the pool does not matter. -/
theorem Life.perm (h : Life host usdcToken payer hashLock lock ts ps) (hperm : ts.Perm ts') :
    Life host usdcToken payer hashLock lock ts' ps := by
  cases h with
  | absent => rw [List.nil_perm.mp hperm]; exact .absent
  | locked hs hst => rw [List.nil_perm.mp hperm]; exact .locked hs hst
  | leaving exit hs hst hag hp =>
    rw [List.perm_singleton.mp hperm.symm]
    exact .leaving exit hs hst hag hp
  | closed exit hs hst hag => rw [List.nil_perm.mp hperm]; exact .closed exit hs hst hag

theorem Life.stored (h : Life host usdcToken payer hashLock (some l) ts ps) :
    Stored host usdcToken payer hashLock l := by
  cases h with
  | locked hs _ => exact hs
  | leaving _ hs _ _ _ => exact hs
  | closed _ hs _ _ => exact hs

/-- Where there is no lock nothing is under way. -/
theorem Life.of_none (h : Life host usdcToken payer hashLock none ts ps) : ts = [] ∧ ps = [] := by
  cases h with
  | absent => exact ⟨rfl, rfl⟩

/-- Nothing is under way for a lock that is `Locked`. -/
theorem Life.of_locked (h : Life host usdcToken payer hashLock (some l) ts ps)
    (hst : l.status = .locked) : ts = [] ∧ ps = [] := by
  cases h with
  | locked _ _ => exact ⟨rfl, rfl⟩
  | leaving exit _ hst' _ _ => cases exit <;> rw [hst] at hst' <;> cases hst'
  | closed exit _ hst' _ => cases exit <;> rw [hst] at hst' <;> cases hst'

/-- A promise in the pool is the only one for its lock, which is leaving by the
promise's exit. -/
theorem Life.of_pending (h : Life host usdcToken payer hashLock lock ts ps)
    {t : PendingTransfer} (ht : t ∈ ts) :
    ∃ l, lock = some l ∧ ts = [t] ∧ Stored host usdcToken payer hashLock l ∧
      l.status = leavingStatus t.promise.exit ∧ l.AgreesWith t.promise.exit ∧
      t.promise = l.payout hashLock t.promise.exit ∧
      ps = if t.outcome = some true then [t.promise] else [] := by
  cases h with
  | absent => cases ht
  | locked _ _ => cases ht
  | closed _ _ _ _ => cases ht
  | @leaving l t' exit hs hst hag hp =>
    obtain rfl : t = t' := List.mem_singleton.mp ht
    have hexit : t.promise.exit = exit := by rw [hp]; rfl
    exact ⟨l, rfl, rfl, hs, by rw [hexit]; exact hst, by rw [hexit]; exact hag,
      by rw [hexit]; exact hp, by rw [hp]⟩

/-- A lock is leaving exactly while one promise for it is in the pool. -/
theorem Life.leaving_iff (h : Life host usdcToken payer hashLock (some l) ts ps) (exit : Exit) :
    l.status = leavingStatus exit ↔ ∃ t, ts = [t] ∧ t.promise.exit = exit := by
  cases h with
  | locked _ hst => cases exit <;> simp [hst, leavingStatus]
  | closed e _ hst _ => cases exit <;> cases e <;> simp [hst, leavingStatus, closedStatus]
  | @leaving _ t e _ hst _ hp =>
    have hexit : t.promise.exit = e := by rw [hp]; rfl
    cases exit <;> cases e <;> simp [hst, leavingStatus, hexit]

/-- At most one transfer is ever made for a lock, and it is the payout of one of
its exits. -/
theorem Life.paid (h : Life host usdcToken payer hashLock lock ts ps) :
    ps = [] ∨ ∃ l exit, lock = some l ∧ ps = [l.payout hashLock exit] ∧ l.AgreesWith exit := by
  cases h with
  | absent => exact .inl rfl
  | locked _ _ => exact .inl rfl
  | @leaving l t exit _ _ hag _ =>
    split
    · exact .inr ⟨l, exit, rfl, rfl, hag⟩
    · exact .inl rfl
  | @closed l exit _ _ hag => exact .inr ⟨l, exit, rfl, rfl, hag⟩

end

-- ---------------------------------------------------------------------------
-- What an event does
-- ---------------------------------------------------------------------------

/-- What a deposit in flight may still take out of the HTLC account. -/
def Deposit.reserved (d : Deposit) : Nat :=
  match d.unused with
  | none => d.amount
  | some unused => min d.amount unused

/-- What all deposits in flight may still take out. -/
def reservedSum (deposits : List Deposit) : Nat := (deposits.map Deposit.reserved).sum

theorem reservedSum_cons (d : Deposit) (rest : List Deposit) :
    reservedSum (d :: rest) = d.reserved + reservedSum rest := by
  simp [reservedSum]

theorem reservedSum_of_take {deposits rest : List Deposit} {i : Nat} {d : Deposit}
    (h : Pool.take deposits i = some (d, rest)) :
    reservedSum deposits = d.reserved + reservedSum rest :=
  Pool.sum_of_take h

/-- Everything an event can do to a state, in seven kinds. The first moves only
tokens and deposits; each of the others moves one lock along its life. -/
inductive Effect (host : Host) (s : State) : State → Prop
  | quiet (ledger : AccountId → Nat) (deposits : List Deposit) :
      reservedSum deposits + s.ledger host.currentAccountId ≤
        reservedSum s.deposits + ledger host.currentAccountId →
      Effect host s { s with ledger := ledger, deposits := deposits }
  | opened (payer : AccountId) (hashLock : String) (l : Lock) (deposits : List Deposit) :
      s.lock? payer hashLock = none →
      l.payer = payer → l.token = s.contract.usdcToken → l.status = .locked →
      l.revealed = false → s.nowMs < l.refundAfterMs →
      l.amount + reservedSum deposits ≤ reservedSum s.deposits →
      Effect host s { s with
        contract := s.contract.insert (lockKey payer hashLock) l, deposits := deposits }
  | claiming (payer : AccountId) (hashLock : String) (l : Lock) (secret : Bytes32) :
      s.lock? payer hashLock = some l → l.status = .locked →
      (s.nowMs < l.refundAfterMs ∨ l.revealed = true) →
      hexEncode (host.sha256 secret.bytes) = hashLock →
      Effect host s (s.schedule
        (s.contract.insert (lockKey payer hashLock)
          { l with status := .claiming, preimage := secret, revealed := true })
        (l.payout hashLock .claim))
  | refunding (payer : AccountId) (hashLock : String) (l : Lock) :
      s.lock? payer hashLock = some l → l.status = .locked → l.revealed = false →
      l.refundAfterMs ≤ s.nowMs →
      Effect host s (s.schedule
        (s.contract.insert (lockKey payer hashLock) { l with status := .refunding })
        (l.payout hashLock .refund))
  | failed (i : Nat) (t : PendingTransfer) (rest : List PendingTransfer) :
      Pool.take s.pending i = some (t, rest) → t.outcome = none →
      Effect host s { s with pending := { t with outcome := some false } :: rest }
  | paid (i : Nat) (t : PendingTransfer) (rest : List PendingTransfer) :
      Pool.take s.pending i = some (t, rest) → t.outcome = none →
      t.promise.amount ≤ s.ledger host.currentAccountId →
      Effect host s { s with
        ledger := moveTokens s.ledger host.currentAccountId t.promise.receiverId t.promise.amount
        pending := { t with outcome := some true } :: rest
        paid := t.promise :: s.paid }
  | resolved (i : Nat) (t : PendingTransfer) (rest : List PendingTransfer) (ok : Bool) (l : Lock) :
      Pool.take s.pending i = some (t, rest) → t.outcome = some ok →
      s.lock? t.promise.payer t.promise.hashLock = some l →
      Effect host s { s with
        contract := s.contract.insert (lockKey t.promise.payer t.promise.hashLock)
          { l with status := resolvedStatus t.promise.exit ok }
        pending := rest }

-- ---------------------------------------------------------------------------
-- The invariant
-- ---------------------------------------------------------------------------

/-- What is owed to a lock: its amount until its transfer has been made. -/
def owedTo (lock : Option Lock) (paid : List Promise) : Nat :=
  match lock with
  | none => 0
  | some l =>
    if l.status = .claimed ∨ l.status = .refunded ∨ paid ≠ [] then 0 else l.amount

def State.owed (s : State) (k : AccountId × String) : Nat :=
  owedTo (s.lock? k.1 k.2) (s.paidFor k.1 k.2)

structure Inv (host : Host) (usdcToken : AccountId) (s : State) : Prop where
  configured : s.contract.usdcToken = usdcToken
  life : ∀ payer hashLock, Life host usdcToken payer hashLock (s.lock? payer hashLock)
    (s.pendingFor payer hashLock) (s.paidFor payer hashLock)
  covers : Covers (s.ledger host.currentAccountId) s.owed (reservedSum s.deposits)

section
variable {host : Host} {usdcToken : AccountId} {s s' : State}

theorem inv_of_initial (h : Initial usdcToken s) : Inv host usdcToken s := by
  obtain ⟨hc, hd, hp, _, hpaid⟩ := h
  have hlock : ∀ payer hashLock, s.lock? payer hashLock = none := fun payer hashLock => by
    simp [State.lock?, hc, Contract.new]
  refine ⟨by rw [hc]; rfl, fun payer hashLock => ?_, ?_⟩
  · rw [hlock, State.pendingFor, State.paidFor, hp, hpaid]
    exact .absent
  · refine .of_no_debt (fun k => ?_) ?_
    · rw [State.owed, hlock]
      rfl
    · simp [hd, reservedSum]

/-- The lock, the transfers and the facts behind a promise in the pool. -/
theorem Inv.of_take (h : Inv host usdcToken s) {i : Nat} {t : PendingTransfer}
    {rest : List PendingTransfer} (ht : Pool.take s.pending i = some (t, rest)) :
    ∃ l, s.lock? t.promise.payer t.promise.hashLock = some l ∧
      s.pendingFor t.promise.payer t.promise.hashLock = [t] ∧
      Stored host usdcToken t.promise.payer t.promise.hashLock l ∧
      l.status = leavingStatus t.promise.exit ∧ l.AgreesWith t.promise.exit ∧
      t.promise = l.payout t.promise.hashLock t.promise.exit ∧
      s.paidFor t.promise.payer t.promise.hashLock =
        if t.outcome = some true then [t.promise] else [] := by
  have hmem : t ∈ s.pendingFor t.promise.payer t.promise.hashLock :=
    List.mem_filter.mpr ⟨Pool.mem_of_take ht, Promise.isFor_iff.mpr ⟨rfl, rfl⟩⟩
  exact (h.life _ _).of_pending hmem

/-- A call of `ft_on_transfer` with the tokens of a deposit behind it. -/
theorem effect_of_deliver {i : Nat} {d : Deposit} {rest : List Deposit} {ctx : Ctx}
    (htake : Pool.take s.deposits i = some (d, rest)) (hunused : d.unused = none)
    (hnow : ctx.blockTimestampMs = s.nowMs) :
    Effect host s { s with
      contract := (s.contract.ftOnTransfer host ctx d.senderId d.amount d.msg).1
      deposits := { d with
        unused := some (s.contract.ftOnTransfer host ctx d.senderId d.amount d.msg).2.2 } ::
          rest } := by
  have hsum := reservedSum_of_take htake
  have hd : d.reserved = d.amount := by rw [Deposit.reserved, hunused]
  rcases ftOnTransfer_spec host ctx s.contract d.senderId d.amount d.msg with
    heq | ⟨parsed, lock, -, -, hnone, hpayer, htoken, hamount, hst, hrev, hwindow, heq⟩
  · rw [heq]
    refine .quiet s.ledger _ ?_
    rw [reservedSum_cons, hsum, hd]
    simp [Deposit.reserved]
  · rw [heq]
    refine .opened d.senderId parsed.hashLock lock _ hnone hpayer htoken hst hrev (hnow ▸ hwindow) ?_
    rw [reservedSum_cons, hsum, hd, hamount]
    simp [Deposit.reserved]

/-- Every event has one of the seven effects. -/
theorem effect_of_act (hinv : Inv host usdcToken s) {a : Action}
    (h : s.act host a = some s') : Effect host s s' := by
  cases a with
  -- the tokens arrive with their deposit
  | transferCall senderId amount msg =>
    simp only [State.act] at h
    split_ifs at h with hno
    obtain ⟨hsender, hfunds⟩ := not_or.mp hno
    obtain rfl := Option.some.inj h
    refine .quiet _ _ ?_
    rw [moveTokens_dst hsender, reservedSum_cons]
    simp only [Deposit.reserved]
    omega
  -- the contract's receiver runs on a deposit, or its receipt fails
  | deliver i ran storageUsage accountBalance =>
    simp only [State.act] at h
    split at h
    · cases h
    rename_i d rest htake
    split_ifs at h with hdone hran
    all_goals
      rw [Bool.not_eq_true, Option.isSome_eq_false_iff, Option.isNone_iff_eq_none] at hdone
      obtain rfl := Option.some.inj h
    · exact effect_of_deliver htake hdone rfl
    · refine .quiet s.ledger _ ?_
      rw [reservedSum_cons, reservedSum_of_take htake]
      simp [Deposit.reserved, hdone]
  -- the token takes back what was not used
  | resolveTransfer i =>
    simp only [State.act] at h
    split at h
    · cases h
    rename_i d rest htake
    split at h
    · cases h
    rename_i unused hunused
    obtain rfl := Option.some.inj h
    refine .quiet _ rest ?_
    have hsrc := moveTokens_src_le s.ledger host.currentAccountId d.senderId
      (min (min d.amount unused) (s.ledger host.currentAccountId))
    rw [reservedSum_of_take htake]
    simp only [Deposit.reserved, hunused]
    omega
  -- a call that is not the token's is refused
  | directCall predecessor senderId amount msg storageUsage accountBalance =>
    simp only [State.act] at h
    split_ifs at h with htoken
    obtain rfl := Option.some.inj h
    have hrefused : (s.contract.ftOnTransfer host
        (s.ctx predecessor storageUsage accountBalance) senderId amount msg).1 = s.contract := by
      rcases ftOnTransfer_spec host (s.ctx predecessor storageUsage accountBalance) s.contract
        senderId amount msg with heq | ⟨_, _, -, hpred, _⟩
      · rw [heq]
      · exact absurd hpred htoken
    rw [hrefused]
    exact .quiet s.ledger s.deposits le_rfl
  -- claim and refund leave the row as it was, or move it out of `locked`
  | claim predecessor hashLock payer preimage =>
    simp only [State.act] at h
    split at h
    · obtain rfl := Option.some.inj h
      exact .quiet s.ledger s.deposits le_rfl
    rename_i contract event promise hclaim
    obtain rfl := Option.some.inj h
    obtain ⟨l, secret, hl, hst, hwindow, -, hopens, rfl, rfl⟩ := claim_spec hclaim
    have hlife := hinv.life payer hashLock
    rw [show s.lock? payer hashLock = some l from hl] at hlife
    obtain rfl := hlife.stored.payer
    exact .claiming l.payer hashLock l secret hl hst hwindow hopens
  | refund predecessor hashLock =>
    simp only [State.act] at h
    split at h
    · obtain rfl := Option.some.inj h
      exact .quiet s.ledger s.deposits le_rfl
    rename_i contract event promise hrefund
    obtain rfl := Option.some.inj h
    obtain ⟨l, hl, hpayer, hst, hrev, hwindow, rfl, rfl⟩ := refund_spec hrefund
    obtain rfl : predecessor = l.payer := hpayer
    exact .refunding l.payer hashLock l hl hst hrev hwindow
  -- the payout of a row fails or is made
  | transfer i ok =>
    simp only [State.act] at h
    split at h
    · cases h
    rename_i t rest htake
    obtain ⟨l, -, -, hstored, -, -, hp, -⟩ := hinv.of_take htake
    have htoken : t.promise.token = s.contract.usdcToken := by
      rw [hp, hinv.configured]
      exact hstored.token
    split_ifs at h with hdone hok hother hfunds
    all_goals
      rw [Bool.not_eq_true, Option.isSome_eq_false_iff, Option.isNone_iff_eq_none] at hdone
    · obtain rfl := Option.some.inj h
      exact .failed i t rest htake hdone
    · exact absurd htoken hother
    · obtain rfl := Option.some.inj h
      exact .paid i t rest htake hdone (not_lt.mp hfunds)
  -- its callback closes the row or opens it again
  | callback i =>
    simp only [State.act] at h
    split at h
    · cases h
    rename_i t rest htake
    split at h
    · cases h
    rename_i ok hok
    obtain ⟨l, hl, -⟩ := hinv.of_take htake
    rw [onTransferComplete_spec hl] at h
    obtain rfl := Option.some.inj h
    exact .resolved i t rest ok l htake hok hl
  -- other accounts leave what is reserved
  | «external» ledger =>
    simp only [State.act] at h
    split_ifs at h with hless
    obtain rfl := Option.some.inj h
    exact .quiet ledger s.deposits (by omega)

-- ---------------------------------------------------------------------------
-- Every event keeps the invariant
-- ---------------------------------------------------------------------------

/-- What an event leaves alone: the lock of a payer and a hash lock, the
unresolved promises for it and the transfers made for it. -/
structure Untouched (s s' : State) (payer : AccountId) (hashLock : String) : Prop where
  lock : s'.lock? payer hashLock = s.lock? payer hashLock
  pending : (s.pendingFor payer hashLock).Perm (s'.pendingFor payer hashLock)
  paid : s'.paidFor payer hashLock = s.paidFor payer hashLock

/-- An event that touches one lock keeps the invariant when it keeps it at that
lock and costs no more there than it brings in. -/
theorem Inv.touch (h : Inv host usdcToken s) (payer : AccountId) (hashLock : String)
    (hconf : s'.contract.usdcToken = s.contract.usdcToken)
    (hother : ∀ p k, ¬ (p = payer ∧ k = hashLock) → Untouched s s' p k)
    (hlife : Life host usdcToken payer hashLock (s'.lock? payer hashLock)
      (s'.pendingFor payer hashLock) (s'.paidFor payer hashLock))
    (hcost : s'.owed (payer, hashLock) + reservedSum s'.deposits +
        s.ledger host.currentAccountId ≤
      s.owed (payer, hashLock) + reservedSum s.deposits + s'.ledger host.currentAccountId) :
    Inv host usdcToken s' := by
  refine ⟨hconf.trans h.configured, fun p k => ?_, h.covers.update (fun k hk => ?_) hcost⟩
  · by_cases hkey : p = payer ∧ k = hashLock
    · obtain ⟨rfl, rfl⟩ := hkey
      exact hlife
    · obtain ⟨hl, hp, hpaid⟩ := hother p k hkey
      rw [hl, hpaid]
      exact (h.life p k).perm hp
  · obtain ⟨hl, -, hpaid⟩ := hother k.1 k.2 fun hkey => hk (Prod.ext hkey.1 hkey.2)
    rw [State.owed, State.owed, hl, hpaid]

/-- A claim or a refund takes a lock at which nothing is under way, and leaves
one promise for it. -/
theorem Inv.scheduled (h : Inv host usdcToken s) {payer : AccountId} {hashLock : String}
    {l l' : Lock} (exit : Exit) (hl : s.lock? payer hashLock = some l) (hst : l.status = .locked)
    (hst' : l'.status = leavingStatus exit) (hag : l'.AgreesWith exit)
    (hstored : Stored host usdcToken payer hashLock l')
    (hpayout : l.payout hashLock exit = l'.payout hashLock exit) :
    Inv host usdcToken (s.schedule (s.contract.insert (lockKey payer hashLock) l')
      (l.payout hashLock exit)) := by
  have hlife := h.life payer hashLock
  rw [hl] at hlife
  obtain ⟨hts, hps⟩ := hlife.of_locked hst
  obtain rfl : l.payer = payer := hlife.stored.payer
  have hlock : ∀ p k, (s.schedule (s.contract.insert (lockKey l.payer hashLock) l')
      (l.payout hashLock exit)).lock? p k =
        if p = l.payer ∧ k = hashLock then some l' else s.lock? p k := fun p k => locks_update ..
  have hpending : ∀ p k, (s.schedule (s.contract.insert (lockKey l.payer hashLock) l')
      (l.payout hashLock exit)).pendingFor p k =
        if (l.payout hashLock exit).isFor p k then ⟨l.payout hashLock exit, none⟩ :: s.pendingFor p k
        else s.pendingFor p k := fun p k => List.filter_cons
  have hself : (l.payout hashLock exit).isFor l.payer hashLock := Promise.isFor_iff.mpr ⟨rfl, rfl⟩
  refine h.touch l.payer hashLock rfl (fun p k hkey => ?_) ?_ ?_
  -- every other lock keeps its row and its transfers
  · have hno : (l.payout hashLock exit).isFor p k ≠ true :=
      fun hfor => hkey ((Promise.isFor_iff.mp hfor).imp Eq.symm Eq.symm)
    exact ⟨by rw [hlock, if_neg hkey], by rw [hpending, if_neg hno], rfl⟩
  -- the row leaves `locked`, with its payout pending
  · rw [hlock, if_pos ⟨rfl, rfl⟩, hpending, if_pos hself, hts]
    have hpaid : s.paidFor l.payer hashLock = [] := hps
    exact hpaid ▸ .leaving exit hstored hst' hag hpayout
  -- what is owed on it does not grow
  · have hamount : l'.amount = l.amount := congrArg Promise.amount hpayout.symm
    have howed : s.owed (l.payer, hashLock) = l.amount := by simp [State.owed, hl, owedTo, hst, hps]
    have howed' : (s.schedule (s.contract.insert (lockKey l.payer hashLock) l')
        (l.payout hashLock exit)).owed (l.payer, hashLock) ≤ l.amount := by
      simp only [State.owed, hlock, if_pos, and_self, owedTo]
      split <;> omega
    change _ + reservedSum s.deposits + s.ledger _ ≤ _ + reservedSum s.deposits + s.ledger _
    omega

/-- A lock opens where there was none, out of the tokens of a deposit. -/
theorem Inv.opened (h : Inv host usdcToken s) {payer : AccountId} {hashLock : String} {l : Lock}
    {deposits : List Deposit} (hnone : s.lock? payer hashLock = none) (hpayer : l.payer = payer)
    (htoken : l.token = s.contract.usdcToken) (hst : l.status = .locked)
    (hrev : l.revealed = false)
    (hcost : l.amount + reservedSum deposits ≤ reservedSum s.deposits) :
    Inv host usdcToken { s with
      contract := s.contract.insert (lockKey payer hashLock) l, deposits := deposits } := by
  have hlife := h.life payer hashLock
  rw [hnone] at hlife
  obtain ⟨hts, hps⟩ := hlife.of_none
  generalize hs' : ({ s with
    contract := s.contract.insert (lockKey payer hashLock) l
    deposits := deposits } : State) = s'
  have hlock : ∀ p k, s'.lock? p k =
      if p = payer ∧ k = hashLock then some l else s.lock? p k := by
    intro p k
    rw [← hs']
    exact locks_update ..
  have hpend : ∀ p k, s'.pendingFor p k = s.pendingFor p k := fun p k => hs' ▸ rfl
  have hpaid : ∀ p k, s'.paidFor p k = s.paidFor p k := fun p k => hs' ▸ rfl
  refine h.touch payer hashLock (hs' ▸ rfl) (fun p k hkey => ?_) ?_ ?_
  -- every other lock is as it was
  · exact ⟨by rw [hlock, if_neg hkey], by rw [hpend], hpaid p k⟩
  -- the new row begins its life
  · rw [hlock, if_pos ⟨rfl, rfl⟩, hpend, hts, hpaid, hps]
    exact .locked ⟨hpayer, htoken.trans h.configured, fun hr => absurd hr (by simp [hrev])⟩ hst
  -- it is owed what its deposit no longer reserves
  · have howed : s.owed (payer, hashLock) = 0 := by rw [State.owed, hnone]; rfl
    have howed' : s'.owed (payer, hashLock) ≤ l.amount := by
      simp only [State.owed, hlock, if_pos, and_self, owedTo]
      split <;> omega
    rw [← hs'] at howed' ⊢
    change _ + reservedSum deposits + s.ledger _ ≤ _ + reservedSum s.deposits + s.ledger _
    omega

/-- What an event that takes the promise `t` out of the pool, and puts at most
the same promise back, leaves alone. -/
theorem untouched_of_take {i : Nat} {t : PendingTransfer} {rest : List PendingTransfer}
    (htake : Pool.take s.pending i = some (t, rest)) {payer : AccountId} {hashLock : String}
    (hkey : ¬ (payer = t.promise.payer ∧ hashLock = t.promise.hashLock))
    (hlock : s'.lock? payer hashLock = s.lock? payer hashLock)
    (hpending : s'.pending = rest ∨ ∃ outcome, s'.pending = ⟨t.promise, outcome⟩ :: rest)
    (hpaid : s'.paid = s.paid ∨ s'.paid = t.promise :: s.paid) :
    Untouched s s' payer hashLock := by
  have hno : t.promise.isFor payer hashLock = false :=
    Bool.eq_false_iff.mpr fun hfor => hkey ((Promise.isFor_iff.mp hfor).imp Eq.symm Eq.symm)
  refine ⟨hlock, ?_, ?_⟩
  · have hrest := Pool.filter_of_take_neg (p := fun t => t.promise.isFor payer hashLock) htake hno
    rcases hpending with heq | ⟨outcome, heq⟩
    · rwa [State.pendingFor, State.pendingFor, heq]
    · rwa [State.pendingFor, State.pendingFor, heq, List.filter_cons_of_neg (by simp [hno])]
  · rcases hpaid with heq | heq
    · rw [State.paidFor, State.paidFor, heq]
    · rw [State.paidFor, State.paidFor, heq, List.filter_cons_of_neg (by simp [hno])]

/-- Taking the promise `t` out of the pool leaves none for its lock. -/
theorem Inv.rest_of_take (h : Inv host usdcToken s) {i : Nat} {t : PendingTransfer}
    {rest : List PendingTransfer} (htake : Pool.take s.pending i = some (t, rest)) :
    rest.filter (fun u => u.promise.isFor t.promise.payer t.promise.hashLock) = [] := by
  obtain ⟨l, -, hpend, -⟩ := h.of_take htake
  exact (Pool.filter_of_take_single htake (Promise.isFor_iff.mpr ⟨rfl, rfl⟩) hpend).2

/-- A promise whose transfer has run goes back to the pool. -/
theorem Inv.transferred (h : Inv host usdcToken s) {i : Nat} {t : PendingTransfer}
    {rest : List PendingTransfer} (htake : Pool.take s.pending i = some (t, rest))
    (hnone : t.outcome = none) (ok : Bool) (ledger : AccountId → Nat)
    (hledger : s.ledger host.currentAccountId ≤
      ledger host.currentAccountId + if ok then t.promise.amount else 0) :
    Inv host usdcToken { s with
      ledger := ledger
      pending := { t with outcome := some ok } :: rest
      paid := if ok then t.promise :: s.paid else s.paid } := by
  obtain ⟨l, hl, -, hstored, hst, hag, hp, hpaid⟩ := h.of_take htake
  have hself : t.promise.isFor t.promise.payer t.promise.hashLock := Promise.isFor_iff.mpr ⟨rfl, rfl⟩
  rw [hnone, if_neg (by decide)] at hpaid
  generalize hs' : ({ s with
    ledger := ledger
    pending := { t with outcome := some ok } :: rest
    paid := if ok then t.promise :: s.paid else s.paid } : State) = s'
  -- the one pending transfer of the lock has its outcome now
  have hl' : s'.lock? t.promise.payer t.promise.hashLock = some l := by rw [← hs']; exact hl
  have hpend' : s'.pendingFor t.promise.payer t.promise.hashLock =
      [{ t with outcome := some ok }] := by
    rw [State.pendingFor, ← hs', ← h.rest_of_take htake]
    exact List.filter_cons_of_pos
      (p := fun u : PendingTransfer => u.promise.isFor t.promise.payer t.promise.hashLock) hself
  have hpaid' : s'.paidFor t.promise.payer t.promise.hashLock = if ok then [t.promise] else [] := by
    rw [State.paidFor, ← hs']
    cases ok with
    | true => exact (List.filter_cons_of_pos hself).trans (congrArg _ hpaid)
    | false => exact hpaid
  refine h.touch t.promise.payer t.promise.hashLock (hs' ▸ rfl)
    (fun p k hkey => untouched_of_take htake hkey (hs' ▸ rfl)
      (.inr ⟨some ok, hs' ▸ rfl⟩) ?_) ?_ ?_
  · cases ok with
    | true => exact .inr (hs' ▸ rfl)
    | false => exact .inl (hs' ▸ rfl)
  -- still leaving, or paid
  · rw [hl', hpend', hpaid']
    have hlife := Life.leaving (t := { t with outcome := some ok }) t.promise.exit hstored hst hag hp
    rw [← hp] at hlife
    cases ok <;> exact hlife
  -- paid out of the ledger, or owed as before
  · have hopen : ¬ (l.status = .claimed ∨ l.status = .refunded) := by
      rw [hst]
      cases t.promise.exit <;> decide
    have hamount : t.promise.amount = l.amount := congrArg Promise.amount hp
    have howed : s.owed (t.promise.payer, t.promise.hashLock) = l.amount := by
      simp only [State.owed, hl, hpaid, owedTo]
      exact if_neg fun hor => hopen (by simpa using hor)
    have howed' : s'.owed (t.promise.payer, t.promise.hashLock) = if ok then 0 else l.amount := by
      simp only [State.owed, hl', hpaid', owedTo]
      cases ok with
      | true => simp
      | false => exact if_neg fun hor => hopen (by simpa using hor)
    rw [howed, howed', ← hs']
    cases ok <;> simp only [Bool.false_eq_true, if_false, if_true] at hledger ⊢ <;> omega

/-- The callback of a promise takes it out of the pool and closes or reopens
its lock. -/
theorem Inv.resolved (h : Inv host usdcToken s) {i : Nat} {t : PendingTransfer}
    {rest : List PendingTransfer} (htake : Pool.take s.pending i = some (t, rest))
    {ok : Bool} (hok : t.outcome = some ok) {l : Lock}
    (hl : s.lock? t.promise.payer t.promise.hashLock = some l) :
    Inv host usdcToken { s with
      contract := s.contract.insert (lockKey t.promise.payer t.promise.hashLock)
        { l with status := resolvedStatus t.promise.exit ok }
      pending := rest } := by
  obtain ⟨l₀, hl₀, -, hstored, hst, hag, hp, hpaid⟩ := h.of_take htake
  obtain rfl : l = l₀ := Option.some.inj (hl.symm.trans hl₀)
  generalize hs' : ({ s with
    contract := s.contract.insert (lockKey t.promise.payer t.promise.hashLock)
      { l with status := resolvedStatus t.promise.exit ok }
    pending := rest } : State) = s'
  have hlock : ∀ p k, s'.lock? p k = if p = t.promise.payer ∧ k = t.promise.hashLock then
      some { l with status := resolvedStatus t.promise.exit ok } else s.lock? p k := by
    intro p k
    rw [← hs']
    exact locks_update ..
  -- the callback takes the transfer out of the pool
  have hpend' : s'.pendingFor t.promise.payer t.promise.hashLock = [] := by
    rw [State.pendingFor, ← hs']
    exact h.rest_of_take htake
  have hpaid' : s'.paidFor t.promise.payer t.promise.hashLock = if ok then [t.promise] else [] := by
    rw [← hs']
    refine hpaid.trans ?_
    cases ok <;> simp [hok]
  have hstored' : Stored host usdcToken t.promise.payer t.promise.hashLock
      { l with status := resolvedStatus t.promise.exit ok } :=
    ⟨hstored.payer, hstored.token, hstored.opens⟩
  refine h.touch t.promise.payer t.promise.hashLock (hs' ▸ rfl)
    (fun p k hkey => untouched_of_take htake hkey (by rw [hlock, if_neg hkey])
      (.inl (hs' ▸ rfl)) (.inl (hs' ▸ rfl))) ?_ ?_
  · rw [hlock, if_pos ⟨rfl, rfl⟩, hpend', hpaid']
    -- paid: the row is closed; failed: it is open again
    cases ok with
    | true =>
      have hclosed : resolvedStatus t.promise.exit true = closedStatus t.promise.exit := by
        cases t.promise.exit <;> rfl
      have hpayout : [t.promise] = [l.payout t.promise.hashLock t.promise.exit] :=
        congrArg (fun p => [p]) hp
      rw [if_pos rfl, hpayout]
      exact .closed t.promise.exit hstored' hclosed hag
    | false =>
      refine .locked hstored' ?_
      cases t.promise.exit <;> rfl
  -- nothing more is owed than before
  · have howed : s'.owed (t.promise.payer, t.promise.hashLock) ≤
        s.owed (t.promise.payer, t.promise.hashLock) := by
      simp only [State.owed, hlock, hl, hpaid', if_pos, and_self, owedTo]
      cases ok with
      | true => simp
      | false => 
        rw [hpaid, hst]
        cases t.promise.exit <;> simp [resolvedStatus, hok, leavingStatus]
    have hrest : reservedSum s'.deposits = reservedSum s.deposits := hs' ▸ rfl
    have hledger : s'.ledger = s.ledger := hs' ▸ rfl
    rw [hrest, hledger]
    omega

theorem inv_of_effect (h : Inv host usdcToken s) (heffect : Effect host s s') :
    Inv host usdcToken s' := by
  cases heffect with
  | quiet ledger deposits hcost => exact ⟨h.configured, h.life, h.covers.rebalance hcost⟩
  | opened payer hashLock l deposits hnone hpayer htoken hst hrev _ hcost =>
    exact h.opened hnone hpayer htoken hst hrev hcost
  | claiming payer hashLock l secret hl hst _ hopens =>
    have hlife := h.life payer hashLock
    rw [hl] at hlife
    exact h.scheduled .claim hl hst rfl ⟨fun _ => rfl, fun _ => rfl⟩
      ⟨hlife.stored.payer, hlife.stored.token, fun _ => hopens⟩ rfl
  | refunding payer hashLock l hl hst hrev _ =>
    have hlife := h.life payer hashLock
    rw [hl] at hlife
    exact h.scheduled .refund hl hst rfl ⟨fun hr => absurd (hrev.symm.trans hr) (by decide), nofun⟩
      ⟨hlife.stored.payer, hlife.stored.token, hlife.stored.opens⟩ rfl
  | failed i t rest htake hnone => exact h.transferred htake hnone false s.ledger le_rfl
  | paid i t rest htake hnone _ => exact h.transferred htake hnone true _ (moveTokens_src_le ..)
  | resolved i t rest ok l htake hok hl => exact h.resolved htake hok hl

/-- Time passes without touching anything the invariant is about. -/
theorem Inv.at (h : Inv host usdcToken s) (nowMs : Nat) :
    Inv host usdcToken { s with nowMs := nowMs } := ⟨h.configured, h.life, h.covers⟩

/-- An event sets the time and then acts. -/
theorem act_of_step {e : Event} (h : s.step host e = some s') :
    s.nowMs ≤ e.atMs ∧ ({ s with nowMs := e.atMs } : State).act host e.action = some s' := by
  rw [State.step] at h
  split_ifs at h with hpast
  exact ⟨not_lt.mp hpast, h⟩

theorem inv_of_reachable (h : (system host usdcToken).Reachable s) : Inv host usdcToken s := by
  refine Machine.invariant (fun _ => inv_of_initial) (fun s e s' _ hinv hstep => ?_) h
  obtain ⟨-, hact⟩ := act_of_step hstep
  exact inv_of_effect (hinv.at e.atMs) (effect_of_act (hinv.at e.atMs) hact)

end

end SwapDesk.Near
