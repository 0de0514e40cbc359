import SwapDesk.Near.Invariant

/-!
# SwapDesk — the history of a NEAR lock

What one event can do to one lock (`LockStep`), read off the effects of
`SwapDesk.Near.Invariant`, and what that makes of whole runs: a lock keeps its
terms, a secret once out stays out, a closed lock stays as it is
(`later_of_leads`), and the exits scheduled for a lock follow its deadline
(`history_of_reachable`).

Main results: `later_of_leads`, `history_of_reachable`.
-/

namespace SwapDesk.Near

/-- Some claim is among the scheduled exits. -/
def HasClaim (log : List (Promise × Nat)) : Prop := ∃ entry ∈ log, entry.1.exit = .claim

/-- What an event at `nowMs` does to the lock under a hash lock, with the
promises it schedules for it. -/
inductive LockStep (host : Host) (nowMs : Nat) (hashLock : String) :
    Option Lock → Option Lock → List (Promise × Nat) → Prop
  | stay (lock : Option Lock) : LockStep host nowMs hashLock lock lock []
  | opened (l : Lock) : l.status = .locked → l.revealed = false → nowMs < l.refundAfterMs →
      LockStep host nowMs hashLock none (some l) []
  | claiming (l : Lock) (secret : Bytes32) : l.status = .locked →
      (nowMs < l.refundAfterMs ∨ l.revealed = true) →
      LockStep host nowMs hashLock (some l)
        (some { l with status := .claiming, preimage := secret, revealed := true })
        [(l.payout hashLock .claim, nowMs)]
  | refunding (l : Lock) : l.status = .locked → l.revealed = false → l.refundAfterMs ≤ nowMs →
      LockStep host nowMs hashLock (some l) (some { l with status := .refunding })
        [(l.payout hashLock .refund, nowMs)]
  | resolved (l : Lock) (exit : Exit) (ok : Bool) : l.status = leavingStatus exit →
      LockStep host nowMs hashLock (some l) (some { l with status := resolvedStatus exit ok }) []

section
variable {host : Host} {usdcToken : AccountId} {s s' : State}

/-- An update of the lock at one key is a `LockStep` at every key. -/
theorem lockStep_update (payer : AccountId) (hashLock : String) (log : List (Promise × Nat))
    {l : Lock} {payer₀ : AccountId} {hashLock₀ : String} (hlock : ∀ p k, s'.lock? p k =
      if p = payer₀ ∧ k = hashLock₀ then some l else s.lock? p k)
    (hlog : s'.scheduled = log ++ s.scheduled)
    (hfor : ∀ entry ∈ log, entry.1.payer = payer₀ ∧ entry.1.hashLock = hashLock₀)
    (hstep : LockStep host s.nowMs hashLock₀ (s.lock? payer₀ hashLock₀) (some l) log) :
    ∃ new, LockStep host s.nowMs hashLock (s.lock? payer hashLock) (s'.lock? payer hashLock) new ∧
      s'.scheduledFor payer hashLock = new ++ s.scheduledFor payer hashLock := by
  by_cases hkey : payer = payer₀ ∧ hashLock = hashLock₀
  · obtain ⟨rfl, rfl⟩ := hkey
    refine ⟨log, by rwa [hlock, if_pos ⟨rfl, rfl⟩], ?_⟩
    rw [State.scheduledFor, hlog, List.filter_append, List.filter_eq_self.mpr]
    · rfl
    · exact fun entry hentry => Promise.isFor_iff.mpr (hfor entry hentry)
  · refine ⟨[], by rw [hlock, if_neg hkey]; exact .stay _, ?_⟩
    rw [State.scheduledFor, hlog, List.filter_append, List.filter_eq_nil_iff.mpr]
    · rfl
    · intro entry hentry hisFor
      obtain ⟨hp, hk⟩ := Promise.isFor_iff.mp hisFor
      obtain ⟨hp', hk'⟩ := hfor entry hentry
      exact hkey ⟨hp.symm.trans hp', hk.symm.trans hk'⟩

theorem lockStep_of_effect (payer : AccountId) (hashLock : String)
    (hinv : Inv host usdcToken s) (h : Effect host s s') :
    ∃ new, LockStep host s.nowMs hashLock (s.lock? payer hashLock) (s'.lock? payer hashLock) new ∧
      s'.scheduledFor payer hashLock = new ++ s.scheduledFor payer hashLock := by
  cases h with
  -- nothing is done to a row
  | quiet => exact ⟨[], .stay _, rfl⟩
  | failed => exact ⟨[], .stay _, rfl⟩
  | paid => exact ⟨[], .stay _, rfl⟩
  | opened payer₀ hashLock₀ l deposits hnone _ _ hst hrev hwindow =>
    -- a row is new, on its way out, or resolved
    exact lockStep_update payer hashLock [] (fun _ _ => locks_update ..) rfl nofun
      (hnone ▸ .opened l hst hrev hwindow)
  | claiming payer₀ hashLock₀ l secret hl hst hwindow =>
    have hlife := hinv.life payer₀ hashLock₀
    rw [hl] at hlife
    obtain rfl : l.payer = payer₀ := hlife.stored.payer
    exact lockStep_update payer hashLock [(l.payout hashLock₀ .claim, s.nowMs)]
      (fun _ _ => locks_update ..) rfl (by simp [Lock.payout])
      (hl ▸ .claiming l secret hst hwindow)
  | refunding payer₀ hashLock₀ l hl hst hrev hwindow =>
    have hlife := hinv.life payer₀ hashLock₀
    rw [hl] at hlife
    obtain rfl : l.payer = payer₀ := hlife.stored.payer
    exact lockStep_update payer hashLock [(l.payout hashLock₀ .refund, s.nowMs)]
      (fun _ _ => locks_update ..) rfl (by simp [Lock.payout])
      (hl ▸ .refunding l hst hrev hwindow)
  | resolved i t rest ok l htake _ hl =>
    obtain ⟨l₀, hl₀, -, -, hst, -⟩ := hinv.of_take htake
    obtain rfl : l = l₀ := Option.some.inj (hl.symm.trans hl₀)
    exact lockStep_update payer hashLock [] (fun _ _ => locks_update ..) rfl nofun
      (hl ▸ .resolved l t.promise.exit ok hst)

/-- Every event is a `LockStep` at every lock, at the time of the event. -/
theorem lockStep_of_step (payer : AccountId) (hashLock : String)
    (hreach : (system host usdcToken).Reachable s) {e : Event}
    (h : (system host usdcToken).step s e s') :
    ∃ new, LockStep host e.atMs hashLock (s.lock? payer hashLock) (s'.lock? payer hashLock) new ∧
      s'.scheduledFor payer hashLock = new ++ s.scheduledFor payer hashLock := by
  have hinv := (inv_of_reachable hreach).at e.atMs
  obtain ⟨-, hact⟩ := act_of_step h
  exact lockStep_of_effect payer hashLock hinv (effect_of_act hinv hact)

-- ---------------------------------------------------------------------------
-- What later states keep
-- ---------------------------------------------------------------------------

/-- What every later state keeps of a lock: its terms, its secret once that is
out, and everything once it is closed. -/
structure Lock.Later (l l' : Lock) : Prop where
  payer : l'.payer = l.payer
  payee : l'.payee = l.payee
  token : l'.token = l.token
  amount : l'.amount = l.amount
  claimByMs : l'.claimByMs = l.claimByMs
  refundAfterMs : l'.refundAfterMs = l.refundAfterMs
  revealed : l.revealed = true → l'.revealed = true
  closed : ∀ exit, l.status = closedStatus exit → l' = l

theorem Lock.Later.refl (l : Lock) : l.Later l :=
  ⟨rfl, rfl, rfl, rfl, rfl, rfl, id, fun _ _ => rfl⟩

theorem Lock.Later.trans {l l' l'' : Lock} (h : l.Later l') (h' : l'.Later l'') : l.Later l'' := by
  refine ⟨h'.payer.trans h.payer, h'.payee.trans h.payee, h'.token.trans h.token,
    h'.amount.trans h.amount, h'.claimByMs.trans h.claimByMs,
    h'.refundAfterMs.trans h.refundAfterMs, h'.revealed ∘ h.revealed, fun exit hst => ?_⟩
  obtain rfl := h.closed exit hst
  exact h'.closed exit hst

/-- A lock is never removed, and one event makes it a later one. -/
theorem LockStep.later {nowMs : Nat} {hashLock : String} {l : Lock} {lock' : Option Lock} {new : List (Promise × Nat)}
    (h : LockStep host nowMs hashLock (some l) lock' new) : ∃ l', lock' = some l' ∧ l.Later l' := by
  have hopen : ∀ {st : LockStatus} {exit : Exit}, l.status = st →
      (st = .locked ∨ st = .claiming ∨ st = .refunding) → l.status ≠ closedStatus exit := by
    rintro st exit hst (rfl | rfl | rfl) hclosed <;> cases exit <;> rw [hst] at hclosed <;>
      cases hclosed
  cases h with
  | stay => exact ⟨l, rfl, .refl l⟩
  | claiming _ secret hst _ =>
    exact ⟨_, rfl, rfl, rfl, rfl, rfl, rfl, rfl, fun _ => rfl,
      fun exit hclosed => absurd hclosed (hopen hst (.inl rfl))⟩
  | refunding _ hst _ _ =>
    exact ⟨_, rfl, rfl, rfl, rfl, rfl, rfl, rfl, id,
      fun exit hclosed => absurd hclosed (hopen hst (.inl rfl))⟩
  | resolved _ e ok hst =>
    refine ⟨_, rfl, rfl, rfl, rfl, rfl, rfl, rfl, id, fun exit hclosed => absurd hclosed ?_⟩
    cases e
    · exact hopen hst (.inr (.inl rfl))
    · exact hopen hst (.inr (.inr rfl))

/-- Once the secret is out only claims are scheduled. -/
theorem LockStep.claims_of_revealed {nowMs : Nat} {hashLock : String} {l : Lock}
    {lock' : Option Lock} {new : List (Promise × Nat)} (h : LockStep host nowMs hashLock (some l) lock' new)
    (hrev : l.revealed = true) {entry : Promise × Nat} (hentry : entry ∈ new) :
    entry.1.exit = .claim := by
  cases h with
  | stay => cases hentry
  | resolved => cases hentry
  | claiming => rw [List.mem_singleton.mp hentry]; rfl
  | refunding _ _ hno _ => rw [hrev] at hno; cases hno

/-- Over a whole run: the exits a lock had scheduled when its secret was out are
followed by claims only. -/
structure LaterState (payer : AccountId) (hashLock : String) (s s' : State) : Prop where
  lock : ∀ l, s.lock? payer hashLock = some l → ∃ l', s'.lock? payer hashLock = some l' ∧ l.Later l'
  claims : ∃ new, s'.scheduledFor payer hashLock = new ++ s.scheduledFor payer hashLock ∧
    ∀ l, s.lock? payer hashLock = some l → l.revealed = true →
      ∀ entry ∈ new, entry.1.exit = .claim

theorem later_of_leads (payer : AccountId) (hashLock : String) {es : List Event} (hreach : (system host usdcToken).Reachable s)
    (hrun : (system host usdcToken).Leads s es s') : LaterState payer hashLock s s' := by
  refine hrun.related (fun s => ?_) (fun s t u hst htu => ?_) (fun s e s' hreach hstep => ?_) hreach
  · exact ⟨fun l hl => ⟨l, hl, .refl l⟩, [], rfl, fun _ _ _ => nofun⟩
  · refine ⟨fun l hl => ?_, ?_⟩
    · obtain ⟨l', hl', hlater⟩ := hst.lock l hl
      obtain ⟨l'', hl'', hlater'⟩ := htu.lock l' hl'
      exact ⟨l'', hl'', hlater.trans hlater'⟩
    · obtain ⟨new, heq, hnew⟩ := hst.claims
      obtain ⟨new', heq', hnew'⟩ := htu.claims
      refine ⟨new' ++ new, by rw [heq', heq, List.append_assoc], fun l hl hrev entry hentry => ?_⟩
      obtain ⟨l', hl', hlater⟩ := hst.lock l hl
      rcases List.mem_append.mp hentry with hin | hin
      · exact hnew' l' hl' (hlater.revealed hrev) entry hin
      · exact hnew l hl hrev entry hin
  · obtain ⟨new, hstep, heq⟩ := lockStep_of_step payer hashLock hreach hstep
    refine ⟨fun l hl => (hl ▸ hstep).later, new, heq, fun l hl hrev entry hentry => ?_⟩
    rw [hl] at hstep
    exact hstep.claims_of_revealed hrev hentry

-- ---------------------------------------------------------------------------
-- The exits scheduled for a lock
-- ---------------------------------------------------------------------------

/-- The exits scheduled for a lock with the given deadline, newest first: the
first claim comes before the deadline, a refund at or after it and only where
no claim came before. -/
inductive History (refundAfterMs : Nat) : List (Promise × Nat) → Prop
  | nil : History refundAfterMs []
  | claim {p : Promise} {atMs : Nat} {older : List (Promise × Nat)} : p.exit = .claim →
      (atMs < refundAfterMs ∨ HasClaim older) → History refundAfterMs older →
      History refundAfterMs ((p, atMs) :: older)
  | refund {p : Promise} {atMs : Nat} {older : List (Promise × Nat)} : p.exit = .refund →
      refundAfterMs ≤ atMs → ¬ HasClaim older → History refundAfterMs older →
      History refundAfterMs ((p, atMs) :: older)

/-- A lock with its history: its secret is out exactly when some claim was
scheduled. -/
def Recorded (lock : Option Lock) (log : List (Promise × Nat)) : Prop :=
  match lock with
  | none => log = []
  | some l => History l.refundAfterMs log ∧ (l.revealed = true ↔ HasClaim log)

theorem hasClaim_cons {p : Promise} {atMs : Nat} {log : List (Promise × Nat)} :
    HasClaim ((p, atMs) :: log) ↔ p.exit = .claim ∨ HasClaim log := by
  simp [HasClaim]

theorem Recorded.step {nowMs : Nat} {hashLock : String} {lock lock' : Option Lock}
    {log new : List (Promise × Nat)} (h : Recorded lock log) (hstep : LockStep host nowMs hashLock lock lock' new) :
    Recorded lock' (new ++ log) := by
  cases hstep with
  | stay => exact h
  | opened l _ hrev _ =>
    obtain rfl : log = [] := h
    exact ⟨.nil, by simp [hrev, HasClaim]⟩
  | claiming l secret _ hwindow =>
    obtain ⟨hlog, hiff⟩ := h
    exact ⟨.claim rfl (hwindow.imp_right hiff.mp) hlog,
      ⟨fun _ => hasClaim_cons.mpr (.inl rfl), fun _ => rfl⟩⟩
  | refunding l _ hrev hwindow =>
    obtain ⟨hlog, hiff⟩ := h
    have hno : ¬ HasClaim log := fun hc => absurd (hiff.mpr hc) (by simp [hrev])
    refine ⟨.refund rfl hwindow hno hlog, ?_⟩
    rw [List.singleton_append, hasClaim_cons, ← hiff]
    simp [Lock.payout]
  | resolved l exit ok _ => exact h

theorem history_of_reachable (payer : AccountId) (hashLock : String)
    (h : (system host usdcToken).Reachable s) :
    Recorded (s.lock? payer hashLock) (s.scheduledFor payer hashLock) := by
  refine Machine.invariant
    (P := fun s => Recorded (s.lock? payer hashLock) (s.scheduledFor payer hashLock))
    (fun s hinit => ?_) (fun s e s' hreach hrec hstep => ?_) h
  · obtain ⟨hc, -, -, hsch, -⟩ := hinit
    rw [State.lock?, State.scheduledFor, hc, hsch]
    rfl
  · obtain ⟨new, hstep, heq⟩ := lockStep_of_step payer hashLock hreach hstep
    rw [heq]
    exact hrec.step hstep

end

end SwapDesk.Near
