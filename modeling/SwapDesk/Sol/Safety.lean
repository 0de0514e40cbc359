import SwapDesk.Sol.Invariant
import SwapDesk.Sol.Reference

/-!
# SwapDesk — what the Solana program guarantees

Over every run of the machine of `SwapDesk.Sol.System`: one lock for each payer
and hash lock, an escrow that leaves `Locked` at most once and by the rules of
its exit, a vault that covers it until then, and one payout in full to the party
the exit is for.

Main result: `escrowSafety_of_reachable`.
-/

namespace SwapDesk.Sol

open Bytes

-- ---------------------------------------------------------------------------
-- What an event does to an escrow
-- ---------------------------------------------------------------------------

/-- What one event does to one escrow. -/
inductive EscrowStep (rt : Runtime) (e : Event) : EscrowView → EscrowView → Prop
  | stay (view : EscrowView) : EscrowStep rt e view view
  | claimed (view : EscrowView) (now : Int64) (preimage : Bytes32) :
      view.escrow.status = statusLocked → nowMs e.unixTimestamp = .ok now →
      now < view.escrow.refundAfterMs → rt.hash preimage.bytes = view.escrow.hashLock →
      EscrowStep rt e view { view with
        escrow := { view.escrow with status := statusClaimed }
        revealed := 1
        preimage := preimage }
  | refunded (view : EscrowView) (now : Int64) (infos : List AccountInfo) (data : List UInt8) :
      view.escrow.status = statusLocked → nowMs e.unixTimestamp = .ok now →
      view.escrow.refundAfterMs ≤ now → e.action = .instruction infos data →
      SignedBy infos view.escrow.payer →
      EscrowStep rt e view { view with escrow := { view.escrow with status := statusRefunded } }

section
variable {rt : Runtime} {s s' : State} {key : Pubkey} {view : EscrowView}

/-- An escrow with its payouts and its vault, before and after an event. -/
structure EscrowMove (rt : Runtime) (e : Event) (s s' : State) (key : Pubkey)
    (view view' : EscrowView) : Prop where
  after : s'.escrow? key = some view'
  step : EscrowStep rt e view view'
  /-- The vault loses tokens only to a payout that closes the escrow. -/
  vault : (s'.payoutsOf key = s.payoutsOf key ∧ ∀ mint held,
      (s.accounts.contents (findVault rt key).1).IsToken mint key held → ∃ held',
        (s'.accounts.contents (findVault rt key).1).IsToken mint key held' ∧ held ≤ held') ∨
    (view.escrow.status = statusLocked ∧ ∃ p now infos, s'.payouts = p :: s.payouts ∧
      p.escrow = key ∧
      p.Happens rt now (SignedBy infos) s.accounts.contents s'.accounts.contents)

/-- A step of the ledger moves an escrow by at most one step. -/
theorem escrowMove_of_step (hrt : rt.Lawful) (hinv : Inv rt s) {e : Event}
    (h : (system rt).step s e s') (hview : s.escrow? key = some view) :
    ∃ view', EscrowMove rt e s s' key view view' := by
  obtain ⟨-, hact⟩ := h
  have hderived := (hinv.escrow key view hview).derived
  split at hact
  · obtain ⟨hsigners, rfl⟩ := hact
    rename_i infos data haction
    rcases execute_cases hrt { s with unixTimestamp := e.unixTimestamp } infos data with
      heq | ⟨accounts, now, -, o, ho, heq⟩ | ⟨accounts, now, hnow, p, hp, heq⟩
    -- the instruction failed, and nothing happened
    · rw [heq]
      exact ⟨view, hview, .stay view, .inl ⟨rfl, fun _ held h => ⟨held, h, UInt64.le_refl held⟩⟩⟩
    · rw [heq]
      -- another escrow was opened
      have hne : key ≠ o.escrow := by
        rintro rfl
        rw [State.escrow?, ho.absent] at hview
        cases hview
      refine ⟨view, ?_, .stay view, .inl ⟨rfl, fun mint held htoken => ⟨held, ?_, UInt64.le_refl held⟩⟩⟩
      · rw [State.escrow?, ho.escrow?_eq, if_neg hne]
        exact hview
      · rw [ho.vault_eq (isPda_of_findEscrow hrt hderived) hsigners htoken]
        exact htoken
    · rw [heq]
      -- a payout of this escrow, or of another one
      by_cases hkey : key = p.escrow
      · subst key
        obtain ⟨view₀, hview₀, hlocked, hafter⟩ := hp.view_after
        obtain rfl : view = view₀ := Option.some.inj (hview.symm.trans hview₀)
        rcases hafter with ⟨-, hwindow, preimage, hhash, hview'⟩ | ⟨-, hsigned, hwindow, hview'⟩
        · exact ⟨_, hview', .claimed view now preimage hlocked hnow hwindow hhash,
            .inr ⟨hlocked, p, now, infos, rfl, rfl, hp⟩⟩
        · exact ⟨_, hview', .refunded view now infos data hlocked hnow hwindow haction hsigned,
            .inr ⟨hlocked, p, now, infos, rfl, rfl, hp⟩⟩
      · refine ⟨view, (hp.escrow?_eq hkey).trans hview, .stay view, .inl ⟨?_, ?_⟩⟩
        · exact List.filter_cons_of_neg (by simpa using fun h => hkey h.symm)
        · exact fun mint held htoken => hp.vault_le hkey htoken
  -- something outside of the program, which does not touch what it owns
  · obtain ⟨hext, rfl⟩ := hact
    exact ⟨view, (hext.escrow?_eq key).trans hview, .stay view,
      .inl ⟨rfl, fun mint held htoken => hext.vaults key mint held htoken⟩⟩

/-- The terms of an escrow, which no event changes. -/
structure SameTerms (view view' : EscrowView) : Prop where
  payer : view'.escrow.payer = view.escrow.payer
  payee : view'.escrow.payee = view.escrow.payee
  mint : view'.escrow.mint = view.escrow.mint
  hashLock : view'.escrow.hashLock = view.escrow.hashLock
  amount : view'.escrow.amount = view.escrow.amount
  claimByMs : view'.claimByMs = view.claimByMs
  refundAfterMs : view'.escrow.refundAfterMs = view.escrow.refundAfterMs

/-- What every later state keeps of an escrow: its terms, and everything once it
is closed. -/
structure EscrowView.Later (view view' : EscrowView) : Prop where
  terms : SameTerms view view'
  closed : view.escrow.status ≠ statusLocked → view' = view

/-- An escrow is as late as itself. -/
theorem EscrowView.Later.refl (view : EscrowView) : view.Later view :=
  ⟨⟨rfl, rfl, rfl, rfl, rfl, rfl, rfl⟩, fun _ => rfl⟩

/-- A step makes an escrow later. -/
theorem EscrowStep.later {e : Event} {view' : EscrowView} (h : EscrowStep rt e view view') :
    view.Later view' := by
  cases h with
  | stay => exact .refl view
  | claimed now preimage hst =>
    exact ⟨⟨rfl, rfl, rfl, rfl, rfl, rfl, rfl⟩, fun hno => absurd hst hno⟩
  | refunded now infos data hst =>
    exact ⟨⟨rfl, rfl, rfl, rfl, rfl, rfl, rfl⟩, fun hno => absurd hst hno⟩

/-- Being later is transitive. -/
theorem EscrowView.Later.trans {view' view'' : EscrowView} (h : view.Later view')
    (h' : view'.Later view'') : view.Later view'' := by
  obtain ⟨⟨h1, h2, h3, h4, h5, h6, h7⟩, hclosed⟩ := h
  obtain ⟨⟨h1', h2', h3', h4', h5', h6', h7'⟩, hclosed'⟩ := h'
  refine ⟨⟨h1'.trans h1, h2'.trans h2, h3'.trans h3, h4'.trans h4, h5'.trans h5, h6'.trans h6,
    h7'.trans h7⟩, fun hno => ?_⟩
  obtain rfl := hclosed hno
  exact hclosed' hno

/-- An escrow is never removed, and a run makes it a later one. -/
theorem later_of_leads (hrt : rt.Lawful) {es : List Event} (hreach : (system rt).Reachable s)
    (hrun : (system rt).Leads s es s') (hview : s.escrow? key = some view) :
    ∃ view', s'.escrow? key = some view' ∧ view.Later view' := by
  have hrelated : ∀ view, s.escrow? key = some view →
      ∃ view', s'.escrow? key = some view' ∧ view.Later view' := by
    refine hrun.related (R := fun s s' => ∀ view, s.escrow? key = some view →
      ∃ view', s'.escrow? key = some view' ∧ view.Later view')
      (fun s view h => ?_) (fun s t u hst htu view h => ?_) (fun s e s' hr hstep view h => ?_) hreach
    · exact ⟨view, h, .refl view⟩
    · obtain ⟨view', h', hlater⟩ := hst view h
      obtain ⟨view'', h'', hlater'⟩ := htu view' h'
      exact ⟨view'', h'', hlater.trans hlater'⟩
    · obtain ⟨view', hmove⟩ := escrowMove_of_step hrt (inv_of_reachable hrt hr) hstep h
      exact ⟨view', hmove.after, hmove.step.later⟩
  exact hrelated view hview

-- ---------------------------------------------------------------------------
-- Safety
-- ---------------------------------------------------------------------------

/-- What holds in a state and after it. -/
structure EscrowSafety (rt : Runtime) (s : State) : Prop where
  /-- At most one lock was ever made for a payer and a hash lock, and every
  escrow is one of them. -/
  locks_once : s.locks.Nodup
  escrow_made : ∀ key view, s.escrow? key = some view →
    (view.escrow.payer, view.escrow.hashLock) ∈ s.locks ∧
      (findEscrow rt view.escrow.payer view.escrow.hashLock).1 = key
  /-- A locked escrow shows no secret, was not paid out, and its vault covers it. -/
  locked : ∀ key view, s.escrow? key = some view → view.escrow.status = statusLocked →
    view.revealed = 0 ∧ view.preimage = zeros 32 ∧ s.payoutsOf key = [] ∧
      ∃ held, (s.accounts.contents (findVault rt key).1).IsToken view.escrow.mint key held ∧
        view.escrow.amount ≤ held
  /-- Any other was paid out once: to the payee, with the secret stored that
  opens the hash lock, or to the payer, with no secret stored. -/
  closed : ∀ key view, s.escrow? key = some view → view.escrow.status ≠ statusLocked →
    ∃ p, s.payoutsOf key = [p] ∧ p.mint = view.escrow.mint ∧ view.escrow.amount ≤ p.amount ∧
      ((view.escrow.status = statusClaimed ∧ p.exit = .claim ∧ p.owner = view.escrow.payee ∧
          view.revealed = 1 ∧ rt.hash view.preimage.bytes = view.escrow.hashLock) ∨
        (view.escrow.status = statusRefunded ∧ p.exit = .refund ∧ p.owner = view.escrow.payer ∧
          view.revealed = 0 ∧ view.preimage = zeros 32))
  /-- An event leaves an escrow alone, claims it in time with its secret, or
  refunds it late with the payer's signature. -/
  moves : ∀ e s', (system rt).step s e s' → ∀ key view, s.escrow? key = some view →
    ∃ view', EscrowMove rt e s s' key view view'
  /-- A closed escrow stays as it is, and any keeps its terms. -/
  final : ∀ es s', (system rt).Leads s es s' → ∀ key view, s.escrow? key = some view →
    ∃ view', s'.escrow? key = some view' ∧ view.Later view'

/-- Every escrow of a reachable ledger is safe. -/
theorem escrowSafety_of_reachable (hrt : rt.Lawful) (h : (system rt).Reachable s) :
    EscrowSafety rt s := by
  have hinv := inv_of_reachable hrt h
  refine ⟨hinv.locks, fun key view hview => ?_, fun key view hview hst => ?_,
    fun key view hview hst => ?_, fun e s' hstep key view hview => ?_,
    fun es s' hrun key view hview => later_of_leads hrt h hrun hview⟩
  -- the parts of the invariant, one by one
  · have hescrow := hinv.escrow key view hview
    exact ⟨hescrow.made, by rw [hescrow.derived]⟩
  · obtain ⟨-, -, ⟨held, htoken, hcovers⟩, hphase⟩ := hinv.escrow key view hview
    obtain ⟨hps, hrev, hzero⟩ := hphase.of_locked hst
    exact ⟨hrev, hzero, hps, held, htoken, hcovers hst⟩
  · have hphase := (hinv.escrow key view hview).phase
    generalize s.payoutsOf key = ps at hphase
    -- a closed escrow has one payout, which says how it was closed
    cases hphase with
    | locked hlocked => exact absurd hlocked hst
    | closed p hstatus hclaim hrefund hmint howner henough =>
      refine ⟨p, rfl, hmint, henough, ?_⟩
      rcases hexit : p.exit with _ | _
      · rw [hexit] at hstatus howner
        obtain ⟨hrev, hhash⟩ := hclaim hexit
        exact .inl ⟨hstatus, rfl, howner, hrev, hhash⟩
      · rw [hexit] at hstatus howner
        obtain ⟨hrev, hzero⟩ := hrefund hexit
        exact .inr ⟨hstatus, rfl, howner, hrev, hzero⟩
  · exact escrowMove_of_step hrt hinv hstep hview

end

/-! ## A sample run

A payer locks 5 tokens under the hash of 32 zero bytes, into a pre-funded escrow
address, and anybody claims them for the payee. -/

namespace Sample

def key (bytes : List UInt8) (h : bytes.length = 32 := by decide) : Pubkey := ⟨bytes, h⟩

def payer : Pubkey := key (88 :: List.replicate 31 102)
def payee : Pubkey := key (List.replicate 32 7)
def payerTa : Pubkey := key (List.replicate 32 8)
def payeeTa : Pubkey := key (List.replicate 32 9)
def usdcMint : Pubkey := key
  [119, 5, 230, 28, 156, 242, 236, 89, 160, 146, 11, 108, 228, 237, 151, 207, 246, 54, 39, 163, 206,
   25, 158, 95, 95, 167, 255, 205, 91, 36, 203, 109]
def escrow : Pubkey := key
  [215, 120, 24, 185, 185, 35, 82, 118, 247, 146, 40, 10, 201, 8, 119, 112, 197, 68, 98, 96, 137, 141,
   47, 168, 43, 62, 74, 72, 112, 188, 200, 171]
def vault : Pubkey := key
  [246, 40, 104, 38, 47, 97, 59, 211, 38, 194, 11, 189, 100, 139, 102, 217, 10, 179, 104, 55, 50, 105,
   215, 202, 202, 46, 95, 47, 92, 57, 115, 32]
def secret : Bytes32 := zeros 32
def hashLock : Bytes32 := key
  [102, 104, 122, 173, 248, 98, 189, 119, 108, 143, 193, 139, 142, 159, 142, 32, 8, 151, 20, 133, 110,
   226, 51, 179, 144, 42, 89, 29, 13, 95, 41, 37]

/-- The reference runtime with the hash of the secret and the two addresses of
the run. -/
def rt : Runtime := Reference.runtime (fun _ => hashLock)
  (fun seeds _ =>
    if seeds = [escrowSeed, payer.bytes, hashLock.bytes] then (escrow, 255)
    else if seeds = [vaultSeed, escrow.bytes] then (vault, 254)
    else (systemProgram, 0)) usdcMint

def tokenAccount (owner : Pubkey) (amount : UInt64) : Account where
  lamports := 2039280
  data := ((Reference.tokenData usdcMint owner).write taAmount (u64ToLe amount)).bytes
  owner := tokenProgram
  executable := false

def accounts : Accounts := fun k =>
  if k = payer then ⟨10 ^ 9, [], systemProgram, false⟩
  else if k = payerTa then tokenAccount payer 7
  else if k = payeeTa then tokenAccount payee 1
  else if k = usdcMint then
    ⟨1461600, (((zeros 82).write mintDecimals (FixedBytes.u8 6)).write mintInit
      (FixedBytes.u8 1)).bytes, tokenProgram, false⟩
  else if k = tokenProgram ∨ k = systemProgram then ⟨1, [], zeros 32, true⟩
  else if k = escrow then ⟨1000, [], systemProgram, false⟩
  else ⟨0, [], systemProgram, false⟩

def start : State := ⟨accounts, 0, [], []⟩

def lockInfos : List AccountInfo :=
  [⟨payer, true, true⟩, ⟨escrow, false, true⟩, ⟨vault, false, true⟩, ⟨usdcMint, false, false⟩,
   ⟨payerTa, false, true⟩, ⟨tokenProgram, false, false⟩, ⟨systemProgram, false, false⟩]

def lockDataOf : List UInt8 :=
  0 :: hashLock.bytes ++ payee.bytes ++ (i64ToLe 1000).bytes ++ (i64ToLe 2000).bytes ++
    (u64ToLe 5).bytes

def claimInfos : List AccountInfo :=
  [⟨escrow, false, true⟩, ⟨vault, false, true⟩, ⟨usdcMint, false, false⟩, ⟨payeeTa, false, true⟩,
   ⟨tokenProgram, false, false⟩]

def final : State :=
  let locked := start.execute rt lockInfos lockDataOf
  ({ locked with unixTimestamp := 1 } : State).execute rt claimInfos (1 :: secret.bytes)

/-- The sample's runtime is lawful. -/
theorem lawful : rt.Lawful := Reference.lawful_runtime _ _ _

/-- The sample starts initial. -/
theorem initial_start : Initial start := by
  refine ⟨fun k hid => ?_, rfl, rfl⟩
  have hne : (accounts k).owner ≠ id := by
    unfold accounts
    split_ifs <;> simp only [tokenAccount] <;> decide
  exact absurd hid hne

/-- The payer has a key of its own. -/
theorem not_isPda_payer : ¬ rt.IsPda payer := by
  rintro ⟨seeds, hseeds⟩
  simp only [rt, Reference.runtime, Reference.createProgramAddress] at hseeds
  split_ifs at hseeds <;> exact absurd (Option.some.inj hseeds) (by decide)

/-- The sample's last state is reached. -/
theorem reachable_final : (system rt).Reachable final := by
  have hlock : (system rt).step start ⟨0, .instruction lockInfos lockDataOf⟩
      (start.execute rt lockInfos lockDataOf) := by
    refine ⟨Int64.le_refl _, fun a ha hsigned => ?_, rfl⟩
    obtain rfl : a = ⟨payer, true, true⟩ := by
      simp only [lockInfos, List.mem_cons, List.not_mem_nil, or_false] at ha
      rcases ha with rfl | rfl | rfl | rfl | rfl | rfl | rfl <;> first | rfl | cases hsigned
    exact not_isPda_payer
  refine ((Machine.Reachable.init initial_start).step hlock).step
    (e := ⟨1, .instruction claimInfos (1 :: secret.bytes)⟩) ⟨?_, fun a ha hsigned => ?_, rfl⟩
  · decide +kernel
  · simp only [claimInfos, List.mem_cons, List.not_mem_nil, or_false] at ha
    rcases ha with rfl | rfl | rfl | rfl | rfl <;> cases hsigned

end Sample

/-- After the sample run the escrow is claimed, and it stays so. -/
theorem escrowSafety_sample : EscrowSafety Sample.rt Sample.final ∧
    (Sample.final.escrow? Sample.escrow).map (fun view => view.escrow.status) =
      some statusClaimed :=
  ⟨escrowSafety_of_reachable Sample.lawful Sample.reachable_final, by decide +kernel⟩

end SwapDesk.Sol
