import SwapDesk.Sol.System

/-!
# SwapDesk — the invariant of the Solana program

Every escrow lies at the address of its payer and hash lock, its vault is a
token account of its own, and it is in one of two phases: locked, with the
stored amount in the vault and no payout, or closed by one exit, with exactly
one payout, to the party the exit pays. An opening makes one escrow where there
was none, a payout closes one that was locked, and both leave all other escrows
and their vaults intact, whatever accounts the instruction was given.

Main result: `inv_of_reachable`, from `inv_of_opening`, `inv_of_payout` and `inv_of_external`.
-/

namespace SwapDesk.Sol

open Bytes

/-- An escrow with its payouts. -/
inductive Phase (rt : Runtime) : EscrowView → List Payout → Prop
  | locked {view : EscrowView} : view.escrow.status = statusLocked → view.revealed = 0 →
      view.preimage = zeros 32 → Phase rt view []
  | closed {view : EscrowView} (p : Payout) : view.escrow.status = p.exit.status →
      (p.exit = .claim → view.revealed = 1 ∧ rt.hash view.preimage.bytes = view.escrow.hashLock) →
      (p.exit = .refund → view.revealed = 0 ∧ view.preimage = zeros 32) →
      p.mint = view.escrow.mint → p.owner = p.exit.recipient view.escrow →
      view.escrow.amount ≤ p.amount → Phase rt view [p]

/-- The vault of an escrow is a token account of its own, which covers the
stored amount as long as the escrow is locked. -/
structure Vaulted (rt : Runtime) (c : Contents) (key : Pubkey) (view : EscrowView) (held : UInt64) :
    Prop where
  token : (c (findVault rt key).1).IsToken view.escrow.mint key held
  covers : view.escrow.status = statusLocked → view.escrow.amount ≤ held

/-- What holds of the escrow at an address. -/
structure EscrowInv (rt : Runtime) (s : State) (key : Pubkey) (view : EscrowView) : Prop where
  derived : findEscrow rt view.escrow.payer view.escrow.hashLock = (key, view.escrow.bump)
  made : (view.escrow.payer, view.escrow.hashLock) ∈ s.locks
  vaulted : ∃ held, Vaulted rt s.accounts.contents key view held
  phase : Phase rt view (s.payoutsOf key)

structure Inv (rt : Runtime) (s : State) : Prop where
  escrow : ∀ key view, s.escrow? key = some view → EscrowInv rt s key view
  absent : ∀ key, s.escrow? key = none → s.payoutsOf key = []
  locks : s.locks.Nodup
  kept : ∀ payer hashLock, (payer, hashLock) ∈ s.locks → ∃ view,
    s.escrow? (findEscrow rt payer hashLock).1 = some view ∧
      view.escrow.payer = payer ∧ view.escrow.hashLock = hashLock

section
variable {rt : Runtime} {c c' : Contents} {key : Pubkey} {now : Int64} {infos : List AccountInfo}

-- ---------------------------------------------------------------------------
-- Token accounts and escrows lie apart
-- ---------------------------------------------------------------------------

/-- The token program is another program. -/
theorem tokenProgram_ne_id : tokenProgram ≠ id := by decide

/-- The system program is another program. -/
theorem systemProgram_ne_id : systemProgram ≠ id := by decide

/-- The system program is not the token program. -/
theorem systemProgram_ne_tokenProgram : systemProgram ≠ tokenProgram := by decide

/-- A token account has one mint, owner and amount. -/
theorem Content.IsToken.unique {d : Content} {mint mint' owner owner' : Pubkey}
    {held held' : UInt64} (h : d.IsToken mint owner held) (h' : d.IsToken mint' owner' held') :
    mint = mint' ∧ owner = owner' ∧ held = held' :=
  ⟨h.mint.symm.trans h'.mint, h.owner.symm.trans h'.owner, h.amount.symm.trans h'.amount⟩

/-- A token account holds no escrow. -/
theorem escrow?_of_token {mint owner : Pubkey} {held : UInt64}
    (h : (c key).IsToken mint owner held) : escrow? c key = none :=
  escrow?_of_owner_ne (by rw [h.program]; exact tokenProgram_ne_id)

/-- A token account lies at no address that is free or holds an escrow. -/
theorem Content.IsToken.ne_of_free {v : Pubkey} {mint owner : Pubkey} {held : UInt64}
    (h : (c v).IsToken mint owner held) (hfree : c key = ⟨systemProgram, []⟩) : v ≠ key := by
  rintro rfl
  have howner := h.program
  rw [hfree] at howner
  exact systemProgram_ne_tokenProgram howner

/-- A token account is not an account of this program. -/
theorem Content.IsToken.ne_of_owned {v : Pubkey} {mint owner : Pubkey} {held : UInt64}
    (h : (c v).IsToken mint owner held) (hid : (c key).owner = id) : v ≠ key := by
  rintro rfl
  exact tokenProgram_ne_id (h.program.symm.trans hid)

/-- An escrow lies at an address derived from the program's id. -/
theorem isPda_of_findEscrow (hrt : rt.Lawful) {payer : Pubkey} {hashLock : Bytes32} {bump : UInt8}
    (h : findEscrow rt payer hashLock = (key, bump)) : rt.IsPda key := by
  have hderived := hrt.derives [escrowSeed, payer.bytes, hashLock.bytes] id
  rw [show rt.findProgramAddress [escrowSeed, payer.bytes, hashLock.bytes] id = (key, bump) from h]
    at hderived
  exact ⟨_, hderived⟩

-- ---------------------------------------------------------------------------
-- What an opening does
-- ---------------------------------------------------------------------------

section
variable {o : Opening} (h : o.Happens rt now (SignedBy infos) c c')
include h

/-- An opening makes its escrow and no other. -/
theorem Opening.Happens.escrow?_eq (key : Pubkey) :
    escrow? c' key = if key = o.escrow then some (o.view rt.usdcMint) else escrow? c key := by
  split
  · subst key
    obtain ⟨data, hdata, hlen, hread⟩ := h.escrow_after
    have hversion : byteAt data offVersion = stateVersion := congrArg EscrowView.version hread
    rw [escrow?, hdata, if_pos ⟨rfl, hlen, hversion⟩, hread]
  rename_i hescrow
  by_cases hvault : key = o.vault
  · subst key
    rw [escrow?_of_token h.vault_after, escrow?_of_owner_ne]
    rw [h.vault_free]
    exact systemProgram_ne_id
  by_cases hsource : key = o.payerTa
  · subst key
    obtain ⟨held, left, htoken, -, hafter⟩ := h.source
    rw [escrow?_of_token htoken, escrow?_of_token (hafter ▸ htoken.setAmount left)]
  · exact escrow?_congr (h.others key hescrow hvault hsource)

/-- There was no escrow at the address of a new one. -/
theorem Opening.Happens.absent : escrow? c o.escrow = none :=
  escrow?_of_owner_ne (by rw [h.free]; exact systemProgram_ne_id)

/-- The vaults of other escrows are untouched: none of them is free, and none
belongs to a signer. -/
theorem Opening.Happens.vault_eq (hpda : rt.IsPda key)
    (hsigners : ∀ a ∈ infos, a.isSigner = true → ¬ rt.IsPda a.key) {v mint : Pubkey}
    {held : UInt64} (hv : (c v).IsToken mint key held) : c' v = c v := by
  refine h.others v (hv.ne_of_free h.free) (hv.ne_of_free h.vault_free) ?_
  rintro rfl
  obtain ⟨_, _, htoken, -⟩ := h.source
  obtain ⟨a, ha, hkey, hsigned⟩ := h.signer
  obtain ⟨-, howner, -⟩ := hv.unique htoken
  exact hsigners a ha hsigned (by rw [hkey, ← howner]; exact hpda)

end

-- ---------------------------------------------------------------------------
-- What a payout does
-- ---------------------------------------------------------------------------

section
variable {p : Payout} (h : p.Happens rt now (SignedBy infos) c c')
include h

/-- How the paid escrow reads afterwards. -/
theorem Payout.Happens.view_after : ∃ view, escrow? c p.escrow = some view ∧
    view.escrow.status = statusLocked ∧
    ((p.exit = .claim ∧ now < view.escrow.refundAfterMs ∧ ∃ preimage : Bytes32,
        rt.hash preimage.bytes = view.escrow.hashLock ∧
        escrow? c' p.escrow = some { view with
          escrow := { view.escrow with status := statusClaimed }
          revealed := 1
          preimage := preimage }) ∨
      (p.exit = .refund ∧ SignedBy infos view.escrow.payer ∧ view.escrow.refundAfterMs ≤ now ∧
        escrow? c' p.escrow = some { view with
          escrow := { view.escrow with status := statusRefunded } })) := by
  refine ⟨EscrowView.read (c p.escrow).data, if_pos ⟨h.owned, h.length, h.version⟩, h.locked, ?_⟩
  rcases hexit : p.exit with _ | _
  · obtain ⟨hnow, preimage, hhash, hafter⟩ := h.claimed hexit
    obtain ⟨hlen, hread⟩ := read_claimData h.length preimage
    have hversion : byteAt (claimData (c p.escrow).data preimage) offVersion = stateVersion :=
      (congrArg EscrowView.version hread).trans h.version
    refine .inl ⟨rfl, hnow, preimage, hhash, ?_⟩
    rw [escrow?, hafter, if_pos ⟨rfl, hlen, hversion⟩, hread]
    rfl
  · obtain ⟨hsigned, hnow, hafter⟩ := h.refunded hexit
    obtain ⟨hlen, hread⟩ := read_refundData h.length
    have hversion : byteAt (refundData (c p.escrow).data) offVersion = stateVersion :=
      (congrArg EscrowView.version hread).trans h.version
    refine .inr ⟨rfl, hsigned, hnow, ?_⟩
    rw [escrow?, hafter, if_pos ⟨rfl, hlen, hversion⟩, hread]
    rfl

/-- A payout changes its escrow and no other. -/
theorem Payout.Happens.escrow?_eq (hkey : key ≠ p.escrow) : escrow? c' key = escrow? c key := by
  by_cases hvault : key = p.vault
  · subst key
    rw [escrow?_of_token h.source, escrow?_of_token (h.vault_after ▸ h.source.setAmount 0)]
  by_cases hdest : key = p.dest
  · subst key
    obtain ⟨held, got, htoken, -, hafter⟩ := h.moved
    rw [escrow?_of_token htoken, escrow?_of_token (hafter ▸ htoken.setAmount got)]
  · exact escrow?_congr (h.others key hkey hvault hdest)

/-- The vaults of other escrows lose nothing. One of them may be the account a
payout goes to. -/
theorem Payout.Happens.vault_le (hkey : key ≠ p.escrow) {v mint : Pubkey} {held : UInt64}
    (hv : (c v).IsToken mint key held) :
    ∃ held', (c' v).IsToken mint key held' ∧ held ≤ held' := by
  have hvault : v ≠ p.vault := by
    rintro rfl
    exact hkey (hv.unique h.source).2.1
  by_cases hdest : v = p.dest
  · subst v
    obtain ⟨held₀, got, htoken, hgot, hafter⟩ := h.moved
    obtain ⟨-, -, rfl⟩ := hv.unique htoken
    refine ⟨got, hafter ▸ hv.setAmount got, UInt64.le_iff_toNat_le.mpr ?_⟩
    omega
  · exact ⟨held, by rwa [h.others v (hv.ne_of_owned h.owned) hvault hdest], UInt64.le_refl held⟩

end

-- ---------------------------------------------------------------------------
-- What other programs do
-- ---------------------------------------------------------------------------

/-- Other programs change no escrow. -/
theorem External.escrow?_eq (h : External rt c c') (key : Pubkey) :
    escrow? c' key = escrow? c key := by
  by_cases hid : (c key).owner = id
  · exact escrow?_congr (h.owned key hid)
  rw [escrow?_of_owner_ne hid]
  by_cases hid' : (c' key).owner = id
  · exact escrow?_of_zeros (h.fresh key hid hid')
  · exact escrow?_of_owner_ne hid'

end

-- ---------------------------------------------------------------------------
-- Every event keeps the invariant
-- ---------------------------------------------------------------------------

section
variable {rt : Runtime} {s s' : State} {now : Int64} {infos : List AccountInfo}
  {accounts : Accounts}

/-- The invariant holds initially. -/
theorem inv_of_initial (h : Initial s) : Inv rt s := by
  have hnone : ∀ key, s.escrow? key = none := by
    intro key
    by_cases hid : (s.accounts.contents key).owner = id
    · exact escrow?_of_zeros (h.zeroed key hid)
    · exact escrow?_of_owner_ne hid
  refine ⟨fun key view hview => ?_, fun key _ => ?_, ?_, fun payer hashLock hmem => ?_⟩
  · rw [hnone] at hview
    cases hview
  · rw [State.payoutsOf, h.payouts]
    rfl
  · rw [h.locks]
    exact List.nodup_nil
  · rw [h.locks] at hmem
    cases hmem

/-- The payer and hash lock of a new escrow were not used before. -/
theorem Inv.fresh (h : Inv rt s) {o : Opening} {c' : Contents}
    (ho : o.Happens rt now (SignedBy infos) s.accounts.contents c') :
    (o.payer, o.hashLock) ∉ s.locks := by
  intro hmem
  obtain ⟨view, hview, -⟩ := h.kept _ _ hmem
  rw [ho.derived] at hview
  rw [State.escrow?, ho.absent] at hview
  cases hview

/-- An opening keeps the invariant. -/
theorem inv_of_opening (hrt : rt.Lawful) (h : Inv rt s) {o : Opening}
    (hsigners : ∀ a ∈ infos, a.isSigner = true → ¬ rt.IsPda a.key)
    (ho : o.Happens rt now (SignedBy infos) s.accounts.contents accounts.contents) :
    Inv rt { s with accounts := accounts, locks := (o.payer, o.hashLock) :: s.locks } := by
  have hescrow := ho.escrow?_eq
  refine ⟨fun key view hview => ?_, fun key hnone => ?_, ?_, fun payer hashLock hmem => ?_⟩
  -- the escrow just made, or one of before
  · rw [State.escrow?, hescrow] at hview
    split at hview
    · obtain rfl := Option.some.inj hview
      subst key
      refine ⟨ho.derived, List.mem_cons_self, ⟨o.amount, ?_, fun _ => UInt64.le_refl _⟩, ?_⟩
      · rw [ho.vault]
        -- it has no payouts yet
        exact ho.vault_after
      · have hpayouts : s.payoutsOf o.escrow = [] := h.absent _ ho.absent
        exact hpayouts ▸ .locked rfl rfl rfl
    · obtain ⟨hderived, hmade, ⟨held, htoken, hcovers⟩, hphase⟩ := h.escrow key view hview
      refine ⟨hderived, List.mem_cons_of_mem _ hmade, ⟨held, ?_, hcovers⟩, hphase⟩
      rw [ho.vault_eq (isPda_of_findEscrow hrt hderived) hsigners htoken]
      exact htoken
  · rw [State.escrow?, hescrow] at hnone
    split at hnone
    · cases hnone
    · exact h.absent key hnone
  · exact List.nodup_cons.mpr ⟨h.fresh ho, h.locks⟩
  -- its record, or an older one
  · rcases List.mem_cons.mp hmem with heq | hold
    · obtain ⟨rfl, rfl⟩ := Prod.mk.inj heq
      refine ⟨o.view rt.usdcMint, ?_, rfl, rfl⟩
      rw [State.escrow?, hescrow, ho.derived, if_pos rfl]
    · obtain ⟨view, hview, hpayer, hhash⟩ := h.kept payer hashLock hold
      refine ⟨view, ?_, hpayer, hhash⟩
      rw [State.escrow?, hescrow, if_neg]
      · exact hview
      · intro heq
        rw [State.escrow?, heq, ho.absent] at hview
        cases hview

/-- A locked escrow has no payout and shows no secret. -/
theorem Phase.of_locked {view : EscrowView} {ps : List Payout} (h : Phase rt view ps)
    (hst : view.escrow.status = statusLocked) :
    ps = [] ∧ view.revealed = 0 ∧ view.preimage = zeros 32 := by
  cases h with
  | locked _ hrev hzero => exact ⟨rfl, hrev, hzero⟩
  | closed p hst' _ _ _ _ _ =>
    rw [hst] at hst'
    rcases hexit : p.exit with _ | _ <;> rw [hexit] at hst' <;> exact absurd hst' (by decide)

/-- An escrow that was paid out is closed by that payout. -/
theorem Phase.of_payout {p : Payout} {view : EscrowView} {c' : Contents}
    (hp : p.Happens rt now (SignedBy infos) s.accounts.contents c')
    (hview : s.escrow? p.escrow = some view) (hrev : view.revealed = 0)
    (hzero : view.preimage = zeros 32) {view' : EscrowView}
    (hview' : escrow? c' p.escrow = some view') :
    Phase rt view' [p] ∧ view'.escrow.status ≠ statusLocked ∧
      view'.escrow.bump = view.escrow.bump ∧ view'.escrow.payer = view.escrow.payer ∧
      view'.escrow.hashLock = view.escrow.hashLock ∧ view'.escrow.mint = view.escrow.mint := by
  obtain ⟨view₀, hview₀, -, hafter⟩ := hp.view_after
  obtain rfl : view = view₀ := Option.some.inj (hview.symm.trans hview₀)
  obtain ⟨-, hread⟩ := escrow?_eq_some hview₀
  have hescrow : view.escrow = Escrow.read (s.accounts.contents p.escrow).data := by rw [hread]; rfl
  have hmint := hp.mint
  have howner := hp.owner
  have henough := hp.enough
  rw [← hescrow] at hmint howner henough
  -- a claim or a refund
  rcases hafter with ⟨hexit, -, preimage, hhash, heq⟩ | ⟨hexit, -, -, heq⟩
  · obtain rfl := Option.some.inj (hview'.symm.trans heq)
    rw [hexit] at howner
    refine ⟨.closed p (by rw [hexit]; rfl) (fun _ => ⟨rfl, hhash⟩) (fun hr => ?_) hmint ?_ henough,
      show statusClaimed ≠ statusLocked by decide, rfl, rfl, rfl, rfl⟩
    · rw [hexit] at hr
      cases hr
    · rw [hexit]
      exact howner
  · obtain rfl := Option.some.inj (hview'.symm.trans heq)
    rw [hexit] at howner
    refine ⟨.closed p (by rw [hexit]; rfl) (fun hc => ?_) (fun _ => ⟨hrev, hzero⟩) hmint ?_ henough,
      show statusRefunded ≠ statusLocked by decide, rfl, rfl, rfl, rfl⟩
    · rw [hexit] at hc
      cases hc
    · rw [hexit]
      exact howner

/-- A payout keeps the invariant. -/
theorem inv_of_payout (h : Inv rt s) {p : Payout}
    (hp : p.Happens rt now (SignedBy infos) s.accounts.contents accounts.contents) :
    Inv rt { s with accounts := accounts, payouts := p :: s.payouts } := by
  generalize hs' : ({ s with accounts := accounts, payouts := p :: s.payouts } : State) = s'
  -- every other escrow is as it was
  have hother : ∀ key, key ≠ p.escrow →
      s'.escrow? key = s.escrow? key ∧ s'.payoutsOf key = s.payoutsOf key := by
    rintro key hkey
    subst hs'
    exact ⟨hp.escrow?_eq hkey, List.filter_cons_of_neg (by simpa using hkey.symm)⟩
  obtain ⟨view, hview, hlocked, hafter⟩ := hp.view_after
  obtain ⟨view', hview'⟩ : ∃ view', escrow? accounts.contents p.escrow = some view' := by
    rcases hafter with ⟨-, -, _, -, heq⟩ | ⟨-, -, -, heq⟩ <;> exact ⟨_, heq⟩
  have hold := h.escrow p.escrow view hview
  obtain ⟨hps, hrev, hzero⟩ := hold.phase.of_locked hlocked
  obtain ⟨hphase, hclosed, hbump, hpayer, hhash, hmint⟩ :=
    Phase.of_payout hp hview hrev hzero hview'
  have hpaid : s'.escrow? p.escrow = some view' ∧ s'.payoutsOf p.escrow = [p] := by
    subst hs'
    refine ⟨hview', ?_⟩
    rw [State.payoutsOf, List.filter_cons_of_pos (by simp)]
    exact congrArg _ hps
  have hlocks : s'.locks = s.locks := hs' ▸ rfl
  refine ⟨fun key v hv => ?_, fun key hnone => ?_, hlocks ▸ h.locks, fun payer hashLock hmem => ?_⟩
  -- the escrow that was paid out is closed, and its vault is empty
  · by_cases hkey : key = p.escrow
    · subst key
      obtain rfl := Option.some.inj (hv.symm.trans hpaid.1)
      refine ⟨?_, ?_, ⟨0, ?_, fun hst => absurd hst hclosed⟩, ?_⟩
      · rw [hpayer, hhash, hbump]
        exact hold.derived
      · rw [hpayer, hhash, hlocks]
        exact hold.made
      · obtain ⟨-, hread⟩ := escrow?_eq_some hview
        have hescrow : Escrow.read (s.accounts.contents p.escrow).data = view.escrow := by
          rw [hread]
          rfl
        have hempty := hp.source.setAmount 0
        rw [← hp.vault_after, ← hp.vault, hescrow, ← hmint] at hempty
        exact hs' ▸ hempty
      · rw [hpaid.2]
        exact hphase
    -- another vault did not lose anything
    · obtain ⟨hsame, hps'⟩ := hother key hkey
      rw [hsame] at hv
      obtain ⟨hderived, hmade, ⟨held, htoken, hcovers⟩, hphase⟩ := h.escrow key v hv
      obtain ⟨held', htoken', hle⟩ := hp.vault_le hkey htoken
      refine ⟨hderived, hlocks ▸ hmade, ⟨held', hs' ▸ htoken', fun hst => ?_⟩, hps' ▸ hphase⟩
      exact UInt64.le_trans (hcovers hst) hle
  · have hkey : key ≠ p.escrow := by
      rintro rfl
      rw [hpaid.1] at hnone
      cases hnone
    obtain ⟨hsame, hps'⟩ := hother key hkey
    rw [hps']
    exact h.absent key (hsame ▸ hnone)
  · rw [hlocks] at hmem
    obtain ⟨v, hv, hpayer', hhash'⟩ := h.kept payer hashLock hmem
    by_cases hkey : (findEscrow rt payer hashLock).1 = p.escrow
    · rw [hkey] at hv ⊢
      obtain rfl := Option.some.inj (hv.symm.trans hview)
      exact ⟨view', hpaid.1, hpayer.trans hpayer', hhash.trans hhash'⟩
    · exact ⟨v, (hother _ hkey).1.trans hv, hpayer', hhash'⟩

/-- Other programs keep the invariant. -/
theorem inv_of_external (h : Inv rt s) (hext : External rt s.accounts.contents accounts.contents) :
    Inv rt { s with accounts := accounts } := by
  have hsame : ∀ key, ({ s with accounts := accounts } : State).escrow? key = s.escrow? key :=
    hext.escrow?_eq
  refine ⟨fun key view hview => ?_, fun key hnone => h.absent key (hsame key ▸ hnone), h.locks,
    fun payer hashLock hmem => ?_⟩
  · rw [hsame] at hview
    obtain ⟨hderived, hmade, ⟨held, htoken, hcovers⟩, hphase⟩ := h.escrow key view hview
    obtain ⟨held', htoken', hle⟩ := hext.vaults key _ held htoken
    exact ⟨hderived, hmade, ⟨held', htoken', fun hst => UInt64.le_trans (hcovers hst) hle⟩, hphase⟩
  · obtain ⟨view, hview, hparts⟩ := h.kept payer hashLock hmem
    exact ⟨view, (hsame _).trans hview, hparts⟩

/-- What an instruction of the program leaves: the state as it was, or the
effect of its record. -/
theorem execute_cases (hrt : rt.Lawful) (s : State) (infos : List AccountInfo) (data : List UInt8) :
    s.execute rt infos data = s ∨
    (∃ accounts now, nowMs s.unixTimestamp = .ok now ∧ ∃ o : Opening,
      o.Happens rt now (SignedBy infos) s.accounts.contents accounts.contents ∧
      s.execute rt infos data =
        { s with accounts := accounts, locks := (o.payer, o.hashLock) :: s.locks }) ∨
    (∃ accounts now, nowMs s.unixTimestamp = .ok now ∧ ∃ p : Payout,
      p.Happens rt now (SignedBy infos) s.accounts.contents accounts.contents ∧
      s.execute rt infos data = { s with accounts := accounts, payouts := p :: s.payouts }) := by
  unfold State.execute
  split
  · exact .inl rfl
  rename_i accounts hok
  obtain ⟨now, record, hnow, hrecord, heffect⟩ := effect_of_processInstruction hrt hok
  rw [hrecord]
  cases heffect with
  | opened o ho => exact .inr (.inl ⟨accounts, now, hnow, o, ho, rfl⟩)
  | paid p hp => exact .inr (.inr ⟨accounts, now, hnow, p, hp, rfl⟩)

/-- The passing of time keeps the invariant. -/
theorem Inv.at (h : Inv rt s) (unixTimestamp : Int64) :
    Inv rt { s with unixTimestamp := unixTimestamp } := by
  refine ⟨fun key view hview => ?_, h.absent, h.locks, h.kept⟩
  obtain ⟨hderived, hmade, hvaulted, hphase⟩ := h.escrow key view hview
  exact ⟨hderived, hmade, hvaulted, hphase⟩

/-- The invariant holds in every reachable ledger. -/
theorem inv_of_reachable (hrt : rt.Lawful) (h : (system rt).Reachable s) : Inv rt s := by
  refine Machine.invariant (fun _ => inv_of_initial) (fun s e s' _ hinv hstep => ?_) h
  obtain ⟨-, hact⟩ := hstep
  split at hact
  · obtain ⟨hsigners, rfl⟩ := hact
    rename_i infos data _
    have hinv' := hinv.at e.unixTimestamp
    rcases execute_cases hrt { s with unixTimestamp := e.unixTimestamp } infos data with
      heq | ⟨_, _, -, o, ho, heq⟩ | ⟨_, _, -, p, hp, heq⟩
    · rw [heq]
      exact hinv'
    · rw [heq]
      exact inv_of_opening hrt hinv' hsigners ho
    · rw [heq]
      exact inv_of_payout hinv' hp
  · obtain ⟨hext, rfl⟩ := hact
    exact inv_of_external (hinv.at e.unixTimestamp) hext

end

end SwapDesk.Sol
