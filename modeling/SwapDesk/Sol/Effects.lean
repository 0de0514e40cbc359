import Mathlib.Logic.Function.Basic
import SwapDesk.Sol.Program

/-!
# SwapDesk — what a Solana instruction does

`Runtime.Lawful` states what the program relies on about its runtime: how
program addresses are derived, and what the system and token instructions it
invokes do when they succeed. From it every successful instruction has one of
two effects on what the accounts store: a new escrow with a funded vault, or one
escrow paid out in full.

Main result: `effect_of_processInstruction`.
-/

namespace SwapDesk.Sol

open Bytes FixedBytes Check

-- ---------------------------------------------------------------------------
-- Token accounts
-- ---------------------------------------------------------------------------

/-- An SPL token account of `mint` and `owner` that holds `amount`. -/
structure Content.IsToken (c : Content) (mint owner : Pubkey) (amount : UInt64) : Prop where
  program : c.owner = tokenProgram
  length : c.data.length = taLen
  mint : field 32 c.data taMint = mint
  owner : field 32 c.data taOwner = owner
  amount : u64FromLe (field 8 c.data taAmount) = amount

def Content.setAmount (c : Content) (amount : UInt64) : Content :=
  { c with data := patch c.data taAmount (u64ToLe amount).bytes }

theorem Content.IsToken.setAmount {c : Content} {mint owner : Pubkey} {held : UInt64}
    (h : c.IsToken mint owner held) (amount : UInt64) :
    (c.setAmount amount).IsToken mint owner amount := by
  have hrecord : (c.setAmount amount).data =
      ((⟨c.data, h.length⟩ : FixedBytes 165).write 64 (u64ToLe amount)).bytes := by
    rw [bytes_write _ _ (by omega)]
    rfl
  refine ⟨h.program, ?_, ?_, ?_, ?_⟩ <;> rw [hrecord]
  · exact FixedBytes.length_eq _
  · exact (field_write_of_disjoint _ _ (by omega) (by simp [taMint])).trans h.mint
  · exact (field_write_of_disjoint _ _ (by omega) (by simp [taOwner])).trans h.owner
  · rw [taAmount, field_write_self _ _ (by omega), u64FromLe_toLe]

/-- What all accounts store. -/
abbrev Contents := Pubkey → Content

def Accounts.contents (accts : Accounts) : Contents := fun k => (accts k).content

-- ---------------------------------------------------------------------------
-- What the program relies on
-- ---------------------------------------------------------------------------

/-- The documented behaviour of the runtime and of the instructions the program
invokes. Of an invoked instruction only success is described. -/
structure Runtime.Lawful (rt : Runtime) : Prop where
  /-- A program address is derived from the seeds and the bump found for them. -/
  derives : ∀ seeds programId, rt.createProgramAddress
    (seeds ++ [[(rt.findProgramAddress seeds programId).2]]) programId =
      some (rt.findProgramAddress seeds programId).1
  createAccount : ∀ {infos src dst lamports space owner seeds accts accts'}, space < 2 ^ 64 →
    rt.invokeSigned infos (createAccount src dst lamports space owner) seeds accts = .ok accts' →
    accts'.contents = Function.update accts.contents dst ⟨owner, List.replicate space 0⟩
  transfer : ∀ {infos src dst lamports seeds accts accts'},
    rt.invokeSigned infos (transfer src dst lamports) seeds accts = .ok accts' →
    accts'.contents = accts.contents
  allocate : ∀ {infos account space seeds accts accts'}, space < 2 ^ 64 →
    rt.invokeSigned infos (allocate account space) seeds accts = .ok accts' →
    accts'.contents = Function.update accts.contents account
      { accts.contents account with data := List.replicate space 0 }
  assign : ∀ {infos account owner seeds accts accts'},
    rt.invokeSigned infos (assign account owner) seeds accts = .ok accts' →
    accts'.contents = Function.update accts.contents account
      { accts.contents account with owner := owner }
  initializeAccount3 : ∀ {infos account mint owner seeds accts accts'},
    rt.invokeSigned infos (initializeAccount3Ix account mint owner) seeds accts = .ok accts' →
    ∃ c held, Content.IsToken c mint owner held ∧
      accts'.contents = Function.update accts.contents account c
  /-- The owner of a token account moves tokens to another account of the same
  mint, and nothing else changes. -/
  transferChecked : ∀ {infos source mint dest authority amount decimals seeds accts accts' before},
    source ≠ dest → (accts.contents source).IsToken mint authority before →
    rt.invokeSigned infos (transferCheckedIx source mint dest authority amount decimals) seeds
      accts = .ok accts' →
    ∃ destOwner held left got, (accts.contents dest).IsToken mint destOwner held ∧
      left.toNat + amount.toNat = before.toNat ∧ got.toNat = held.toNat + amount.toNat ∧
      accts'.contents = Function.update (Function.update accts.contents source
        ((accts.contents source).setAmount left)) dest ((accts.contents dest).setAmount got)

-- ---------------------------------------------------------------------------
-- Single steps
-- ---------------------------------------------------------------------------

section
variable {rt : Runtime} {accts accts' : Accounts}

theorem contents_setData (accts : Accounts) (key : Pubkey) (data : List UInt8) :
    (setData accts key data).contents =
      Function.update accts.contents key { accts.contents key with data := data } := by
  funext k
  by_cases hk : k = key
  · subst hk
    simp [setData, Accounts.contents, Account.content]
  · simp [setData, Accounts.contents, Function.update_of_ne hk]

theorem readTokenAccount_spec {a : AccountInfo} {mint owner : Pubkey} {amount : UInt64}
    (h : readTokenAccount accts a mint owner = .ok amount) :
    (accts.contents a.key).IsToken mint owner amount := by
  simp only [readTokenAccount, ensure, require_bind_eq_ok] at h
  obtain ⟨howner, ⟨hlen, -⟩, ⟨hmint, hta⟩, hamount⟩ := h
  exact ⟨howner, hlen, hmint, hta, Except.ok.inj hamount⟩

theorem readMint_spec {a : AccountInfo} {expected : Pubkey} {decimals : UInt8}
    (h : readMint accts a expected = .ok decimals) : a.key = expected := by
  simp only [readMint, ensure, require_bind_eq_ok] at h
  exact h.1

theorem topUp_spec (hrt : rt.Lawful) {payer target system : AccountInfo} {need : UInt64}
    (h : topUp rt accts payer target system need = .ok accts') :
    accts'.contents = accts.contents := by
  simp only [topUp] at h
  split at h
  · exact hrt.transfer h
  · rw [← Except.ok.inj h]

/-- `create_pda` turns a system-owned empty account into a zeroed one of the
new owner. -/
theorem createPda_spec (hrt : rt.Lawful) {payer target system : AccountInfo} {space : Nat}
    {owner : Pubkey} {seeds : List (List UInt8)} (hspace : space < 2 ^ 64)
    (h : createPda rt accts payer target system space owner seeds = .ok accts') :
    accts.contents target.key = ⟨systemProgram, []⟩ ∧
      accts'.contents =
        Function.update accts.contents target.key ⟨owner, List.replicate space 0⟩ := by
  simp only [createPda, ensure, require_bind_eq_ok] at h
  obtain ⟨⟨howner, hdata⟩, h⟩ := h
  refine ⟨by rw [Accounts.contents, Account.content, howner, hdata], ?_⟩
  split at h
  · exact hrt.createAccount hspace h
  · -- a pre-funded account is topped up, allocated and assigned
    simp only [bind_eq_ok] at h
    obtain ⟨topped, htopped, allocated, hallocated, hassigned⟩ := h
    rw [hrt.assign hassigned, hrt.allocate hspace hallocated, topUp_spec hrt htopped,
      Function.update_self, Function.update_idem]

theorem loadEscrow_spec {a : AccountInfo} {e : Escrow} (h : loadEscrow rt accts a = .ok e) :
    (accts.contents a.key).owner = id ∧ (accts.contents a.key).data.length = escrowLen ∧
      byteAt (accts.contents a.key).data offVersion = stateVersion ∧
      e = Escrow.read (accts.contents a.key).data := by
  simp only [loadEscrow, ensure, require_bind_eq_ok] at h
  obtain ⟨howner, ⟨hlen, hversion⟩, -, he⟩ := h
  exact ⟨howner, hlen, hversion, (Except.ok.inj he).symm⟩

end

-- ---------------------------------------------------------------------------
-- The effects of an instruction
-- ---------------------------------------------------------------------------

/-- Which way an escrow is paid out. -/
inductive Exit
  | claim
  | refund
deriving DecidableEq, Repr

/-- The status an exit leaves its escrow in. -/
def Exit.status : Exit → UInt8
  | .claim => statusClaimed
  | .refund => statusRefunded

/-- Whom an exit pays. -/
def Exit.recipient (e : Escrow) : Exit → Pubkey
  | .claim => e.payee
  | .refund => e.payer

/-- A new escrow: its parties, its terms and the accounts it takes part in. -/
structure Opening where
  payer : Pubkey
  payee : Pubkey
  hashLock : Bytes32
  amount : UInt64
  claimByMs : Int64
  refundAfterMs : Int64
  bump : UInt8
  escrow : Pubkey
  vault : Pubkey
  payerTa : Pubkey

/-- How the account of a new escrow reads. -/
def Opening.view (mint : Pubkey) (o : Opening) : EscrowView where
  version := stateVersion
  escrow := { bump := o.bump, status := statusLocked, payer := o.payer, payee := o.payee,
              mint := mint, hashLock := o.hashLock, amount := o.amount,
              refundAfterMs := o.refundAfterMs }
  revealed := 0
  preimage := zeros 32
  claimByMs := o.claimByMs

/-- `c` becomes `c'` by opening `o` at the time `now`, with the payer's signature. -/
structure Opening.Happens (rt : Runtime) (now : Int64) (signed : Pubkey → Prop) (c c' : Contents)
    (o : Opening) : Prop where
  signer : signed o.payer
  window : now < o.refundAfterMs
  derived : findEscrow rt o.payer o.hashLock = (o.escrow, o.bump)
  vault : (findVault rt o.escrow).1 = o.vault
  free : c o.escrow = ⟨systemProgram, []⟩
  vault_free : c o.vault = ⟨systemProgram, []⟩
  vault_ne : o.vault ≠ o.escrow
  source : ∃ held left, (c o.payerTa).IsToken rt.usdcMint o.payer held ∧
    left.toNat + o.amount.toNat = held.toNat ∧ c' o.payerTa = (c o.payerTa).setAmount left
  escrow_after : ∃ data, c' o.escrow = ⟨id, data⟩ ∧ data.length = escrowLen ∧
    EscrowView.read data = o.view rt.usdcMint
  vault_after : (c' o.vault).IsToken rt.usdcMint o.escrow o.amount
  others : ∀ k, k ≠ o.escrow → k ≠ o.vault → k ≠ o.payerTa → c' k = c k

/-- A payout: the accounts it goes between, what it moves, and the mint and the
owner of the account that receives it. -/
structure Payout where
  exit : Exit
  escrow : Pubkey
  vault : Pubkey
  dest : Pubkey
  amount : UInt64
  mint : Pubkey
  owner : Pubkey
deriving DecidableEq

/-- `c` becomes `c'` by the payout `p` of an escrow, at the time `now`. -/
structure Payout.Happens (rt : Runtime) (now : Int64) (signed : Pubkey → Prop) (c c' : Contents)
    (p : Payout) : Prop where
  owned : (c p.escrow).owner = id
  length : (c p.escrow).data.length = escrowLen
  version : byteAt (c p.escrow).data offVersion = stateVersion
  locked : (Escrow.read (c p.escrow).data).status = statusLocked
  vault : (findVault rt p.escrow).1 = p.vault
  /-- The whole vault is paid, which holds at least the stored amount. -/
  source : (c p.vault).IsToken (Escrow.read (c p.escrow).data).mint p.escrow p.amount
  enough : (Escrow.read (c p.escrow).data).amount ≤ p.amount
  /-- To the stored party, in the stored mint. -/
  mint : p.mint = (Escrow.read (c p.escrow).data).mint
  owner : p.owner = p.exit.recipient (Escrow.read (c p.escrow).data)
  dest_ne : p.dest ≠ p.vault
  moved : ∃ held got, (c p.dest).IsToken p.mint p.owner held ∧
    got.toNat = held.toNat + p.amount.toNat ∧ c' p.dest = (c p.dest).setAmount got
  vault_after : c' p.vault = (c p.vault).setAmount 0
  claimed : p.exit = .claim → now < (Escrow.read (c p.escrow).data).refundAfterMs ∧
    ∃ preimage : Bytes32, rt.hash preimage.bytes = (Escrow.read (c p.escrow).data).hashLock ∧
      c' p.escrow = ⟨id, claimData (c p.escrow).data preimage⟩
  refunded : p.exit = .refund → signed (Escrow.read (c p.escrow).data).payer ∧
    (Escrow.read (c p.escrow).data).refundAfterMs ≤ now ∧
    c' p.escrow = ⟨id, refundData (c p.escrow).data⟩
  others : ∀ k, k ≠ p.escrow → k ≠ p.vault → k ≠ p.dest → c' k = c k

/-- The payout an instruction makes when it succeeds, read off its accounts and
what they store before. -/
def payoutOf (c : Contents) (exit : Exit) (escrow vault dest : AccountInfo) : Payout where
  exit := exit
  escrow := escrow.key
  vault := vault.key
  dest := dest.key
  amount := u64FromLe (field 8 (c vault.key).data taAmount)
  mint := field 32 (c dest.key).data taMint
  owner := field 32 (c dest.key).data taOwner

/-- What a successful instruction leaves in the history. -/
inductive Record
  | locked (payer : Pubkey) (hashLock : Bytes32) (escrow : Pubkey)
  | paid (p : Payout)

/-- The record an instruction makes when it succeeds. -/
def recordOf (c : Contents) (infos : List AccountInfo) (data : List UInt8) : Option Record :=
  match data, infos with
  | 0 :: rest, payer :: escrow :: _ => some (.locked payer.key (field 32 rest 0) escrow.key)
  | 1 :: _, [escrow, vault, _, dest, _] => some (.paid (payoutOf c .claim escrow vault dest))
  | 2 :: _, [_, escrow, vault, _, dest, _] => some (.paid (payoutOf c .refund escrow vault dest))
  | _, _ => none

/-- The account signed the instruction. -/
def SignedBy (infos : List AccountInfo) (key : Pubkey) : Prop :=
  ∃ a ∈ infos, a.key = key ∧ a.isSigner = true

inductive Effect (rt : Runtime) (now : Int64) (infos : List AccountInfo) (c c' : Contents) :
    Record → Prop
  | opened (o : Opening) : o.Happens rt now (SignedBy infos) c c' →
      Effect rt now infos c c' (.locked o.payer o.hashLock o.escrow)
  | paid (p : Payout) : p.Happens rt now (SignedBy infos) c c' → Effect rt now infos c c' (.paid p)

section
variable {rt : Runtime} {accts accts' : Accounts} {unixTimestamp : Int64}
  {infos : List AccountInfo}

/-- A successful `lock` opens an escrow. -/
theorem opening_of_lock (hrt : rt.Lawful) {hashLock : Bytes32} {payee : Pubkey}
    {claimByMs refundAfterMs : Int64} {amount : UInt64}
    (h : lock rt unixTimestamp accts infos hashLock payee claimByMs refundAfterMs amount = .ok accts') :
    ∃ now, ∃ o : Opening, nowMs unixTimestamp = .ok now ∧
      o.Happens rt now (SignedBy infos) accts.contents accts'.contents ∧
      o.hashLock = hashLock ∧ ∃ payer escrow rest, infos = payer :: escrow :: rest ∧
        o.payer = payer.key ∧ o.escrow = escrow.key := by
  unfold lock at h
  split at h
  swap
  · cases h
  rename_i payer escrow vault mint payerTa tokenProg system
  rcases hescrow : findEscrow rt payer.key hashLock with ⟨escrowKey, bump⟩
  rcases hvault : findVault rt escrow.key with ⟨vaultKey, vaultBump⟩
  simp only [hescrow, hvault, requireDistinct, requireSigner, ensure, bind_eq_ok, require_eq_ok,
    exists_const, mapError_eq_ok] at h
  obtain ⟨hdistinct, hsigner, -, -, -, -, -, -, -, -, now, hnow, hwindow, rfl, rfl, -, decimals, hmint, held, hheld,
    -, created, hcreated, vaulted, hvaulted, initialized, hinitialized, funded, hfunded, got, hgot,
    rfl, hdone⟩ := h
  obtain rfl := Except.ok.inj hdone
  obtain ⟨hvault_ne, hta_ne, hta_ne'⟩ : escrow.key ≠ vault.key ∧ escrow.key ≠ payerTa.key ∧
      vault.key ≠ payerTa.key := by
    simp only [List.map_cons, List.map_nil, List.nodup_cons, List.mem_cons, not_or] at hdistinct
    tauto
  have hsource := readTokenAccount_spec hheld
  rw [readMint_spec hmint] at *
  -- the state before the transfer: a new escrow, a new vault, the rest as it was
  obtain ⟨hfree, hcreated⟩ := createPda_spec hrt (by decide) hcreated
  obtain ⟨hfree', hvaulted⟩ := createPda_spec hrt (by decide) hvaulted
  rw [contents_setData, Function.update_of_ne hvault_ne.symm, hcreated,
    Function.update_of_ne hvault_ne.symm] at hfree'
  obtain ⟨fresh, _, -, hinitialized⟩ := hrt.initializeAccount3 hinitialized
  have hbefore : initialized.contents = Function.update (Function.update accts.contents escrow.key
      ⟨id, lockData (List.replicate escrowLen 0) bump payer.key payee rt.usdcMint hashLock got
        claimByMs refundAfterMs⟩) vault.key fresh := by
    have hzeroed : (created escrow.key).data = List.replicate escrowLen 0 := by
      have hcontent := congrFun hcreated escrow.key
      rw [Function.update_self] at hcontent
      exact congrArg Content.data hcontent
    rw [hinitialized, hvaulted, Function.update_idem, contents_setData, hzeroed, hcreated,
      Function.update_idem, Function.update_self]
  have hta : initialized.contents payerTa.key = accts.contents payerTa.key := by
    rw [hbefore, Function.update_of_ne hta_ne'.symm, Function.update_of_ne hta_ne.symm]
  obtain ⟨_, _, left, _, -, hleft, -, hafter⟩ :=
    hrt.transferChecked hta_ne'.symm (hta ▸ hsource) hfunded
  have hdata := read_lockData (d := List.replicate escrowLen 0) List.length_replicate bump
    payer.key payee rt.usdcMint hashLock got claimByMs refundAfterMs
  refine ⟨now, ⟨payer.key, payee, hashLock, got, claimByMs, refundAfterMs, bump, escrow.key,
    vault.key, payerTa.key⟩, hnow, ⟨⟨payer, by simp, rfl, hsigner⟩, hwindow, hescrow, by rw [hvault], hfree, hfree',
    hvault_ne.symm, ⟨held, left, hsource, hleft, ?_⟩, ⟨_, ?_, hdata⟩, readTokenAccount_spec hgot,
    ?_⟩, rfl, payer, escrow, _, rfl, rfl, rfl⟩
  · simp only [hafter]
    rw [Function.update_of_ne hta_ne'.symm, Function.update_self, hta]
  · simp only [hafter, hbefore]
    rw [Function.update_of_ne hvault_ne, Function.update_of_ne hta_ne,
      Function.update_of_ne hvault_ne, Function.update_self]
  · intro k hk hk' hk''
    dsimp only at hk hk' hk''
    rw [hafter, Function.update_of_ne hk', Function.update_of_ne hk'', hbefore,
      Function.update_of_ne hk', Function.update_of_ne hk]

/-- `pay_out` empties the vault into the destination. -/
theorem payOut_spec (hrt : rt.Lawful) {e : Escrow} {escrow vault mint dest tokenProg : AccountInfo}
    (hne : vault.key ≠ dest.key)
    (h : payOut rt accts e escrow vault mint dest tokenProg = .ok accts') :
    ∃ amount destOwner held got, (accts.contents vault.key).IsToken e.mint escrow.key amount ∧
      e.amount ≤ amount ∧ (accts.contents dest.key).IsToken e.mint destOwner held ∧
      got.toNat = held.toNat + amount.toNat ∧
      accts'.contents = Function.update (Function.update accts.contents vault.key
        ((accts.contents vault.key).setAmount 0)) dest.key
        ((accts.contents dest.key).setAmount got) := by
  simp only [payOut, ensure, bind_eq_ok, require_eq_ok, exists_const] at h
  obtain ⟨decimals, hmint, amount, hamount, henough, hmoved⟩ := h
  have hsource := readTokenAccount_spec hamount
  rw [readMint_spec hmint] at hmoved
  obtain ⟨destOwner, held, left, got, hdest, hleft, hgot, hafter⟩ :=
    hrt.transferChecked hne hsource hmoved
  obtain rfl : left = 0 := UInt64.toNat_inj.mp (by rw [UInt64.toNat_zero]; omega)
  exact ⟨amount, destOwner, held, got, hsource, henough, hdest, hgot, hafter⟩

/-- A successful claim or refund, once it has written `data` to the escrow, is
a payout. -/
theorem payout_of_payOut (hrt : rt.Lawful) {exit : Exit} {e : Escrow} {now : Int64}
    {escrow vault mint dest tokenProg : AccountInfo} {data : List UInt8} {destAmount : UInt64}
    {signed : Pubkey → Prop}
    (hne : escrow.key ≠ vault.key ∧ escrow.key ≠ dest.key ∧ vault.key ≠ dest.key)
    (hload : loadEscrow rt accts escrow = .ok e) (hvault : (findVault rt escrow.key).1 = vault.key)
    (hstatus : e.status = statusLocked)
    (hdest : readTokenAccount accts dest e.mint (exit.recipient e) = .ok destAmount)
    (hpay : payOut rt (setData accts escrow.key data) e escrow vault mint dest tokenProg =
      .ok accts')
    (hclaim : exit = .claim → now < e.refundAfterMs ∧ ∃ preimage : Bytes32,
      rt.hash preimage.bytes = e.hashLock ∧
      data = claimData (accts.contents escrow.key).data preimage)
    (hrefund : exit = .refund → signed e.payer ∧ e.refundAfterMs ≤ now ∧
      data = refundData (accts.contents escrow.key).data) :
    (payoutOf accts.contents exit escrow vault dest).Happens rt now signed
      accts.contents accts'.contents := by
  -- the escrow is written before the tokens are moved, and the three accounts differ
  obtain ⟨hescrow_vault, hescrow_dest, hvault_dest⟩ := hne
  obtain ⟨howner, hlen, hversion, rfl⟩ := loadEscrow_spec hload
  obtain ⟨amount, _, held, got, hsource, henough, htoken, hgot, hafter⟩ :=
    payOut_spec hrt hvault_dest hpay
  have hread := readTokenAccount_spec hdest
  obtain rfl := hsource.amount
  rw [contents_setData] at hsource htoken hafter
  rw [Function.update_of_ne hescrow_vault.symm] at hsource hafter
  rw [Function.update_of_ne hescrow_dest.symm] at htoken hafter
  -- what is left in the escrow is what was written first
  have hescrow : accts'.contents escrow.key = ⟨id, data⟩ := by
    rw [hafter, Function.update_of_ne hescrow_dest, Function.update_of_ne hescrow_vault,
      Function.update_self, ← howner]
  refine ⟨howner, hlen, hversion, hstatus, hvault, ?_, ?_, hread.mint, hread.owner,
    hvault_dest.symm, ⟨held, got, ?_, ?_, ?_⟩, ?_, fun hexit => ?_, fun hexit => ?_, ?_⟩
  · exact hsource
  · simpa only [payoutOf, contents_setData, Function.update_of_ne hescrow_vault.symm] using henough
  · exact ⟨htoken.program, htoken.length, rfl, rfl, htoken.amount⟩
  · simpa only [payoutOf, contents_setData, Function.update_of_ne hescrow_vault.symm] using hgot
  · simp only [payoutOf, hafter, Function.update_self]
  · simp only [payoutOf, hafter]
    rw [Function.update_of_ne hvault_dest, Function.update_self]
  · obtain ⟨hnow, preimage, hhash, rfl⟩ := hclaim hexit
    exact ⟨hnow, preimage, hhash, hescrow⟩
  · obtain ⟨hsigned, hnow, rfl⟩ := hrefund hexit
    exact ⟨hsigned, hnow, hescrow⟩
  -- every other account is as it was
  · intro k hk hk' hk''
    simp only [payoutOf] at hk hk' hk''
    rw [hafter, Function.update_of_ne hk'', Function.update_of_ne hk', Function.update_of_ne hk]

/-- A successful `claim` is a payout to the payee. -/
theorem payout_of_claim (hrt : rt.Lawful) {preimage : Bytes32}
    (h : claim rt unixTimestamp accts infos preimage = .ok accts') :
    ∃ now escrow vault mint dest tokenProg, nowMs unixTimestamp = .ok now ∧
      infos = [escrow, vault, mint, dest, tokenProg] ∧
      (payoutOf accts.contents .claim escrow vault dest).Happens rt now (SignedBy infos)
        accts.contents accts'.contents := by
  unfold claim at h
  split at h
  swap
  · cases h
  rename_i escrow vault mint dest tokenProg
  simp only [requireDistinct, checkVaultKey, ensure, bind_eq_ok, require_eq_ok, exists_const] at h
  obtain ⟨hdistinct, -, -, -, -, e, hload, hvault, hstatus, now, hnow, hwindow, hhash, destAmount,
    hdest, hpay⟩ := h
  have hne : escrow.key ≠ vault.key ∧ escrow.key ≠ dest.key ∧ vault.key ≠ dest.key := by
    simp only [List.map_cons, List.map_nil, List.nodup_cons, List.mem_cons, not_or] at hdistinct
    tauto
  exact ⟨now, escrow, vault, mint, dest, tokenProg, hnow, rfl,
    payout_of_payOut hrt hne hload hvault hstatus hdest hpay
      (fun _ => ⟨hwindow, preimage, hhash, rfl⟩) (fun hexit => by cases hexit)⟩

/-- A successful `refund` is a payout to the payer, who signed. -/
theorem payout_of_refund (hrt : rt.Lawful)
    (h : refund rt unixTimestamp accts infos = .ok accts') :
    ∃ now payer escrow vault mint dest tokenProg, nowMs unixTimestamp = .ok now ∧
      infos = [payer, escrow, vault, mint, dest, tokenProg] ∧
      (payoutOf accts.contents .refund escrow vault dest).Happens rt now (SignedBy infos)
        accts.contents accts'.contents := by
  unfold refund at h
  split at h
  swap
  · cases h
  rename_i payer escrow vault mint dest tokenProg
  simp only [requireDistinct, requireSigner, checkVaultKey, ensure, bind_eq_ok, require_eq_ok,
    exists_const] at h
  obtain ⟨hdistinct, hsigner, -, -, -, -, e, hload, hvault, hpayer, hstatus, now, hnow, hwindow,
    destAmount, hdest, hpay⟩ := h
  have hne : escrow.key ≠ vault.key ∧ escrow.key ≠ dest.key ∧ vault.key ≠ dest.key := by
    simp only [List.map_cons, List.map_nil, List.nodup_cons, List.mem_cons, not_or] at hdistinct
    tauto
  exact ⟨now, payer, escrow, vault, mint, dest, tokenProg, hnow, rfl,
    payout_of_payOut hrt hne hload hvault hstatus hdest hpay (fun hexit => by cases hexit)
      (fun _ => ⟨⟨payer, by simp, hpayer.symm, hsigner⟩, hwindow, rfl⟩)⟩

/-- Every successful instruction has the effect its record says. -/
theorem effect_of_processInstruction (hrt : rt.Lawful) {data : List UInt8}
    (h : processInstruction rt id unixTimestamp accts infos data = .ok accts') :
    ∃ now record, nowMs unixTimestamp = .ok now ∧
      recordOf accts.contents infos data = some record ∧
      Effect rt now infos accts.contents accts'.contents record := by
  simp only [processInstruction, ensure, bind_eq_ok, require_eq_ok, exists_const, true_and] at h
  -- the first byte names the instruction
  split at h
  · cases h
  rename_i tag rest
  split_ifs at h with hlock hclaim hrefund
  · subst hlock
    simp only [bind_eq_ok, require_eq_ok, exists_const] at h
    obtain ⟨now, o, hnow, happens, hhash, payer, escrow, others, rfl, hpayer, hescrow⟩ :=
      opening_of_lock hrt h.2
    refine ⟨now, _, hnow, rfl, ?_⟩
    rw [← hpayer, ← hescrow, ← hhash]
    exact .opened o happens
  · subst hclaim
    simp only [bind_eq_ok, require_eq_ok, exists_const] at h
    obtain ⟨now, escrow, vault, mint, dest, tokenProg, hnow, rfl, happens⟩ :=
      payout_of_claim hrt h.2
    exact ⟨now, _, hnow, rfl, .paid _ happens⟩
  · subst hrefund
    simp only [bind_eq_ok, require_eq_ok, exists_const] at h
    obtain ⟨now, payer, escrow, vault, mint, dest, tokenProg, hnow, rfl, happens⟩ :=
      payout_of_refund hrt h.2
    exact ⟨now, _, hnow, rfl, .paid _ happens⟩

end

end SwapDesk.Sol
