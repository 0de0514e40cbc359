import SwapDesk.Lib.Machine
import SwapDesk.Sol.Effects

/-!
# SwapDesk — the Solana program on its chain

The machine of all instructions the program can be given, in any order, with any
data, account lists and signers, at clocks that never go back, among the
transactions of everybody else. A failed instruction leaves the accounts as they
were.

Of the chain the machine has what the program relies on:

* nobody signs for an address derived from the program's id (`Runtime.IsPda`);
* other programs do not write to accounts this program owns, and an account
  that is handed to it holds zeros;
* a vault is a token account of its escrow, so nobody else takes tokens out of
  it: other transactions can only add to it.
-/

namespace SwapDesk.Sol

open Bytes

variable (rt : Runtime)

/-- The address is derived from the program's id. -/
def Runtime.IsPda (key : Pubkey) : Prop := ∃ seeds, rt.createProgramAddress seeds id = some key

/-- What a transaction of other programs can do. -/
structure External (c c' : Contents) : Prop where
  owned : ∀ k, (c k).owner = id → c' k = c k
  fresh : ∀ k, (c k).owner ≠ id → (c' k).owner = id → ∀ b ∈ (c' k).data, b = 0
  vaults : ∀ escrow mint held, (c (findVault rt escrow).1).IsToken mint escrow held →
    ∃ held', (c' (findVault rt escrow).1).IsToken mint escrow held' ∧ held ≤ held'

structure State where
  accounts : Accounts
  unixTimestamp : Int64
  /-- History: the payer and the hash lock of every lock made, newest first. -/
  locks : List (Pubkey × Bytes32)
  /-- History: every payout, newest first. -/
  payouts : List Payout

inductive Action
  | instruction (infos : List AccountInfo) (data : List UInt8)
  | external (accounts : Accounts)

structure Event where
  unixTimestamp : Int64
  action : Action

/-- Add a record to the history. -/
def State.record (s : State) : Option Record → State
  | some (.locked payer hashLock _) => { s with locks := (payer, hashLock) :: s.locks }
  | some (.paid p) => { s with payouts := p :: s.payouts }
  | none => s

/-- Run an instruction of the program. -/
def State.execute (s : State) (infos : List AccountInfo) (data : List UInt8) : State :=
  match processInstruction rt id s.unixTimestamp s.accounts infos data with
  | .error _ => s
  | .ok accounts =>
    { s.record (recordOf s.accounts.contents infos data) with accounts := accounts }

/-- One event. -/
def Step (s : State) (e : Event) (s' : State) : Prop :=
  s.unixTimestamp ≤ e.unixTimestamp ∧
  match e.action with
  | .instruction infos data =>
    (∀ a ∈ infos, a.isSigner = true → ¬ rt.IsPda a.key) ∧
    s' = ({ s with unixTimestamp := e.unixTimestamp } : State).execute rt infos data
  | .external accounts =>
    External rt s.accounts.contents accounts.contents ∧
    s' = { s with accounts := accounts, unixTimestamp := e.unixTimestamp }

/-- Before the first instruction: accounts the program was given hold zeros. -/
structure Initial (s : State) : Prop where
  zeroed : ∀ k, (s.accounts.contents k).owner = id → ∀ b ∈ (s.accounts.contents k).data, b = 0
  locks : s.locks = []
  payouts : s.payouts = []

def system : Machine State Event where
  init := Initial
  step := Step rt

-- ---------------------------------------------------------------------------
-- Reading a state
-- ---------------------------------------------------------------------------

/-- The account is an escrow the program made. -/
structure Content.IsEscrow (c : Content) : Prop where
  owner : c.owner = id
  length : c.data.length = escrowLen
  version : byteAt c.data offVersion = stateVersion

instance (c : Content) : Decidable c.IsEscrow :=
  decidable_of_iff (c.owner = id ∧ c.data.length = escrowLen ∧
    byteAt c.data offVersion = stateVersion)
    ⟨fun ⟨ho, hl, hv⟩ => ⟨ho, hl, hv⟩, fun h => ⟨h.owner, h.length, h.version⟩⟩

/-- The escrow at an address, when there is one. -/
def escrow? (c : Contents) (key : Pubkey) : Option EscrowView :=
  if (c key).IsEscrow then some (EscrowView.read (c key).data) else none

def State.escrow? (s : State) (key : Pubkey) : Option EscrowView :=
  Sol.escrow? s.accounts.contents key

/-- The payouts of an escrow. -/
def State.payoutsOf (s : State) (key : Pubkey) : List Payout :=
  s.payouts.filter fun p => p.escrow = key

section
variable {rt} {c c' : Contents} {key : Pubkey}

theorem escrow?_congr (h : c' key = c key) : escrow? c' key = escrow? c key := by
  rw [escrow?, escrow?, h]

theorem escrow?_of_owner_ne (h : (c key).owner ≠ id) : escrow? c key = none :=
  if_neg fun he => h he.owner

/-- Zeros are no escrow: the version byte is missing. -/
theorem escrow?_of_zeros (h : ∀ b ∈ (c key).data, b = 0) : escrow? c key = none := by
  refine if_neg fun he => ?_
  have hlt : offVersion < (c key).data.length := by
    rw [he.length]
    decide
  have hversion := he.version
  rw [byteAt, List.getD_eq_getElem _ _ hlt, h _ (List.getElem_mem hlt)] at hversion
  exact absurd hversion (by decide)

theorem escrow?_eq_some {view : EscrowView} (h : escrow? c key = some view) :
    (c key).IsEscrow ∧ view = EscrowView.read (c key).data := by
  unfold escrow? at h
  split_ifs at h with he
  exact ⟨he, (Option.some.inj h).symm⟩

end

end SwapDesk.Sol
