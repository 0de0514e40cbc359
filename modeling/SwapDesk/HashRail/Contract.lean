import Mathlib.Algebra.GroupWithZero.Nat
import Mathlib.Logic.Function.Basic
import Mathlib.Logic.Relation
import SwapDesk.Lib.Check
import SwapDesk.Lib.Machine

/-!
# SwapDesk — the EVM hash rail and the tokens it calls

`contracts/EvmHashRail.sol` with tokens that run `contracts/mocks/MockERC20.sol`, among addresses
that run any other code. The rail ends each of its three functions by calling a token. Of a token
that is not one of the known ones nothing is assumed: its code may make any calls itself, of the
rail too, before it answers, and those may call further code. Whatever such code does is part of
the call (`Call`), so that what holds of every call holds whatever the code is.

A call that reverts leaves the world as it was, and its caller may go on. Amounts are natural
numbers with the overflow checks of the language. Times are natural numbers without: a block
timestamp has 64 bits, and 1000 times that is far from the bound. Gas is left out.
-/

namespace SwapDesk.HashRail

open Check

abbrev Address := BitVec 160
abbrev Bytes32 := BitVec 256

def UINT256_MAX : Nat := 2 ^ 256 - 1

-- ---------------------------------------------------------------------------
-- Storage
-- ---------------------------------------------------------------------------

inductive Status
  | none
  | locked
  | claimed
  | refunded
deriving DecidableEq, Repr

structure Lock where
  payer : Address
  payee : Address
  token : Address
  amount : Nat
  claimByMs : Nat
  refundAfterMs : Nat
  status : Status
deriving DecidableEq, Repr

/-- A row that was never written. -/
def Lock.empty : Lock := ⟨0, 0, 0, 0, 0, 0, .none⟩

inductive Event
  | locked (hashLock : Bytes32) (payer payee token : Address) (amount claimByMs refundAfterMs : Nat)
  | claimed (hashLock preimage : Bytes32)
  | refunded (hashLock : Bytes32)
deriving DecidableEq, Repr

/-- The storage of a token. -/
structure Token where
  balanceOf : Address → Nat
  allowance : Address → Address → Nat

/-- The storage of the rail and of every token, and the rail's events, newest first. -/
structure World where
  locks : Bytes32 → Lock
  tokens : Address → Token
  events : List Event

/-- Where the rail is, which addresses run the token's code, and the `sha256` precompile. -/
structure Deployment where
  rail : Address
  isToken : Address → Bool
  rail_not_token : isToken rail = false
  sha256 : Bytes32 → Bytes32

-- ---------------------------------------------------------------------------
-- The token
-- ---------------------------------------------------------------------------

/-- `_transfer` -/
def Token.move (t : Token) (src dst : Address) (amount : Nat) : Except String Token := do
  require (amount ≤ t.balanceOf src) "MockERC20: insufficient balance"
  let debited := Function.update t.balanceOf src (t.balanceOf src - amount)
  require (debited dst + amount ≤ UINT256_MAX) "arithmetic overflow"
  return { t with balanceOf := Function.update debited dst (debited dst + amount) }

def Token.transfer (t : Token) (sender dst : Address) (amount : Nat) :
    Except String (Token × Bool) := do
  let t ← t.move sender dst amount
  return (t, true)

/-- An allowance is spent, unless it is unlimited. -/
def Token.spend (t : Token) (src spender : Address) (amount : Nat) : Token :=
  let allowed := t.allowance src spender
  if allowed = UINT256_MAX then t
  else
    let left := Function.update (t.allowance src) spender (allowed - amount)
    { t with allowance := Function.update t.allowance src left }

def Token.transferFrom (t : Token) (sender src dst : Address) (amount : Nat) :
    Except String (Token × Bool) := do
  require (amount ≤ t.allowance src sender) "MockERC20: insufficient allowance"
  let t ← (t.spend src sender amount).move src dst amount
  return (t, true)

def Token.approve (t : Token) (sender spender : Address) (amount : Nat) : Token :=
  let approved := Function.update (t.allowance sender) spender amount
  { t with allowance := Function.update t.allowance sender approved }

def Token.mint (t : Token) (dst : Address) (amount : Nat) : Except String Token := do
  require (t.balanceOf dst + amount ≤ UINT256_MAX) "arithmetic overflow"
  return { t with balanceOf := Function.update t.balanceOf dst (t.balanceOf dst + amount) }

-- ---------------------------------------------------------------------------
-- The rail, up to its call of the token
-- ---------------------------------------------------------------------------

def World.setToken (w : World) (token : Address) (t : Token) : World :=
  { w with tokens := Function.update w.tokens token t }

def World.write (w : World) (hashLock : Bytes32) (row : Lock) (event : Event) : World :=
  { w with locks := Function.update w.locks hashLock row, events := event :: w.events }

section

variable (env : Deployment) (timestamp : Nat)

/-- `lock`, up to its `transferFrom`. -/
def World.lock (w : World) (sender : Address) (hashLock : Bytes32) (payee : Address)
    (amount : Nat) (token : Address) (claimByMs refundAfterMs : Nat) : Except String World := do
  require ((w.locks hashLock).status = .none) "EvmHashRail: lock exists"
  require (payee ≠ 0) "EvmHashRail: payee is zero address"
  require (0 < amount) "EvmHashRail: amount is zero"
  require (claimByMs < refundAfterMs) "EvmHashRail: claimByMs must precede refundAfterMs"
  require (timestamp * 1000 < refundAfterMs)
    "EvmHashRail: refusing to lock into an already-open refund window"
  return w.write hashLock ⟨sender, payee, token, amount, claimByMs, refundAfterMs, .locked⟩
    (.locked hashLock sender payee token amount claimByMs refundAfterMs)

/-- `claim`, up to its `transfer`. -/
def World.claim (w : World) (hashLock preimage : Bytes32) : Except String World := do
  let held := w.locks hashLock
  require (held.status ≠ .none) "EvmHashRail: claim on an unknown lock"
  require (held.status = .locked) "EvmHashRail: claim on a lock that is not locked"
  require (timestamp * 1000 < held.refundAfterMs) "EvmHashRail: claim after refundAfterMs"
  require (env.sha256 preimage = hashLock) "EvmHashRail: secret does not open the statement"
  return w.write hashLock { held with status := .claimed } (.claimed hashLock preimage)

/-- `refund`, up to its `transfer`. -/
def World.refund (w : World) (sender : Address) (hashLock : Bytes32) : Except String World := do
  let held := w.locks hashLock
  require (held.status ≠ .none) "EvmHashRail: refund on an unknown lock"
  require (held.status = .locked) "EvmHashRail: refund on a lock that is not locked"
  require (sender = held.payer) "EvmHashRail: only the payer refunds"
  require (held.refundAfterMs ≤ timestamp * 1000) "EvmHashRail: refund before refundAfterMs"
  return w.write hashLock { held with status := .refunded } (.refunded hashLock)

end

-- ---------------------------------------------------------------------------
-- Calls
-- ---------------------------------------------------------------------------

/-- What foreign code that is called as a token ends with. -/
inductive Answer
  | returns (ok : Bool)
  | reverts
deriving DecidableEq, Repr

/-- Who can be the sender of a call: anybody but the rail, which calls only tokens. -/
abbrev Caller (env : Deployment) := { a : Address // a ≠ env.rail }

/-- A call of the rail, of a token, or of foreign code. The calls that foreign code makes in turn
are part of it: for the rail's functions, those of the code that is called as the lock's token. -/
inductive Call (env : Deployment) where
  | lock (sender : Caller env) (hashLock : Bytes32) (payee : Address) (amount : Nat)
      (token : Address) (claimByMs refundAfterMs : Nat) (foreign : List (Call env))
      (answer : Answer)
  | claim (sender : Caller env) (hashLock preimage : Bytes32) (foreign : List (Call env))
      (answer : Answer)
  | refund (sender : Caller env) (hashLock : Bytes32) (foreign : List (Call env))
      (answer : Answer)
  | transfer (sender : Caller env) (token dst : Address) (amount : Nat)
  | transferFrom (sender : Caller env) (token src dst : Address) (amount : Nat)
  | approve (sender : Caller env) (token spender : Address) (amount : Nat)
  | mint (sender : Caller env) (token dst : Address) (amount : Nat)
  | other (sender : Caller env) (foreign : List (Call env)) (answer : Answer)

/-- A call of the token's code, which changes its storage. -/
def World.callToken (w : World) (token : Address)
    (code : Token → Except String (Token × Bool)) : Except String (World × Bool) := do
  let answered ← code (w.tokens token)
  return (w.setToken token answered.1, answered.2)

/-- Foreign code has run, and answers. -/
def Answer.give (ran : World) : Answer → Except String (World × Bool)
  | .returns ok => .ok (ran, ok)
  | .reverts => .error "reverted"

/-- The call of a token that ends each function of the rail. -/
def World.settle (env : Deployment) (w : World) (token : Address)
    (code : Token → Except String (Token × Bool)) (ran : World) (answer : Answer)
    (failed : String) : Except String World := do
  let answered ← if env.isToken token then w.callToken token code else answer.give ran
  require (answered.2 = true) failed
  return answered.1

section

variable {env : Deployment} (timestamp : Nat)

mutual

def Call.run (w : World) : Call env → Except String World
  | .lock sender hashLock payee amount token claimByMs refundAfterMs foreign answer => do
    let entered ← w.lock timestamp sender hashLock payee amount token claimByMs refundAfterMs
    entered.settle env token (·.transferFrom env.rail sender env.rail amount)
      (Call.runAll entered foreign) answer "EvmHashRail: transferFrom failed"
  | .claim _ hashLock preimage foreign answer => do
    let held := w.locks hashLock
    let entered ← w.claim env timestamp hashLock preimage
    entered.settle env held.token (·.transfer env.rail held.payee held.amount)
      (Call.runAll entered foreign) answer "EvmHashRail: transfer failed"
  | .refund sender hashLock foreign answer => do
    let held := w.locks hashLock
    let entered ← w.refund timestamp sender hashLock
    entered.settle env held.token (·.transfer env.rail held.payer held.amount)
      (Call.runAll entered foreign) answer "EvmHashRail: transfer failed"
  | .transfer sender token dst amount => do
    let called ← w.callToken token (·.transfer sender dst amount)
    return called.1
  | .transferFrom sender token src dst amount => do
    let called ← w.callToken token (·.transferFrom sender src dst amount)
    return called.1
  | .approve sender token spender amount =>
    return w.setToken token ((w.tokens token).approve sender spender amount)
  | .mint _ token dst amount => do
    let t ← (w.tokens token).mint dst amount
    return w.setToken token t
  | .other _ foreign answer => do
    let answered ← answer.give (Call.runAll w foreign)
    return answered.1

/-- One call after another; one that reverts leaves nothing. -/
def Call.runAll (w : World) : List (Call env) → World
  | [] => w
  | call :: calls =>
    match Call.run w call with
    | .ok w' => Call.runAll w' calls
    | .error _ => Call.runAll w calls

end

end

-- ---------------------------------------------------------------------------
-- The chain
-- ---------------------------------------------------------------------------

structure State where
  world : World
  timestamp : Nat

/-- A transaction, in a block of this time. -/
structure Transaction (env : Deployment) where
  timestamp : Nat
  call : Call env

/-- Block times do not decrease. -/
def State.step {env : Deployment} (s : State) (e : Transaction env) : Option State :=
  if e.timestamp < s.timestamp then none
  else some ⟨Call.runAll e.timestamp s.world [e.call], e.timestamp⟩

/-- A rail that was just deployed, among tokens in any state. The rail has approved nothing. -/
structure Initial (env : Deployment) (s : State) : Prop where
  locks : ∀ hashLock, s.world.locks hashLock = .empty
  events : s.world.events = []
  allowance : ∀ token, env.isToken token = true →
    ∀ spender, (s.world.tokens token).allowance env.rail spender = 0

def system (env : Deployment) : Machine State (Transaction env) :=
  Machine.ofFun (Initial env) State.step

/-! ## A sample run

Alice locks 4 of a known token for Bob. Then somebody locks a token of their own, whose code tries
to claim and to refund Alice's lock, to lock once more, and to take the known token. -/

namespace Sample

def alice : Address := 3
def bob : Address := 4
def mallory : Address := 6
def usdc : Address := 2
def evil : Address := 7
def hashLock : Bytes32 := 5
def secret : Bytes32 := 9

/-- The hash at the one secret of the run. -/
def deployment : Deployment where
  rail := 1
  isToken := fun a => a = usdc
  rail_not_token := by decide
  sha256 := fun preimage => if preimage = secret then hashLock else 0

def start : State where
  world := {
    locks := fun _ => .empty
    tokens := fun _ => {
      balanceOf := fun a => if a = alice then 7 else 0
      allowance := fun a spender => if a = alice ∧ spender = deployment.rail then 4 else 0 }
    events := [] }
  timestamp := 1

def caller (a : Address) (h : a ≠ deployment.rail := by decide) : Caller deployment := ⟨a, h⟩

def attack : List (Call deployment) :=
  [.claim (caller mallory) hashLock 8 [] (.returns true),
   .refund (caller mallory) hashLock [] (.returns true),
   .lock (caller evil) 8 mallory 1 evil 20000 30000 [] (.returns true),
   .transferFrom (caller evil) usdc deployment.rail mallory 1]

def transactions : List (Transaction deployment) :=
  [⟨10, .lock (caller alice) hashLock bob 4 usdc 20000 30000 [] (.returns true)⟩,
   ⟨11, .lock (caller mallory) 8 mallory 9 evil 20000 30000 attack (.returns true)⟩]

def final : State := (Machine.run State.step start transactions).getD start

theorem initial_start : Initial deployment start := by
  refine ⟨fun _ => rfl, rfl, fun token _ spender => ?_⟩
  show (if deployment.rail = alice ∧ spender = deployment.rail then 4 else 0) = 0
  exact if_neg fun h => absurd h.1 (by decide)

theorem leads_final : (system deployment).Leads start transactions final := by
  have hRun : Machine.run State.step start transactions = some final := rfl
  exact Machine.leads_of_run hRun

theorem reachable_final : (system deployment).Reachable final :=
  ⟨start, transactions, initial_start, leads_final⟩

end Sample

end SwapDesk.HashRail
