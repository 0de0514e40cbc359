import SwapDesk.Lib.Json
import SwapDesk.Near.Text

/-!
# SwapDesk — the NEAR HTLC contract

`contracts-near/htlc/src/lib.rs`, method by method. A method is a function of
the host, the call's context and the contract's state; a panic is an `error`
with the panic's text and leaves the caller with the state it had.

The host and the libraries of the contract enter as the parameter `Host`:
`env::sha256`, `serde_json` and the parsing of an account id. What the contract
makes of a JSON value is its own (`LockMsg.ofJson`). Nothing below depends on
what the parameters compute.
-/

namespace SwapDesk.Near

-- ---------------------------------------------------------------------------
-- Data
-- ---------------------------------------------------------------------------

inductive LockStatus
  | locked
  | claiming
  | claimed
  | refunding
  | refunded
deriving DecidableEq, Repr

def LockStatus.asStr : LockStatus → String
  | .locked => "Locked"
  | .claiming => "Claiming"
  | .claimed => "Claimed"
  | .refunding => "Refunding"
  | .refunded => "Refunded"

/-- The fixed-size slot `[u8; 32]`. -/
structure Bytes32 where
  bytes : List UInt8
  length_eq : bytes.length = 32
deriving DecidableEq

/-- `[0u8; 32]`. -/
def Bytes32.zero : Bytes32 := ⟨List.replicate 32 0, List.length_replicate⟩

structure Lock where
  payer : AccountId
  payee : AccountId
  token : AccountId
  amount : Nat
  claimByMs : Nat
  refundAfterMs : Nat
  status : LockStatus
  preimage : Bytes32
  revealed : Bool
deriving DecidableEq

/-- `get_lock`'s return shape; amounts and times as decimal strings. -/
structure LockView where
  payer : AccountId
  payee : AccountId
  token : AccountId
  amount : String
  claimByMs : String
  refundAfterMs : String
  status : String
  preimage : Option String
deriving DecidableEq

def LockView.ofLock (l : Lock) : LockView where
  payer := l.payer
  payee := l.payee
  token := l.token
  amount := toString l.amount
  claimByMs := toString l.claimByMs
  refundAfterMs := toString l.refundAfterMs
  status := l.status.asStr
  preimage := if l.revealed then some (hexEncode l.preimage.bytes) else none

/-- Which exit path a pending `ft_transfer` callback is resolving. -/
inductive Exit
  | claim
  | refund
deriving DecidableEq, Repr

/-- The `msg` of `ft_on_transfer`. -/
structure LockMsg where
  hashLock : String
  payee : String
  claimByMs : String
  refundAfterMs : String

/-- The names of the fields, in their order. -/
def LockMsg.FIELDS : List String := ["hash_lock", "payee", "claim_by_ms", "refund_after_ms"]

/-- `Deserialize`, as it is derived with `deny_unknown_fields`. -/
def LockMsg.ofJson : Json → Option LockMsg
  -- a derived struct is read from its values in order, too
  | .arr [.str hashLock, .str payee, .str claimByMs, .str refundAfterMs] =>
    some ⟨hashLock, payee, claimByMs, refundAfterMs⟩
  | .obj fields => do
    -- an unknown field and one that is there twice are refused
    guard ((fields.map Prod.fst).Nodup ∧ ∀ key ∈ fields.map Prod.fst, key ∈ FIELDS)
    let hashLock ← (Json.obj fields).text? "hash_lock"
    let payee ← (Json.obj fields).text? "payee"
    let claimByMs ← (Json.obj fields).text? "claim_by_ms"
    let refundAfterMs ← (Json.obj fields).text? "refund_after_ms"
    return ⟨hashLock, payee, claimByMs, refundAfterMs⟩
  | _ => none

structure Contract where
  locks : String → Option Lock
  usdcToken : AccountId

/-- What the contract takes from its host and its libraries. -/
structure Host where
  sha256 : List UInt8 → List UInt8
  /-- `serde_json` on a text; an object has its fields as they are written, repeated ones too. -/
  parseJson : String → Option Json
  parseAccountId : String → Option AccountId
  currentAccountId : AccountId
  storageByteCost : Nat

/-- `serde_json::from_str::<LockMsg>` -/
def Host.parseLockMsg (host : Host) (msg : String) : Option LockMsg :=
  (host.parseJson msg).bind LockMsg.ofJson

/-- What a call reads from its environment. `storageUsage` and
`accountBalance` are what the host answers after the insertion of a lock. -/
structure Ctx where
  predecessorAccountId : AccountId
  blockTimestampMs : Nat
  storageUsage : Nat
  accountBalance : Nat

-- ---------------------------------------------------------------------------
-- Events
-- ---------------------------------------------------------------------------

structure EventData where
  hashLock : String
  payer : AccountId
  payee : AccountId
  token : AccountId
  amount : String
  status : String
  preimage : Option String
deriving DecidableEq

structure LogEvent where
  standard : String
  version : String
  event : String
  data : List EventData
deriving DecidableEq

def logEvent (kind hashLock : String) (lock : Lock) : LogEvent where
  standard := "near-htlc"
  version := "1.0.0"
  event := kind
  data := [{
    hashLock := hashLock
    payer := lock.payer
    payee := lock.payee
    token := lock.token
    amount := toString lock.amount
    status := lock.status.asStr
    preimage := if lock.revealed then some (hexEncode lock.preimage.bytes) else none }]

-- ---------------------------------------------------------------------------
-- Promises
-- ---------------------------------------------------------------------------

/-- An `ft_transfer` on `token` with `on_transfer_complete(hash_lock, payer, exit)`
as its callback. -/
structure Promise where
  token : AccountId
  receiverId : AccountId
  amount : Nat
  hashLock : String
  payer : AccountId
  exit : Exit
deriving DecidableEq

-- ---------------------------------------------------------------------------
-- Methods
-- ---------------------------------------------------------------------------

def Contract.new (usdcToken : AccountId) : Contract where
  locks := fun _ => none
  usdcToken := usdcToken

def Contract.getLock (self : Contract) (hashLock : String) (payer : AccountId) :
    Option LockView :=
  (self.locks (lockKey payer hashLock)).map LockView.ofLock

def Contract.insert (self : Contract) (key : String) (lock : Lock) : Contract :=
  { self with locks := Function.update self.locks key (some lock) }

def Contract.remove (self : Contract) (key : String) : Contract :=
  { self with locks := Function.update self.locks key none }

def Contract.claim (host : Host) (ctx : Ctx) (self : Contract) (hashLock : String)
    (payer : AccountId) (preimage : String) : Except String (Contract × LogEvent × Promise) :=
  let key := lockKey payer hashLock
  match self.locks key with
  | none => .error "No lock for this hash"
  | some lock =>
    if lock.status ≠ .locked then .error "Lock is not claimable"
    -- F4: a revealed lock may be claimed again past its window
    else if ¬ (ctx.blockTimestampMs < lock.refundAfterMs ∨ lock.revealed = true) then
      .error "Refund window has opened"
    else
      match decodeHex preimage with
      | none => .error "Preimage is not valid hex"
      | some preimageBytes =>
        if hlen : preimageBytes.length = 32 then
          if hexEncode (host.sha256 preimageBytes) ≠ hashLock then
            .error "Preimage does not match hash lock"
          else
            let lock := { lock with
              status := .claiming, preimage := ⟨preimageBytes, hlen⟩, revealed := true }
            .ok (self.insert key lock, logEvent "claiming" hashLock lock,
              { token := lock.token, receiverId := lock.payee, amount := lock.amount,
                hashLock := hashLock, payer := payer, exit := .claim })
        else .error "Preimage must be 32 bytes"

def Contract.refund (ctx : Ctx) (self : Contract) (hashLock : String) :
    Except String (Contract × LogEvent × Promise) :=
  let payer := ctx.predecessorAccountId
  let key := lockKey payer hashLock
  match self.locks key with
  | none => .error "No lock for this hash"
  | some lock =>
    if payer ≠ lock.payer then .error "Only the payer can refund"
    else if lock.status ≠ .locked then .error "Lock is not refundable"
    -- F4: once the preimage is out, the lock belongs to the payee
    else if lock.revealed = true then
      .error "Lock already claimed (preimage revealed); refund is refused"
    else if ¬ lock.refundAfterMs ≤ ctx.blockTimestampMs then
      .error "Refund window has not opened"
    else
      let lock := { lock with status := .refunding }
      .ok (self.insert key lock, logEvent "refunding" hashLock lock,
        { token := lock.token, receiverId := lock.payer, amount := lock.amount,
          hashLock := hashLock, payer := payer, exit := .refund })

/-- The status a resolved transfer leaves its lock in. -/
def resolvedStatus : Exit → Bool → LockStatus
  | .claim, true => .claimed
  | .claim, false => .locked
  | .refund, true => .refunded
  | .refund, false => .locked

/-- The event kind a resolved transfer is logged as. -/
def resolvedKind (exit : Exit) (ok : Bool) : String :=
  if ok then
    match exit with
    | .claim => "claimed"
    | .refund => "refunded"
  else "transfer_failed"

def Contract.onTransferComplete (self : Contract) (hashLock : String) (payer : AccountId)
    (exit : Exit) (ok : Bool) : Except String (Contract × LogEvent) :=
  let key := lockKey payer hashLock
  match self.locks key with
  | none => .error "No lock for this hash"
  | some lock =>
    let lock := { lock with status := resolvedStatus exit ok }
    .ok (self.insert key lock, logEvent (resolvedKind exit ok) hashLock lock)

/-- `NearToken::from_millinear(50)`, in yoctoNEAR. -/
def storageReserve : Nat := 50 * 10 ^ 21

/-- Saturation of a `u128` amount. -/
def saturate128 (n : Nat) : Nat := min n (2 ^ 128 - 1)

/-- Never panics: the last component is the amount the token has to give
back, the whole of it on every refusal. -/
def Contract.ftOnTransfer (host : Host) (ctx : Ctx) (self : Contract) (senderId : AccountId)
    (amount : Nat) (msg : String) : Contract × Option LogEvent × Nat :=
  let refuseAll := (self, none, amount)
  if amount = 0 then refuseAll
  -- F3: only the configured token's own transfer may create a lock
  else if ctx.predecessorAccountId ≠ self.usdcToken then refuseAll
  else
    match host.parseLockMsg msg with
    | none => refuseAll
    | some parsed =>
      if !isValidHashHex parsed.hashLock then refuseAll
      else
        match host.parseAccountId parsed.payee with
        | none => refuseAll
        | some payee =>
          -- H5: a payee that could never receive a payout
          if payee = host.currentAccountId ∨ payee = self.usdcToken then refuseAll
          else
            match parseU64Strict parsed.claimByMs with
            | none => refuseAll
            | some claimByMs =>
              match parseU64Strict parsed.refundAfterMs with
              | none => refuseAll
              | some refundAfterMs =>
                if refundAfterMs ≤ claimByMs then refuseAll
                else if refundAfterMs ≤ ctx.blockTimestampMs then refuseAll
                else
                  let key := lockKey senderId parsed.hashLock
                  if (self.locks key).isSome then refuseAll
                  else
                    let lock : Lock :=
                      { payer := senderId, payee := payee, token := ctx.predecessorAccountId,
                        amount := amount, claimByMs := claimByMs, refundAfterMs := refundAfterMs,
                        status := .locked, preimage := .zero, revealed := false }
                    let inserted := self.insert key lock
                    -- F2: the balance must still cover the storage of the lock
                    let required := saturate128
                      (saturate128 (host.storageByteCost * ctx.storageUsage) + storageReserve)
                    if ctx.accountBalance < required then (inserted.remove key, none, amount)
                    else (inserted, some (logEvent "locked" parsed.hashLock lock), 0)

-- ---------------------------------------------------------------------------
-- What a method does when it succeeds
-- ---------------------------------------------------------------------------

/-- Taking back an insertion under a free key restores the contract. -/
theorem Contract.remove_insert {self : Contract} {key : String} (h : self.locks key = none)
    (lock : Lock) : (self.insert key lock).remove key = self := by
  cases self
  simp only [insert, remove, Function.update_idem, mk.injEq, and_true]
  rw [← h, Function.update_eq_self]

theorem claim_spec {host : Host} {ctx : Ctx} {self self' : Contract} {hashLock : String}
    {payer : AccountId} {preimage : String} {event : LogEvent} {promise : Promise}
    (h : self.claim host ctx hashLock payer preimage = .ok (self', event, promise)) :
    ∃ lock, ∃ secret : Bytes32,
      self.locks (lockKey payer hashLock) = some lock ∧ lock.status = .locked ∧
      (ctx.blockTimestampMs < lock.refundAfterMs ∨ lock.revealed = true) ∧
      decodeHex preimage = some secret.bytes ∧
      hexEncode (host.sha256 secret.bytes) = hashLock ∧
      self' = self.insert (lockKey payer hashLock)
        { lock with status := .claiming, preimage := secret, revealed := true } ∧
      promise = { token := lock.token, receiverId := lock.payee, amount := lock.amount,
                  hashLock := hashLock, payer := payer, exit := .claim } := by
  unfold Contract.claim at h
  dsimp only at h
  split at h
  · cases h
  rename_i lock hlock
  split_ifs at h with hstatus hwindow
  split at h
  · cases h
  rename_i bytes hbytes
  split_ifs at h with hlen hhash
  obtain ⟨rfl, -, rfl⟩ := by simpa using h
  exact ⟨lock, ⟨bytes, hlen⟩, hlock, not_not.mp hstatus, hwindow, hbytes,
    not_not.mp hhash, rfl, rfl⟩

theorem refund_spec {ctx : Ctx} {self self' : Contract} {hashLock : String} {event : LogEvent}
    {promise : Promise} (h : self.refund ctx hashLock = .ok (self', event, promise)) :
    ∃ lock,
      self.locks (lockKey ctx.predecessorAccountId hashLock) = some lock ∧
      ctx.predecessorAccountId = lock.payer ∧ lock.status = .locked ∧ lock.revealed = false ∧
      lock.refundAfterMs ≤ ctx.blockTimestampMs ∧
      self' = self.insert (lockKey ctx.predecessorAccountId hashLock)
        { lock with status := .refunding } ∧
      promise = { token := lock.token, receiverId := lock.payer, amount := lock.amount,
                  hashLock := hashLock, payer := ctx.predecessorAccountId, exit := .refund } := by
  unfold Contract.refund at h
  dsimp only at h
  split at h
  · cases h
  rename_i lock hlock
  split_ifs at h with hpayer hstatus hrevealed hwindow
  obtain ⟨rfl, -, rfl⟩ := by simpa using h
  exact ⟨lock, hlock, not_not.mp hpayer, not_not.mp hstatus, by simpa using hrevealed,
    hwindow, rfl, rfl⟩

/-- A transfer is refused, which leaves the contract alone and returns the
whole amount, or opens a lock where there was none. -/
theorem ftOnTransfer_spec (host : Host) (ctx : Ctx) (self : Contract) (senderId : AccountId)
    (amount : Nat) (msg : String) :
    self.ftOnTransfer host ctx senderId amount msg = (self, none, amount) ∨
    ∃ parsed lock,
      host.parseLockMsg msg = some parsed ∧ ctx.predecessorAccountId = self.usdcToken ∧
      self.locks (lockKey senderId parsed.hashLock) = none ∧
      lock.payer = senderId ∧ lock.token = self.usdcToken ∧ lock.amount = amount ∧
      lock.status = .locked ∧ lock.revealed = false ∧
      ctx.blockTimestampMs < lock.refundAfterMs ∧
      self.ftOnTransfer host ctx senderId amount msg =
        (self.insert (lockKey senderId parsed.hashLock) lock,
          some (logEvent "locked" parsed.hashLock lock), 0) := by
  unfold Contract.ftOnTransfer
  dsimp only
  -- every refusal gives the whole amount back, so each check is passed on the right
  split
  · exact .inl rfl
  split
  · exact .inl rfl
  rename_i htoken
  split
  · exact .inl rfl
  rename_i parsed hparsed
  split
  · exact .inl rfl
  split
  · exact .inl rfl
  rename_i payee _
  split
  · exact .inl rfl
  split
  · exact .inl rfl
  rename_i claimByMs _
  split
  · exact .inl rfl
  rename_i refundAfterMs _
  split
  · exact .inl rfl
  split
  · exact .inl rfl
  rename_i hwindow
  split
  · exact .inl rfl
  rename_i hdup
  rw [Bool.not_eq_true, Option.isSome_eq_false_iff, Option.isNone_iff_eq_none] at hdup
  -- the last one is made after the row is stored, and removes it again
  split
  · exact .inl (by rw [Contract.remove_insert hdup])
  · have hpred := not_not.mp htoken
    exact .inr ⟨parsed, _, hparsed, hpred, hdup, rfl, hpred, rfl, rfl, rfl, not_le.mp hwindow, rfl⟩

theorem onTransferComplete_spec {self : Contract} {hashLock : String} {payer : AccountId}
    {lock : Lock} (h : self.locks (lockKey payer hashLock) = some lock) (exit : Exit) (ok : Bool) :
    self.onTransferComplete hashLock payer exit ok =
      .ok (self.insert (lockKey payer hashLock) { lock with status := resolvedStatus exit ok },
        logEvent (resolvedKind exit ok) hashLock
          { lock with status := resolvedStatus exit ok }) := by
  simp [Contract.onTransferComplete, h]

-- ---------------------------------------------------------------------------
-- What a method leaves alone
-- ---------------------------------------------------------------------------

/-- Two locks lie under different keys. -/
def OtherLock (payer payer' : AccountId) (hashLock hashLock' : String) : Prop :=
  ¬ (payer = payer' ∧ hashLock = hashLock')

theorem Contract.insert_other {payer payer' : AccountId} {hashLock hashLock' : String}
    (h : OtherLock payer payer' hashLock hashLock') (self : Contract) (lock : Lock) :
    (self.insert (lockKey payer' hashLock') lock).locks (lockKey payer hashLock) =
      self.locks (lockKey payer hashLock) :=
  Function.update_of_ne (fun heq => h (lockKey_inj.mp heq)) _ _

/-- Every method stores under the payer and the hash lock it is about, and
leaves all other locks as they are. -/
structure Contract.Frame (host : Host) (self : Contract) (payer : AccountId) (hashLock : String) :
    Prop where
  claim : ∀ {ctx payer' hashLock' preimage self' event promise},
    OtherLock payer payer' hashLock hashLock' →
    self.claim host ctx hashLock' payer' preimage = .ok (self', event, promise) →
    self'.locks (lockKey payer hashLock) = self.locks (lockKey payer hashLock)
  refund : ∀ {ctx hashLock' self' event promise},
    OtherLock payer ctx.predecessorAccountId hashLock hashLock' →
    self.refund ctx hashLock' = .ok (self', event, promise) →
    self'.locks (lockKey payer hashLock) = self.locks (lockKey payer hashLock)
  onTransferComplete : ∀ {payer' hashLock' exit ok self' event},
    OtherLock payer payer' hashLock hashLock' →
    self.onTransferComplete hashLock' payer' exit ok = .ok (self', event) →
    self'.locks (lockKey payer hashLock) = self.locks (lockKey payer hashLock)
  ftOnTransfer : ∀ {ctx senderId amount msg},
    (∀ parsed, host.parseLockMsg msg = some parsed →
      OtherLock payer senderId hashLock parsed.hashLock) →
    (self.ftOnTransfer host ctx senderId amount msg).1.locks (lockKey payer hashLock) =
      self.locks (lockKey payer hashLock)

theorem Contract.frame (host : Host) (self : Contract) (payer : AccountId) (hashLock : String) :
    self.Frame host payer hashLock := by
  refine ⟨fun hother h => ?_, fun hother h => ?_, fun {payer' hashLock' exit ok _ _} hother h => ?_,
    fun {ctx senderId amount msg} hother => ?_⟩
  · obtain ⟨lock, secret, -, -, -, -, -, rfl, -⟩ := claim_spec h
    exact insert_other hother _ _
  · obtain ⟨lock, -, -, -, -, -, rfl, -⟩ := refund_spec h
    exact insert_other hother _ _
  · rcases hlock : self.locks (lockKey payer' hashLock') with _ | lock
    · simp [onTransferComplete, hlock] at h
    · rw [onTransferComplete_spec hlock] at h
      obtain ⟨rfl, -⟩ := Prod.mk.inj (Except.ok.inj h)
      exact insert_other hother _ _
  · rcases ftOnTransfer_spec host ctx self senderId amount msg with
      heq | ⟨parsed, lock, hparsed, -, -, -, -, -, -, -, -, heq⟩
    · rw [heq]
    · rw [heq]
      exact insert_other (hother parsed hparsed) _ _

-- ---------------------------------------------------------------------------
-- Views and events
-- ---------------------------------------------------------------------------

/-- The view of a lock shows a preimage exactly when it is revealed, and what
it shows decodes to the stored bytes. -/
theorem LockView.preimage_ofLock {l : Lock} {text : String}
    (h : (LockView.ofLock l).preimage = some text) :
    l.revealed = true ∧ decodeHex text = some l.preimage.bytes := by
  simp only [LockView.ofLock] at h
  split_ifs at h with hrev
  obtain rfl := Option.some.inj h
  exact ⟨hrev, decodeHex_hexEncode _⟩

end SwapDesk.Near
